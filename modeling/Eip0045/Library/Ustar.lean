import Mathlib
import Eip0045.Library.Frames

/-! Headers of ustar archives: octal numbers, strings filled up with zeros, and the sum of all bytes. -/

namespace Eip0045.Ustar

open Bytes Checked

section Octal

/-- The digits of a number from the most significant on. -/
def octal : ℕ → ℕ → Bytes
  | 0, _ => []
  | w + 1, v => octal w (v / 8) ++ [UInt8.ofNat (48 + v % 8)]

def isOctalDigit (b : UInt8) : Bool := 48 ≤ b && b ≤ 55

/-- One more digit behind a machine word of 64 bits. -/
def octalStep (value : ℕ) (digit : UInt8) : Option ℕ :=
  if value * 8 + (digit.toNat - 48) < 2 ^ 64 then some (value * 8 + (digit.toNat - 48)) else none

@[simp] lemma octal_length (w v : ℕ) : (octal w v).length = w := by
  induction w generalizing v with
  | zero => rfl
  | succ w ih => simp [octal, ih]

lemma isOctalDigit_iff {b : UInt8} : isOctalDigit b ↔ 48 ≤ b.toNat ∧ b.toNat ≤ 55 := by
  simp [isOctalDigit, UInt8.le_iff_toNat_le]

lemma isOctalDigit_of_mem {w v : ℕ} {b : UInt8} (h : b ∈ octal w v) : isOctalDigit b := by
  induction w generalizing v with
  | zero => cases h
  | succ w ih =>
    rw [octal, List.mem_append, List.mem_singleton] at h
    obtain h | rfl := h
    · exact ih h
    · rw [isOctalDigit_iff, UInt8.toNat_ofNat']
      omega

lemma octalStep_iff {value v : ℕ} {digit : UInt8} (hdigit : isOctalDigit digit) :
    octalStep value digit = some v ↔ v < 2 ^ 64 ∧ v / 8 = value ∧ digit = UInt8.ofNat (48 + v % 8) := by
  rw [isOctalDigit_iff] at hdigit
  have hbyte : digit = UInt8.ofNat (48 + v % 8) ↔ digit.toNat = 48 + v % 8 := by
    rw [← UInt8.toNat_inj, UInt8.toNat_ofNat', Nat.mod_eq_of_lt (by omega)]
  rw [octalStep, hbyte]
  split_ifs with hlt
  · rw [Option.some.injEq]
    omega
  · simp only [false_iff]
    omega

lemma octalFold_iff {digits : Bytes} {v : ℕ} :
    (∀ digit ∈ digits, isOctalDigit digit) ∧ digits.foldlM octalStep 0 = some v ↔
      v < 2 ^ 64 ∧ v < 8 ^ digits.length ∧ digits = octal digits.length v := by
  induction digits using List.reverseRecOn generalizing v with
  | nil =>
    simp only [List.not_mem_nil, false_imp_iff, implies_true, true_and, List.foldlM_nil, List.length_nil, pow_zero,
      octal, and_true, Option.pure_def, Option.some.injEq]
    omega
  | append_singleton digits digit ih =>
    simp only [List.forall_mem_append, List.forall_mem_singleton, List.foldlM_append, List.foldlM_cons,
      List.foldlM_nil, Option.bind_eq_bind, Option.bind_eq_some_iff, Option.pure_def, List.length_append,
      List.length_singleton, octal, pow_succ, Option.some.injEq, exists_eq_right]
    constructor
    · intro h
      obtain ⟨⟨hdigits, hdigit⟩, value, hvalue, hstep⟩ := h
      obtain ⟨-, hbound, heq⟩ := ih.mp ⟨hdigits, hvalue⟩
      obtain ⟨hlt, rfl, hlast⟩ := (octalStep_iff hdigit).mp hstep
      exact ⟨hlt, by omega, by rw [← heq, ← hlast]⟩
    · intro h
      obtain ⟨hlt, hbound, heq⟩ := h
      obtain ⟨heq, hlast⟩ := List.append_inj heq (by simp)
      obtain ⟨hdigits, hvalue⟩ := (@ih (v / 8)).mpr ⟨by omega, by omega, heq⟩
      have hlast := List.singleton_inj.mp hlast
      have hdigit : isOctalDigit digit := by
        rw [hlast]
        exact isOctalDigit_of_mem (w := 1) (v := v) List.mem_cons_self
      exact ⟨⟨hdigits, hdigit⟩, v / 8, hvalue, (octalStep_iff hdigit).mpr ⟨hlt, rfl, hlast⟩⟩

def number (w v : ℕ) : Bytes := octal w v ++ [0]

@[simp] lemma number_length (w v : ℕ) : (number w v).length = w + 1 := by simp [number]

end Octal

section Strings

/-- A string in a field of fixed length, zeros behind it. -/
def padded (w : ℕ) (s : Bytes) : Bytes := s ++ List.replicate (w - s.length) 0

lemma padded_length {w : ℕ} {s : Bytes} (h : s.length ≤ w) : (padded w s).length = w := by
  rw [padded, List.length_append, List.length_replicate]
  omega

@[simp] lemma padded_nil (w : ℕ) : padded w [] = List.replicate w 0 := rfl

lemma padded_iff {field s : Bytes} :
    field.take (field.findIdx (· = 0)) = s ∧ (∀ b ∈ field.drop (field.findIdx (· = 0)), b = 0) ↔
      s.length ≤ field.length ∧ 0 ∉ s ∧ field = padded field.length s := by
  constructor
  · rintro ⟨rfl, hzeros⟩
    have hle : field.findIdx (· = 0) ≤ field.length := List.findIdx_le_length
    refine ⟨List.length_take_le' _ _, ?_, ?_⟩
    · intro hmem
      obtain ⟨i, hi, heq⟩ := List.getElem_of_mem hmem
      rw [List.length_take] at hi
      rw [List.getElem_take] at heq
      have hnot := List.not_of_lt_findIdx (show i < field.findIdx fun b => b = 0 by omega)
      simp [heq] at hnot
    · rw [padded, List.length_take, min_eq_left hle]
      nth_rewrite 1 [← List.take_append_drop (field.findIdx (· = 0)) field]
      rw [List.eq_replicate_iff.mpr ⟨List.length_drop, hzeros⟩]
  · intro h
    obtain ⟨hle, hfree, heq⟩ := h
    have hidx : field.findIdx (· = 0) = s.length := by
      have hnone : s.findIdx (· = 0) = s.length := List.findIdx_eq_length_of_false fun b hb =>
        decide_eq_false (ne_of_mem_of_not_mem hb hfree)
      rw [heq, padded, List.findIdx_append, hnone, if_neg (lt_irrefl _)]
      cases field.length - s.length with
      | zero => simp
      | succ n => simp [List.replicate_succ, List.findIdx_cons]
    rw [hidx, heq, padded, List.take_left, List.drop_left]
    exact ⟨rfl, fun b hb => (List.mem_replicate.mp hb).2⟩

end Strings

section Text

def isUtf8 (bytes : Bytes) : Bool := (⟨bytes.toArray⟩ : ByteArray).validateUTF8

lemma isUtf8_iff {bytes : Bytes} : isUtf8 bytes ↔ (⟨bytes.toArray⟩ : ByteArray).IsValidUTF8 :=
  ByteArray.validateUTF8_eq_true_iff

lemma isUtf8_nil : isUtf8 [] := isUtf8_iff.mpr ByteArray.isValidUTF8_empty

lemma byteArray_append (p n : Bytes) : (⟨(p ++ n).toArray⟩ : ByteArray) = ⟨p.toArray⟩ ++ ⟨n.toArray⟩ := by
  apply ByteArray.ext
  simp

lemma byteArray_slash : (⟨#[47]⟩ : ByteArray) = ['/'].utf8Encode := by decide

lemma isUtf8_slash {p n : Bytes} : isUtf8 (p ++ 47 :: n) ↔ isUtf8 p ∧ isUtf8 n := by
  rw [isUtf8_iff, isUtf8_iff, isUtf8_iff]
  have htail : (⟨(47 :: n).toArray⟩ : ByteArray) = ['/'].utf8Encode ++ ⟨n.toArray⟩ := by
    rw [← byteArray_slash]
    exact byteArray_append [47] n
  constructor
  · intro h
    let s : String := ⟨_, h⟩
    have hbytes : s.toByteArray = ⟨p.toArray⟩ ++ ⟨(47 :: n).toArray⟩ := byteArray_append p (47 :: n)
    have hsize : (⟨p.toArray⟩ : ByteArray).size = p.length := rfl
    have hlt : p.length < (p ++ 47 :: n).length := by simp
    have hend : s.utf8ByteSize = p.length + (47 :: n).length := by
      rw [← String.size_toByteArray, hbytes, ByteArray.size_append]
      rfl
    have hvalid : String.Pos.Raw.IsValid s ⟨p.length⟩ := by
      rw [String.Pos.Raw.isValid_iff_isUTF8FirstByte]
      have hbefore : (⟨p.length⟩ : String.Pos.Raw) < s.rawEndPos := by
        rw [String.Pos.Raw.lt_iff, String.byteIdx_rawEndPos, hend, List.length_cons]
        exact Nat.lt_add_of_pos_right (Nat.succ_pos _)
      have hbyte : s.getUTF8Byte ⟨p.length⟩ hbefore = 47 := by
        change (p ++ 47 :: n)[p.length] = 47
        simp
      refine Or.inr ⟨hbefore, ?_⟩
      rw [hbyte]
      decide
    have hp := hvalid.isValidUTF8_extract_zero
    have hn := hvalid.isValidUTF8_extract_utf8ByteSize
    rw [hbytes] at hp hn
    rw [ByteArray.extract_append_eq_left hsize] at hp
    rw [ByteArray.extract_append_eq_right hsize hend] at hn
    refine ⟨hp, ?_⟩
    rw [htail] at hn
    exact ByteArray.isValidUTF8_utf8Encode_singleton_append_iff.mp hn
  · intro h
    rw [byteArray_append, htail]
    exact h.1.append (ByteArray.isValidUTF8_utf8Encode.append h.2)

end Text

section Sums

/-- The sum of the bytes, blanks in the place of the field that holds it. -/
def checksum (header : Bytes) : ℕ := ((overwrite header 148 (List.replicate 8 32)).map UInt8.toNat).sum

lemma checksum_eq {front field back : Bytes} (hfront : front.length = 148) (hfield : field.length = 8) :
    checksum (front ++ field ++ back) = ((front ++ List.replicate 8 32 ++ back).map UInt8.toNat).sum := by
  have hplace : 148 + (List.replicate 8 (32 : UInt8)).length = (front ++ field).length := by
    rw [List.length_append, hfront, hfield, List.length_replicate]
  rw [checksum, overwrite, hplace, List.drop_left, List.append_assoc front, ← hfront, List.take_left]

lemma sum_bytes_le (b : Bytes) : (b.map UInt8.toNat).sum ≤ b.length * 255 := by
  induction b with
  | nil => rfl
  | cons x b ih =>
    have hx := x.toNat_lt
    simp only [List.map_cons, List.sum_cons, List.length_cons]
    omega

end Sums

section Headers

structure Header where
  name : Bytes
  mode : ℕ
  uid : ℕ
  gid : ℕ
  size : ℕ
  mtime : ℕ
  typeflag : UInt8
  linkname : Bytes
  uname : Bytes
  gname : Bytes
  devMajor : ℕ
  devMinor : ℕ
  namePrefix : Bytes

namespace Header

variable (h : Header)

/-- `ustar\0` and the version `00`. -/
def magic : Bytes := utf8 "ustar" ++ [0] ++ utf8 "00"

def front : Bytes :=
  padded 100 h.name ++ number 7 h.mode ++ number 7 h.uid ++ number 7 h.gid ++ number 11 h.size ++ number 11 h.mtime

def back : Bytes :=
  h.typeflag :: (padded 100 h.linkname ++ magic ++ padded 32 h.uname ++ padded 32 h.gname ++ number 7 h.devMajor ++
    number 7 h.devMinor ++ padded 155 h.namePrefix ++ List.replicate 12 0)

def sum : ℕ := ((h.front ++ List.replicate 8 32 ++ h.back).map UInt8.toNat).sum

def encode : Bytes := h.front ++ (octal 6 h.sum ++ [0, 32]) ++ h.back

structure Fits : Prop where
  name : h.name.length ≤ 100
  linkname : h.linkname.length ≤ 100
  uname : h.uname.length ≤ 32
  gname : h.gname.length ≤ 32
  namePrefix : h.namePrefix.length ≤ 155

structure LiesIn (b sum : Bytes) : Prop where
  name : slice b 0 100 = padded 100 h.name
  mode : slice b 100 8 = number 7 h.mode
  uid : slice b 108 8 = number 7 h.uid
  gid : slice b 116 8 = number 7 h.gid
  size : slice b 124 12 = number 11 h.size
  mtime : slice b 136 12 = number 11 h.mtime
  checksum : slice b 148 8 = sum
  typeflag : slice b 156 1 = [h.typeflag]
  linkname : slice b 157 100 = padded 100 h.linkname
  magic : slice b 257 8 = magic
  uname : slice b 265 32 = padded 32 h.uname
  gname : slice b 297 32 = padded 32 h.gname
  devMajor : slice b 329 8 = number 7 h.devMajor
  devMinor : slice b 337 8 = number 7 h.devMinor
  namePrefix : slice b 345 155 = padded 155 h.namePrefix
  reserved : slice b 500 12 = List.replicate 12 0

variable {h}

lemma magic_length : magic.length = 8 := by decide

lemma front_length (hfits : h.Fits) : h.front.length = 148 := by
  simp [front, padded_length hfits.name]

lemma back_length (hfits : h.Fits) : h.back.length = 356 := by
  simp [back, padded_length hfits.linkname, padded_length hfits.uname, padded_length hfits.gname,
    padded_length hfits.namePrefix, magic_length]

lemma encode_length (hfits : h.Fits) : h.encode.length = 512 := by
  simp [encode, front_length hfits, back_length hfits]

lemma encode_nonzero : ¬∀ b ∈ h.encode, b = 0 := by
  have hmagic : (117 : UInt8) ∈ magic := by decide
  have hmem : (117 : UInt8) ∈ h.encode := by simp [encode, back, hmagic]
  intro hzeros
  cases hzeros 117 hmem

lemma checksum_encode (hfits : h.Fits) : checksum h.encode = h.sum :=
  checksum_eq (front_length hfits) (by simp)

lemma slice_of_initial {b v : Bytes} {i n : ℕ} (hlength : v.length = n) (h : v <+: b.drop i) : slice b i n = v := by
  rw [← hlength]
  exact (List.prefix_iff_eq_take.mp h).symm

lemma prefix_of_slice {b v : Bytes} {i n : ℕ} (h : slice b i n = v) : v <+: b.drop i :=
  h ▸ List.take_prefix n (b.drop i)

lemma eq_iff_initial {b v : Bytes} (hlength : b.length = v.length) : b = v ↔ v <+: b := by
  constructor
  · rintro rfl
    exact List.prefix_refl _
  · intro hstart
    exact (hstart.eq_of_length hlength.symm).symm

lemma liesIn_iff {b sum : Bytes} (hfits : h.Fits) (hsum : sum.length = 8) (hlength : b.length = 512) :
    b = h.front ++ sum ++ h.back ↔ h.LiesIn b sum := by
  have hwhole : b.length = (h.front ++ sum ++ h.back).length := by
    simp [hlength, hsum, front_length hfits, back_length hfits]
  rw [eq_iff_initial hwhole, front, back, ← List.singleton_append]
  simp only [Reading.append_prefix_iff, List.length_append, List.drop_drop, number_length, List.length_singleton,
    padded_length hfits.name, padded_length hfits.linkname, padded_length hfits.uname, padded_length hfits.gname,
    padded_length hfits.namePrefix, magic_length, hsum]
  simp only [and_assoc, Nat.reduceAdd]
  constructor
  · intro hparts
    obtain ⟨hname, hmode, huid, hgid, hsize, hmtime, hfield, htypeflag, hlinkname, hmagic, huname, hgname, hmajor,
      hminor, hstart, hreserved⟩ := hparts
    exact ⟨slice_of_initial (padded_length hfits.name) hname, slice_of_initial rfl hmode, slice_of_initial rfl huid,
      slice_of_initial rfl hgid, slice_of_initial rfl hsize, slice_of_initial rfl hmtime, slice_of_initial hsum hfield,
      slice_of_initial rfl htypeflag, slice_of_initial (padded_length hfits.linkname) hlinkname,
      slice_of_initial magic_length hmagic, slice_of_initial (padded_length hfits.uname) huname,
      slice_of_initial (padded_length hfits.gname) hgname, slice_of_initial rfl hmajor, slice_of_initial rfl hminor,
      slice_of_initial (padded_length hfits.namePrefix) hstart, slice_of_initial rfl hreserved⟩
  · intro hlies
    exact ⟨prefix_of_slice hlies.name, prefix_of_slice hlies.mode, prefix_of_slice hlies.uid,
      prefix_of_slice hlies.gid, prefix_of_slice hlies.size, prefix_of_slice hlies.mtime,
      prefix_of_slice hlies.checksum, prefix_of_slice hlies.typeflag, prefix_of_slice hlies.linkname,
      prefix_of_slice hlies.magic, prefix_of_slice hlies.uname, prefix_of_slice hlies.gname,
      prefix_of_slice hlies.devMajor, prefix_of_slice hlies.devMinor, prefix_of_slice hlies.namePrefix,
      prefix_of_slice hlies.reserved⟩

lemma encode_iff {b : Bytes} (hfits : h.Fits) (hlength : b.length = 512) :
    b = h.encode ↔ h.LiesIn b (octal 6 (checksum b) ++ [0, 32]) := by
  constructor
  · rintro rfl
    rw [checksum_encode hfits]
    exact (liesIn_iff hfits (by simp) hlength).mp rfl
  · intro hlies
    have heq := (liesIn_iff hfits (by simp) hlength).mpr hlies
    have hsum : checksum b = h.sum := by
      rw [heq, checksum_eq (front_length hfits) (by simp)]
      rfl
    rw [hsum] at heq
    exact heq

end Header

end Headers

end Eip0045.Ustar
