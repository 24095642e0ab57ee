import Mathlib

/-! Byte strings and the fixed-width numbers they hold. -/

namespace Eip0045

abbrev Bytes := List UInt8

instance instLawfulBEqBytes : LawfulBEq Bytes := List.instLawfulBEq

namespace Bytes

def utf8 (s : String) : Bytes := s.toUTF8.data.toList

def text (b : Bytes) : String := (String.fromUTF8? ⟨b.toArray⟩).getD ""

def leBytes : ℕ → ℕ → Bytes
  | 0, _ => []
  | w + 1, v => UInt8.ofNat v :: leBytes w (v / 256)

def leValue : Bytes → ℕ
  | [] => 0
  | b :: bs => b.toNat + 256 * leValue bs

def beBytes (w v : ℕ) : Bytes := (leBytes w v).reverse

@[simp] lemma leBytes_length (w v : ℕ) : (leBytes w v).length = w := by
  induction w generalizing v with
  | zero => rfl
  | succ w ih => simp [leBytes, ih]

@[simp] lemma beBytes_length (w v : ℕ) : (beBytes w v).length = w := by simp [beBytes]

lemma leValue_lt (bs : Bytes) : leValue bs < 256 ^ bs.length := by
  induction bs with
  | nil => simp [leValue]
  | cons b bs ih =>
    have hb := b.toNat_lt
    simp only [leValue, List.length_cons, pow_succ]
    omega

lemma leValue_leBytes {w v : ℕ} (h : v < 256 ^ w) : leValue (leBytes w v) = v := by
  induction w generalizing v with
  | zero => simp only [pow_zero, Nat.lt_one_iff] at h; simp [leBytes, leValue, h]
  | succ w ih =>
    have hd : v / 256 < 256 ^ w := by rw [pow_succ] at h; omega
    simp only [leBytes, leValue, ih hd, UInt8.toNat_ofNat']
    omega

lemma leBytes_leValue (bs : Bytes) : leBytes bs.length (leValue bs) = bs := by
  induction bs with
  | nil => rfl
  | cons b bs ih =>
    have hb := b.toNat_lt
    have hd : (b.toNat + 256 * leValue bs) / 256 = leValue bs := by omega
    have hm : UInt8.ofNat (b.toNat + 256 * leValue bs) = b := by
      apply UInt8.toNat_inj.mp
      rw [UInt8.toNat_ofNat']
      omega
    simp only [List.length_cons, leBytes, leValue, hd, ih, hm]

lemma leBytes_injective {w u v : ℕ} (hu : u < 256 ^ w) (hv : v < 256 ^ w)
    (h : leBytes w u = leBytes w v) : u = v := by
  rw [← leValue_leBytes hu, h, leValue_leBytes hv]

def le16 (v : UInt16) : Bytes := leBytes 2 v.toNat
def le32 (v : UInt32) : Bytes := leBytes 4 v.toNat
def le64 (v : UInt64) : Bytes := leBytes 8 v.toNat
def ofLe16 (bs : Bytes) : UInt16 := UInt16.ofNat (leValue bs)
def ofLe32 (bs : Bytes) : UInt32 := UInt32.ofNat (leValue bs)
def ofLe64 (bs : Bytes) : UInt64 := UInt64.ofNat (leValue bs)

@[simp] lemma le16_length (v : UInt16) : (le16 v).length = 2 := leBytes_length _ _
@[simp] lemma le32_length (v : UInt32) : (le32 v).length = 4 := leBytes_length _ _
@[simp] lemma le64_length (v : UInt64) : (le64 v).length = 8 := leBytes_length _ _

@[simp] lemma ofLe16_le16 (v : UInt16) : ofLe16 (le16 v) = v := by
  have h : v.toNat < 256 ^ 2 := v.toNat_lt
  simp [ofLe16, le16, leValue_leBytes h]

@[simp] lemma ofLe32_le32 (v : UInt32) : ofLe32 (le32 v) = v := by
  have h : v.toNat < 256 ^ 4 := v.toNat_lt
  simp [ofLe32, le32, leValue_leBytes h]

@[simp] lemma ofLe64_le64 (v : UInt64) : ofLe64 (le64 v) = v := by
  have h : v.toNat < 256 ^ 8 := v.toNat_lt
  simp [ofLe64, le64, leValue_leBytes h]

lemma ofLe16_toNat {bs : Bytes} (h : bs.length = 2) : (ofLe16 bs).toNat = leValue bs := by
  have hv := leValue_lt bs
  rw [h] at hv
  simp only [ofLe16, UInt16.toNat_ofNat']
  omega

lemma ofLe32_toNat {bs : Bytes} (h : bs.length = 4) : (ofLe32 bs).toNat = leValue bs := by
  have hv := leValue_lt bs
  rw [h] at hv
  simp only [ofLe32, UInt32.toNat_ofNat']
  omega

lemma ofLe64_toNat {bs : Bytes} (h : bs.length = 8) : (ofLe64 bs).toNat = leValue bs := by
  have hv := leValue_lt bs
  rw [h] at hv
  simp only [ofLe64, UInt64.toNat_ofNat']
  omega

lemma le16_ofLe16 {bs : Bytes} (h : bs.length = 2) : le16 (ofLe16 bs) = bs := by
  rw [le16, ofLe16_toNat h, ← h, leBytes_leValue]

lemma le32_ofLe32 {bs : Bytes} (h : bs.length = 4) : le32 (ofLe32 bs) = bs := by
  rw [le32, ofLe32_toNat h, ← h, leBytes_leValue]

lemma le64_ofLe64 {bs : Bytes} (h : bs.length = 8) : le64 (ofLe64 bs) = bs := by
  rw [le64, ofLe64_toNat h, ← h, leBytes_leValue]

lemma le16_injective : Function.Injective le16 :=
  Function.LeftInverse.injective ofLe16_le16

lemma le32_injective : Function.Injective le32 :=
  Function.LeftInverse.injective ofLe32_le32

def slice (b : Bytes) (i n : ℕ) : Bytes := (b.drop i).take n

/-- `b.get(i..j)`. -/
def getRange (b : Bytes) (i j : ℕ) : Option Bytes :=
  if i ≤ j ∧ j ≤ b.length then some (slice b i (j - i)) else none

lemma getRange_eq_some {b v : Bytes} {i j : ℕ} :
    getRange b i j = some v ↔ i ≤ j ∧ j ≤ b.length ∧ slice b i (j - i) = v := by
  rw [getRange]
  split_ifs with h
  · simp [h]
  · simp only [false_iff]
    tauto

lemma slice_length {b : Bytes} {i n : ℕ} (h : i + n ≤ b.length) : (slice b i n).length = n := by
  rw [slice, List.length_take, List.length_drop]
  omega

lemma slice_append (b : Bytes) {i j m n : ℕ} (h : j = i + m) :
    slice b i m ++ slice b j n = slice b i (m + n) := by
  rw [h, slice, slice, slice, List.take_add, List.drop_drop]

lemma slice_one {b : Bytes} {i : ℕ} (h : i < b.length) : slice b i 1 = [b.getD i 0] := by
  rw [slice, List.drop_eq_getElem_cons h, List.take_succ_cons, List.take_zero,
    List.getD_eq_getElem _ _ h]

lemma slice_all (b : Bytes) : slice b 0 b.length = b := by simp [slice]

lemma slice_between (p v t : Bytes) : slice (p ++ v ++ t) p.length v.length = v := by
  rw [slice, List.append_assoc, List.drop_left, List.take_left]

lemma slice_initial {p b : Bytes} (h : p <+: b) : slice b 0 p.length = p :=
  (List.prefix_iff_eq_take.mp h).symm

lemma slice_records (b : Bytes) (s w k : ℕ) :
    (List.range k).flatMap (fun i => slice b (s + w * i) w) = slice b s (w * k) := by
  induction k with
  | zero => simp [slice]
  | succ k ih => rw [List.range_succ, List.flatMap_append, ih, List.flatMap_singleton,
      slice_append b rfl, Nat.mul_succ]

lemma flatMap_injective {α : Type} {w : ℕ} {u v : α → Bytes} (hu : ∀ a, (u a).length = w)
    (hv : ∀ a, (v a).length = w) {as : List α} (h : as.flatMap u = as.flatMap v) :
    ∀ a ∈ as, u a = v a := by
  induction as with
  | nil => exact fun _ ha => absurd ha List.not_mem_nil
  | cons a as ih =>
    rw [List.flatMap_cons, List.flatMap_cons] at h
    obtain ⟨ha, has⟩ := List.append_inj h (by rw [hu, hv])
    exact List.forall_mem_cons.mpr ⟨ha, ih has⟩

lemma flatMap_length {α : Type} {enc : α → Bytes} {w : ℕ} (hw : ∀ a, (enc a).length = w)
    (as : List α) : (as.flatMap enc).length = as.length * w := by
  rw [List.length_flatMap, List.map_congr_left fun a _ => hw a]
  simp

/-- `v` copied over the bytes from offset `i` on. -/
def overwrite (b : Bytes) (i : ℕ) (v : Bytes) : Bytes := b.take i ++ v ++ b.drop (i + v.length)

lemma overwrite_next (p v : Bytes) {n k : ℕ} (hn : n = v.length + k) :
    overwrite (p ++ List.replicate n 0) p.length v = p ++ v ++ List.replicate k 0 := by
  subst hn
  rw [overwrite, List.take_left, List.replicate_add, ← List.append_assoc]
  congr 1
  rw [List.drop_append_of_le_length (by simp), List.drop_eq_nil_of_le (by simp), List.nil_append]

end Bytes

/-- A byte array of a fixed length, as `[u8; n]`. -/
abbrev ByteArr (n : ℕ) := List.Vector UInt8 n

abbrev Digest := ByteArr 32

namespace ByteArr

variable {n : ℕ}

def ofBytes (n : ℕ) (bs : Bytes) : Option (ByteArr n) :=
  if h : bs.length = n then some ⟨bs, h⟩ else none

def zero (n : ℕ) : ByteArr n := List.Vector.replicate n 0

/-- The array at offset `i` of a buffer, zero past its end. -/
def atOffset (n : ℕ) (b : Bytes) (i : ℕ) : ByteArr n := List.Vector.ofFn fun j => b.getD (i + j) 0

lemma atOffset_val {b : Bytes} {i : ℕ} (h : i + n ≤ b.length) :
    (atOffset n b i).val = Bytes.slice b i n := by
  change (List.Vector.ofFn _).toList = _
  rw [List.Vector.toList_ofFn]
  apply List.ext_getElem
  · rw [List.length_ofFn, Bytes.slice_length h]
  · intro j hj hj'
    rw [List.length_ofFn] at hj
    rw [List.getElem_ofFn, List.getD_eq_getElem _ _ (by omega)]
    simp [Bytes.slice]

lemma ofBytes_of_length {bs : Bytes} (h : bs.length = n) : ofBytes n bs = some ⟨bs, h⟩ := dif_pos h

lemma ofBytes_eq_some {bs : Bytes} {a : ByteArr n} : ofBytes n bs = some a ↔ bs = a.val := by
  constructor
  · intro h
    by_cases hl : bs.length = n
    · rw [ofBytes_of_length hl] at h
      exact congrArg Subtype.val (Option.some.inj h)
    · simp [ofBytes, hl] at h
  · rintro rfl
    exact ofBytes_of_length a.2

@[simp] lemma ofBytes_val (a : ByteArr n) : ofBytes n a.val = some a := ofBytes_eq_some.mpr rfl

@[simp] lemma val_length (a : ByteArr n) : (a.val : Bytes).length = n := a.2

end ByteArr

end Eip0045
