import Mathlib
import Eip0045.Library.Bytes
import Eip0045.Library.Checked
import Eip0045.Library.Reader

/-! Byte strings framed by their lengths, what lies at a position that holds such a frame, and
encodings that show where they end. -/

namespace Eip0045.Frames

open Bytes Checked

/-- The payload after its length in four bytes. -/
def frame (payload : Bytes) : Bytes := le32 (UInt32.ofNat payload.length) ++ payload

lemma frame_length (payload : Bytes) : (frame payload).length = 4 + payload.length := by
  rw [frame, List.length_append, le32_length]

lemma slice_eq_iff {b v : Bytes} {i n : ℕ} (h : i + n ≤ b.length) :
    slice b i n = v ↔ v.length = n ∧ v <+: b.drop i := by
  constructor
  · rintro rfl
    exact ⟨slice_length h, List.take_prefix _ _⟩
  · rintro ⟨rfl, hinitial⟩
    exact (List.prefix_iff_eq_take.mp hinitial).symm

lemma getRange_iff {b v : Bytes} {i n : ℕ} (hi : i ≤ b.length) :
    getRange b i (i + n) = some v ↔ v.length = n ∧ v <+: b.drop i := by
  rw [getRange_eq_some, Nat.add_sub_cancel_left]
  constructor
  · rintro ⟨-, hle, hv⟩
    exact (slice_eq_iff hle).mp hv
  · rintro ⟨hlen, hinitial⟩
    have hle := hinitial.length_le
    rw [List.length_drop] at hle
    have hin : i + n ≤ b.length := by omega
    exact ⟨Nat.le_add_right i n, hin, (slice_eq_iff hin).mpr ⟨hlen, hinitial⟩⟩

lemma getInitial_iff {b v : Bytes} {n : ℕ} :
    getRange b 0 n = some v ↔ v.length = n ∧ v <+: b := by
  have h := getRange_iff (v := v) (n := n) (Nat.zero_le b.length)
  rwa [Nat.zero_add, List.drop_zero] at h

lemma getElem?_iff {b : Bytes} {x : UInt8} {i : ℕ} : b[i]? = some x ↔ [x] <+: b.drop i := by
  rw [← List.head?_drop]
  cases b.drop i with
  | nil => simp
  | cons y ys => simp [eq_comm]

lemma getElem?_pair_iff {b : Bytes} {low high : UInt8} {i : ℕ} :
    b[i]? = some low ∧ b[i + 1]? = some high ↔ [low, high] <+: b.drop i := by
  have h := Reading.append_prefix_iff (u := [low]) (v := [high]) (w := b.drop i)
  rw [List.drop_drop] at h
  rw [getElem?_iff, getElem?_iff]
  exact h.symm

lemma block_prefix {α : Type} {enc : α → Bytes} {w i : ℕ} {as : List α} {a : α} (hw : ∀ a ∈ as, (enc a).length = w)
    (h : as[i]? = some a) : enc a <+: (as.flatMap enc).drop (i * w) := by
  induction as generalizing i with
  | nil => cases h
  | cons b as ih =>
    obtain ⟨hb, has⟩ := List.forall_mem_cons.mp hw
    rw [List.flatMap_cons]
    cases i with
    | zero =>
      cases h
      rw [Nat.zero_mul, List.drop_zero]
      exact List.prefix_append _ _
    | succ i =>
      rw [Nat.succ_mul, Nat.add_comm, ← List.drop_drop, List.drop_left' hb]
      exact ih has h

section Sized

/-- The payload after its length in `w` bytes. -/
def sized (w : ℕ) (payload : Bytes) : Bytes := leBytes w payload.length ++ payload

lemma sized_length (w : ℕ) (payload : Bytes) : (sized w payload).length = w + payload.length := by
  rw [sized, List.length_append, leBytes_length]

lemma le16_ofNat {n : ℕ} (h : n < 2 ^ 16) : le16 (UInt16.ofNat n) = leBytes 2 n := by
  rw [le16, UInt16.toNat_ofNat', Nat.mod_eq_of_lt h]

lemma le32_ofNat {n : ℕ} (h : n < 2 ^ 32) : le32 (UInt32.ofNat n) = leBytes 4 n := by
  rw [le32, UInt32.toNat_ofNat', Nat.mod_eq_of_lt h]

lemma sized_iff {b lengthBytes payload : Bytes} {cursor w : ℕ} (hc : cursor ≤ b.length) :
    getRange b cursor (cursor + w) = some lengthBytes ∧
        getRange b (cursor + w) (cursor + w + leValue lengthBytes) = some payload ↔
      payload.length < 256 ^ w ∧ lengthBytes = leBytes w payload.length ∧
        sized w payload <+: b.drop cursor := by
  constructor
  · intro h
    obtain ⟨hlength, hpayload⟩ := h
    have hle : cursor + w ≤ b.length := (getRange_eq_some.mp hlength).2.1
    obtain ⟨hwidth, hinitial⟩ := (getRange_iff hc).mp hlength
    obtain ⟨hcount, hrest⟩ := (getRange_iff hle).mp hpayload
    have hlt := leValue_lt lengthBytes
    rw [hwidth, ← hcount] at hlt
    have hbytes : lengthBytes = leBytes w payload.length := by
      rw [hcount, ← hwidth, leBytes_leValue]
    refine ⟨hlt, hbytes, ?_⟩
    rw [sized, ← hbytes, Reading.append_prefix_iff, hwidth, List.drop_drop]
    exact ⟨hinitial, hrest⟩
  · intro h
    obtain ⟨hlt, rfl, hinitial⟩ := h
    rw [sized, Reading.append_prefix_iff, leBytes_length, List.drop_drop] at hinitial
    have hle := hinitial.1.length_le
    rw [leBytes_length, List.length_drop] at hle
    refine ⟨(getRange_iff hc).mpr ⟨leBytes_length _ _, hinitial.1⟩, ?_⟩
    by_cases hw : w = 0
    · subst hw
      have hempty : payload.length = 0 := Nat.lt_one_iff.mp hlt
      exact (getRange_iff hc).mpr ⟨by simpa [leBytes, leValue] using hempty, hinitial.2⟩
    · rw [leValue_leBytes hlt]
      exact (getRange_iff (by omega)).mpr ⟨rfl, hinitial.2⟩

lemma sized_cancel {w : ℕ} {u v s t : Bytes} (hu : u.length < 256 ^ w) (hv : v.length < 256 ^ w)
    (h : sized w u ++ s = sized w v ++ t) : u = v ∧ s = t := by
  rw [sized, sized, List.append_assoc, List.append_assoc] at h
  obtain ⟨hlength, hrest⟩ := List.append_inj h (by rw [leBytes_length, leBytes_length])
  exact List.append_inj hrest (leBytes_injective hu hv hlength)

end Sized

lemma frame_iff {b lengthBytes payload : Bytes} {cursor : ℕ} (hc : cursor ≤ b.length) :
    getRange b cursor (cursor + 4) = some lengthBytes ∧
        getRange b (cursor + 4) (cursor + 4 + (ofLe32 lengthBytes).toNat) = some payload ↔
      payload.length < 2 ^ 32 ∧ lengthBytes = le32 (UInt32.ofNat payload.length) ∧
        frame payload <+: b.drop cursor := by
  have hsized := @sized_iff b lengthBytes payload cursor 4 hc
  constructor
  · intro h
    obtain ⟨hlength, hpayload⟩ := h
    rw [ofLe32_toNat ((getRange_iff hc).mp hlength).1] at hpayload
    obtain ⟨hlt, hbytes, hinitial⟩ := hsized.mp ⟨hlength, hpayload⟩
    rw [frame, le32_ofNat hlt]
    exact ⟨hlt, hbytes, hinitial⟩
  · intro h
    obtain ⟨hlt, hbytes, hinitial⟩ := h
    rw [frame] at hinitial
    rw [le32_ofNat hlt] at hbytes hinitial
    obtain ⟨hlength, hpayload⟩ := hsized.mpr ⟨hlt, hbytes, hinitial⟩
    refine ⟨hlength, ?_⟩
    rwa [ofLe32_toNat ((getRange_iff hc).mp hlength).1]

lemma frames_cons {payload source : Bytes} {payloads : List Bytes} {cursor : ℕ} :
    (payload :: payloads).flatMap frame <+: source.drop cursor ↔
      frame payload <+: source.drop cursor ∧
        payloads.flatMap frame <+: source.drop (cursor + (frame payload).length) := by
  rw [List.flatMap_cons, Reading.append_prefix_iff, List.drop_drop]

section Reading

variable {ε α : Type}

/-- How the reading of a frame fails, past the end of the buffer or of the machine's words. -/
structure FrameErrors (ε : Type) where
  lengthOverflow : ε
  truncatedLength : ε
  lengthWidth : ε
  partOverflow : ε
  truncatedPart : ε

/-- The frame at a cursor, whose length is accepted before its payload is read; with the cursor
after it. -/
def readFrame (errors : FrameErrors ε) (accept : ℕ → Except ε α) (source : Bytes) (cursor : ℕ) :
    Except ε (Bytes × α × ℕ) := do
  let lengthEnd ← context errors.lengthOverflow (checkedAdd cursor 4)
  let lengthBytes ← context errors.truncatedLength (getRange source cursor lengthEnd)
  let lengthArray ← context errors.lengthWidth (ByteArr.ofBytes 4 lengthBytes)
  let length := (ofLe32 lengthArray.val).toNat
  let accepted ← accept length
  let partEnd ← context errors.partOverflow (checkedAdd lengthEnd length)
  let part ← context errors.truncatedPart (getRange source lengthEnd partEnd)
  pure (part, accepted, partEnd)

lemma readFrame_ok {errors : FrameErrors ε} {accept : ℕ → Except ε α} {source part : Bytes}
    {accepted : α} {cursor partEnd : ℕ} (hc : cursor ≤ source.length) :
    readFrame errors accept source cursor = .ok (part, accepted, partEnd) ↔
      part.length < 2 ^ 32 ∧ frame part <+: source.drop cursor ∧
        accept part.length = .ok accepted ∧ partEnd = cursor + (frame part).length ∧
          partEnd < 2 ^ 64 := by
  have hsize : ∀ n < 2 ^ 32, (UInt32.ofNat n).toNat = n := by
    intro n hn
    rw [UInt32.toNat_ofNat']
    exact Nat.mod_eq_of_lt hn
  simp only [readFrame, bind_ok, context_ok, checkedAdd_eq_some, pure_ok, ByteArr.ofBytes_eq_some,
    Prod.mk.injEq, frame_length]
  constructor
  · rintro ⟨_, ⟨-, rfl⟩, lengthBytes, hlength, lengthArray, rfl, a, ha, _, ⟨hlt, rfl⟩, payload, hpayload, rfl,
      rfl, rfl⟩
    obtain ⟨hshort, hbytes, hinitial⟩ := (frame_iff hc).mp ⟨hlength, hpayload⟩
    have hlen : (ofLe32 lengthArray.val).toNat = payload.length := by
      rw [hbytes, ofLe32_le32, hsize _ hshort]
    rw [hlen] at ha hlt
    refine ⟨hshort, hinitial, ha, ?_, ?_⟩ <;> omega
  · rintro ⟨hshort, hinitial, ha, rfl, hlt⟩
    obtain ⟨hlength, hpayload⟩ := (frame_iff hc).mpr ⟨hshort, rfl, hinitial⟩
    have hlen : (ofLe32 (le32 (UInt32.ofNat part.length))).toNat = part.length := by
      rw [ofLe32_le32, hsize _ hshort]
    refine ⟨_, ⟨by omega, rfl⟩, _, hlength, ⟨_, le32_length _⟩, rfl, accepted, ?_, _,
      ⟨?_, rfl⟩, part, hpayload, rfl, rfl, ?_⟩
    · rwa [hlen]
    · rw [hlen]
      omega
    · rw [hlen]
      omega

end Reading

section Runs

variable {ε σ : Type} (errors : ℕ → FrameErrors ε) (accept : ℕ → σ → ℕ → Except ε σ)
  (source : Bytes)

/-- So many frames one after the other, with what their lengths have been accepted to leave; the
cursor after the last comes with them. -/
def readFrames : ℕ → ℕ → σ → ℕ → Except ε (List Bytes × ℕ)
  | 0, _, _, cursor => pure ([], cursor)
  | count + 1, index, state, cursor => do
    let (part, next, partEnd) ← readFrame (errors index) (accept index state) source cursor
    let (parts, stop) ← readFrames count (index + 1) next partEnd
    pure (part :: parts, stop)

def Accepts : ℕ → σ → List Bytes → Prop
  | _, _, [] => True
  | index, state, part :: parts =>
    ∃ next, accept index state part.length = .ok next ∧ Accepts (index + 1) next parts

variable {errors accept source} {parts : List Bytes} {stop : ℕ}

lemma readFrames_succ {count index cursor : ℕ} {state : σ} :
    readFrames errors accept source (count + 1) index state cursor = .ok (parts, stop) ↔
      ∃ part next partEnd,
        readFrame (errors index) (accept index state) source cursor = .ok (part, next, partEnd) ∧
          ∃ others, readFrames errors accept source count (index + 1) next partEnd =
            .ok (others, stop) ∧ part :: others = parts := by
  simp only [readFrames, bind_ok, Prod.exists, pure_ok, Prod.mk.injEq]
  constructor
  · rintro ⟨part, next, partEnd, hpart, others, _, hrest, hparts, rfl⟩
    exact ⟨part, next, partEnd, hpart, others, hrest, hparts⟩
  · rintro ⟨part, next, partEnd, hpart, others, hrest, hparts⟩
    exact ⟨part, next, partEnd, hpart, others, stop, hrest, hparts, rfl⟩

lemma readFrames_ok {count index cursor : ℕ} {state : σ} (hc : cursor ≤ source.length)
    (hcursor : cursor < 2 ^ 64) :
    readFrames errors accept source count index state cursor = .ok (parts, stop) ↔
      parts.length = count ∧ Accepts accept index state parts ∧
        (∀ part ∈ parts, part.length < 2 ^ 32) ∧ parts.flatMap frame <+: source.drop cursor ∧
          stop = cursor + (parts.flatMap frame).length ∧ stop < 2 ^ 64 := by
  induction count generalizing index cursor state parts stop with
  | zero =>
    rw [readFrames, pure_ok, Prod.mk.injEq, List.length_eq_zero_iff]
    constructor
    · rintro ⟨rfl, rfl⟩
      exact ⟨rfl, trivial, fun part hpart => absurd hpart List.not_mem_nil, List.nil_prefix, rfl,
        hcursor⟩
    · rintro ⟨rfl, -, -, -, rfl, -⟩
      exact ⟨rfl, rfl⟩
  | succ count ih =>
    rw [readFrames_succ]
    constructor
    · rintro ⟨part, next, partEnd, hpart, rest, hrest, rfl⟩
      obtain ⟨hshort, hframe, haccept, rfl, hlt⟩ := (readFrame_ok hc).mp hpart
      have hin := hframe.length_le
      rw [List.length_drop] at hin
      obtain ⟨hlen, hnext, hshorts, hframes, hstop, hend⟩ := (ih (by omega) hlt).mp hrest
      refine ⟨congrArg (· + 1) hlen, ⟨next, haccept, hnext⟩,
        List.forall_mem_cons.mpr ⟨hshort, hshorts⟩, frames_cons.mpr ⟨hframe, hframes⟩, ?_, hend⟩
      rw [hstop, List.flatMap_cons, List.length_append, Nat.add_assoc]
    · rintro ⟨hlen, haccepts, hshorts, hframes, rfl, hend⟩
      obtain _ | ⟨part, rest⟩ := parts
      · exact absurd hlen (by simp)
      obtain ⟨next, haccept, hnext⟩ := haccepts
      obtain ⟨hshort, hshorts⟩ := List.forall_mem_cons.mp hshorts
      obtain ⟨hframe, hframes⟩ := frames_cons.mp hframes
      have hin := hframe.length_le
      rw [List.length_drop] at hin
      rw [List.flatMap_cons, List.length_append] at hend
      refine ⟨part, next, _, (readFrame_ok hc).mpr ⟨hshort, hframe, haccept, rfl, by omega⟩, rest,
        (ih (by omega) (by omega)).mpr ⟨Nat.succ.inj hlen, hnext, hshorts, hframes, ?_, ?_⟩, rfl⟩
      · rw [List.flatMap_cons, List.length_append, Nat.add_assoc]
      · rw [List.flatMap_cons, List.length_append]
        omega

end Runs

end Eip0045.Frames

namespace Eip0045.Delimited

open Bytes

variable {α β : Type}

/-- Of two strings that begin with encodings and are equal, the encoded values and the rests are
equal. -/
def Delimiting (enc : α → Bytes) : Prop :=
  ∀ ⦃a b : α⦄ ⦃s t : Bytes⦄, enc a ++ s = enc b ++ t → a = b ∧ s = t

lemma of_length {enc : α → Bytes} (hlength : ∀ a b, (enc a).length = (enc b).length)
    (hinjective : Function.Injective enc) : Delimiting enc := by
  intro a b s t h
  obtain ⟨hab, hst⟩ := List.append_inj h (hlength a b)
  exact ⟨hinjective hab, hst⟩

lemma byte {code : α → UInt8} (h : Function.Injective code) : Delimiting fun a => [code a] :=
  of_length (fun _ _ => rfl) fun _ _ hab => h (List.singleton_injective hab)

lemma injective {enc : α → Bytes} (h : Delimiting enc) : Function.Injective enc := by
  intro a b hab
  exact (h (congrArg (· ++ []) hab)).1

lemma append {f : α → Bytes} {g : β → Bytes} (hf : Delimiting f) (hg : Delimiting g) :
    Delimiting fun p : α × β => f p.1 ++ g p.2 := by
  intro p q s t h
  simp only [List.append_assoc] at h
  obtain ⟨hfst, h⟩ := hf h
  obtain ⟨hsnd, h⟩ := hg h
  exact ⟨Prod.ext hfst hsnd, h⟩

lemma flatMap {enc : α → Bytes} (h : Delimiting enc) {as bs : List α} {s t : Bytes} (hlength : as.length = bs.length)
    (hab : as.flatMap enc ++ s = bs.flatMap enc ++ t) : as = bs ∧ s = t := by
  induction as generalizing bs with
  | nil =>
    obtain rfl := List.length_eq_zero_iff.mp hlength.symm
    exact ⟨rfl, hab⟩
  | cons a as ih =>
    cases bs with
    | nil => cases hlength
    | cons b bs =>
      simp only [List.flatMap_cons, List.append_assoc] at hab
      obtain ⟨rfl, hrest⟩ := h hab
      obtain ⟨rfl, hst⟩ := ih (Nat.succ.inj hlength) hrest
      exact ⟨rfl, hst⟩

lemma le16 : Delimiting Bytes.le16 := of_length (fun _ _ => by simp) le16_injective

lemma le32 : Delimiting Bytes.le32 := of_length (fun _ _ => by simp) le32_injective

lemma le64 : Delimiting Bytes.le64 :=
  of_length (fun _ _ => by simp) (Function.LeftInverse.injective ofLe64_le64)

lemma array (n : ℕ) : Delimiting fun a : ByteArr n => a.val :=
  of_length (fun a b => by simp) Subtype.val_injective

end Eip0045.Delimited
