import Mathlib
import Eip0045.Seal.RawEdits

/-! Authenticated byte edits: their checks, their replay, and how a replayed edit is undone. -/

namespace Eip0045.Mutation

open Bytes Checked
open RawSeal.Producer (B4ByteOperation)

abbrev Result (α : Type) := Except (Fault String) α

section Checks

def b4MaxJcsSafeInteger : ℕ := 9007199254740991

def maxMaterializationBytes : ℕ := 512 * 1024 * 1024

def validateEvenLowerHex (value : Bytes) (label : String) : Except String Unit :=
  ensure (value.length ≤ 256 ∧ value.length % 2 = 0 ∧ ∀ byte ∈ value, Hex.IsLower byte)
    s!"{label} is not bounded even-length lowercase hexadecimal"

def validateNonemptyHex (value : Bytes) (label : String) : Except String ℕ := do
  validateEvenLowerHex value label
  ensure (value ≠ []) s!"{label} is empty"
  pure (value.length / 2)

def validateJcsSafeInteger (value : ℕ) (label : String) : Except String Unit :=
  ensure (value ≤ b4MaxJcsSafeInteger) s!"{label} exceeds the RFC 8785 exact-integer bound"

def validateRange (offset byteLength : ℕ) (label : String) : Except String Unit := do
  validateJcsSafeInteger offset s!"{label} offset"
  let stop ← context s!"{label} range overflows u64" (checkedAdd offset byteLength)
  validateJcsSafeInteger stop s!"{label} range end"

def validateByteOperation : B4ByteOperation → Except String Unit
  | .delete beforeHex offset => do
    let byteLength ← validateNonemptyHex beforeHex "deleted bytes"
    validateRange offset byteLength "byte deletion"
  | .insert insertedHex offset => do
    let byteLength ← validateNonemptyHex insertedHex "inserted bytes"
    validateRange offset byteLength "byte insertion"
  | .replace beforeHex replacementHex offset => do
    let beforeLength ← validateNonemptyHex beforeHex "replaced bytes"
    let replacementLength ← validateNonemptyHex replacementHex "replacement bytes"
    ensure (beforeLength = replacementLength) "byte replacement changes length; use insert or delete"
    ensure (beforeHex ≠ replacementHex) "byte replacement is a no-op"
    validateRange offset beforeLength "byte replacement"
  | .truncate beforeHex newLength originalLength => do
    let witnessLength ← validateNonemptyHex beforeHex "truncated bytes witness"
    validateJcsSafeInteger newLength "truncated new length"
    validateJcsSafeInteger originalLength "truncated original length"
    ensure (newLength < originalLength) "truncation does not shorten the target"
    ensure (witnessLength ≤ originalLength - newLength) "truncation witness exceeds the removed suffix"

end Checks

section Replay

def decodeHex (value : Bytes) (label : String) : Except String Bytes :=
  context s!"cannot decode {label}" (Hex.decode value)

def checkedIndex (value : ℕ) (label : String) : Except String ℕ := do
  ensure (value < 2 ^ 64) s!"{label} does not fit usize"
  pure value

/-- `bytes[start..stop]`, which stops on a range that is not one of the buffer. -/
def range (bytes : Bytes) (start stop : ℕ) : Result Bytes := context .outOfRange (getRange bytes start stop)

/-- `output[start..stop].copy_from_slice(replacement)`, which needs equal lengths. -/
def copyFromSlice (output : Bytes) (start stop : ℕ) (replacement : Bytes) : Result Bytes := do
  let target ← range output start stop
  ensure (target.length = replacement.length) .outOfRange
  pure (output.take start ++ replacement ++ output.drop stop)

def witnessedRange (base before : Bytes) (offset : ℕ) (label : String) : Result (ℕ × ℕ) := do
  let start ← report (checkedIndex offset s!"{label} offset")
  let stop ← report (context s!"{label} range overflows usize" (checkedAdd start before.length))
  report (ensure (stop ≤ base.length) s!"{label} range exceeds the base")
  let actual ← range base start stop
  report (ensure (actual = before) s!"{label} witness does not match the base range")
  pure (start, stop)

def applyByteOperation (base : Bytes) : B4ByteOperation → Result Bytes
  | .delete beforeHex offset => do
    let before ← report (decodeHex beforeHex "deleted bytes")
    let witnessed ← witnessedRange base before offset "byte deletion"
    let kept ← range base 0 witnessed.1
    let rest ← range base witnessed.2 base.length
    pure (kept ++ rest)
  | .insert insertedHex offset => do
    let inserted ← report (decodeHex insertedHex "inserted bytes")
    let start ← report (checkedIndex offset "byte insertion offset")
    report (ensure (start ≤ base.length) "byte insertion offset exceeds the base")
    let outputLength ← report (context "byte insertion output length overflows usize"
      (checkedAdd base.length inserted.length))
    report (ensure (outputLength ≤ maxMaterializationBytes)
      "byte insertion output exceeds the closed bound")
    let kept ← range base 0 start
    let rest ← range base start base.length
    pure (kept ++ inserted ++ rest)
  | .replace beforeHex replacementHex offset => do
    let before ← report (decodeHex beforeHex "replaced bytes")
    let replacement ← report (decodeHex replacementHex "replacement bytes")
    let witnessed ← witnessedRange base before offset "byte replacement"
    copyFromSlice base witnessed.1 witnessed.2 replacement
  | .truncate beforeHex newLength originalLength => do
    let declaredOriginal ← report (checkedIndex originalLength "original byte length")
    report (ensure (declaredOriginal = base.length)
      "truncation originalLength does not equal the base length")
    let boundary ← report (checkedIndex newLength "truncation boundary")
    let witness ← report (decodeHex beforeHex "truncation witness")
    let witnessEnd ← report (context "truncation witness range overflows usize"
      (checkedAdd boundary witness.length))
    report (ensure (witnessEnd ≤ base.length) "truncation witness exceeds the removed suffix")
    let actual ← range base boundary witnessEnd
    report (ensure (actual = witness)
      "truncation witness does not match the removed suffix boundary")
    range base 0 boundary

def reconstructByteEdit (base : Bytes) (operation : B4ByteOperation) : Result Bytes := do
  report (ensure (base.length ≤ maxMaterializationBytes) "byte-mutation base exceeds the closed bound")
  report (validateByteOperation operation)
  let output ← applyByteOperation base operation
  report (ensure (output ≠ base) "byte mutation reconstructed a no-op")
  report (ensure (output.length ≤ maxMaterializationBytes)
    "byte-mutation output exceeds the closed bound")
  pure output

end Replay

section Edits

def spelled (value : Bytes) : Bytes := (Hex.decode value).getD []

/-- What an edit makes of a base, in terms of the base alone. -/
def edited (base : Bytes) : B4ByteOperation → Bytes
  | .delete beforeHex offset => base.take offset ++ base.drop (offset + (spelled beforeHex).length)
  | .insert insertedHex offset => base.take offset ++ spelled insertedHex ++ base.drop offset
  | .replace beforeHex replacementHex offset =>
    base.take offset ++ spelled replacementHex ++ base.drop (offset + (spelled beforeHex).length)
  | .truncate _ newLength _ => base.take newLength

/-- The bytes that an edit names stand where it names them. -/
def Witnessed (base : Bytes) : B4ByteOperation → Prop
  | .delete beforeHex offset =>
    offset + (spelled beforeHex).length ≤ base.length ∧
      slice base offset (spelled beforeHex).length = spelled beforeHex
  | .insert _ offset => offset ≤ base.length
  | .replace beforeHex _ offset =>
    offset + (spelled beforeHex).length ≤ base.length ∧
      slice base offset (spelled beforeHex).length = spelled beforeHex
  | .truncate beforeHex newLength originalLength =>
    originalLength = base.length ∧ newLength + (spelled beforeHex).length ≤ base.length ∧
      slice base newLength (spelled beforeHex).length = spelled beforeHex

/-- The edit that takes the output back to the base. -/
def inverse : B4ByteOperation → Option B4ByteOperation
  | .delete beforeHex offset => some (.insert beforeHex offset)
  | .insert insertedHex offset => some (.delete insertedHex offset)
  | .replace beforeHex replacementHex offset => some (.replace replacementHex beforeHex offset)
  | .truncate _ _ _ => none

variable {value : Bytes} {label : String}

def SpellsBytes (value : Bytes) : Prop :=
  value.length ≤ 256 ∧ value.length % 2 = 0 ∧ (∀ byte ∈ value, Hex.IsLower byte) ∧ value ≠ []

lemma validateNonemptyHex_ok {n : ℕ} :
    validateNonemptyHex value label = .ok n ↔ SpellsBytes value ∧ n = value.length / 2 := by
  simp only [validateNonemptyHex, validateEvenLowerHex, bind_ok, exists_unit, ensure_ok, pure_ok]
  constructor
  · intro h
    obtain ⟨⟨hlength, heven, hlower⟩, hne, h⟩ := h
    exact ⟨⟨hlength, heven, hlower, hne⟩, h.symm⟩
  · intro h
    obtain ⟨⟨hlength, heven, hlower, hne⟩, h⟩ := h
    exact ⟨⟨hlength, heven, hlower⟩, hne, h.symm⟩

lemma SpellsBytes.decode (h : SpellsBytes value) :
    Hex.decode value = some (spelled value) ∧ (spelled value).length = value.length / 2 ∧
      Hex.encode (spelled value) = value := by
  obtain ⟨-, heven, hlower, -⟩ := h
  obtain ⟨bytes, hbytes, hlength, hencode⟩ := Hex.encode_decode hlower (n := value.length / 2) (by omega)
  rw [spelled, hbytes, Option.getD_some]
  exact ⟨rfl, hlength, hencode⟩

lemma SpellsBytes.pos (h : SpellsBytes value) : 0 < (spelled value).length := by
  have hne := List.length_pos_iff.mpr h.2.2.2
  have heven := h.2.1
  rw [h.decode.2.1]
  omega

lemma validateRange_ok {offset byteLength : ℕ} :
    validateRange offset byteLength label = .ok () ↔ offset + byteLength ≤ b4MaxJcsSafeInteger := by
  have hsmall : b4MaxJcsSafeInteger < 2 ^ 64 := by decide
  simp only [validateRange, validateJcsSafeInteger, bind_ok, exists_unit, ensure_ok, context_ok,
    checkedAdd_eq_some]
  constructor
  · intro h
    obtain ⟨-, _, ⟨-, rfl⟩, hstop⟩ := h
    exact hstop
  · intro h
    exact ⟨by omega, _, ⟨by omega, rfl⟩, h⟩

def Admitted : B4ByteOperation → Prop
  | .delete beforeHex offset =>
    SpellsBytes beforeHex ∧ offset + (spelled beforeHex).length ≤ b4MaxJcsSafeInteger
  | .insert insertedHex offset =>
    SpellsBytes insertedHex ∧ offset + (spelled insertedHex).length ≤ b4MaxJcsSafeInteger
  | .replace beforeHex replacementHex offset =>
    SpellsBytes beforeHex ∧ SpellsBytes replacementHex ∧
      (spelled beforeHex).length = (spelled replacementHex).length ∧ beforeHex ≠ replacementHex ∧
      offset + (spelled beforeHex).length ≤ b4MaxJcsSafeInteger
  | .truncate beforeHex newLength originalLength =>
    SpellsBytes beforeHex ∧ originalLength ≤ b4MaxJcsSafeInteger ∧
      newLength + (spelled beforeHex).length ≤ originalLength

lemma validateByteOperation_ok {operation : B4ByteOperation} :
    validateByteOperation operation = .ok () ↔ Admitted operation := by
  cases operation with
  | delete beforeHex offset =>
    simp only [validateByteOperation, Admitted, bind_ok, validateNonemptyHex_ok, validateRange_ok]
    constructor
    · intro h
      obtain ⟨_, ⟨hhex, rfl⟩, hrange⟩ := h
      exact ⟨hhex, hhex.decode.2.1 ▸ hrange⟩
    · intro h
      exact ⟨_, ⟨h.1, rfl⟩, h.1.decode.2.1 ▸ h.2⟩
  | insert insertedHex offset =>
    simp only [validateByteOperation, Admitted, bind_ok, validateNonemptyHex_ok, validateRange_ok]
    constructor
    · intro h
      obtain ⟨_, ⟨hhex, rfl⟩, hrange⟩ := h
      exact ⟨hhex, hhex.decode.2.1 ▸ hrange⟩
    · intro h
      exact ⟨_, ⟨h.1, rfl⟩, h.1.decode.2.1 ▸ h.2⟩
  | replace beforeHex replacementHex offset =>
    simp only [validateByteOperation, Admitted, bind_ok, exists_unit, ensure_ok, validateNonemptyHex_ok,
      validateRange_ok]
    constructor
    · intro h
      obtain ⟨_, ⟨hbefore, rfl⟩, _, ⟨hreplacement, rfl⟩, hlength, hne, hrange⟩ := h
      exact ⟨hbefore, hreplacement, by rw [hbefore.decode.2.1, hreplacement.decode.2.1, hlength], hne,
        hbefore.decode.2.1 ▸ hrange⟩
    · intro h
      obtain ⟨hbefore, hreplacement, hlength, hne, hrange⟩ := h
      rw [hbefore.decode.2.1, hreplacement.decode.2.1] at hlength
      exact ⟨_, ⟨hbefore, rfl⟩, _, ⟨hreplacement, rfl⟩, hlength, hne, hbefore.decode.2.1 ▸ hrange⟩
  | truncate beforeHex newLength originalLength =>
    simp only [validateByteOperation, validateJcsSafeInteger, Admitted, bind_ok, exists_unit, ensure_ok,
      validateNonemptyHex_ok]
    constructor
    · intro h
      obtain ⟨_, ⟨hhex, rfl⟩, -, horiginal, hlt, hwitness⟩ := h
      have hlength := hhex.decode.2.1
      exact ⟨hhex, horiginal, by omega⟩
    · intro h
      obtain ⟨hhex, horiginal, hfits⟩ := h
      have hlength := hhex.decode.2.1
      have hpos := hhex.pos
      exact ⟨_, ⟨hhex, rfl⟩, by omega, horiginal, by omega, by omega⟩

end Edits

section Exactness

variable {base out : Bytes} {operation : B4ByteOperation} {start stop : ℕ}

lemma range_ok {bytes v : Bytes} :
    range bytes start stop = .ok v ↔ start ≤ stop ∧ stop ≤ bytes.length ∧
      slice bytes start (stop - start) = v := by
  rw [range, context_ok, getRange_eq_some]

lemma range_inside {bytes : Bytes} (h : start ≤ stop) (hstop : stop ≤ bytes.length) :
    range bytes start stop = .ok (slice bytes start (stop - start)) :=
  range_ok.mpr ⟨h, hstop, rfl⟩

lemma slice_tail (bytes : Bytes) (n : ℕ) : slice bytes n (bytes.length - n) = bytes.drop n :=
  List.take_of_length_le (by rw [List.length_drop])

lemma witnessedRange_ok {before : Bytes} {offset : ℕ} {label : String} {witnessed : ℕ × ℕ}
    (hsmall : offset + before.length < 2 ^ 64) :
    witnessedRange base before offset label = .ok witnessed ↔
      (offset + before.length ≤ base.length ∧ slice base offset before.length = before) ∧
        witnessed = (offset, offset + before.length) := by
  simp only [witnessedRange, checkedIndex, bind_ok, exists_unit, report_ok, ensure_ok, context_ok,
    checkedAdd_eq_some, range_ok, pure_ok]
  constructor
  · intro h
    obtain ⟨_, ⟨-, rfl⟩, _, ⟨-, rfl⟩, hstop, _, ⟨-, -, hslice⟩, rfl, h⟩ := h
    rw [Nat.add_sub_cancel_left] at hslice
    exact ⟨⟨hstop, hslice⟩, h.symm⟩
  · intro h
    obtain ⟨⟨hstop, hslice⟩, h⟩ := h
    exact ⟨_, ⟨by omega, rfl⟩, _, ⟨hsmall, rfl⟩, hstop, _, ⟨by omega, hstop, rfl⟩,
      by rw [Nat.add_sub_cancel_left, hslice], h.symm⟩

lemma edited_length_le (h : Admitted operation) (hw : Witnessed base operation)
    (hinsert : ∀ insertedHex offset, operation ≠ .insert insertedHex offset) :
    (edited base operation).length ≤ base.length := by
  cases operation with
  | delete beforeHex offset =>
    rw [edited, List.length_append, List.length_take, List.length_drop]
    omega
  | insert insertedHex offset => exact absurd rfl (hinsert insertedHex offset)
  | replace beforeHex replacementHex offset =>
    have hlength := h.2.2.1
    have hstop := hw.1
    rw [edited, List.length_append, List.length_append, List.length_take, List.length_drop]
    omega
  | truncate beforeHex newLength originalLength =>
    rw [edited, List.length_take]
    omega

lemma applyByteOperation_ok (h : Admitted operation) (hbase : base.length ≤ maxMaterializationBytes) :
    applyByteOperation base operation = .ok out ↔ Witnessed base operation ∧
      (edited base operation).length ≤ maxMaterializationBytes ∧ out = edited base operation := by
  have hmax : maxMaterializationBytes < 2 ^ 63 := by decide
  have hsafe : b4MaxJcsSafeInteger < 2 ^ 63 := by decide
  cases operation with
  | delete beforeHex offset =>
    have hshort := @edited_length_le base _ h
    obtain ⟨hhex, hrange⟩ := h
    have hsmall : offset + (spelled beforeHex).length < 2 ^ 64 := by omega
    simp only [applyByteOperation, decodeHex, bind_ok, report_ok, context_ok, hhex.decode.1,
      Option.some.injEq, exists_eq_left', pure_ok, witnessedRange_ok hsmall, range_ok]
    constructor
    · intro h
      obtain ⟨_, ⟨hw, rfl⟩, _, ⟨-, -, rfl⟩, _, ⟨-, -, rfl⟩, rfl⟩ := h
      refine ⟨hw, (hshort hw (by simp)).trans hbase, ?_⟩
      rw [slice_tail]
      rfl
    · intro h
      obtain ⟨hw, -, rfl⟩ := h
      have hstop := hw.1
      exact ⟨_, ⟨hw, rfl⟩, _, ⟨by omega, by omega, rfl⟩, _, ⟨hw.1, le_rfl, rfl⟩, by
        rw [slice_tail]
        rfl⟩
  | insert insertedHex offset =>
    obtain ⟨hhex, hrange⟩ := h
    have hlength : offset ≤ base.length → (edited base (.insert insertedHex offset)).length =
        base.length + (spelled insertedHex).length := by
      intro hle
      rw [edited, List.length_append, List.length_append, List.length_take, List.length_drop]
      omega
    simp only [applyByteOperation, decodeHex, checkedIndex, bind_ok, exists_unit, report_ok, context_ok,
      ensure_ok, hhex.decode.1, Option.some.injEq, exists_eq_left', pure_ok, range_ok,
      checkedAdd_eq_some]
    constructor
    · intro h
      obtain ⟨_, ⟨-, rfl⟩, hle, _, ⟨-, rfl⟩, hbound, _, ⟨-, -, rfl⟩, _, ⟨-, -, rfl⟩, rfl⟩ := h
      refine ⟨hle, by rw [hlength hle]; exact hbound, ?_⟩
      rw [slice_tail]
      rfl
    · intro h
      obtain ⟨hle, hbound, rfl⟩ := h
      rw [hlength hle] at hbound
      have hle : offset ≤ base.length := hle
      exact ⟨_, ⟨by omega, rfl⟩, hle, _, ⟨by omega, rfl⟩, hbound, _, ⟨by omega, hle, rfl⟩, _,
        ⟨hle, le_rfl, rfl⟩, by
          rw [slice_tail]
          rfl⟩
  | replace beforeHex replacementHex offset =>
    have hshort := @edited_length_le base _ h
    obtain ⟨hhex, hhex', hlengths, hne, hrange⟩ := h
    have hsmall : offset + (spelled beforeHex).length < 2 ^ 64 := by omega
    simp only [applyByteOperation, decodeHex, copyFromSlice, bind_ok, exists_unit, report_ok, context_ok,
      ensure_ok, hhex.decode.1, hhex'.decode.1, Option.some.injEq, exists_eq_left', pure_ok,
      witnessedRange_ok hsmall, range_ok]
    constructor
    · intro h
      obtain ⟨_, ⟨hw, rfl⟩, _, -, -, rfl⟩ := h
      exact ⟨hw, (hshort hw (by simp)).trans hbase, rfl⟩
    · intro h
      obtain ⟨hw, -, rfl⟩ := h
      refine ⟨_, ⟨hw, rfl⟩, _, ⟨by omega, hw.1, rfl⟩, ?_, rfl⟩
      rw [Nat.add_sub_cancel_left, hw.2, hlengths]
  | truncate beforeHex newLength originalLength =>
    have hshort := @edited_length_le base _ h
    obtain ⟨hhex, horiginal, hfits⟩ := h
    simp only [applyByteOperation, decodeHex, checkedIndex, bind_ok, exists_unit, report_ok, context_ok,
      ensure_ok, hhex.decode.1, Option.some.injEq, exists_eq_left', pure_ok, range_ok,
      checkedAdd_eq_some]
    constructor
    · intro h
      obtain ⟨_, ⟨-, rfl⟩, hlength, _, ⟨-, rfl⟩, _, ⟨-, rfl⟩, hstop, _, ⟨-, -, hslice⟩, rfl, -, -, rfl⟩ := h
      rw [Nat.add_sub_cancel_left] at hslice
      have hw : Witnessed base (.truncate beforeHex newLength originalLength) := ⟨hlength, hstop, hslice⟩
      exact ⟨hw, (hshort hw (by simp)).trans hbase, rfl⟩
    · intro h
      obtain ⟨⟨hlength, hstop, hslice⟩, -, rfl⟩ := h
      exact ⟨_, ⟨by omega, rfl⟩, hlength, _, ⟨by omega, rfl⟩, _, ⟨by omega, rfl⟩, hstop, _,
        ⟨by omega, hstop, rfl⟩, by rw [Nat.add_sub_cancel_left, hslice], by omega, by omega, rfl⟩

lemma split_at (bytes : Bytes) (offset n : ℕ) :
    bytes.take offset ++ slice bytes offset n ++ bytes.drop (offset + n) = bytes := by
  rw [slice, List.append_assoc, ← List.drop_drop, List.take_append_drop, List.take_append_drop]

lemma edited_ne (h : Admitted operation) (hw : Witnessed base operation) : edited base operation ≠ base := by
  intro heq
  have hlength := congrArg List.length heq
  cases operation with
  | delete beforeHex offset =>
    have hpos := h.1.pos
    have hstop := hw.1
    rw [edited, List.length_append, List.length_take, List.length_drop] at hlength
    omega
  | insert insertedHex offset =>
    have hpos := h.1.pos
    have hle : offset ≤ base.length := hw
    rw [edited, List.length_append, List.length_append, List.length_take, List.length_drop] at hlength
    omega
  | replace beforeHex replacementHex offset =>
    obtain ⟨hhex, hhex', hlengths, hne, -⟩ := h
    apply hne
    rw [← hhex.decode.2.2, ← hhex'.decode.2.2]
    congr 1
    have hsplit := split_at base offset (spelled beforeHex).length
    rw [hw.2] at hsplit
    exact (List.append_cancel_left (List.append_cancel_right (heq.trans hsplit.symm))).symm
  | truncate beforeHex newLength originalLength =>
    obtain ⟨hhex, -, hfits⟩ := h
    have hpos := hhex.pos
    have hbase := hw.1
    rw [edited, List.length_take] at hlength
    omega

lemma reconstructByteEdit_ok : reconstructByteEdit base operation = .ok out ↔
    base.length ≤ maxMaterializationBytes ∧ Admitted operation ∧ Witnessed base operation ∧
      (edited base operation).length ≤ maxMaterializationBytes ∧ out = edited base operation := by
  simp only [reconstructByteEdit, bind_ok, exists_unit, report_ok, ensure_ok, validateByteOperation_ok,
    pure_ok]
  constructor
  · intro h
    obtain ⟨hbase, hadmitted, _, happly, -, -, rfl⟩ := h
    exact ⟨hbase, hadmitted, (applyByteOperation_ok hadmitted hbase).mp happly⟩
  · intro h
    obtain ⟨hbase, hadmitted, hw, hbound, rfl⟩ := h
    exact ⟨hbase, hadmitted, _, (applyByteOperation_ok hadmitted hbase).mpr ⟨hw, hbound, rfl⟩,
      edited_ne hadmitted hw, hbound, rfl⟩

lemma range_ne_outOfRange {bytes : Bytes} (h : start ≤ stop) (hstop : stop ≤ bytes.length) :
    range bytes start stop ≠ .error .outOfRange := by
  rw [range_inside h hstop]
  simp

lemma witnessedRange_bounds {before : Bytes} {offset : ℕ} {label : String} {witnessed : ℕ × ℕ}
    (h : witnessedRange base before offset label = .ok witnessed) :
    witnessed.1 ≤ witnessed.2 ∧ witnessed.2 ≤ base.length ∧
      witnessed.2 = witnessed.1 + before.length := by
  simp only [witnessedRange, bind_ok, exists_unit, report_ok, ensure_ok, context_ok, checkedAdd_eq_some,
    range_ok, pure_ok] at h
  obtain ⟨start, -, _, ⟨-, rfl⟩, hstop, _, -, -, rfl⟩ := h
  exact ⟨Nat.le_add_right _ _, hstop, rfl⟩

lemma witnessedRange_ne_outOfRange (before : Bytes) (offset : ℕ) (label : String) :
    witnessedRange base before offset label ≠ .error .outOfRange := by
  rw [witnessedRange]
  apply bind_ne_error (report_ne_outOfRange _)
  intro start _
  apply bind_ne_error (report_ne_outOfRange _)
  intro stop hstop
  obtain ⟨-, hstop⟩ := checkedAdd_eq_some.mp (context_ok.mp (report_ok.mp hstop))
  apply bind_ne_error (report_ne_outOfRange _)
  intro _ hbound
  apply bind_ne_error (range_ne_outOfRange (by omega) (ensure_ok.mp (report_ok.mp hbound)))
  intro actual _
  apply bind_ne_error (report_ne_outOfRange _)
  intro _ _ h
  cases h

lemma applyByteOperation_ne_outOfRange (h : Admitted operation) :
    applyByteOperation base operation ≠ .error .outOfRange := by
  cases operation with
  | delete beforeHex offset =>
    rw [applyByteOperation]
    apply bind_ne_error (report_ne_outOfRange _)
    intro before _
    apply bind_ne_error (witnessedRange_ne_outOfRange _ _ _)
    intro witnessed hwitnessed
    obtain ⟨hle, hstop, -⟩ := witnessedRange_bounds hwitnessed
    apply bind_ne_error (range_ne_outOfRange (Nat.zero_le _) (hle.trans hstop))
    intro kept _
    apply bind_ne_error (range_ne_outOfRange hstop le_rfl)
    intro rest _ hpure
    cases hpure
  | insert insertedHex offset =>
    rw [applyByteOperation]
    apply bind_ne_error (report_ne_outOfRange _)
    intro inserted _
    apply bind_ne_error (report_ne_outOfRange _)
    intro start _
    apply bind_ne_error (report_ne_outOfRange _)
    intro _ hstart
    have hstart := ensure_ok.mp (report_ok.mp hstart)
    apply bind_ne_error (report_ne_outOfRange _)
    intro outputLength _
    apply bind_ne_error (report_ne_outOfRange _)
    intro _ _
    apply bind_ne_error (range_ne_outOfRange (Nat.zero_le _) hstart)
    intro kept _
    apply bind_ne_error (range_ne_outOfRange hstart le_rfl)
    intro rest _ hpure
    cases hpure
  | replace beforeHex replacementHex offset =>
    obtain ⟨hhex, hhex', hlengths, -⟩ := h
    rw [applyByteOperation]
    apply bind_ne_error (report_ne_outOfRange _)
    intro before hbefore
    apply bind_ne_error (report_ne_outOfRange _)
    intro replacement hreplacement
    apply bind_ne_error (witnessedRange_ne_outOfRange _ _ _)
    intro witnessed hwitnessed
    obtain ⟨hle, hstop, hwidth⟩ := witnessedRange_bounds hwitnessed
    rw [copyFromSlice]
    apply bind_ne_error (range_ne_outOfRange hle hstop)
    intro target htarget
    obtain ⟨-, -, rfl⟩ := range_ok.mp htarget
    rw [decodeHex, report_ok, context_ok, hhex.decode.1, Option.some.injEq] at hbefore
    rw [decodeHex, report_ok, context_ok, hhex'.decode.1, Option.some.injEq] at hreplacement
    have hequal : (slice base witnessed.1 (witnessed.2 - witnessed.1)).length = replacement.length := by
      rw [slice_length (by omega), hwidth, Nat.add_sub_cancel_left, ← hbefore, ← hreplacement, hlengths]
    rw [ensure_pass hequal, ok_bind]
    intro hpure
    cases hpure
  | truncate beforeHex newLength originalLength =>
    rw [applyByteOperation]
    apply bind_ne_error (report_ne_outOfRange _)
    intro declared _
    apply bind_ne_error (report_ne_outOfRange _)
    intro _ _
    apply bind_ne_error (report_ne_outOfRange _)
    intro boundary _
    apply bind_ne_error (report_ne_outOfRange _)
    intro witness _
    apply bind_ne_error (report_ne_outOfRange _)
    intro stop hstop
    obtain ⟨-, hstop⟩ := checkedAdd_eq_some.mp (context_ok.mp (report_ok.mp hstop))
    apply bind_ne_error (report_ne_outOfRange _)
    intro _ hbound
    have hbound := ensure_ok.mp (report_ok.mp hbound)
    apply bind_ne_error (range_ne_outOfRange (by omega) hbound)
    intro actual _
    apply bind_ne_error (report_ne_outOfRange _)
    intro _ _
    exact range_ne_outOfRange (Nat.zero_le _) (by omega)

lemma reconstructByteEdit_ne_outOfRange : reconstructByteEdit base operation ≠ .error .outOfRange := by
  rw [reconstructByteEdit]
  apply bind_ne_error (report_ne_outOfRange _)
  intro _ hbase
  apply bind_ne_error (report_ne_outOfRange _)
  intro _ hvalid
  apply bind_ne_error
  · exact applyByteOperation_ne_outOfRange (validateByteOperation_ok.mp (report_ok.mp hvalid))
  · intro output _
    apply bind_ne_error (report_ne_outOfRange _)
    intro _ _
    apply bind_ne_error (report_ne_outOfRange _)
    intro _ _ h
    cases h

end Exactness

section Undoing

variable {base : Bytes} {operation undo : B4ByteOperation}

lemma admitted_inverse (h : Admitted operation) (hundo : inverse operation = some undo) : Admitted undo := by
  cases operation with
  | delete beforeHex offset =>
    obtain rfl := Option.some.inj hundo
    exact h
  | insert insertedHex offset =>
    obtain rfl := Option.some.inj hundo
    exact h
  | replace beforeHex replacementHex offset =>
    obtain rfl := Option.some.inj hundo
    obtain ⟨hhex, hhex', hlengths, hne, hrange⟩ := h
    exact ⟨hhex', hhex, hlengths.symm, hne.symm, hlengths ▸ hrange⟩
  | truncate beforeHex newLength originalLength => cases hundo

lemma edited_inverse (h : Admitted operation) (hw : Witnessed base operation)
    (hundo : inverse operation = some undo) :
    Witnessed (edited base operation) undo ∧ edited (edited base operation) undo = base := by
  cases operation with
  | delete beforeHex offset =>
    obtain rfl := Option.some.inj hundo
    obtain ⟨hstop, hslice⟩ := hw
    have htake : (base.take offset).length = offset := by
      rw [List.length_take]
      omega
    have hsplit := split_at base offset (spelled beforeHex).length
    rw [hslice] at hsplit
    constructor
    · change offset ≤ (base.take offset ++ _).length
      rw [List.length_append, htake]
      omega
    · change (base.take offset ++ _).take offset ++ _ ++ (base.take offset ++ _).drop offset = base
      rw [List.take_left' htake, List.drop_left' htake, hsplit]
  | insert insertedHex offset =>
    obtain rfl := Option.some.inj hundo
    have hle : offset ≤ base.length := hw
    have htake : (base.take offset).length = offset := by
      rw [List.length_take]
      omega
    have hslice : slice (edited base (.insert insertedHex offset)) offset (spelled insertedHex).length =
        spelled insertedHex := by
      have hbetween := slice_between (base.take offset) (spelled insertedHex) (base.drop offset)
      rwa [htake] at hbetween
    refine ⟨⟨?_, hslice⟩, ?_⟩
    · rw [edited, List.length_append, List.length_append, htake]
      omega
    · change (base.take offset ++ spelled insertedHex ++ base.drop offset).take offset ++
        (base.take offset ++ spelled insertedHex ++ base.drop offset).drop
          (offset + (spelled insertedHex).length) = base
      rw [List.drop_left' (by rw [List.length_append, htake]), List.append_assoc,
        List.take_left' htake, List.take_append_drop]
  | replace beforeHex replacementHex offset =>
    obtain rfl := Option.some.inj hundo
    obtain ⟨hstop, hslice⟩ := hw
    have hlengths := h.2.2.1
    have htake : (base.take offset).length = offset := by
      rw [List.length_take]
      omega
    have hsplit := split_at base offset (spelled beforeHex).length
    rw [hslice] at hsplit
    have hwitness : slice (edited base (.replace beforeHex replacementHex offset)) offset
        (spelled replacementHex).length = spelled replacementHex := by
      have hbetween := slice_between (base.take offset) (spelled replacementHex)
        (base.drop (offset + (spelled beforeHex).length))
      rwa [htake] at hbetween
    refine ⟨⟨?_, hwitness⟩, ?_⟩
    · rw [edited, List.length_append, List.length_append, htake]
      omega
    · change (base.take offset ++ spelled replacementHex ++
        base.drop (offset + (spelled beforeHex).length)).take offset ++ spelled beforeHex ++
        (base.take offset ++ spelled replacementHex ++
          base.drop (offset + (spelled beforeHex).length)).drop
            (offset + (spelled replacementHex).length) = base
      rw [List.drop_left' (by rw [List.length_append, htake]), List.append_assoc (base.take offset),
        List.take_left' htake, hsplit]
  | truncate beforeHex newLength originalLength => cases hundo

/-- An edit that replays is exact, is no no-op, and is undone by its inverse. No edit stops on an index,
a slice or a copy. -/
theorem byte_edits_exact :
    (∀ base operation out, reconstructByteEdit base operation = .ok out →
      Witnessed base operation ∧ out = edited base operation ∧ out ≠ base) ∧
    (∀ base operation, reconstructByteEdit base operation ≠ .error .outOfRange) ∧
    ∀ base operation out undo, reconstructByteEdit base operation = .ok out →
      inverse operation = some undo → reconstructByteEdit out undo = .ok base := by
  refine ⟨?_, fun _ _ => reconstructByteEdit_ne_outOfRange, ?_⟩
  · intro base operation out h
    obtain ⟨-, hadmitted, hw, -, rfl⟩ := reconstructByteEdit_ok.mp h
    exact ⟨hw, rfl, edited_ne hadmitted hw⟩
  · intro base operation out undo h hundo
    obtain ⟨hbase, hadmitted, hw, hbound, rfl⟩ := reconstructByteEdit_ok.mp h
    obtain ⟨hwitness, hback⟩ := edited_inverse hadmitted hw hundo
    exact reconstructByteEdit_ok.mpr ⟨hbound, admitted_inverse hadmitted hundo, hwitness,
      by rwa [hback], hback.symm⟩

end Undoing

end Eip0045.Mutation
