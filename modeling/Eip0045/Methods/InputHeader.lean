import Mathlib
import Eip0045.Library.Bytes
import Eip0045.Library.Checked

/-! The private input header of the calibration guest. -/

namespace Eip0045.Methods

open Bytes Checked

def guestInputHeaderBytes : ℕ := 60
def guestStatementChunkBytes : ℕ := 256
def maxStatementBytes : ℕ := 16543

section Data

inductive GuestMode
  | plain
  | verifyAssumptionZeroRoot
  | verifyAssumptionExplicitRoot
  | verifyAssumptionExplicitRootTwice
  deriving DecidableEq

inductive InputAbiError
  | invalidHeaderLength (actual expected : ℕ)
  | statementTooLong (actual maximum : ℕ)
  | invalidMode (value : UInt32)
  | unexpectedAssumptionImageId
  | missingAssumptionImageId

def GuestMode.fromU32 (value : UInt32) : Except InputAbiError GuestMode :=
  match value.toNat with
  | 0 => .ok .plain
  | 1 => .ok .verifyAssumptionZeroRoot
  | 2 => .ok .verifyAssumptionExplicitRoot
  | 3 => .ok .verifyAssumptionExplicitRootTwice
  | _ => .error (.invalidMode value)

/-- `self.mode as u32`. -/
def GuestMode.toU32 : GuestMode → UInt32
  | .plain => 0
  | .verifyAssumptionZeroRoot => 1
  | .verifyAssumptionExplicitRoot => 2
  | .verifyAssumptionExplicitRootTwice => 3

def GuestMode.assumptionCount : GuestMode → ℕ
  | .plain => 0
  | .verifyAssumptionZeroRoot | .verifyAssumptionExplicitRoot => 1
  | .verifyAssumptionExplicitRootTwice => 2

structure GuestInputHeader where
  mode : GuestMode
  statementLength : UInt32
  workloadIterations : UInt32
  workloadSeed : UInt64
  expectedWorkloadResult : UInt64
  assumptionImageId : Digest

end Data

section Workload

def nextStatementChunkLength (remaining : ℕ) : ℕ :=
  if remaining < guestStatementChunkBytes then remaining else guestStatementChunkBytes

def workloadRound (state : UInt64) (round : ℕ) : UInt64 :=
  let state := state + (0x9e3779b97f4a7c15 ^^^ UInt64.ofNat round)
  let state := (state ^^^ (state >>> 30)) * 0xbf58476d1ce4e5b9
  let state := (state ^^^ (state >>> 27)) * 0x94d049bb133111eb
  state ^^^ (state >>> 31)

def workloadResult (state : UInt64) (iterations : UInt32) : UInt64 :=
  (List.range iterations.toNat).foldl workloadRound state

end Workload

section Codec

def validateStatementLength (statementLength : ℕ) : Except InputAbiError Unit :=
  ensure (statementLength ≤ maxStatementBytes) (.statementTooLong statementLength maxStatementBytes)

def validateModeImageId (mode : GuestMode) (assumptionImageId : Digest) : Except InputAbiError Unit :=
  let isZero := ∀ byte ∈ assumptionImageId.val, byte = 0
  match mode with
  | .plain => ensure isZero .unexpectedAssumptionImageId
  | .verifyAssumptionZeroRoot
  | .verifyAssumptionExplicitRoot
  | .verifyAssumptionExplicitRootTwice => ensure (¬isZero) .missingAssumptionImageId

def newForMode (mode : GuestMode) (statementLength : ℕ) (workloadIterations : UInt32)
    (workloadSeed : UInt64) (assumptionImageId : Digest) : Except InputAbiError GuestInputHeader := do
  validateStatementLength statementLength
  validateModeImageId mode assumptionImageId
  let statementLength ← context (.statementTooLong statementLength maxStatementBytes)
    (if statementLength < 2 ^ 32 then some (UInt32.ofNat statementLength) else none)
  pure {
    mode, statementLength, workloadIterations, workloadSeed, assumptionImageId
    expectedWorkloadResult := workloadResult workloadSeed workloadIterations }

/-- `split_first_chunk::<n>`. -/
def splitFirstChunk (n : ℕ) (bytes : Bytes) : Option (ByteArr n × Bytes) :=
  if h : n ≤ bytes.length then some (⟨bytes.take n, List.length_take_of_le h⟩, bytes.drop n) else none

def decode (bytes : Bytes) : Except InputAbiError GuestInputHeader := do
  let invalidHeader := .invalidHeaderLength bytes.length guestInputHeaderBytes
  ensure (bytes.length = guestInputHeaderBytes) invalidHeader
  let mode ← context invalidHeader (splitFirstChunk 4 bytes)
  let statementLength ← context invalidHeader (splitFirstChunk 4 mode.2)
  let workloadIterations ← context invalidHeader (splitFirstChunk 4 statementLength.2)
  let workloadSeed ← context invalidHeader (splitFirstChunk 8 workloadIterations.2)
  let expectedWorkloadResult ← context invalidHeader (splitFirstChunk 8 workloadSeed.2)
  let assumptionImageId ← context invalidHeader (ByteArr.ofBytes 32 expectedWorkloadResult.2)
  let mode ← GuestMode.fromU32 (ofLe32 mode.1.val)
  let statementLength := ofLe32 statementLength.1.val
  validateStatementLength statementLength.toNat
  validateModeImageId mode assumptionImageId
  pure {
    mode, statementLength, assumptionImageId
    workloadIterations := ofLe32 workloadIterations.1.val
    workloadSeed := ofLe64 workloadSeed.1.val
    expectedWorkloadResult := ofLe64 expectedWorkloadResult.1.val }

def GuestInputHeader.encode (h : GuestInputHeader) : Bytes :=
  le32 h.mode.toU32 ++ le32 h.statementLength ++ le32 h.workloadIterations ++ le64 h.workloadSeed ++
    le64 h.expectedWorkloadResult ++ h.assumptionImageId.val

end Codec

section Canonical

/-- The length bound and the image id that the mode asks for. -/
structure GuestInputHeader.Valid (h : GuestInputHeader) : Prop where
  statementLength : h.statementLength.toNat ≤ maxStatementBytes
  imageId : h.mode = .plain ↔ h.assumptionImageId = ByteArr.zero 32

lemma fromU32_toU32 (mode : GuestMode) : GuestMode.fromU32 mode.toU32 = .ok mode := by
  cases mode <;> rfl

lemma fromU32_ok {value : UInt32} {mode : GuestMode} :
    GuestMode.fromU32 value = .ok mode ↔ value = mode.toU32 := by
  constructor
  · intro h
    rw [GuestMode.fromU32] at h
    split at h
    case h_5 => cases h
    all_goals
      cases h
      apply UInt32.toNat_inj.mp
      assumption
  · intro h
    rw [h, fromU32_toU32]

lemma isZero_iff {id : Digest} : (∀ byte ∈ id.val, byte = 0) ↔ id = ByteArr.zero 32 := by
  have hzero : (ByteArr.zero 32).val = List.replicate 32 0 := rfl
  constructor
  · intro h
    apply List.Vector.eq
    exact (List.eq_replicate_of_mem h).trans (by rw [ByteArr.val_length]; rfl)
  · intro h byte hbyte
    rw [h, hzero] at hbyte
    exact List.eq_of_mem_replicate hbyte

lemma validateModeImageId_ok {mode : GuestMode} {id : Digest} :
    validateModeImageId mode id = .ok () ↔ (mode = .plain ↔ id = ByteArr.zero 32) := by
  rw [← isZero_iff]
  cases mode <;> simp [validateModeImageId]

lemma splitFirstChunk_eq_some {n : ℕ} {bytes rest : Bytes} {chunk : ByteArr n} :
    splitFirstChunk n bytes = some (chunk, rest) ↔ bytes = chunk.val ++ rest := by
  rw [splitFirstChunk]
  constructor
  · intro h
    split at h
    · cases h
      exact (List.take_append_drop n bytes).symm
    · cases h
  · intro h
    subst h
    have hlength := chunk.val_length
    rw [dif_pos (by rw [List.length_append]; omega)]
    exact congrArg some (Prod.ext (List.Vector.eq _ _ (List.take_left' hlength)) (List.drop_left' hlength))

lemma decode_ok {bytes : Bytes} {h : GuestInputHeader} :
    decode bytes = .ok h ↔ bytes = h.encode ∧ h.Valid := by
  simp only [decode, bind_ok, exists_unit, ensure_ok, context_ok, pure_ok, Prod.exists,
    splitFirstChunk_eq_some, ByteArr.ofBytes_eq_some, fromU32_ok, validateStatementLength,
    validateModeImageId_ok]
  constructor
  · intro hdecode
    obtain ⟨-, modeBytes, _, rfl, lengthBytes, _, rfl, iterationBytes, _, rfl, seedBytes, _, rfl,
      expectedBytes, _, rfl, id, rfl, mode, hmode, hlength, hid, rfl⟩ := hdecode
    refine ⟨?_, hlength, hid⟩
    rw [GuestInputHeader.encode, ← hmode, le32_ofLe32 modeBytes.val_length,
      le32_ofLe32 lengthBytes.val_length, le32_ofLe32 iterationBytes.val_length,
      le64_ofLe64 seedBytes.val_length, le64_ofLe64 expectedBytes.val_length]
    simp only [List.append_assoc]
  · intro hvalid
    obtain ⟨rfl, hlength, hid⟩ := hvalid
    refine ⟨?_, ⟨le32 h.mode.toU32, le32_length _⟩, _, ?_, ⟨le32 h.statementLength, le32_length _⟩, _, rfl,
      ⟨le32 h.workloadIterations, le32_length _⟩, _, rfl, ⟨le64 h.workloadSeed, le64_length _⟩, _, rfl,
      ⟨le64 h.expectedWorkloadResult, le64_length _⟩, _, rfl, h.assumptionImageId, rfl, h.mode, ?_, ?_,
      hid, ?_⟩
    · simp [GuestInputHeader.encode, guestInputHeaderBytes]
    · simp only [GuestInputHeader.encode, List.append_assoc]
    · exact ofLe32_le32 _
    · rw [ofLe32_le32]
      exact hlength
    · simp only [ofLe32_le32, ofLe64_le64]

lemma newForMode_ok {mode : GuestMode} {statementLength : ℕ} {workloadIterations : UInt32}
    {workloadSeed : UInt64} {id : Digest} {h : GuestInputHeader}
    (hnew : newForMode mode statementLength workloadIterations workloadSeed id = .ok h) :
    h.Valid ∧ h.statementLength.toNat = statementLength ∧
      workloadResult h.workloadSeed h.workloadIterations = h.expectedWorkloadResult := by
  simp only [newForMode, bind_ok, exists_unit, ensure_ok, context_ok, pure_ok, validateStatementLength,
    validateModeImageId_ok] at hnew
  obtain ⟨hlength, hid, _, hu32, rfl⟩ := hnew
  split at hu32
  · obtain rfl := Option.some.inj hu32
    have hsame : (UInt32.ofNat statementLength).toNat = statementLength := by
      rw [UInt32.toNat_ofNat']
      exact Nat.mod_eq_of_lt (by assumption)
    exact ⟨⟨hsame.le.trans hlength, hid⟩, hsame, rfl⟩
  · cases hu32

end Canonical

end Eip0045.Methods
