import Eip0045.Framing.EnvelopeCodec
import Eip0045.Profile.InitialTarget

/-! The consumer's decoder of opcode inputs and the opcode policy that precedes the seal. -/

namespace Eip0045.Opcode

open Bytes Checked Constants SubjectEnvelope Manifest

namespace Consumer

def opcodeProofVectorMinBytes : ℕ := 2 + 3 * 4
def opcodeProofVectorMaxBytes : ℕ := 2 + 5 * 4 + proofBytes + 4
def opcodeProofVectorMinChunks : ℕ := 3
def opcodeProofVectorMaxChunks : ℕ := 5
def opcodeProofChunkMaxBytes : ℕ := 65536
def opcodeProofVectorMaxPayloadBytes : ℕ := proofBytes + 4
def opcodeIdMinBytes : ℕ := digestBytes - 1
def opcodeIdMaxBytes : ℕ := digestBytes + 1

def opcodePartBounds : List PartBounds := [
  ⟨opcodeProofVectorMinBytes, opcodeProofVectorMaxBytes⟩,
  ⟨0, maxApplicationPayloadBytes + 1⟩,
  ⟨opcodeIdMinBytes, opcodeIdMaxBytes⟩,
  ⟨opcodeIdMinBytes, opcodeIdMaxBytes⟩]

/-- The boundaries of the opcode policy. -/
inductive B4NegativeVerifierBoundary
  | opcodeProfileIdLength
  | opcodeProgramIdLength
  | opcodeApplicationPayloadLength
  | opcodeProofChunkCount
  | opcodeProofChunkLength
  deriving DecidableEq

inductive B4ProofVectorEnvelopeError
  | truncatedCount
  | framingChunkCount
  | truncatedLength (index : ℕ)
  | chunkTooLarge (index actual : ℕ)
  | cumulativePayloadTooLarge
  | arithmeticOverflow
  | truncatedChunk (index : ℕ)
  | trailingBytes
  deriving DecidableEq

/-- The failures of the functions below, which are no observations of a campaign. -/
inductive B4NegativeVerifierAdapterError
  | subjectEnvelope (error : EnvelopeError)
  | proofVectorEnvelope (error : B4ProofVectorEnvelopeError)
  | profileContext
  | opcodeBaseBinding
  deriving DecidableEq

abbrev Result (α : Type) := Except (Fault B4NegativeVerifierAdapterError) α

structure B4OpcodeInputs where
  proofChunks : List Bytes
  applicationPayload : Bytes
  programId : Bytes
  profileId : Bytes
  deriving DecidableEq

section Decoder

/-- The loop over the chunks that are left, with the cursor where it ends. -/
def proofChunksFrom (source : Bytes) :
    ℕ → ℕ → ℕ → ℕ → Except B4ProofVectorEnvelopeError (List Bytes × ℕ)
  | 0, _, _, cursor => pure ([], cursor)
  | remaining + 1, index, cumulative, cursor => do
    let lengthEnd ← context .arithmeticOverflow (checkedAdd cursor 4)
    let lengthBytes ← context (.truncatedLength index) (getRange source cursor lengthEnd)
    let lengthArray ← context (.truncatedLength index) (ByteArr.ofBytes 4 lengthBytes)
    let length := (ofLe32 lengthArray.val).toNat
    ensure (¬length > opcodeProofChunkMaxBytes) (.chunkTooLarge index length)
    let cumulative ← context .arithmeticOverflow (checkedAdd cumulative length)
    ensure (¬cumulative > opcodeProofVectorMaxPayloadBytes) .cumulativePayloadTooLarge
    let chunkEnd ← context .arithmeticOverflow (checkedAdd lengthEnd length)
    let chunk ← context (.truncatedChunk index) (getRange source lengthEnd chunkEnd)
    let (chunks, stop) ← proofChunksFrom source remaining (index + 1) cumulative chunkEnd
    pure (chunk :: chunks, stop)

def decodeProofVector (source : Bytes) : Except B4ProofVectorEnvelopeError (List Bytes) := do
  let countBytes ← context .truncatedCount (getRange source 0 2)
  let countArray ← context .truncatedCount (ByteArr.ofBytes 2 countBytes)
  let count := (ofLe16 countArray.val).toNat
  ensure (opcodeProofVectorMinChunks ≤ count ∧ count ≤ opcodeProofVectorMaxChunks)
    .framingChunkCount
  let (chunks, cursor) ← proofChunksFrom source count 0 0 2
  ensure (¬cursor ≠ source.length) .trailingBytes
  pure chunks

def decodeOpcodeSubject (subject : Bytes) : Result B4OpcodeInputs := do
  let parts ← mapFault .subjectEnvelope
    (decodeSubjectEnvelope subject ⟨.opcodeInputs, opcodePartBounds⟩)
  let proofVector ← item parts 0
  let proofChunks ← shown .proofVectorEnvelope (decodeProofVector proofVector)
  let applicationPayload ← item parts 1
  let programId ← item parts 2
  let profileId ← item parts 3
  pure ⟨proofChunks, applicationPayload, programId, profileId⟩

def concatenateProofChunks (chunks : List Bytes) : Result Bytes := do
  let raw := chunks.flatten
  ensure (¬raw.length ≠ proofBytes) (.reported .opcodeBaseBinding)
  pure raw

end Decoder

section Preflight

variable (blake2b256 : Bytes → Digest)

def preflightOpcodeInputs (manifest : StarkProfileManifestV1) (opcode : B4OpcodeInputs) :
    Result (Option B4NegativeVerifierBoundary) :=
  if opcode.profileId.length ≠ digestBytes then pure (some .opcodeProfileIdLength)
  else if opcode.programId.length ≠ digestBytes then pure (some .opcodeProgramIdLength)
  else if opcode.applicationPayload.length > manifest.maxApplicationPayloadBytes.toNat then
    pure (some .opcodeApplicationPayloadLength)
  else if opcode.proofChunks.length ≠ proofChunkLengths.length then
    pure (some .opcodeProofChunkCount)
  else if opcode.proofChunks.map List.length ≠ proofChunkLengths then
    pure (some .opcodeProofChunkLength)
  else do
    let profileId ← mapError (.reported .profileContext) (Manifest.profileId blake2b256 manifest)
    ensure (¬opcode.profileId ≠ profileId.val) (.reported .opcodeBaseBinding)
    pure none

end Preflight

end Consumer

end Eip0045.Opcode
