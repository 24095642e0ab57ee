import Eip0045.Framing.EnvelopeCodec

/-! The producer's codec of opcode inputs: the raw seal cut into chunks, the vector of the chunks,
the envelope of the four inputs, and its own decoder of both layers. -/

namespace Eip0045.Opcode

open Bytes Checked Constants SubjectEnvelope

namespace Producer

abbrev Result (α : Type) := Except (Fault String) α

def opcodeProofVectorMinBytes : ℕ := 2 + 3 * 4
def opcodeProofVectorMaxBytes : ℕ := 2 + 5 * 4 + proofBytes + 4
def producerOpcodeEnvelopeMagic : Bytes := utf8 "EIP45B4S"
def producerOpcodeEnvelopeVersion : UInt8 := 1
def producerOpcodeEnvelopeKind : UInt8 := 0x01
def producerOpcodeEnvelopePartCount : ℕ := 4
def producerOpcodeEnvelopeHeaderBytes : ℕ := 8 + 1 + 1 + 2

def producerOpcodePartLengthBounds : List (ℕ × ℕ) := [
  (opcodeProofVectorMinBytes, opcodeProofVectorMaxBytes),
  (0, maxApplicationPayloadBytes + 1),
  (31, 33),
  (31, 33)]

def opcodePartBounds : List PartBounds :=
  producerOpcodePartLengthBounds.map fun bounds => ⟨bounds.1, bounds.2⟩

section Chunks

/-- The loop of `split_at_lengths`, with the offset where it ends. -/
def chunksFrom (source : Bytes) : ℕ → List ℕ → Result (List Bytes × ℕ)
  | offset, [] => pure ([], offset)
  | offset, length :: rest => do
    let stop ← context (.reported "C2 chunk boundary overflows usize") (checkedAdd offset length)
    let chunk ← context (.reported "C2 chunk boundary exceeds its source")
      (getRange source offset stop)
    let (chunks, offset) ← chunksFrom source stop rest
    pure (chunk :: chunks, offset)

def splitAtLengths (source : Bytes) (lengths : List ℕ) : Result (List Bytes) := do
  let (chunks, offset) ← chunksFrom source 0 lengths
  ensure (offset = source.length) (.reported "C2 chunking does not consume EOF")
  pure chunks

def splitRawSeal (rawSeal : Bytes) : Result (List Bytes) := do
  ensure (rawSeal.length = proofBytes)
    (.reported "C2 canonical raw seal has the wrong exact length")
  splitAtLengths rawSeal proofChunkLengths

end Chunks

section Encoder

/-- The fold over the chunks that checks and adds up their lengths. -/
def cumulativeLength : ℕ → List Bytes → Result ℕ
  | total, [] => pure total
  | total, chunk :: rest => do
    ensure (chunk.length ≤ 65536) (.reported "C2 proof-vector chunk exceeds the framing bound")
    let total ← context (.reported "C2 proof-vector payload length overflows")
      (checkedAdd total chunk.length)
    cumulativeLength total rest

def tryFromInt (limit n : ℕ) : Result ℕ := do
  ensure (n < limit) (.reported "out of range integral type conversion attempted")
  pure n

def encodeChunks : List Bytes → Result Bytes
  | [] => pure []
  | chunk :: rest => do
    let length ← tryFromInt (2 ^ 32) chunk.length
    let encoded ← encodeChunks rest
    pure (le32 (UInt32.ofNat length) ++ chunk ++ encoded)

def encodeProofVector (chunks : List Bytes) : Result Bytes := do
  ensure (3 ≤ chunks.length ∧ chunks.length ≤ 5)
    (.reported "C2 proof-vector chunk count is outside the framing grammar")
  let cumulative ← cumulativeLength 0 chunks
  ensure (cumulative ≤ proofBytes + 4)
    (.reported "C2 proof-vector payload exceeds its framing bound")
  let count ← tryFromInt (2 ^ 16) chunks.length
  let encoded ← encodeChunks chunks
  pure (le16 (UInt16.ofNat count) ++ encoded)

def encodeOpcodeSubject (chunks : List Bytes) (applicationPayload programId profileId : Bytes) :
    Result Bytes := do
  let proofVector ← encodeProofVector chunks
  mapFault EnvelopeError.display
    (encodeSubjectEnvelope [proofVector, applicationPayload, programId, profileId]
      ⟨.opcodeInputs, opcodePartBounds⟩)

end Encoder

section Decoder

structure B4ProducerOpcodeInputsV1 where
  proofChunks : List Bytes
  applicationPayload : Bytes
  programId : Bytes
  profileId : Bytes
  deriving DecidableEq

/-- The loop over the four parts, with the cursor where it ends. -/
def partsFrom (subject : Bytes) : ℕ → ℕ → List (ℕ × ℕ) → Result (List Bytes × ℕ)
  | _, cursor, [] => pure ([], cursor)
  | index, cursor, (minimum, maximum) :: rest => do
    let lengthEnd ← context (.reported "producer opcode-input part-length offset overflows")
      (checkedAdd cursor 4)
    let lengthBytes ← context
      (.reported s!"producer opcode-input part {index} length is truncated")
      (getRange subject cursor lengthEnd)
    let lengthArray ← context
      (.reported s!"producer opcode-input part {index} length has the wrong width")
      (ByteArr.ofBytes 4 lengthBytes)
    let length := (ofLe32 lengthArray.val).toNat
    ensure (minimum ≤ length ∧ length ≤ maximum)
      (.reported s!"producer opcode-input part {index} length is outside its exact bound")
    let partEnd ← context (.reported "producer opcode-input part offset overflows")
      (checkedAdd lengthEnd length)
    let part ← context (.reported s!"producer opcode-input part {index} is truncated")
      (getRange subject lengthEnd partEnd)
    let (parts, stop) ← partsFrom subject (index + 1) partEnd rest
    pure (part :: parts, stop)

/-- The loop over the chunks that are left, with the cursor where it ends. -/
def vectorChunksFrom (source : Bytes) : ℕ → ℕ → ℕ → ℕ → Result (List Bytes × ℕ)
  | 0, _, _, cursor => pure ([], cursor)
  | remaining + 1, index, cumulative, cursor => do
    let lengthEnd ← context (.reported "producer proof-vector length offset overflows")
      (checkedAdd cursor 4)
    let lengthBytes ← context
      (.reported s!"producer proof-vector chunk {index} length is truncated")
      (getRange source cursor lengthEnd)
    let lengthArray ← context
      (.reported s!"producer proof-vector chunk {index} length has the wrong width")
      (ByteArr.ofBytes 4 lengthBytes)
    let length := (ofLe32 lengthArray.val).toNat
    ensure (length ≤ 65536)
      (.reported s!"producer proof-vector chunk {index} exceeds the framing bound")
    let cumulative ← context (.reported "producer proof-vector cumulative payload overflows")
      (checkedAdd cumulative length)
    ensure (cumulative ≤ proofBytes + 4)
      (.reported "producer proof-vector cumulative payload exceeds the framing bound")
    let chunkEnd ← context (.reported "producer proof-vector chunk offset overflows")
      (checkedAdd lengthEnd length)
    let chunk ← context (.reported s!"producer proof-vector chunk {index} is truncated")
      (getRange source lengthEnd chunkEnd)
    let (chunks, stop) ← vectorChunksFrom source remaining (index + 1) cumulative chunkEnd
    pure (chunk :: chunks, stop)

def decodeProducerProofVector (source : Bytes) : Result (List Bytes) := do
  let countBytes ← context (.reported "producer proof vector has a truncated chunk count")
    (getRange source 0 2)
  let countArray ← context (.reported "producer proof-vector count has the wrong width")
    (ByteArr.ofBytes 2 countBytes)
  let count := (ofLe16 countArray.val).toNat
  ensure (3 ≤ count ∧ count ≤ 5)
    (.reported "producer proof-vector chunk count is outside the framing grammar")
  let (chunks, cursor) ← vectorChunksFrom source count 0 0 2
  ensure (cursor = source.length)
    (.reported "producer proof-vector decoder did not consume exact EOF")
  pure chunks

def decodeProducerOpcodeSubject (subject : Bytes) : Result B4ProducerOpcodeInputsV1 := do
  ensure (subject.length ≥ producerOpcodeEnvelopeHeaderBytes)
    (.reported "producer opcode-input envelope header is truncated")
  ensure (getRange subject 0 producerOpcodeEnvelopeMagic.length = some producerOpcodeEnvelopeMagic)
    (.reported "producer opcode-input envelope magic is invalid")
  let version ← item subject producerOpcodeEnvelopeMagic.length
  ensure (version = producerOpcodeEnvelopeVersion)
    (.reported "producer opcode-input envelope version is invalid")
  let kind ← item subject (producerOpcodeEnvelopeMagic.length + 1)
  ensure (kind = producerOpcodeEnvelopeKind)
    (.reported "producer opcode-input envelope kind is not OpcodeInputs")
  let countStart := producerOpcodeEnvelopeMagic.length + 2
  let countEnd ← context (.reported "producer opcode-input part-count offset overflows")
    (checkedAdd countStart 2)
  let countBytes ← context (.reported "producer opcode-input part count is truncated")
    (getRange subject countStart countEnd)
  let countArray ← context (.reported "producer opcode-input part count has the wrong width")
    (ByteArr.ofBytes 2 countBytes)
  let partCount := (ofLe16 countArray.val).toNat
  ensure (partCount = producerOpcodeEnvelopePartCount)
    (.reported "producer opcode-input envelope does not have exactly four ordered parts")
  let (parts, cursor) ← partsFrom subject 0 countEnd producerOpcodePartLengthBounds
  ensure (cursor = subject.length)
    (.reported "producer opcode-input envelope did not consume exact EOF")
  let proofVector ← item parts 0
  let proofChunks ← decodeProducerProofVector proofVector
  let applicationPayload ← item parts 1
  let programId ← item parts 2
  let profileId ← item parts 3
  pure ⟨proofChunks, applicationPayload, programId, profileId⟩

end Decoder

end Producer

end Eip0045.Opcode
