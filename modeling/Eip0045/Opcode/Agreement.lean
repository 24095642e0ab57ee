import Eip0045.Opcode.Producer
import Eip0045.Opcode.Consumer

/-! Both decoders of opcode inputs accept exactly what the encoder writes. -/

namespace Eip0045.Opcode

open Bytes Checked Constants Frames SubjectEnvelope

section Vectors

variable {ε : Type} {chunks : List Bytes} {source : Bytes}

/-- The chunks that the framing of a proof vector admits. -/
structure Framed (chunks : List Bytes) : Prop where
  count : 3 ≤ chunks.length ∧ chunks.length ≤ 5
  chunk : ∀ chunk ∈ chunks, chunk.length ≤ 65536
  payload : chunks.flatten.length ≤ proofBytes + 4

def vector (chunks : List Bytes) : Bytes :=
  le16 (UInt16.ofNat chunks.length) ++ chunks.flatMap frame

lemma frames_length (chunks : List Bytes) :
    (chunks.flatMap frame).length = 4 * chunks.length + chunks.flatten.length := by
  induction chunks with
  | nil => rfl
  | cons chunk chunks ih =>
    rw [List.flatMap_cons, List.length_append, ih, frame_length, List.flatten_cons,
      List.length_append, List.length_cons]
    omega

lemma vector_length (chunks : List Bytes) :
    (vector chunks).length = 2 + 4 * chunks.length + chunks.flatten.length := by
  rw [vector, List.length_append, le16_length, frames_length, Nat.add_assoc]

/-- How a length is accepted against what the chunks before it have left. -/
def AcceptsChunk (accept : ℕ → ℕ → ℕ → Except ε ℕ) : Prop :=
  ∀ index cumulative length next, accept index cumulative length = .ok next ↔
    length ≤ 65536 ∧ cumulative + length ≤ proofBytes + 4 ∧ cumulative + length = next

lemma accepts_chunks {accept : ℕ → ℕ → ℕ → Except ε ℕ} (haccept : AcceptsChunk accept)
    {index cumulative : ℕ} (hc : cumulative ≤ proofBytes + 4) :
    Accepts accept index cumulative chunks ↔ (∀ chunk ∈ chunks, chunk.length ≤ 65536) ∧
      cumulative + chunks.flatten.length ≤ proofBytes + 4 := by
  induction chunks generalizing index cumulative with
  | nil => exact ⟨fun _ => ⟨fun _ h => absurd h List.not_mem_nil, hc⟩, fun _ => trivial⟩
  | cons chunk chunks ih =>
    rw [Accepts, List.forall_mem_cons, List.flatten_cons, List.length_append]
    constructor
    · rintro ⟨next, hnext, hrest⟩
      obtain ⟨hchunk, hsum, rfl⟩ := (haccept _ _ _ _).mp hnext
      obtain ⟨hchunks, htotal⟩ := (ih hsum).mp hrest
      exact ⟨⟨hchunk, hchunks⟩, by omega⟩
    · rintro ⟨⟨hchunk, hchunks⟩, htotal⟩
      refine ⟨_, (haccept _ _ _ _).mpr ⟨hchunk, by omega, rfl⟩, (ih (by omega)).mpr ⟨hchunks, ?_⟩⟩
      omega

lemma readVector_ok {errors : ℕ → FrameErrors ε} {accept : ℕ → ℕ → ℕ → Except ε ℕ}
    (haccept : AcceptsChunk accept) :
    (∃ count : ByteArr 2, getRange source 0 2 = some count.val ∧
      (3 ≤ (ofLe16 count.val).toNat ∧ (ofLe16 count.val).toNat ≤ 5) ∧
        readFrames errors accept source (ofLe16 count.val).toNat 0 0 2 =
          .ok (chunks, source.length)) ↔ Framed chunks ∧ source = vector chunks := by
  have hzero : 0 ≤ proofBytes + 4 := Nat.zero_le _
  have hbytes : proofBytes + 4 = 222672 := rfl
  constructor
  · rintro ⟨count, hrange, hcount, hframes⟩
    have htwo : 2 ≤ source.length := (getRange_eq_some.mp hrange).2.1
    obtain ⟨hlen, haccepts, -, hinitial, hstop, -⟩ :=
      (readFrames_ok htwo (by decide)).mp hframes
    obtain ⟨hchunk, hpayload⟩ := (accepts_chunks haccept hzero).mp haccepts
    rw [Nat.zero_add] at hpayload
    have hle : le16 (UInt16.ofNat chunks.length) = count.val := by
      rw [hlen, UInt16.ofNat_toNat, le16_ofLe16 count.2]
    rw [getInitial_iff] at hrange
    refine ⟨⟨hlen ▸ hcount, hchunk, hpayload⟩, ?_⟩
    have hvector : vector chunks <+: source := by
      rw [vector, Reading.append_prefix_iff, le16_length, hle]
      exact ⟨hrange.2, hinitial⟩
    refine (hvector.eq_of_length ?_).symm
    rw [hstop, vector, List.length_append, le16_length]
  · rintro ⟨⟨hcount, hchunk, hpayload⟩, rfl⟩
    have hnat : (UInt16.ofNat chunks.length).toNat = chunks.length := by
      rw [UInt16.toNat_ofNat']
      exact Nat.mod_eq_of_lt (by omega)
    have hlen := vector_length chunks
    have hframes := frames_length chunks
    refine ⟨⟨le16 (UInt16.ofNat chunks.length), le16_length _⟩, ?_, ?_, ?_⟩
    · rw [getInitial_iff]
      exact ⟨le16_length _, List.prefix_append _ _⟩
    · rwa [ofLe16_le16, hnat]
    · rw [ofLe16_le16, hnat, readFrames_ok (by omega) (by decide)]
      refine ⟨rfl, (accepts_chunks haccept hzero).mpr ⟨hchunk, by omega⟩, ?_, ?_, ?_, by omega⟩
      · intro chunk hmem
        exact (hchunk chunk hmem).trans_lt (by decide)
      · rw [vector, ← le16_length (UInt16.ofNat chunks.length), List.drop_left]
      · rw [hlen, hframes, Nat.add_assoc]

end Vectors

section ProducerVector

namespace Producer

variable {chunks : List Bytes} {source : Bytes}

def chunkErrors (index : ℕ) : FrameErrors (Fault String) where
  lengthOverflow := .reported "producer proof-vector length offset overflows"
  truncatedLength := .reported s!"producer proof-vector chunk {index} length is truncated"
  lengthWidth := .reported s!"producer proof-vector chunk {index} length has the wrong width"
  partOverflow := .reported "producer proof-vector chunk offset overflows"
  truncatedPart := .reported s!"producer proof-vector chunk {index} is truncated"

def acceptChunk (index cumulative length : ℕ) : Result ℕ := do
  ensure (length ≤ 65536)
    (.reported s!"producer proof-vector chunk {index} exceeds the framing bound")
  let cumulative ← context (.reported "producer proof-vector cumulative payload overflows")
    (checkedAdd cumulative length)
  ensure (cumulative ≤ proofBytes + 4)
    (.reported "producer proof-vector cumulative payload exceeds the framing bound")
  pure cumulative

lemma acceptChunk_ok : AcceptsChunk acceptChunk := by
  have hbytes : proofBytes + 4 < 2 ^ 64 := by decide
  intro index cumulative length next
  simp only [acceptChunk, bind_ok, exists_unit, ensure_ok, context_ok, checkedAdd_eq_some, pure_ok]
  constructor
  · rintro ⟨hlength, _, ⟨-, rfl⟩, hsum, rfl⟩
    exact ⟨hlength, hsum, rfl⟩
  · rintro ⟨hlength, hsum, rfl⟩
    exact ⟨hlength, _, ⟨by omega, rfl⟩, hsum, rfl⟩

lemma vectorChunksFrom_eq (remaining index cumulative cursor : ℕ) :
    vectorChunksFrom source remaining index cumulative cursor =
      readFrames chunkErrors acceptChunk source remaining index cumulative cursor := by
  induction remaining generalizing index cumulative cursor with
  | zero => rfl
  | succ remaining ih =>
    simp only [vectorChunksFrom, readFrames, readFrame, acceptChunk, bind_assoc, pure_bind, ih]
    rfl

lemma decodeProducerProofVector_ok : decodeProducerProofVector source = .ok chunks ↔
    Framed chunks ∧ source = vector chunks := by
  rw [← @readVector_ok _ _ _ chunkErrors _ acceptChunk_ok]
  simp only [decodeProducerProofVector, bind_ok, exists_unit, ensure_ok, context_ok,
    ByteArr.ofBytes_eq_some, vectorChunksFrom_eq, Prod.exists, pure_ok]
  constructor
  · rintro ⟨_, hrange, count, rfl, hcount, _, _, hframes, rfl, rfl⟩
    exact ⟨count, hrange, hcount, hframes⟩
  · rintro ⟨count, hrange, hcount, hframes⟩
    exact ⟨_, hrange, count, rfl, hcount, _, _, hframes, rfl, rfl⟩

end Producer

end ProducerVector

section ConsumerVector

namespace Consumer

variable {chunks : List Bytes} {source : Bytes}

def chunkErrors (index : ℕ) : FrameErrors B4ProofVectorEnvelopeError where
  lengthOverflow := .arithmeticOverflow
  truncatedLength := .truncatedLength index
  lengthWidth := .truncatedLength index
  partOverflow := .arithmeticOverflow
  truncatedPart := .truncatedChunk index

def acceptChunk (index cumulative length : ℕ) : Except B4ProofVectorEnvelopeError ℕ := do
  ensure (¬length > opcodeProofChunkMaxBytes) (.chunkTooLarge index length)
  let cumulative ← context .arithmeticOverflow (checkedAdd cumulative length)
  ensure (¬cumulative > opcodeProofVectorMaxPayloadBytes) .cumulativePayloadTooLarge
  pure cumulative

lemma acceptChunk_ok : AcceptsChunk acceptChunk := by
  have hbytes : proofBytes + 4 < 2 ^ 64 := by decide
  intro index cumulative length next
  simp only [acceptChunk, bind_ok, exists_unit, ensure_ok, context_ok, checkedAdd_eq_some, pure_ok,
    not_lt]
  constructor
  · rintro ⟨hlength, _, ⟨-, rfl⟩, hsum, rfl⟩
    exact ⟨hlength, hsum, rfl⟩
  · rintro ⟨hlength, hsum, rfl⟩
    exact ⟨hlength, _, ⟨by omega, rfl⟩, hsum, rfl⟩

lemma proofChunksFrom_eq (remaining index cumulative cursor : ℕ) :
    proofChunksFrom source remaining index cumulative cursor =
      readFrames chunkErrors acceptChunk source remaining index cumulative cursor := by
  induction remaining generalizing index cumulative cursor with
  | zero => rfl
  | succ remaining ih =>
    simp only [proofChunksFrom, readFrames, readFrame, acceptChunk, bind_assoc, pure_bind, ih]
    rfl

lemma decodeProofVector_ok : decodeProofVector source = .ok chunks ↔
    Framed chunks ∧ source = vector chunks := by
  rw [← @readVector_ok _ _ _ chunkErrors _ acceptChunk_ok]
  simp only [decodeProofVector, bind_ok, exists_unit, ensure_ok, context_ok,
    ByteArr.ofBytes_eq_some, proofChunksFrom_eq, Prod.exists, pure_ok, not_not]
  constructor
  · rintro ⟨_, hrange, count, rfl, hcount, _, _, hframes, rfl, rfl⟩
    exact ⟨count, hrange, hcount, hframes⟩
  · rintro ⟨count, hrange, hcount, hframes⟩
    exact ⟨_, hrange, count, rfl, hcount, _, _, hframes, rfl, rfl⟩

end Consumer

end ConsumerVector

section Encoder

namespace Producer

variable {chunks : List Bytes} {encoded : Bytes}

lemma cumulativeLength_ok {total cumulative : ℕ} (h : total < 2 ^ 64) :
    cumulativeLength total chunks = .ok cumulative ↔ (∀ chunk ∈ chunks, chunk.length ≤ 65536) ∧
      cumulative = total + chunks.flatten.length ∧ cumulative < 2 ^ 64 := by
  induction chunks generalizing total with
  | nil =>
    rw [cumulativeLength, pure_ok]
    constructor
    · rintro rfl
      exact ⟨fun _ h => absurd h List.not_mem_nil, rfl, h⟩
    · rintro ⟨-, rfl, -⟩
      rfl
  | cons chunk chunks ih =>
    simp only [cumulativeLength, bind_ok, exists_unit, ensure_ok, context_ok, checkedAdd_eq_some,
      List.forall_mem_cons, List.flatten_cons, List.length_append]
    constructor
    · rintro ⟨hchunk, _, ⟨hlt, rfl⟩, hrest⟩
      obtain ⟨hchunks, hsum, hend⟩ := (ih hlt).mp hrest
      exact ⟨⟨hchunk, hchunks⟩, by omega, hend⟩
    · rintro ⟨⟨hchunk, hchunks⟩, hsum, hend⟩
      have hlt : total + chunk.length < 2 ^ 64 := by omega
      exact ⟨hchunk, _, ⟨hlt, rfl⟩, (ih hlt).mpr ⟨hchunks, by omega, hend⟩⟩

lemma encodeChunks_ok : encodeChunks chunks = .ok encoded ↔
    (∀ chunk ∈ chunks, chunk.length < 2 ^ 32) ∧ encoded = chunks.flatMap frame := by
  induction chunks generalizing encoded with
  | nil =>
    rw [encodeChunks, pure_ok]
    simp [eq_comm]
  | cons chunk chunks ih =>
    simp only [encodeChunks, tryFromInt, bind_ok, exists_unit, ensure_ok, ih, pure_ok,
      List.forall_mem_cons]
    constructor
    · rintro ⟨_, ⟨hlt, rfl⟩, _, ⟨hshort, rfl⟩, rfl⟩
      exact ⟨⟨hlt, hshort⟩, rfl⟩
    · rintro ⟨⟨hlt, hshort⟩, rfl⟩
      exact ⟨_, ⟨hlt, rfl⟩, _, ⟨hshort, rfl⟩, rfl⟩

lemma encodeProofVector_ok : encodeProofVector chunks = .ok encoded ↔
    Framed chunks ∧ encoded = vector chunks := by
  have hbytes : proofBytes + 4 < 2 ^ 64 := by decide
  have hzero : 0 < 2 ^ 64 := by decide
  simp only [encodeProofVector, tryFromInt, bind_ok, exists_unit, ensure_ok,
    cumulativeLength_ok hzero, encodeChunks_ok, pure_ok, Nat.zero_add]
  constructor
  · rintro ⟨hcount, _, ⟨hchunk, rfl, -⟩, hpayload, _, ⟨-, rfl⟩, _, ⟨-, rfl⟩, rfl⟩
    exact ⟨⟨hcount, hchunk, hpayload⟩, rfl⟩
  · rintro ⟨⟨hcount, hchunk, hpayload⟩, rfl⟩
    refine ⟨hcount, _, ⟨hchunk, rfl, by omega⟩, hpayload, _, ⟨by omega, rfl⟩, _, ⟨?_, rfl⟩, rfl⟩
    intro chunk hmem
    exact (hchunk chunk hmem).trans_lt (by decide)

end Producer

end Encoder

section Subjects

variable {chunks : List Bytes} {applicationPayload programId profileId subject : Bytes}

/-- The bounds of every decoder on the four inputs. -/
structure Bounded (chunks : List Bytes) (applicationPayload programId profileId : Bytes) :
    Prop where
  framed : Framed chunks
  applicationPayload : applicationPayload.length ≤ maxApplicationPayloadBytes + 1
  programId : 31 ≤ programId.length ∧ programId.length ≤ 33
  profileId : 31 ≤ profileId.length ∧ profileId.length ≤ 33

def opcodeSubject (chunks : List Bytes) (applicationPayload programId profileId : Bytes) : Bytes :=
  envelope .opcodeInputs [vector chunks, applicationPayload, programId, profileId]

lemma opcodePartBounds_eq : Producer.opcodePartBounds = Consumer.opcodePartBounds := rfl

lemma opcodeContract_valid : Valid ⟨.opcodeInputs, Consumer.opcodePartBounds⟩ :=
  ⟨by decide, by decide, by decide⟩

lemma framed_within (h : Framed chunks) :
    Within ⟨Consumer.opcodeProofVectorMinBytes, Consumer.opcodeProofVectorMaxBytes⟩
      (vector chunks) := by
  obtain ⟨hcount, -, hpayload⟩ := h
  rw [Within, vector_length]
  constructor
  · change 2 + 3 * 4 ≤ _
    omega
  · change _ ≤ 2 + 5 * 4 + proofBytes + 4
    omega

lemma bounded_iff : Framed chunks ∧ List.Forall₂ Within Consumer.opcodePartBounds
      [vector chunks, applicationPayload, programId, profileId] ↔
    Bounded chunks applicationPayload programId profileId := by
  rw [Consumer.opcodePartBounds]
  simp only [List.forall₂_cons, List.forall₂_nil_right_iff, and_true]
  constructor
  · rintro ⟨hframed, -, hpayload, hprogram, hprofile⟩
    exact ⟨hframed, hpayload.2, hprogram, hprofile⟩
  · rintro ⟨hframed, hpayload, hprogram, hprofile⟩
    exact ⟨hframed, framed_within hframed, ⟨Nat.zero_le _, hpayload⟩, hprogram, hprofile⟩

lemma four_parts {parts : List Bytes} {a b c d : Bytes} (h : parts.length = 4)
    (ha : parts[0]? = some a) (hb : parts[1]? = some b) (hc : parts[2]? = some c)
    (hd : parts[3]? = some d) : parts = [a, b, c, d] := by
  obtain _ | ⟨_, _ | ⟨_, _ | ⟨_, _ | ⟨_, _ | ⟨_, _⟩⟩⟩⟩⟩ := parts <;> simp_all

namespace Consumer

lemma decodeOpcodeSubject_ok {inputs : B4OpcodeInputs} :
    decodeOpcodeSubject subject = .ok inputs ↔
      Bounded inputs.proofChunks inputs.applicationPayload inputs.programId inputs.profileId ∧
        subject = opcodeSubject inputs.proofChunks inputs.applicationPayload inputs.programId
          inputs.profileId := by
  simp only [decodeOpcodeSubject, bind_ok, mapFault_ok, shown_ok, decodeSubjectEnvelope_ok, item_ok,
    decodeProofVector_ok, pure_ok]
  rw [← bounded_iff]
  constructor
  · rintro ⟨parts, ⟨-, hwithin, rfl⟩, v, hv, chunks, ⟨hframed, rfl⟩, payload, hpayload, program,
      hprogram, profile, hprofile, rfl⟩
    obtain rfl := four_parts hwithin.length_eq.symm hv hpayload hprogram hprofile
    exact ⟨⟨hframed, hwithin⟩, rfl⟩
  · rintro ⟨⟨hframed, hwithin⟩, rfl⟩
    exact ⟨_, ⟨opcodeContract_valid, hwithin, rfl⟩, _, rfl, _, ⟨hframed, rfl⟩, _, rfl, _, rfl, _,
      rfl, rfl⟩

end Consumer

namespace Producer

def inputErrors (index : ℕ) : FrameErrors (Fault String) where
  lengthOverflow := .reported "producer opcode-input part-length offset overflows"
  truncatedLength := .reported s!"producer opcode-input part {index} length is truncated"
  lengthWidth := .reported s!"producer opcode-input part {index} length has the wrong width"
  partOverflow := .reported "producer opcode-input part offset overflows"
  truncatedPart := .reported s!"producer opcode-input part {index} is truncated"

def inputOutOfBounds (index : ℕ) (_ : PartBounds) (_ : ℕ) : Fault String :=
  .reported s!"producer opcode-input part {index} length is outside its exact bound"

lemma partsFrom_eq (bounds : List (ℕ × ℕ)) (index cursor : ℕ) :
    partsFrom subject index cursor bounds =
      readFrames inputErrors (nextBounds inputOutOfBounds) subject
        (bounds.map fun b => PartBounds.mk b.1 b.2).length index
          (bounds.map fun b => PartBounds.mk b.1 b.2) cursor := by
  induction bounds generalizing index cursor with
  | nil => rfl
  | cons b bounds ih =>
    simp only [partsFrom, List.map_cons, List.length_cons, readFrames, readFrame, nextBounds,
      bind_assoc, pure_bind, ih]
    rfl

lemma decodeProducerOpcodeSubject_ok {inputs : B4ProducerOpcodeInputsV1} :
    decodeProducerOpcodeSubject subject = .ok inputs ↔
      Bounded inputs.proofChunks inputs.applicationPayload inputs.programId inputs.profileId ∧
        subject = opcodeSubject inputs.proofChunks inputs.applicationPayload inputs.programId
          inputs.profileId := by
  have hmagic : producerOpcodeEnvelopeMagic = magic := rfl
  have hversion : producerOpcodeEnvelopeVersion = version := rfl
  have hkind : producerOpcodeEnvelopeKind = Kind.opcodeInputs.toByte := rfl
  have hbytes : headerBytes + maximumBytes Consumer.opcodePartBounds < 2 ^ 64 :=
    maximumBytes_le opcodeContract_valid
  have hmax : ∀ b ∈ Consumer.opcodePartBounds, b.maximum < 2 ^ 32 := fun b hb =>
    (opcodeContract_valid.bounds b hb).2
  have hparts : ∀ {parts : List Bytes} {cursor : ℕ}, headerBytes ≤ subject.length →
      (partsFrom subject 0 headerBytes producerOpcodePartLengthBounds = .ok (parts, cursor) ↔
        List.Forall₂ Within Consumer.opcodePartBounds parts ∧
          parts.flatMap frame <+: subject.drop headerBytes ∧
            cursor = headerBytes + (parts.flatMap frame).length) := by
    intro parts cursor hheader
    rw [partsFrom_eq]
    exact readBounded_ok hheader hmax hbytes
  simp only [decodeProducerOpcodeSubject, bind_ok, exists_unit, ensure_ok, context_ok, item_ok,
    checkedAdd_eq_some, ByteArr.ofBytes_eq_some, Prod.exists, decodeProducerProofVector_ok, pure_ok,
    hmagic, hversion, hkind]
  rw [← bounded_iff]
  constructor
  · rintro ⟨hheader, hhead, _, hv, rfl, _, hk, rfl, _, ⟨-, rfl⟩, _, hrange, count, rfl, hcount, parts,
      _, hloop, rfl, v, hvector, chunks, ⟨hframed, rfl⟩, payload, hpayload, program, hprogram,
      profile, hprofile, rfl⟩
    obtain ⟨hwithin, hframes, hstop⟩ := (hparts hheader).mp hloop
    obtain rfl := four_parts hwithin.length_eq.symm hvector hpayload hprogram hprofile
    refine ⟨⟨hframed, hwithin⟩, eq_envelope_iff.mpr ⟨header_iff.mpr ⟨hhead, hv, hk, ?_⟩, hframes,
      hstop⟩⟩
    have hle : le16 (UInt16.ofNat producerOpcodeEnvelopePartCount) = count.val := by
      rw [← hcount, UInt16.ofNat_toNat, le16_ofLe16 count.2]
    have hten : magic.length + 2 ≤ subject.length := le_trans (by decide) hheader
    change le16 (UInt16.ofNat producerOpcodeEnvelopePartCount) <+: _
    rw [hle]
    exact ((getRange_iff hten).mp hrange).2
  · rintro ⟨⟨hframed, hwithin⟩, hsubject⟩
    obtain ⟨hheader, hframes, hlength⟩ := eq_envelope_iff.mp hsubject
    obtain ⟨hhead, hv, hk, hcount⟩ := header_iff.mp hheader
    have htwelve : headerBytes ≤ subject.length := by omega
    refine ⟨htwelve, hhead, _, hv, rfl, _, hk, rfl, _, ⟨by decide, rfl⟩, _, ?_,
      ⟨le16 (UInt16.ofNat 4), le16_length _⟩, rfl, rfl, _, _, (hparts htwelve).mpr
      ⟨hwithin, hframes, rfl⟩, hlength.symm, _, rfl, _, ⟨hframed, rfl⟩, _, rfl, _, rfl, _, rfl, rfl⟩
    have hten : magic.length + 2 ≤ subject.length := le_trans (by decide) htwelve
    exact (getRange_iff hten).mpr ⟨le16_length _, hcount⟩

lemma encodeOpcodeSubject_ok :
    encodeOpcodeSubject chunks applicationPayload programId profileId = .ok subject ↔
      Bounded chunks applicationPayload programId profileId ∧
        subject = opcodeSubject chunks applicationPayload programId profileId := by
  simp only [encodeOpcodeSubject, bind_ok, encodeProofVector_ok, mapFault_ok,
    encodeSubjectEnvelope_ok, opcodePartBounds_eq]
  rw [← bounded_iff]
  constructor
  · rintro ⟨_, ⟨hframed, rfl⟩, -, hwithin, rfl⟩
    exact ⟨⟨hframed, hwithin⟩, rfl⟩
  · rintro ⟨⟨hframed, hwithin⟩, rfl⟩
    exact ⟨_, ⟨hframed, rfl⟩, opcodeContract_valid, hwithin, rfl⟩

end Producer

end Subjects

section Seals

namespace Producer

lemma chunksFrom_ok {source : Bytes} {lengths : List ℕ} {offset : ℕ}
    (h : offset + lengths.sum = source.length) (hsize : source.length < 2 ^ 64) :
    ∃ chunks, chunksFrom source offset lengths = .ok (chunks, source.length) ∧
      chunks.flatten = source.drop offset ∧ chunks.map List.length = lengths := by
  induction lengths generalizing offset with
  | nil =>
    rw [List.sum_nil, Nat.add_zero] at h
    refine ⟨[], ?_, ?_, rfl⟩
    · rw [chunksFrom, h]
      rfl
    · rw [h, List.drop_length, List.flatten_nil]
  | cons length lengths ih =>
    rw [List.sum_cons] at h
    obtain ⟨chunks, hrest, hchunks, hlengths⟩ := @ih (offset + length) (by omega)
    have hlt : offset + length < 2 ^ 64 := by omega
    have hin : offset + length ≤ source.length := by omega
    refine ⟨slice source offset length :: chunks, ?_, ?_, ?_⟩
    · simp only [chunksFrom, bind_ok, context_ok, checkedAdd_eq_some, getRange_eq_some, Prod.exists,
        pure_ok]
      refine ⟨_, ⟨hlt, rfl⟩, _, ⟨Nat.le_add_right _ _, hin, rfl⟩, _, _, hrest, ?_⟩
      rw [Nat.add_sub_cancel_left]
    · rw [List.flatten_cons, hchunks, slice, ← List.drop_drop, List.take_append_drop]
    · rw [List.map_cons, hlengths, slice_length hin]

lemma splitRawSeal_ok {rawSeal : Bytes} (h : rawSeal.length = proofBytes) :
    ∃ chunks, splitRawSeal rawSeal = .ok chunks ∧ chunks.flatten = rawSeal ∧
      chunks.map List.length = proofChunkLengths := by
  obtain ⟨chunks, hloop, hchunks⟩ := @chunksFrom_ok rawSeal proofChunkLengths 0
    (by rw [h]; rfl) (by rw [h]; decide)
  refine ⟨chunks, ?_, hchunks⟩
  simp only [splitRawSeal, splitAtLengths, bind_ok, exists_unit, ensure_ok, Prod.exists, pure_ok]
  exact ⟨h, _, _, hloop, rfl, rfl⟩

end Producer

namespace Consumer

lemma preflightOpcodeInputs_none {blake2b256 : Bytes → Digest}
    {manifest : Manifest.StarkProfileManifestV1} {opcode : B4OpcodeInputs}
    (h : preflightOpcodeInputs blake2b256 manifest opcode = .ok none) :
    opcode.proofChunks.map List.length = proofChunkLengths := by
  unfold preflightOpcodeInputs at h
  split_ifs at h with _ _ _ _ hlengths
  all_goals first
    | exact not_not.mp hlengths
    | exact absurd (pure_ok.mp h) (by simp)

end Consumer

end Seals

section Codecs

open Producer Consumer

/-- The codecs of the two sides: equal decoders, whose inverse the encoder is; and the chunks of a
seal put together again. -/
theorem opcode_subject_codecs_agree (blake2b256 : Bytes → Digest) :
    (∀ subject chunks applicationPayload programId profileId,
      decodeProducerOpcodeSubject subject =
          .ok ⟨chunks, applicationPayload, programId, profileId⟩ ↔
        decodeOpcodeSubject subject = .ok ⟨chunks, applicationPayload, programId, profileId⟩) ∧
    (∀ subject inputs, decodeOpcodeSubject subject = .ok inputs →
      encodeOpcodeSubject inputs.proofChunks inputs.applicationPayload inputs.programId
        inputs.profileId = .ok subject) ∧
    (∀ chunks applicationPayload programId profileId,
      ((∃ subject, encodeOpcodeSubject chunks applicationPayload programId profileId =
          .ok subject) ↔ Bounded chunks applicationPayload programId profileId) ∧
        ∀ subject, encodeOpcodeSubject chunks applicationPayload programId profileId =
            .ok subject →
          decodeOpcodeSubject subject = .ok ⟨chunks, applicationPayload, programId, profileId⟩) ∧
    (∀ rawSeal : Bytes, rawSeal.length = proofBytes →
      ∃ chunks, splitRawSeal rawSeal = .ok chunks ∧ concatenateProofChunks chunks = .ok rawSeal) ∧
    ∀ manifest opcode, preflightOpcodeInputs blake2b256 manifest opcode = .ok none →
      opcode.proofChunks.map List.length = proofChunkLengths := by
  refine ⟨?_, ?_, ?_, ?_, ?_⟩
  · intro subject chunks applicationPayload programId profileId
    rw [decodeProducerOpcodeSubject_ok, decodeOpcodeSubject_ok]
  · intro subject inputs h
    exact encodeOpcodeSubject_ok.mpr (decodeOpcodeSubject_ok.mp h)
  · intro chunks applicationPayload programId profileId
    refine ⟨?_, ?_⟩
    · simp only [encodeOpcodeSubject_ok, exists_and_left, exists_eq, and_true]
    · intro subject h
      exact decodeOpcodeSubject_ok.mpr (encodeOpcodeSubject_ok.mp h)
  · intro rawSeal h
    obtain ⟨chunks, hsplit, hchunks, -⟩ := splitRawSeal_ok h
    refine ⟨chunks, hsplit, ?_⟩
    simp only [concatenateProofChunks, hchunks, bind_ok, exists_unit, ensure_ok, pure_ok, not_not]
    exact ⟨h, trivial⟩
  · intro manifest opcode h
    exact preflightOpcodeInputs_none h

end Codecs

end Eip0045.Opcode
