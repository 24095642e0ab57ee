import Eip0045.Provider.Commitments

/-! The frames of the generator: the one that binds it to the session, and the closed result that the
supervisor answers with. -/

namespace Eip0045.Wire

open Bytes Checked

section Outbound

variable (H : Bytes → Digest)

/-- What both channels of a session start from. -/
def ProviderSessionMaterialV1.anchor (session : ProviderSessionMaterialV1) : Bytes :=
  session.sessionId.val ++ session.requestCommitment.val ++ session.generatorNonceCommitment.val ++
    session.supervisorNonceCommitment.val

def ProviderSessionMaterialV1.generatorGenesis (session : ProviderSessionMaterialV1) : Digest :=
  H (generatorChannelGenesisDomainV1.val ++ session.anchor ++ session.generatorChannel.val)

def ProviderSessionMaterialV1.workerGenesis (session : ProviderSessionMaterialV1)
    (acceptedGeneratorBoundDigest : Digest) : Digest :=
  H (workerChannelGenesisDomainV1.val ++ session.anchor ++ acceptedGeneratorBoundDigest.val ++
    session.workerChannel.val)

structure G0GeneratorBoundTranscriptCandidateV1 where
  transcript : Bytes
  digest : Digest
  generatorGenesis : Digest
  workerGenesis : Digest

def G0GeneratorBoundTranscriptCandidateV1.prepare (session : ProviderSessionMaterialV1) (frame : WireFrameV1) :
    Except WireErrorV1 G0GeneratorBoundTranscriptCandidateV1 := do
  ensure (¬(frame.direction ≠ .generatorToSupervisor ∨ frame.ordinal ≠ 0 ∨ frame.phase ≠ .generatorBound ∨
    frame.fdCommitments ≠ [] ∨ frame.body.length ≠ 234)) (.g0ContractDrift .generatorBoundFrame)
  let transcript ← prepareTranscriptBytesV1 session.sessionId 0 (session.generatorGenesis H) frame
  pure ⟨transcript, H transcript, session.generatorGenesis H, session.workerGenesis H (H transcript)⟩

structure G0TranscriptCandidateV1 where
  transcript : Bytes
  digest : Digest

def G0TranscriptCandidateV1.prepare (session : ProviderSessionMaterialV1) (ordinal : UInt8) (previousDigest : Digest)
    (frame : WireFrameV1) : Except WireErrorV1 G0TranscriptCandidateV1 := do
  let transcript ← prepareTranscriptBytesV1 session.sessionId ordinal previousDigest frame
  pure ⟨transcript, H transcript⟩

def encodeGeneratorBoundRawFrameV1 (session : ProviderSessionMaterialV1) (body : GeneratorBoundBodyV1) :
    Except WireErrorV1 (ByteArr 316) := do
  body.validateSession session
  tryInto 316 (encodeRawFramePartsV1 frameMagicV1 frameVersionV1 .generatorToSupervisor 0 .generatorBound 234
    session.sessionId (session.generatorGenesis H) 0 [] body.bytes.val)

def generatorBoundInput (session : ProviderSessionMaterialV1) (body : GeneratorBoundBodyV1)
    (credentials : PeerCredentialsV1) : FrameInputV1 where
  direction := .generatorToSupervisor
  ordinal := 0
  phase := .generatorBound
  sessionId := session.sessionId
  previousHash := session.generatorGenesis H
  body := body.bytes.val
  credentials := credentials
  fdCommitments := []
  ancillary := .canonical 0

structure G0GeneratorBoundOutboundCandidateV1 where
  session : G0GeneratorPeerSessionCandidateV1
  rawFrame : ByteArr 316
  expectedGeneratorBoundDigest : Digest

def G0GeneratorBoundOutboundCandidateV1.prepare (session : G0GeneratorPeerSessionCandidateV1)
    (body : GeneratorBoundBodyV1) (credentials : PeerCredentialsV1) :
    Except WireErrorV1 G0GeneratorBoundOutboundCandidateV1 := do
  let rawFrame ← encodeGeneratorBoundRawFrameV1 H session.session body
  let frame ← WireFrameV1.tryNew (generatorBoundInput H session.session body credentials)
  let transcript ← G0GeneratorBoundTranscriptCandidateV1.prepare H session.session frame
  let canonical ← frame.encodeRawFrame
  ensure (canonical = rawFrame.val) (.g0ContractDrift .generatorBoundFrame)
  pure ⟨session, rawFrame, transcript.digest⟩

end Outbound

section Inbound

variable (H : Bytes → Digest)

structure G0ClosedResultInboundInputV1 where
  receivedRawFrame : ByteArr 219
  actualRightsCount : ℕ
  observedCredentials : PeerCredentialsV1

structure G0ClosedResultInboundCandidateV1 where
  rawFrame : ByteArr 219
  observedCredentials : PeerCredentialsV1
  sessionId : Digest
  claimedGeneratorBoundDigest : Digest
  terminalWorkerDigest : Digest
  claimedContentDigest : Digest

def closedDrift : WireErrorV1 := .g0ContractDrift .closedResultFrame

/-- All of a closed result but its three digests. -/
def requireClosedEnvelope (session : ProviderSessionMaterialV1) (actualRightsCount : ℕ) (raw : Bytes) :
    Except WireErrorV1 Unit := do
  ensure (closedResultBodyDomainV1.val.length < 2 ^ 16) .arithmeticOverflow
  ensure (actualRightsCount = 1) closedDrift
  ensure (getRange raw 0 8 = some frameMagicV1.val) closedDrift
  let version ← g0U16LeV1 raw 8 .closedResultFrame
  ensure (version = frameVersionV1) closedDrift
  ensure (raw[10]? = some FrameDirectionV1.supervisorToGenerator.wireCode) closedDrift
  ensure (raw[11]? = some 1) closedDrift
  ensure (raw[12]? = some AttemptPhaseV1.closed.wireCode) closedDrift
  let bodyLength ← g0U32LeV1 raw 13 .closedResultFrame
  ensure (bodyLength.toNat = 136) closedDrift
  ensure (getRange raw 17 49 = some session.sessionId.val) closedDrift
  ensure (raw[81]? = some 1) closedDrift
  ensure (raw[82]? = some 9) closedDrift
  let domainLength ← g0U16LeV1 raw 83 .closedResultFrame
  ensure (domainLength = UInt16.ofNat closedResultBodyDomainV1.val.length) closedDrift
  ensure (getRange raw 85 121 = some closedResultBodyDomainV1.val) closedDrift
  let bodyVersion ← g0U16LeV1 raw 121 .closedResultFrame
  ensure (bodyVersion = frameVersionV1) closedDrift
  ensure (getRange raw 123 155 = some session.requestCommitment.val) closedDrift

def G0GeneratorPeerSessionCandidateV1.validateClosedResultInboundV1 (candidate : G0GeneratorPeerSessionCandidateV1)
    (input : G0ClosedResultInboundInputV1) : Except WireErrorV1 G0ClosedResultInboundCandidateV1 := do
  let raw := input.receivedRawFrame
  requireClosedEnvelope candidate.session input.actualRightsCount raw.val
  let claimedGeneratorBoundDigest ← g0FixedBytesV1 32 raw.val 49 .closedResultFrame
  let terminalWorkerDigest ← g0FixedBytesV1 32 raw.val 155 .closedResultFrame
  let claimedContentDigest ← g0FixedBytesV1 32 raw.val 187 .closedResultFrame
  pure ⟨raw, input.observedCredentials, candidate.session.sessionId, claimedGeneratorBoundDigest,
    terminalWorkerDigest, claimedContentDigest⟩

def g0FinalResultContentDigestV1 (bytes : Bytes) : Except WireErrorV1 Digest := do
  ensure (¬(bytes = [] ∨ g0FinalResultMaxBytesV1 < bytes.length)) (.g0ContractDrift .finalResultContent)
  pure (H bytes)

/-- The descriptor that a result comes with: a sealed memory file, open for reading. -/
def finalResultIdentity (size : UInt64) (contentDigest : Digest) : FdIdentityV1 :=
  .memfd size contentDigest ⟨.present, .present, .present, .present⟩

structure G0VerifiedClosedResultClaimsV1 where
  claimedGeneratorBoundDigest : Digest
  terminalWorkerDigest : Digest
  verifiedContentDigest : Digest
  transcript : ByteArr 380

def G0ClosedResultInboundCandidateV1.frameInput (candidate : G0ClosedResultInboundCandidateV1)
    (finalResult : FdCommitmentV1) : FrameInputV1 where
  direction := .supervisorToGenerator
  ordinal := 1
  phase := .closed
  sessionId := candidate.sessionId
  previousHash := candidate.claimedGeneratorBoundDigest
  body := candidate.rawFrame.val.drop 83
  credentials := candidate.observedCredentials
  fdCommitments := [finalResult]
  ancillary := .canonical 1

def G0ClosedResultInboundCandidateV1.verifyFinalResultContentOnceV1 (candidate : G0ClosedResultInboundCandidateV1)
    (bytes : Bytes) : Except WireErrorV1 G0VerifiedClosedResultClaimsV1 := do
  ensure (¬(bytes = [] ∨ g0FinalResultMaxBytesV1 < bytes.length)) (.g0ContractDrift .finalResultContent)
  ensure (bytes.length < 2 ^ 64) .arithmeticOverflow
  let verifiedContentDigest ← g0FinalResultContentDigestV1 H bytes
  ensure (verifiedContentDigest = candidate.claimedContentDigest) (.g0ContractDrift .finalResultContent)
  let finalResult ← FdCommitmentV1.tryNew .finalResult
    (finalResultIdentity (UInt64.ofNat bytes.length) verifiedContentDigest) ⟨.readOnly, false, true⟩
  let frame ← WireFrameV1.tryNew (candidate.frameInput finalResult)
  let canonicalRaw ← frame.encodeRawFrame
  ensure (canonicalRaw = candidate.rawFrame.val) closedDrift
  let transcript ← prepareTranscriptBytesV1 candidate.sessionId 1 candidate.claimedGeneratorBoundDigest frame
  let transcript ← mapError closedDrift (tryInto 380 transcript)
  pure ⟨candidate.claimedGeneratorBoundDigest, candidate.terminalWorkerDigest, verifiedContentDigest, transcript⟩

structure G0MatchedClosedResultClaimsV1 where
  terminalWorkerDigest : Digest
  verifiedContentDigest : Digest
  deriving DecidableEq

def G0VerifiedClosedResultClaimsV1.joinExpectedGeneratorBoundV1 (claims : G0VerifiedClosedResultClaimsV1)
    (expectedGeneratorBoundDigest : Digest) : Except WireErrorV1 G0MatchedClosedResultClaimsV1 := do
  ensure (expectedGeneratorBoundDigest = claims.claimedGeneratorBoundDigest) closedDrift
  pure ⟨claims.terminalWorkerDigest, claims.verifiedContentDigest⟩

structure G0GeneratorBoundAwaitClosedResultV1 where
  session : G0GeneratorPeerSessionCandidateV1
  expectedGeneratorBoundDigest : Digest

def G0GeneratorBoundOutboundCandidateV1.intoAwaitClosedResultV1 (candidate : G0GeneratorBoundOutboundCandidateV1) :
    G0GeneratorBoundAwaitClosedResultV1 := ⟨candidate.session, candidate.expectedGeneratorBoundDigest⟩

def G0GeneratorBoundAwaitClosedResultV1.verifyObservedClosedResultOnceV1
    (await : G0GeneratorBoundAwaitClosedResultV1) (input : G0ClosedResultInboundInputV1) (finalResultContent : Bytes) :
    Except WireErrorV1 G0MatchedClosedResultClaimsV1 := do
  let candidate ← await.session.validateClosedResultInboundV1 input
  let claims ← candidate.verifyFinalResultContentOnceV1 H finalResultContent
  claims.joinExpectedGeneratorBoundV1 await.expectedGeneratorBoundDigest

variable {H}

def closedBody (session : ProviderSessionMaterialV1) (terminal content : Digest) : ByteArr 136 :=
  ⟨le16 36 ++ closedResultBodyDomainV1.val ++ le16 frameVersionV1 ++ session.requestCommitment.val ++ terminal.val ++
    content.val, by simp⟩

def closedHeader (session : ProviderSessionMaterialV1) (previous : Digest) : ByteArr 83 :=
  ⟨frameMagicV1.val ++ le16 frameVersionV1 ++ [FrameDirectionV1.supervisorToGenerator.wireCode] ++ [1] ++
    [AttemptPhaseV1.closed.wireCode] ++ le32 136 ++ session.sessionId.val ++ previous.val ++ [1] ++ [9], by simp⟩

def closedBytes (session : ProviderSessionMaterialV1) (previous terminal content : Digest) : ByteArr 219 :=
  ⟨(closedHeader session previous).val ++ (closedBody session terminal content).val, by simp⟩

lemma closedEnvelope_ok {session : ProviderSessionMaterialV1} {rights : ℕ} {raw : ByteArr 219}
    {previous terminal content : Digest} :
    requireClosedEnvelope session rights raw.val = .ok () ∧
        g0FixedBytesV1 32 raw.val 49 .closedResultFrame = .ok previous ∧
          g0FixedBytesV1 32 raw.val 155 .closedResultFrame = .ok terminal ∧
            g0FixedBytesV1 32 raw.val 187 .closedResultFrame = .ok content ↔
      rights = 1 ∧ raw = closedBytes session previous terminal content := by
  have hlength : ∀ n : UInt32, n.toNat = 136 ↔ n = 136 := fun n => (UInt32.toNat_inj (b := 136))
  rw [← array_initial]
  simp (disch := simp) only [requireClosedEnvelope, bind_ok, ensure_ok, exists_unit, g0U16LeV1_ok, g0U32LeV1_ok,
    getRange_array, g0FixedBytesV1_ok, hlength, ByteArr.val_length, Frames.getElem?_iff]
  simp only [closedBytes, closedHeader, closedBody, Reading.append_prefix_iff, List.length_append, le16_length,
    le32_length, ByteArr.val_length, List.length_singleton, List.drop_drop, List.drop_zero, and_assoc]
  constructor
  · rintro ⟨-, hr, hmagic, ⟨_, hv, rfl, hd, ho, hp, _, hl, rfl, hs, hc, hrole, _, hdl, rfl, hdom, _, hbv,
      rfl, hreq⟩, hprev, hterm, hcont⟩
    exact ⟨hr, hmagic, hv, hd, ho, hp, hl, hs, hprev, hc, hrole, hdl, hdom, hbv, hreq, hterm, hcont⟩
  · rintro ⟨hr, hmagic, hv, hd, ho, hp, hl, hs, hprev, hc, hrole, hdl, hdom, hbv, hreq, hterm, hcont⟩
    exact ⟨by decide, hr, hmagic, ⟨_, hv, rfl, hd, ho, hp, _, hl, rfl, hs, hc, hrole, _, hdl, rfl, hdom, _, hbv,
      rfl, hreq⟩, hprev, hterm, hcont⟩

end Inbound

section Sent

variable {H : Bytes → Digest} {session : ProviderSessionMaterialV1} {body : GeneratorBoundBodyV1}
  {credentials : PeerCredentialsV1}

lemma generatorBoundInput_acceptable : (generatorBoundInput H session body credentials).Acceptable where
  ordinal := (by decide : (0 : UInt8) < maxSessionFramesV1)
  fdBound := Nat.zero_le _
  ancillary := rfl
  inventory := ⟨fun _ h => absurd h List.not_mem_nil, List.nodup_nil⟩
  bounded := by
    rw [generatorBoundInput, ByteArr.val_length]
    simp [frameLength, rolesTotal, maxFrameBytesV1]

lemma generatorBound_rawFrame (credentials : PeerCredentialsV1) :
    encodeRawFramePartsV1 frameMagicV1 frameVersionV1 .generatorToSupervisor 0 .generatorBound 234
        session.sessionId (session.generatorGenesis H) 0 [] body.bytes.val =
      (generatorBoundInput H session body credentials).frame.rawFrame := by
  simp only [WireFrameV1.rawFrame, FrameInputV1.frame, generatorBoundInput, ByteArr.val_length]
  rfl

/-- The frame that the generator sends, as its bytes. -/
def boundRaw (H : Bytes → Digest) (session : ProviderSessionMaterialV1) (body : GeneratorBoundBodyV1)
    (credentials : PeerCredentialsV1) : ByteArr 316 :=
  ⟨(generatorBoundInput H session body credentials).frame.rawFrame, by
    rw [← generatorBound_rawFrame credentials, encodeRawFramePartsV1]
    simp⟩

lemma boundTranscript_ok {frame : WireFrameV1} {bound : G0GeneratorBoundTranscriptCandidateV1} :
    G0GeneratorBoundTranscriptCandidateV1.prepare H session frame = .ok bound ↔
      ¬(frame.direction ≠ .generatorToSupervisor ∨ frame.ordinal ≠ 0 ∨ frame.phase ≠ .generatorBound ∨
        frame.fdCommitments ≠ [] ∨ frame.body.length ≠ 234) ∧ frame.Valid ∧
          frame.sessionId = session.sessionId ∧ frame.previousHash = session.generatorGenesis H ∧
            bound = ⟨transcriptBytes frame, H (transcriptBytes frame), session.generatorGenesis H,
              session.workerGenesis H (H (transcriptBytes frame))⟩ := by
  simp only [G0GeneratorBoundTranscriptCandidateV1.prepare, bind_ok, ensure_ok, exists_unit,
    prepareTranscriptBytesV1_ok, pure_ok]
  constructor
  · rintro ⟨hshape, _, ⟨hvalid, -, hsession, -, hprevious, rfl⟩, rfl⟩
    exact ⟨hshape, hvalid, hsession, hprevious, rfl⟩
  · rintro ⟨hshape, hvalid, hsession, hprevious, rfl⟩
    have hordinal : frame.ordinal = 0 := by
      by_contra hne
      exact hshape (.inr (.inl hne))
    exact ⟨hshape, _, ⟨hvalid, by decide, hsession, hordinal, hprevious, rfl⟩, rfl⟩

lemma ownTranscript : G0GeneratorBoundTranscriptCandidateV1.prepare H session
    (generatorBoundInput H session body credentials).frame =
      .ok ⟨transcriptBytes (generatorBoundInput H session body credentials).frame,
        H (transcriptBytes (generatorBoundInput H session body credentials).frame), session.generatorGenesis H,
          session.workerGenesis H (H (transcriptBytes (generatorBoundInput H session body credentials).frame))⟩ := by
  refine boundTranscript_ok.mpr ⟨?_, generatorBoundInput_acceptable.valid, rfl, rfl, rfl⟩
  simp [generatorBoundInput, FrameInputV1.frame]

lemma outbound_ok {candidate : G0GeneratorPeerSessionCandidateV1} {outbound : G0GeneratorBoundOutboundCandidateV1} :
    G0GeneratorBoundOutboundCandidateV1.prepare H candidate body credentials = .ok outbound ↔
      body.validateSession candidate.session = .ok () ∧
        outbound = ⟨candidate, boundRaw H candidate.session body credentials,
          H (transcriptBytes (generatorBoundInput H candidate.session body credentials).frame)⟩ := by
  have hacceptable : (generatorBoundInput H candidate.session body credentials).Acceptable :=
    generatorBoundInput_acceptable
  simp only [G0GeneratorBoundOutboundCandidateV1.prepare, encodeGeneratorBoundRawFrameV1, bind_ok, ensure_ok,
    exists_unit, generatorBound_rawFrame credentials, tryInto_ok, tryNew_ok, encodeRawFrame_ok, pure_ok]
  constructor
  · rintro ⟨raw, ⟨hbody, hraw⟩, _, ⟨-, rfl⟩, _, hbound, _, ⟨-, rfl⟩, -, rfl⟩
    obtain rfl := Except.ok.inj (ownTranscript.symm.trans hbound)
    obtain rfl : boundRaw H candidate.session body credentials = raw := Subtype.ext hraw
    exact ⟨hbody, rfl⟩
  · rintro ⟨hbody, rfl⟩
    exact ⟨boundRaw H candidate.session body credentials, ⟨hbody, rfl⟩, _, ⟨hacceptable, rfl⟩, _, ownTranscript, _,
      ⟨hacceptable.valid, rfl⟩, rfl, rfl⟩

lemma slice_array {n i : ℕ} {bytes : Bytes} {value : ByteArr n} (h : value.val <+: bytes.drop i) :
    slice bytes i n = value.val := by
  have htake := List.prefix_iff_eq_take.mp h
  rw [value.2] at htake
  exact htake.symm

def generatorBoundBytes (session : ProviderSessionMaterialV1) (sealProfile inventory ingress : Digest) : ByteArr 234 :=
  ⟨le16 38 ++ generatorBoundBodyDomainV1.val ++ le16 frameVersionV1 ++ session.requestCommitment.val ++
    session.generatorNonceCommitment.val ++ session.supervisorNonceCommitment.val ++ sealProfile.val ++ inventory.val ++
      ingress.val, by simp⟩

lemma generatorBoundBytes_validates (sealProfile inventory ingress : Digest) :
    GeneratorBoundBodyV1.validateSession ⟨generatorBoundBytes session sealProfile inventory ingress⟩ session =
      .ok () := by
  have hbytes := List.prefix_refl (generatorBoundBytes session sealProfile inventory ingress).val
  nth_rewrite 1 [generatorBoundBytes] at hbytes
  simp only [Reading.append_prefix_iff, List.length_append, le16_length, ByteArr.val_length] at hbytes
  obtain ⟨⟨⟨⟨⟨⟨-, hrequest⟩, hgenerator⟩, hsupervisor⟩, -⟩, -⟩, -⟩ := hbytes
  rw [GeneratorBoundBodyV1.validateSession, slice_array hrequest, slice_array hgenerator, slice_array hsupervisor]
  simp [ensure]

end Sent

section Supervisor

variable (H : Bytes → Digest)

def closedInput (session : ProviderSessionMaterialV1) (previous : Digest) (body : Bytes)
    (credentials : PeerCredentialsV1) (finalResult : FdCommitmentV1) : FrameInputV1 where
  direction := .supervisorToGenerator
  ordinal := 1
  phase := .closed
  sessionId := session.sessionId
  previousHash := previous
  body := body
  credentials := credentials
  fdCommitments := [finalResult]
  ancillary := .canonical 1

/-- The closed result of a content, as the constructors of its parts give it. -/
def closedResult (session : ProviderSessionMaterialV1) (previous terminal : Digest) (content : Bytes)
    (credentials : PeerCredentialsV1) : Except WireErrorV1 Bytes := do
  ensure (content.length < 2 ^ 64) .arithmeticOverflow
  let finalResult ← FdCommitmentV1.tryNew .finalResult (finalResultIdentity (UInt64.ofNat content.length) (H content))
    ⟨.readOnly, false, true⟩
  let body ← ClosedResultBodyV1.tryNew session terminal finalResult
  let frame ← WireFrameV1.tryNew (closedInput session previous body.bytes.val credentials finalResult)
  frame.encodeRawFrame

end Supervisor

section Results

variable {H : Bytes → Digest}

def finalResultCommitment (size : UInt64) (digest : Digest) : FdCommitmentV1 :=
  ⟨.finalResult, finalResultIdentity size digest, ⟨.readOnly, false, true⟩⟩

lemma finalResult_ok (size : UInt64) (digest : Digest) :
    FdCommitmentV1.tryNew .finalResult (finalResultIdentity size digest) ⟨.readOnly, false, true⟩ =
      .ok (finalResultCommitment size digest) := rfl

lemma finalResult_length (size : UInt64) (digest : Digest) :
    (finalResultCommitment size digest).encode.length = 49 := by
  simp [finalResultCommitment, finalResultIdentity, FdCommitmentV1.encode, FdRoleV1.encode, FdIdentityV1.encode,
    MemfdSealsV1.encode, FdStatusV1.encode]

variable {session : ProviderSessionMaterialV1} {previous terminal content : Digest} {credentials : PeerCredentialsV1}

lemma closedInput_acceptable (size : UInt64) (digest : Digest) :
    (closedInput session previous (closedBody session terminal content).val credentials
      (finalResultCommitment size digest)).Acceptable where
  ordinal := (by decide : (1 : UInt8) < maxSessionFramesV1)
  fdBound := (by decide : 1 ≤ maxFrameFdsV1)
  ancillary := rfl
  inventory := by
    refine ⟨?_, List.nodup_singleton _⟩
    intro commitment hcommitment
    rw [List.mem_singleton.mp hcommitment]
    rfl
  bounded := by
    rw [closedInput, ByteArr.val_length]
    simp [frameLength, rolesTotal, finalResultCommitment, FdRoleV1.encodedLen, maxFrameBytesV1]

lemma closedInput_rawFrame (size : UInt64) (digest : Digest) :
    (closedInput session previous (closedBody session terminal content).val credentials
      (finalResultCommitment size digest)).frame.rawFrame = (closedBytes session previous terminal content).val := by
  simp only [WireFrameV1.rawFrame, encodeRawFramePartsV1, FrameInputV1.frame, closedInput, closedBytes, closedHeader,
    ByteArr.val_length]
  rfl

lemma closedTranscript_length (size : UInt64) (digest : Digest) :
    (transcriptBytes (closedInput session previous (closedBody session terminal content).val credentials
      (finalResultCommitment size digest)).frame).length = 380 := by
  have hraw : (closedInput session previous (closedBody session terminal content).val credentials
      (finalResultCommitment size digest)).frame.rawFrame.length = 219 := by
    rw [closedInput_rawFrame, ByteArr.val_length]
  have hdomain : transcriptDomainV1.length = 33 := by decide
  simp only [transcriptBytes, List.length_append, hraw, hdomain, le16_length, le32_length, ByteArr.val_length,
    List.length_singleton]
  simp [FrameInputV1.frame, closedInput, sizedCommitment, finalResult_length, PeerCredentialsV1.encode,
    DescriptorIdentityV1.encode]

lemma finalResultContent_ok {bytes : Bytes} {digest : Digest} :
    g0FinalResultContentDigestV1 H bytes = .ok digest ↔
      ¬(bytes = [] ∨ g0FinalResultMaxBytesV1 < bytes.length) ∧ H bytes = digest := by
  simp only [g0FinalResultContentDigestV1, bind_ok, ensure_ok, exists_unit, pure_ok]

lemma finalResult_sized {bytes : Bytes} (h : ¬(bytes = [] ∨ g0FinalResultMaxBytesV1 < bytes.length)) :
    bytes.length < 2 ^ 64 ∧ (UInt64.ofNat bytes.length).toNat = bytes.length := by
  rw [not_or, g0FinalResultMaxBytesV1, not_lt] at h
  have hbound : bytes.length < 2 ^ 64 := by omega
  exact ⟨hbound, by rw [UInt64.toNat_ofNat', Nat.mod_eq_of_lt hbound]⟩

lemma closedResultBody_ok {size : UInt64} {digest : Digest} {body : ClosedResultBodyV1} :
    ClosedResultBodyV1.tryNew session terminal (finalResultCommitment size digest) = .ok body ↔
      ¬(size = 0 ∨ g0FinalResultMaxBytesV1 < size.toNat) ∧ body = ⟨closedBody session terminal digest⟩ := by
  have hlength : encodedFdCommitmentLenV1 (finalResultCommitment size digest) = .ok 49 := by
    have hencode : encodeFdCommitmentV1 (finalResultCommitment size digest) =
        .ok (finalResultCommitment size digest).encode := rfl
    rw [encodedFdCommitmentLenV1, hencode, ok_bind, finalResult_length]
    rfl
  have hseals : requireFullySealedMemfdV1 (finalResultCommitment size digest) = .ok () := rfl
  rw [ClosedResultBodyV1.tryNew, hlength, hseals]
  simp only [finalResultCommitment, finalResultIdentity, bind_ok, ensure_ok, exists_unit, Except.ok.injEq, tryInto_ok,
    pushLp16V1_array (show 36 < 2 ^ 16 by decide), pure_ok, List.nil_append]
  constructor
  · rintro ⟨-, -, -, -, _, rfl, -, -, hsize, _, rfl, bytes, hbytes, rfl⟩
    exact ⟨hsize, congrArg ClosedResultBodyV1.mk (Subtype.ext hbytes.symm)⟩
  · rintro ⟨hsize, rfl⟩
    exact ⟨trivial, trivial, trivial, trivial, _, rfl, rfl, trivial, hsize, _, rfl,
      closedBody session terminal digest, rfl, rfl⟩

lemma closedResult_ok {bytes raw : Bytes} :
    closedResult H session previous terminal bytes credentials = .ok raw ↔
      ¬(bytes = [] ∨ g0FinalResultMaxBytesV1 < bytes.length) ∧
        raw = (closedBytes session previous terminal (H bytes)).val := by
  simp only [closedResult, finalResult_ok, bind_ok, ensure_ok, exists_unit, Except.ok.injEq, exists_eq_left',
    closedResultBody_ok, tryNew_ok, encodeRawFrame_ok]
  constructor
  · rintro ⟨hbound, _, ⟨hsize, rfl⟩, _, ⟨-, rfl⟩, -, rfl⟩
    rw [UInt64.toNat_ofNat', Nat.mod_eq_of_lt hbound] at hsize
    refine ⟨?_, closedInput_rawFrame _ _⟩
    rintro (rfl | hlarge)
    · exact hsize (.inl rfl)
    · exact hsize (.inr hlarge)
  · rintro ⟨hadmitted, rfl⟩
    obtain ⟨hbound, hnat⟩ := finalResult_sized hadmitted
    refine ⟨hbound, _, ⟨?_, rfl⟩, _, ⟨closedInput_acceptable _ _, rfl⟩, (closedInput_acceptable _ _).valid,
      (closedInput_rawFrame _ _).symm⟩
    rintro (hzero | hlarge)
    · rw [← UInt64.toNat_inj, hnat] at hzero
      exact hadmitted (.inl (List.eq_nil_of_length_eq_zero hzero))
    · exact hadmitted (.inr (hnat ▸ hlarge))

def closedCandidate (session : ProviderSessionMaterialV1) (previous terminal content : Digest)
    (credentials : PeerCredentialsV1) : G0ClosedResultInboundCandidateV1 :=
  ⟨closedBytes session previous terminal content, credentials, session.sessionId, previous, terminal, content⟩

lemma validateClosedResult_ok {await : G0GeneratorPeerSessionCandidateV1} {input : G0ClosedResultInboundInputV1}
    {candidate : G0ClosedResultInboundCandidateV1} :
    await.validateClosedResultInboundV1 input = .ok candidate ↔ input.actualRightsCount = 1 ∧
      ∃ previous terminal content, input.receivedRawFrame = closedBytes await.session previous terminal content ∧
        candidate = closedCandidate await.session previous terminal content input.observedCredentials := by
  simp only [G0GeneratorPeerSessionCandidateV1.validateClosedResultInboundV1, bind_ok, exists_unit, pure_ok]
  constructor
  · rintro ⟨henvelope, previous, hprevious, terminal, hterminal, content, hcontent, rfl⟩
    obtain ⟨hrights, hraw⟩ := closedEnvelope_ok.mp ⟨henvelope, hprevious, hterminal, hcontent⟩
    refine ⟨hrights, previous, terminal, content, hraw, ?_⟩
    rw [closedCandidate, hraw]
  · rintro ⟨hrights, previous, terminal, content, hraw, rfl⟩
    obtain ⟨henvelope, hprevious, hterminal, hcontent⟩ := closedEnvelope_ok.mpr ⟨hrights, hraw⟩
    refine ⟨henvelope, previous, hprevious, terminal, hterminal, content, hcontent, ?_⟩
    rw [closedCandidate, hraw]

lemma closedCandidate_input (finalResult : FdCommitmentV1) :
    (closedCandidate session previous terminal content credentials).frameInput finalResult =
      closedInput session previous (closedBody session terminal content).val credentials finalResult := by
  have hbody : (closedBytes session previous terminal content).val.drop 83 =
      (closedBody session terminal content).val :=
    List.drop_left' (closedHeader session previous).2
  rw [G0ClosedResultInboundCandidateV1.frameInput, closedInput, closedCandidate, hbody]

lemma verifyContent_ok {bytes : Bytes} {claims : G0VerifiedClosedResultClaimsV1} :
    (closedCandidate session previous terminal content credentials).verifyFinalResultContentOnceV1 H bytes =
        .ok claims ↔
      ¬(bytes = [] ∨ g0FinalResultMaxBytesV1 < bytes.length) ∧ H bytes = content ∧
        claims = ⟨previous, terminal, content, ⟨transcriptBytes (closedInput session previous
          (closedBody session terminal content).val credentials
            (finalResultCommitment (UInt64.ofNat bytes.length) content)).frame, closedTranscript_length _ _⟩⟩ := by
  simp only [G0ClosedResultInboundCandidateV1.verifyFinalResultContentOnceV1, bind_ok, ensure_ok, exists_unit,
    finalResultContent_ok, finalResult_ok, Except.ok.injEq, exists_eq_left', tryNew_ok, encodeRawFrame_ok,
    prepareTranscriptBytesV1_ok, mapError_ok, tryInto_ok, pure_ok, closedCandidate_input]
  constructor
  · rintro ⟨hadmitted, -, _, ⟨-, rfl⟩, hcontent, _, ⟨-, rfl⟩, _, ⟨-, rfl⟩, -, _, ⟨-, -, -, -, -, rfl⟩,
      transcript, htranscript, rfl⟩
    obtain rfl : H bytes = content := hcontent
    exact ⟨hadmitted, rfl, congrArg (G0VerifiedClosedResultClaimsV1.mk _ _ _) (Subtype.ext htranscript.symm)⟩
  · rintro ⟨hadmitted, rfl, rfl⟩
    have hacceptable : (closedInput session previous (closedBody session terminal (H bytes)).val credentials
        (finalResultCommitment (UInt64.ofNat bytes.length) (H bytes))).Acceptable := closedInput_acceptable _ _
    exact ⟨hadmitted, (finalResult_sized hadmitted).1, _, ⟨hadmitted, rfl⟩, rfl, _, ⟨hacceptable, rfl⟩, _,
      ⟨hacceptable.valid, rfl⟩, closedInput_rawFrame _ _, _, ⟨hacceptable.valid, by decide, rfl, rfl, rfl, rfl⟩, _,
        rfl, rfl⟩

lemma closedBytes_eq_iff {session' : ProviderSessionMaterialV1} {previous' terminal' content' : Digest} :
    closedBytes session previous terminal content = closedBytes session' previous' terminal' content' ↔
      session.sessionId = session'.sessionId ∧ session.requestCommitment = session'.requestCommitment ∧
        previous = previous' ∧ terminal = terminal' ∧ content = content' := by
  constructor
  · intro h
    have hbytes := congrArg Subtype.val h
    simp only [closedBytes, closedHeader, closedBody, List.append_assoc, List.append_cancel_left_eq] at hbytes
    obtain ⟨hsession, hbytes⟩ := Delimited.array 32 hbytes
    obtain ⟨hprevious, hbytes⟩ := Delimited.array 32 hbytes
    simp only [List.append_cancel_left_eq] at hbytes
    obtain ⟨hrequest, hbytes⟩ := Delimited.array 32 hbytes
    obtain ⟨hterminal, hcontent⟩ := Delimited.array 32 hbytes
    exact ⟨hsession, hrequest, hprevious, hterminal, Subtype.ext hcontent⟩
  · rintro ⟨hsession, hrequest, rfl, rfl, rfl⟩
    have hbytes : (closedBytes session previous terminal content).val =
        (closedBytes session' previous terminal content).val := by
      simp only [closedBytes, closedHeader, closedBody, hsession, hrequest]
    exact Subtype.ext hbytes

lemma transcriptBytes_inj {frame frame' : WireFrameV1} (hvalid : frame.Valid) (hvalid' : frame'.Valid)
    (h : transcriptBytes frame = transcriptBytes frame') : frame = frame' :=
  (prepareTranscriptBytesV1_inj (prepareTranscriptBytesV1_ok.mpr ⟨hvalid, hvalid.ordinal, rfl, rfl, rfl, rfl⟩)
    (prepareTranscriptBytesV1_ok.mpr ⟨hvalid', hvalid'.ordinal, rfl, rfl, rfl, h⟩)).1

lemma verifyObserved_ok {await : G0GeneratorBoundAwaitClosedResultV1} {input : G0ClosedResultInboundInputV1}
    {bytes : Bytes} {matched : G0MatchedClosedResultClaimsV1} :
    await.verifyObservedClosedResultOnceV1 H input bytes = .ok matched ↔
      input.actualRightsCount = 1 ∧ ¬(bytes = [] ∨ g0FinalResultMaxBytesV1 < bytes.length) ∧
        matched.verifiedContentDigest = H bytes ∧
          input.receivedRawFrame = closedBytes await.session.session await.expectedGeneratorBoundDigest
            matched.terminalWorkerDigest (H bytes) := by
  simp only [G0GeneratorBoundAwaitClosedResultV1.verifyObservedClosedResultOnceV1, bind_ok, validateClosedResult_ok,
    G0VerifiedClosedResultClaimsV1.joinExpectedGeneratorBoundV1, ensure_ok, exists_unit, pure_ok]
  constructor
  · rintro ⟨_, ⟨hrights, previous, terminal, content, hraw, rfl⟩, claims, hclaims, hexpected, rfl⟩
    obtain ⟨hadmitted, rfl, rfl⟩ := verifyContent_ok.mp hclaims
    obtain rfl : await.expectedGeneratorBoundDigest = previous := hexpected
    exact ⟨hrights, hadmitted, rfl, hraw⟩
  · rintro ⟨hrights, hadmitted, hcontent, hraw⟩
    refine ⟨_, ⟨hrights, _, _, _, hraw, rfl⟩, _, verifyContent_ok.mpr ⟨hadmitted, rfl, rfl⟩, rfl, ?_⟩
    rw [← hcontent]

/-- The generator accepts exactly the closed results that the constructors make of the content, of the
digest that it waits for and of some terminal digest of the worker, with one descriptor beside them. -/
theorem closed_results_accepted_exactly (await : G0GeneratorBoundAwaitClosedResultV1)
    (input : G0ClosedResultInboundInputV1) (bytes : Bytes) (matched : G0MatchedClosedResultClaimsV1) :
    await.verifyObservedClosedResultOnceV1 H input bytes = .ok matched ↔
      input.actualRightsCount = 1 ∧ matched.verifiedContentDigest = H bytes ∧
        closedResult H await.session.session await.expectedGeneratorBoundDigest matched.terminalWorkerDigest bytes
          input.observedCredentials = .ok input.receivedRawFrame.val := by
  have hraw : ∀ raw' : ByteArr 219, input.receivedRawFrame = raw' ↔ input.receivedRawFrame.val = raw'.val :=
    fun raw' => Subtype.ext_iff
  rw [verifyObserved_ok, closedResult_ok, hraw]
  tauto

/-- A closed result that answers the bound which the supervisor recorded is accepted exactly by the
generator whose own bound that was, with the credentials that it was recorded with; unless the two
transcripts collide. -/
theorem closed_results_answer_the_recorded_bound {own : G0GeneratorPeerSessionCandidateV1} {body : GeneratorBoundBodyV1}
    {outbound : G0GeneratorBoundOutboundCandidateV1} {frame : WireFrameV1}
    {bound : G0GeneratorBoundTranscriptCandidateV1} {input : G0ClosedResultInboundInputV1} {bytes : Bytes}
    (hsent : G0GeneratorBoundOutboundCandidateV1.prepare H own body credentials = .ok outbound)
    (hbound : G0GeneratorBoundTranscriptCandidateV1.prepare H session frame = .ok bound)
    (hclosed : closedResult H session bound.digest terminal bytes input.observedCredentials =
      .ok input.receivedRawFrame.val) (hrights : input.actualRightsCount = 1)
    (hcollision : NoCollision H [transcriptBytes (generatorBoundInput H own.session body credentials).frame]
      [bound.transcript]) :
    outbound.intoAwaitClosedResultV1.verifyObservedClosedResultOnceV1 H input bytes = .ok ⟨terminal, H bytes⟩ ↔
      frame = (generatorBoundInput H own.session body credentials).frame ∧
        session.requestCommitment = own.session.requestCommitment := by
  obtain ⟨-, rfl⟩ := outbound_ok.mp hsent
  obtain ⟨-, hvalid, hsession, hprevious, rfl⟩ := boundTranscript_ok.mp hbound
  obtain ⟨hadmitted, hraw⟩ := closedResult_ok.mp hclosed
  have hown : (generatorBoundInput H own.session body credentials).frame.Valid := generatorBoundInput_acceptable.valid
  rw [verifyObserved_ok, Subtype.ext hraw, G0GeneratorBoundOutboundCandidateV1.intoAwaitClosedResultV1,
    closedBytes_eq_iff]
  constructor
  · rintro ⟨-, -, -, -, hrequest, hdigest, -⟩
    exact ⟨transcriptBytes_inj hvalid hown (hcollision _ List.mem_cons_self _ List.mem_cons_self hdigest.symm).symm,
      hrequest⟩
  · rintro ⟨rfl, hrequest⟩
    exact ⟨hrights, hadmitted, rfl, hsession.symm, hrequest, rfl, rfl, rfl⟩

def firstCandidate : G0GeneratorPeerSessionCandidateV1 :=
  ⟨firstFacts.material attemptSha256, 1, 1, (firstAttempt.endpoint attemptSha256 .supervisorGenerator).digest,
    firstDescriptor⟩

def firstBody : GeneratorBoundBodyV1 :=
  ⟨generatorBoundBytes firstCandidate.session (ByteArr.zero 32) (ByteArr.zero 32) (ByteArr.zero 32)⟩

lemma firstProcess_ne_zero : (1 : UInt32) ≠ 0 := by decide

def firstCredentials : PeerCredentialsV1 := ⟨1, 0, 0, firstDescriptor, firstProcess_ne_zero⟩

/-- The frame of the first attempt's generator. -/
def firstBound : WireFrameV1 :=
  (generatorBoundInput attemptSha256 firstCandidate.session firstBody firstCredentials).frame

def firstOutbound : G0GeneratorBoundOutboundCandidateV1 :=
  ⟨firstCandidate, boundRaw attemptSha256 firstCandidate.session firstBody firstCredentials,
    attemptSha256 (transcriptBytes firstBound)⟩

def firstRecorded : G0GeneratorBoundTranscriptCandidateV1 :=
  ⟨transcriptBytes firstBound, attemptSha256 (transcriptBytes firstBound),
    firstCandidate.session.generatorGenesis attemptSha256,
      firstCandidate.session.workerGenesis attemptSha256 (attemptSha256 (transcriptBytes firstBound))⟩

def firstClosed : G0ClosedResultInboundInputV1 where
  receivedRawFrame := closedBytes firstCandidate.session firstRecorded.digest (ByteArr.zero 32) (attemptSha256 [0])
  actualRightsCount := 1
  observedCredentials := firstCredentials

theorem first_closed_result_answers :
    firstOutbound.intoAwaitClosedResultV1.verifyObservedClosedResultOnceV1 attemptSha256 firstClosed [0] =
      .ok ⟨ByteArr.zero 32, attemptSha256 [0]⟩ := by
  have hsent : G0GeneratorBoundOutboundCandidateV1.prepare attemptSha256 firstCandidate firstBody firstCredentials =
      .ok firstOutbound := by
    rw [outbound_ok, firstOutbound, firstBound]
    exact ⟨generatorBoundBytes_validates _ _ _, rfl⟩
  have hbound : G0GeneratorBoundTranscriptCandidateV1.prepare attemptSha256 firstCandidate.session firstBound =
      .ok firstRecorded := ownTranscript
  have hclosed : closedResult attemptSha256 firstCandidate.session firstRecorded.digest
      (ByteArr.zero 32) [0] firstClosed.observedCredentials = .ok firstClosed.receivedRawFrame.val :=
    closedResult_ok.mpr ⟨by decide, rfl⟩
  have hcollision : NoCollision attemptSha256
      [transcriptBytes (generatorBoundInput attemptSha256 firstCandidate.session firstBody firstCredentials).frame]
      [firstRecorded.transcript] :=
    fun _ hb _ hb' _ => (List.mem_singleton.mp hb).trans (List.mem_singleton.mp hb').symm
  exact (closed_results_answer_the_recorded_bound hsent hbound hclosed rfl hcollision).mpr ⟨rfl, rfl⟩

end Results

end Eip0045.Wire
