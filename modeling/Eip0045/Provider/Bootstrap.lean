import Eip0045.Provider.Results

/-! The bootstrap of a worker: the frame that hands it its session and its descriptors, the contents
behind the descriptors, and the frame that the worker answers with. -/

namespace Eip0045.Wire

open Bytes Checked

section Decoding

variable (H : Bytes → Digest)

def bootstrapDrift : WireErrorV1 := .g0ContractDrift .workerBootstrapFrame

def g0ProviderSessionFromPreimageV1 (bytes : Bytes) : Except WireErrorV1 (ProviderSessionMaterialV1 × UInt32) := do
  let preimage ← context bootstrapDrift (ByteArr.ofBytes 373 bytes)
  ensure (getRange preimage.val 0 28 = some providerSessionDomainV1.val) bootstrapDrift
  let protocolLength ← g0U16LeV1 preimage.val 28 .workerBootstrapFrame
  ensure (protocolLength.toNat = sessionProtocolIdV1.val.length) bootstrapDrift
  ensure (getRange preimage.val 30 73 = some sessionProtocolIdV1.val) bootstrapDrift
  let requestCommitment ← g0FixedBytesV1 32 preimage.val 73 .workerBootstrapFrame
  let generatorNonce ← g0FixedBytesV1 32 preimage.val 233 .workerBootstrapFrame
  let supervisorNonce ← g0FixedBytesV1 32 preimage.val 265 .workerBootstrapFrame
  let supervisorPid ← g0U32LeV1 preimage.val 297 .workerBootstrapFrame
  let supervisorStartEpoch ← g0U64LeV1 preimage.val 301 .workerBootstrapFrame
  ensure (¬(supervisorPid = 0 ∨ supervisorStartEpoch = 0)) bootstrapDrift
  let generatorNonceCommitment ← mapError bootstrapDrift
    (nonceCommitmentFromDigestV1 H .generator requestCommitment generatorNonce)
  let supervisorNonceCommitment ← mapError bootstrapDrift
    (nonceCommitmentFromDigestV1 H .supervisor requestCommitment supervisorNonce)
  let generatorChannel ← g0FixedBytesV1 32 preimage.val 309 .workerBootstrapFrame
  let workerChannel ← g0FixedBytesV1 32 preimage.val 341 .workerBootstrapFrame
  pure (⟨preimage, H preimage.val, requestCommitment, generatorNonceCommitment, supervisorNonceCommitment,
    generatorChannel, workerChannel⟩, supervisorPid)

/-- What a transferred role comes with: the length of its commitment, where the identity stands in it,
its seals and its state. -/
structure TransferShape where
  encodedLength : ℕ
  identityOffset : ℕ
  seals : MemfdSealsV1
  status : FdStatusV1

def transferShape : FdRoleV1 → Option TransferShape
  | .observation => some ⟨49, 1, ⟨.present, .present, .absent, .absent⟩, ⟨.readWrite, false, true⟩⟩
  | .campaignInput _ => some ⟨50, 2, ⟨.present, .present, .present, .present⟩, ⟨.readOnly, false, true⟩⟩
  | _ => none

def g0WorkerManifestMemfdV1 (bytes : Bytes) (role : FdRoleV1) : Except WireErrorV1 FdCommitmentV1 := do
  let shape ← context bootstrapDrift (transferShape role)
  ensure (bytes.length = shape.encodedLength) bootstrapDrift
  ensure (bytes[shape.identityOffset]? = some 2) bootstrapDrift
  let size ← g0U64LeV1 bytes (shape.identityOffset + 1) .workerBootstrapFrame
  let contentDigest ← g0FixedBytesV1 32 bytes (shape.identityOffset + 9) .workerBootstrapFrame
  let commitment ← mapError bootstrapDrift
    (FdCommitmentV1.tryNew role (.memfd size contentDigest shape.seals) shape.status)
  let encoded ← encodeFdCommitmentV1 commitment
  ensure (encoded = bytes) bootstrapDrift
  pure commitment

def workerManifestLength (campaignCount : ℕ) : ℕ := 99 + campaignCount * 53

def requireManifestHead (bytes : Bytes) (campaignCount : ℕ) : Except WireErrorV1 Unit := do
  ensure (bytes.length = workerManifestLength campaignCount) bootstrapDrift
  let domainLength ← g0U16LeV1 bytes 0 .workerBootstrapFrame
  ensure (domainLength.toNat = workerTransferManifestDomainV1.val.length) bootstrapDrift
  ensure (getRange bytes 2 44 = some workerTransferManifestDomainV1.val) bootstrapDrift
  let version ← g0U16LeV1 bytes 44 .workerBootstrapFrame
  ensure (version = frameVersionV1) bootstrapDrift
  let count ← context bootstrapDrift bytes[46]?
  ensure (count.toNat = campaignCount + 1) bootstrapDrift
  ensure (bytes[47]? = some 4) bootstrapDrift
  let observationLength ← g0U16LeV1 bytes 48 .workerBootstrapFrame
  ensure (observationLength = 49) bootstrapDrift

def readCampaignRecord (bytes : Bytes) (index : ℕ) : Except WireErrorV1 FdCommitmentV1 := do
  let start := 99 + index * 53
  let record ← context bootstrapDrift (getRange bytes start (start + 53))
  ensure (5 + index < 2 ^ 8) .arithmeticOverflow
  ensure (record[0]? = some (UInt8.ofNat (5 + index))) bootstrapDrift
  let encodedLength ← g0U16LeV1 record 1 .workerBootstrapFrame
  ensure (encodedLength = 50) bootstrapDrift
  ensure (index < 2 ^ 8) .arithmeticOverflow
  g0WorkerManifestMemfdV1 (record.drop 3) (.campaignInput (UInt8.ofNat index))

/-- The offsets stay small: the one caller admits at most fifteen inputs. -/
def g0WorkerManifestFromRawV1 (bytes : Bytes) (campaignCount : ℕ) :
    Except WireErrorV1 (WorkerTransferManifestV1 × List FdCommitmentV1) := do
  requireManifestHead bytes campaignCount
  let observationBytes ← context bootstrapDrift (getRange bytes 50 99)
  let observation ← g0WorkerManifestMemfdV1 observationBytes .observation
  let campaignInputs ← (List.range campaignCount).mapM (readCampaignRecord bytes)
  let manifest ← WorkerTransferManifestV1.tryNew H observation campaignInputs
  ensure (manifest.bytes = bytes) bootstrapDrift
  pure (manifest, observation :: campaignInputs)

end Decoding

section Candidates

variable (H : Bytes → Digest)

structure G0WorkerBootstrapInboundInputV1 where
  receivedRawFrame : Bytes
  actualRightsCount : ℕ
  observedCredentials : PeerCredentialsV1
  localWorkerEndpoint : SeqpacketEndpointCommitmentV1
  expectedOuterUid : UInt32
  expectedOuterGid : UInt32

structure G0WorkerBootstrapInboundCandidateV1 where
  session : ProviderSessionMaterialV1
  bootstrapDigest : Digest
  supervisorReceiverUserNamespace : DescriptorIdentityV1
  expectedOuterUid : UInt32
  expectedOuterGid : UInt32
  workerInitialInventory : ProcessInventoryV1
  workerTransferInventory : ProcessInventoryV1
  workerManifest : WorkerTransferManifestV1
  transferCommitments : List FdCommitmentV1

def bootstrapBodyLength (campaignCount : ℕ) : ℕ :=
  g0WorkerBootstrapFixedBodyBytesV1 + workerManifestLength campaignCount

def bootstrapBodyStart (campaignCount : ℕ) : ℕ := frameFixedHeaderBytesV1 + (1 + campaignCount * 2)

/-- The inputs beside the observation, of the descriptors that the frame declares. -/
def bootstrapCampaignCount (raw : Bytes) (actualRightsCount : ℕ) : Except WireErrorV1 ℕ := do
  let declaredFdCount ← context bootstrapDrift raw[81]?
  ensure (¬(declaredFdCount.toNat = 0 ∨ maxFrameFdsV1 < declaredFdCount.toNat ∨
    actualRightsCount ≠ declaredFdCount.toNat)) bootstrapDrift
  ensure (declaredFdCount.toNat - 1 ≤ g0MaxIngressCountV1) bootstrapDrift
  pure (declaredFdCount.toNat - 1)

def requireBootstrapRole (raw : Bytes) (index : ℕ) : Except WireErrorV1 Unit := do
  ensure (raw[83 + index * 2]? = some 0) bootstrapDrift
  ensure (index < 2 ^ 8) .arithmeticOverflow
  ensure (raw[83 + index * 2 + 1]? = some (UInt8.ofNat index)) bootstrapDrift

def requireBootstrapHeader (raw : Bytes) (campaignCount : ℕ) : Except WireErrorV1 Unit := do
  ensure (raw.length = bootstrapBodyStart campaignCount + bootstrapBodyLength campaignCount) bootstrapDrift
  ensure (getRange raw 0 8 = some frameMagicV1.val) bootstrapDrift
  let version ← g0U16LeV1 raw 8 .workerBootstrapFrame
  ensure (version = frameVersionV1) bootstrapDrift
  ensure (raw[10]? = some FrameDirectionV1.supervisorToWorker.wireCode) bootstrapDrift
  ensure (raw[11]? = some 0) bootstrapDrift
  ensure (raw[12]? = some AttemptPhaseV1.userMapsVerified.wireCode) bootstrapDrift
  let bodyLength ← g0U32LeV1 raw 13 .workerBootstrapFrame
  ensure (bodyLength.toNat = bootstrapBodyLength campaignCount) bootstrapDrift
  ensure (raw[82]? = some 8) bootstrapDrift
  (List.range campaignCount).forM (requireBootstrapRole raw)

/-- What the body says of the session, joined with what the worker observes and holds itself. -/
structure BootstrapSession where
  acceptedGeneratorBoundDigest : Digest
  session : ProviderSessionMaterialV1
  supervisorWorkerEndpointDigest : Digest
  supervisorReceiverUserNamespace : DescriptorIdentityV1

def readBootstrapSession (input : G0WorkerBootstrapInboundInputV1) (body : Bytes) :
    Except WireErrorV1 BootstrapSession := do
  let domainLength ← g0U16LeV1 body 0 .workerBootstrapFrame
  ensure (domainLength.toNat = workerBootstrapBodyDomainV1.val.length) bootstrapDrift
  ensure (getRange body 2 41 = some workerBootstrapBodyDomainV1.val) bootstrapDrift
  let version ← g0U16LeV1 body 41 .workerBootstrapFrame
  ensure (version = frameVersionV1) bootstrapDrift
  let acceptedGeneratorBoundDigest ← g0FixedBytesV1 32 body 43 .workerBootstrapFrame
  let preimage ← context bootstrapDrift (getRange body 75 448)
  let decoded ← g0ProviderSessionFromPreimageV1 H preimage
  let session := decoded.1
  ensure (getRange input.receivedRawFrame 17 49 = some session.sessionId.val) bootstrapDrift
  ensure (getRange body 448 480 = some session.generatorNonceCommitment.val) bootstrapDrift
  ensure (getRange body 480 512 = some session.supervisorNonceCommitment.val) bootstrapDrift
  ensure (input.observedCredentials.processId = decoded.2) bootstrapDrift
  ensure (input.observedCredentials.userId = 0) bootstrapDrift
  ensure (input.observedCredentials.groupId = 0) bootstrapDrift
  ensure (input.localWorkerEndpoint.role = .worker) bootstrapDrift
  let uid ← g0U32LeV1 body 568 .workerBootstrapFrame
  ensure (uid = input.expectedOuterUid) bootstrapDrift
  let gid ← g0U32LeV1 body 572 .workerBootstrapFrame
  ensure (gid = input.expectedOuterGid) bootstrapDrift
  let supervisorWorkerEndpointDigest ← g0FixedBytesV1 32 body 512 .workerBootstrapFrame
  let _ ← mapError bootstrapDrift
    (ChannelIdentityV1.tryWorkerChild H input.localWorkerEndpoint supervisorWorkerEndpointDigest session)
  let supervisorReceiverUserNamespace ← g0DescriptorIdentityV1 body 544 .workerBootstrapFrame
  pure ⟨acceptedGeneratorBoundDigest, session, supervisorWorkerEndpointDigest, supervisorReceiverUserNamespace⟩

def readBootstrapManifest (body : Bytes) (campaignCount : ℕ) :
    Except WireErrorV1 (WorkerTransferManifestV1 × List FdCommitmentV1) := do
  let manifestLength ← g0U16LeV1 body 640 .workerBootstrapFrame
  ensure (manifestLength.toNat = workerManifestLength campaignCount) bootstrapDrift
  let manifestEnd := 642 + workerManifestLength campaignCount
  let manifestBytes ← context bootstrapDrift (getRange body 642 manifestEnd)
  let manifest ← g0WorkerManifestFromRawV1 H manifestBytes campaignCount
  ensure (getRange body manifestEnd (manifestEnd + 32) = some manifest.1.digest.val) bootstrapDrift
  pure manifest

def workerEndpointCommitment (endpointDigest : Digest) (closeOnExec : Bool) : Except WireErrorV1 FdCommitmentV1 :=
  FdCommitmentV1.tryNew .workerEndpoint (.socket endpointDigest) ⟨.socket, false, closeOnExec⟩

def transferEntry (commitment : FdCommitmentV1) (index : ℕ) : Except WireErrorV1 ProcessInventoryEntryV1 := do
  ensure (4 + index < 2 ^ 8) .arithmeticOverflow
  pure ⟨UInt8.ofNat (4 + index), commitment⟩

/-- The descriptors of the worker before and after the transfer. -/
def workerInventories (endpointDigest : Digest) (transferCommitments : List FdCommitmentV1) :
    Except (Fault WireErrorV1) (ProcessInventoryV1 × ProcessInventoryV1) := do
  let endpointInitial ← report (workerEndpointCommitment endpointDigest false)
  let endpointTransfer ← report (workerEndpointCommitment endpointDigest true)
  let initial ← ProcessInventoryV1.tryNew H .workerInitialPostExec [⟨3, endpointInitial⟩]
  let transferEntries ← report (transferCommitments.zipIdx.mapM fun entry => transferEntry entry.1 entry.2)
  let transfer ← ProcessInventoryV1.tryNew H .workerExpectedPostTransfer (⟨3, endpointTransfer⟩ :: transferEntries)
  pure (initial, transfer)

def canonicalBootstrapBody (input : G0WorkerBootstrapInboundInputV1) (joined : BootstrapSession)
    (inventories : ProcessInventoryV1 × ProcessInventoryV1) (manifest : WorkerTransferManifestV1) (manifestLength : ℕ) :
    Except WireErrorV1 Bytes := do
  let named ← pushLp16V1 [] workerBootstrapBodyDomainV1.val
  ensure (manifestLength < 2 ^ 16) .arithmeticOverflow
  pure (named ++ le16 frameVersionV1 ++ joined.acceptedGeneratorBoundDigest.val ++ joined.session.preimage.val ++
    joined.session.generatorNonceCommitment.val ++ joined.session.supervisorNonceCommitment.val ++
      joined.supervisorWorkerEndpointDigest.val ++ joined.supervisorReceiverUserNamespace.encode ++
        le32 input.expectedOuterUid ++ le32 input.expectedOuterGid ++ inventories.1.digest.val ++
          inventories.2.digest.val ++ le16 (UInt16.ofNat manifestLength) ++ manifest.bytes ++ manifest.digest.val)

def bootstrapInput (session : ProviderSessionMaterialV1) (workerGenesis : Digest) (body : Bytes)
    (credentials : PeerCredentialsV1) (transferCommitments : List FdCommitmentV1) (declaredFdCount : ℕ) :
    FrameInputV1 where
  direction := .supervisorToWorker
  ordinal := 0
  phase := .userMapsVerified
  sessionId := session.sessionId
  previousHash := workerGenesis
  body := body
  credentials := credentials
  fdCommitments := transferCommitments
  ancillary := .canonical declaredFdCount

def G0WorkerBootstrapInboundCandidateV1.tryNew (input : G0WorkerBootstrapInboundInputV1) :
    Except (Fault WireErrorV1) G0WorkerBootstrapInboundCandidateV1 := do
  let raw := input.receivedRawFrame
  let campaignCount ← report (bootstrapCampaignCount raw input.actualRightsCount)
  report (requireBootstrapHeader raw campaignCount)
  let body ← report (context bootstrapDrift (getRange raw (bootstrapBodyStart campaignCount) raw.length))
  let joined ← report (readBootstrapSession H input body)
  let manifest ← report (readBootstrapManifest H body campaignCount)
  let inventories ← workerInventories H input.localWorkerEndpoint.digest manifest.2
  report (ensure (getRange body 576 608 = some inventories.1.digest.val) bootstrapDrift)
  report (ensure (getRange body 608 640 = some inventories.2.digest.val) bootstrapDrift)
  let canonicalBody ← report
    (canonicalBootstrapBody input joined inventories manifest.1 (workerManifestLength campaignCount))
  report (ensure (canonicalBody = body) bootstrapDrift)
  let workerGenesis := joined.session.workerGenesis H joined.acceptedGeneratorBoundDigest
  let frame ← report (WireFrameV1.tryNew
    (bootstrapInput joined.session workerGenesis canonicalBody input.observedCredentials manifest.2 (campaignCount + 1)))
  let canonicalRaw ← report frame.encodeRawFrame
  report (ensure (canonicalRaw = raw) bootstrapDrift)
  let bootstrap ← report (G0TranscriptCandidateV1.prepare H joined.session 0 workerGenesis frame)
  pure ⟨joined.session, bootstrap.digest, joined.supervisorReceiverUserNamespace, input.expectedOuterUid,
    input.expectedOuterGid, inventories.1, inventories.2, manifest.1, manifest.2⟩

end Candidates

section Contents

variable (H : Bytes → Digest)

/-- The bytes that the hasher has taken stand for its state. -/
structure G0WorkerBootstrapContentVerifierV1 where
  expectedSize : UInt64
  expectedDigest : Digest
  nextOffset : UInt64
  hashed : Bytes
  deriving DecidableEq

def contentDrift : WireErrorV1 := .g0ContractDrift .workerBootstrapContent

def g0WorkerBootstrapHashChunkBytesV1 : ℕ := 65536

def G0WorkerBootstrapContentVerifierV1.fromRetainedCommitmentV1 (commitment : FdCommitmentV1) (observedSize : UInt64)
    (observedStatus : FdStatusV1) (observedSeals : MemfdSealsV1) :
    Except WireErrorV1 G0WorkerBootstrapContentVerifierV1 :=
  match commitment.identity with
  | .memfd size contentDigest seals => do
    ensure (¬(observedSize ≠ size ∨ observedStatus ≠ commitment.status ∨ observedSeals ≠ seals)) contentDrift
    pure ⟨size, contentDigest, 0, []⟩
  | _ => .error contentDrift

def G0WorkerBootstrapInboundCandidateV1.startObservationContentVerifierV1
    (candidate : G0WorkerBootstrapInboundCandidateV1) (observedSize : UInt64) (observedStatus : FdStatusV1)
    (observedSeals : MemfdSealsV1) : Except WireErrorV1 G0WorkerBootstrapContentVerifierV1 := do
  let commitment ← context contentDrift candidate.transferCommitments.head?
  ensure (commitment.role = .observation) contentDrift
  G0WorkerBootstrapContentVerifierV1.fromRetainedCommitmentV1 commitment observedSize observedStatus observedSeals

def G0WorkerBootstrapInboundCandidateV1.startCampaignInputContentVerifierV1
    (candidate : G0WorkerBootstrapInboundCandidateV1) (index : UInt8) (observedSize : UInt64)
    (observedStatus : FdStatusV1) (observedSeals : MemfdSealsV1) :
    Except WireErrorV1 G0WorkerBootstrapContentVerifierV1 := do
  let commitment ← context contentDrift candidate.transferCommitments[index.toNat + 1]?
  ensure (commitment.role = .campaignInput index) contentDrift
  G0WorkerBootstrapContentVerifierV1.fromRetainedCommitmentV1 commitment observedSize observedStatus observedSeals

def G0WorkerBootstrapContentVerifierV1.updateAt (verifier : G0WorkerBootstrapContentVerifierV1) (offset : UInt64)
    (chunk : Bytes) : Except WireErrorV1 G0WorkerBootstrapContentVerifierV1 := do
  ensure (¬(offset ≠ verifier.nextOffset ∨ chunk = [] ∨ g0WorkerBootstrapHashChunkBytesV1 < chunk.length)) contentDrift
  ensure (chunk.length < 2 ^ 64) .arithmeticOverflow
  let nextOffset ← context .arithmeticOverflow (checkedAdd verifier.nextOffset.toNat chunk.length)
  ensure (nextOffset ≤ verifier.expectedSize.toNat) contentDrift
  pure { verifier with nextOffset := UInt64.ofNat nextOffset, hashed := verifier.hashed ++ chunk }

def G0WorkerBootstrapContentVerifierV1.finish (verifier : G0WorkerBootstrapContentVerifierV1) :
    Except WireErrorV1 Unit := do
  ensure (verifier.nextOffset = verifier.expectedSize) contentDrift
  ensure (H verifier.hashed = verifier.expectedDigest) contentDrift

end Contents

section Answers

variable (H : Bytes → Digest)

def encodeWorkerExecBoundRawFrameV1 (session : ProviderSessionMaterialV1) (workerBootstrapDigest : Digest)
    (body : WorkerExecBoundBodyV1) : Except WireErrorV1 (ByteArr 318) := do
  body.validateSession session
  tryInto 318 (encodeRawFramePartsV1 frameMagicV1 frameVersionV1 .workerToSupervisor 1 .workerExecBound 236
    session.sessionId workerBootstrapDigest 0 [] body.bytes.val)

structure G0WorkerExecBoundOutboundCandidateV1 where
  rawFrame : ByteArr 318
  transcriptDigest : Digest

def workerExecBoundInput (session : ProviderSessionMaterialV1) (bootstrapDigest : Digest)
    (body : WorkerExecBoundBodyV1) (credentials : PeerCredentialsV1) : FrameInputV1 where
  direction := .workerToSupervisor
  ordinal := 1
  phase := .workerExecBound
  sessionId := session.sessionId
  previousHash := bootstrapDigest
  body := body.bytes.val
  credentials := credentials
  fdCommitments := []
  ancillary := .canonical 0

def G0WorkerBootstrapInboundCandidateV1.prepareWorkerExecBoundOutboundV1
    (candidate : G0WorkerBootstrapInboundCandidateV1) (credentials : PeerCredentialsV1) :
    Except WireErrorV1 G0WorkerExecBoundOutboundCandidateV1 := do
  ensure (¬(credentials.userNamespace ≠ candidate.supervisorReceiverUserNamespace ∨
    credentials.userId ≠ candidate.expectedOuterUid ∨ credentials.groupId ≠ candidate.expectedOuterGid)) bootstrapDrift
  let body ← WorkerExecBoundBodyV1.tryNew candidate.session candidate.workerInitialInventory
    candidate.workerTransferInventory candidate.workerManifest
  let rawFrame ← encodeWorkerExecBoundRawFrameV1 candidate.session candidate.bootstrapDigest body
  let frame ← WireFrameV1.tryNew (workerExecBoundInput candidate.session candidate.bootstrapDigest body credentials)
  let canonicalRaw ← frame.encodeRawFrame
  ensure (canonicalRaw = rawFrame.val) bootstrapDrift
  let transcript ← G0TranscriptCandidateV1.prepare H candidate.session 1 candidate.bootstrapDigest frame
  pure ⟨rawFrame, transcript.digest⟩

end Answers

section Verification

variable {H : Bytes → Digest}

/-- A read of a descriptor: where, and what it gave. -/
structure ContentRead where
  offset : UInt64
  chunk : Bytes

namespace G0WorkerBootstrapContentVerifierV1

variable {verifier next : G0WorkerBootstrapContentVerifierV1}

/-- A refused read leaves the verifier as it is. -/
def take (verifier : G0WorkerBootstrapContentVerifierV1) (read : ContentRead) : G0WorkerBootstrapContentVerifierV1 :=
  match verifier.updateAt read.offset read.chunk with
  | .ok next => next
  | .error _ => verifier

def takeAll (verifier : G0WorkerBootstrapContentVerifierV1) (reads : List ContentRead) :
    G0WorkerBootstrapContentVerifierV1 := reads.foldl take verifier

lemma updateAt_ok {offset : UInt64} {chunk : Bytes} :
    verifier.updateAt offset chunk = .ok next ↔
      offset = verifier.nextOffset ∧ chunk ≠ [] ∧ chunk.length ≤ 65536 ∧
        verifier.nextOffset.toNat + chunk.length ≤ verifier.expectedSize.toNat ∧
          next = { verifier with
            nextOffset := UInt64.ofNat (verifier.nextOffset.toNat + chunk.length)
            hashed := verifier.hashed ++ chunk } := by
  have hsize := verifier.expectedSize.toNat_lt
  simp only [updateAt, bind_ok, ensure_ok, exists_unit, context_ok, checkedAdd_eq_some, pure_ok, not_or, not_not, not_lt,
    g0WorkerBootstrapHashChunkBytesV1]
  constructor
  · rintro ⟨⟨hoffset, hchunk, hbound⟩, -, _, ⟨-, rfl⟩, hfits, rfl⟩
    exact ⟨hoffset, hchunk, hbound, hfits, rfl⟩
  · rintro ⟨hoffset, hchunk, hbound, hfits, rfl⟩
    exact ⟨⟨hoffset, hchunk, hbound⟩, by omega, _, ⟨by omega, rfl⟩, hfits, rfl⟩

/-- What holds of a verifier while its reads come from one content. -/
structure Follows (verifier start : G0WorkerBootstrapContentVerifierV1) (content : Bytes) : Prop where
  size : verifier.expectedSize = start.expectedSize
  digest : verifier.expectedDigest = start.expectedDigest
  offset : verifier.nextOffset.toNat = verifier.hashed.length
  bound : verifier.hashed.length ≤ verifier.expectedSize.toNat
  hashed : verifier.hashed <+: content

lemma Follows.take {start : G0WorkerBootstrapContentVerifierV1} {content : Bytes} {read : ContentRead}
    (h : verifier.Follows start content) (hread : read.chunk <+: content.drop read.offset.toNat) :
    (verifier.take read).Follows start content := by
  rw [G0WorkerBootstrapContentVerifierV1.take]
  cases hupdate : verifier.updateAt read.offset read.chunk with
  | error e => exact h
  | ok next =>
    obtain ⟨hoffset, -, -, hfits, rfl⟩ := updateAt_ok.mp hupdate
    have hsize := verifier.expectedSize.toNat_lt
    obtain ⟨hexpected, hdigest, hnext, hbound, hhashed⟩ := h
    rw [hoffset, hnext] at hread
    rw [hnext] at hfits
    refine ⟨hexpected, hdigest, ?_, ?_, Reading.append_prefix_iff.mpr ⟨hhashed, hread⟩⟩
    · change (UInt64.ofNat (verifier.nextOffset.toNat + read.chunk.length)).toNat = (verifier.hashed ++ read.chunk).length
      rw [UInt64.toNat_ofNat', Nat.mod_eq_of_lt (by omega), hnext, List.length_append]
    · rw [List.length_append]
      exact hfits

lemma Follows.takeAll {start : G0WorkerBootstrapContentVerifierV1} {content : Bytes} {reads : List ContentRead}
    (h : verifier.Follows start content) (hreads : ∀ read ∈ reads, read.chunk <+: content.drop read.offset.toNat) :
    (verifier.takeAll reads).Follows start content := by
  induction reads generalizing verifier with
  | nil => exact h
  | cons read reads ih =>
    obtain ⟨hread, hrest⟩ := List.forall_mem_cons.mp hreads
    exact ih (h.take hread) hrest

def consecutive (offset : ℕ) : List Bytes → List ContentRead
  | [] => []
  | chunk :: chunks => ⟨UInt64.ofNat offset, chunk⟩ :: consecutive (offset + chunk.length) chunks

lemma takeAll_consecutive {chunks : List Bytes} (hoffset : verifier.nextOffset.toNat = verifier.hashed.length)
    (hchunks : ∀ chunk ∈ chunks, chunk ≠ [] ∧ chunk.length ≤ 65536)
    (hfits : verifier.hashed.length + chunks.flatten.length ≤ verifier.expectedSize.toNat) :
    (verifier.takeAll (consecutive verifier.hashed.length chunks)) = { verifier with
      nextOffset := UInt64.ofNat (verifier.hashed.length + chunks.flatten.length)
      hashed := verifier.hashed ++ chunks.flatten } := by
  induction chunks generalizing verifier with
  | nil =>
    have hnext : UInt64.ofNat verifier.hashed.length = verifier.nextOffset := by
      rw [← hoffset, UInt64.ofNat_toNat]
    simp [consecutive, G0WorkerBootstrapContentVerifierV1.takeAll, hnext]
  | cons chunk chunks ih =>
    have hsize := verifier.expectedSize.toNat_lt
    obtain ⟨⟨hnonempty, hbound⟩, hrest⟩ := List.forall_mem_cons.mp hchunks
    rw [List.flatten_cons, List.length_append] at hfits
    have hstep : verifier.take ⟨UInt64.ofNat verifier.hashed.length, chunk⟩ = { verifier with
        nextOffset := UInt64.ofNat (verifier.hashed.length + chunk.length)
        hashed := verifier.hashed ++ chunk } := by
      have hnext : UInt64.ofNat verifier.hashed.length = verifier.nextOffset := by
        rw [← hoffset, UInt64.ofNat_toNat]
      have hupdate := updateAt_ok.mpr ⟨hnext, hnonempty, hbound, by omega, rfl⟩
      rw [G0WorkerBootstrapContentVerifierV1.take, hupdate, hoffset]
    have hlength : (verifier.hashed ++ chunk).length = verifier.hashed.length + chunk.length := List.length_append
    change (verifier.take ⟨UInt64.ofNat verifier.hashed.length, chunk⟩).takeAll
      (consecutive (verifier.hashed.length + chunk.length) chunks) = _
    rw [hstep, ← hlength]
    refine (ih ?_ hrest ?_).trans ?_
    · exact (UInt64.toNat_ofNat'.trans (Nat.mod_eq_of_lt (by omega)))
    · change (verifier.hashed ++ chunk).length + chunks.flatten.length ≤ verifier.expectedSize.toNat
      omega
    · simp [List.append_assoc, Nat.add_assoc]

/-- Where a read was asked for, and how much of it. -/
def pread (content : Bytes) (position : UInt64 × ℕ) : ContentRead :=
  ⟨position.1, slice content position.1.toNat position.2⟩

variable (H : Bytes → Digest)

/-- The verification of a commitment against what is observed of its descriptor and read from it. -/
def verify (commitment : FdCommitmentV1) (observedSize : UInt64) (observedStatus : FdStatusV1)
    (observedSeals : MemfdSealsV1) (reads : List ContentRead) : Except WireErrorV1 Unit := do
  let start ← fromRetainedCommitmentV1 commitment observedSize observedStatus observedSeals
  (start.takeAll reads).finish H

def fresh (size : UInt64) (digest : Digest) : G0WorkerBootstrapContentVerifierV1 := ⟨size, digest, 0, []⟩

variable {H}

lemma fresh_follows (size : UInt64) (digest : Digest) (content : Bytes) :
    (fresh size digest).Follows (fresh size digest) content :=
  ⟨rfl, rfl, rfl, Nat.zero_le _, List.nil_prefix⟩

lemma fromRetainedCommitmentV1_ok {commitment : FdCommitmentV1} {observedSize : UInt64} {observedStatus : FdStatusV1}
    {observedSeals : MemfdSealsV1} :
    fromRetainedCommitmentV1 commitment observedSize observedStatus observedSeals = .ok verifier ↔
      ∃ digest, commitment.identity = .memfd observedSize digest observedSeals ∧ commitment.status = observedStatus ∧
        verifier = fresh observedSize digest := by
  rw [fromRetainedCommitmentV1]
  cases commitment.identity with
  | memfd size digest seals =>
    simp only [bind_ok, ensure_ok, exists_unit, pure_ok, not_or, not_not, FdIdentityV1.memfd.injEq]
    constructor
    · rintro ⟨⟨rfl, rfl, rfl⟩, rfl⟩
      exact ⟨digest, ⟨rfl, rfl, rfl⟩, rfl, rfl⟩
    · rintro ⟨_, ⟨rfl, rfl, rfl⟩, rfl, rfl⟩
      exact ⟨⟨rfl, rfl, rfl⟩, rfl⟩
  | _ => simp

lemma verify_positions {commitment : FdCommitmentV1} {observedSize : UInt64} {observedStatus : FdStatusV1}
    {observedSeals : MemfdSealsV1} (content : Bytes) (positions : List (UInt64 × ℕ)) :
    verify H commitment observedSize observedStatus observedSeals (positions.map (pread content)) = .ok () ↔
      ∃ digest, commitment.identity = .memfd observedSize digest observedSeals ∧ commitment.status = observedStatus ∧
        ((fresh observedSize digest).takeAll (positions.map (pread content))).nextOffset = observedSize ∧
          H (content.take observedSize.toNat) = digest := by
  simp only [verify, bind_ok, fromRetainedCommitmentV1_ok, finish, ensure_ok, exists_unit]
  have hreads : ∀ read ∈ positions.map (pread content), read.chunk <+: content.drop read.offset.toNat := by
    intro read hread
    obtain ⟨position, -, rfl⟩ := List.mem_map.mp hread
    exact List.take_prefix _ _
  have hstate : ∀ digest, ((fresh observedSize digest).takeAll (positions.map (pread content))).Follows
      (fresh observedSize digest) content := fun digest => (fresh_follows observedSize digest content).takeAll hreads
  have hread : ∀ digest,
      ((fresh observedSize digest).takeAll (positions.map (pread content))).nextOffset = observedSize →
        ((fresh observedSize digest).takeAll (positions.map (pread content))).hashed =
          content.take observedSize.toNat := by
    intro digest hreached
    have hfollows := hstate digest
    rw [List.prefix_iff_eq_take.mp hfollows.hashed, ← hfollows.offset, hreached]
  constructor
  · rintro ⟨_, ⟨digest, hidentity, hstatus, rfl⟩, hreached, hdigest⟩
    obtain ⟨hsize, hexpected, -, -, -⟩ := hstate digest
    refine ⟨digest, hidentity, hstatus, hreached.trans hsize, ?_⟩
    rw [← hread digest (hreached.trans hsize), hdigest, hexpected]
    rfl
  · rintro ⟨digest, hidentity, hstatus, hreached, hdigest⟩
    obtain ⟨hsize, hexpected, -, -, -⟩ := hstate digest
    refine ⟨_, ⟨digest, hidentity, hstatus, rfl⟩, hreached.trans hsize.symm, ?_⟩
    rw [hread digest hreached, hdigest, hexpected]
    rfl

lemma verify_consecutive {commitment : FdCommitmentV1} {observedSize : UInt64} {observedStatus : FdStatusV1}
    {observedSeals : MemfdSealsV1} {chunks : List Bytes} (hchunks : ∀ chunk ∈ chunks, chunk ≠ [] ∧ chunk.length ≤ 65536)
    (hsize : chunks.flatten.length = observedSize.toNat) :
    verify H commitment observedSize observedStatus observedSeals (consecutive 0 chunks) = .ok () ↔
      commitment.identity = .memfd observedSize (H chunks.flatten) observedSeals ∧ commitment.status = observedStatus := by
  have hfinal : ∀ digest, (fresh observedSize digest).takeAll (consecutive 0 chunks) =
      ⟨observedSize, digest, observedSize, chunks.flatten⟩ := by
    intro digest
    have htaken := takeAll_consecutive (show (fresh observedSize digest).nextOffset.toNat = _ from rfl) hchunks
      (by rw [hsize]; exact (Nat.zero_add _).le)
    refine htaken.trans ?_
    rw [hsize]
    simp [fresh]
  simp only [verify, bind_ok, fromRetainedCommitmentV1_ok, finish, ensure_ok, exists_unit]
  constructor
  · rintro ⟨_, ⟨digest, hidentity, hstatus, rfl⟩, -, hdigest⟩
    rw [hfinal] at hdigest
    obtain rfl : H chunks.flatten = digest := hdigest
    exact ⟨hidentity, hstatus⟩
  · rintro ⟨hidentity, hstatus⟩
    refine ⟨_, ⟨_, hidentity, hstatus, rfl⟩, ?_⟩
    rw [hfinal]
    exact ⟨rfl, rfl⟩

/-- Whatever is read of a content, in which order and how often, its verification passes exactly when
the size, the state and the seals are the retained ones, the reads have reached the size, and the
content up to the size has the retained digest; and consecutive chunks of the size do reach it. -/
theorem contents_verified_exactly (commitment : FdCommitmentV1) (observedSize : UInt64) (observedStatus : FdStatusV1)
    (observedSeals : MemfdSealsV1) :
    (∀ (content : Bytes) (positions : List (UInt64 × ℕ)),
      verify H commitment observedSize observedStatus observedSeals (positions.map (pread content)) = .ok () ↔
        ∃ digest, commitment.identity = .memfd observedSize digest observedSeals ∧ commitment.status = observedStatus ∧
          ((fresh observedSize digest).takeAll (positions.map (pread content))).nextOffset = observedSize ∧
            H (content.take observedSize.toNat) = digest) ∧
      ∀ chunks : List Bytes, (∀ chunk ∈ chunks, chunk ≠ [] ∧ chunk.length ≤ 65536) →
        chunks.flatten.length = observedSize.toNat →
          (verify H commitment observedSize observedStatus observedSeals (consecutive 0 chunks) = .ok () ↔
            commitment.identity = .memfd observedSize (H chunks.flatten) observedSeals ∧
              commitment.status = observedStatus) :=
  ⟨verify_positions, fun _ => verify_consecutive⟩

end G0WorkerBootstrapContentVerifierV1

end Verification

end Eip0045.Wire
