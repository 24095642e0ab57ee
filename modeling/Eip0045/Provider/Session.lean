import Eip0045.Provider.Transcript

/-! The session of an attempt: the values that both sides commit to before the first frame, the inventories
of the processes and the bodies of the frames that bind them. -/

namespace Eip0045.Wire

open Bytes Checked

section Domains

def sealedIngressManifestDomainV1 : ByteArr 41 := ⟨utf8 "eip0045-b4-h0-sealed-ingress-manifest-v1" ++ [0], by decide⟩
def publicationTargetDomainV1 : ByteArr 36 := ⟨utf8 "eip0045-b4-h0-publication-target-v1" ++ [0], by decide⟩
def requestCommitmentDomainV1 : ByteArr 36 := ⟨utf8 "eip0045-b4-h0-request-commitment-v1" ++ [0], by decide⟩
def endpointCommitmentDomainV1 : ByteArr 36 := ⟨utf8 "eip0045-b4-h0-seqpacket-endpoint-v1" ++ [0], by decide⟩
def generatorChannelIdentityDomainV1 : ByteArr 44 :=
  ⟨utf8 "eip0045-b4-h0-generator-channel-identity-v1" ++ [0], by decide⟩
def workerChannelIdentityDomainV1 : ByteArr 41 :=
  ⟨utf8 "eip0045-b4-h0-worker-channel-identity-v1" ++ [0], by decide⟩
def sessionOfferDomainV1 : ByteArr 31 := ⟨utf8 "eip0045-b4-h0-session-offer-v1" ++ [0], by decide⟩
def nonceCommitmentDomainV1 : ByteArr 34 := ⟨utf8 "eip0045-b4-h0-nonce-commitment-v1" ++ [0], by decide⟩
def preSessionRecordMagicV1 : ByteArr 8 := ⟨utf8 "EIP45H0N", by decide⟩
def providerSessionDomainV1 : ByteArr 28 := ⟨utf8 "eip0045-b4-h0-session-id-v1" ++ [0], by decide⟩
def generatorChannelGenesisDomainV1 : ByteArr 43 :=
  ⟨utf8 "eip0045-b4-h0-generator-channel-genesis-v1" ++ [0], by decide⟩
def workerChannelGenesisDomainV1 : ByteArr 40 :=
  ⟨utf8 "eip0045-b4-h0-worker-channel-genesis-v1" ++ [0], by decide⟩
def providerIdV1 : ByteArr 37 := ⟨utf8 "eip0045-b4-tmpfs-metadata-provider-v1", by decide⟩
def policyIdV1 : ByteArr 55 := ⟨utf8 "eip0045-b4-retained-host-rootfs-metadata-obligations-v2", by decide⟩
def sessionProtocolIdV1 : ByteArr 43 := ⟨utf8 "eip0045-b4-supervised-filesystem-session-v1", by decide⟩
def applianceIdV1 : ByteArr 33 := ⟨utf8 "eip0045-b4-buildroot-appliance-v1", by decide⟩

def g0MaxIngressCountV1 : ℕ := 15
def g0RequestPreimageBytesV1 : ℕ := 772

end Domains

section Codec

def pushLp16V1 (output value : Bytes) : Except WireErrorV1 Bytes := do
  ensure (value.length < 2 ^ 16) .arithmeticOverflow
  pure (output ++ le16 (UInt16.ofNat value.length) ++ value)

def tryInto (n : ℕ) (bytes : Bytes) : Except WireErrorV1 (ByteArr n) :=
  context .arithmeticOverflow (ByteArr.ofBytes n bytes)

/-- A commitment in a slot: the slot, the length of the commitment and the commitment. -/
def commitmentRecord (slot : UInt8) (commitment : FdCommitmentV1) : Bytes := [slot] ++ sizedCommitment commitment

end Codec

section Requests

variable (H : Bytes → Digest)

structure SealedIngressManifestV1 where
  bytes : Bytes
  count : UInt8
  digest : Digest

def ingressRecord (ordinal : ℕ) (commitment : FdCommitmentV1) : Except WireErrorV1 Bytes := do
  ensure (ordinal < 2 ^ 8) .arithmeticOverflow
  ensure (commitment.role = .campaignInput (UInt8.ofNat ordinal)) (.g0ContractDrift .ingressCommitment)
  let encoded ← encodeFdCommitmentV1 commitment
  let encodedLength ← encodedFdCommitmentLenV1 commitment
  ensure (encodedLength = 50) (.g0ContractDrift .ingressCommitment)
  pure ([UInt8.ofNat ordinal] ++ le16 encodedLength ++ encoded)

def SealedIngressManifestV1.tryNew (commitments : List FdCommitmentV1) :
    Except WireErrorV1 SealedIngressManifestV1 := do
  ensure (commitments.length ≤ g0MaxIngressCountV1) (.g0ContractDrift .ingressCount)
  ensure (commitments.length < 2 ^ 8) (.g0ContractDrift .ingressCount)
  let count := UInt8.ofNat commitments.length
  let records ← commitments.zipIdx.mapM fun entry => ingressRecord entry.2 entry.1
  let bytes := sealedIngressManifestDomainV1.val ++ le16 frameVersionV1 ++ [count] ++ records.flatten
  pure ⟨bytes, count, H bytes⟩

structure PublicationTargetCommitmentV1 where
  preimage : ByteArr 132
  digest : Digest

def PublicationTargetCommitmentV1.tryNew (publicationRoot : FdCommitmentV1)
    (destinationInputAi destinationCompletionAi : Digest) : Except WireErrorV1 PublicationTargetCommitmentV1 := do
  ensure (publicationRoot.role = .publicationRoot) (.g0ContractDrift .publicationRoot)
  let encoded ← encodeFdCommitmentV1 publicationRoot
  let encodedLength ← encodedFdCommitmentLenV1 publicationRoot
  ensure (encodedLength = 30) (.g0ContractDrift .publicationRoot)
  let preimage ← tryInto 132 (publicationTargetDomainV1.val ++ le16 encodedLength ++ encoded ++
    destinationInputAi.val ++ destinationCompletionAi.val)
  pure ⟨preimage, H preimage.val⟩

structure RequestRoleBlockV1 where
  role : Tmpfs.ReplayRoleV2
  runnerAi : Digest
  ociLayoutCommitment : Digest
  rootfsPlanCommitment : Digest
  deriving DecidableEq

def RequestRoleBlockV1.encode (block : RequestRoleBlockV1) : Bytes :=
  [replayRoleCode block.role] ++ block.runnerAi.val ++ block.ociLayoutCommitment.val ++ block.rootfsPlanCommitment.val

structure RequestCommitmentV1 where
  preimage : ByteArr 772
  digest : Digest
  ingressCount : UInt8
  deriving DecidableEq

def requireRoleOrder (index : ℕ) (block : RequestRoleBlockV1) : Except WireErrorV1 Unit :=
  ensure ((replayRoleCode block.role).toNat = index) (.g0ContractDrift .requestRoleOrder)

def RequestCommitmentV1.tryNew (allocationEpoch positiveInputSetAi positiveGenerationSetAi : Digest)
    (ingress : SealedIngressManifestV1) (publicationTarget : PublicationTargetCommitmentV1)
    (roleBlocks : List.Vector RequestRoleBlockV1 4) : Except WireErrorV1 RequestCommitmentV1 := do
  roleBlocks.toList.zipIdx.forM fun entry => requireRoleOrder entry.2 entry.1
  -- the product and the sum of a byte, 53 and 44 fit every machine word
  ensure (ingress.bytes.length = 44 + ingress.count.toNat * 53) (.g0ContractDrift .ingressManifestLength)
  let header := requestCommitmentDomainV1.val ++ le16 frameVersionV1
  let named ← pushLp16V1 header providerIdV1.val
  let named ← pushLp16V1 named policyIdV1.val
  let named ← pushLp16V1 named sessionProtocolIdV1.val
  let named ← pushLp16V1 named applianceIdV1.val
  let preimage ← tryInto 772 (named ++ allocationEpoch.val ++ positiveInputSetAi.val ++ positiveGenerationSetAi.val ++
    [ingress.count] ++ le64 (UInt64.ofNat ingress.bytes.length) ++ ingress.digest.val ++ publicationTarget.digest.val ++
      [4] ++ roleBlocks.toList.flatMap RequestRoleBlockV1.encode)
  pure ⟨preimage, H preimage.val, ingress.count⟩

end Requests

section Channels

variable (H : Bytes → Digest)

inductive SeqpacketEndpointRoleV1
  | generator
  | supervisorGenerator
  | supervisorWorker
  | worker
  deriving DecidableEq

def SeqpacketEndpointRoleV1.wireCode : SeqpacketEndpointRoleV1 → UInt8
  | .generator => 0
  | .supervisorGenerator => 1
  | .supervisorWorker => 2
  | .worker => 3

structure SeqpacketEndpointCommitmentV1 where
  role : SeqpacketEndpointRoleV1
  preimage : ByteArr 83
  digest : Digest

/-- The closed socket tuple behind the observation: unix domain, sequenced packets, no protocol. -/
def endpointPreimage (role : SeqpacketEndpointRoleV1) (descriptor : DescriptorIdentityV1) (socketCookie : UInt64) :
    ByteArr 83 :=
  ⟨endpointCommitmentDomainV1.val ++ le16 frameVersionV1 ++ [role.wireCode] ++ descriptor.encode ++ le64 socketCookie ++
    le32 1 ++ le32 5 ++ le32 0, by simp [DescriptorIdentityV1.encode]⟩

def SeqpacketEndpointCommitmentV1.fromObservation (role : SeqpacketEndpointRoleV1) (descriptor : DescriptorIdentityV1)
    (socketCookie : UInt64) : SeqpacketEndpointCommitmentV1 :=
  ⟨role, endpointPreimage role descriptor socketCookie, H (endpointPreimage role descriptor socketCookie).val⟩

inductive ChannelIdentityKindV1
  | generator
  | worker
  deriving DecidableEq

structure ChannelIdentityV1 where
  kind : ChannelIdentityKindV1
  digest : Digest
  deriving DecidableEq

def ChannelIdentityV1.fromOrderedEndpointDigests (kind : ChannelIdentityKindV1) (domain : Bytes)
    (firstEndpointDigest secondEndpointDigest : Digest) : ChannelIdentityV1 :=
  ⟨kind, H (domain ++ firstEndpointDigest.val ++ secondEndpointDigest.val)⟩

def ChannelIdentityV1.tryGenerator (generator supervisor : SeqpacketEndpointCommitmentV1) :
    Except WireErrorV1 ChannelIdentityV1 := do
  ensure (¬(generator.role ≠ .generator ∨ supervisor.role ≠ .supervisorGenerator)) (.g0ContractDrift .endpointPair)
  pure (fromOrderedEndpointDigests H .generator generatorChannelIdentityDomainV1.val generator.digest supervisor.digest)

def ChannelIdentityV1.tryWorker (supervisor worker : SeqpacketEndpointCommitmentV1) :
    Except WireErrorV1 ChannelIdentityV1 := do
  ensure (¬(supervisor.role ≠ .supervisorWorker ∨ worker.role ≠ .worker)) (.g0ContractDrift .endpointPair)
  pure (fromOrderedEndpointDigests H .worker workerChannelIdentityDomainV1.val supervisor.digest worker.digest)

structure SessionOfferInputV1 where
  request : RequestCommitmentV1
  applianceMeasurement : Digest
  supervisorMeasurement : Digest
  generatorMeasurement : Digest
  workerMeasurement : Digest
  supervisorPid : UInt32
  supervisorStartEpoch : UInt64
  generatorChannel : ChannelIdentityV1
  workerChannel : ChannelIdentityV1
  supervisorGeneratorEndpoint : SeqpacketEndpointCommitmentV1
  supervisorReceiverUserNamespace : DescriptorIdentityV1

structure SessionOfferV1 where
  bytes : ByteArr 1101
  deriving DecidableEq

def SessionOfferV1.tryNew (input : SessionOfferInputV1) : Except WireErrorV1 SessionOfferV1 := do
  ensure (¬(input.supervisorPid = 0 ∨ input.supervisorStartEpoch = 0)) (.g0ContractDrift .supervisorProcess)
  ensure (¬(input.generatorChannel.kind ≠ .generator ∨ input.workerChannel.kind ≠ .worker ∨
    input.supervisorGeneratorEndpoint.role ≠ .supervisorGenerator)) (.g0ContractDrift .sessionOfferChannel)
  let named ← pushLp16V1 [] sessionOfferDomainV1.val
  ensure (g0RequestPreimageBytesV1 < 2 ^ 16) .arithmeticOverflow
  let bytes ← tryInto 1101 (named ++ le16 frameVersionV1 ++ le16 (UInt16.ofNat g0RequestPreimageBytesV1) ++
    input.request.preimage.val ++ input.request.digest.val ++ input.applianceMeasurement.val ++
      input.supervisorMeasurement.val ++ input.generatorMeasurement.val ++ input.workerMeasurement.val ++
        le32 input.supervisorPid ++ le64 input.supervisorStartEpoch ++ input.generatorChannel.digest.val ++
          input.workerChannel.digest.val ++ input.supervisorGeneratorEndpoint.digest.val ++
            input.supervisorReceiverUserNamespace.encode)
  pure ⟨bytes⟩

end Channels

section Nonces

variable (H : Bytes → Digest)

inductive NonceRoleV1
  | generator
  | supervisor
  deriving DecidableEq

def NonceRoleV1.wireCode : NonceRoleV1 → UInt8
  | .generator => 0
  | .supervisor => 1

inductive PreSessionRecordKindV1
  | generatorCommit
  | supervisorCommit
  | generatorReveal
  | supervisorReveal
  deriving DecidableEq

def PreSessionRecordKindV1.wireCode : PreSessionRecordKindV1 → UInt8
  | .generatorCommit => 0
  | .supervisorCommit => 1
  | .generatorReveal => 2
  | .supervisorReveal => 3

def PreSessionRecordKindV1.role : PreSessionRecordKindV1 → NonceRoleV1
  | .generatorCommit => .generator
  | .supervisorCommit => .supervisor
  | .generatorReveal => .generator
  | .supervisorReveal => .supervisor

def PreSessionRecordKindV1.reveal : PreSessionRecordKindV1 → Bool
  | .generatorCommit => false
  | .supervisorCommit => false
  | .generatorReveal => true
  | .supervisorReveal => true

def noncePreimage (role : NonceRoleV1) (requestDigest nonce : Digest) : Bytes :=
  nonceCommitmentDomainV1.val ++ [role.wireCode] ++ requestDigest.val ++ nonce.val

def nonceCommitmentFromDigestV1 (role : NonceRoleV1) (requestDigest nonce : Digest) : Except WireErrorV1 Digest := do
  ensure (nonce ≠ ByteArr.zero 32) (.g0ContractDrift .nonce)
  pure (H (noncePreimage role requestDigest nonce))

def nonceCommitmentV1 (role : NonceRoleV1) (request : RequestCommitmentV1) (nonce : Digest) : Except WireErrorV1 Digest :=
  nonceCommitmentFromDigestV1 H role request.digest nonce

def encodePreSessionRecordV1 (kind : PreSessionRecordKindV1) (request : RequestCommitmentV1) (nonce : Digest) :
    Except WireErrorV1 (ByteArr 75) := do
  let commitment ← nonceCommitmentV1 H kind.role request nonce
  let payload := if kind.reveal = true then nonce else commitment
  tryInto 75 (preSessionRecordMagicV1.val ++ le16 frameVersionV1 ++ [kind.wireCode] ++ request.digest.val ++ payload.val)

structure ProviderSessionInputV1 where
  request : RequestCommitmentV1
  applianceMeasurement : Digest
  supervisorMeasurement : Digest
  generatorMeasurement : Digest
  workerMeasurement : Digest
  generatorNonce : Digest
  supervisorNonce : Digest
  supervisorPid : UInt32
  supervisorStartEpoch : UInt64
  generatorChannel : ChannelIdentityV1
  workerChannel : ChannelIdentityV1

structure ProviderSessionMaterialV1 where
  preimage : ByteArr 373
  sessionId : Digest
  requestCommitment : Digest
  generatorNonceCommitment : Digest
  supervisorNonceCommitment : Digest
  generatorChannel : Digest
  workerChannel : Digest
  deriving DecidableEq

def ProviderSessionMaterialV1.tryNew (input : ProviderSessionInputV1) :
    Except WireErrorV1 ProviderSessionMaterialV1 := do
  ensure (¬(input.supervisorPid = 0 ∨ input.supervisorStartEpoch = 0)) (.g0ContractDrift .supervisorProcess)
  ensure (¬(input.generatorChannel.kind ≠ .generator ∨ input.workerChannel.kind ≠ .worker))
    (.g0ContractDrift .providerSessionChannel)
  let generatorNonceCommitment ← nonceCommitmentV1 H .generator input.request input.generatorNonce
  let supervisorNonceCommitment ← nonceCommitmentV1 H .supervisor input.request input.supervisorNonce
  let named ← pushLp16V1 providerSessionDomainV1.val sessionProtocolIdV1.val
  let preimage ← tryInto 373 (named ++ input.request.digest.val ++ input.applianceMeasurement.val ++
    input.supervisorMeasurement.val ++ input.generatorMeasurement.val ++ input.workerMeasurement.val ++
      input.generatorNonce.val ++ input.supervisorNonce.val ++ le32 input.supervisorPid ++
        le64 input.supervisorStartEpoch ++ input.generatorChannel.digest.val ++ input.workerChannel.digest.val)
  pure ⟨preimage, H preimage.val, input.request.digest, generatorNonceCommitment, supervisorNonceCommitment,
    input.generatorChannel.digest, input.workerChannel.digest⟩

def ChannelIdentityV1.tryGeneratorChild (localEndpoint : SeqpacketEndpointCommitmentV1)
    (supervisorGeneratorEndpointDigest : Digest) (session : ProviderSessionMaterialV1) :
    Except WireErrorV1 ChannelIdentityV1 := do
  ensure (localEndpoint.role = .generator) (.g0ContractDrift .endpointPair)
  let channel := fromOrderedEndpointDigests H .generator generatorChannelIdentityDomainV1.val localEndpoint.digest
    supervisorGeneratorEndpointDigest
  ensure (channel.digest = session.generatorChannel) (.g0ContractDrift .endpointPair)
  pure channel

def ChannelIdentityV1.tryWorkerChild (localEndpoint : SeqpacketEndpointCommitmentV1)
    (supervisorWorkerEndpointDigest : Digest) (session : ProviderSessionMaterialV1) :
    Except WireErrorV1 ChannelIdentityV1 := do
  ensure (localEndpoint.role = .worker) (.g0ContractDrift .endpointPair)
  let channel := fromOrderedEndpointDigests H .worker workerChannelIdentityDomainV1.val supervisorWorkerEndpointDigest
    localEndpoint.digest
  ensure (channel.digest = session.workerChannel) (.g0ContractDrift .endpointPair)
  pure channel

end Nonces

section Domains

def processInventoryDomainV1 : ByteArr 35 := ⟨utf8 "eip0045-b4-h0-process-inventory-v1" ++ [0], by decide⟩
def generatorBoundBodyDomainV1 : ByteArr 38 := ⟨utf8 "eip0045-b4-h0-generator-bound-body-v1" ++ [0], by decide⟩
def generatorSealProfileDomainV1 : ByteArr 40 := ⟨utf8 "eip0045-b4-h0-generator-seal-profile-v1" ++ [0], by decide⟩
def workerTransferManifestDomainV1 : ByteArr 42 :=
  ⟨utf8 "eip0045-b4-h0-worker-transfer-manifest-v1" ++ [0], by decide⟩
def workerBootstrapBodyDomainV1 : ByteArr 39 := ⟨utf8 "eip0045-b4-h0-worker-bootstrap-body-v1" ++ [0], by decide⟩
def workerExecBoundBodyDomainV1 : ByteArr 40 := ⟨utf8 "eip0045-b4-h0-worker-exec-bound-body-v1" ++ [0], by decide⟩
def closedResultBodyDomainV1 : ByteArr 36 := ⟨utf8 "eip0045-b4-h0-closed-result-body-v1" ++ [0], by decide⟩

def g0FinalResultMaxBytesV1 : ℕ := 1048576
def g0WorkerTransferRoleMaxBytesV1 : UInt64 := 1073741824
def g0WorkerTransferAggregateMaxBytesV1 : ℕ := 4294967296
def g0WorkerBootstrapFixedBodyBytesV1 : ℕ := 674

end Domains

section Inventories

variable (H : Bytes → Digest)

inductive ProcessInventoryKindV1
  | generatorPostExec
  | workerInitialPostExec
  | workerExpectedPostTransfer
  deriving DecidableEq

def ProcessInventoryKindV1.wireCode : ProcessInventoryKindV1 → UInt8
  | .generatorPostExec => 0
  | .workerInitialPostExec => 1
  | .workerExpectedPostTransfer => 2

structure ProcessInventoryEntryV1 where
  reservedFd : UInt8
  commitment : FdCommitmentV1

structure ProcessInventoryV1 where
  kind : ProcessInventoryKindV1
  bytes : Bytes
  digest : Digest
  campaignCount : UInt8

def requireInventoryEntryV1 (entry : ProcessInventoryEntryV1) (reservedFd : UInt8) (role : FdRoleV1)
    (closeOnExec : Bool) : Except WireErrorV1 Unit := do
  ensure (¬(entry.reservedFd ≠ reservedFd ∨ entry.commitment.role ≠ role)) (.g0ContractDrift .inventorySlot)
  ensure (¬(entry.commitment.status.nonblocking = true ∨ entry.commitment.status.closeOnExec ≠ closeOnExec))
    (.g0ContractDrift .inventoryStatus)

/-- The seals of a commitment to a memory file. -/
def FdCommitmentV1.seals (commitment : FdCommitmentV1) : Option MemfdSealsV1 :=
  match commitment.identity with
  | .memfd _ _ seals => some seals
  | _ => none

def MemfdSealsV1.sizeFixedUnsealed (seals : MemfdSealsV1) : Prop :=
  seals.grow = .present ∧ seals.shrink = .present ∧ seals.write = .absent ∧ seals.furtherSeals = .absent

instance (seals : MemfdSealsV1) : Decidable seals.sizeFixedUnsealed := inferInstanceAs (Decidable (_ ∧ _))

def requireSeals (admitted : MemfdSealsV1 → Prop) [DecidablePred admitted] (commitment : FdCommitmentV1) :
    Except WireErrorV1 Unit :=
  ensure (∃ seals ∈ commitment.seals, admitted seals) (.g0ContractDrift .inventorySeals)

def requireFullySealedMemfdV1 (commitment : FdCommitmentV1) : Except WireErrorV1 Unit :=
  requireSeals MemfdSealsV1.fullySealed commitment

def requireSizeFixedUnsealedObservationV1 (commitment : FdCommitmentV1) : Except WireErrorV1 Unit :=
  requireSeals MemfdSealsV1.sizeFixedUnsealed commitment

def inventoryCampaignCount (kind : ProcessInventoryKindV1) (count : ℕ) : Except WireErrorV1 ℕ :=
  match kind with
  | .generatorPostExec => do
    ensure (3 ≤ count) (.g0ContractDrift .inventoryCount)
    pure (count - 3)
  | .workerInitialPostExec => do
    ensure (count = 1) (.g0ContractDrift .inventoryCount)
    pure 0
  | .workerExpectedPostTransfer => do
    ensure (2 ≤ count) (.g0ContractDrift .inventoryCount)
    pure (count - 2)

/-- The entries, each behind the slot of the one before it. -/
def validateSlots : Option UInt8 → List ProcessInventoryEntryV1 → Except WireErrorV1 Unit
  | _, [] => .ok ()
  | before, entry :: entries => do
    ensure (∀ slot ∈ before, slot < entry.reservedFd) (.g0ContractDrift .inventorySlot)
    entry.commitment.validate
    validateSlots (some entry.reservedFd) entries

def requireCampaignEntry (first : ℕ) (closeOnExec : Bool) (entry : ProcessInventoryEntryV1) (index : ℕ) :
    Except WireErrorV1 Unit := do
  ensure (first + index < 2 ^ 8) .arithmeticOverflow
  ensure (index < 2 ^ 8) .arithmeticOverflow
  requireInventoryEntryV1 entry (UInt8.ofNat (first + index)) (.campaignInput (UInt8.ofNat index)) closeOnExec
  requireFullySealedMemfdV1 entry.commitment

/-- `items[start..]`, which stops past the end. -/
def itemsFrom {ε α : Type} (items : List α) (start : ℕ) : Except (Fault ε) (List α) :=
  if start ≤ items.length then .ok (items.drop start) else .error .outOfRange

def requireShape (kind : ProcessInventoryKindV1) (entries : List ProcessInventoryEntryV1) :
    Except (Fault WireErrorV1) Unit :=
  match kind with
  | .generatorPostExec => do
    let endpoint ← item entries 0
    report (requireInventoryEntryV1 endpoint 3 .generatorEndpoint false)
    let supervisor ← item entries 1
    report (requireInventoryEntryV1 supervisor 4 .supervisorProcess false)
    let root ← item entries 2
    report (requireInventoryEntryV1 root 5 .publicationRoot false)
    let campaign ← itemsFrom entries 3
    report (campaign.zipIdx.forM fun entry => requireCampaignEntry 6 false entry.1 entry.2)
  | .workerInitialPostExec => do
    let endpoint ← item entries 0
    report (requireInventoryEntryV1 endpoint 3 .workerEndpoint false)
  | .workerExpectedPostTransfer => do
    let endpoint ← item entries 0
    report (requireInventoryEntryV1 endpoint 3 .workerEndpoint true)
    let observation ← item entries 1
    report (requireInventoryEntryV1 observation 4 .observation true)
    report (requireSizeFixedUnsealedObservationV1 observation.commitment)
    let campaign ← itemsFrom entries 2
    report (campaign.zipIdx.forM fun entry => requireCampaignEntry 5 true entry.1 entry.2)

def validateProcessInventoryV1 (kind : ProcessInventoryKindV1) (entries : List ProcessInventoryEntryV1) :
    Except (Fault WireErrorV1) UInt8 := do
  let campaignCount ← report (inventoryCampaignCount kind entries.length)
  report (ensure (campaignCount ≤ g0MaxIngressCountV1) (.g0ContractDrift .inventoryCount))
  report (validateSlots none entries)
  requireShape kind entries
  report (ensure (campaignCount < 2 ^ 8) .arithmeticOverflow)
  pure (UInt8.ofNat campaignCount)

/-- A commitment after its slot and its length. -/
def encodeRecord (slot : UInt8) (commitment : FdCommitmentV1) : Except WireErrorV1 Bytes := do
  let encoded ← encodeFdCommitmentV1 commitment
  let encodedLength ← encodedFdCommitmentLenV1 commitment
  pure ([slot] ++ le16 encodedLength ++ encoded)

def inventoryLength (kind : ProcessInventoryKindV1) (campaignCount : UInt8) : ℕ :=
  match kind with
  | .generatorPostExec => 135 + 53 * campaignCount.toNat
  | .workerInitialPostExec => 82
  | .workerExpectedPostTransfer => 134 + 53 * campaignCount.toNat

def ProcessInventoryV1.tryNew (kind : ProcessInventoryKindV1) (entries : List ProcessInventoryEntryV1) :
    Except (Fault WireErrorV1) ProcessInventoryV1 := do
  let campaignCount ← validateProcessInventoryV1 kind entries
  report (ensure (entries.length < 2 ^ 16) .arithmeticOverflow)
  let named ← report (pushLp16V1 [] processInventoryDomainV1.val)
  let records ← report (entries.mapM fun entry => encodeRecord entry.reservedFd entry.commitment)
  let bytes := named ++ le16 frameVersionV1 ++ [kind.wireCode] ++ le16 (UInt16.ofNat entries.length) ++ records.flatten
  report (ensure (bytes.length = inventoryLength kind campaignCount) (.g0ContractDrift .inventoryLength))
  pure ⟨kind, bytes, H bytes, campaignCount⟩

end Inventories

section Profiles

variable (H : Bytes → Digest)

structure SockFilterInstructionV1 where
  code : UInt16
  jumpTrue : UInt8
  jumpFalse : UInt8
  value : UInt32
  deriving DecidableEq

structure GeneratorSealProfileV1 where
  bytes : Bytes
  digest : Digest

def SockFilterInstructionV1.encode (instruction : SockFilterInstructionV1) : Bytes :=
  le16 instruction.code ++ [instruction.jumpTrue] ++ [instruction.jumpFalse] ++ le32 instruction.value

def GeneratorSealProfileV1.tryNew (instructions : List SockFilterInstructionV1) :
    Except WireErrorV1 GeneratorSealProfileV1 := do
  ensure (¬(instructions = [] ∨ 4096 < instructions.length)) (.g0ContractDrift .generatorSealInstructionCount)
  ensure (instructions.length < 2 ^ 16) (.g0ContractDrift .generatorSealInstructionCount)
  let bytes := generatorSealProfileDomainV1.val ++ le16 (UInt16.ofNat instructions.length) ++
    instructions.flatMap SockFilterInstructionV1.encode ++ le32 0 ++ [1]
  pure ⟨bytes, H bytes⟩

end Profiles

section Manifests

variable (H : Bytes → Digest)

structure WorkerTransferManifestV1 where
  bytes : Bytes
  digest : Digest
  campaignCount : UInt8

def workerTransferMemfdSizeV1 (commitment : FdCommitmentV1) (field : G0ContractFieldV1) : Except WireErrorV1 UInt64 :=
  match commitment.identity with
  | .memfd size _ _ => .ok size
  | _ => .error (.g0ContractDrift field)

def addTransferSize (aggregate : ℕ) (commitment : FdCommitmentV1) : Except WireErrorV1 ℕ := do
  let size ← workerTransferMemfdSizeV1 commitment .workerManifestCampaign
  context .arithmeticOverflow (checkedAdd aggregate size.toNat)

def requireTransferSize (commitment : FdCommitmentV1) : Except WireErrorV1 Unit := do
  let size ← workerTransferMemfdSizeV1 commitment .workerManifestCampaign
  ensure (¬(size = 0 ∨ g0WorkerTransferRoleMaxBytesV1 < size)) (.g0ContractDrift .workerManifestCampaignContentLength)

def requireWorkerTransferContentPolicyV1 (observation : FdCommitmentV1) (campaignInputs : List FdCommitmentV1) :
    Except WireErrorV1 Unit := do
  let observationSize ← workerTransferMemfdSizeV1 observation .workerManifestObservation
  let aggregateSize ← campaignInputs.foldlM addTransferSize observationSize.toNat
  ensure (observationSize ≤ g0WorkerTransferRoleMaxBytesV1)
    (.g0ContractDrift .workerManifestObservationContentLength)
  campaignInputs.forM requireTransferSize
  ensure (aggregateSize ≤ g0WorkerTransferAggregateMaxBytesV1) (.g0ContractDrift .workerManifestAggregateContentLength)

/-- A commitment whose descriptor blocks and closes on execution, of one length. -/
def requireTransferred (role : FdRoleV1) (length : UInt16) (field : G0ContractFieldV1) (commitment : FdCommitmentV1) :
    Except WireErrorV1 Unit := do
  ensure (commitment.role = role) (.g0ContractDrift field)
  ensure (commitment.status.nonblocking = false) (.g0ContractDrift field)
  ensure (commitment.status.closeOnExec = true) (.g0ContractDrift field)
  let encodedLength ← encodedFdCommitmentLenV1 commitment
  ensure (encodedLength = length) (.g0ContractDrift field)

def requireCampaignInput (commitment : FdCommitmentV1) (index : ℕ) : Except WireErrorV1 Unit := do
  ensure (index < 2 ^ 8) .arithmeticOverflow
  requireTransferred (.campaignInput (UInt8.ofNat index)) 50 .workerManifestCampaign commitment
  requireFullySealedMemfdV1 commitment

def encodeCampaignRecord (commitment : FdCommitmentV1) (index : ℕ) : Except WireErrorV1 Bytes := do
  ensure (5 + index < 2 ^ 8) .arithmeticOverflow
  encodeRecord (UInt8.ofNat (5 + index)) commitment

def WorkerTransferManifestV1.tryNew (observation : FdCommitmentV1) (campaignInputs : List FdCommitmentV1) :
    Except WireErrorV1 WorkerTransferManifestV1 := do
  ensure (campaignInputs.length ≤ g0MaxIngressCountV1) (.g0ContractDrift .workerManifestCount)
  requireTransferred .observation 49 .workerManifestObservation observation
  requireSizeFixedUnsealedObservationV1 observation
  campaignInputs.zipIdx.forM fun entry => requireCampaignInput entry.1 entry.2
  requireWorkerTransferContentPolicyV1 observation campaignInputs
  ensure (campaignInputs.length < 2 ^ 8) .arithmeticOverflow
  ensure (campaignInputs.length + 1 < 2 ^ 8) .arithmeticOverflow
  let named ← pushLp16V1 [] workerTransferManifestDomainV1.val
  let observationRecord ← encodeRecord 4 observation
  let records ← campaignInputs.zipIdx.mapM fun entry => encodeCampaignRecord entry.1 entry.2
  let bytes := named ++ le16 frameVersionV1 ++ [UInt8.ofNat (campaignInputs.length + 1)] ++ observationRecord ++
    records.flatten
  -- at most fifteen records of 53 bytes: the expected length is no overflow
  ensure (¬(bytes.length ≠ 99 + campaignInputs.length * 53 ∨ 894 < bytes.length))
    (.g0ContractDrift .workerManifestLength)
  pure ⟨bytes, H bytes, UInt8.ofNat campaignInputs.length⟩

end Manifests

section Bodies

structure GeneratorBoundBodyV1 where
  bytes : ByteArr 234

def GeneratorBoundBodyV1.validateSession (body : GeneratorBoundBodyV1) (session : ProviderSessionMaterialV1) :
    Except WireErrorV1 Unit :=
  ensure (¬(slice body.bytes.val 42 32 ≠ session.requestCommitment.val ∨
    slice body.bytes.val 74 32 ≠ session.generatorNonceCommitment.val ∨
      slice body.bytes.val 106 32 ≠ session.supervisorNonceCommitment.val)) (.expectationDrift .body)

def GeneratorBoundBodyV1.tryNew (session : ProviderSessionMaterialV1) (sealProfile : GeneratorSealProfileV1)
    (inventory : ProcessInventoryV1) (ingress : SealedIngressManifestV1) : Except WireErrorV1 GeneratorBoundBodyV1 := do
  ensure (¬(inventory.kind ≠ .generatorPostExec ∨ inventory.campaignCount ≠ ingress.count))
    (.g0ContractDrift .generatorBoundInventory)
  let named ← pushLp16V1 [] generatorBoundBodyDomainV1.val
  let bytes ← tryInto 234 (named ++ le16 frameVersionV1 ++ session.requestCommitment.val ++
    session.generatorNonceCommitment.val ++ session.supervisorNonceCommitment.val ++ sealProfile.digest.val ++
      inventory.digest.val ++ ingress.digest.val)
  pure ⟨bytes⟩

structure WorkerBootstrapBodyInputV1 where
  acceptedGeneratorBoundDigest : Digest
  session : ProviderSessionMaterialV1
  supervisorWorkerEndpoint : SeqpacketEndpointCommitmentV1
  supervisorReceiverUserNamespace : DescriptorIdentityV1
  workerReceiverViewUid : UInt32
  workerReceiverViewGid : UInt32
  workerInitialInventory : ProcessInventoryV1
  workerTransferInventory : ProcessInventoryV1
  workerManifest : WorkerTransferManifestV1

structure WorkerBootstrapBodyV1 where
  bytes : Bytes

def WorkerBootstrapBodyV1.tryNew (input : WorkerBootstrapBodyInputV1) : Except WireErrorV1 WorkerBootstrapBodyV1 := do
  ensure (input.supervisorWorkerEndpoint.role = .supervisorWorker) (.g0ContractDrift .workerBootstrapEndpoint)
  ensure (¬(input.workerInitialInventory.kind ≠ .workerInitialPostExec ∨
    input.workerTransferInventory.kind ≠ .workerExpectedPostTransfer ∨
      input.workerTransferInventory.campaignCount ≠ input.workerManifest.campaignCount))
    (.g0ContractDrift .workerBootstrapInventory)
  ensure (input.workerManifest.bytes.length < 2 ^ 16) .arithmeticOverflow
  let expectedLength ← context .arithmeticOverflow
    (checkedAdd g0WorkerBootstrapFixedBodyBytesV1 input.workerManifest.bytes.length)
  let named ← pushLp16V1 [] workerBootstrapBodyDomainV1.val
  let bytes := named ++ le16 frameVersionV1 ++ input.acceptedGeneratorBoundDigest.val ++ input.session.preimage.val ++
    input.session.generatorNonceCommitment.val ++ input.session.supervisorNonceCommitment.val ++
      input.supervisorWorkerEndpoint.digest.val ++ input.supervisorReceiverUserNamespace.encode ++
        le32 input.workerReceiverViewUid ++ le32 input.workerReceiverViewGid ++
          input.workerInitialInventory.digest.val ++ input.workerTransferInventory.digest.val ++
            le16 (UInt16.ofNat input.workerManifest.bytes.length) ++ input.workerManifest.bytes ++
              input.workerManifest.digest.val
  ensure (¬(bytes.length ≠ expectedLength ∨ 1568 < bytes.length)) (.g0ContractDrift .workerBootstrapLength)
  pure ⟨bytes⟩

structure WorkerExecBoundBodyV1 where
  bytes : ByteArr 236

def WorkerExecBoundBodyV1.validateSession (body : WorkerExecBoundBodyV1) (session : ProviderSessionMaterialV1) :
    Except WireErrorV1 Unit :=
  ensure (¬(slice body.bytes.val 44 32 ≠ session.requestCommitment.val ∨
    slice body.bytes.val 76 32 ≠ session.generatorNonceCommitment.val ∨
      slice body.bytes.val 108 32 ≠ session.supervisorNonceCommitment.val)) (.expectationDrift .body)

def WorkerExecBoundBodyV1.tryNew (session : ProviderSessionMaterialV1)
    (workerInitialInventory workerTransferInventory : ProcessInventoryV1) (workerManifest : WorkerTransferManifestV1) :
    Except WireErrorV1 WorkerExecBoundBodyV1 := do
  ensure (¬(workerInitialInventory.kind ≠ .workerInitialPostExec ∨
    workerTransferInventory.kind ≠ .workerExpectedPostTransfer ∨
      workerTransferInventory.campaignCount ≠ workerManifest.campaignCount))
    (.g0ContractDrift .workerExecBoundInventory)
  let named ← pushLp16V1 [] workerExecBoundBodyDomainV1.val
  let bytes ← tryInto 236 (named ++ le16 frameVersionV1 ++ session.requestCommitment.val ++
    session.generatorNonceCommitment.val ++ session.supervisorNonceCommitment.val ++
      workerInitialInventory.digest.val ++ workerTransferInventory.digest.val ++ workerManifest.digest.val)
  pure ⟨bytes⟩

structure ClosedResultBodyV1 where
  bytes : ByteArr 136

def ClosedResultBodyV1.tryNew (session : ProviderSessionMaterialV1) (terminalWorkerDigest : Digest)
    (finalResult : FdCommitmentV1) : Except WireErrorV1 ClosedResultBodyV1 := do
  ensure (finalResult.role = .finalResult) (.g0ContractDrift .closedResultCommitment)
  ensure (finalResult.status.access = .readOnly) (.g0ContractDrift .closedResultCommitment)
  ensure (finalResult.status.nonblocking = false) (.g0ContractDrift .closedResultCommitment)
  ensure (finalResult.status.closeOnExec = true) (.g0ContractDrift .closedResultCommitment)
  let encodedLength ← encodedFdCommitmentLenV1 finalResult
  ensure (encodedLength = 49) (.g0ContractDrift .closedResultCommitment)
  requireFullySealedMemfdV1 finalResult
  match finalResult.identity with
  | .memfd size contentDigest _ => do
    ensure (¬(size = 0 ∨ g0FinalResultMaxBytesV1 < size.toNat)) (.g0ContractDrift .finalResultContent)
    let named ← pushLp16V1 [] closedResultBodyDomainV1.val
    let bytes ← tryInto 136 (named ++ le16 frameVersionV1 ++ session.requestCommitment.val ++
      terminalWorkerDigest.val ++ contentDigest.val)
    pure ⟨bytes⟩
  | _ => .error (.g0ContractDrift .closedResultCommitment)

end Bodies

end Eip0045.Wire
