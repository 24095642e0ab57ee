import Eip0045.Library.Bytes
import Eip0045.Library.Checked
import Eip0045.Tmpfs.Capacity

/-! The frames of the attempt protocol: their descriptor commitments, their shape, their bytes and
the transcript that chains them. -/

namespace Eip0045.Wire

open Bytes Checked

section Phases

/-- The labels of an attempt, in the only successful order. -/
inductive AttemptPhaseV1
  | externalBootEvidenceAccepted
  | supervisorStarted
  | generatorBound
  | attemptAllocated
  | workerBlocked
  | userMapsVerified
  | workerExecBound
  | manifestAcknowledged
  | processSealed
  | mountedLive
  | parentChildLiveBarrierJoined
  | observationStaged
  | rootfsCleaned
  | noAcquireSealed
  | ordinaryUnmounted
  | exitObserved
  | reaped
  | cgroupZero
  | namesRemoved
  | inventoryRestored
  | resultSealed
  | closed
  | resultQueued
  | sourceMinted
  | generatorCommitted
  deriving DecidableEq

def AttemptPhaseV1.all : List AttemptPhaseV1 :=
  [.externalBootEvidenceAccepted, .supervisorStarted, .generatorBound, .attemptAllocated, .workerBlocked,
    .userMapsVerified, .workerExecBound, .manifestAcknowledged, .processSealed, .mountedLive,
    .parentChildLiveBarrierJoined, .observationStaged, .rootfsCleaned, .noAcquireSealed, .ordinaryUnmounted,
    .exitObserved, .reaped, .cgroupZero, .namesRemoved, .inventoryRestored, .resultSealed, .closed, .resultQueued,
    .sourceMinted, .generatorCommitted]

def AttemptPhaseV1.wireCode : AttemptPhaseV1 → UInt8
  | .externalBootEvidenceAccepted => 0
  | .supervisorStarted => 1
  | .generatorBound => 2
  | .attemptAllocated => 3
  | .workerBlocked => 4
  | .userMapsVerified => 5
  | .workerExecBound => 6
  | .manifestAcknowledged => 7
  | .processSealed => 8
  | .mountedLive => 9
  | .parentChildLiveBarrierJoined => 10
  | .observationStaged => 11
  | .rootfsCleaned => 12
  | .noAcquireSealed => 13
  | .ordinaryUnmounted => 14
  | .exitObserved => 15
  | .reaped => 16
  | .cgroupZero => 17
  | .namesRemoved => 18
  | .inventoryRestored => 19
  | .resultSealed => 20
  | .closed => 21
  | .resultQueued => 22
  | .sourceMinted => 23
  | .generatorCommitted => 24

def AttemptPhaseV1.next (phase : AttemptPhaseV1) : Option AttemptPhaseV1 :=
  AttemptPhaseV1.all[phase.wireCode.toNat + 1]?

inductive PhaseErrorV1
  | nonAdjacent (before after expected : AttemptPhaseV1)
  | terminal (phase : AttemptPhaseV1)
  deriving DecidableEq

structure AttemptProgressModelV1 where
  current : AttemptPhaseV1
  deriving DecidableEq

def AttemptProgressModelV1.start : AttemptProgressModelV1 := ⟨.externalBootEvidenceAccepted⟩

def AttemptProgressModelV1.tryAdvance (model : AttemptProgressModelV1) (requested : AttemptPhaseV1) :
    Except PhaseErrorV1 AttemptProgressModelV1 :=
  match model.current.next with
  | none => .error (.terminal model.current)
  | some expected =>
    if requested ≠ expected then .error (.nonAdjacent model.current requested expected)
    else .ok ⟨requested⟩

end Phases

section Roles

def maxFrameBytesV1 : ℕ := 65536
def maxFrameFdsV1 : ℕ := 16
def maxSessionFramesV1 : UInt8 := 64
def frameFixedHeaderBytesV1 : ℕ := 82

def frameMagicV1 : ByteArr 8 := ⟨[69, 73, 80, 52, 53, 72, 48, 70], rfl⟩
def frameVersionV1 : UInt16 := 1

inductive FrameDirectionV1
  | generatorToSupervisor
  | supervisorToGenerator
  | supervisorToWorker
  | workerToSupervisor
  deriving DecidableEq

def FrameDirectionV1.wireCode : FrameDirectionV1 → UInt8
  | .generatorToSupervisor => 0
  | .supervisorToGenerator => 1
  | .supervisorToWorker => 2
  | .workerToSupervisor => 3

/-- The meaning of a descriptor of a frame. -/
inductive FdRoleV1
  | campaignInput (index : UInt8)
  | publicationRoot
  | supervisorProcess
  | generatorEndpoint
  | workerEndpoint
  | attemptCgroup
  | userNamespace
  | mountNamespace
  | observation
  | finalResult
  | mountedRoot
  | roleRoot (role : Tmpfs.ReplayRoleV2)
  | retainedEntry (role : Tmpfs.ReplayRoleV2) (index : UInt32)
  deriving DecidableEq

def replayRoleCode : Tmpfs.ReplayRoleV2 → UInt8
  | .rustValidatorBuild => 0
  | .jvmValidatorBuild => 1
  | .rustVerifier => 2
  | .jvmVerifier => 3

def FdRoleV1.encodedLen : FdRoleV1 → ℕ
  | .campaignInput _ => 2
  | .roleRoot _ => 2
  | .retainedEntry _ _ => 6
  | _ => 1

def FdRoleV1.encode : FdRoleV1 → Bytes
  | .campaignInput index => [0, index]
  | .publicationRoot => [1]
  | .supervisorProcess => [2]
  | .generatorEndpoint => [3]
  | .workerEndpoint => [4]
  | .attemptCgroup => [5]
  | .userNamespace => [6]
  | .mountNamespace => [7]
  | .observation => [8]
  | .finalResult => [9]
  | .mountedRoot => [10]
  | .roleRoot role => [11, replayRoleCode role]
  | .retainedEntry role index => [12, replayRoleCode role] ++ le32 index

inductive FrameFieldV1
  | direction
  | ordinal
  | phase
  | sessionId
  | previousHash
  | body
  | credentials
  | fdCommitments
  deriving DecidableEq

/-- The part of a contract that a construction refuses. -/
inductive G0ContractFieldV1
  | ingressCount
  | ingressCommitment
  | ingressManifestLength
  | publicationRoot
  | requestRoleOrder
  | endpointPair
  | sessionOfferChannel
  | nonce
  | supervisorProcess
  | providerSessionChannel
  | inventoryCount
  | inventorySlot
  | inventoryStatus
  | inventorySeals
  | inventoryLength
  | generatorSealInstructionCount
  | workerManifestCount
  | workerManifestObservation
  | workerManifestCampaign
  | workerManifestObservationContentLength
  | workerManifestCampaignContentLength
  | workerManifestAggregateContentLength
  | workerManifestLength
  | generatorBoundInventory
  | generatorBoundFrame
  | workerBootstrapEndpoint
  | workerBootstrapInventory
  | workerBootstrapLength
  | workerExecBoundInventory
  | closedResultCommitment
  | generatorPeerSession
  | closedResultFrame
  | finalResultContent
  | workerBootstrapFrame
  | workerBootstrapContent
  deriving DecidableEq

inductive WireErrorV1
  | invalidDescriptorIdentity
  | invalidPeerProcessId
  | invalidPidfdIdentity
  | roleIndexOutOfRange (index : UInt8)
  | roleIdentityMismatch (role : FdRoleV1)
  | roleStatusMismatch (role : FdRoleV1)
  | requiredMemfdSeals (role : FdRoleV1)
  | tooManyFds (count : ℕ)
  | frameOrdinalOutOfRange (ordinal : UInt8)
  | bodyLengthOutOfRange (length : ℕ)
  | frameTooLarge (length : ℕ)
  | arithmeticOverflow
  | missingMessageEnd
  | messageTruncated
  | controlTruncated
  | credentialRecordCount (count : UInt8)
  | rightsRecordCount (actual expected : UInt8)
  | unknownControlRecords (count : UInt8)
  | malformedControlRecords (count : UInt8)
  | duplicateFdRole (role : FdRoleV1)
  | magicMismatch
  | versionMismatch (version : UInt16)
  | declaredBodyLengthMismatch (declared : UInt32) (actual : ℕ)
  | declaredFdCountMismatch (declared : UInt8) (actual : ℕ)
  | expectationDrift (field : FrameFieldV1)
  | transcriptSessionMismatch
  | transcriptOrdinalMismatch (actual expected : UInt8)
  | transcriptPreviousHashMismatch
  | sessionFrameLimit
  | g0ContractDrift (field : G0ContractFieldV1)
  deriving DecidableEq

end Roles

section Identities

/-- A descriptor identity without a zero component. -/
structure DescriptorIdentityV1 where
  device : UInt64
  inode : UInt64
  mountId : UInt64
  nonzero : device ≠ 0 ∧ inode ≠ 0 ∧ mountId ≠ 0

instance : DecidableEq DescriptorIdentityV1 := fun a b =>
  decidable_of_iff (a.device = b.device ∧ a.inode = b.inode ∧ a.mountId = b.mountId)
    (by cases a; cases b; simp)

def DescriptorIdentityV1.tryNew (device inode mountId : UInt64) : Except WireErrorV1 DescriptorIdentityV1 :=
  if h : device ≠ 0 ∧ inode ≠ 0 ∧ mountId ≠ 0 then .ok ⟨device, inode, mountId, h⟩
  else .error .invalidDescriptorIdentity

def DescriptorIdentityV1.encode (identity : DescriptorIdentityV1) : Bytes :=
  le64 identity.device ++ le64 identity.inode ++ le64 identity.mountId

structure PeerCredentialsV1 where
  processId : UInt32
  userId : UInt32
  groupId : UInt32
  userNamespace : DescriptorIdentityV1
  positive : processId ≠ 0

instance : DecidableEq PeerCredentialsV1 := fun a b =>
  decidable_of_iff (a.processId = b.processId ∧ a.userId = b.userId ∧ a.groupId = b.groupId ∧
    a.userNamespace = b.userNamespace) (by cases a; cases b; simp)

def PeerCredentialsV1.tryNew (processId userId groupId : UInt32) (userNamespace : DescriptorIdentityV1) :
    Except WireErrorV1 PeerCredentialsV1 :=
  if h : processId ≠ 0 then .ok ⟨processId, userId, groupId, userNamespace, h⟩
  else .error .invalidPeerProcessId

def PeerCredentialsV1.encode (credentials : PeerCredentialsV1) : Bytes :=
  le32 credentials.processId ++ le32 credentials.userId ++ le32 credentials.groupId ++
    credentials.userNamespace.encode

inductive FilesystemNodeKindV1
  | directory
  | regularFile
  | symbolicLink
  deriving DecidableEq

def FilesystemNodeKindV1.wireCode : FilesystemNodeKindV1 → UInt8
  | .directory => 0
  | .regularFile => 1
  | .symbolicLink => 2

inductive NamespaceKindV1
  | user
  | mount
  deriving DecidableEq

def NamespaceKindV1.wireCode : NamespaceKindV1 → UInt8
  | .user => 0
  | .mount => 1

inductive SealPresenceV1
  | absent
  | present
  deriving DecidableEq

def SealPresenceV1.wireCode : SealPresenceV1 → UInt8
  | .absent => 0
  | .present => 1

structure MemfdSealsV1 where
  grow : SealPresenceV1
  shrink : SealPresenceV1
  write : SealPresenceV1
  furtherSeals : SealPresenceV1
  deriving DecidableEq

def MemfdSealsV1.fixesSize (seals : MemfdSealsV1) : Prop := seals.grow = .present ∧ seals.shrink = .present

def MemfdSealsV1.fullySealed (seals : MemfdSealsV1) : Prop :=
  seals.fixesSize ∧ seals.write = .present ∧ seals.furtherSeals = .present

instance (seals : MemfdSealsV1) : Decidable seals.fixesSize := inferInstanceAs (Decidable (_ ∧ _))

instance (seals : MemfdSealsV1) : Decidable seals.fullySealed := inferInstanceAs (Decidable (_ ∧ _))

def MemfdSealsV1.encode (seals : MemfdSealsV1) : Bytes :=
  [seals.grow.wireCode, seals.shrink.wireCode, seals.write.wireCode, seals.furtherSeals.wireCode]

inductive FdAccessV1
  | path
  | readOnly
  | writeOnly
  | readWrite
  | process
  | socket
  deriving DecidableEq

def FdAccessV1.wireCode : FdAccessV1 → UInt8
  | .path => 0
  | .readOnly => 1
  | .writeOnly => 2
  | .readWrite => 3
  | .process => 4
  | .socket => 5

structure FdStatusV1 where
  access : FdAccessV1
  nonblocking : Bool
  closeOnExec : Bool
  deriving DecidableEq

def boolCode (b : Bool) : UInt8 := if b then 1 else 0

def FdStatusV1.encode (status : FdStatusV1) : Bytes :=
  [status.access.wireCode, boolCode status.nonblocking, boolCode status.closeOnExec]

inductive FdIdentityV1
  | filesystem (descriptor : DescriptorIdentityV1) (nodeKind : FilesystemNodeKindV1)
  | namespaceHandle (descriptor : DescriptorIdentityV1) (kind : NamespaceKindV1)
  | memfd (size : UInt64) (contentDigest : Digest) (seals : MemfdSealsV1)
  | pidfd (processId : UInt32) (startEpoch : UInt64)
  | socket (endpointDigest : Digest)
  | cgroup (hierarchyDigest pathDigest : Digest)
  deriving DecidableEq

def FdIdentityV1.validate : FdIdentityV1 → Except WireErrorV1 Unit
  | .pidfd processId startEpoch => ensure (¬(processId = 0 ∨ startEpoch = 0)) .invalidPidfdIdentity
  | _ => .ok ()

def FdIdentityV1.encode : FdIdentityV1 → Bytes
  | .filesystem descriptor nodeKind => [0] ++ descriptor.encode ++ [nodeKind.wireCode]
  | .namespaceHandle descriptor kind => [1] ++ descriptor.encode ++ [kind.wireCode]
  | .memfd size contentDigest seals => [2] ++ le64 size ++ contentDigest.val ++ seals.encode
  | .pidfd processId startEpoch => [3] ++ le32 processId ++ le64 startEpoch
  | .socket endpointDigest => [4] ++ endpointDigest.val
  | .cgroup hierarchyDigest pathDigest => [5] ++ hierarchyDigest.val ++ pathDigest.val

end Identities

section Commitments

def FdRoleV1.indexAllowed : FdRoleV1 → Except WireErrorV1 Unit
  | .campaignInput index => ensure (index.toNat < maxFrameFdsV1) (.roleIndexOutOfRange index)
  | _ => .ok ()

def FdRoleV1.identityMatches : FdRoleV1 → FdIdentityV1 → Bool
  | .publicationRoot, .filesystem _ .directory => true
  | .mountedRoot, .filesystem _ .directory => true
  | .roleRoot _, .filesystem _ .directory => true
  | .retainedEntry _ _, .filesystem _ _ => true
  | .campaignInput _, .memfd _ _ _ => true
  | .observation, .memfd _ _ _ => true
  | .finalResult, .memfd _ _ _ => true
  | .supervisorProcess, .pidfd _ _ => true
  | .generatorEndpoint, .socket _ => true
  | .workerEndpoint, .socket _ => true
  | .attemptCgroup, .cgroup _ _ => true
  | .userNamespace, .namespaceHandle _ .user => true
  | .mountNamespace, .namespaceHandle _ .mount => true
  | _, _ => false

def FdRoleV1.requiredAccess : FdRoleV1 → FdAccessV1
  | .publicationRoot => .path
  | .attemptCgroup => .path
  | .userNamespace => .path
  | .mountNamespace => .path
  | .mountedRoot => .path
  | .roleRoot _ => .path
  | .retainedEntry _ _ => .path
  | .campaignInput _ => .readOnly
  | .finalResult => .readOnly
  | .observation => .readWrite
  | .supervisorProcess => .process
  | .generatorEndpoint => .socket
  | .workerEndpoint => .socket

def FdRoleV1.isEndpoint : FdRoleV1 → Bool
  | .generatorEndpoint => true
  | .workerEndpoint => true
  | _ => false

def FdRoleV1.sealsMatch (role : FdRoleV1) : FdIdentityV1 → Bool
  | .memfd _ _ seals =>
    match role with
    | .campaignInput _ => decide seals.fullySealed
    | .finalResult => decide seals.fullySealed
    | .observation => decide seals.fixesSize
    | _ => true
  | _ => true

structure FdCommitmentV1 where
  role : FdRoleV1
  identity : FdIdentityV1
  status : FdStatusV1
  deriving DecidableEq

def FdCommitmentV1.validate (commitment : FdCommitmentV1) : Except WireErrorV1 Unit := do
  commitment.identity.validate
  commitment.role.indexAllowed
  ensure (commitment.role.identityMatches commitment.identity = true) (.roleIdentityMismatch commitment.role)
  ensure (commitment.status.access = commitment.role.requiredAccess ∧
    (commitment.status.nonblocking = false ∨ commitment.role.isEndpoint = true)) (.roleStatusMismatch commitment.role)
  ensure (commitment.role.sealsMatch commitment.identity = true) (.requiredMemfdSeals commitment.role)

def FdCommitmentV1.tryNew (role : FdRoleV1) (identity : FdIdentityV1) (status : FdStatusV1) :
    Except WireErrorV1 FdCommitmentV1 := do
  let candidate : FdCommitmentV1 := ⟨role, identity, status⟩
  candidate.validate
  pure candidate

def FdCommitmentV1.encode (commitment : FdCommitmentV1) : Bytes :=
  commitment.role.encode ++ commitment.identity.encode ++ commitment.status.encode

def encodeFdCommitmentV1 (commitment : FdCommitmentV1) : Except WireErrorV1 Bytes := do
  commitment.validate
  pure commitment.encode

def encodedFdCommitmentLenV1 (commitment : FdCommitmentV1) : Except WireErrorV1 UInt16 := do
  let encoded ← encodeFdCommitmentV1 commitment
  ensure (encoded.length < 2 ^ 16) .arithmeticOverflow
  pure (UInt16.ofNat encoded.length)

end Commitments

section Frames

structure AncillaryShapeV1 where
  messageEnd : Bool
  messageTruncated : Bool
  controlTruncated : Bool
  credentialRecords : UInt8
  rightsRecords : UInt8
  unknownControlRecords : UInt8
  malformedControlRecords : UInt8
  deriving DecidableEq

def expectedRights (fdCount : ℕ) : UInt8 := if fdCount = 0 then 0 else 1

def AncillaryShapeV1.canonical (fdCount : ℕ) : AncillaryShapeV1 :=
  ⟨true, false, false, 1, expectedRights fdCount, 0, 0⟩

def AncillaryShapeV1.validate (shape : AncillaryShapeV1) (fdCount : ℕ) : Except WireErrorV1 Unit := do
  ensure (shape.messageEnd = true) .missingMessageEnd
  ensure (shape.messageTruncated = false) .messageTruncated
  ensure (shape.controlTruncated = false) .controlTruncated
  ensure (shape.credentialRecords = 1) (.credentialRecordCount shape.credentialRecords)
  ensure (shape.rightsRecords = expectedRights fdCount)
    (.rightsRecordCount shape.rightsRecords (expectedRights fdCount))
  ensure (shape.unknownControlRecords = 0) (.unknownControlRecords shape.unknownControlRecords)
  ensure (shape.malformedControlRecords = 0) (.malformedControlRecords shape.malformedControlRecords)

structure FrameInputV1 where
  direction : FrameDirectionV1
  ordinal : UInt8
  phase : AttemptPhaseV1
  sessionId : Digest
  previousHash : Digest
  body : Bytes
  credentials : PeerCredentialsV1
  fdCommitments : List FdCommitmentV1
  ancillary : AncillaryShapeV1

structure WireFrameV1 where
  magic : ByteArr 8
  version : UInt16
  direction : FrameDirectionV1
  ordinal : UInt8
  phase : AttemptPhaseV1
  declaredBodyLength : UInt32
  sessionId : Digest
  previousHash : Digest
  declaredFdCount : UInt8
  body : Bytes
  credentials : PeerCredentialsV1
  fdCommitments : List FdCommitmentV1
  ancillary : AncillaryShapeV1
  deriving DecidableEq

/-- The commitments, each against those before it. -/
def validateFdInventory : List FdCommitmentV1 → List FdCommitmentV1 → Except WireErrorV1 Unit
  | _, [] => .ok ()
  | before, commitment :: commitments => do
    commitment.validate
    ensure (commitment.role ∉ before.map FdCommitmentV1.role) (.duplicateFdRole commitment.role)
    validateFdInventory (before ++ [commitment]) commitments

def rolesLength (total : ℕ) (commitment : FdCommitmentV1) : Except WireErrorV1 ℕ :=
  context .arithmeticOverflow (checkedAdd total commitment.role.encodedLen)

def encodedFrameLen (bodyLength : ℕ) (commitments : List FdCommitmentV1) : Except WireErrorV1 ℕ := do
  let rolesLength ← commitments.foldlM rolesLength 0
  let header ← context .arithmeticOverflow (checkedAdd frameFixedHeaderBytesV1 rolesLength)
  context .arithmeticOverflow (checkedAdd header bodyLength)

def WireFrameV1.validateShape (frame : WireFrameV1) : Except WireErrorV1 Unit := do
  ensure (frame.magic = frameMagicV1) .magicMismatch
  ensure (frame.version = frameVersionV1) (.versionMismatch frame.version)
  ensure (frame.ordinal < maxSessionFramesV1) (.frameOrdinalOutOfRange frame.ordinal)
  ensure (frame.declaredBodyLength.toNat = frame.body.length)
    (.declaredBodyLengthMismatch frame.declaredBodyLength frame.body.length)
  ensure (frame.declaredFdCount.toNat = frame.fdCommitments.length)
    (.declaredFdCountMismatch frame.declaredFdCount frame.fdCommitments.length)
  ensure (frame.fdCommitments.length ≤ maxFrameFdsV1) (.tooManyFds frame.fdCommitments.length)
  frame.ancillary.validate frame.fdCommitments.length
  validateFdInventory [] frame.fdCommitments
  let encodedLength ← encodedFrameLen frame.body.length frame.fdCommitments
  ensure (encodedLength ≤ maxFrameBytesV1) (.frameTooLarge encodedLength)

def WireFrameV1.tryNew (input : FrameInputV1) : Except WireErrorV1 WireFrameV1 := do
  ensure (input.ordinal < maxSessionFramesV1) (.frameOrdinalOutOfRange input.ordinal)
  ensure (input.fdCommitments.length ≤ maxFrameFdsV1) (.tooManyFds input.fdCommitments.length)
  input.ancillary.validate input.fdCommitments.length
  validateFdInventory [] input.fdCommitments
  ensure (input.body.length < 2 ^ 32) (.bodyLengthOutOfRange input.body.length)
  ensure (input.fdCommitments.length < 2 ^ 8) (.tooManyFds input.fdCommitments.length)
  let encodedLength ← encodedFrameLen input.body.length input.fdCommitments
  ensure (encodedLength ≤ maxFrameBytesV1) (.frameTooLarge encodedLength)
  let frame : WireFrameV1 := {
    magic := frameMagicV1
    version := frameVersionV1
    direction := input.direction
    ordinal := input.ordinal
    phase := input.phase
    declaredBodyLength := UInt32.ofNat input.body.length
    sessionId := input.sessionId
    previousHash := input.previousHash
    declaredFdCount := UInt8.ofNat input.fdCommitments.length
    body := input.body
    credentials := input.credentials
    fdCommitments := input.fdCommitments
    ancillary := input.ancillary }
  frame.validateShape
  pure frame

def WireFrameV1.encodedLen (frame : WireFrameV1) : Except WireErrorV1 ℕ := do
  frame.validateShape
  encodedFrameLen frame.body.length frame.fdCommitments

def encodeRawFramePartsV1 (magic : ByteArr 8) (version : UInt16) (direction : FrameDirectionV1) (ordinal : UInt8)
    (phase : AttemptPhaseV1) (declaredBodyLength : UInt32) (sessionId previousHash : Digest) (declaredFdCount : UInt8)
    (fdCommitments : List FdCommitmentV1) (body : Bytes) : Bytes :=
  magic.val ++ le16 version ++ [direction.wireCode] ++ [ordinal] ++ [phase.wireCode] ++ le32 declaredBodyLength ++
    sessionId.val ++ previousHash.val ++ [declaredFdCount] ++
      fdCommitments.flatMap (fun commitment => commitment.role.encode) ++ body

def WireFrameV1.rawFrame (frame : WireFrameV1) : Bytes :=
  encodeRawFramePartsV1 frame.magic frame.version frame.direction frame.ordinal frame.phase frame.declaredBodyLength
    frame.sessionId frame.previousHash frame.declaredFdCount frame.fdCommitments frame.body

def WireFrameV1.encodeRawFrame (frame : WireFrameV1) : Except WireErrorV1 Bytes := do
  let _ ← frame.encodedLen
  pure frame.rawFrame

structure FrameExpectationV1 where
  direction : FrameDirectionV1
  ordinal : UInt8
  phase : AttemptPhaseV1
  sessionId : Digest
  previousHash : Digest
  body : Bytes
  credentials : PeerCredentialsV1
  fdCommitments : List FdCommitmentV1

def WireFrameV1.validateExpected (frame : WireFrameV1) (expected : FrameExpectationV1) :
    Except WireErrorV1 Unit := do
  frame.validateShape
  ensure (frame.direction = expected.direction) (.expectationDrift .direction)
  ensure (frame.ordinal = expected.ordinal) (.expectationDrift .ordinal)
  ensure (frame.phase = expected.phase) (.expectationDrift .phase)
  ensure (frame.sessionId = expected.sessionId) (.expectationDrift .sessionId)
  ensure (frame.previousHash = expected.previousHash) (.expectationDrift .previousHash)
  ensure (frame.body = expected.body) (.expectationDrift .body)
  ensure (frame.credentials = expected.credentials) (.expectationDrift .credentials)
  ensure (frame.fdCommitments = expected.fdCommitments) (.expectationDrift .fdCommitments)

end Frames

section Transcripts

def transcriptDomainV1 : Bytes := utf8 "eip0045-b4-h0-frame-transcript-v1"

structure TranscriptCursorV1 where
  sessionId : Digest
  nextOrdinal : UInt8
  previousHash : Digest
  deriving DecidableEq

def TranscriptCursorV1.start (sessionId initialHash : Digest) : TranscriptCursorV1 := ⟨sessionId, 0, initialHash⟩

structure TranscriptPreimageV1 where
  bytes : Bytes
  sessionId : Digest
  consumedOrdinal : UInt8

def transcriptCommitment (commitment : FdCommitmentV1) : Except WireErrorV1 Bytes := do
  let encoded ← encodeFdCommitmentV1 commitment
  let commitmentLength ← encodedFdCommitmentLenV1 commitment
  pure (le16 commitmentLength ++ encoded)

def prepareTranscriptBytesV1 (sessionId : Digest) (nextOrdinal : UInt8) (previousHash : Digest)
    (frame : WireFrameV1) : Except WireErrorV1 Bytes := do
  frame.validateShape
  ensure (nextOrdinal < maxSessionFramesV1) .sessionFrameLimit
  ensure (frame.sessionId = sessionId) .transcriptSessionMismatch
  ensure (frame.ordinal = nextOrdinal) (.transcriptOrdinalMismatch frame.ordinal nextOrdinal)
  ensure (frame.previousHash = previousHash) .transcriptPreviousHashMismatch
  let rawFrame ← frame.encodeRawFrame
  ensure (transcriptDomainV1.length < 2 ^ 16) .arithmeticOverflow
  ensure (rawFrame.length < 2 ^ 32) .arithmeticOverflow
  let commitments ← frame.fdCommitments.mapM transcriptCommitment
  pure (le16 (UInt16.ofNat transcriptDomainV1.length) ++ transcriptDomainV1 ++ previousHash.val ++
    [frame.direction.wireCode] ++ [frame.phase.wireCode] ++ le32 (UInt32.ofNat rawFrame.length) ++ rawFrame ++
      frame.credentials.encode ++ [frame.declaredFdCount] ++ commitments.flatten)

def TranscriptCursorV1.prepare (cursor : TranscriptCursorV1) (frame : WireFrameV1) :
    Except WireErrorV1 TranscriptPreimageV1 := do
  let bytes ← prepareTranscriptBytesV1 cursor.sessionId cursor.nextOrdinal cursor.previousHash frame
  pure ⟨bytes, cursor.sessionId, cursor.nextOrdinal⟩

/-- The next ordinal, as the addition of bytes gives it. -/
def TranscriptPreimageV1.advanceWithExternalDigest (preimage : TranscriptPreimageV1) (digest : Digest) :
    TranscriptCursorV1 := ⟨preimage.sessionId, preimage.consumedOrdinal + 1, digest⟩

end Transcripts

end Eip0045.Wire
