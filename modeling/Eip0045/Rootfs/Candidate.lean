import Mathlib
import Eip0045.Rootfs.Staging

/-! The checks that a completed candidate passes, and its authenticated logical projection. -/

namespace Eip0045.Rootfs

open Checked Stateful

inductive PositiveRunnerRole
  | rustValidatorBuild
  | jvmValidatorBuild
  | rustVerifier
  | jvmVerifier
  deriving DecidableEq

def positiveRunnerRoleIdentityTag : PositiveRunnerRole → UInt8
  | .rustValidatorBuild => 0
  | .jvmValidatorBuild => 1
  | .rustVerifier => 2
  | .jvmVerifier => 3

namespace EffectOrdinal

/-- The derived lexicographic order: layer, then phase, then archive entry. -/
def Before (a b : EffectOrdinal) : Prop :=
  a.semanticLayerIndex < b.semanticLayerIndex ∨ a.semanticLayerIndex = b.semanticLayerIndex ∧
    (a.phase = .whiteout ∧ b.phase = .entry ∨
      a.phase = b.phase ∧ a.archiveEntryIndex < b.archiveEntryIndex)

instance (a b : EffectOrdinal) : Decidable (Before a b) :=
  inferInstanceAs (Decidable (_ ∨ _ ∧ (_ ∧ _ ∨ _ ∧ _)))

end EffectOrdinal

def OperationKind.isWhiteout : OperationKind → Bool
  | .remove _ | .opaqueDirectory _ => true
  | .regular _ | .directory | .symbolicLink _ => false

section Effects

variable (operations : List Operation)

def validateLiveEffect (binding : Bytes × PathProjection) : Result Unit := do
  let (path, state) := binding
  let liveOperation ← report (context
    "live OCI rootfs projection definition left the operation journal"
    operations[state.liveDefinition]?)
  report (ensure (liveOperation.path = path)
    "live OCI rootfs projection definition names a different path")
  let effectOperation ← report (context
    "live OCI rootfs projection effect left the operation journal"
    operations[state.lastEffect.operationIndex]?)
  report (ensure (state.lastEffect = effectReference state.lastEffect.operationIndex effectOperation
      state.lastEffect.ordinal.phase)
    "live OCI rootfs projection effect ordinal differs from its operation")
  match state.lastEffect.ordinal.phase with
  | .entry =>
    report (ensure (state.lastEffect.operationIndex = state.liveDefinition)
      "live OCI rootfs entry effect differs from its definition")
    report (ensure (effectOperation.kind.isWhiteout = false)
      "live OCI rootfs entry effect names a whiteout")
  | .whiteout =>
    report (ensure (liveOperation.kind = .directory)
      "live OCI rootfs whiteout effect did not retain a directory")
    report (ensure (effectOperation.kind = .opaqueDirectory path)
      "live OCI rootfs whiteout effect is not its exact opaque directory")

def validateRootEffect (rootLastEffect : Option EffectReference) : Result Unit :=
  match rootLastEffect with
  | none => pure ()
  | some effect => do
    let operation ← report (context "OCI rootfs root effect left the operation journal"
      operations[effect.operationIndex]?)
    report (ensure (effect = effectReference effect.operationIndex operation .whiteout)
      "OCI rootfs root effect ordinal differs from its operation")
    report (ensure (operation.kind = .opaqueDirectory [])
      "OCI rootfs root effect is not an exact root opaque whiteout")

/-- A definition of the live path at an operation is not older than the operation. -/
def validateTemporalDefinition (projection : Projection) (operation : Operation)
    (operationIndex : ℕ) : Result Unit :=
  match projection.paths[operation.path]? with
  | none => pure ()
  | some state => do
    let candidate := effectReference operationIndex operation .entry
    let liveDefinition ← report (context
      "live OCI rootfs temporal definition left the operation journal"
      operations[state.liveDefinition]?)
    let liveEffect := effectReference state.liveDefinition liveDefinition .entry
    report (ensure (¬liveEffect.ordinal.Before candidate.ordinal)
      "live OCI rootfs projection definition is not temporally latest")
    report (ensure (¬state.lastEffect.ordinal.Before candidate.ordinal)
      "live OCI rootfs projection effect is not temporally maximal")

/-- One operation of the scan for later effects, over the latest root opaque whiteout so far. -/
def validateTemporalMaximum (projection : Projection) (latestRootOpaque : Option EffectReference)
    (numbered : Operation × ℕ) : Result (Option EffectReference) :=
  let (operation, operationIndex) := numbered
  match operation.kind with
  | .regular _ | .directory | .symbolicLink _ => do
    validateTemporalDefinition operations projection operation operationIndex
    pure latestRootOpaque
  | .opaqueDirectory path =>
    let candidate := effectReference operationIndex operation .whiteout
    if path = [] then
      if latestRootOpaque.all fun latest => latest.ordinal.Before candidate.ordinal then
        pure (some candidate)
      else pure latestRootOpaque
    else
      match projection.paths[path]? with
      | none => pure latestRootOpaque
      | some state => do
        report (ensure (¬state.lastEffect.ordinal.Before candidate.ordinal)
          "live OCI rootfs projection effect is not temporally maximal")
        pure latestRootOpaque
  | .remove _ => pure latestRootOpaque

def validateProjectionEffectReferences (projection : Projection) : Result Unit := do
  projection.paths.toList.forM (validateLiveEffect operations)
  validateRootEffect operations projection.rootLastEffect
  let latestRootOpaque ← operations.zipIdx.foldlM (validateTemporalMaximum operations projection)
    none
  report (ensure (projection.rootLastEffect = latestRootOpaque)
    "OCI rootfs root effect is not the temporally latest root opaque whiteout")

end Effects

namespace Transaction

variable (sha256 : Bytes → Digest) (transaction : Transaction)

def recomputedMetadata : Result ℕ := do
  let recomputed ← transaction.operations.foldlM (fun recomputed operation => do
    let reservation ← stagedOperationMetadataReservation operation.path operation.kind
    checkedRootfsMetadataReservation recomputed reservation) logicalMetadataBaseReservationBytes
  match transaction.openRegular with
  | none => pure recomputed
  | some opened => do
    let reservation ← stagedOperationMetadataReservationParts opened.path none true
    checkedRootfsMetadataReservation recomputed reservation

def extentClosure : Result ℕ :=
  transaction.physicalRegularExtents.foldlM (fun nextOffset extent => do
    report (ensure (extent.offset = nextOffset)
      "physical OCI rootfs regular extents are not in append order")
    report (ensure (regularFileMode extent.mode.toNat)
      "physical OCI rootfs regular extent has an invalid logical mode")
    report (context "completed OCI rootfs extent closure overflowed"
      (checkedAdd nextOffset extent.byteLength.toNat))) 0

def validateLogicalJournalEnvelope : Result ℕ := do
  let expected := transaction.expectedSemanticLayers
  report (ensure (transaction.capturedLayerEntries.length = expected ∧
      transaction.sealedLayerEntries.length = expected ∧
      transaction.capturedLayerTranscripts.length = expected ∧
      transaction.sealedLayerTranscripts.length = expected ∧
      transaction.capturedCanonicalLayerTranscripts.length = expected ∧
      transaction.authenticatedCanonicalLayerTranscripts.length = expected ∧
      transaction.operationsBySource.length = expected)
    "OCI rootfs semantic-layer journal cardinality changed")
  let recomputed ← transaction.recomputedMetadata
  report (ensure (recomputed = transaction.logicalMetadataBytes)
    "OCI rootfs logical metadata reservation differs from its journal")
  let nextOffset ← transaction.extentClosure
  report (ensure (nextOffset = transaction.physicalRegularBytes)
    "physical OCI rootfs extent journal length changed")
  let physicalEntryCount := transaction.operations.length
  let _ ← layerStream.checkedAddTarEntries 0 physicalEntryCount "physical OCI rootfs operations"
  let _ ← layerStream.checkedAddUncompressedTarBytes 0 transaction.physicalRegularBytes
    "physical OCI rootfs regular payload bytes"
  let indexedOperationCount ← transaction.operationsBySource.foldlM (fun count layer =>
    report (context "OCI rootfs source-index cardinality overflowed"
      (checkedAdd count layer.length))) 0
  report (ensure (indexedOperationCount = transaction.operations.length)
    "OCI rootfs source index cardinality differs from its operation journal")
  pure physicalEntryCount

/-- The extent of a regular operation, marked as referenced. -/
def referenceExtent (referenced : List Bool) (operation : Operation) (extentIndex : ℕ) :
    Result (List Bool) := do
  let already ← report (context
    "OCI rootfs regular operation references an absent physical extent" referenced[extentIndex]?)
  report (ensure (already = false)
    "OCI rootfs physical regular extent is referenced more than once")
  let extent ← item transaction.physicalRegularExtents extentIndex
  report (ensure (operation.mode = extent.mode ∧ operation.byteLength = extent.byteLength)
    "OCI rootfs regular operation differs from its physical extent identity")
  report (ensure (operation.source = extent.source)
    "OCI rootfs regular operation differs from its physical extent source identity")
  pure (referenced.set extentIndex true)

def validateOperationReference (referenced : List Bool) (numbered : Operation × ℕ) :
    Result (List Bool) := do
  let (operation, operationIndex) := numbered
  validateStagedOperationIdentity operation.path operation.mode operation.byteLength operation.kind
  let layer ← transaction.semanticLayerSlot operation.source.semanticLayerIndex
  let sources ← item transaction.operationsBySource layer
  report (ensure (sources[operation.source.archiveEntryIndex]? = some operationIndex)
    "OCI rootfs source index names a different physical operation")
  let captured ← item transaction.capturedLayerEntries layer
  report (ensure (operation.source.archiveEntryIndex < captured)
    "OCI rootfs operation archive index exceeds its captured layer")
  match operation.kind with
  | .regular extentIndex => transaction.referenceExtent referenced operation extentIndex
  | .directory | .symbolicLink _ | .remove _ | .opaqueDirectory _ => pure referenced

def validateOperationExtentReferences : Result Unit := do
  let referenced ← transaction.operations.zipIdx.foldlM transaction.validateOperationReference
    (List.replicate transaction.physicalRegularExtents.length false)
  report (ensure (referenced.all id)
    "OCI rootfs physical regular extent is orphaned from the operation journal")

/-- One operation of a layer, after the path before it and over the transcript so far. -/
def validateLayerOperation (sources : List ℕ) (state : Option Bytes × Bytes)
    (archiveEntryIndex : ℕ) : Result (Option Bytes × Bytes) := do
  let (previousPath, observed) := state
  let operationIndex ← report (context
    "OCI rootfs semantic layer has a gap in archive source order" sources[archiveEntryIndex]?)
  let operation ← report (context "OCI rootfs semantic source left its operation journal"
    transaction.operations[operationIndex]?)
  report (ensure (previousPath.all fun previous => compare previous operation.path = .lt)
    "OCI rootfs semantic layer violates strict source path order")
  let observed ← updateLayerOperationTranscript observed operation
    transaction.physicalRegularExtents
  pure (some operation.path, observed)

def validateSealedTranscript (requireAllLayerSeals : Bool) (sealedTranscript : Option Digest)
    (observed : Digest) (differs missing : String) : Result Unit :=
  match sealedTranscript with
  | some sealedDigest => report (ensure (observed = sealedDigest) differs)
  | none => report (ensure (requireAllLayerSeals = false) missing)

def validateLayer (requireAllLayerSeals : Bool) (layer captured : ℕ) : Result ℕ := do
  let sealedEntries ← item transaction.sealedLayerEntries layer
  report (ensure (requireAllLayerSeals = true → sealedEntries.isSome)
    "OCI rootfs semantic layer is not authenticated and sealed")
  let expected := sealedEntries.getD captured
  report (ensure (expected = captured) "OCI rootfs sealed semantic-layer entry count changed")
  let sources ← (if expected = 0 then pure [] else item transaction.operationsBySource layer)
  let (_, observed) ← (List.range expected).foldlM (transaction.validateLayerOperation sources)
    (none, newLayerOperationTranscript layer)
  let capturedTranscript ← item transaction.capturedLayerTranscripts layer
  let sealedTranscript ← item transaction.sealedLayerTranscripts layer
  validateSealedTranscript requireAllLayerSeals sealedTranscript (sha256 observed)
    "OCI rootfs operation journal differs from its sealed semantic-layer transcript"
    "OCI rootfs semantic-layer transcript is not sealed"
  report (ensure (sha256 observed = sha256 capturedTranscript)
    "OCI rootfs semantic-layer operation journal differs from its captured transcript")
  let canonical ← item transaction.capturedCanonicalLayerTranscripts layer
  let capturedCanonical ← canonical.finish sha256
  let authenticated ← item transaction.authenticatedCanonicalLayerTranscripts layer
  validateSealedTranscript requireAllLayerSeals authenticated capturedCanonical
    "OCI rootfs canonical changeset transcript differs from its authenticated layer seal"
    "OCI rootfs canonical changeset transcript is not authenticated"
  pure expected

def validateLayerSealsAndTranscripts (requireAllLayerSeals : Bool) (physicalEntryCount : ℕ) :
    Result (List ℕ) := do
  let (observedOperations, layerEntryCounts) ← transaction.capturedLayerEntries.zipIdx.foldlM
    (fun (state : ℕ × List ℕ) counted => do
      let expected ← transaction.validateLayer sha256 requireAllLayerSeals counted.2 counted.1
      let observed ← report (context
        "OCI rootfs semantic-layer operation count overflowed" (checkedAdd state.1 expected))
      pure (observed, state.2 ++ [expected])) (0, [])
  report (ensure (observedOperations = physicalEntryCount)
    "OCI rootfs semantic-layer entries do not cover the physical operation journal")
  pure layerEntryCounts

def validateOpenRegularIdentity : Result Unit :=
  match transaction.openRegular with
  | none => pure ()
  | some opened => report (ensure (opened.offset = transaction.physicalRegularBytes)
      "open OCI rootfs regular extent is not terminal")

def validateLogicalProjectionWithLayerSeals (requireAllLayerSeals : Bool) : Result Projection := do
  let physicalEntryCount ← transaction.validateLogicalJournalEnvelope
  transaction.validateOperationExtentReferences
  let layerEntryCounts ← transaction.validateLayerSealsAndTranscripts sha256 requireAllLayerSeals
    physicalEntryCount
  let projection ← transaction.projectOperationJournal layerEntryCounts
  validateProjectionEffectReferences transaction.operations projection
  transaction.validateOpenRegularIdentity
  pure projection

end Transaction

section Extents

variable (sha256 : Bytes → Digest) (host : Host) (spool : Bytes)

/-- `digest_extent`: reads of at most one buffer, each of which may be short. -/
def readExtent (label : String) (start consumed remaining : ℕ) : Result Bytes :=
  if hremaining : remaining = 0 then pure []
  else
    match checkedAdd start consumed with
    | none => .error (.reported "OCI replay extent read offset overflowed")
    | some offset =>
      let wanted := min remaining ioBufferBytes
      match host.pread offset wanted with
      | .error e => .error (.reported e)
      | .ok count =>
        let read := (spool.drop offset).take (min count wanted)
        if hread : read = [] then .error (.reported s!"{label} ended before its declared length")
        else do
          let rest ← readExtent label start (consumed + read.length) (remaining - read.length)
          pure (read ++ rest)
termination_by remaining
decreasing_by
  exact Nat.sub_lt (Nat.pos_of_ne_zero hremaining) (List.length_pos_iff.mpr hread)

def digestExtent (start byteLength : ℕ) (label : String) : Result Digest := do
  let bytes ← readExtent host spool label start 0 byteLength
  pure (sha256 bytes)

def validatePhysicalRegularExtents (transaction : Transaction) : Result Unit := do
  transaction.physicalRegularExtents.forM fun extent => do
    let observed ← digestExtent sha256 host transaction.spool extent.offset extent.byteLength.toNat
      "physical OCI rootfs regular extent"
    report (ensure (observed = extent.sha256) "physical OCI rootfs regular extent digest changed")
  transaction.validateOpenRegularIdentity
  match transaction.openRegular with
  | none => pure ()
  | some opened => do
    let observed ← digestExtent sha256 host transaction.spool opened.offset opened.writtenByteLength
      "open OCI rootfs regular extent"
    report (ensure (observed = sha256 opened.digest)
      "open OCI rootfs regular extent digest changed")

end Extents

structure ValidatedProjection where
  canonicalLiveOperationIndices : List ℕ
  counters : LiveCounters
  authenticatedLogicalProjectionSha256 : Digest

section Logical

variable (operations : List Operation) (extents : List RegularExtent)

/-- `eip0045-b4-authenticated-logical-rootfs-projection-v1\0` -/
def logicalProjectionDomain : Bytes :=
  [101, 105, 112, 48, 48, 52, 53, 45, 98, 52, 45, 97, 117, 116, 104, 101, 110, 116, 105, 99, 97, 116,
    101, 100, 45, 108, 111, 103, 105, 99, 97, 108, 45, 114, 111, 111, 116, 102, 115, 45, 112, 114,
    111, 106, 101, 99, 116, 105, 111, 110, 45, 118, 49, 0]

def LiveCounters.bytes (counters : LiveCounters) : Bytes :=
  Bytes.beBytes 8 counters.entryCount ++ Bytes.beBytes 8 counters.regularFileCount ++
    Bytes.beBytes 8 counters.directoryCount ++ Bytes.beBytes 8 counters.symbolicLinkCount ++
    Bytes.beBytes 8 counters.regularFileBytes

def logicalKindBytes (operation : Operation) : Result Bytes :=
  match operation.kind with
  | .regular extentIndex => do
    let extent ← report (context
      "authenticated OCI rootfs regular definition left its extent journal" extents[extentIndex]?)
    report (ensure (extent.mode = operation.mode ∧ extent.byteLength = operation.byteLength ∧
        extent.source = operation.source)
      "authenticated OCI rootfs regular definition differs from its extent identity")
    pure (0 :: (Bytes.beBytes 4 operation.mode.toNat ++ Bytes.beBytes 8 operation.byteLength.toNat ++
      extent.sha256.val))
  | .directory => pure (1 :: Bytes.beBytes 4 operation.mode.toNat)
  | .symbolicLink target =>
    pure (2 :: (Bytes.beBytes 4 operation.mode.toNat ++ transcriptBytes target))
  | .remove _ | .opaqueDirectory _ =>
    .error (.reported "authenticated OCI rootfs live definition names a whiteout")

def logicalBindingBytes (binding : Bytes × PathProjection) : Result Bytes := do
  let (path, state) := binding
  let operation ← report (context
    "authenticated OCI rootfs live definition left its operation journal"
    operations[state.liveDefinition]?)
  report (ensure (operation.path = path)
    "authenticated OCI rootfs live definition names a different path")
  let kindBytes ← logicalKindBytes extents operation
  pure (transcriptBytes path ++ kindBytes)

/-- What the authenticated logical projection hash absorbs. -/
def logicalProjectionPreimage (role : PositiveRunnerRole) (projection : Projection) :
    Result Bytes := do
  let bindings ← projection.paths.toList.mapM (logicalBindingBytes operations extents)
  pure (logicalProjectionDomain ++ [positiveRunnerRoleIdentityTag role] ++
    projection.counters.bytes ++ bindings.flatten)

def validatedLogicalProjection (sha256 : Bytes → Digest) (role : PositiveRunnerRole)
    (projection : Projection) : Result ValidatedProjection := do
  let preimage ← logicalProjectionPreimage operations extents role projection
  let indices := projection.paths.toList.map fun binding => binding.2.liveDefinition
  report (ensure (indices.length = projection.counters.entryCount)
    "authenticated OCI rootfs live-definition count differs from its counters")
  pure {
    canonicalLiveOperationIndices := indices
    counters := projection.counters
    authenticatedLogicalProjectionSha256 := sha256 preimage }

end Logical

def validateExpectedLiveRootfs (observed expected : LiveCounters) : Result Unit := do
  report (ensure (observed.entryCount = expected.entryCount)
    "OCI rootfs live entry count differs from its authenticated expectation")
  report (ensure (observed.regularFileCount = expected.regularFileCount)
    "OCI rootfs live regular-file count differs from its authenticated expectation")
  report (ensure (observed.directoryCount = expected.directoryCount)
    "OCI rootfs live directory count differs from its authenticated expectation")
  report (ensure (observed.symbolicLinkCount = expected.symbolicLinkCount)
    "OCI rootfs live symbolic-link count differs from its authenticated expectation")
  report (ensure (observed.regularFileBytes = expected.regularFileBytes)
    "OCI rootfs live regular-file bytes differ from its authenticated expectation")

section Authentication

variable (sha256 : Bytes → Digest) (before after : Host)

def validateCompletedCandidate (role : PositiveRunnerRole) (transaction : Transaction)
    (expectedLiveRootfs : LiveCounters) : Result (Projection × ValidatedProjection) := do
  report (ensure (transaction.poisoned = false) "private OCI rootfs candidate is poisoned")
  report (ensure (transaction.openRegular.isNone)
    "private OCI rootfs candidate has an unfinished entry")
  report (ensure (transaction.openInertEntry = false)
    "private OCI rootfs candidate has an unfinished inert entry")
  let projection ← transaction.validateLogicalProjectionWithLayerSeals sha256 true
  validateExpectedLiveRootfs projection.counters expectedLiveRootfs
  let validated ← validatedLogicalProjection transaction.operations
    transaction.physicalRegularExtents sha256 role projection
  report before.parent
  report before.finalNameAbsent
  report (before.spoolDescriptor transaction.physicalRegularBytes)
  report before.syncAll
  validatePhysicalRegularExtents sha256 before transaction
  report (after.spoolDescriptor transaction.physicalRegularBytes)
  report after.parent
  report after.finalNameAbsent
  pure (projection, validated)

def sealAll (seals : List LayerSeal) : Staging Unit := do
  let transaction ← get
  lift (report (ensure (seals.length = transaction.expectedSemanticLayers)
    "authenticated OCI rootfs layer-seal cardinality differs from the manifest"))
  seals.zipIdx.forM fun numbered => do
    lift (report (ensure (numbered.1.semanticLayerIndex = numbered.2)
      "authenticated OCI rootfs layer seals differ from semantic layer order"))
    sealAuthenticatedSemanticLayer sha256 numbered.1

/-- The transaction is consumed: what is authenticated is its final state with the projection. -/
def authenticateAndRetain (role : PositiveRunnerRole) (transaction : Transaction)
    (seals : List LayerSeal) (expectedLiveRootfs : LiveCounters) :
    Result (Transaction × Projection × ValidatedProjection) := do
  let (sealing, transaction) := exec (sealAll sha256 seals) transaction
  sealing
  let validated ← validateCompletedCandidate sha256 before after role transaction expectedLiveRootfs
  pure (transaction, validated)

end Authentication

end Eip0045.Rootfs
