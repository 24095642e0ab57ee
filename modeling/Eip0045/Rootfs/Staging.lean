import Mathlib
import Eip0045.Library.Stateful
import Eip0045.Rootfs.ChangesetTranscript
import Eip0045.Rootfs.Identity

/-! The staging transaction: one anonymous spool, the journal over it, and the calls that fill it. -/

namespace Eip0045.Rootfs

open Checked Stateful

/-- The open regular file; its digest is kept as the bytes hashed so far. -/
structure OpenRegularExtent where
  source : SourceOrdinal
  path : Bytes
  offset : ℕ
  expectedByteLength : UInt64
  writtenByteLength : ℕ
  mode : UInt32
  digest : Bytes

/-- The transaction with the content of its spool. -/
structure Transaction extends Journal where
  spool : Bytes
  capturedLayerEntries : List ℕ
  sealedLayerEntries : List (Option ℕ)
  capturedLayerTranscripts : List Bytes
  sealedLayerTranscripts : List (Option Digest)
  capturedCanonicalLayerTranscripts : List ChangesetTranscript
  authenticatedCanonicalLayerTranscripts : List (Option Digest)
  openRegular : Option OpenRegularExtent
  openInertEntry : Bool
  physicalRegularBytes : ℕ
  logicalMetadataBytes : ℕ
  poisoned : Bool

/-- What the host answers during one call: each descriptor check and reservation may fail, each
write may stop early or fail, each read may be short or fail. -/
structure Host where
  mountNamespace : Except String Unit
  spoolDescriptor : ℕ → Except String Unit
  parent : Except String Unit
  finalNameAbsent : Except String Unit
  reserve : String → Except String Unit
  pwrite : ℕ → ℕ → Except String ℕ
  pread : ℕ → ℕ → Except String ℕ
  syncAll : Except String Unit

structure LayerSeal where
  semanticLayerIndex : ℕ
  authenticatedEntryCount : ℕ
  changesetTranscriptSha256 : Digest

abbrev Staging := Stateful (Fault String) Transaction

section Metadata

def logicalMetadataMaxBytes : ℕ := 896 * 1024 * 1024
def logicalMetadataBaseReservationBytes : ℕ := 128 * 1024
def operationMetadataReservationBytes : ℕ := 192
def sourceIndexMetadataReservationBytes : ℕ := 16
def liveIndexMetadataReservationBytes : ℕ := 16
def ownedStringMetadataReservationBytes : ℕ := 32
def candidateNodeMetadataReservationBytes : ℕ := 256
def regularExtentMetadataReservationBytes : ℕ := 160

def checkedRootfsMetadataReservation (current additional : ℕ) : Result ℕ := do
  let total ← report (context "OCI rootfs logical metadata reservation overflowed"
    (checkedAdd current additional))
  report (ensure (total ≤ logicalMetadataMaxBytes)
    "OCI rootfs logical metadata reservation exceeds its compiled byte bound")
  pure total

def ownedStringMetadataReservation (value : Bytes) : Result ℕ :=
  report (context "OCI rootfs logical string metadata reservation overflowed"
    (checkedAdd ownedStringMetadataReservationBytes value.length))

def OperationKind.metadataParts : OperationKind → Option Bytes × Bool
  | .regular _ => (none, true)
  | .directory => (none, false)
  | .symbolicLink target | .remove target => (some target, false)
  | .opaqueDirectory path => (some path, false)

def kindMetadataReservation (target : Option Bytes) (regularExtent : Bool) : Result ℕ :=
  if regularExtent then pure regularExtentMetadataReservationBytes
  else match target with
    | some target => ownedStringMetadataReservation target
    | none => pure 0

def stagedOperationMetadataReservationParts (path : Bytes) (target : Option Bytes)
    (regularExtent : Bool) : Result ℕ := do
  let reservation ← report (context "OCI rootfs operation metadata reservation overflowed" (do
    let value ← checkedAdd operationMetadataReservationBytes sourceIndexMetadataReservationBytes
    let value ← checkedAdd value liveIndexMetadataReservationBytes
    checkedAdd value candidateNodeMetadataReservationBytes))
  let pathReservation ← ownedStringMetadataReservation path
  let reservation ← report (context "OCI rootfs path metadata reservation overflowed"
    (checkedAdd reservation pathReservation))
  let kindReservation ← kindMetadataReservation target regularExtent
  report (context "OCI rootfs operation-kind metadata reservation overflowed"
    (checkedAdd reservation kindReservation))

def stagedOperationMetadataReservation (path : Bytes) (kind : OperationKind) : Result ℕ :=
  stagedOperationMetadataReservationParts path kind.metadataParts.1 kind.metadataParts.2

end Metadata

section Transcript

/-- `eip0045-b4-oci-rootfs-operation-transcript-v1\0` -/
def operationTranscriptDomain : Bytes :=
  [101, 105, 112, 48, 48, 52, 53, 45, 98, 52, 45, 111, 99, 105, 45, 114, 111, 111, 116, 102, 115, 45,
    111, 112, 101, 114, 97, 116, 105, 111, 110, 45, 116, 114, 97, 110, 115, 99, 114, 105, 112, 116,
    45, 118, 49, 0]

def newLayerOperationTranscript (semanticLayerIndex : ℕ) : Bytes :=
  operationTranscriptDomain ++ Bytes.beBytes 8 semanticLayerIndex

def transcriptBytes (value : Bytes) : Bytes := Bytes.beBytes 8 value.length ++ value

def operationKindBytes (extents : List RegularExtent) (operation : Operation) : Result Bytes :=
  match operation.kind with
  | .regular extentIndex => do
    let extent ← report (context "OCI rootfs transcript references an absent regular extent"
      extents[extentIndex]?)
    report (ensure (extent.source = operation.source)
      "OCI rootfs transcript regular extent differs from its source identity")
    pure (0 :: extent.sha256.val)
  | .directory => pure [1]
  | .symbolicLink target => pure (2 :: transcriptBytes target)
  | .remove target => pure (3 :: transcriptBytes target)
  | .opaqueDirectory path => pure (4 :: transcriptBytes path)

def updateLayerOperationTranscript (transcript : Bytes) (operation : Operation)
    (extents : List RegularExtent) : Result Bytes := do
  let kindBytes ← operationKindBytes extents operation
  pure (transcript ++ Bytes.beBytes 8 operation.source.semanticLayerIndex ++
    Bytes.beBytes 8 operation.source.archiveEntryIndex ++ transcriptBytes operation.path ++
    Bytes.beBytes 4 operation.mode.toNat ++ Bytes.beBytes 8 operation.byteLength.toNat ++ kindBytes)

end Transcript

def canonicalReplayEntry (path : Bytes) (mode byteLength : UInt64) (kind : OperationKind) :
    ReplayEntry where
  path := path
  kind := match kind with
    | .regular _ => .regularFile mode byteLength
    | .directory => .directory mode byteLength
    | .symbolicLink target => .symbolicLink mode byteLength target
    | .remove target => .whiteout mode byteLength (.remove target)
    | .opaqueDirectory subject => .whiteout mode byteLength (.opaqueDirectory subject)

namespace Transaction

def begin (expectedSemanticLayers : ℕ) : Result Transaction := do
  report (ensure (expectedSemanticLayers ≠ 0)
    "OCI rootfs staging requires a nonempty semantic layer sequence")
  let _ ← layerStream.checkedAddLayer 0 expectedSemanticLayers "OCI rootfs semantic layers"
  pure {
    expectedSemanticLayers
    physicalRegularExtents := []
    operations := []
    operationsBySource := List.replicate expectedSemanticLayers []
    spool := []
    capturedLayerEntries := List.replicate expectedSemanticLayers 0
    sealedLayerEntries := List.replicate expectedSemanticLayers none
    capturedLayerTranscripts := (List.range expectedSemanticLayers).map newLayerOperationTranscript
    sealedLayerTranscripts := List.replicate expectedSemanticLayers none
    capturedCanonicalLayerTranscripts :=
      List.replicate expectedSemanticLayers ChangesetTranscript.new
    authenticatedCanonicalLayerTranscripts := List.replicate expectedSemanticLayers none
    openRegular := none
    openInertEntry := false
    physicalRegularBytes := 0
    logicalMetadataBytes := logicalMetadataBaseReservationBytes
    poisoned := false }

variable (transaction : Transaction)

def physicalSpoolByteLength : Result ℕ :=
  report (context "physical OCI replay spool length overflowed"
    (checkedAdd transaction.physicalRegularBytes
      ((transaction.openRegular.map OpenRegularExtent.writtenByteLength).getD 0)))

def validateNextSource (source : SourceOrdinal) : Result Unit := do
  let layer ← transaction.semanticLayerSlot source.semanticLayerIndex
  let sealedEntries ← item transaction.sealedLayerEntries layer
  report (ensure (sealedEntries = none)
    "OCI rootfs operation targets an already sealed semantic layer")
  let captured ← item transaction.capturedLayerEntries layer
  report (ensure (source.archiveEntryIndex = captured)
    "OCI rootfs source ordinal is not the next archive entry in its semantic layer")
  let indexed ← report (context "OCI rootfs source-index layer is absent"
    transaction.operationsBySource[layer]?)
  report (ensure (indexed.length = source.archiveEntryIndex)
    "OCI rootfs source ordinal was captured more than once or out of order")

def checkNoOpenEntry : Result Unit := do
  report (ensure (transaction.openRegular.isNone) "OCI rootfs staging already has an open entry")
  report (ensure (transaction.openInertEntry = false)
    "OCI rootfs staging already has an unfinished inert entry")

end Transaction

/-- A call on the transaction: refused once poisoned, and poisoning it on any failure. -/
def poisoning (call : Staging Unit) : Staging Unit := do
  let transaction ← get
  lift (report (ensure (transaction.poisoned = false) "private OCI rootfs staging is poisoned"))
  marking (fun transaction => { transaction with poisoned := true }) call

section Calls

/-- A write into the spool file, which a gap before the offset fills with zeros. -/
def spoolWrite (spool : Bytes) (offset : ℕ) (bytes : Bytes) : Bytes :=
  (spool ++ List.replicate (offset - spool.length) 0).take offset ++ bytes ++
    spool.drop (offset + bytes.length)

variable (sha256 : Bytes → Digest) (host : Host)

/-- `write_all_at`: the kernel takes a nonempty part of what is left, or the call fails. -/
def writeAllAt (bytes : Bytes) (offset : ℕ) : Staging Unit :=
  if bytes = [] then pure ()
  else
    match host.pwrite offset bytes.length with
    | .error e => lift (.error (.reported e))
    | .ok 0 => lift (.error (.reported "anonymous OCI spool pwrite made no progress"))
    | .ok (written + 1) => do
      modify fun transaction => { transaction with
        spool := spoolWrite transaction.spool offset (bytes.take (written + 1)) }
      let offset ← lift (report (context "anonymous OCI spool pwrite offset overflowed"
        (checkedAdd offset (written + 1))))
      if bytes.length < written + 1 then lift (.error .outOfRange)
      else writeAllAt (bytes.drop (written + 1)) offset
termination_by bytes.length
decreasing_by
  rw [List.length_drop]
  have := List.length_pos_iff.mpr ‹_›
  omega

def beginRegularInner (source : SourceOrdinal) (path : Bytes) (mode byteLength : UInt64) :
    Staging Unit := do
  let transaction ← get
  lift transaction.checkNoOpenEntry
  lift (transaction.validateNextSource source)
  let metadataReservation ← lift (stagedOperationMetadataReservationParts path none true)
  let nextLogicalMetadata ← lift (checkedRootfsMetadataReservation
    transaction.logicalMetadataBytes metadataReservation)
  lift (validateNormalizedRootfsPath path "OCI rootfs regular-file path")
  let parsedWhiteout ← lift (parseRootfsWhiteout path)
  lift (report (ensure (parsedWhiteout = none)
    "OCI rootfs regular-file path uses reserved whiteout syntax"))
  lift (report (ensure (regularFileMode mode.toNat)
    "OCI rootfs regular-file mode is outside 0444/0555"))
  lift (layerStream.validateRegularFilePayloadBytes byteLength.toNat "OCI rootfs staging")
  let _ ← lift (layerStream.checkedAddTarEntries transaction.operations.length 1
    "physical OCI rootfs operations")
  let _ ← lift (layerStream.checkedAddUncompressedTarBytes transaction.physicalRegularBytes
    byteLength.toNat "physical OCI rootfs regular payload bytes")
  lift (report (host.reserve "cannot reserve OCI rootfs regular-file path"))
  lift (report (host.reserve "cannot reserve the physical OCI rootfs extent journal"))
  lift (report (host.reserve "cannot reserve the physical OCI rootfs operation journal"))
  let layer ← lift (transaction.semanticLayerSlot source.semanticLayerIndex)
  let transcript ← lift (item transaction.capturedCanonicalLayerTranscripts layer)
  let transcript ← lift (transcript.beginEntry ⟨path, .regularFile mode byteLength⟩)
  modify fun transaction => { transaction with
    capturedCanonicalLayerTranscripts :=
      transaction.capturedCanonicalLayerTranscripts.set layer transcript }
  modify fun transaction => { transaction with
    openRegular := some {
      source
      path
      offset := transaction.physicalRegularBytes
      expectedByteLength := byteLength
      writtenByteLength := 0
      mode := mode.toUInt32
      digest := [] } }
  modify fun transaction => { transaction with logicalMetadataBytes := nextLogicalMetadata }

def pushCompletedOperation (operation : Operation) : Staging Unit := do
  let transaction ← get
  lift (transaction.validateNextSource operation.source)
  let layer ← lift (transaction.semanticLayerSlot operation.source.semanticLayerIndex)
  let operationIndex := transaction.operations.length
  let captured ← lift (item transaction.capturedLayerTranscripts layer)
  let capturedTranscript ← lift (updateLayerOperationTranscript captured operation
    transaction.physicalRegularExtents)
  let indexed ← lift (item transaction.operationsBySource layer)
  lift (report (host.reserve "cannot reserve the OCI rootfs per-layer source index"))
  modify fun transaction => { transaction with
    operationsBySource := transaction.operationsBySource.set layer (indexed ++ [operationIndex]) }
  modify fun transaction => { transaction with
    operations := transaction.operations ++ [operation] }
  modify fun transaction => { transaction with
    capturedLayerTranscripts := transaction.capturedLayerTranscripts.set layer capturedTranscript }
  let entries ← lift (item transaction.capturedLayerEntries layer)
  let entries ← lift (report (context
    "OCI rootfs semantic-layer captured entry count overflowed" (checkedAdd entries 1)))
  modify fun transaction => { transaction with
    capturedLayerEntries := transaction.capturedLayerEntries.set layer entries }

def stageInertOperationInner (source : SourceOrdinal) (path : Bytes) (mode byteLength : UInt64)
    (kind : OperationKind) : Staging Unit := do
  let transaction ← get
  lift transaction.checkNoOpenEntry
  lift (transaction.validateNextSource source)
  lift (report (ensure (mode.toNat < 2 ^ 32) "OCI rootfs logical mode does not fit u32"))
  let metadataReservation ← lift (stagedOperationMetadataReservation path kind)
  let nextLogicalMetadata ← lift (checkedRootfsMetadataReservation
    transaction.logicalMetadataBytes metadataReservation)
  lift (validateStagedOperationIdentity path mode.toUInt32 byteLength kind)
  let _ ← lift (layerStream.checkedAddTarEntries transaction.operations.length 1
    "physical OCI rootfs operations")
  lift (report (host.reserve "cannot reserve the physical OCI rootfs operation journal"))
  lift (report (host.reserve "cannot reserve OCI rootfs operation path"))
  let operation : Operation := ⟨source, path, mode.toUInt32, byteLength, kind⟩
  let layer ← lift (transaction.semanticLayerSlot source.semanticLayerIndex)
  let transcript ← lift (item transaction.capturedCanonicalLayerTranscripts layer)
  let transcript ← lift (transcript.beginEntry
    (canonicalReplayEntry path mode byteLength kind))
  modify fun transaction => { transaction with
    capturedCanonicalLayerTranscripts :=
      transaction.capturedCanonicalLayerTranscripts.set layer transcript }
  let transcript ← lift transcript.finishEntry
  modify fun transaction => { transaction with
    capturedCanonicalLayerTranscripts :=
      transaction.capturedCanonicalLayerTranscripts.set layer transcript }
  pushCompletedOperation host operation
  modify fun transaction => { transaction with logicalMetadataBytes := nextLogicalMetadata }

def writeRegularChunkInner (chunk : Bytes) : Staging Unit := do
  let transaction ← get
  lift (report (ensure (1 ≤ chunk.length ∧ chunk.length ≤ ioBufferBytes)
    "OCI rootfs replay chunk is outside its fixed streaming range"))
  lift (report host.mountNamespace)
  let opened ← lift (report (context "OCI rootfs staging has no open regular file"
    transaction.openRegular))
  let layer ← lift (transaction.semanticLayerSlot opened.source.semanticLayerIndex)
  let written ← lift (report (context "OCI rootfs regular-file written length overflowed"
    (checkedAdd opened.writtenByteLength chunk.length)))
  lift (report (ensure (written ≤ opened.expectedByteLength.toNat)
    "OCI rootfs replay emitted more bytes than the regular file declared"))
  let writeOffset ← lift (report (context "OCI rootfs spool write offset overflowed"
    (checkedAdd opened.offset opened.writtenByteLength)))
  writeAllAt host chunk writeOffset
  modify fun transaction => { transaction with
    openRegular := some { opened with
      digest := opened.digest ++ chunk
      writtenByteLength := written } }
  let transcript ← lift (item transaction.capturedCanonicalLayerTranscripts layer)
  let transcript ← lift (transcript.writeRegularFileChunk chunk)
  modify fun transaction => { transaction with
    capturedCanonicalLayerTranscripts :=
      transaction.capturedCanonicalLayerTranscripts.set layer transcript }

def finishEntryInner : Staging Unit := do
  let transaction ← get
  let opened ← lift (report (context "OCI rootfs staging has no open entry"
    transaction.openRegular))
  lift (report (ensure (opened.writtenByteLength = opened.expectedByteLength.toNat)
    "OCI rootfs regular file ended before its declared payload"))
  let completed ← lift (report (context
    "completed physical OCI rootfs regular-file bytes overflowed"
    (checkedAdd opened.offset opened.expectedByteLength.toNat)))
  let length ← lift transaction.physicalSpoolByteLength
  lift (report (ensure (completed = length)
    "finished OCI rootfs regular file is not the terminal spool extent"))
  lift (report (host.spoolDescriptor completed))
  modify fun transaction => { transaction with openRegular := none }
  let extentIndex := transaction.physicalRegularExtents.length
  modify fun transaction => { transaction with
    physicalRegularExtents := transaction.physicalRegularExtents ++ [{
      source := opened.source
      offset := opened.offset
      byteLength := opened.expectedByteLength
      mode := opened.mode
      sha256 := sha256 opened.digest }] }
  pushCompletedOperation host {
    source := opened.source
    path := opened.path
    mode := opened.mode
    byteLength := opened.expectedByteLength
    kind := .regular extentIndex }
  let layer ← lift (transaction.semanticLayerSlot opened.source.semanticLayerIndex)
  let transcript ← lift (item transaction.capturedCanonicalLayerTranscripts layer)
  let transcript ← lift transcript.finishEntry
  modify fun transaction => { transaction with
    capturedCanonicalLayerTranscripts :=
      transaction.capturedCanonicalLayerTranscripts.set layer transcript }
  modify fun transaction => { transaction with physicalRegularBytes := completed }

def sealAuthenticatedSemanticLayerInner (layerSeal : LayerSeal) : Staging Unit := do
  let transaction ← get
  lift (report (ensure (transaction.openRegular.isNone)
    "OCI rootfs semantic layer ended with an open entry"))
  lift (report (ensure (transaction.openInertEntry = false)
    "OCI rootfs semantic layer ended with an unfinished inert entry"))
  let layer ← lift (transaction.semanticLayerSlot layerSeal.semanticLayerIndex)
  let sealedEntries ← lift (item transaction.sealedLayerEntries layer)
  lift (report (ensure (sealedEntries = none)
    "OCI rootfs semantic layer was sealed more than once"))
  let authenticated ← lift (item transaction.authenticatedCanonicalLayerTranscripts layer)
  lift (report (ensure (authenticated = none)
    "OCI rootfs semantic-layer authenticated transcript was sealed more than once"))
  let _ ← lift (layerStream.checkedAddTarEntries 0 layerSeal.authenticatedEntryCount
    "authenticated OCI rootfs semantic-layer entries")
  let captured ← lift (item transaction.capturedLayerEntries layer)
  lift (report (ensure (captured = layerSeal.authenticatedEntryCount)
    "OCI rootfs semantic-layer captured entry count differs from its authenticated receipt"))
  let canonical ← lift (item transaction.capturedCanonicalLayerTranscripts layer)
  let capturedChangeset ← lift (canonical.finish sha256)
  lift (report (ensure (capturedChangeset = layerSeal.changesetTranscriptSha256)
    "OCI rootfs changeset transcript differs from its authenticated layer seal"))
  let transcript ← lift (item transaction.capturedLayerTranscripts layer)
  modify fun transaction => { transaction with
    sealedLayerEntries :=
      transaction.sealedLayerEntries.set layer (some layerSeal.authenticatedEntryCount) }
  modify fun transaction => { transaction with
    sealedLayerTranscripts :=
      transaction.sealedLayerTranscripts.set layer (some (sha256 transcript)) }
  modify fun transaction => { transaction with
    authenticatedCanonicalLayerTranscripts :=
      transaction.authenticatedCanonicalLayerTranscripts.set layer
        (some layerSeal.changesetTranscriptSha256) }

def preEffectCheck : Staging Unit := do
  let transaction ← get
  let length ← lift transaction.physicalSpoolByteLength
  lift (report (host.spoolDescriptor length))

def beginRegular (source : SourceOrdinal) (path : Bytes) (mode byteLength : UInt64) :
    Staging Unit :=
  poisoning do
    preEffectCheck host
    beginRegularInner host source path mode byteLength

def writeRegularChunk (chunk : Bytes) : Staging Unit := poisoning (writeRegularChunkInner host chunk)

def finishEntry : Staging Unit := poisoning (finishEntryInner sha256 host)

def stageInertOperation (source : SourceOrdinal) (path : Bytes) (mode byteLength : UInt64)
    (kind : OperationKind) : Staging Unit :=
  poisoning (stageInertOperationInner host source path mode byteLength kind)

def stageDirectory (source : SourceOrdinal) (path : Bytes) (mode byteLength : UInt64) :
    Staging Unit :=
  stageInertOperation host source path mode byteLength .directory

def stageSymbolicLink (source : SourceOrdinal) (path : Bytes) (mode byteLength : UInt64)
    (target : Bytes) : Staging Unit :=
  stageInertOperation host source path mode byteLength (.symbolicLink target)

def stageRemove (source : SourceOrdinal) (markerPath : Bytes) (mode byteLength : UInt64)
    (target : Bytes) : Staging Unit :=
  stageInertOperation host source markerPath mode byteLength (.remove target)

def stageOpaqueDirectory (source : SourceOrdinal) (markerPath : Bytes) (mode byteLength : UInt64)
    (path : Bytes) : Staging Unit :=
  stageInertOperation host source markerPath mode byteLength (.opaqueDirectory path)

def sealAuthenticatedSemanticLayer (layerSeal : LayerSeal) : Staging Unit :=
  poisoning (sealAuthenticatedSemanticLayerInner sha256 layerSeal)

end Calls

end Eip0045.Rootfs
