import Mathlib
import Eip0045.Library.SortedMap
import Eip0045.Rootfs.Limits

/-! The operation journal of a staged root filesystem and its projection to live paths. -/

namespace Eip0045.Rootfs

open Checked

def slash : UInt8 := 47

structure SourceOrdinal where
  semanticLayerIndex : ℕ
  archiveEntryIndex : ℕ
  deriving DecidableEq

inductive EffectPhase
  | whiteout
  | entry
  deriving DecidableEq

structure EffectOrdinal where
  semanticLayerIndex : ℕ
  phase : EffectPhase
  archiveEntryIndex : ℕ
  deriving DecidableEq

structure EffectReference where
  operationIndex : ℕ
  ordinal : EffectOrdinal
  deriving DecidableEq

inductive OperationKind
  | regular (extentIndex : ℕ)
  | directory
  | symbolicLink (target : Bytes)
  | remove (target : Bytes)
  | opaqueDirectory (path : Bytes)
  deriving DecidableEq

structure Operation where
  source : SourceOrdinal
  path : Bytes
  mode : UInt32
  byteLength : UInt64
  kind : OperationKind
  deriving DecidableEq

structure RegularExtent where
  source : SourceOrdinal
  offset : ℕ
  byteLength : UInt64
  mode : UInt32
  sha256 : Digest

@[ext] structure LiveCounters where
  entryCount : ℕ
  regularFileCount : ℕ
  directoryCount : ℕ
  symbolicLinkCount : ℕ
  regularFileBytes : ℕ
  deriving DecidableEq

@[ext] structure PathProjection where
  liveDefinition : ℕ
  lastEffect : EffectReference

@[ext] structure Projection where
  paths : SortedMap Bytes PathProjection
  rootLastEffect : Option EffectReference
  counters : LiveCounters

def Projection.default : Projection where
  paths := ∅
  rootLastEffect := none
  counters := ⟨0, 0, 0, 0, 0⟩

/-- The part of a staging transaction that its projection reads. -/
structure Journal where
  expectedSemanticLayers : ℕ
  physicalRegularExtents : List RegularExtent
  operations : List Operation
  operationsBySource : List (List ℕ)

def checkedSub (a b : ℕ) : Option ℕ := if b ≤ a then some (a - b) else none

def whiteoutConflict : String :=
  "OCI rootfs whiteout conflicts with an intra-layer whiteout subtree"

def checkNonoverlapping (existing : SortedMap Bytes Unit) (candidate : Bytes) : Result Unit :=
  if candidate = [] then report (ensure (existing.isEmpty) whiteoutConflict)
  else do
    report (ensure (existing[([] : Bytes)]? = none) whiteoutConflict)
    ((List.range candidate.length).filter fun i => candidate[i]? = some slash).forM fun separator =>
      report (ensure (existing[candidate.take separator]? = none) whiteoutConflict)
    report (ensure (existing.firstBelow (candidate ++ [slash]) = none) whiteoutConflict)

def insertNonoverlappingWhiteout (existing : SortedMap Bytes Unit) (candidate : Bytes) :
    Result (SortedMap Bytes Unit) := do
  report (ensure (existing[candidate]? = none) whiteoutConflict)
  checkNonoverlapping existing candidate
  pure (existing.insert candidate ())

def effectReference (operationIndex : ℕ) (operation : Operation) (phase : EffectPhase) :
    EffectReference where
  operationIndex := operationIndex
  ordinal := ⟨operation.source.semanticLayerIndex, phase, operation.source.archiveEntryIndex⟩

def Projection.liveDefinition (projection : Projection) (path : Bytes) : Option ℕ :=
  projection.paths[path]?.map PathProjection.liveDefinition

section Counters

variable (extents : List RegularExtent)

def addLiveCounter (counters : LiveCounters) (operation : Operation) : Result LiveCounters := do
  let entryCount ← report (context "live OCI rootfs entry count overflowed"
    (checkedAdd counters.entryCount 1))
  match operation.kind with
  | .regular extentIndex =>
    let extent ← report (context "live OCI rootfs regular definition left the extent journal"
      extents[extentIndex]?)
    let regularFileCount ← report (context "live OCI rootfs regular-file count overflowed"
      (checkedAdd counters.regularFileCount 1))
    let regularFileBytes ← report (context "live OCI rootfs regular-file bytes overflowed"
      (checkedAdd counters.regularFileBytes extent.byteLength.toNat))
    pure { counters with entryCount, regularFileCount, regularFileBytes }
  | .directory =>
    let directoryCount ← report (context "live OCI rootfs directory count overflowed"
      (checkedAdd counters.directoryCount 1))
    pure { counters with entryCount, directoryCount }
  | .symbolicLink _ =>
    let symbolicLinkCount ← report (context "live OCI rootfs symbolic-link count overflowed"
      (checkedAdd counters.symbolicLinkCount 1))
    pure { counters with entryCount, symbolicLinkCount }
  | .remove _ | .opaqueDirectory _ =>
    .error (.reported "OCI rootfs whiteout cannot become a live definition")

def removeLiveCounter (counters : LiveCounters) (operation : Operation) : Result LiveCounters := do
  let entryCount ← report (context "live OCI rootfs entry count underflowed"
    (checkedSub counters.entryCount 1))
  match operation.kind with
  | .regular extentIndex =>
    let extent ← report (context "live OCI rootfs regular definition left the extent journal"
      extents[extentIndex]?)
    let regularFileCount ← report (context "live OCI rootfs regular-file count underflowed"
      (checkedSub counters.regularFileCount 1))
    let regularFileBytes ← report (context "live OCI rootfs regular-file bytes underflowed"
      (checkedSub counters.regularFileBytes extent.byteLength.toNat))
    pure { counters with entryCount, regularFileCount, regularFileBytes }
  | .directory =>
    let directoryCount ← report (context "live OCI rootfs directory count underflowed"
      (checkedSub counters.directoryCount 1))
    pure { counters with entryCount, directoryCount }
  | .symbolicLink _ =>
    let symbolicLinkCount ← report (context "live OCI rootfs symbolic-link count underflowed"
      (checkedSub counters.symbolicLinkCount 1))
    pure { counters with entryCount, symbolicLinkCount }
  | .remove _ | .opaqueDirectory _ =>
    .error (.reported "OCI rootfs whiteout cannot be removed from live counters")

end Counters

def validateLiveCounters (counters : LiveCounters) : Result Unit := do
  let typed ← report (context "typed live OCI rootfs entry count overflowed"
    (checkedAdd counters.regularFileCount counters.directoryCount))
  let typedTotal ← report (context "typed live OCI rootfs entry count overflowed"
    (checkedAdd typed counters.symbolicLinkCount))
  report (ensure (counters.entryCount = typedTotal)
    "live OCI rootfs entry count differs from its typed counts")
  postChangesetRootfs.validateFinalEntryCount counters.entryCount "OCI rootfs staging validation"
  postChangesetRootfs.validateFinalRegularFileBytes counters.regularFileBytes
    "OCI rootfs staging validation"

section Subtree

variable (operations : List Operation) (extents : List RegularExtent)

def validateProjectionParent (projection : Projection) (path : Bytes) : Result Unit :=
  match Paths.rsplitOnce slash path with
  | none => pure ()
  | some (parent, _) => do
    let definition ← report (context "OCI rootfs entry parent directory is absent"
      (projection.liveDefinition parent))
    let operation ← item operations definition
    report (ensure (operation.kind = .directory)
      "OCI rootfs entry parent directory is not a live directory")

def removeProjectionState (counters : LiveCounters) (state : PathProjection) :
    Result LiveCounters := do
  let operation ← item operations state.liveDefinition
  removeLiveCounter extents counters operation

/-- The loop that deletes the first live path under a prefix until none is left. -/
def removeDescendants (descendantPrefix : Bytes) (paths : SortedMap Bytes PathProjection)
    (counters : LiveCounters) : Result (SortedMap Bytes PathProjection × LiveCounters) :=
  match h : paths.firstBelow descendantPrefix with
  | none => pure (paths, counters)
  | some (path, state) => do
    let counters ← removeProjectionState operations extents counters state
    removeDescendants descendantPrefix (paths.erase path) counters
termination_by paths.size
decreasing_by
  exact SortedMap.size_erase_lt (SortedMap.firstBelow_some h).1

/-- Whether the subject's live definition is a directory, which alone can have descendants. -/
def hasDescendants (projection : Projection) (subject : Bytes) : Result Bool :=
  match projection.liveDefinition subject with
  | none => pure false
  | some definition => do
    let operation ← item operations definition
    pure (operation.kind = .directory)

def removeListed (paths : SortedMap Bytes PathProjection) (counters : LiveCounters)
    (subject : Bytes) (descendants : Bool) :
    Result (SortedMap Bytes PathProjection × LiveCounters) :=
  if descendants then removeDescendants operations extents (subject ++ [slash]) paths counters
  else pure (paths, counters)

def removeProjectionSubtree (projection : Projection) (subject : Bytes) (includeSubject : Bool) :
    Result Projection :=
  if subject = [] then do
    let counters ← projection.paths.toList.foldlM
      (fun counters binding => removeProjectionState operations extents counters binding.2)
      projection.counters
    pure { projection with paths := ∅, counters }
  else do
    let descendants ← hasDescendants operations projection subject
    if includeSubject then
      match projection.paths[subject]? with
      | none => pure projection
      | some state =>
        let counters ← removeProjectionState operations extents projection.counters state
        let (paths, counters) ← removeListed operations extents (projection.paths.erase subject)
          counters subject descendants
        pure { projection with paths, counters }
    else
      let (paths, counters) ← removeListed operations extents projection.paths projection.counters
        subject descendants
      pure { projection with paths, counters }

def setProjectionDefinition (projection : Projection) (path : Bytes) (definition : ℕ)
    (effect : EffectReference) : Result Projection := do
  let counters ← match projection.liveDefinition path with
    | none => pure projection.counters
    | some previous => do
      let operation ← item operations previous
      removeLiveCounter extents projection.counters operation
  let operation ← item operations definition
  let counters ← addLiveCounter extents counters operation
  pure { projection with
    counters
    paths := projection.paths.insert path { liveDefinition := definition, lastEffect := effect } }

end Subtree

namespace Journal

variable (journal : Journal)

def semanticLayerSlot (semanticLayerIndex : ℕ) : Result ℕ := do
  report (ensure (semanticLayerIndex < journal.expectedSemanticLayers)
    "OCI rootfs semantic layer index is outside the authenticated manifest")
  pure semanticLayerIndex

def operationAtSource (semanticLayerIndex archiveEntryIndex : ℕ) : Result (ℕ × Operation) := do
  let layer ← journal.semanticLayerSlot semanticLayerIndex
  let sources ← item journal.operationsBySource layer
  let operationIndex ← report (context "OCI rootfs source ordinal is absent from its journal"
    sources[archiveEntryIndex]?)
  let operation ← report (context "OCI rootfs source ordinal left its operation journal"
    journal.operations[operationIndex]?)
  report (ensure (operation.source = ⟨semanticLayerIndex, archiveEntryIndex⟩)
    "OCI rootfs source ordinal names a different operation")
  pure (operationIndex, operation)

def checkWhiteout (projection : Projection) (subjects : SortedMap Bytes Unit)
    (operation : Operation) : Result (SortedMap Bytes Unit) :=
  match operation.kind with
  | .remove target => do
    let subjects ← insertNonoverlappingWhiteout subjects target
    report (ensure ((projection.liveDefinition target).isSome)
      "OCI rootfs remove whiteout target is absent from the lower snapshot")
    pure subjects
  | .opaqueDirectory path => do
    let subjects ← insertNonoverlappingWhiteout subjects path
    if path = [] then pure subjects
    else
      let definition ← report (context
        "OCI rootfs opaque whiteout path is absent from the lower snapshot"
        (projection.liveDefinition path))
      let operation ← item journal.operations definition
      report (ensure (operation.kind = .directory)
        "OCI rootfs opaque whiteout path is not a lower-snapshot directory")
      pure subjects
  | .regular _ | .directory | .symbolicLink _ => pure subjects

/-- One turn of the loop over the whiteouts of a layer. -/
def checkWhiteoutAt (projection : Projection) (semanticLayerIndex : ℕ)
    (subjects : SortedMap Bytes Unit) (archiveEntryIndex : ℕ) : Result (SortedMap Bytes Unit) := do
  let (operationIndex, operation) ←
    journal.operationAtSource semanticLayerIndex archiveEntryIndex
  let subjects ← journal.checkWhiteout projection subjects operation
  report (ensure (operationIndex < journal.operations.length)
    "OCI rootfs operation index escaped its journal")
  pure subjects

def validateLayerWhiteoutsAgainstLowerSnapshot (projection : Projection)
    (semanticLayerIndex entryCount : ℕ) : Result Unit := do
  let _ ← (List.range entryCount).foldlM (journal.checkWhiteoutAt projection semanticLayerIndex) ∅
  pure ()

def applyWhiteout (projection : Projection) (operationIndex : ℕ) (operation : Operation) :
    Result Projection :=
  let effect := effectReference operationIndex operation .whiteout
  match operation.kind with
  | .remove target =>
    removeProjectionSubtree journal.operations journal.physicalRegularExtents projection target true
  | .opaqueDirectory path => do
    let projection ← removeProjectionSubtree journal.operations journal.physicalRegularExtents
      projection path false
    if path = [] then pure { projection with rootLastEffect := some effect }
    else
      match projection.paths[path]? with
      | none => .error .outOfRange
      | some state => pure { projection with
          paths := projection.paths.insert path { state with lastEffect := effect } }
  | .regular _ | .directory | .symbolicLink _ => pure projection

/-- One turn of the loop that applies the whiteouts of a layer. -/
def applyWhiteoutAt (semanticLayerIndex : ℕ) (projection : Projection) (archiveEntryIndex : ℕ) :
    Result Projection := do
  let (operationIndex, operation) ←
    journal.operationAtSource semanticLayerIndex archiveEntryIndex
  journal.applyWhiteout projection operationIndex operation

def applyLayerWhiteoutPhase (projection : Projection) (semanticLayerIndex entryCount : ℕ) :
    Result Projection :=
  (List.range entryCount).foldlM (journal.applyWhiteoutAt semanticLayerIndex) projection

def checkReplacedDirectory (projection : Projection) (path : Bytes) : Result Unit :=
  match projection.liveDefinition path with
  | none => pure ()
  | some previous => do
    let operation ← item journal.operations previous
    report (ensure (operation.kind = .directory)
      "OCI rootfs incoming directory has a type conflict")

def applyEntry (projection : Projection) (operationIndex : ℕ) (operation : Operation) :
    Result Projection :=
  let effect := effectReference operationIndex operation .entry
  match operation.kind with
  | .remove _ | .opaqueDirectory _ => pure projection
  | .directory => do
    validateProjectionParent journal.operations projection operation.path
    journal.checkReplacedDirectory projection operation.path
    setProjectionDefinition journal.operations journal.physicalRegularExtents projection
      operation.path operationIndex effect
  | .regular _ | .symbolicLink _ => do
    validateProjectionParent journal.operations projection operation.path
    let projection ← removeProjectionSubtree journal.operations journal.physicalRegularExtents
      projection operation.path true
    setProjectionDefinition journal.operations journal.physicalRegularExtents projection
      operation.path operationIndex effect

def applyLayerEntryPhase (projection : Projection) (semanticLayerIndex entryCount : ℕ) :
    Result Projection :=
  (List.range entryCount).foldlM (fun projection archiveEntryIndex => do
    let (operationIndex, operation) ←
      journal.operationAtSource semanticLayerIndex archiveEntryIndex
    journal.applyEntry projection operationIndex operation) projection

def projectLayer (projection : Projection) (semanticLayerIndex entryCount : ℕ) :
    Result Projection := do
  journal.validateLayerWhiteoutsAgainstLowerSnapshot projection semanticLayerIndex entryCount
  let projection ← journal.applyLayerWhiteoutPhase projection semanticLayerIndex entryCount
  let projection ← journal.applyLayerEntryPhase projection semanticLayerIndex entryCount
  validateLiveCounters projection.counters
  pure projection

def projectOperationJournal (layerEntryCounts : List ℕ) : Result Projection :=
  layerEntryCounts.zipIdx.foldlM (fun projection counted =>
    journal.projectLayer projection counted.2 counted.1) Projection.default

end Journal

end Eip0045.Rootfs
