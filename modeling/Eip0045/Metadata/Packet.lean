import Eip0045.Library.Bytes
import Eip0045.Library.Checked
import Eip0045.Rootfs.Candidate

/-! The retained-rootfs metadata packet and its structural validator. -/

namespace Eip0045.Metadata

open Checked
open Rootfs (PositiveRunnerRole)

def statxAttrImmutable : ℕ := 0x10

def statxAttrAppend : ℕ := 0x20

structure WordSize where
  holds : ℕ → Bool

namespace WordSize

def unbounded : WordSize := ⟨fun _ => true⟩

def bits64 : WordSize := ⟨fun n => n < 2 ^ 64⟩

variable (W : WordSize)

def checked (n : ℕ) : Option ℕ := if W.holds n then some n else none

def checkedAdd (a b : ℕ) : Option ℕ := W.checked (a + b)

def checkedMul (a b : ℕ) : Option ℕ := W.checked (a * b)

variable {W}

lemma checked_eq_some {n m : ℕ} : W.checked n = some m ↔ W.holds n ∧ n = m := by
  simp [checked]

end WordSize

def canonicalRoles : List PositiveRunnerRole :=
  [.rustValidatorBuild, .jvmValidatorBuild, .rustVerifier, .jvmVerifier]

inductive ProhibitedMetadataClass
  | xattrNameSet
  | posixAccessAcl
  | posixDefaultAcl
  | linuxFileCapability
  | immutable
  | appendOnly
  | encrypted
  | verity
  | casefold
  | nonzeroProjectId
  | projectInherit
  deriving DecidableEq

namespace ProhibitedMetadataClass

def observedStatxBit : ProhibitedMetadataClass → Option ℕ
  | immutable => some statxAttrImmutable
  | appendOnly => some statxAttrAppend
  | xattrNameSet | posixAccessAcl | posixDefaultAcl | linuxFileCapability | encrypted | verity
  | casefold | nonzeroProjectId | projectInherit => none

end ProhibitedMetadataClass

def prohibitedMetadataClasses : List ProhibitedMetadataClass :=
  [.xattrNameSet, .posixAccessAcl, .posixDefaultAcl, .linuxFileCapability, .immutable, .appendOnly,
    .encrypted, .verity, .casefold, .nonzeroProjectId, .projectInherit]

inductive MetadataSubjectKind
  | mountRoot
  | roleRoot
  | retainedDirectory
  | retainedRegularFile
  | retainedSymbolicLink
  deriving DecidableEq

def metadataSubjectKinds : List MetadataSubjectKind :=
  [.mountRoot, .roleRoot, .retainedDirectory, .retainedRegularFile, .retainedSymbolicLink]

inductive ExpectedMetadataMode
  | observedAbsentComplete
  | structurallyUnrepresentable
  deriving DecidableEq

structure ExpectedModeCell where
  «class» : ProhibitedMetadataClass
  kind : MetadataSubjectKind
  mode : ExpectedMetadataMode
  deriving DecidableEq

def expectedMetadataMode : ProhibitedMetadataClass → MetadataSubjectKind → ExpectedMetadataMode
  | .immutable, _ | .appendOnly, _ => .observedAbsentComplete
  | .xattrNameSet, _ | .posixAccessAcl, _ | .posixDefaultAcl, _ | .linuxFileCapability, _
  | .encrypted, _ | .verity, _ | .casefold, _ | .nonzeroProjectId, _ | .projectInherit, _ =>
    .structurallyUnrepresentable

/-- The table in class-major, kind-minor order. -/
def expectedModeTable : List ExpectedModeCell :=
  prohibitedMetadataClasses.flatMap fun «class» =>
    metadataSubjectKinds.map fun kind => ⟨«class», kind, expectedMetadataMode «class» kind⟩

section Records

structure MetadataProfileIdentity where
  expectedModeTableSha256 : Digest
  profileIdentitySha256 : Digest
  deriving DecidableEq

structure DescriptorIdentity where
  mountIdUnique : ℕ
  deviceMajor : ℕ
  deviceMinor : ℕ
  inode : ℕ
  deriving DecidableEq

structure MetadataSubjectIdentity where
  kind : MetadataSubjectKind
  role : Option PositiveRunnerRole
  entryIndex : Option ℕ
  descriptor : DescriptorIdentity
  mountEpoch : Digest
  deriving DecidableEq

structure MountRootSeed where
  inodeFlags : ℕ
  shmemFsflags : ℕ
  deriving DecidableEq

structure DynamicSubjectCounts where
  retainedDirectories : ℕ
  retainedRegularFiles : ℕ
  retainedSymbolicLinks : ℕ
  deriving DecidableEq

structure MetadataCellRecord where
  profileIdentitySha256 : Digest
  expectedModeTableSha256 : Digest
  subject : MetadataSubjectIdentity
  «class» : ProhibitedMetadataClass
  mode : ExpectedMetadataMode
  attributeMask : Option ℕ
  attributes : Option ℕ
  deriving DecidableEq

structure RetainedRootfsMetadataPacket where
  profile : MetadataProfileIdentity
  rootSeed : Option MountRootSeed
  claimedCounts : DynamicSubjectCounts
  subjects : List MetadataSubjectIdentity
  cells : List MetadataCellRecord

inductive MetadataModelError
  | mountRootSeedMissing
  | mountRootSeedNonzero
  | mountRootSubjectMissing
  | subjectShape (ordinal : ℕ)
  | subjectIdentity (ordinal : ℕ)
  | subjectMountBinding (ordinal : ℕ)
  | subjectAlias (ordinal : ℕ)
  | subjectOrder (ordinal : ℕ)
  | dynamicSubjectCount
  | cardinalityOverflow
  | cellCardinality
  | cellSubjectBinding (ordinal : ℕ)
  | cellClassOrder (ordinal : ℕ)
  | cellMode (ordinal : ℕ)
  | cellTableBinding (ordinal : ℕ)
  | cellProfileBinding (ordinal : ℕ)
  | observedMaskMissing (ordinal : ℕ)
  | observedMaskUnknown (ordinal : ℕ)
  | observedAttributePresent (ordinal : ℕ)
  | structuralObservationPresent (ordinal : ℕ)
  deriving DecidableEq

abbrev Checks (α : Type) := Except MetadataModelError α

end Records

section Subjects

def validateRootSeed (seed : Option MountRootSeed) : Checks Unit := do
  let seed ← context .mountRootSeedMissing seed
  ensure (¬(seed.inodeFlags ≠ 0 ∨ seed.shmemFsflags ≠ 0)) .mountRootSeedNonzero

def validSubjectShape (subject : MetadataSubjectIdentity) : Bool :=
  match subject.kind with
  | .mountRoot => subject.role.isNone && subject.entryIndex.isNone
  | .roleRoot => subject.role.isSome && subject.entryIndex.isNone
  | .retainedDirectory | .retainedRegularFile | .retainedSymbolicLink =>
    subject.role.isSome && subject.entryIndex.isSome

def validateSubjectShape (subject : MetadataSubjectIdentity) (ordinal : ℕ) : Checks Unit :=
  ensure (validSubjectShape subject) (.subjectShape ordinal)

/-- The loop over the enumerated subjects, with the descriptors inserted so far. -/
def validateIdentities (mountRoot : MetadataSubjectIdentity) :
    List MetadataSubjectIdentity → ℕ → List DescriptorIdentity → Checks Unit
  | [], _, _ => pure ()
  | subject :: rest, ordinal, identities => do
    validateSubjectShape subject ordinal
    ensure (¬(subject.descriptor.mountIdUnique = 0 ∨ subject.descriptor.inode = 0 ∨
      subject.mountEpoch = ByteArr.zero 32)) (.subjectIdentity ordinal)
    ensure (¬(subject.descriptor.mountIdUnique ≠ mountRoot.descriptor.mountIdUnique ∨
      subject.descriptor.deviceMajor ≠ mountRoot.descriptor.deviceMajor ∨
      subject.descriptor.deviceMinor ≠ mountRoot.descriptor.deviceMinor ∨
      subject.mountEpoch ≠ mountRoot.mountEpoch)) (.subjectMountBinding ordinal)
    ensure (subject.descriptor ∉ identities) (.subjectAlias ordinal)
    validateIdentities mountRoot rest (ordinal + 1) (subject.descriptor :: identities)

variable (W : WordSize) (subjects : List MetadataSubjectIdentity)

def requireSubject (ordinal : ℕ) (kind : MetadataSubjectKind) (role : PositiveRunnerRole)
    (entryIndex : Option ℕ) : Checks Unit := do
  let subject ← context (.subjectOrder ordinal) subjects[ordinal]?
  ensure (¬(subject.kind ≠ kind ∨ subject.role ≠ some role ∨ subject.entryIndex ≠ entryIndex))
    (.subjectOrder ordinal)

/-- The loop from a cursor, an aggregate count and the next entry index; the cursor and the
count that it leaves. -/
def consumeEntries (role : PositiveRunnerRole) (kind : MetadataSubjectKind)
    (cursor aggregateCount entryIndex : ℕ) : Checks (ℕ × ℕ) :=
  if h : cursor < subjects.length then
    if subjects[cursor].kind ≠ kind ∨ subjects[cursor].role ≠ some role then
      pure (cursor, aggregateCount)
    else do
      ensure (subjects[cursor].entryIndex = some entryIndex) (.subjectOrder cursor)
      let aggregateCount ← context .cardinalityOverflow (W.checkedAdd aggregateCount 1)
      let entryIndex ← context .cardinalityOverflow (W.checkedAdd entryIndex 1)
      let _ ← context .cardinalityOverflow (W.checkedAdd cursor 1)
      consumeEntries role kind (cursor + 1) aggregateCount entryIndex
  else pure (cursor, aggregateCount)
termination_by subjects.length - cursor

def consumeDynamicKind (cursor : ℕ) (role : PositiveRunnerRole) (kind : MetadataSubjectKind)
    (aggregateCount : ℕ) : Checks (ℕ × ℕ) :=
  consumeEntries W subjects role kind cursor aggregateCount 0

def consumeRole (position : ℕ × DynamicSubjectCounts) (role : PositiveRunnerRole) :
    Checks (ℕ × DynamicSubjectCounts) := do
  let (cursor, counts) := position
  requireSubject subjects cursor .roleRoot role none
  let cursor := cursor + 1
  let (cursor, retainedDirectories) ←
    consumeDynamicKind W subjects cursor role .retainedDirectory counts.retainedDirectories
  let (cursor, retainedRegularFiles) ←
    consumeDynamicKind W subjects cursor role .retainedRegularFile counts.retainedRegularFiles
  let (cursor, retainedSymbolicLinks) ←
    consumeDynamicKind W subjects cursor role .retainedSymbolicLink counts.retainedSymbolicLinks
  pure (cursor, ⟨retainedDirectories, retainedRegularFiles, retainedSymbolicLinks⟩)

def validateSubjects : Checks DynamicSubjectCounts := do
  let mountRoot ← context .mountRootSubjectMissing subjects.head?
  ensure (mountRoot.kind = .mountRoot) .mountRootSubjectMissing
  validateIdentities mountRoot subjects 0 []
  let (cursor, counts) ← canonicalRoles.foldlM (consumeRole W subjects) (1, ⟨0, 0, 0⟩)
  ensure (cursor = subjects.length) (.subjectOrder cursor)
  pure counts

end Subjects

section Cells

variable (W : WordSize) (packet : RetainedRootfsMetadataPacket)

def expectedPhysicalCellCount (counts : DynamicSubjectCounts) : Checks ℕ := do
  let dynamic ← context .cardinalityOverflow
    ((W.checkedAdd counts.retainedDirectories counts.retainedRegularFiles).bind
      fun value => W.checkedAdd value counts.retainedSymbolicLinks)
  let subjects ← context .cardinalityOverflow
    ((W.checkedAdd 1 canonicalRoles.length).bind fun value => W.checkedAdd value dynamic)
  context .cardinalityOverflow (W.checkedMul subjects prohibitedMetadataClasses.length)

def validateObservation (cell : MetadataCellRecord) («class» : ProhibitedMetadataClass)
    (ordinal : ℕ) : ExpectedMetadataMode → Checks Unit
  | .observedAbsentComplete => do
    let mask ← context (.observedMaskMissing ordinal) cell.attributeMask
    let attributes ← context (.observedMaskMissing ordinal) cell.attributes
    let bit ← context (.observedMaskUnknown ordinal) «class».observedStatxBit
    ensure (mask &&& bit = bit) (.observedMaskUnknown ordinal)
    ensure (attributes &&& bit = 0) (.observedAttributePresent ordinal)
  | .structurallyUnrepresentable =>
    ensure (¬(cell.attributeMask.isSome ∨ cell.attributes.isSome))
      (.structuralObservationPresent ordinal)

def validateCell (cell : MetadataCellRecord) (subject : MetadataSubjectIdentity)
    («class» : ProhibitedMetadataClass) (ordinal : ℕ) : Checks Unit := do
  ensure (cell.subject = subject) (.cellSubjectBinding ordinal)
  ensure (cell.class = «class») (.cellClassOrder ordinal)
  ensure (cell.expectedModeTableSha256 = packet.profile.expectedModeTableSha256)
    (.cellTableBinding ordinal)
  ensure (cell.profileIdentitySha256 = packet.profile.profileIdentitySha256)
    (.cellProfileBinding ordinal)
  let expectedMode := expectedMetadataMode «class» subject.kind
  ensure (cell.mode = expectedMode) (.cellMode ordinal)
  validateObservation cell «class» ordinal expectedMode

/-- One turn of the inner loop, which indexes the cells by position. -/
def validateCellAt (subject : MetadataSubjectIdentity) (subjectOrdinal : ℕ)
    («class» : ProhibitedMetadataClass) (classOrdinal : ℕ) :
    Except (Fault MetadataModelError) Unit := do
  let ordinal ← report (context .cardinalityOverflow
    ((W.checkedMul subjectOrdinal prohibitedMetadataClasses.length).bind
      fun value => W.checkedAdd value classOrdinal))
  let cell ← item packet.cells ordinal
  report (validateCell packet cell subject «class» ordinal)

def validateCells : Except (Fault MetadataModelError) Unit :=
  packet.subjects.zipIdx.forM fun (subject, subjectOrdinal) =>
    prohibitedMetadataClasses.zipIdx.forM fun («class», classOrdinal) =>
      validateCellAt W packet subject subjectOrdinal «class» classOrdinal

def validateRetainedRootfsMetadataPacket : Except (Fault MetadataModelError) Unit := do
  report (validateRootSeed packet.rootSeed)
  let counts ← report (validateSubjects W packet.subjects)
  ensure (counts = packet.claimedCounts) (.reported .dynamicSubjectCount)
  let claimedCells ← report (expectedPhysicalCellCount W packet.claimedCounts)
  let inventoryCells ← report (context .cardinalityOverflow
    (W.checkedMul packet.subjects.length prohibitedMetadataClasses.length))
  ensure (claimedCells = inventoryCells ∧ packet.cells.length = inventoryCells)
    (.reported .cellCardinality)
  validateCells W packet

end Cells

end Eip0045.Metadata
