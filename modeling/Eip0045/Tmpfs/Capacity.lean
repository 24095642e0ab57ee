import Mathlib
import Eip0045.Library.Checked

/-! The tmpfs request of a provider profile: the projection of each role's inventory, and the capacity that is
derived from the four projections. -/

namespace Eip0045.Tmpfs

open Checked

section Profile

def replayPlanCount : ℕ := 4
def mountRootInodes : UInt64 := 1
def roleRootInodes : UInt64 := 4
def tmpfsInternalReservePages : UInt64 := 1

inductive CapacityTermV2
  | entryCount
  | planContentBytes
  | roundedContentBytes
  | payloadPages
  | finalInodes
  | inodeLimit
  | reservePages
  | allocatedPages
  | sizeBytes
  | requiredMemoryBytes
  deriving DecidableEq

inductive ProfileFieldV2
  | pageSize
  | minimumHardwareMemoryBytes
  | cgroupMemoryCeilingBytes
  | maximumEntries
  | maximumContentBytesPerEntry
  deriving DecidableEq

inductive ReplayRoleV2
  | rustValidatorBuild
  | jvmValidatorBuild
  | rustVerifier
  | jvmVerifier
  deriving DecidableEq

/-- The roles in the only order that an aggregate may have. -/
def ReplayRoleV2.all : List ReplayRoleV2 :=
  [.rustValidatorBuild, .jvmValidatorBuild, .rustVerifier, .jvmVerifier]

def ReplayRoleV2.ordinal : ReplayRoleV2 → Fin replayPlanCount
  | .rustValidatorBuild => ⟨0, by decide⟩
  | .jvmValidatorBuild => ⟨1, by decide⟩
  | .rustVerifier => ⟨2, by decide⟩
  | .jvmVerifier => ⟨3, by decide⟩

inductive CapacityErrorV2
  | invalidProfileField (field : ProfileFieldV2)
  | planCount (actual expected : ℕ)
  | planRoleOrder (index : ℕ) (expected actual : ReplayRoleV2)
  | planProfileDrift (role : ReplayRoleV2)
  | planEntryLimitExceeded (role : ReplayRoleV2) (actual maximum : UInt64)
  | entryContentLimitExceeded (role : ReplayRoleV2) (entryIndex : ℕ) (actual maximum : UInt64)
  | planContentLimitExceeded (role : ReplayRoleV2) (actual maximum : UInt64)
  | aggregateEntryLimitExceeded (actual maximum : UInt64)
  | aggregateContentLimitExceeded (actual maximum : UInt64)
  | arithmeticOverflow (term : CapacityTermV2)
  | hardwareMemoryAdmission (required minimum : UInt64)
  | cgroupMemoryAdmission (required ceiling : UInt64)
  deriving DecidableEq

/-- The bounds of one role, which `try_new` lets through. -/
@[ext]
structure LogicalPlanBoundsV2 where
  entries : UInt64
  contentBytesPerEntry : UInt64
  contentBytes : UInt64
  entries_ne_zero : entries ≠ 0
  perEntry_le : contentBytesPerEntry ≤ contentBytes

instance instDecidableEqBounds : DecidableEq LogicalPlanBoundsV2 := fun a b =>
  decidable_of_iff (a.entries = b.entries ∧ a.contentBytesPerEntry = b.contentBytesPerEntry ∧
    a.contentBytes = b.contentBytes) LogicalPlanBoundsV2.ext_iff.symm

def LogicalPlanBoundsV2.tryNew (maximumEntries maximumContentBytesPerEntry maximumContentBytes : UInt64) :
    Except CapacityErrorV2 LogicalPlanBoundsV2 :=
  if hentries : maximumEntries = 0 then .error (.invalidProfileField .maximumEntries)
  else if hcontent : maximumContentBytesPerEntry ≤ maximumContentBytes then
    .ok ⟨maximumEntries, maximumContentBytesPerEntry, maximumContentBytes, hentries, hcontent⟩
  else .error (.invalidProfileField .maximumContentBytesPerEntry)

structure ProviderCapacityParametersV2 where
  pageSize : UInt64
  qualifiedPeakTransientInodes : UInt64
  qualifiedPeakTransientPages : UInt64
  minimumHardwareMemoryBytes : UInt64
  cgroupMemoryCeilingBytes : UInt64
  processReserveBytes : UInt64
  logicalPlanBounds : List.Vector LogicalPlanBoundsV2 replayPlanCount
  maximumAggregateEntries : UInt64
  maximumAggregateContentBytes : UInt64
  deriving DecidableEq

/-- The parameters that `try_new` lets through. -/
@[ext]
structure ProviderCapacityProfileV2 where
  parameters : ProviderCapacityParametersV2
  pageSize_ne_zero : parameters.pageSize ≠ 0
  hardware_ne_zero : parameters.minimumHardwareMemoryBytes ≠ 0
  cgroup_ne_zero : parameters.cgroupMemoryCeilingBytes ≠ 0

instance instDecidableEqProfile : DecidableEq ProviderCapacityProfileV2 := fun a b =>
  decidable_of_iff (a.parameters = b.parameters) ProviderCapacityProfileV2.ext_iff.symm

def ProviderCapacityProfileV2.tryNew (parameters : ProviderCapacityParametersV2) :
    Except CapacityErrorV2 ProviderCapacityProfileV2 :=
  if hpage : parameters.pageSize = 0 then .error (.invalidProfileField .pageSize)
  else if hhardware : parameters.minimumHardwareMemoryBytes = 0 then
    .error (.invalidProfileField .minimumHardwareMemoryBytes)
  else if hcgroup : parameters.cgroupMemoryCeilingBytes = 0 then
    .error (.invalidProfileField .cgroupMemoryCeilingBytes)
  else .ok ⟨parameters, hpage, hhardware, hcgroup⟩

def ProviderCapacityProfileV2.pageSize (profile : ProviderCapacityProfileV2) : UInt64 :=
  profile.parameters.pageSize

def ProviderCapacityProfileV2.logicalBounds (profile : ProviderCapacityProfileV2) (role : ReplayRoleV2) :
    LogicalPlanBoundsV2 :=
  profile.parameters.logicalPlanBounds.get role.ordinal

end Profile

section Arithmetic

def checkedAdd (left right : UInt64) (term : CapacityTermV2) : Except CapacityErrorV2 UInt64 :=
  if left.toNat + right.toNat < 2 ^ 64 then .ok (left + right) else .error (.arithmeticOverflow term)

def checkedMul (left right : UInt64) (term : CapacityTermV2) : Except CapacityErrorV2 UInt64 :=
  if left.toNat * right.toNat < 2 ^ 64 then .ok (left * right) else .error (.arithmeticOverflow term)

def checkedRoundUp (value multiple : UInt64) (term : CapacityTermV2) : Except CapacityErrorV2 UInt64 :=
  if multiple = 0 then .error (.invalidProfileField .pageSize)
  else
    let remainder := value % multiple
    if remainder = 0 then .ok value else checkedAdd value (multiple - remainder) term

end Arithmetic

section Projection

inductive ReplayEntryCapacityV2
  | directory
  | regularFile (contentLength : UInt64)
  | symbolicLink (contentLength : UInt64)
  deriving DecidableEq

def ReplayEntryCapacityV2.contentLength : ReplayEntryCapacityV2 → UInt64
  | .directory => 0
  | .regularFile contentLength => contentLength
  | .symbolicLink contentLength => contentLength

@[ext]
structure ReplayPlanCapacityV2 where
  profile : ProviderCapacityProfileV2
  role : ReplayRoleV2
  entryCount : UInt64
  contentBytes : UInt64
  payloadPages : UInt64
  deriving DecidableEq

/-- What the loop over the entries has summed up. -/
@[ext]
structure ProjectedContent where
  contentBytes : UInt64
  payloadPages : UInt64

def projectEntry (profile : ProviderCapacityProfileV2) (role : ReplayRoleV2) (projected : ProjectedContent)
    (entry : ReplayEntryCapacityV2 × ℕ) : Except CapacityErrorV2 ProjectedContent := do
  let bounds := profile.logicalBounds role
  let contentLength := entry.1.contentLength
  ensure (contentLength ≤ bounds.contentBytesPerEntry)
    (.entryContentLimitExceeded role entry.2 contentLength bounds.contentBytesPerEntry)
  let contentBytes ← checkedAdd projected.contentBytes contentLength .planContentBytes
  ensure (contentBytes ≤ bounds.contentBytes)
    (.planContentLimitExceeded role contentBytes bounds.contentBytes)
  let rounded ← checkedRoundUp contentLength profile.pageSize .roundedContentBytes
  let payloadPages ← checkedAdd projected.payloadPages (rounded / profile.pageSize) .payloadPages
  pure ⟨contentBytes, payloadPages⟩

/-- `u64::try_from` of a length. -/
def u64OfLength (length : ℕ) : Option UInt64 := if length < 2 ^ 64 then some (UInt64.ofNat length) else none

def ReplayPlanCapacityV2.tryFromEntries (profile : ProviderCapacityProfileV2) (role : ReplayRoleV2)
    (entries : List ReplayEntryCapacityV2) : Except CapacityErrorV2 ReplayPlanCapacityV2 := do
  let bounds := profile.logicalBounds role
  let entryCount ← context (.arithmeticOverflow .entryCount) (u64OfLength entries.length)
  ensure (entryCount ≤ bounds.entries) (.planEntryLimitExceeded role entryCount bounds.entries)
  let projected ← entries.zipIdx.foldlM (projectEntry profile role) ⟨0, 0⟩
  pure {
    profile, role, entryCount
    contentBytes := projected.contentBytes
    payloadPages := projected.payloadPages }

end Projection

section Derivation

@[ext]
structure CapacityTermsV2 where
  profile : ProviderCapacityProfileV2
  entryCount : UInt64
  finalInodes : UInt64
  inodeLimit : UInt64
  payloadPages : UInt64
  reservePages : UInt64
  sizeBytes : UInt64
  requiredMemoryBytes : UInt64
  deriving DecidableEq

/-- What the loop over the plans has summed up. -/
@[ext]
structure AggregateSums where
  entryCount : UInt64
  contentBytes : UInt64
  payloadPages : UInt64

/-- The body of the loop over the plans, each with the role that belongs to its index. -/
def aggregatePlan (profile : ProviderCapacityProfileV2) (sums : AggregateSums)
    (item : (ReplayPlanCapacityV2 × ReplayRoleV2) × ℕ) : Except CapacityErrorV2 AggregateSums := do
  let plan := item.1.1
  ensure (plan.role = item.1.2) (.planRoleOrder item.2 item.1.2 plan.role)
  ensure (plan.profile = profile) (.planProfileDrift plan.role)
  let bounds := profile.logicalBounds plan.role
  ensure (plan.entryCount ≤ bounds.entries)
    (.planEntryLimitExceeded plan.role plan.entryCount bounds.entries)
  ensure (plan.contentBytes ≤ bounds.contentBytes)
    (.planContentLimitExceeded plan.role plan.contentBytes bounds.contentBytes)
  let entryCount ← checkedAdd sums.entryCount plan.entryCount .entryCount
  let contentBytes ← checkedAdd sums.contentBytes plan.contentBytes .planContentBytes
  let payloadPages ← checkedAdd sums.payloadPages plan.payloadPages .payloadPages
  pure ⟨entryCount, contentBytes, payloadPages⟩

structure AggregateCapacityV2 where
  entryCount : UInt64
  payloadPages : UInt64

def aggregateReplayPlans (profile : ProviderCapacityProfileV2) (plans : List ReplayPlanCapacityV2) :
    Except CapacityErrorV2 AggregateCapacityV2 := do
  ensure (plans.length = replayPlanCount) (.planCount plans.length replayPlanCount)
  let sums ← (plans.zip ReplayRoleV2.all).zipIdx.foldlM (aggregatePlan profile) ⟨0, 0, 0⟩
  ensure (sums.entryCount ≤ profile.parameters.maximumAggregateEntries)
    (.aggregateEntryLimitExceeded sums.entryCount profile.parameters.maximumAggregateEntries)
  ensure (sums.contentBytes ≤ profile.parameters.maximumAggregateContentBytes)
    (.aggregateContentLimitExceeded sums.contentBytes profile.parameters.maximumAggregateContentBytes)
  pure ⟨sums.entryCount, sums.payloadPages⟩

def admitMemory (profile : ProviderCapacityProfileV2) (requiredMemoryBytes : UInt64) :
    Except CapacityErrorV2 Unit := do
  ensure (requiredMemoryBytes ≤ profile.parameters.minimumHardwareMemoryBytes)
    (.hardwareMemoryAdmission requiredMemoryBytes profile.parameters.minimumHardwareMemoryBytes)
  ensure (requiredMemoryBytes ≤ profile.parameters.cgroupMemoryCeilingBytes)
    (.cgroupMemoryAdmission requiredMemoryBytes profile.parameters.cgroupMemoryCeilingBytes)

def deriveCapacityTermsV2 (profile : ProviderCapacityProfileV2) (plans : List ReplayPlanCapacityV2) :
    Except CapacityErrorV2 CapacityTermsV2 := do
  let aggregate ← aggregateReplayPlans profile plans
  let permanentRoots ← checkedAdd mountRootInodes roleRootInodes .finalInodes
  let finalInodes ← checkedAdd permanentRoots aggregate.entryCount .finalInodes
  let inodeLimit ← checkedAdd finalInodes profile.parameters.qualifiedPeakTransientInodes .inodeLimit
  let usedPages ← checkedAdd finalInodes profile.parameters.qualifiedPeakTransientPages .reservePages
  let reservePages ← checkedAdd usedPages tmpfsInternalReservePages .reservePages
  let allocatedPages ← checkedAdd aggregate.payloadPages reservePages .allocatedPages
  let sizeBytes ← checkedMul allocatedPages profile.pageSize .sizeBytes
  let requiredMemoryBytes ← checkedAdd sizeBytes profile.parameters.processReserveBytes .requiredMemoryBytes
  admitMemory profile requiredMemoryBytes
  pure {
    profile, finalInodes, inodeLimit, reservePages, sizeBytes, requiredMemoryBytes
    entryCount := aggregate.entryCount
    payloadPages := aggregate.payloadPages }

end Derivation

section Requests

def tmpfsFilesystemTypeV2 : String := "tmpfs"
def tmpfsRootModeV2 : UInt16 := 0o700
def tmpfsInnerOwnerV2 : UInt32 := 0

inductive MountVfsFlagV2
  | readWrite
  | noSuid
  | noDev
  | noExec
  deriving DecidableEq

def fixedMountVfsFlags : List MountVfsFlagV2 := [.readWrite, .noSuid, .noDev, .noExec]

inductive MountDataOptionV2
  | sizeBytes (bytes : UInt64)
  | inodeLimit (inodes : UInt64)
  | mode (mode : UInt16)
  | uid (uid : UInt32)
  | gid (gid : UInt32)
  deriving DecidableEq

def fixedMountDataOptions (capacity : CapacityTermsV2) : List MountDataOptionV2 :=
  [.sizeBytes capacity.sizeBytes, .inodeLimit capacity.inodeLimit, .mode tmpfsRootModeV2,
    .uid tmpfsInnerOwnerV2, .gid tmpfsInnerOwnerV2]

inductive MountRequestErrorV2
  | capacity (error : CapacityErrorV2)
  | filesystemTypeDrift
  | vfsFlagsDrift
  | dataOptionsDrift
  | rootModeDrift
  | innerOwnerDrift
  | capacityDrift
  deriving DecidableEq

/-- `MountRequestErrorV2::from`. -/
def capacityResult {α : Type} : Except CapacityErrorV2 α → Except MountRequestErrorV2 α
  | .ok a => .ok a
  | .error error => .error (.capacity error)

@[ext]
structure MountRequestV2 where
  filesystemType : String
  vfsFlags : List MountVfsFlagV2
  dataOptions : List MountDataOptionV2
  rootMode : UInt16
  innerOwnerUid : UInt32
  innerOwnerGid : UInt32
  capacity : CapacityTermsV2
  planBindings : List.Vector ReplayPlanCapacityV2 replayPlanCount

def MountRequestV2.validateCanonical (request : MountRequestV2) : Except MountRequestErrorV2 Unit := do
  let capacity ← capacityResult
    (deriveCapacityTermsV2 request.capacity.profile request.planBindings.toList)
  ensure (request.capacity = capacity) .capacityDrift
  ensure (request.filesystemType = tmpfsFilesystemTypeV2) .filesystemTypeDrift
  ensure (request.vfsFlags = fixedMountVfsFlags) .vfsFlagsDrift
  ensure (request.rootMode = tmpfsRootModeV2) .rootModeDrift
  ensure (request.innerOwnerUid = tmpfsInnerOwnerV2 ∧ request.innerOwnerGid = tmpfsInnerOwnerV2)
    .innerOwnerDrift
  ensure (request.dataOptions = fixedMountDataOptions capacity) .dataOptionsDrift

def planBindingsOf (plans : List ReplayPlanCapacityV2) :
    Option (List.Vector ReplayPlanCapacityV2 replayPlanCount) :=
  if h : plans.length = replayPlanCount then some ⟨plans, h⟩ else none

def MountRequestV2.tryFromReplayPlans (profile : ProviderCapacityProfileV2)
    (plans : List ReplayPlanCapacityV2) : Except MountRequestErrorV2 MountRequestV2 := do
  let capacity ← capacityResult (deriveCapacityTermsV2 profile plans)
  let planBindings ← context (.capacity (.planCount plans.length replayPlanCount)) (planBindingsOf plans)
  let request : MountRequestV2 := {
    filesystemType := tmpfsFilesystemTypeV2
    vfsFlags := fixedMountVfsFlags
    dataOptions := fixedMountDataOptions capacity
    rootMode := tmpfsRootModeV2
    innerOwnerUid := tmpfsInnerOwnerV2
    innerOwnerGid := tmpfsInnerOwnerV2
    capacity, planBindings }
  request.validateCanonical
  pure request

end Requests

end Eip0045.Tmpfs
