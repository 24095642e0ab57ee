import Eip0045.Tmpfs.Derivation

/-! The mount request: which inventories it is derived from, and what it reports. -/

namespace Eip0045.Tmpfs

open Checked

section Unbounded

variable (profile : ProviderCapacityProfileV2) (inventories : ReplayRoleV2 → List ReplayEntryCapacityV2)

/-- The mount root, the four role roots and the entries. -/
def exactFinalInodes : ℕ := 5 + (retained inventories).length

def exactInodeLimit : ℕ :=
  exactFinalInodes inventories + profile.parameters.qualifiedPeakTransientInodes.toNat

def exactUsedPages : ℕ :=
  exactFinalInodes inventories + profile.parameters.qualifiedPeakTransientPages.toNat

def exactReservePages : ℕ := exactUsedPages profile inventories + 1

def exactAllocatedPages : ℕ :=
  pageTotal profile (retained inventories) + exactReservePages profile inventories

def exactSizeBytes : ℕ :=
  profile.pageSize.toNat * (pageTotal profile (retained inventories) + (5 + (retained inventories).length) +
    profile.parameters.qualifiedPeakTransientPages.toNat + 1)

def exactRequiredMemoryBytes : ℕ :=
  exactSizeBytes profile inventories + profile.parameters.processReserveBytes.toNat

def roleTerms (inventory : List ReplayEntryCapacityV2) : List ℕ :=
  [inventory.length, contentTotal inventory, pageTotal profile inventory] ++
    inventory.map fun entry => pagesOf profile entry * profile.pageSize.toNat

def intermediateTerms : List ℕ :=
  (ReplayRoleV2.all.flatMap fun role => roleTerms profile (inventories role)) ++
    [(retained inventories).length, contentTotal (retained inventories), pageTotal profile (retained inventories),
      exactFinalInodes inventories, exactInodeLimit profile inventories, exactUsedPages profile inventories,
      exactReservePages profile inventories, exactAllocatedPages profile inventories,
      exactSizeBytes profile inventories, exactRequiredMemoryBytes profile inventories]

/-- The logical bounds of the roles and of the aggregate. -/
structure Bounded : Prop where
  roles : ∀ role, RoleBounded profile role (inventories role)
  entries : (retained inventories).length ≤ profile.parameters.maximumAggregateEntries.toNat
  content : contentTotal (retained inventories) ≤ profile.parameters.maximumAggregateContentBytes.toNat

structure MemoryAdmitted : Prop where
  hardware : exactRequiredMemoryBytes profile inventories ≤
    profile.parameters.minimumHardwareMemoryBytes.toNat
  cgroup : exactRequiredMemoryBytes profile inventories ≤ profile.parameters.cgroupMemoryCeilingBytes.toNat

/-- Derived terms that are the unbounded ones. -/
structure Exact (capacity : CapacityTermsV2) : Prop where
  sameProfile : capacity.profile = profile
  entryCount : capacity.entryCount.toNat = (retained inventories).length
  finalInodes : capacity.finalInodes.toNat = exactFinalInodes inventories
  inodeLimit : capacity.inodeLimit.toNat = exactInodeLimit profile inventories
  payloadPages : capacity.payloadPages.toNat = pageTotal profile (retained inventories)
  reservePages : capacity.reservePages.toNat = exactReservePages profile inventories
  sizeBytes : capacity.sizeBytes.toNat = exactSizeBytes profile inventories
  requiredMemoryBytes : capacity.requiredMemoryBytes.toNat = exactRequiredMemoryBytes profile inventories

end Unbounded

section Derived

variable {profile : ProviderCapacityProfileV2} {inventories : ReplayRoleV2 → List ReplayEntryCapacityV2}
  {plans : List ReplayPlanCapacityV2} {capacity : CapacityTermsV2}

lemma admitMemory_ok {required : UInt64} : admitMemory profile required = .ok () ↔
    required.toNat ≤ profile.parameters.minimumHardwareMemoryBytes.toNat ∧
      required.toNat ≤ profile.parameters.cgroupMemoryCeilingBytes.toNat := by
  simp only [admitMemory, bind_ok, exists_unit, ensure_ok, UInt64.le_iff_toNat_le]

lemma exactSizeBytes_eq : exactSizeBytes profile inventories =
    exactAllocatedPages profile inventories * profile.pageSize.toNat := by
  rw [exactSizeBytes, Nat.mul_comm, exactAllocatedPages, exactReservePages, exactUsedPages, exactFinalInodes]
  ring

lemma exactAllocatedPages_le : exactAllocatedPages profile inventories ≤ exactSizeBytes profile inventories := by
  rw [exactSizeBytes_eq]
  exact Nat.le_mul_of_pos_right _ (pageSize_pos profile)

lemma deriveCapacityTermsV2_ok (h : Projected profile inventories ReplayRoleV2.all plans)
    (hroles : ∀ role, RoleBounded profile role (inventories role)) :
    deriveCapacityTermsV2 profile plans = .ok capacity ↔
      Bounded profile inventories ∧ MemoryAdmitted profile inventories ∧ Exact profile inventories capacity := by
  have hmount : mountRootInodes.toNat = 1 := rfl
  have hrole : roleRootInodes.toNat = 4 := rfl
  have hinternal : tmpfsInternalReservePages.toNat = 1 := rfl
  simp only [deriveCapacityTermsV2, bind_ok, exists_unit, aggregateReplayPlans_ok h hroles, checkedAdd_ok,
    checkedMul_ok, admitMemory_ok, pure_ok, hmount, hrole, hinternal]
  constructor
  · rintro ⟨aggregate, ⟨⟨hentriesBound, hcontentBound⟩, hentries, hpages⟩, roots, hroots, final, hfinal, inodes,
      hinodes, used, hused, reserve, hreserve, allocated, hallocated, size, hsize, required, hrequired,
      ⟨hhardware, hcgroup⟩, rfl⟩
    have hfinal' : final.toNat = exactFinalInodes inventories := by
      rw [hfinal, hroots, hentries, exactFinalInodes]
    have hreserve' : reserve.toNat = exactReservePages profile inventories := by
      rw [hreserve, hused, hfinal', exactReservePages, exactUsedPages]
    have hsize' : size.toNat = exactSizeBytes profile inventories := by
      rw [hsize, hallocated, hpages, hreserve', exactSizeBytes_eq, exactAllocatedPages]
    have hrequired' : required.toNat = exactRequiredMemoryBytes profile inventories := by
      rw [hrequired, hsize', exactRequiredMemoryBytes]
    exact ⟨⟨hroles, hentriesBound, hcontentBound⟩, ⟨hrequired' ▸ hhardware, hrequired' ▸ hcgroup⟩,
      ⟨rfl, hentries, hfinal', by rw [hinodes, hfinal', exactInodeLimit], hpages, hreserve', hsize', hrequired'⟩⟩
  · rintro ⟨hbounded, hadmitted, hexact⟩
    obtain ⟨allocated, hallocated⟩ : ∃ v : UInt64, v.toNat = exactAllocatedPages profile inventories :=
      exists_toNat ((exactAllocatedPages_le.trans_eq hexact.sizeBytes.symm).trans_lt (UInt64.toNat_lt _))
    obtain ⟨used, hused⟩ : ∃ v : UInt64, v.toNat = exactUsedPages profile inventories := by
      apply exists_toNat
      have hlt := capacity.reservePages.toNat_lt
      rw [hexact.reservePages, exactReservePages] at hlt
      omega
    refine ⟨⟨capacity.entryCount, capacity.payloadPages⟩,
      ⟨⟨hbounded.entries, hbounded.content⟩, hexact.entryCount, hexact.payloadPages⟩, 5, rfl,
      capacity.finalInodes, ?_, capacity.inodeLimit, ?_, used, ?_, capacity.reservePages, ?_, allocated, ?_,
      capacity.sizeBytes, ?_, capacity.requiredMemoryBytes, ?_, ?_, ?_⟩
    · rw [hexact.finalInodes, hexact.entryCount]
      rfl
    · rw [hexact.inodeLimit, hexact.finalInodes, exactInodeLimit]
    · rw [hused, hexact.finalInodes, exactUsedPages]
    · rw [hexact.reservePages, hused, exactReservePages]
    · rw [hallocated, hexact.payloadPages, hexact.reservePages, exactAllocatedPages]
    · rw [hexact.sizeBytes, hallocated, exactSizeBytes_eq, ProviderCapacityProfileV2.pageSize]
    · rw [hexact.requiredMemoryBytes, hexact.sizeBytes, exactRequiredMemoryBytes]
    · rw [hexact.requiredMemoryBytes]
      exact ⟨hadmitted.hardware, hadmitted.cgroup⟩
    · rw [← hexact.sameProfile]

lemma exists_exact : (∃ capacity, Exact profile inventories capacity) ↔
    (retained inventories).length < 2 ^ 64 ∧ exactFinalInodes inventories < 2 ^ 64 ∧
    exactInodeLimit profile inventories < 2 ^ 64 ∧ pageTotal profile (retained inventories) < 2 ^ 64 ∧
    exactReservePages profile inventories < 2 ^ 64 ∧ exactSizeBytes profile inventories < 2 ^ 64 ∧
    exactRequiredMemoryBytes profile inventories < 2 ^ 64 := by
  constructor
  · rintro ⟨capacity, hexact⟩
    exact ⟨hexact.entryCount ▸ UInt64.toNat_lt _, hexact.finalInodes ▸ UInt64.toNat_lt _,
      hexact.inodeLimit ▸ UInt64.toNat_lt _, hexact.payloadPages ▸ UInt64.toNat_lt _,
      hexact.reservePages ▸ UInt64.toNat_lt _, hexact.sizeBytes ▸ UInt64.toNat_lt _,
      hexact.requiredMemoryBytes ▸ UInt64.toNat_lt _⟩
  · rintro ⟨hentries, hfinal, hinodes, hpages, hreserve, hsize, hrequired⟩
    obtain ⟨entries, hentries⟩ := exists_toNat hentries
    obtain ⟨final, hfinal⟩ := exists_toNat hfinal
    obtain ⟨inodes, hinodes⟩ := exists_toNat hinodes
    obtain ⟨pages, hpages⟩ := exists_toNat hpages
    obtain ⟨reserve, hreserve⟩ := exists_toNat hreserve
    obtain ⟨size, hsize⟩ := exists_toNat hsize
    obtain ⟨required, hrequired⟩ := exists_toNat hrequired
    exact ⟨⟨profile, entries, final, inodes, pages, reserve, size, required⟩,
      ⟨rfl, hentries, hfinal, hinodes, hpages, hreserve, hsize, hrequired⟩⟩

end Derived

section Requests

variable {profile : ProviderCapacityProfileV2} {inventories : ReplayRoleV2 → List ReplayEntryCapacityV2}
  {plans : List ReplayPlanCapacityV2} {request : MountRequestV2}

lemma capacityResult_ok {α : Type} {x : Except CapacityErrorV2 α} {a : α} :
    capacityResult x = .ok a ↔ x = .ok a := by
  cases x <;> simp [capacityResult]

lemma planBindingsOf_eq_some {bindings : List.Vector ReplayPlanCapacityV2 replayPlanCount} :
    planBindingsOf plans = some bindings ↔ plans = bindings.toList := by
  rw [planBindingsOf]
  split
  case isTrue h =>
    constructor
    · intro heq
      cases heq
      rfl
    · rintro rfl
      rfl
  case isFalse h =>
    constructor
    · exact fun heq => (by cases heq)
    · rintro rfl
      exact absurd bindings.toList_length h

/-- A request that holds the fixed options for its capacity. -/
structure MountRequestV2.Fixed (request : MountRequestV2) : Prop where
  filesystemType : request.filesystemType = tmpfsFilesystemTypeV2
  vfsFlags : request.vfsFlags = fixedMountVfsFlags
  dataOptions : request.dataOptions = fixedMountDataOptions request.capacity
  rootMode : request.rootMode = tmpfsRootModeV2
  innerOwnerUid : request.innerOwnerUid = tmpfsInnerOwnerV2
  innerOwnerGid : request.innerOwnerGid = tmpfsInnerOwnerV2

lemma validateCanonical_ok : request.validateCanonical = .ok () ↔
    deriveCapacityTermsV2 request.capacity.profile request.planBindings.toList = .ok request.capacity ∧
      request.Fixed := by
  simp only [MountRequestV2.validateCanonical, bind_ok, exists_unit, ensure_ok, capacityResult_ok]
  constructor
  · rintro ⟨capacity, hderived, rfl, htype, hflags, hmode, ⟨huid, hgid⟩, hoptions⟩
    exact ⟨hderived, ⟨htype, hflags, hoptions, hmode, huid, hgid⟩⟩
  · rintro ⟨hderived, hfixed⟩
    exact ⟨request.capacity, hderived, rfl, hfixed.filesystemType, hfixed.vfsFlags, hfixed.rootMode,
      ⟨hfixed.innerOwnerUid, hfixed.innerOwnerGid⟩, hfixed.dataOptions⟩

lemma deriveCapacityTermsV2_profile {capacity : CapacityTermsV2}
    (h : deriveCapacityTermsV2 profile plans = .ok capacity) : capacity.profile = profile := by
  simp only [deriveCapacityTermsV2, bind_ok, exists_unit, pure_ok] at h
  obtain ⟨_, _, _, _, _, _, _, _, _, _, _, _, _, _, _, _, _, _, _, rfl⟩ := h
  rfl

lemma tryFromReplayPlans_ok : MountRequestV2.tryFromReplayPlans profile plans = .ok request ↔
    deriveCapacityTermsV2 profile plans = .ok request.capacity ∧ plans = request.planBindings.toList ∧
      request.Fixed := by
  simp only [MountRequestV2.tryFromReplayPlans, bind_ok, exists_unit, context_ok, capacityResult_ok,
    planBindingsOf_eq_some, validateCanonical_ok, pure_ok]
  constructor
  · rintro ⟨capacity, hderived, bindings, hbindings, ⟨-, hfixed⟩, rfl⟩
    exact ⟨hderived, hbindings, hfixed⟩
  · rintro ⟨hderived, hbindings, hfixed⟩
    have hvalid : deriveCapacityTermsV2 request.capacity.profile request.planBindings.toList =
        .ok request.capacity := by
      rw [deriveCapacityTermsV2_profile hderived, ← hbindings]
      exact hderived
    exact ⟨request.capacity, hderived, request.planBindings, hbindings, ⟨hvalid, ⟨rfl, rfl, rfl, rfl, rfl, rfl⟩⟩,
      MountRequestV2.ext hfixed.filesystemType.symm hfixed.vfsFlags.symm hfixed.dataOptions.symm
        hfixed.rootMode.symm hfixed.innerOwnerUid.symm hfixed.innerOwnerGid.symm rfl rfl⟩

end Requests

section Exactness

variable {profile : ProviderCapacityProfileV2} {inventories : ReplayRoleV2 → List ReplayEntryCapacityV2}
  {plans : List ReplayPlanCapacityV2}

lemma ReplayRoleV2.mem_all (role : ReplayRoleV2) : role ∈ ReplayRoleV2.all := by
  cases role <;> simp [ReplayRoleV2.all]

/-- What the projection of one inventory needs. -/
structure RoleAdmitted (profile : ProviderCapacityProfileV2) (role : ReplayRoleV2)
    (inventory : List ReplayEntryCapacityV2) : Prop where
  bounded : RoleBounded profile role inventory
  rounded : ∀ entry ∈ inventory, pagesOf profile entry * profile.pageSize.toNat < 2 ^ 64
  pages : pageTotal profile inventory < 2 ^ 64

lemma mapM_projected : (ReplayRoleV2.all.mapM fun role =>
      ReplayPlanCapacityV2.tryFromEntries profile role (inventories role)) = .ok plans ↔
    (∀ role, RoleAdmitted profile role (inventories role)) ∧
      Projected profile inventories ReplayRoleV2.all plans := by
  simp only [mapM_forall₂, tryFromEntries_ok, List.forall₂_and_left, Projected]
  constructor
  · rintro ⟨hroles, hplans⟩
    refine ⟨fun role => ?_, hplans⟩
    obtain ⟨hbounded, hrounded, hpages⟩ := hroles role role.mem_all
    exact ⟨hbounded, hrounded, hpages⟩
  · rintro ⟨hroles, hplans⟩
    exact ⟨fun role _ => ⟨(hroles role).bounded, (hroles role).rounded, (hroles role).pages⟩, hplans⟩

lemma exists_projected (h : ∀ role, RoleAdmitted profile role (inventories role)) :
    ∃ plans, Projected profile inventories ReplayRoleV2.all plans := by
  have hplan : ∀ role, ∃ plan, Projects profile role (inventories role) plan := by
    intro role
    have hbounded := (h role).bounded
    obtain ⟨count, hcount⟩ := exists_toNat (hbounded.entries.trans_lt (UInt64.toNat_lt _))
    obtain ⟨content, hcontent⟩ := exists_toNat (hbounded.content.trans_lt (UInt64.toNat_lt _))
    obtain ⟨pages, hpages⟩ := exists_toNat (h role).pages
    exact ⟨⟨profile, role, count, content, pages⟩, ⟨rfl, rfl, hcount, hcontent, hpages⟩⟩
  choose plan hplan using hplan
  exact ⟨ReplayRoleV2.all.map plan, List.forall₂_map_right_iff.mpr (List.forall₂_same.mpr fun role _ => hplan role)⟩

lemma request_ok {request : MountRequestV2} (h : Projected profile inventories ReplayRoleV2.all plans)
    (hroles : ∀ role, RoleAdmitted profile role (inventories role)) :
    MountRequestV2.tryFromReplayPlans profile plans = .ok request ↔
      (Bounded profile inventories ∧ MemoryAdmitted profile inventories ∧
        Exact profile inventories request.capacity) ∧ plans = request.planBindings.toList ∧ request.Fixed := by
  rw [tryFromReplayPlans_ok, deriveCapacityTermsV2_ok h fun role => (hroles role).bounded]

lemma exists_request (capacity : CapacityTermsV2) (h : Projected profile inventories ReplayRoleV2.all plans) :
    ∃ request : MountRequestV2, request.capacity = capacity ∧ plans = request.planBindings.toList ∧
      request.Fixed :=
  ⟨⟨tmpfsFilesystemTypeV2, fixedMountVfsFlags, fixedMountDataOptions capacity, tmpfsRootModeV2,
      tmpfsInnerOwnerV2, tmpfsInnerOwnerV2, capacity, ⟨plans, h.length_eq.symm⟩⟩, rfl, rfl,
    ⟨rfl, rfl, rfl, rfl, rfl, rfl⟩⟩

lemma terms_fit_iff : (∀ term ∈ intermediateTerms profile inventories, term < 2 ^ 64) ↔
    (∀ role, ((inventories role).length < 2 ^ 64 ∧ contentTotal (inventories role) < 2 ^ 64 ∧
      pageTotal profile (inventories role) < 2 ^ 64) ∧
      ∀ entry ∈ inventories role, pagesOf profile entry * profile.pageSize.toNat < 2 ^ 64) ∧
    (retained inventories).length < 2 ^ 64 ∧ contentTotal (retained inventories) < 2 ^ 64 ∧
    pageTotal profile (retained inventories) < 2 ^ 64 ∧ exactFinalInodes inventories < 2 ^ 64 ∧
    exactInodeLimit profile inventories < 2 ^ 64 ∧ exactUsedPages profile inventories < 2 ^ 64 ∧
    exactReservePages profile inventories < 2 ^ 64 ∧ exactAllocatedPages profile inventories < 2 ^ 64 ∧
    exactSizeBytes profile inventories < 2 ^ 64 ∧ exactRequiredMemoryBytes profile inventories < 2 ^ 64 := by
  have hall : ∀ {p : ReplayRoleV2 → Prop}, (∀ role ∈ ReplayRoleV2.all, p role) ↔ ∀ role, p role :=
    ⟨fun h role => h role role.mem_all, fun h role _ => h role⟩
  simp only [intermediateTerms, roleTerms, List.forall_mem_append, List.forall_mem_flatMap, hall,
    List.forall_mem_cons, List.forall_mem_map, List.not_mem_nil, false_imp_iff, implies_true, and_true]

lemma Exact.terms_fit {capacity : CapacityTermsV2} (h : Exact profile inventories capacity)
    (hbounded : Bounded profile inventories) (hroles : ∀ role, RoleAdmitted profile role (inventories role)) :
    ∀ term ∈ intermediateTerms profile inventories, term < 2 ^ 64 := by
  obtain ⟨hentries, hfinal, hinodes, hpages, hreserve, hsize, hrequired⟩ := exists_exact.mp ⟨capacity, h⟩
  have hused : exactUsedPages profile inventories < 2 ^ 64 := (Nat.le_succ _).trans_lt hreserve
  refine terms_fit_iff.mpr ⟨fun role => ?_, hentries, hbounded.content.trans_lt (UInt64.toNat_lt _), hpages,
    hfinal, hinodes, hused, hreserve, exactAllocatedPages_le.trans_lt hsize, hsize, hrequired⟩
  have hrole := hroles role
  exact ⟨⟨hrole.bounded.entries.trans_lt (UInt64.toNat_lt _), hrole.bounded.content.trans_lt (UInt64.toNat_lt _),
    hrole.pages⟩, hrole.rounded⟩

/-- The capacity is derived exactly where the bounds hold, the terms fit and the memory is admitted, and what it
reports are the unbounded terms. -/
theorem tmpfs_capacity_exact (profile : ProviderCapacityProfileV2)
    (inventories : ReplayRoleV2 → List ReplayEntryCapacityV2) :
    ((∃ plans request, (ReplayRoleV2.all.mapM fun role =>
        ReplayPlanCapacityV2.tryFromEntries profile role (inventories role)) = .ok plans ∧
        MountRequestV2.tryFromReplayPlans profile plans = .ok request) ↔
      Bounded profile inventories ∧ (∀ term ∈ intermediateTerms profile inventories, term < 2 ^ 64) ∧
        MemoryAdmitted profile inventories) ∧
    ∀ plans request, (ReplayRoleV2.all.mapM fun role =>
        ReplayPlanCapacityV2.tryFromEntries profile role (inventories role)) = .ok plans →
      MountRequestV2.tryFromReplayPlans profile plans = .ok request →
      Projected profile inventories ReplayRoleV2.all plans ∧ Exact profile inventories request.capacity ∧
        plans = request.planBindings.toList ∧ request.Fixed := by
  constructor
  · constructor
    · rintro ⟨plans, request, hplans, hrequest⟩
      obtain ⟨hroles, hprojected⟩ := mapM_projected.mp hplans
      obtain ⟨⟨hbounded, hadmitted, hexact⟩, -⟩ := (request_ok hprojected hroles).mp hrequest
      exact ⟨hbounded, hexact.terms_fit hbounded hroles, hadmitted⟩
    · rintro ⟨hbounded, hfit, hadmitted⟩
      obtain ⟨hroleTerms, hentries, -, hpages, hfinal, hinodes, -, hreserve, -, hsize, hrequired⟩ :=
        terms_fit_iff.mp hfit
      have hroles : ∀ role, RoleAdmitted profile role (inventories role) := fun role =>
        ⟨hbounded.roles role, (hroleTerms role).2, (hroleTerms role).1.2.2⟩
      obtain ⟨capacity, hexact⟩ :=
        exists_exact.mpr ⟨hentries, hfinal, hinodes, hpages, hreserve, hsize, hrequired⟩
      obtain ⟨plans, hprojected⟩ := exists_projected hroles
      obtain ⟨request, rfl, hbindings, hfixed⟩ := exists_request capacity hprojected
      exact ⟨plans, request, mapM_projected.mpr ⟨hroles, hprojected⟩,
        (request_ok hprojected hroles).mpr ⟨⟨hbounded, hadmitted, hexact⟩, hbindings, hfixed⟩⟩
  · intro plans request hplans hrequest
    obtain ⟨hroles, hprojected⟩ := mapM_projected.mp hplans
    obtain ⟨⟨-, -, hexact⟩, hbindings, hfixed⟩ := (request_ok hprojected hroles).mp hrequest
    exact ⟨hprojected, hexact, hbindings, hfixed⟩

lemma pageTotal_le_retained (role : ReplayRoleV2) :
    pageTotal profile (inventories role) ≤ pageTotal profile (retained inventories) := by
  have hsublist : (inventories role).Sublist (retained inventories) := by
    rw [retained, List.flatMap_def]
    exact List.sublist_flatten_of_mem (List.mem_map_of_mem role.mem_all)
  exact (hsublist.map _).sum_le_sum fun _ _ => Nat.zero_le _

/-- Of all the terms only the inode limit can overflow where the memory is admitted. -/
theorem inode_limit_alone_overflows (hbounded : Bounded profile inventories)
    (hadmitted : MemoryAdmitted profile inventories) :
    (∀ term ∈ intermediateTerms profile inventories, term < 2 ^ 64) ↔
      exactInodeLimit profile inventories < 2 ^ 64 := by
  have hrequired : exactRequiredMemoryBytes profile inventories < 2 ^ 64 :=
    hadmitted.hardware.trans_lt (UInt64.toNat_lt _)
  have hsize : exactSizeBytes profile inventories < 2 ^ 64 := (Nat.le_add_right _ _).trans_lt hrequired
  have hallocated : exactAllocatedPages profile inventories < 2 ^ 64 := exactAllocatedPages_le.trans_lt hsize
  have hreserve : exactReservePages profile inventories < 2 ^ 64 := (Nat.le_add_left _ _).trans_lt hallocated
  have hpages : pageTotal profile (retained inventories) < 2 ^ 64 := (Nat.le_add_right _ _).trans_lt hallocated
  have hused : exactUsedPages profile inventories < 2 ^ 64 := (Nat.le_succ _).trans_lt hreserve
  have hfinal : exactFinalInodes inventories < 2 ^ 64 := (Nat.le_add_right _ _).trans_lt hused
  have hrounded : ∀ role, ∀ entry ∈ inventories role, pagesOf profile entry * profile.pageSize.toNat < 2 ^ 64 := by
    intro role entry hentry
    have hone : pagesOf profile entry ≤ pageTotal profile (inventories role) :=
      List.single_le_sum (by simp) _ (List.mem_map_of_mem hentry)
    have hall : pagesOf profile entry ≤ exactAllocatedPages profile inventories :=
      (hone.trans (pageTotal_le_retained role)).trans (Nat.le_add_right _ _)
    rw [exactSizeBytes_eq] at hsize
    exact (Nat.mul_le_mul_right _ hall).trans_lt hsize
  rw [terms_fit_iff]
  constructor
  · rintro ⟨-, -, -, -, -, hinodes, -⟩
    exact hinodes
  · intro hinodes
    exact ⟨fun role => ⟨⟨(hbounded.roles role).entries.trans_lt (UInt64.toNat_lt _),
        (hbounded.roles role).content.trans_lt (UInt64.toNat_lt _), (pageTotal_le_retained role).trans_lt hpages⟩,
        hrounded role⟩, hbounded.entries.trans_lt (UInt64.toNat_lt _), hbounded.content.trans_lt (UInt64.toNat_lt _),
      hpages, hfinal, hinodes, hused, hreserve, hallocated, hsize, hrequired⟩

end Exactness

end Eip0045.Tmpfs
