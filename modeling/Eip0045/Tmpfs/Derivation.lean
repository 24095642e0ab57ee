import Eip0045.Library.Totals
import Eip0045.Tmpfs.Capacity

/-! The derived capacity in unbounded integers, and when it is derived. -/

namespace Eip0045.Tmpfs

open Checked Totals

section Arithmetic

variable {left right value multiple result : UInt64} {term : CapacityTermV2}

lemma checkedAdd_ok : checkedAdd left right term = .ok result ↔
    result.toNat = left.toNat + right.toNat := by
  rw [checkedAdd]
  split
  case isTrue h => rw [Except.ok.injEq, ← UInt64.toNat_inj, UInt64.toNat_add, Nat.mod_eq_of_lt h, eq_comm]
  case isFalse h => exact ⟨fun heq => (by cases heq), fun hsum => absurd (hsum ▸ result.toNat_lt) h⟩

lemma checkedMul_ok : checkedMul left right term = .ok result ↔
    result.toNat = left.toNat * right.toNat := by
  rw [checkedMul]
  split
  case isTrue h => rw [Except.ok.injEq, ← UInt64.toNat_inj, UInt64.toNat_mul, Nat.mod_eq_of_lt h, eq_comm]
  case isFalse h => exact ⟨fun heq => (by cases heq), fun hproduct => absurd (hproduct ▸ result.toNat_lt) h⟩

lemma ceilDiv_mul_of_mod {a n : ℕ} (hn : 0 < n) (h : a % n ≠ 0) : a ⌈/⌉ n * n = a + (n - a % n) := by
  have hdiv := Nat.div_add_mod a n
  have hmod := Nat.mod_lt a hn
  have hceil : a ⌈/⌉ n = a / n + 1 := by
    rw [Nat.ceilDiv_eq_add_pred_div]
    apply Nat.div_eq_of_lt_le
    · rw [Nat.add_mul, Nat.mul_comm (a / n) n]
      omega
    · rw [Nat.add_mul, Nat.add_mul, Nat.mul_comm (a / n) n]
      omega
  rw [hceil, Nat.add_mul, Nat.mul_comm (a / n) n]
  omega

lemma ceilDiv_mul_of_dvd {a n : ℕ} (hn : 0 < n) (h : a % n = 0) : a ⌈/⌉ n * n = a := by
  obtain ⟨k, rfl⟩ := Nat.dvd_of_mod_eq_zero h
  have hceil : (n * k) ⌈/⌉ n = k := by
    rw [Nat.ceilDiv_eq_add_pred_div, Nat.add_sub_assoc hn, Nat.mul_add_div hn,
      Nat.div_eq_of_lt (by omega), Nat.add_zero]
  rw [hceil, Nat.mul_comm]

lemma checkedRoundUp_ok (h : multiple ≠ 0) : checkedRoundUp value multiple term = .ok result ↔
    result.toNat = value.toNat ⌈/⌉ multiple.toNat * multiple.toNat := by
  have hpos : 0 < multiple.toNat := by
    rw [Nat.pos_iff_ne_zero]
    exact fun hzero => h (UInt64.toNat_inj.mp hzero)
  have hmod : (value % multiple).toNat = value.toNat % multiple.toNat := UInt64.toNat_mod _ _
  have hle : value % multiple ≤ multiple := by
    rw [UInt64.le_iff_toNat_le, hmod]
    exact (Nat.mod_lt _ hpos).le
  rw [checkedRoundUp, if_neg h]
  dsimp only
  by_cases hzero : value % multiple = 0
  · rw [hzero] at hmod
    rw [if_pos hzero, ceilDiv_mul_of_dvd hpos hmod.symm, Except.ok.injEq, ← UInt64.toNat_inj, eq_comm]
  · have hne : value.toNat % multiple.toNat ≠ 0 := by
      rw [← hmod]
      exact fun heq => hzero (UInt64.toNat_inj.mp heq)
    rw [if_neg hzero, checkedAdd_ok, UInt64.toNat_sub_of_le _ _ hle, hmod, ceilDiv_mul_of_mod hpos hne]

end Arithmetic

section Projection

variable {profile : ProviderCapacityProfileV2} {role : ReplayRoleV2} {entries : List ReplayEntryCapacityV2}
  {plan : ReplayPlanCapacityV2}

def contentTotal (entries : List ReplayEntryCapacityV2) : ℕ :=
  (entries.map fun entry => entry.contentLength.toNat).sum

def pagesOf (profile : ProviderCapacityProfileV2) (entry : ReplayEntryCapacityV2) : ℕ :=
  entry.contentLength.toNat ⌈/⌉ profile.pageSize.toNat

def pageTotal (profile : ProviderCapacityProfileV2) (entries : List ReplayEntryCapacityV2) : ℕ :=
  (entries.map (pagesOf profile)).sum

/-- The logical bounds of a role, for its inventory. -/
structure RoleBounded (profile : ProviderCapacityProfileV2) (role : ReplayRoleV2)
    (inventory : List ReplayEntryCapacityV2) : Prop where
  entries : inventory.length ≤ (profile.logicalBounds role).entries.toNat
  perEntry : ∀ entry ∈ inventory,
    entry.contentLength.toNat ≤ (profile.logicalBounds role).contentBytesPerEntry.toNat
  content : contentTotal inventory ≤ (profile.logicalBounds role).contentBytes.toNat

/-- A plan that reports the inventory of its role as it is. -/
structure Projects (profile : ProviderCapacityProfileV2) (role : ReplayRoleV2)
    (inventory : List ReplayEntryCapacityV2) (plan : ReplayPlanCapacityV2) : Prop where
  sameProfile : plan.profile = profile
  sameRole : plan.role = role
  entryCount : plan.entryCount.toNat = inventory.length
  contentBytes : plan.contentBytes.toNat = contentTotal inventory
  payloadPages : plan.payloadPages.toNat = pageTotal profile inventory

lemma exists_toNat {n : ℕ} (h : n < 2 ^ 64) : ∃ v : UInt64, v.toNat = n :=
  ⟨UInt64.ofNat n, by rw [UInt64.toNat_ofNat', Nat.mod_eq_of_lt h]⟩

lemma u64OfLength_eq_some {length : ℕ} {count : UInt64} :
    u64OfLength length = some count ↔ count.toNat = length := by
  rw [u64OfLength]
  split
  case isTrue h =>
    rw [Option.some.injEq, ← UInt64.toNat_inj, UInt64.toNat_ofNat', Nat.mod_eq_of_lt h, eq_comm]
  case isFalse h =>
    constructor
    · exact fun heq => (by cases heq)
    · rintro rfl
      exact absurd count.toNat_lt h

lemma pageSize_pos (profile : ProviderCapacityProfileV2) : 0 < profile.pageSize.toNat := by
  rw [Nat.pos_iff_ne_zero]
  exact fun hzero => profile.pageSize_ne_zero (UInt64.toNat_inj.mp hzero)

def Admits (profile : ProviderCapacityProfileV2) (role : ReplayRoleV2) (entry : ReplayEntryCapacityV2) : Prop :=
  entry.contentLength.toNat ≤ (profile.logicalBounds role).contentBytesPerEntry.toNat ∧
    pagesOf profile entry * profile.pageSize.toNat < 2 ^ 64

def entryWeight (profile : ProviderCapacityProfileV2) (entry : ReplayEntryCapacityV2) : ℕ × ℕ :=
  (entry.contentLength.toNat, pagesOf profile entry)

def ProjectedContent.total (projected : ProjectedContent) : ℕ × ℕ :=
  (projected.contentBytes.toNat, projected.payloadPages.toNat)

lemma projectEntry_adding (profile : ProviderCapacityProfileV2) (role : ReplayRoleV2) :
    Adding (projectEntry profile role) (fun item => Admits profile role item.1)
      (fun total => total.1 ≤ (profile.logicalBounds role).contentBytes.toNat ∧ total.2 < 2 ^ 64)
      ProjectedContent.total (fun item => entryWeight profile item.1) where
  injective := by
    intro a b h
    obtain ⟨hcontent, hpages⟩ := Prod.mk.inj h
    exact ProjectedContent.ext (UInt64.toNat_inj.mp hcontent) (UInt64.toNat_inj.mp hpages)
  state := by
    rintro ⟨content, pages⟩ ⟨hcontent, hpages⟩
    obtain ⟨c, rfl⟩ := exists_toNat (hcontent.trans_lt (UInt64.toNat_lt _))
    obtain ⟨p, rfl⟩ := exists_toNat hpages
    exact ⟨⟨c, p⟩, rfl⟩
  initial := by
    rintro ⟨content, pages⟩ ⟨content', pages'⟩ ⟨hcontent, hpages⟩
    exact ⟨(Nat.le_add_right _ _).trans hcontent, (Nat.le_add_right _ _).trans_lt hpages⟩
  step := by
    intro projected item next hfits
    have hpage : profile.pageSize ≠ 0 := profile.pageSize_ne_zero
    have hquotient : ∀ rounded : UInt64,
        rounded.toNat = pagesOf profile item.1 * profile.pageSize.toNat →
        (rounded / profile.pageSize).toNat = pagesOf profile item.1 := by
      intro rounded hrounded
      rw [UInt64.toNat_div, hrounded, Nat.mul_div_cancel _ (pageSize_pos profile)]
    simp only [projectEntry, bind_ok, exists_unit, ensure_ok, checkedAdd_ok, checkedRoundUp_ok hpage, pure_ok,
      UInt64.le_iff_toNat_le, ProjectedContent.total, entryWeight, Prod.mk.injEq, Prod.mk_add_mk]
    constructor
    · rintro ⟨hentry, content, hcontent, hbound, rounded, hrounded, pages, hpages, rfl⟩
      rw [hquotient rounded hrounded] at hpages
      rw [hcontent] at hbound
      exact ⟨⟨hentry, hrounded ▸ rounded.toNat_lt⟩, ⟨hbound, hpages ▸ pages.toNat_lt⟩, hcontent, hpages⟩
    · rintro ⟨⟨hentry, hrounded⟩, ⟨hbound, -⟩, hcontent, hpages⟩
      obtain ⟨rounded, hrounded⟩ := exists_toNat hrounded
      refine ⟨hentry, next.contentBytes, hcontent, hcontent ▸ hbound, rounded, hrounded, next.payloadPages,
        ?_, rfl⟩
      rw [hquotient rounded hrounded]
      exact hpages

lemma projectEntry_run {projected : ProjectedContent} :
    entries.zipIdx.foldlM (projectEntry profile role) ⟨0, 0⟩ = .ok projected ↔
      (∀ entry ∈ entries, Admits profile role entry) ∧
      (contentTotal entries ≤ (profile.logicalBounds role).contentBytes.toNat ∧
        pageTotal profile entries < 2 ^ 64) ∧
      projected.contentBytes.toNat = contentTotal entries ∧
      projected.payloadPages.toNat = pageTotal profile entries := by
  have hinitial : ProjectedContent.total ⟨0, 0⟩ = 0 := rfl
  have hweights : (entries.map (entryWeight profile)).sum = (contentTotal entries, pageTotal profile entries) :=
    sum_pair _ _ entries
  rw [(projectEntry_adding profile role).run_enumerated ⟨Nat.zero_le _, by decide⟩, hinitial, hweights,
    zero_add, ProjectedContent.total, Prod.mk.injEq]

lemma tryFromEntries_ok : ReplayPlanCapacityV2.tryFromEntries profile role entries = .ok plan ↔
    (RoleBounded profile role entries ∧
      (∀ entry ∈ entries, pagesOf profile entry * profile.pageSize.toNat < 2 ^ 64) ∧
      pageTotal profile entries < 2 ^ 64) ∧ Projects profile role entries plan := by
  simp only [ReplayPlanCapacityV2.tryFromEntries, bind_ok, exists_unit, ensure_ok, context_ok, projectEntry_run,
    u64OfLength_eq_some, UInt64.le_iff_toNat_le, pure_ok, Admits, forall_and]
  constructor
  · rintro ⟨count, hcount, hentries, projected, ⟨⟨hentry, hrounded⟩, ⟨hcontent, hpages⟩, hprojected⟩, rfl⟩
    exact ⟨⟨⟨hcount ▸ hentries, hentry, hcontent⟩, hrounded, hpages⟩,
      ⟨rfl, rfl, hcount, hprojected.1, hprojected.2⟩⟩
  · rintro ⟨⟨hbounded, hrounded, hpages⟩, hplan⟩
    refine ⟨plan.entryCount, hplan.entryCount, ?_, ⟨plan.contentBytes, plan.payloadPages⟩,
      ⟨⟨hbounded.perEntry, hrounded⟩, ⟨hbounded.content, hpages⟩, hplan.contentBytes, hplan.payloadPages⟩, ?_⟩
    · rw [hplan.entryCount]
      exact hbounded.entries
    · rw [← hplan.sameProfile, ← hplan.sameRole]

end Projection

section Aggregate

variable {profile : ProviderCapacityProfileV2} {inventories : ReplayRoleV2 → List ReplayEntryCapacityV2}
  {roles : List ReplayRoleV2} {plans : List ReplayPlanCapacityV2}

def retained (inventories : ReplayRoleV2 → List ReplayEntryCapacityV2) : List ReplayEntryCapacityV2 :=
  ReplayRoleV2.all.flatMap inventories

/-- Each plan reports the inventory of the role at its place. -/
def Projected (profile : ProviderCapacityProfileV2) (inventories : ReplayRoleV2 → List ReplayEntryCapacityV2) :
    List ReplayRoleV2 → List ReplayPlanCapacityV2 → Prop :=
  List.Forall₂ fun role plan => Projects profile role (inventories role) plan

/-- What a plan has to meet next to the role of its place. -/
structure PlanAdmitted (profile : ProviderCapacityProfileV2) (item : ReplayPlanCapacityV2 × ReplayRoleV2) :
    Prop where
  sameRole : item.1.role = item.2
  sameProfile : item.1.profile = profile
  entries : item.1.entryCount.toNat ≤ (profile.logicalBounds item.1.role).entries.toNat
  content : item.1.contentBytes.toNat ≤ (profile.logicalBounds item.1.role).contentBytes.toNat

def planWeight (item : ReplayPlanCapacityV2 × ReplayRoleV2) : ℕ × ℕ × ℕ :=
  (item.1.entryCount.toNat, item.1.contentBytes.toNat, item.1.payloadPages.toNat)

def AggregateSums.total (sums : AggregateSums) : ℕ × ℕ × ℕ :=
  (sums.entryCount.toNat, sums.contentBytes.toNat, sums.payloadPages.toNat)

lemma aggregatePlan_adding (profile : ProviderCapacityProfileV2) :
    Adding (aggregatePlan profile) (fun item => PlanAdmitted profile item.1)
      (fun total => total.1 < 2 ^ 64 ∧ total.2.1 < 2 ^ 64 ∧ total.2.2 < 2 ^ 64)
      AggregateSums.total (fun item => planWeight item.1) where
  injective := by
    intro a b h
    obtain ⟨hentries, hrest⟩ := Prod.mk.inj h
    obtain ⟨hcontent, hpages⟩ := Prod.mk.inj hrest
    exact AggregateSums.ext (UInt64.toNat_inj.mp hentries) (UInt64.toNat_inj.mp hcontent)
      (UInt64.toNat_inj.mp hpages)
  state := by
    rintro ⟨entries, content, pages⟩ ⟨hentries, hcontent, hpages⟩
    obtain ⟨e, rfl⟩ := exists_toNat hentries
    obtain ⟨c, rfl⟩ := exists_toNat hcontent
    obtain ⟨p, rfl⟩ := exists_toNat hpages
    exact ⟨⟨e, c, p⟩, rfl⟩
  initial := by
    rintro ⟨entries, content, pages⟩ ⟨entries', content', pages'⟩ ⟨hentries, hcontent, hpages⟩
    exact ⟨(Nat.le_add_right _ _).trans_lt hentries, (Nat.le_add_right _ _).trans_lt hcontent,
      (Nat.le_add_right _ _).trans_lt hpages⟩
  step := by
    intro sums item next hfits
    simp only [aggregatePlan, bind_ok, exists_unit, ensure_ok, checkedAdd_ok, pure_ok, UInt64.le_iff_toNat_le,
      AggregateSums.total, planWeight, Prod.mk.injEq, Prod.mk_add_mk]
    constructor
    · rintro ⟨hrole, hprofile, hentries, hcontent, entries, hsum, content, hsum', pages, hsum'', rfl⟩
      exact ⟨⟨hrole, hprofile, hentries, hcontent⟩,
        ⟨hsum ▸ entries.toNat_lt, hsum' ▸ content.toNat_lt, hsum'' ▸ pages.toNat_lt⟩, hsum, hsum', hsum''⟩
    · rintro ⟨hadmitted, -, hsum, hsum', hsum''⟩
      exact ⟨hadmitted.sameRole, hadmitted.sameProfile, hadmitted.entries, hadmitted.content, next.entryCount, hsum,
        next.contentBytes, hsum', next.payloadPages, hsum'', rfl⟩

lemma contentTotal_append (entries others : List ReplayEntryCapacityV2) :
    contentTotal (entries ++ others) = contentTotal entries + contentTotal others := by
  simp [contentTotal]

lemma pageTotal_append (profile : ProviderCapacityProfileV2) (entries others : List ReplayEntryCapacityV2) :
    pageTotal profile (entries ++ others) = pageTotal profile entries + pageTotal profile others := by
  simp [pageTotal]

lemma Projected.weights (h : Projected profile inventories roles plans) :
    ((plans.zip roles).map planWeight).sum = ((roles.flatMap inventories).length,
      contentTotal (roles.flatMap inventories), pageTotal profile (roles.flatMap inventories)) := by
  induction h with
  | nil => rfl
  | cons hplan _ ih =>
    rw [List.zip_cons_cons, List.map_cons, List.sum_cons, ih, planWeight, hplan.entryCount, hplan.contentBytes,
      hplan.payloadPages, List.flatMap_cons, List.length_append, contentTotal_append, pageTotal_append,
      Prod.mk_add_mk, Prod.mk_add_mk]

lemma Projected.admitted (h : Projected profile inventories roles plans)
    (hroles : ∀ role, RoleBounded profile role (inventories role)) :
    ∀ item ∈ plans.zip roles, PlanAdmitted profile item := by
  induction h with
  | nil => simp
  | @cons role plan roles plans hplan _ ih =>
    rw [List.zip_cons_cons, List.forall_mem_cons]
    refine ⟨⟨hplan.sameRole, hplan.sameProfile, ?_, ?_⟩, ih⟩
    · rw [hplan.entryCount, hplan.sameRole]
      exact (hroles role).entries
    · rw [hplan.contentBytes, hplan.sameRole]
      exact (hroles role).content

lemma Projected.run {sums : AggregateSums} (h : Projected profile inventories ReplayRoleV2.all plans)
    (hroles : ∀ role, RoleBounded profile role (inventories role)) :
    (plans.zip ReplayRoleV2.all).zipIdx.foldlM (aggregatePlan profile) ⟨0, 0, 0⟩ = .ok sums ↔
      sums.entryCount.toNat = (retained inventories).length ∧
      sums.contentBytes.toNat = contentTotal (retained inventories) ∧
      sums.payloadPages.toNat = pageTotal profile (retained inventories) := by
  have hinitial : AggregateSums.total ⟨0, 0, 0⟩ = 0 := rfl
  rw [(aggregatePlan_adding profile).run_enumerated ⟨by decide, by decide, by decide⟩, hinitial, h.weights,
    zero_add, AggregateSums.total, Prod.mk.injEq, Prod.mk.injEq]
  constructor
  · exact fun hsum => hsum.2.2
  · rintro ⟨hentries, hcontent, hpages⟩
    exact ⟨h.admitted hroles, ⟨hentries ▸ sums.entryCount.toNat_lt, hcontent ▸ sums.contentBytes.toNat_lt,
      hpages ▸ sums.payloadPages.toNat_lt⟩, hentries, hcontent, hpages⟩

lemma aggregateReplayPlans_ok {aggregate : AggregateCapacityV2}
    (h : Projected profile inventories ReplayRoleV2.all plans)
    (hroles : ∀ role, RoleBounded profile role (inventories role)) :
    aggregateReplayPlans profile plans = .ok aggregate ↔
      ((retained inventories).length ≤ profile.parameters.maximumAggregateEntries.toNat ∧
        contentTotal (retained inventories) ≤ profile.parameters.maximumAggregateContentBytes.toNat) ∧
      aggregate.entryCount.toNat = (retained inventories).length ∧
      aggregate.payloadPages.toNat = pageTotal profile (retained inventories) := by
  have hlength : plans.length = replayPlanCount := h.length_eq.symm
  simp only [aggregateReplayPlans, bind_ok, exists_unit, ensure_ok, hlength, h.run hroles, pure_ok,
    UInt64.le_iff_toNat_le, true_and]
  constructor
  · rintro ⟨sums, ⟨hentries, hcontent, hpages⟩, hentriesBound, hcontentBound, rfl⟩
    exact ⟨⟨hentries ▸ hentriesBound, hcontent ▸ hcontentBound⟩, hentries, hpages⟩
  · rintro ⟨⟨hentriesBound, hcontentBound⟩, hentries, hpages⟩
    obtain ⟨content, hcontent⟩ := exists_toNat (hcontentBound.trans_lt (UInt64.toNat_lt _))
    exact ⟨⟨aggregate.entryCount, content, aggregate.payloadPages⟩, ⟨hentries, hcontent, hpages⟩,
      hentries ▸ hentriesBound, hcontent ▸ hcontentBound, rfl⟩

end Aggregate

end Eip0045.Tmpfs
