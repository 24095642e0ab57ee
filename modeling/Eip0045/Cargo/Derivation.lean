import Mathlib
import Eip0045.Cargo.Metadata

/-! What the loops over packages, nodes and evidence accept. -/

namespace Eip0045.CargoClosure

open Bytes Checked FileTree B4Tree FirstSplit

section Features

variable {values features : List Bytes}

def Before (a b : Bytes) : Prop := compare a b = .lt

instance : Trans Before Before Before := ⟨fun hab hbc => Std.TransCmp.lt_trans hab hbc⟩

lemma Before.irrefl (a : Bytes) : ¬Before a a := by
  rw [Before, Std.ReflOrd.compare_self]
  simp

lemma isStrictlySorted_iff : isStrictlySorted values = true ↔ values.Pairwise Before := by
  rw [← List.isChain_iff_pairwise]
  induction values with
  | nil => simp [isStrictlySorted]
  | cons first values ih =>
    cases values with
    | nil => simp [isStrictlySorted]
    | cons second values =>
      rw [isStrictlySorted, Bool.and_eq_true, ih, List.isChain_cons_cons, Ordering.isLT_iff_eq_lt, Before]

lemma hasDuplicates_iff : hasDuplicates values = false ↔ values.Nodup := by
  induction values with
  | nil => simp [hasDuplicates]
  | cons value values ih => simp [hasDuplicates, ih]

lemma eq_of_before {xs ys : List Bytes} (h : xs.Perm ys) (hx : xs.Pairwise Before) (hy : ys.Pairwise Before) :
    xs = ys := by
  refine List.Perm.eq_of_pairwise ?_ hx hy h
  intro a b _ _ hab hba
  exact absurd (Trans.trans hab hba) (Before.irrefl a)

lemma sortFeatures_perm (features : List Bytes) : (sortFeatures features).Perm features := List.mergeSort_perm _ _

lemma sortFeatures_sorted (h : features.Nodup) : (sortFeatures features).Pairwise Before := by
  have hle : (sortFeatures features).Pairwise fun a b => (compare a b).isLE = true := by
    apply List.pairwise_mergeSort
    · intro a b c hab hbc
      exact Std.TransCmp.isLE_trans hab hbc
    · intro a b
      have hswap : compare b a = (compare a b).swap := Std.OrientedCmp.eq_swap
      rw [hswap]
      cases compare a b <;> rfl
  have hne : (sortFeatures features).Nodup := (sortFeatures_perm features).nodup_iff.mpr h
  refine (hle.and hne).imp ?_
  intro a b hab
  rw [Before]
  cases hcompare : compare a b with
  | lt => rfl
  | eq => exact absurd (Std.LawfulEqOrd.eq_of_compare hcompare) hab.2
  | gt =>
    rw [hcompare] at hab
    cases hab.1

lemma eq_sortFeatures (hv : values.Pairwise Before) (hf : features.Nodup) (h : features.toFinset = values.toFinset) :
    values = sortFeatures features := by
  refine eq_of_before ?_ hv (sortFeatures_sorted hf)
  have hnodup : values.Nodup := by
    refine hv.imp ?_
    rintro a b hab rfl
    exact Before.irrefl a hab
  refine ((List.perm_ext_iff_of_nodup hnodup hf).mpr fun value => ?_).trans (sortFeatures_perm features).symm
  rw [← List.mem_toFinset, ← h, List.mem_toFinset]

lemma sortFeatures_congr {features' : List Bytes} (hf : features.Nodup) (h : features.Perm features') :
    sortFeatures features = sortFeatures features' := by
  refine eq_of_before ?_ (sortFeatures_sorted hf) (sortFeatures_sorted (h.nodup_iff.mp hf))
  exact (sortFeatures_perm features).trans (h.trans (sortFeatures_perm features').symm)

end Features

section Loops

variable {root : ProfileRootIdentity}

lemma indexPackages_ok {check : MetadataPackage → Result Unit} {packages : List MetadataPackage} {index : Packages} :
    indexPackages check packages = .ok index ↔ (∀ package ∈ packages, check package = .ok ()) ∧
      (packages.map MetadataPackage.id).Nodup ∧ index.toList.Perm (packages.map fun package => (package.id, package)) := by
  have hstep : ∀ m package m', insertPackage check m package = .ok m' ↔
      ∃ b, (check package = .ok () ∧ b = (package.id, package)) ∧ m[b.1]? = none ∧ m' = m.insert b.1 b.2 := by
    intro m package m'
    simp only [insertPackage, bind_ok, exists_unit, ensure_ok, pure_ok]
    constructor
    · rintro ⟨hnew, hcheck, rfl⟩
      exact ⟨_, ⟨hcheck, rfl⟩, hnew, rfl⟩
    · rintro ⟨_, ⟨hcheck, rfl⟩, hnew, rfl⟩
      exact ⟨hnew, hcheck, rfl⟩
  have hbinds : ∀ bs, List.Forall₂ (fun package b => check package = .ok () ∧ b = (package.id, package)) packages bs ↔
      (∀ package ∈ packages, check package = .ok ()) ∧ bs = packages.map fun package => (package.id, package) := by
    intro bs
    induction packages generalizing bs with
    | nil => simp
    | cons package packages ih =>
      simp only [List.forall₂_cons_left_iff, ih, List.forall_mem_cons, List.map_cons]
      constructor
      · rintro ⟨_, _, ⟨hcheck, rfl⟩, ⟨hrest, rfl⟩, rfl⟩
        exact ⟨⟨hcheck, hrest⟩, rfl⟩
      · rintro ⟨⟨hcheck, hrest⟩, rfl⟩
        exact ⟨_, _, ⟨hcheck, rfl⟩, ⟨hrest, rfl⟩, rfl⟩
  have hkeys : (packages.map fun package => (package.id, package)).map Prod.fst =
      packages.map MetadataPackage.id := by
    rw [List.map_map]
    rfl
  rw [indexPackages, SortedMap.foldlM_inserts_empty hstep, ← hkeys]
  simp only [hbinds]
  constructor
  · rintro ⟨_, ⟨hcheck, rfl⟩, hnodup, hperm⟩
    exact ⟨hcheck, hnodup, hperm⟩
  · rintro ⟨hcheck, hnodup, hperm⟩
    exact ⟨_, ⟨hcheck, rfl⟩, hnodup, hperm⟩

/-- The binding that a node of the resolve graph gives. -/
def Binds (root : ProfileRootIdentity) (index : Packages) (node : MetadataNode) (b : Bytes × List Bytes) : Prop :=
  ∃ package, index[node.id]? = some package ∧ evidencePackageId root package = .ok b.1 ∧ node.features.Nodup ∧
    b.2 = node.features

def NoForbidden (features : List Bytes) : Prop := ∀ feature ∈ features, isForbiddenFeature feature = false

lemma any_isForbiddenFeature {features : List Bytes} :
    features.any isForbiddenFeature = false ↔ NoForbidden features := by
  simp [NoForbidden]

lemma deriveNodes_ok {index : Packages} {nodes : List MetadataNode} {m : SortedMap Bytes (List Bytes)} :
    nodes.foldlM (deriveNode root index) ∅ = .ok m ↔
      ∃ bs, List.Forall₂ (Binds root index) nodes bs ∧ (bs.map Prod.fst).Nodup ∧ m.toList.Perm bs := by
  apply SortedMap.foldlM_inserts_empty
  intro m node m'
  simp only [deriveNode, bind_ok, exists_unit, ensure_ok, context_ok, pure_ok, not_or, not_not, Bool.not_eq_true,
    hasDuplicates_iff]
  constructor
  · rintro ⟨package, hpackage, id, hid, ⟨hnodup, hnew⟩, rfl⟩
    exact ⟨(id, node.features), ⟨package, hpackage, hid, hnodup, rfl⟩, hnew, rfl⟩
  · rintro ⟨⟨id, features⟩, ⟨package, hpackage, hid, hnodup, rfl⟩, hnew, rfl⟩
    exact ⟨package, hpackage, id, hid, ⟨hnodup, hnew⟩, rfl⟩

lemma resolveNodes_ok {index : Packages} {nodes : List MetadataNode} {m : SortedMap Bytes (List Bytes)} :
    nodes.foldlM (resolveNode root index) ∅ = .ok m ↔
      nodes.foldlM (deriveNode root index) ∅ = .ok m ∧ ∀ node ∈ nodes, NoForbidden node.features := by
  have hstep : ∀ m node m', resolveNode root index m node = .ok m' ↔
      ∃ b, (Binds root index node b ∧ NoForbidden node.features) ∧ m[b.1]? = none ∧ m' = m.insert b.1 b.2 := by
    intro m node m'
    simp only [resolveNode, bind_ok, exists_unit, ensure_ok, context_ok, pure_ok, hasDuplicates_iff,
      any_isForbiddenFeature]
    constructor
    · rintro ⟨package, hpackage, id, hid, hnew, hnodup, hallowed, rfl⟩
      exact ⟨(id, node.features), ⟨⟨package, hpackage, hid, hnodup, rfl⟩, hallowed⟩, hnew, rfl⟩
    · rintro ⟨⟨id, features⟩, ⟨⟨package, hpackage, hid, hnodup, rfl⟩, hallowed⟩, hnew, rfl⟩
      exact ⟨package, hpackage, id, hid, hnew, hnodup, hallowed, rfl⟩
  have hsplit : ∀ bs, List.Forall₂ (fun node b => Binds root index node b ∧ NoForbidden node.features) nodes bs ↔
      List.Forall₂ (Binds root index) nodes bs ∧ ∀ node ∈ nodes, NoForbidden node.features := by
    intro bs
    induction nodes generalizing bs with
    | nil => simp
    | cons node nodes ih =>
      simp only [List.forall₂_cons_left_iff, ih, List.forall_mem_cons]
      constructor
      · rintro ⟨b, bs, ⟨hb, hallowed⟩, ⟨hbs, hrest⟩, rfl⟩
        exact ⟨⟨b, bs, hb, hbs, rfl⟩, hallowed, hrest⟩
      · rintro ⟨⟨b, bs, hb, hbs, rfl⟩, hallowed, hrest⟩
        exact ⟨b, bs, ⟨hb, hallowed⟩, ⟨hbs, hrest⟩, rfl⟩
  rw [SortedMap.foldlM_inserts_empty hstep, deriveNodes_ok]
  simp only [hsplit]
  constructor
  · rintro ⟨bs, ⟨hbs, hallowed⟩, hkeys, hperm⟩
    exact ⟨⟨bs, hbs, hkeys, hperm⟩, hallowed⟩
  · rintro ⟨⟨bs, hbs, hkeys, hperm⟩, hallowed⟩
    exact ⟨bs, ⟨hbs, hallowed⟩, hkeys, hperm⟩

/-- The evidence that a resolved node stands for. -/
def treeEntry (node : Bytes × List Bytes) : FeatureTreePackage := ⟨node.1, sortFeatures node.2⟩

lemma checkFeatureTree_ok {resolved : SortedMap Bytes (List Bytes)} {previous : Option Bytes}
    {tree : List FeatureTreePackage} :
    checkFeatureTree resolved previous tree = .ok () ↔
      (previous.toList ++ tree.map FeatureTreePackage.packageId).IsChain Before ∧
        ∀ package ∈ tree, package.features.Pairwise Before ∧ NoForbidden package.features ∧
          ∃ actual, resolved[package.packageId]? = some actual ∧ actual.toFinset = package.features.toFinset := by
  have hafter : ∀ a b : Bytes, (compare a b).isGE = false ↔ Before a b := by
    intro a b
    rw [Before]
    cases compare a b <;> simp
  induction tree generalizing previous with
  | nil => cases previous <;> simp [checkFeatureTree]
  | cons package rest ih =>
    have hchain : (previous.toList ++ (package :: rest).map FeatureTreePackage.packageId).IsChain Before ↔
        (previous.any fun id => (compare id package.packageId).isGE) = false ∧
          (package.packageId :: rest.map FeatureTreePackage.packageId).IsChain Before := by
      cases previous with
      | none => simp
      | some id => simp [hafter, List.isChain_cons_cons]
    simp only [checkFeatureTree, bind_ok, exists_unit, ensure_ok, context_ok, ih, hchain, List.forall_mem_cons, not_or,
      Bool.not_eq_true, Bool.not_eq_false, isStrictlySorted_iff, any_isForbiddenFeature, Option.toList_some,
      List.singleton_append]
    constructor
    · rintro ⟨⟨hprevious, hsorted, hallowed⟩, actual, hactual, hsame, hrest, hall⟩
      exact ⟨⟨hprevious, hrest⟩, ⟨hsorted, hallowed, actual, hactual, hsame⟩, hall⟩
    · rintro ⟨⟨hprevious, hrest⟩, ⟨hsorted, hallowed, actual, hactual, hsame⟩, hall⟩
      exact ⟨⟨hprevious, hsorted, hallowed⟩, actual, hactual, hsame, hrest, hall⟩

lemma validateFeatureEvidence_ok {resolved : SortedMap Bytes (List Bytes)} {tree : List FeatureTreePackage}
    (hnodup : ∀ b ∈ resolved.toList, b.2.Nodup) (hallowed : ∀ b ∈ resolved.toList, NoForbidden b.2) :
    validateFeatureEvidence resolved tree = .ok () ↔ tree = resolved.toList.map treeEntry := by
  have hordered : (resolved.toList.map Prod.fst).Pairwise Before := by
    rw [List.pairwise_map]
    exact resolved.ordered_keys_toList
  have hids : (resolved.toList.map treeEntry).map FeatureTreePackage.packageId = resolved.toList.map Prod.fst := by
    rw [List.map_map]
    rfl
  simp only [validateFeatureEvidence, bind_ok, exists_unit, ensure_ok, checkFeatureTree_ok, Option.toList_none,
    List.nil_append, List.isChain_iff_pairwise]
  constructor
  · rintro ⟨hsize, hchain, hall⟩
    have hsubset : tree ⊆ resolved.toList.map treeEntry := by
      intro package hpackage
      obtain ⟨hsorted, -, actual, hactual, hsame⟩ := hall package hpackage
      have hmem : (package.packageId, actual) ∈ resolved.toList := SortedMap.mem_toList.mpr hactual
      refine List.mem_map.mpr ⟨_, hmem, ?_⟩
      rw [treeEntry, ← eq_sortFeatures hsorted (hnodup _ hmem) hsame]
    have hdistinct : tree.Nodup := by
      rw [List.pairwise_map] at hchain
      refine hchain.imp ?_
      rintro a b hab rfl
      exact Before.irrefl _ hab
    have hperm : tree.Perm (resolved.toList.map treeEntry) := by
      refine (List.subperm_of_subset hdistinct hsubset).perm_of_length_le ?_
      rw [List.length_map, Std.ExtTreeMap.length_toList, hsize]
    rw [← hids] at hordered
    rw [List.pairwise_map] at hchain hordered
    refine List.Perm.eq_of_pairwise ?_ hchain hordered hperm
    intro a b _ _ hab hba
    exact absurd (Trans.trans hab hba) (Before.irrefl _)
  · rintro rfl
    rw [hids, List.length_map, Std.ExtTreeMap.length_toList]
    refine ⟨rfl, hordered, fun package hpackage => ?_⟩
    obtain ⟨b, hb, rfl⟩ := List.mem_map.mp hpackage
    have hperm := sortFeatures_perm b.2
    refine ⟨sortFeatures_sorted (hnodup b hb), fun feature hfeature => ?_, b.2, SortedMap.mem_toList.mp hb, ?_⟩
    · exact hallowed b hb feature (hperm.mem_iff.mp hfeature)
    · exact (List.toFinset_eq_of_perm _ _ hperm).symm

lemma derive_ok {metadata : MetadataDocument} {role : CargoClosureRole} {configuration : CargoConfigurationEvidence}
    {evidence : CargoClosureEvidence} :
    deriveCargoClosureEvidence root metadata role configuration = .ok evidence ↔
      ∃ resolve index nodes, metadata.resolve = some resolve ∧
        indexPackages (fun _ => .ok ()) metadata.packages = .ok index ∧
        resolve.nodes.foldlM (deriveNode root index) ∅ = .ok nodes ∧
        evidence = ⟨evidenceSchema, candidate, root.publicIdentity, role, nodes.toList.map treeEntry, configuration⟩ := by
  simp only [deriveCargoClosureEvidence, bind_ok, context_ok, pure_ok, @eq_comm _ _ evidence]
  constructor
  · rintro ⟨resolve, hresolve, index, hindex, nodes, hnodes, hevidence⟩
    exact ⟨resolve, index, nodes, hresolve, hindex, hnodes, hevidence⟩
  · rintro ⟨resolve, index, nodes, hresolve, hindex, hnodes, hevidence⟩
    exact ⟨resolve, hresolve, index, hindex, nodes, hnodes, hevidence⟩

end Loops

end Eip0045.CargoClosure
