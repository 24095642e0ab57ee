import Mathlib
import Eip0045.Cargo.Derivation
import Eip0045.Library.Keyed

/-! The validator accepts the evidence that is derived, whatever the order of packages, nodes and features, and only
local packages below the root. -/

namespace Eip0045.CargoClosure

open Bytes Checked FileTree B4Tree FirstSplit

section Policy

/-- The nodes whose package has a name, looked up in the list of packages. -/
def nodesNamed (packages : List MetadataPackage) (name : Bytes) (nodes : List MetadataNode) : List MetadataNode :=
  nodes.filter fun node => packages.any fun package => package.id == node.id && package.name == name

def ZkvmPolicy (zkvmNodes : List MetadataNode) : CargoClosureRole → Prop
  | .generatorHost => ∃ zkvm, zkvmNodes = [zkvm] ∧ utf8 "default" ∉ zkvm.features ∧
      utf8 "disable-dev-mode" ∈ zkvm.features ∧ utf8 "prove" ∈ zkvm.features
  | .guest => ∃ zkvm, zkvmNodes = [zkvm] ∧ utf8 "default" ∉ zkvm.features ∧ utf8 "prove" ∉ zkvm.features
  | .methodsBuild => zkvmNodes = []

def MethodsPolicy (methodsNodes : List MetadataNode) (role : CargoClosureRole) : Prop :=
  ∃ methods, methodsNodes = [methods] ∧ (utf8 requiredMethodsFeature ∈ methods.features ↔ role ≠ .guest)

def RolePolicy (metadata : MetadataDocument) (nodes : List MetadataNode) (role : CargoClosureRole) : Prop :=
  ZkvmPolicy (nodesNamed metadata.packages requiredHostCrate nodes) role ∧
    MethodsPolicy (nodesNamed metadata.packages requiredMethodsCrate nodes) role

lemma only_ok {nodes : List MetadataNode} {node : MetadataNode} {e : CargoClosureError} :
    context e (if nodes.length = 1 then nodes.head? else none) = .ok node ↔ nodes = [node] := by
  rw [context_ok]
  obtain _ | ⟨first, _ | ⟨second, rest⟩⟩ := nodes
  · simp
  · simp
  · simp

lemma validateZkvmNodes_ok {nodes : List MetadataNode} {role : CargoClosureRole} :
    validateZkvmNodes nodes role = .ok () ↔ ZkvmPolicy nodes role := by
  cases role with
  | generatorHost =>
    simp only [validateZkvmNodes, bind_ok, exists_unit, ensure_ok, only_ok, forM_ok, requiredHostFeatures, ZkvmPolicy,
      List.forall_mem_cons, List.not_mem_nil, false_implies, implies_true, and_true]
  | guest => simp only [validateZkvmNodes, bind_ok, exists_unit, ensure_ok, only_ok, ZkvmPolicy]
  | methodsBuild => simp only [validateZkvmNodes, ensure_ok, ZkvmPolicy]

lemma validateMethodsNodes_ok {nodes : List MetadataNode} {role : CargoClosureRole} :
    validateMethodsNodes nodes role = .ok () ↔ MethodsPolicy nodes role := by
  simp only [validateMethodsNodes, bind_ok, exists_unit, ensure_ok, only_ok, MethodsPolicy, decide_eq_true_eq,
    decide_eq_false_iff_not]
  refine exists_congr fun methods => and_congr_right fun _ => ?_
  by_cases hrole : role = .guest
  · simp [hrole]
  · simp [hrole]

variable {metadata : MetadataDocument} {index : Packages}

lemma namedNodes_eq (h : indexPackages (fun _ => .ok ()) metadata.packages = .ok index) (name : Bytes)
    (nodes : List MetadataNode) : namedNodes index name nodes = nodesNamed metadata.packages name nodes := by
  obtain ⟨-, -, hperm⟩ := indexPackages_ok.mp h
  apply List.filter_congr
  intro node _
  have hfound : ∀ package, index[node.id]? = some package ↔ package ∈ metadata.packages ∧ package.id = node.id := by
    intro package
    rw [← SortedMap.mem_toList, hperm.mem_iff, List.mem_map]
    constructor
    · rintro ⟨other, hmem, heq⟩
      obtain ⟨hid, rfl⟩ := Prod.mk.inj heq
      exact ⟨hmem, hid⟩
    · rintro ⟨hmem, hid⟩
      exact ⟨package, hmem, by rw [hid]⟩
  rw [Bool.eq_iff_iff, Option.any_eq_true, List.any_eq_true]
  simp only [Bool.and_eq_true, beq_iff_eq, hfound, and_assoc]

lemma validateRolePolicy_ok (h : indexPackages (fun _ => .ok ()) metadata.packages = .ok index)
    {nodes : List MetadataNode} {role : CargoClosureRole} :
    validateRolePolicy nodes index role = .ok () ↔ RolePolicy metadata nodes role := by
  simp only [validateRolePolicy, bind_ok, exists_unit, validateZkvmNodes_ok, validateMethodsNodes_ok, namedNodes_eq h,
    RolePolicy]

end Policy

section Validation

variable {root : ProfileRootIdentity} {metadata : MetadataDocument} {evidence : CargoClosureEvidence}

def CargoConfigurationEvidence.absent : CargoConfigurationEvidence := ⟨[], [], [], [], none, none⟩

/-- What the validator asks for beyond the derivation. -/
structure Permitted (root : ProfileRootIdentity) (metadata : MetadataDocument) (evidence : CargoClosureEvidence) :
    Prop where
  configuration : evidence.configuration = .absent
  sources : ∀ package ∈ metadata.packages, validatePackageSource root package = .ok ()
  features : ∀ resolve, metadata.resolve = some resolve → ∀ node ∈ resolve.nodes, NoForbidden node.features
  policy : ∀ resolve, metadata.resolve = some resolve → RolePolicy metadata resolve.nodes evidence.role

lemma validateConfiguration_ok {configuration : CargoConfigurationEvidence} :
    validateConfiguration configuration = .ok () ↔ configuration = .absent := by
  simp only [validateConfiguration, bind_ok, exists_unit, ensure_ok]
  obtain ⟨patches, replacements, sourceReplacements, pathOverrides, wrapper, workspaceWrapper⟩ := configuration
  rw [CargoConfigurationEvidence.absent, CargoConfigurationEvidence.mk.injEq]

lemma indexValidated_ok {packages : List MetadataPackage} {index : Packages} :
    indexPackages (validatePackageSource root) packages = .ok index ↔
      indexPackages (fun _ => .ok ()) packages = .ok index ∧
        ∀ package ∈ packages, validatePackageSource root package = .ok () := by
  rw [indexPackages_ok, indexPackages_ok]
  constructor
  · rintro ⟨hcheck, hnodup, hperm⟩
    exact ⟨⟨fun _ _ => rfl, hnodup, hperm⟩, hcheck⟩
  · rintro ⟨⟨-, hnodup, hperm⟩, hcheck⟩
    exact ⟨hcheck, hnodup, hperm⟩

lemma derived_features {index : Packages} {nodes : List MetadataNode} {m : SortedMap Bytes (List Bytes)}
    (h : nodes.foldlM (deriveNode root index) ∅ = .ok m) :
    ∀ b ∈ m.toList, b.2.Nodup ∧ ∃ node ∈ nodes, b.2 = node.features := by
  obtain ⟨bs, hbs, -, hperm⟩ := deriveNodes_ok.mp h
  intro b hb
  obtain ⟨node, hnode, _, -, -, hnodup, heq⟩ := Keyed.forall₂_mem_left hbs.flip (hperm.mem_iff.mp hb)
  exact ⟨heq ▸ hnodup, node, hnode, heq⟩

lemma validate_ok : validateCargoClosure root metadata evidence = .ok () ↔
    deriveCargoClosureEvidence root metadata evidence.role evidence.configuration = .ok evidence ∧
      Permitted root metadata evidence := by
  simp only [validateCargoClosure, validateEvidenceMarkers, bind_ok, exists_unit, ensure_ok, context_ok,
    validateConfiguration_ok, indexValidated_ok, resolveNodes_ok, derive_ok]
  constructor
  · rintro ⟨⟨hschema, hlifecycle, hidentity⟩, hconfiguration, resolve, hresolve, index, ⟨hindex, hsources⟩, nodes,
      ⟨hnodes, hallowed⟩, hevidence, hpolicy⟩
    have hfeatures := derived_features hnodes
    rw [validateFeatureEvidence_ok (fun b hb => (hfeatures b hb).1)] at hevidence
    · rw [validateRolePolicy_ok hindex] at hpolicy
      refine ⟨⟨resolve, index, nodes, hresolve, hindex, hnodes, ?_⟩, hconfiguration, hsources, ?_, ?_⟩
      · rw [← hschema, ← hlifecycle, ← hidentity, ← hevidence]
      · intro other hother
        rw [hresolve, Option.some.injEq] at hother
        exact hother ▸ hallowed
      · intro other hother
        rw [hresolve, Option.some.injEq] at hother
        exact hother ▸ hpolicy
    · intro b hb
      obtain ⟨-, node, hnode, heq⟩ := hfeatures b hb
      exact heq ▸ hallowed node hnode
  · rintro ⟨⟨resolve, index, nodes, hresolve, hindex, hnodes, hevidence⟩, hpermitted⟩
    have hfeatures := derived_features hnodes
    have hallowed := hpermitted.features resolve hresolve
    have htree : evidence.featureTree = nodes.toList.map treeEntry := by rw [hevidence]
    refine ⟨⟨by rw [hevidence], by rw [hevidence], by rw [hevidence]⟩, hpermitted.configuration, resolve, hresolve, index,
      ⟨hindex, hpermitted.sources⟩, nodes, ⟨hnodes, hallowed⟩, ?_, ?_⟩
    · refine (validateFeatureEvidence_ok (fun b hb => (hfeatures b hb).1) fun b hb => ?_).mpr htree
      obtain ⟨-, node, hnode, heq⟩ := hfeatures b hb
      exact heq ▸ hallowed node hnode
    · exact (validateRolePolicy_ok hindex).mpr (hpermitted.policy resolve hresolve)

end Validation

section Rearranged

/-- The same node up to the order of its features. -/
def SameNode (a b : MetadataNode) : Prop := a.id = b.id ∧ a.features.Perm b.features

def SameNodes (nodes nodes' : List MetadataNode) : Prop := ∃ moved, nodes.Perm moved ∧ List.Forall₂ SameNode moved nodes'

structure Rearranged (metadata metadata' : MetadataDocument) : Prop where
  packages : metadata.packages.Perm metadata'.packages
  resolve : Option.Rel (fun a b => SameNodes a.nodes b.nodes) metadata.resolve metadata'.resolve

lemma SameNode.symm {a b : MetadataNode} (h : SameNode a b) : SameNode b a := ⟨h.1.symm, h.2.symm⟩

lemma SameNodes.symm {nodes nodes' : List MetadataNode} (h : SameNodes nodes nodes') : SameNodes nodes' nodes := by
  obtain ⟨moved, hperm, hsame⟩ := h
  have hflip : List.Forall₂ SameNode nodes' moved := hsame.flip.imp fun _ _ => SameNode.symm
  have hcomp : Relation.Comp List.Perm (List.Forall₂ SameNode) nodes' nodes := by
    rw [← List.forall₂_comp_perm_eq_perm_comp_forall₂]
    exact ⟨moved, hflip, hperm.symm⟩
  exact hcomp

lemma Rearranged.symm {metadata metadata' : MetadataDocument} (h : Rearranged metadata metadata') :
    Rearranged metadata' metadata where
  packages := h.packages.symm
  resolve := by
    have hrel := h.resolve
    generalize metadata.resolve = resolve at hrel ⊢
    generalize metadata'.resolve = resolve' at hrel ⊢
    cases hrel with
    | some hnodes => exact .some hnodes.symm
    | none => exact .none

lemma SameNodes.filter {nodes nodes' : List MetadataNode} (h : SameNodes nodes nodes') {p : MetadataNode → Bool}
    (hp : ∀ a b, SameNode a b → p a = p b) : SameNodes (nodes.filter p) (nodes'.filter p) := by
  obtain ⟨moved, hperm, hsame⟩ := h
  refine ⟨moved.filter p, hperm.filter p, ?_⟩
  clear hperm
  induction hsame with
  | nil => exact .nil
  | cons hab _ ih =>
    rw [List.filter_cons, List.filter_cons, hp _ _ hab]
    split
    · exact .cons hab ih
    · exact ih

lemma SameNodes.eq_singleton {node : MetadataNode} {nodes' : List MetadataNode} (h : SameNodes [node] nodes') :
    ∃ node', nodes' = [node'] ∧ SameNode node node' := by
  obtain ⟨moved, hperm, hsame⟩ := h
  rw [List.singleton_perm] at hperm
  subst hperm
  obtain ⟨node', rest, hnode, hrest, rfl⟩ := List.forall₂_cons_left_iff.mp hsame
  rw [List.forall₂_nil_left_iff.mp hrest]
  exact ⟨node', rfl, hnode⟩

lemma SameNodes.eq_nil {nodes' : List MetadataNode} (h : SameNodes [] nodes') : nodes' = [] := by
  obtain ⟨moved, hperm, hsame⟩ := h
  rw [List.nil_perm] at hperm
  subst hperm
  exact List.forall₂_nil_left_iff.mp hsame

variable {root : ProfileRootIdentity} {nodes nodes' : List MetadataNode}

lemma ZkvmPolicy.same (h : SameNodes nodes nodes') {role : CargoClosureRole} (hp : ZkvmPolicy nodes role) :
    ZkvmPolicy nodes' role := by
  cases role with
  | generatorHost =>
    obtain ⟨zkvm, rfl, hdefault, hdev, hprove⟩ := hp
    obtain ⟨zkvm', rfl, -, hfeatures⟩ := h.eq_singleton
    refine ⟨zkvm', rfl, ?_, hfeatures.mem_iff.mp hdev, hfeatures.mem_iff.mp hprove⟩
    exact fun hmem => hdefault (hfeatures.mem_iff.mpr hmem)
  | guest =>
    obtain ⟨zkvm, rfl, hdefault, hprove⟩ := hp
    obtain ⟨zkvm', rfl, -, hfeatures⟩ := h.eq_singleton
    refine ⟨zkvm', rfl, fun hmem => hdefault ?_, fun hmem => hprove ?_⟩
    · exact hfeatures.mem_iff.mpr hmem
    · exact hfeatures.mem_iff.mpr hmem
  | methodsBuild =>
    rw [ZkvmPolicy] at hp ⊢
    subst hp
    exact h.eq_nil

lemma MethodsPolicy.same (h : SameNodes nodes nodes') {role : CargoClosureRole} (hp : MethodsPolicy nodes role) :
    MethodsPolicy nodes' role := by
  obtain ⟨methods, rfl, hembeds⟩ := hp
  obtain ⟨methods', rfl, -, hfeatures⟩ := h.eq_singleton
  exact ⟨methods', rfl, hfeatures.mem_iff.symm.trans hembeds⟩

lemma SameNodes.named {packages packages' : List MetadataPackage} (hpackages : packages.Perm packages')
    (h : SameNodes nodes nodes') (name : Bytes) :
    SameNodes (nodesNamed packages name nodes) (nodesNamed packages' name nodes') := by
  have hsame : ∀ nodes, nodesNamed packages name nodes = nodesNamed packages' name nodes := by
    intro nodes
    apply List.filter_congr
    intro node _
    rw [Bool.eq_iff_iff, List.any_eq_true, List.any_eq_true]
    exact exists_congr fun package => and_congr_left fun _ => hpackages.mem_iff
  rw [← hsame nodes']
  exact h.filter fun a b hab => by rw [hab.1]

lemma deriveNodes_same {index : Packages} {m : SortedMap Bytes (List Bytes)} (h : SameNodes nodes nodes')
    (hm : nodes.foldlM (deriveNode root index) ∅ = .ok m) :
    ∃ m', nodes'.foldlM (deriveNode root index) ∅ = .ok m' ∧ m'.toList.map treeEntry = m.toList.map treeEntry := by
  obtain ⟨moved, hperm, hsame⟩ := h
  obtain ⟨bs, hbs, hkeys, hbindings⟩ := deriveNodes_ok.mp hm
  obtain ⟨bs₁, hbs₁, hmoved⟩ := List.perm_comp_forall₂ hperm.symm hbs
  have hother : ∃ bs₂, List.Forall₂ (Binds root index) nodes' bs₂ ∧ bs₂.map Prod.fst = bs₁.map Prod.fst ∧
      bs₂.map treeEntry = bs₁.map treeEntry := by
    clear hmoved hperm
    induction hsame generalizing bs₁ with
    | nil =>
      rw [List.forall₂_nil_left_iff] at hbs₁
      subst hbs₁
      exact ⟨[], .nil, rfl, rfl⟩
    | @cons node node' _ _ hnode _ ih =>
      obtain ⟨b, rest, ⟨package, hpackage, hid, hnodup, hfeatures⟩, hrest, rfl⟩ := List.forall₂_cons_left_iff.mp hbs₁
      obtain ⟨rest₂, hrest₂, hfirst, hentries⟩ := ih rest hrest
      refine ⟨(b.1, node'.features) :: rest₂, .cons ⟨package, ?_, hid, hnode.2.nodup_iff.mp hnodup, rfl⟩ hrest₂, ?_, ?_⟩
      · rw [← hnode.1]
        exact hpackage
      · rw [List.map_cons, List.map_cons, hfirst]
      · rw [List.map_cons, List.map_cons, hentries, treeEntry, treeEntry, hfeatures, sortFeatures_congr hnodup hnode.2]
  obtain ⟨bs₂, hbs₂, hfirst, hentries⟩ := hother
  have hkeys₂ : (bs₂.map Prod.fst).Nodup := by
    rw [hfirst]
    exact (hmoved.map Prod.fst).nodup_iff.mpr hkeys
  obtain ⟨m', hm'⟩ := SortedMap.exists_perm hkeys₂
  refine ⟨m', deriveNodes_ok.mpr ⟨bs₂, hbs₂, hkeys₂, hm'⟩, ?_⟩
  have hperm' : (m'.toList.map treeEntry).Perm (m.toList.map treeEntry) :=
    (hm'.map treeEntry).trans (hentries ▸ (hmoved.map treeEntry).trans (hbindings.map treeEntry).symm)
  have hordered : ∀ m : SortedMap Bytes (List Bytes),
      (m.toList.map treeEntry).Pairwise fun a b => Before a.packageId b.packageId := by
    intro m
    rw [List.pairwise_map]
    exact m.ordered_keys_toList
  refine List.Perm.eq_of_pairwise ?_ (hordered m') (hordered m) hperm'
  intro a b _ _ hab hba
  exact absurd (Trans.trans hab hba) (Before.irrefl _)

variable {metadata metadata' : MetadataDocument}

lemma derive_rearranged (h : Rearranged metadata metadata') {role : CargoClosureRole}
    {configuration : CargoConfigurationEvidence} {evidence : CargoClosureEvidence}
    (hd : deriveCargoClosureEvidence root metadata role configuration = .ok evidence) :
    deriveCargoClosureEvidence root metadata' role configuration = .ok evidence := by
  obtain ⟨resolve, index, nodes, hresolve, hindex, hnodes, rfl⟩ := derive_ok.mp hd
  obtain ⟨hpackages, hrel⟩ := h
  rw [hresolve] at hrel
  cases hresolve' : metadata'.resolve with
  | none =>
    rw [hresolve'] at hrel
    cases hrel
  | some resolve' =>
    rw [hresolve'] at hrel
    cases hrel with
    | some hsame =>
      obtain ⟨m', hm', htree⟩ := deriveNodes_same hsame hnodes
      obtain ⟨-, hids, hperm⟩ := indexPackages_ok.mp hindex
      have hindex' : indexPackages (fun _ => .ok ()) metadata'.packages = .ok index :=
        indexPackages_ok.mpr ⟨fun _ _ => rfl, (hpackages.map _).nodup_iff.mp hids, hperm.trans (hpackages.map _)⟩
      exact derive_ok.mpr ⟨resolve', index, m', hresolve', hindex', hm', by rw [htree]⟩

lemma Permitted.rearranged (h : Rearranged metadata metadata') {evidence : CargoClosureEvidence}
    (hp : Permitted root metadata evidence) : Permitted root metadata' evidence := by
  have hnodes : ∀ resolve', metadata'.resolve = some resolve' →
      ∃ resolve, metadata.resolve = some resolve ∧ SameNodes resolve.nodes resolve'.nodes := by
    intro resolve' hresolve'
    have hrel := h.resolve
    rw [hresolve'] at hrel
    cases hresolve : metadata.resolve with
    | none =>
      rw [hresolve] at hrel
      cases hrel
    | some resolve =>
      rw [hresolve] at hrel
      cases hrel with
      | some hsame => exact ⟨resolve, rfl, hsame⟩
  refine ⟨hp.configuration, fun package hpackage => hp.sources package (h.packages.mem_iff.mpr hpackage), ?_, ?_⟩
  · intro resolve' hresolve' node' hnode' feature hfeature
    obtain ⟨resolve, hresolve, moved, hperm, hsame⟩ := hnodes resolve' hresolve'
    obtain ⟨node, hnode, hsamenode⟩ := Keyed.forall₂_mem_left hsame.flip hnode'
    exact hp.features resolve hresolve node (hperm.mem_iff.mpr hnode) feature (hsamenode.2.mem_iff.mpr hfeature)
  · intro resolve' hresolve'
    obtain ⟨resolve, hresolve, hsame⟩ := hnodes resolve' hresolve'
    obtain ⟨hzkvm, hmethods⟩ := hp.policy resolve hresolve
    exact ⟨hzkvm.same (hsame.named h.packages _), hmethods.same (hsame.named h.packages _)⟩

lemma validate_rearranged (h : Rearranged metadata metadata') {evidence : CargoClosureEvidence}
    (hv : validateCargoClosure root metadata evidence = .ok ()) :
    validateCargoClosure root metadata' evidence = .ok () := by
  obtain ⟨hderived, hpermitted⟩ := validate_ok.mp hv
  exact validate_ok.mpr ⟨derive_rearranged h hderived, hpermitted.rearranged h⟩

end Rearranged

section Confinement

variable {root : ProfileRootIdentity} {path : Bytes}

lemma splitOn_lower (path : Bytes) :
    (toAsciiLowercase path).splitOn slash = (path.splitOn slash).map toAsciiLowercase := by
  induction path with
  | nil => rfl
  | cons c path ih =>
    have hslash : ((if 65 ≤ c ∧ c ≤ 90 then c + 32 else c) == slash) = (c == slash) := by
      rw [Bool.eq_iff_iff, beq_iff_eq, beq_iff_eq]
      split
      · rename_i hletter
        simp only [UInt8.le_iff_toNat_le, slash, ← UInt8.toNat_inj, UInt8.toNat_add] at hletter ⊢
        simp only [UInt8.reduceToNat] at hletter ⊢
        omega
      · rfl
    rw [toAsciiLowercase, List.map_cons, List.splitOn_cons_eq_if_modifyHead, List.splitOn_cons_eq_if_modifyHead, hslash]
    change (if (c == slash) = true then [] :: (toAsciiLowercase path).splitOn slash else
      ((toAsciiLowercase path).splitOn slash).modifyHead _) = _
    rw [ih]
    split
    · rfl
    · obtain ⟨first, rest, hsplit⟩ := List.exists_cons_of_ne_nil (List.splitOn_ne_nil slash path)
      rw [hsplit]
      rfl

lemma rootBody_some {normalized body : Bytes} (h : rootBody normalized = some body) :
    ∃ first, slash ∉ first ∧ normalized = first ++ slash :: body := by
  rw [rootBody] at h
  split at h
  · split at h
    · cases h
    · rename_i hcolon hdrive
      rw [not_or, not_not, Bool.not_eq_false] at hdrive
      obtain ⟨hletter, hslash⟩ := hdrive
      obtain _ | ⟨drive, _ | ⟨second, _ | ⟨third, rest⟩⟩⟩ := normalized
      · simp at hcolon
      · simp at hcolon
      · simp at hslash
      · simp only [List.getElem?_cons_succ, List.getElem?_cons_zero, Option.some.injEq] at hcolon hslash
        simp only [List.head?_cons, Option.any_some] at hletter
        have hne : drive ≠ slash := by
          rintro rfl
          exact absurd hletter (by decide)
        subst hcolon hslash
        refine ⟨[drive, colon], ?_, by rw [← Option.some.inj h]; rfl⟩
        rw [List.mem_cons, List.mem_singleton, not_or]
        exact ⟨hne.symm, by decide⟩
  · have hslash := stripInitial_eq_some.mp h
    exact ⟨[], List.not_mem_nil, hslash⟩

lemma normalize_components {raw : Bytes} {windows : Bool} (h : normalizeAbsoluteRoot raw = some (path, windows)) :
    ∃ first components, path.splitOn slash = first :: components ∧ ∀ c ∈ components, plainComponent c = true := by
  simp only [normalizeAbsoluteRoot, Option.bind_eq_bind, Option.bind_eq_some_iff, Option.guard_eq_some', exists_unit,
    Option.pure_def, Option.some.injEq, Prod.mk.injEq] at h
  obtain ⟨-, body, hbody, -, hplain, hpath, -⟩ := h
  obtain ⟨first, hfirst, hsplit⟩ := rootBody_some hbody
  rw [hpath] at hsplit
  refine ⟨first, body.splitOn slash, ?_, List.all_eq_true.mp hplain⟩
  rw [hsplit, List.splitOn_append_cons_self, List.splitOn_eq_singleton hfirst]
  rfl

/-- The same components, in a root of Windows up to the case of letters. -/
def SameComponents (root : ProfileRootIdentity) (components : List Bytes) : Prop :=
  if root.windowsSemantics then
    components.map toAsciiLowercase = (root.privateRoot.splitOn slash).map toAsciiLowercase
  else components = root.privateRoot.splitOn slash

lemma suffixOf_some {suffix : Bytes} (h : root.suffixOf path = some suffix) :
    ∃ above, path = above ++ suffix ∧ SameComponents root (above.splitOn slash) := by
  rw [ProfileRootIdentity.suffixOf] at h
  split at h
  · rename_i hwindows
    obtain ⟨rest, hrest, rfl⟩ := Option.map_eq_some_iff.mp h
    rw [stripInitial_eq_some] at hrest
    refine ⟨path.take root.privateRoot.length, (List.take_append_drop _ _).symm, ?_⟩
    have hlower : toAsciiLowercase (path.take root.privateRoot.length) = toAsciiLowercase root.privateRoot := by
      have hlength : (toAsciiLowercase root.privateRoot).length = root.privateRoot.length := List.length_map _
      rw [toAsciiLowercase, List.map_take]
      change (toAsciiLowercase path).take _ = _
      rw [hrest, ← hlength, List.take_left]
    rw [SameComponents, if_pos hwindows, ← splitOn_lower, hlower, splitOn_lower]
  · rename_i hposix
    rw [stripInitial_eq_some] at h
    exact ⟨root.privateRoot, h, by rw [SameComponents, if_neg hposix]⟩

/-- The manifest of a package lies below the root, component by component. -/
def BelowRoot (root : ProfileRootIdentity) (manifestPath : Bytes) : Prop :=
  ∃ path, normalizeAbsoluteRoot manifestPath = some (path, root.windowsSemantics) ∧
    ∃ above below, path.splitOn slash = above ++ below ∧ SameComponents root above ∧
      (∀ c ∈ below, plainComponent c = true) ∧ below.getLast? = some (utf8 "Cargo.toml")

lemma relativeManifest_below {manifestPath : Bytes} (h : root.relativeManifest manifestPath ≠ none) :
    BelowRoot root manifestPath := by
  obtain ⟨relative, hrelative⟩ := Option.ne_none_iff_exists'.mp h
  simp only [ProfileRootIdentity.relativeManifest, Option.bind_eq_bind, Option.bind_eq_some_iff, Option.guard_eq_some',
    exists_unit] at hrelative
  obtain ⟨⟨path, windows⟩, hpath, ⟨hwindows, hmanifest⟩, suffix, hsuffix, hstrip⟩ := hrelative
  simp only at hwindows hmanifest hsuffix
  subst hwindows
  rw [stripInitial_eq_some] at hstrip
  obtain ⟨above, habove, hsame⟩ := suffixOf_some hsuffix
  have hsplit : path.splitOn slash = above.splitOn slash ++ relative.splitOn slash := by
    rw [habove, hstrip, List.singleton_append, List.splitOn_append_cons_self]
  refine ⟨path, hpath, above.splitOn slash, relative.splitOn slash, hsplit, hsame, fun c hc => ?_, ?_⟩
  · obtain ⟨first, components, hfirst, hplain⟩ := normalize_components hpath
    obtain ⟨a, as, has⟩ := List.exists_cons_of_ne_nil (List.splitOn_ne_nil slash above)
    rw [hfirst, has, List.cons_append] at hsplit
    apply hplain
    rw [(List.cons.inj hsplit).2]
    exact List.mem_append_right as hc
  · obtain ⟨initial, hinitial⟩ := hmanifest
    have hlast : path.splitOn slash = initial.splitOn slash ++ [utf8 "Cargo.toml"] := by
      have hname : utf8 "/Cargo.toml" = slash :: utf8 "Cargo.toml" := by decide
      have hplain : slash ∉ utf8 "Cargo.toml" := by decide
      rw [← hinitial, hname, List.splitOn_append_cons_self, List.splitOn_eq_singleton hplain]
    have hends : (above.splitOn slash ++ relative.splitOn slash).getLast? = some (utf8 "Cargo.toml") := by
      rw [← hsplit, hlast, List.getLast?_append, List.getLast?_singleton]
      rfl
    rw [List.getLast?_append_of_ne_nil _ (List.splitOn_ne_nil _ _)] at hends
    exact hends

lemma validatePackageSource_local {package : MetadataPackage} (hsource : package.source = none)
    (h : validatePackageSource root package = .ok ()) : BelowRoot root package.manifestPath := by
  rw [validatePackageSource, hsource] at h
  exact relativeManifest_below (ensure_ok.mp h).2

end Confinement

/-- The validator accepts exactly the evidence that is derived where the document is permitted, at most one for each
role; the order of packages, nodes and features changes neither; and accepted local packages lie below the root. -/
theorem cargo_closure_agreement (root : ProfileRootIdentity) :
    (∀ metadata evidence, validateCargoClosure root metadata evidence = .ok () ↔
      deriveCargoClosureEvidence root metadata evidence.role evidence.configuration = .ok evidence ∧
        Permitted root metadata evidence) ∧
    (∀ metadata evidence evidence', validateCargoClosure root metadata evidence = .ok () →
      validateCargoClosure root metadata evidence' = .ok () → evidence.role = evidence'.role → evidence = evidence') ∧
    (∀ metadata metadata', Rearranged metadata metadata' →
      (∀ evidence, validateCargoClosure root metadata evidence = .ok () ↔
        validateCargoClosure root metadata' evidence = .ok ()) ∧
      ∀ role configuration evidence, deriveCargoClosureEvidence root metadata role configuration = .ok evidence ↔
        deriveCargoClosureEvidence root metadata' role configuration = .ok evidence) ∧
    ∀ metadata evidence, validateCargoClosure root metadata evidence = .ok () →
      ∀ package ∈ metadata.packages, package.source = none → BelowRoot root package.manifestPath := by
  refine ⟨fun _ _ => validate_ok, ?_, fun metadata metadata' h => ⟨fun evidence => ?_, fun role configuration evidence => ?_⟩,
    ?_⟩
  · intro metadata evidence evidence' hv hv' hrole
    obtain ⟨hderived, hpermitted⟩ := validate_ok.mp hv
    obtain ⟨hderived', hpermitted'⟩ := validate_ok.mp hv'
    rw [hpermitted.configuration, hrole] at hderived
    rw [hpermitted'.configuration, hderived] at hderived'
    exact Except.ok.inj hderived'
  · exact ⟨validate_rearranged h, validate_rearranged h.symm⟩
  · exact ⟨derive_rearranged h, derive_rearranged h.symm⟩
  · intro metadata evidence hv package hpackage hsource
    exact validatePackageSource_local hsource ((validate_ok.mp hv).2.sources package hpackage)

end Eip0045.CargoClosure
