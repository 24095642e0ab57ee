import Eip0045.Campaign.Preflight
import Eip0045.Corpus.TreeWalk

/-! The roots and the leaves of a projected layout: none of them lies above another. -/

namespace Eip0045.Campaign

open Bytes Checked UnixPath

section Components

variable {name : Bytes} {label : String} {names : List Bytes} {path root : Path} {e n : ℕ} {m : ℕ × ℕ}

structure PortableComponent (name : Bytes) : Prop where
  length : 1 ≤ name.length ∧ name.length ≤ 240
  ascii : (name.all fun c => c < 128) = true
  first : (name.head?.any fun c => Materialization.isAsciiLowercase c || Materialization.isAsciiDigit c) = true
  alphabet : (name.all fun c => Materialization.isAsciiLowercase c || Materialization.isAsciiDigit c ||
    c == 46 || c == 95 || c == 45) = true
  dots : name ≠ utf8 "." ∧ name ≠ utf8 ".." ∧ name.getLast? ≠ some 46
  device : Materialization.isWindowsDeviceName ((name.splitOn 46).headD name) = false

lemma validatePortableComponent_ok : validatePortableComponent name label = .ok () ↔
    PortableComponent name := by
  simp only [validatePortableComponent, bind_ok, exists_unit, ensure_ok]
  constructor
  · rintro ⟨hlength, hascii, hfirst, halphabet, hdots, hdevice⟩
    exact ⟨hlength, hascii, hfirst, halphabet, hdots, hdevice⟩
  · rintro ⟨hlength, hascii, hfirst, halphabet, hdots, hdevice⟩
    exact ⟨hlength, hascii, hfirst, halphabet, hdots, hdevice⟩

lemma PortableComponent.toStr (h : PortableComponent name) : toStr name = some name := by
  apply if_pos
  apply ByteArray.validateUTF8_eq_true_iff.mpr
  apply B4Tree.isValidUTF8_ascii
  intro c hc
  have hcode := List.all_eq_true.mp h.ascii c hc
  rw [decide_eq_true_eq] at hcode
  exact UInt8.lt_iff_toNat_lt.mp hcode

lemma PortableComponent.ne_nil (h : PortableComponent name) : name ≠ [] := by
  rintro rfl
  exact absurd h.length.1 (by decide)

lemma PortableComponent.no_slash (h : PortableComponent name) : 47 ∉ name := by
  intro hmem
  exact absurd (List.all_eq_true.mp h.alphabet 47 hmem) (by decide)

lemma PortableComponent.ne_dot (h : PortableComponent name) : name ≠ [46] ∧ name ≠ [46, 46] := by
  constructor
  · rintro rfl
    exact absurd h.first (by decide)
  · rintro rfl
    exact absurd h.first (by decide)

lemma PortableComponent.component (h : PortableComponent name) : component name = some (.normal name) := by
  rw [UnixPath.component, if_neg, if_neg h.ne_dot.2]
  rintro (hnil | hdot)
  · exact h.ne_nil hnil
  · exact h.ne_dot.1 hdot

lemma normalName_ok {c : Component} : normalName label c = .ok name ↔ c = .normal name ∧
    toStr name = some name := by
  cases c with
  | normal other =>
    rw [normalName, context_ok, Component.normal.injEq, UnixPath.toStr]
    constructor
    · intro h
      obtain ⟨hvalid, hname⟩ := Option.ite_none_right_eq_some.mp h
      obtain rfl := Option.some.inj hname
      exact ⟨rfl, if_pos hvalid⟩
    · rintro ⟨rfl, h⟩
      exact h
  | _ => simp [normalName]

/-- The length of names joined by slashes, behind `n` of them in `e` bytes. -/
def joinedLength : ℕ → ℕ → List Bytes → ℕ
  | e, _, [] => e
  | e, n, name :: names => joinedLength (e + (if n ≠ 0 then 1 else 0) + name.length) (n + 1) names

lemma le_joinedLength (e n : ℕ) (names : List Bytes) : e ≤ joinedLength e n names := by
  induction names generalizing e n with
  | nil => exact Nat.le_refl e
  | cons name names ih =>
    have hrest := ih (e + (if n ≠ 0 then 1 else 0) + name.length) (n + 1)
    rw [joinedLength]
    omega

lemma joinedLength_eq (e n : ℕ) (names : List Bytes) (h : names ≠ []) :
    joinedLength e n names = e + (if n ≠ 0 then 1 else 0) + ([47].intercalate names).length := by
  induction names generalizing e n with
  | nil => exact absurd rfl h
  | cons name names ih =>
    rw [joinedLength]
    by_cases hnames : names = []
    · rw [hnames, joinedLength]
      simp
    · rw [ih _ _ hnames, List.intercalate_cons_of_ne_nil hnames, if_pos (Nat.succ_ne_zero n)]
      simp only [List.length_append, List.length_singleton]
      omega

lemma portableLength_ok : portableLength label path e n = .ok m ↔ ∃ names : List Bytes,
    path = names.map .normal ∧ (∀ name ∈ names, PortableComponent name) ∧
      m = (joinedLength e n names, n + names.length) ∧ (names ≠ [] → joinedLength e n names < 2 ^ 64) := by
  induction path generalizing e n with
  | nil =>
    simp only [portableLength, pure_ok]
    constructor
    · rintro rfl
      exact ⟨[], rfl, by simp, rfl, fun h => absurd rfl h⟩
    · rintro ⟨names, hnames, -, rfl, -⟩
      obtain rfl : names = [] := List.map_eq_nil_iff.mp hnames.symm
      rfl
  | cons c path ih =>
    simp only [portableLength, bind_ok, exists_unit, context_ok, checkedAdd_eq_some, normalName_ok,
      validatePortableComponent_ok, ih]
    constructor
    · rintro ⟨name, ⟨rfl, -⟩, hname, _, ⟨-, rfl⟩, _, ⟨hbound, rfl⟩, names, rfl, hnames, rfl, hrest⟩
      refine ⟨name :: names, rfl, List.forall_mem_cons.mpr ⟨hname, hnames⟩, ?_, fun _ => ?_⟩
      · rw [joinedLength, List.length_cons]
        exact congrArg (Prod.mk _) (by omega)
      · rw [joinedLength]
        by_cases hnil : names = []
        · rw [hnil]
          exact hbound
        · exact hrest hnil
    · rintro ⟨names, hpath, hnames, rfl, hbound⟩
      cases names with
      | nil => cases hpath
      | cons name names =>
        rw [List.map_cons, List.cons.injEq] at hpath
        obtain ⟨rfl, rfl⟩ := hpath
        rw [List.forall_mem_cons] at hnames
        have hbound := hbound (List.cons_ne_nil _ _)
        rw [joinedLength] at hbound
        have hle := le_joinedLength (e + (if n ≠ 0 then 1 else 0) + name.length) (n + 1) names
        refine ⟨name, ⟨rfl, hnames.1.toStr⟩, hnames.1, _, ⟨by omega, rfl⟩, _, ⟨by omega, rfl⟩, names, rfl,
          hnames.2, ?_, fun _ => hbound⟩
        rw [joinedLength, List.length_cons]
        exact congrArg (Prod.mk _) (by omega)

/-- Names whose joined text is a portable relative path. -/
structure PortableNames (names : List Bytes) : Prop where
  ne_nil : names ≠ []
  portable : ∀ name ∈ names, PortableComponent name
  bound : ([47].intercalate names).length ≤ 240

lemma validatePortableRelativePath_ok : validatePortableRelativePath path label = .ok () ↔
    ∃ names : List Bytes, path = names.map .normal ∧ PortableNames names := by
  simp only [validatePortableRelativePath, bind_ok, exists_unit, ensure_ok, portableLength_ok]
  constructor
  · rintro ⟨hne, _, ⟨names, rfl, hnames, rfl, -⟩, -, -, hbound⟩
    have hnil : names ≠ [] := fun h => hne (by rw [h]; rfl)
    refine ⟨names, rfl, hnil, hnames, ?_⟩
    rw [joinedLength_eq 0 0 names hnil] at hbound
    simpa [maxCampaignRelativePathBytes] using hbound
  · rintro ⟨names, rfl, hnil, hnames, hbound⟩
    have hlength : joinedLength 0 0 names = ([47].intercalate names).length := by
      rw [joinedLength_eq 0 0 names hnil]
      simp
    obtain ⟨name, rest, rfl⟩ := List.exists_cons_of_ne_nil hnil
    have hpos : 1 ≤ ([47].intercalate (name :: rest)).length := by
      have hname := (hnames name List.mem_cons_self).length.1
      by_cases hrest : rest = []
      · rw [hrest]
        simpa using hname
      · rw [List.intercalate_cons_of_ne_nil hrest, List.length_append, List.length_append]
        omega
    refine ⟨by simp, _, ⟨name :: rest, rfl, hnames, rfl, fun _ => by omega⟩, by simp, ?_, ?_⟩
    · rw [hlength]
      exact hpos
    · rw [hlength]
      exact hbound

end Components

section Descent

variable {path root relative : Path} {label : String} {names : List Bytes}

/-- `path` lies strictly below `root`, at the given names. -/
def BelowAt (root path : Path) (names : List Bytes) : Prop := names ≠ [] ∧ path = root ++ names.map .normal

def StrictlyBelow (root path : Path) : Prop := ∃ names, BelowAt root path names

lemma validateNormalizedAbsolute_ok : validateNormalizedAbsolute path label = .ok () ↔ Normalized path := by
  simp only [validateNormalizedAbsolute, bind_ok, exists_unit, ensure_ok, normalized_iff]

lemma normalized_append (h : Normalized path) (names : List Bytes) : Normalized (path ++ names.map .normal) := by
  obtain ⟨base, rfl⟩ := h
  exact ⟨base ++ names, by simp⟩

lemma stripPrefix_eq_some : stripPrefix path root = some relative ↔ path = root ++ relative := by
  rw [stripPrefix, startsWith, Option.ite_none_right_eq_some, List.isPrefixOf_iff_prefix, Option.some.injEq]
  constructor
  · rintro ⟨⟨rest, rfl⟩, rfl⟩
    rw [List.drop_left]
  · rintro rfl
    exact ⟨List.prefix_append _ _, List.drop_left⟩

lemma below_of_append (hpath : Normalized path) (hroot : Normalized root) (h : path = root ++ relative) :
    ∃ names : List Bytes, relative = names.map .normal := by
  obtain ⟨pathNames, rfl⟩ := hpath
  obtain ⟨rootNames, rfl⟩ := hroot
  rw [List.cons_append, List.cons.injEq] at h
  obtain ⟨_, names, -, -, rfl⟩ := List.map_eq_append_iff.mp h.2
  exact ⟨names, rfl⟩

lemma requireStrictDescendant_ok (hpath : Normalized path) (hroot : Normalized root) :
    requireStrictDescendant path root label = .ok relative ↔
      ∃ names, BelowAt root path names ∧ relative = names.map .normal := by
  simp only [requireStrictDescendant, bind_ok, exists_unit, context_ok, ensure_ok, pure_ok,
    stripPrefix_eq_some]
  constructor
  · rintro ⟨_, hstrip, hne, -, rfl⟩
    obtain ⟨names, rfl⟩ := below_of_append hpath hroot hstrip
    exact ⟨names, ⟨fun h => hne (by rw [h]; rfl), hstrip⟩, rfl⟩
  · rintro ⟨names, ⟨hne, hbelow⟩, rfl⟩
    obtain ⟨name, rest, rfl⟩ := List.exists_cons_of_ne_nil hne
    exact ⟨_, hbelow, by simp, rfl, rfl⟩

lemma pathsConflict_iff {left right : Path} : pathsConflict left right = true ↔ Comparable left right := by
  rw [pathsConflict, Bool.or_eq_true, startsWith, startsWith, List.isPrefixOf_iff_prefix,
    List.isPrefixOf_iff_prefix, Comparable, or_comm]

lemma pathsConflict_false {left right : Path} : pathsConflict left right = false ↔ ¬Comparable left right := by
  rw [← pathsConflict_iff, Bool.not_eq_true]

lemma requirePairwiseAntichain_ok {paths : List Path} :
    requirePairwiseAntichain label paths = .ok () ↔ Antichain paths := by
  induction paths with
  | nil => simp [requirePairwiseAntichain, Antichain, pure, Except.pure]
  | cons left rest ih =>
    simp only [requirePairwiseAntichain, bind_ok, exists_unit, forM_ok, ensure_ok, pathsConflict_false, ih]
    rw [Antichain, Antichain, List.pairwise_cons]

lemma requireNoConflicts_ok {paths forbidden : List Path} :
    requireNoConflicts paths forbidden label = .ok () ↔
      ∀ path ∈ paths, ∀ root ∈ forbidden, ¬Comparable path root := by
  simp only [requireNoConflicts, forM_ok, ensure_ok, pathsConflict_false]

end Descent

section Texts

variable {names : List Bytes} {name : Bytes}

lemma ofText_intercalate (hne : names ≠ [])
    (h : ∀ name ∈ names, 47 ∉ name ∧ component name = some (.normal name)) :
    ofText ([47].intercalate names) = names.map .normal := by
  have hsplit : ([47].intercalate names).splitOn 47 = names :=
    List.splitOn_intercalate 47 (fun name hname => (h name hname).1) hne
  obtain ⟨name, rest, rfl⟩ := List.exists_cons_of_ne_nil hne
  obtain ⟨hslash, hcomponent⟩ := h name List.mem_cons_self
  have hname : name ≠ [] ∧ name ≠ [46] := by
    constructor
    · rintro rfl
      cases hcomponent
    · rintro rfl
      cases hcomponent
  have hhead : ([47].intercalate (name :: rest)).head? ≠ some 47 := by
    obtain ⟨c, tail, rfl⟩ := List.exists_cons_of_ne_nil hname.1
    have hc : c ≠ 47 := fun h => hslash (h ▸ List.mem_cons_self)
    by_cases hrest : rest = []
    · rw [hrest]
      simpa using hc
    · rw [List.intercalate_cons_of_ne_nil hrest]
      simpa using hc
  have hfilter : (name :: rest).filterMap component = (name :: rest).map .normal := by
    rw [← List.filterMap_eq_map]
    exact List.filterMap_congr fun name hname => (h name hname).2
  rw [ofText, hsplit, if_neg hhead, if_neg (by simpa using hname.2), hfilter]

lemma ofText_name (hslash : 47 ∉ name) (hcomponent : component name = some (.normal name)) :
    ofText name = [.normal name] := by
  have h := ofText_intercalate (List.cons_ne_nil name []) (by simpa using ⟨hslash, hcomponent⟩)
  simpa using h

lemma PortableNames.ofText (h : PortableNames names) : ofText ([47].intercalate names) = names.map .normal :=
  ofText_intercalate h.ne_nil fun name hname =>
    ⟨(h.portable name hname).no_slash, (h.portable name hname).component⟩

/-- The name of the staging sibling of a name. -/
def stagingName (name : Bytes) : Bytes := [46] ++ name ++ publicationStagingSuffix

lemma stagingName_component (hslash : 47 ∉ name) :
    47 ∉ stagingName name ∧ component (stagingName name) = some (.normal (stagingName name)) := by
  have hsuffix : 47 ∉ publicationStagingSuffix ∧ 2 ≤ publicationStagingSuffix.length := by decide
  have hlength : 3 ≤ (stagingName name).length := by
    have := hsuffix.2
    simp only [stagingName, List.length_append, List.length_singleton]
    omega
  constructor
  · simp [stagingName, hslash, hsuffix.1]
  · rw [component, if_neg, if_neg]
    · intro h
      rw [h] at hlength
      exact absurd hlength (by decide)
    · rintro (h | h) <;> rw [h] at hlength <;> exact absurd hlength (by decide)

end Texts

section Closures

variable {campaignRoot outerFinalRoot stagingRoot : Path} {priorRoots : List Path}
  {closure : ProjectedCampaignRootClosure}

/-- The roots of a layout lie strictly below the campaign, and none above another. -/
structure RootClosure (campaignRoot : Path) (priorRoots : List Path) (outerFinalRoot stagingRoot : Path) :
    Prop where
  campaign : Normalized campaignRoot
  normalized : ∀ root ∈ priorRoots ++ [outerFinalRoot, stagingRoot], Normalized root
  below : ∀ root ∈ priorRoots ++ [outerFinalRoot, stagingRoot], StrictlyBelow campaignRoot root
  antichain : Antichain (priorRoots ++ [outerFinalRoot, stagingRoot])

lemma projectCampaignRootClosure_spec
    (h : projectCampaignRootClosure campaignRoot priorRoots outerFinalRoot = .ok closure) :
    closure.campaignRoot = campaignRoot ∧ closure.priorRoots = priorRoots ∧
      closure.outerFinalRoot = outerFinalRoot ∧
        RootClosure campaignRoot priorRoots outerFinalRoot closure.outerStagingRoot := by
  simp only [projectCampaignRootClosure, bind_ok, exists_unit, ensure_ok, pure_ok, mapError_ok, context_ok,
    forM_ok, validatePriorRoot, validateNormalizedAbsolute_ok, requirePairwiseAntichain_ok] at h
  obtain ⟨-, hcampaign, hfinal, relative, hbelow, -, hprior, createOnly, -, -, parent, -, -, hstaging,
    stagingRelative, hstagingBelow, hantichain, rfl⟩ := h
  obtain ⟨finalNames, hfinalBelow, -⟩ := (requireStrictDescendant_ok hfinal hcampaign).mp hbelow
  obtain ⟨stagingNames, hstagingBelow, -⟩ := (requireStrictDescendant_ok hstaging hcampaign).mp hstagingBelow
  have hpriorBelow : ∀ root ∈ priorRoots, Normalized root ∧ StrictlyBelow campaignRoot root := by
    intro root hroot
    obtain ⟨hnormalized, relative, hrelative, -⟩ := hprior root hroot
    obtain ⟨names, hnames, -⟩ := (requireStrictDescendant_ok hnormalized hcampaign).mp hrelative
    exact ⟨hnormalized, names, hnames⟩
  refine ⟨rfl, rfl, rfl, hcampaign, ?_, ?_, hantichain⟩
  · rw [List.forall_mem_append]
    exact ⟨fun root hroot => (hpriorBelow root hroot).1, by simpa using ⟨hfinal, hstaging⟩⟩
  · rw [List.forall_mem_append]
    exact ⟨fun root hroot => (hpriorBelow root hroot).2,
      by simpa using ⟨⟨finalNames, hfinalBelow⟩, stagingNames, hstagingBelow⟩⟩

structure RootClosure.Apart (priorRoots : List Path) (outerFinalRoot stagingRoot : Path) : Prop where
  prior_final : ∀ root ∈ priorRoots, ¬Comparable root outerFinalRoot
  prior_staging : ∀ root ∈ priorRoots, ¬Comparable root stagingRoot
  final_staging : ¬Comparable outerFinalRoot stagingRoot

lemma RootClosure.apart (h : RootClosure campaignRoot priorRoots outerFinalRoot stagingRoot) :
    Apart priorRoots outerFinalRoot stagingRoot := by
  obtain ⟨-, hpair, hcross⟩ := List.pairwise_append.mp h.antichain
  refine ⟨fun root hroot => hcross root hroot _ (by simp), fun root hroot => hcross root hroot _ (by simp), ?_⟩
  exact List.rel_of_pairwise_cons hpair (by simp)

end Closures

section Leaves

variable {stagingRoot finalRoot root : Path} {names additional : List Bytes} {name name' : Bytes}
  {label : String}

def leafBelow (root : Path) (name : Bytes) : Path := root ++ [.normal name]

/-- The names of the leaves: the packet, its staging sibling, and the additional ones. -/
def leafNames (additional : List Bytes) : List Bytes :=
  innerPacketComponent :: stagingName innerPacketComponent :: additional

lemma leafBelow_normalized (h : Normalized root) (name : Bytes) : Normalized (leafBelow root name) :=
  normalized_append h [name]

lemma leaves_comparable : Comparable (leafBelow root name) (leafBelow root name') ↔ name = name' := by
  rw [leafBelow, leafBelow, comparable_append_iff, comparable_singleton, Component.normal.injEq]

lemma leaf_apart {other : Path} (h : ¬Comparable root other) (name : Bytes) (rest : Path) :
    ¬Comparable (leafBelow root name) (other ++ rest) := fun hcomparable => h hcomparable.of_append

lemma leaf_apart_root {other : Path} (h : ¬Comparable root other) (name : Bytes) :
    ¬Comparable (leafBelow root name) other := by
  intro hcomparable
  rw [← List.append_nil other] at hcomparable
  exact h hcomparable.of_append

lemma antichain_leaves : Antichain (names.map (leafBelow root)) ↔ names.Nodup := by
  rw [Antichain, List.pairwise_map, List.nodup_iff_pairwise_ne]
  simp only [leaves_comparable]

lemma requireStrictDescendant_leaf (h : Normalized root) (name : Bytes) :
    requireStrictDescendant (leafBelow root name) root label = .ok [.normal name] :=
  (requireStrictDescendant_ok (leafBelow_normalized h name) h).mpr
    ⟨[name], ⟨List.cons_ne_nil _ _, rfl⟩, rfl⟩

lemma validateStagedLeaf_ok (h : Normalized stagingRoot) (name : Bytes) :
    validateStagedLeaf stagingRoot (leafBelow stagingRoot name) = .ok () := by
  rw [validateStagedLeaf, validateNormalizedAbsolute_ok.mpr (leafBelow_normalized h name), ok_bind,
    requireDirectDescendant, requireStrictDescendant_leaf h, ok_bind]
  exact ensure_pass ⟨rfl, rfl⟩

lemma projectStagedLeaf_ok (h : Normalized finalRoot) (name : Bytes) :
    projectStagedLeaf (leafBelow stagingRoot name) stagingRoot finalRoot =
      .ok (leafBelow finalRoot name) := by
  have hjoin : join finalRoot [.normal name] = leafBelow finalRoot name := join_normal finalRoot [name]
  have hstrip : stripPrefix (leafBelow stagingRoot name) stagingRoot = some [.normal name] :=
    stripPrefix_eq_some.mpr rfl
  rw [projectStagedLeaf, hstrip, context, ok_bind, ensure_pass ⟨by simp, rfl⟩, ok_bind]
  dsimp only
  rw [hjoin, validateNormalizedAbsolute_ok.mpr (leafBelow_normalized h name), ok_bind,
    requireStrictDescendant_leaf h, ok_bind, ensure_pass rfl]
  rfl

lemma requireEquivalentLeafClosure_ok (stagingRoot finalRoot : Path) (names : List Bytes) :
    requireEquivalentLeafClosure (names.map (leafBelow stagingRoot)) (names.map (leafBelow finalRoot)) =
      .ok () := by
  have hlength : (names.map (leafBelow stagingRoot)).length = (names.map (leafBelow finalRoot)).length := by
    rw [List.length_map, List.length_map]
  rw [requireEquivalentLeafClosure, ensure_pass hlength, ok_bind, forM_ok]
  intro left hleft
  rw [forM_ok]
  intro right hright
  have hl : left < names.length := by simpa using hleft
  have hr : right < names.length := by simpa using List.mem_of_mem_drop hright
  rw [ensure_ok, Bool.eq_iff_iff, pathsConflict_iff, pathsConflict_iff,
    List.getD_eq_getElem _ _ (by simpa using hl), List.getD_eq_getElem _ _ (by simpa using hr),
    List.getD_eq_getElem _ _ (by simpa using hl), List.getD_eq_getElem _ _ (by simpa using hr)]
  simp only [List.getElem_map, leaves_comparable]

variable {campaignRoot : Path} {priorRoots : List Path} {closure : ProjectedCampaignRootClosure}

lemma projectFinalLeaves_ok
    (hroots : RootClosure campaignRoot closure.priorRoots closure.outerFinalRoot closure.outerStagingRoot)
    (hnames : names.Nodup) :
    projectFinalLeaves closure (names.map (leafBelow closure.outerStagingRoot)) =
      .ok (names.map (leafBelow closure.outerFinalRoot)) := by
  have hapart := hroots.apart
  have hfinal : Normalized closure.outerFinalRoot := hroots.normalized _ (by simp)
  have hstaged : requireNoConflicts (names.map (leafBelow closure.outerStagingRoot))
      (closure.priorRoots ++ [closure.outerFinalRoot]) "staged top-level leaf" = .ok () := by
    rw [requireNoConflicts_ok, List.forall_mem_map]
    intro name hname
    rw [List.forall_mem_append, List.forall_mem_singleton]
    exact ⟨fun root hroot => leaf_apart_root (fun h => hapart.prior_staging root hroot h.symm) name,
      leaf_apart_root (fun h => hapart.final_staging h.symm) name⟩
  have hprojected : (names.map (leafBelow closure.outerStagingRoot)).mapM (fun leaf =>
      projectStagedLeaf leaf closure.outerStagingRoot closure.outerFinalRoot) =
        .ok (names.map (leafBelow closure.outerFinalRoot)) := by
    rw [mapM_forall₂, List.forall₂_map_left_iff, List.forall₂_map_right_iff, List.forall₂_same]
    exact fun name _ => projectStagedLeaf_ok hfinal name
  have hfinals : requireNoConflicts (names.map (leafBelow closure.outerFinalRoot))
      (closure.priorRoots ++ [closure.outerStagingRoot]) "projected final leaf" = .ok () := by
    rw [requireNoConflicts_ok, List.forall_mem_map]
    intro name hname
    rw [List.forall_mem_append, List.forall_mem_singleton]
    exact ⟨fun root hroot => leaf_apart_root (fun h => hapart.prior_final root hroot h.symm) name,
      leaf_apart_root hapart.final_staging name⟩
  have hcross : requireNoConflicts (names.map (leafBelow closure.outerStagingRoot))
      (names.map (leafBelow closure.outerFinalRoot)) "staged/projected leaf" = .ok () := by
    rw [requireNoConflicts_ok, List.forall_mem_map]
    intro name hname
    rw [List.forall_mem_map]
    exact fun name' hname' => leaf_apart (fun h => hapart.final_staging h.symm) name [.normal name']
  rw [projectFinalLeaves, hstaged, ok_bind, hprojected, ok_bind,
    requirePairwiseAntichain_ok.mpr (antichain_leaves.mpr hnames), ok_bind, hfinals, ok_bind,
    requireEquivalentLeafClosure_ok, ok_bind, hcross]
  rfl

end Leaves

end Eip0045.Campaign
