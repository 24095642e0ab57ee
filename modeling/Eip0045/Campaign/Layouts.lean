import Eip0045.Campaign.Disjoint

/-! When a layout is projected, and where its archive is found. -/

namespace Eip0045.Campaign

open Bytes Checked UnixPath

section Outer

variable {campaignRoot outerFinalRoot stagingRoot : Path} {priorRoots : List Path} {additional : List Bytes}
  {closure : ProjectedCampaignRootClosure} {layout : ProjectedOuterCampaignLayout}

lemma innerPacket_component :
    47 ∉ innerPacketComponent ∧ component innerPacketComponent = some (.normal innerPacketComponent) := by
  decide

lemma join_name (root : Path) {name : Bytes} (hslash : 47 ∉ name)
    (hcomponent : component name = some (.normal name)) : join root (ofText name) = leafBelow root name := by
  rw [ofText_name hslash hcomponent]
  exact join_normal root [name]

lemma innerPacket_published : toStr innerPacketComponent = some innerPacketComponent ∧
    validatePublicationFinalComponent innerPacketComponent = .ok () := by
  constructor
  · decide
  · rfl

lemma projectInnerLayout_ok (h : stagingRoot ≠ []) : projectInnerLayout stagingRoot =
    .ok ⟨leafBelow stagingRoot innerPacketComponent, stagingRoot,
      leafBelow stagingRoot (stagingName innerPacketComponent)⟩ := by
  obtain ⟨hslash, hcomponent⟩ := innerPacket_component
  obtain ⟨htext, hpublished⟩ := innerPacket_published
  obtain ⟨hslash', hcomponent'⟩ := stagingName_component hslash
  have hname : fileName (leafBelow stagingRoot innerPacketComponent) = some innerPacketComponent := by
    simp [fileName, leafBelow]
  have hparent : usablePublicationParent (leafBelow stagingRoot innerPacketComponent) = stagingRoot := by
    simp [usablePublicationParent, parent, leafBelow, h]
  have hlayout : projectB4TerminalEvidencePublicationLayout (leafBelow stagingRoot innerPacketComponent) =
      .ok ⟨leafBelow stagingRoot innerPacketComponent, stagingRoot,
        leafBelow stagingRoot (stagingName innerPacketComponent)⟩ := by
    rw [projectB4TerminalEvidencePublicationLayout, hname, Option.bind_eq_bind, Option.bind_some, htext,
      context, ok_bind, hpublished, ok_bind]
    dsimp only
    rw [hparent]
    exact congrArg (fun path => Except.ok (B4TerminalEvidencePublicationLayoutV1.mk _ stagingRoot path))
      (join_name stagingRoot hslash' hcomponent')
  rw [projectInnerLayout, join_name stagingRoot hslash hcomponent, hlayout]
  simp only [mapError, ok_bind, ensure_pass]
  rfl

/-- The layout over a closure of roots, with its leaves on both sides. -/
def layoutOver (closure : ProjectedCampaignRootClosure) (additional : List Bytes) :
    ProjectedOuterCampaignLayout where
  campaignRoot := closure.campaignRoot
  priorRoots := closure.priorRoots
  outerCreateOnly := closure.outerCreateOnly
  outerFinalRoot := closure.outerFinalRoot
  outerStagingRoot := closure.outerStagingRoot
  stagedInnerFinalPath := leafBelow closure.outerStagingRoot innerPacketComponent
  stagedInnerStagingPath := leafBelow closure.outerStagingRoot (stagingName innerPacketComponent)
  projectedInnerFinalPath := leafBelow closure.outerFinalRoot innerPacketComponent
  projectedInnerStagingPath := leafBelow closure.outerFinalRoot (stagingName innerPacketComponent)
  requiredOuterTopLevelEntries := innerPacketComponent :: additional
  requiredOuterTopLevelDirectories := [innerPacketComponent]
  stagedAdditionalTopLevelLeaves := additional.map (leafBelow closure.outerStagingRoot)
  projectedAdditionalTopLevelLeaves := additional.map (leafBelow closure.outerFinalRoot)

lemma stagedLeaves_eq (h : ∀ leaf ∈ additional, PortableComponent leaf) :
    [leafBelow stagingRoot innerPacketComponent, leafBelow stagingRoot (stagingName innerPacketComponent)] ++
      additional.map (fun leaf => join stagingRoot (ofText leaf)) =
        (leafNames additional).map (leafBelow stagingRoot) := by
  have hadditional : additional.map (fun leaf => join stagingRoot (ofText leaf)) =
      additional.map (leafBelow stagingRoot) :=
    List.map_congr_left fun leaf hleaf => join_name stagingRoot (h leaf hleaf).no_slash (h leaf hleaf).component
  rw [hadditional, leafNames]
  rfl

lemma projectOuterCampaignLayout_ok :
    projectOuterCampaignLayout campaignRoot priorRoots outerFinalRoot additional = .ok layout ↔
      additional.length ≤ 16 ∧ ∃ closure,
        projectCampaignRootClosure campaignRoot priorRoots outerFinalRoot = .ok closure ∧
        (∀ leaf ∈ additional, PortableComponent leaf) ∧ (leafNames additional).Nodup ∧
          layout = layoutOver closure additional := by
  simp only [projectOuterCampaignLayout, bind_ok, exists_unit, ensure_ok, forM_ok, context_ok, pure_ok,
    validatePortableComponent_ok, requirePairwiseAntichain_ok]
  constructor
  · rintro ⟨hcount, closure, hclosure, inner, hinner, hportable, -, hantichain, leaves, hleaves, first,
      hfirst, second, hsecond, third, hthird, fourth, hfourth, rfl⟩
    obtain ⟨hcampaign, hprior, hfinal, hroots⟩ := projectCampaignRootClosure_spec hclosure
    have hstaging : closure.outerStagingRoot ≠ [] := by
      obtain ⟨names, hnames⟩ := hroots.normalized closure.outerStagingRoot (by simp)
      rw [hnames]
      exact List.cons_ne_nil _ _
    rw [projectInnerLayout_ok hstaging, Except.ok.injEq] at hinner
    subst hinner
    rw [stagedLeaves_eq hportable] at hantichain hleaves hfirst hsecond ⊢
    have hnodup := antichain_leaves.mp hantichain
    rw [← hcampaign, ← hprior, ← hfinal] at hroots
    rw [projectFinalLeaves_ok hroots hnodup, Except.ok.injEq] at hleaves
    subst hleaves
    obtain rfl := Option.some.inj hfirst
    obtain rfl := Option.some.inj hsecond
    obtain rfl := Option.some.inj hthird
    obtain rfl := Option.some.inj hfourth
    exact ⟨hcount, closure, hclosure, hportable, hnodup, rfl⟩
  · rintro ⟨hcount, closure, hclosure, hportable, hnodup, rfl⟩
    obtain ⟨hcampaign, hprior, hfinal, hroots⟩ := projectCampaignRootClosure_spec hclosure
    have hnormalized : Normalized closure.outerStagingRoot := hroots.normalized _ (by simp)
    have hstaging : closure.outerStagingRoot ≠ [] := by
      obtain ⟨names, hnames⟩ := hnormalized
      rw [hnames]
      exact List.cons_ne_nil _ _
    rw [← hcampaign, ← hprior, ← hfinal] at hroots
    refine ⟨hcount, closure, hclosure, _, projectInnerLayout_ok hstaging, hportable, ?_⟩
    rw [stagedLeaves_eq hportable]
    refine ⟨?_, antichain_leaves.mpr hnodup, _, projectFinalLeaves_ok hroots hnodup, _, rfl, _, rfl, _, rfl,
      _, rfl, rfl⟩
    rw [List.forall_mem_map]
    exact fun name _ => validateStagedLeaf_ok hnormalized name

end Outer

section Archives

variable {campaignRoot target root : Path} {priorRoots : List Path} {names : List Bytes} {path : Bytes}
  {label : String}

lemma normalNames_ok (h : ∀ name ∈ names, PortableComponent name) :
    (names.map Component.normal).mapM (normalName label) = .ok names := by
  rw [mapM_forall₂, List.forall₂_map_left_iff, List.forall₂_same]
  exact fun name hname => normalName_ok.mpr ⟨rfl, (h name hname).toStr⟩

lemma joinPortableRelative_ok : joinPortableRelative root path label = .ok target ↔
    ∃ names : List Bytes, ofText path = names.map .normal ∧ PortableNames names ∧
      target = root ++ names.map .normal := by
  have hcomponents : ∀ names : List Bytes,
      (names.map Component.normal).mapM (normalComponent label) = .ok (names.map .normal) := by
    intro names
    rw [mapM_forall₂, List.forall₂_map_left_iff, List.forall₂_map_right_iff, List.forall₂_same]
    exact fun name _ => rfl
  simp only [joinPortableRelative, bind_ok, exists_unit, pure_ok, validatePortableRelativePath_ok]
  constructor
  · rintro ⟨⟨names, hnames, hportable⟩, components, hmapped, rfl⟩
    rw [hnames, hcomponents, Except.ok.injEq] at hmapped
    exact ⟨names, hnames, hportable, by rw [← hmapped, join_normal]⟩
  · rintro ⟨names, hnames, hportable, rfl⟩
    exact ⟨⟨names, hnames, hportable⟩, _, by rw [hnames, hcomponents], join_normal root names⟩

lemma campaignRelativePortablePath_ok (hroot : Normalized root) (h : PortableNames names) :
    campaignRelativePortablePath (root ++ names.map .normal) root label =
      .ok ([47].intercalate names) := by
  have hbelow : requireStrictDescendant (root ++ names.map .normal) root label = .ok (names.map .normal) :=
    (requireStrictDescendant_ok (normalized_append hroot names) hroot).mpr ⟨names, ⟨h.ne_nil, rfl⟩, rfl⟩
  rw [campaignRelativePortablePath, hbelow, ok_bind,
    validatePortableRelativePath_ok.mpr ⟨names, rfl, h⟩, ok_bind, normalNames_ok h.portable]
  rfl

/-- A portable relative path, in the one text that it has. -/
def CanonicalPath (path : Bytes) (names : List Bytes) : Prop :=
  PortableNames names ∧ path = [47].intercalate names

lemma PortableNames.below (h : PortableNames names) {above below : List Bytes} (hnames : names = above ++ below)
    (hne : below ≠ []) : PortableNames below := by
  subst hnames
  refine ⟨hne, fun name hname => h.portable name (List.mem_append_right _ hname), ?_⟩
  by_cases habove : above = []
  · rw [habove] at h
    exact h.bound
  · have hbound := h.bound
    rw [Paths.intercalate_append habove hne, List.length_append, List.length_cons] at hbound
    omega

lemma append_normal_inj {above : Path} {xs ys : List Bytes} :
    above ++ xs.map .normal = above ++ ys.map .normal ↔ xs = ys := by
  rw [List.append_cancel_left_eq]
  exact (List.map_injective_iff.mpr fun a b h => by cases h; rfl).eq_iff

variable {priorRoot : Path}

lemma suffix_of_below (hcampaign : StrictlyBelow campaignRoot priorRoot)
    (htarget : target = campaignRoot ++ names.map .normal) {below : List Bytes}
    (hbelow : BelowAt priorRoot target below) : ∃ above, names = above ++ below := by
  obtain ⟨above, -, rfl⟩ := hcampaign
  obtain ⟨-, hbelow⟩ := hbelow
  rw [htarget, List.append_assoc, ← List.map_append, append_normal_inj] at hbelow
  exact ⟨above, hbelow⟩

lemma locateUnder_below (hroot : Normalized priorRoot) {below : List Bytes}
    (hbelow : BelowAt priorRoot target below) (h : PortableNames below) :
    locateUnder target priorRoot = .ok (some ([47].intercalate below)) := by
  obtain ⟨hne, rfl⟩ := hbelow
  have hstrip : stripPrefix (priorRoot ++ below.map .normal) priorRoot = some (below.map .normal) :=
    stripPrefix_eq_some.mpr rfl
  have hcomponents : below.map Component.normal ≠ [] := by simpa using hne
  have hjoined : joinPortableRelative priorRoot ([47].intercalate below) "root-relative OCI archive path" =
      .ok (priorRoot ++ below.map .normal) :=
    joinPortableRelative_ok.mpr ⟨below, h.ofText, h, rfl⟩
  rw [locateUnder, hstrip]
  dsimp only
  rw [if_neg hcomponents, validatePortableRelativePath_ok.mpr ⟨below, rfl, h⟩, ok_bind,
    campaignRelativePortablePath_ok hroot h, ok_bind, hjoined, ok_bind, ensure_pass rfl]
  rfl

lemma locateUnder_apart (hroot : Normalized priorRoot) (htarget : Normalized target)
    (h : ¬StrictlyBelow priorRoot target) : locateUnder target priorRoot = .ok none := by
  rw [locateUnder]
  cases hstrip : stripPrefix target priorRoot with
  | none => rfl
  | some relative =>
    have happend := stripPrefix_eq_some.mp hstrip
    obtain ⟨below, rfl⟩ := below_of_append htarget hroot happend
    have hnil : below.map Component.normal = [] := by
      by_contra hne
      exact h ⟨below, fun hbelow => hne (by rw [hbelow]; rfl), happend⟩
    dsimp only
    rw [if_pos hnil]
    rfl

variable {roots : List (Path × ℕ)} {resolved : Option (ℕ × Bytes)} {rootIndex : ℕ}

lemma locate_apart (htarget : Normalized target)
    (h : ∀ root ∈ roots, Normalized root.1 ∧ ¬StrictlyBelow root.1 target) :
    locate target roots resolved = .ok resolved := by
  induction roots with
  | nil => rfl
  | cons root roots ih =>
    obtain ⟨priorRoot, rootIndex⟩ := root
    rw [List.forall_mem_cons] at h
    rw [locate, locateUnder_apart h.1.1 htarget h.1.2, ok_bind]
    exact ih h.2

lemma locate_below (htarget : Normalized target) {before after : List (Path × ℕ)}
    (hroots : roots = before ++ (priorRoot, rootIndex) :: after) (hroot : Normalized priorRoot)
    {below : List Bytes} (hbelow : BelowAt priorRoot target below) (hportable : PortableNames below)
    (hbefore : ∀ root ∈ before, Normalized root.1 ∧ ¬StrictlyBelow root.1 target)
    (hafter : ∀ root ∈ after, Normalized root.1 ∧ ¬StrictlyBelow root.1 target) :
    locate target roots none = .ok (some (rootIndex, [47].intercalate below)) := by
  subst hroots
  induction before with
  | nil =>
    rw [List.nil_append, locate, locateUnder_below hroot hbelow hportable, ok_bind]
    exact locate_apart htarget hafter
  | cons root before ih =>
    obtain ⟨other, otherIndex⟩ := root
    rw [List.forall_mem_cons] at hbefore
    rw [List.cons_append, locate, locateUnder_apart hbefore.1.1 htarget hbefore.1.2, ok_bind]
    exact ih hbefore.2

end Archives

section Resolution

variable {campaignRoot outerFinalRoot stagingRoot target root : Path} {priorRoots : List Path}
  {path relative : Bytes} {rootIndex : ℕ} {below : List Bytes}

lemma StrictlyBelow.prefix (h : StrictlyBelow root target) : root <+: target := by
  obtain ⟨names, -, rfl⟩ := h
  exact List.prefix_append _ _

lemma locate_unique (hroots : RootClosure campaignRoot priorRoots outerFinalRoot stagingRoot)
    (htarget : Normalized target) (hroot : priorRoots[rootIndex]? = some root)
    (hbelow : BelowAt root target below) (hportable : PortableNames below) :
    locate target priorRoots.zipIdx none = .ok (some (rootIndex, [47].intercalate below)) := by
  have hmem : (root, rootIndex) ∈ priorRoots.zipIdx := List.mem_zipIdx_iff_getElem?.mpr hroot
  have hnormalized : ∀ other ∈ priorRoots.zipIdx, Normalized other.1 := by
    intro other hother
    exact hroots.normalized _ (List.mem_append_left _ (List.fst_mem_of_mem_zipIdx hother))
  have happart : priorRoots.zipIdx.Pairwise fun x y => ¬Comparable x.1 y.1 := by
    have hfst : (priorRoots.zipIdx.map Prod.fst).Pairwise fun x y => ¬Comparable x y := by
      rw [List.zipIdx_map_fst]
      exact (List.pairwise_append.mp hroots.antichain).1
    rwa [List.pairwise_map] at hfst
  obtain ⟨before, after, hsplit⟩ := List.append_of_mem hmem
  rw [hsplit] at happart hnormalized
  obtain ⟨-, hafter, hbefore⟩ := List.pairwise_append.mp happart
  have habove : root <+: target := StrictlyBelow.prefix ⟨below, hbelow⟩
  refine locate_below htarget hsplit (hnormalized (root, rootIndex) (by simp)) hbelow hportable ?_ ?_
  · refine fun other hother => ⟨hnormalized other (List.mem_append_left _ hother), fun h => ?_⟩
    exact hbefore other hother (root, rootIndex) List.mem_cons_self
      (List.prefix_or_prefix_of_prefix h.prefix habove)
  · refine fun other hother => ⟨hnormalized other (by simp [hother]), fun h => ?_⟩
    exact List.rel_of_pairwise_cons hafter hother (List.prefix_or_prefix_of_prefix habove h.prefix)

lemma resolveAuthenticatedOciArchiveLocator_ok
    (hroots : RootClosure campaignRoot priorRoots outerFinalRoot stagingRoot) :
    resolveAuthenticatedOciArchiveLocator campaignRoot priorRoots path = .ok (rootIndex, relative) ↔
      ∃ names, CanonicalPath path names ∧ ∃ root below, priorRoots[rootIndex]? = some root ∧
        BelowAt root (campaignRoot ++ names.map .normal) below ∧ relative = [47].intercalate below := by
  have hbelowNames : ∀ {names below : List Bytes} {root : Path} {index : ℕ}, PortableNames names →
      priorRoots[index]? = some root → BelowAt root (campaignRoot ++ names.map .normal) below →
      PortableNames below := by
    intro names below root index hnames hroot hbelow
    have hmem := List.mem_of_getElem? hroot
    obtain ⟨above, habove⟩ := suffix_of_below (hroots.below root (List.mem_append_left _ hmem)) rfl hbelow
    exact hnames.below habove hbelow.1
  simp only [resolveAuthenticatedOciArchiveLocator, bind_ok, exists_unit, ensure_ok, context_ok,
    joinPortableRelative_ok, validateNormalizedAbsolute_ok]
  constructor
  · rintro ⟨target, ⟨names, htext, hnames, rfl⟩, htarget, canonical, hcanonical, rfl, resolved, hlocate, rfl⟩
    rw [campaignRelativePortablePath_ok hroots.campaign hnames, Except.ok.injEq] at hcanonical
    refine ⟨names, ⟨hnames, hcanonical.symm⟩, ?_⟩
    by_cases habove : ∃ root ∈ priorRoots, StrictlyBelow root (campaignRoot ++ names.map .normal)
    · obtain ⟨root, hroot, below, hbelow⟩ := habove
      obtain ⟨index, hindex⟩ := List.getElem?_of_mem hroot
      rw [locate_unique hroots htarget hindex hbelow (hbelowNames hnames hindex hbelow), Except.ok.injEq,
        Option.some.injEq, Prod.mk.injEq] at hlocate
      obtain ⟨rfl, rfl⟩ := hlocate
      exact ⟨root, below, hindex, hbelow, rfl⟩
    · have hapart : ∀ other ∈ priorRoots.zipIdx,
          Normalized other.1 ∧ ¬StrictlyBelow other.1 (campaignRoot ++ names.map .normal) := by
        intro other hother
        have hmem := List.fst_mem_of_mem_zipIdx hother
        exact ⟨hroots.normalized _ (List.mem_append_left _ hmem), fun h => habove ⟨other.1, hmem, h⟩⟩
      rw [locate_apart htarget hapart] at hlocate
      cases hlocate
  · rintro ⟨names, ⟨hnames, rfl⟩, root, below, hroot, hbelow, rfl⟩
    have htarget := normalized_append hroots.campaign names
    exact ⟨_, ⟨names, hnames.ofText, hnames, rfl⟩, htarget, _,
      campaignRelativePortablePath_ok hroots.campaign hnames, rfl, _,
      locate_unique hroots htarget hroot hbelow (hbelowNames hnames hroot hbelow), rfl⟩

end Resolution

section Layouts

/-- The leaves of a layout on the staging side, and those on the final side. -/
def ProjectedOuterCampaignLayout.stagedLeaves (layout : ProjectedOuterCampaignLayout) : List Path :=
  layout.stagedInnerFinalPath :: layout.stagedInnerStagingPath :: layout.stagedAdditionalTopLevelLeaves

def ProjectedOuterCampaignLayout.finalLeaves (layout : ProjectedOuterCampaignLayout) : List Path :=
  layout.projectedInnerFinalPath :: layout.projectedInnerStagingPath ::
    layout.projectedAdditionalTopLevelLeaves

/-- The roots of a layout lie below the campaign and apart from each other; its leaves are distinct
components below the staging root, and the same components below the final root; and no leaf of one side
is comparable with a prior root, the other root or a leaf of the other side. Behind the antichains of the
roots and of the staged leaves no check fails; and an archive is found exactly below the one root that is
above it. -/
theorem campaign_projections_disjoint :
    (∀ (campaignRoot outerFinalRoot : Path) (priorRoots : List Path) (additional : List Bytes)
      (layout : ProjectedOuterCampaignLayout),
      projectOuterCampaignLayout campaignRoot priorRoots outerFinalRoot additional = .ok layout →
      (layout.campaignRoot = campaignRoot ∧ layout.priorRoots = priorRoots ∧
        layout.outerFinalRoot = outerFinalRoot) ∧
      (∀ root ∈ priorRoots ++ [outerFinalRoot, layout.outerStagingRoot], StrictlyBelow campaignRoot root) ∧
      Antichain (priorRoots ++ [outerFinalRoot, layout.outerStagingRoot]) ∧
      (∃ names : List Bytes, names.Nodup ∧ layout.stagedLeaves = names.map (leafBelow layout.outerStagingRoot) ∧
        layout.finalLeaves = names.map (leafBelow outerFinalRoot)) ∧
      (∀ leaf ∈ layout.stagedLeaves, ∀ other ∈ priorRoots ++ outerFinalRoot :: layout.finalLeaves,
        ¬Comparable leaf other) ∧
      (∀ leaf ∈ layout.finalLeaves, ∀ other ∈ priorRoots ++ layout.outerStagingRoot :: layout.stagedLeaves,
        ¬Comparable leaf other) ∧
      (∀ path, (∃ located, resolveAuthenticatedOciArchiveLocator layout.campaignRoot layout.priorRoots path =
          .ok located) ↔ ∃ names, CanonicalPath path names ∧
            ∃ root ∈ priorRoots, StrictlyBelow root (campaignRoot ++ names.map .normal)) ∧
      ∀ path rootIndex relative, resolveAuthenticatedOciArchiveLocator layout.campaignRoot layout.priorRoots
          path = .ok (rootIndex, relative) →
        ∃ names below root, CanonicalPath path names ∧ CanonicalPath relative below ∧
          priorRoots[rootIndex]? = some root ∧ campaignRoot ++ names.map .normal = root ++ below.map .normal ∧
          ∀ otherIndex other, priorRoots[otherIndex]? = some other →
            StrictlyBelow other (campaignRoot ++ names.map .normal) → otherIndex = rootIndex) ∧
    ∀ (campaignRoot outerFinalRoot : Path) (priorRoots : List Path) (additional : List Bytes)
      (closure : ProjectedCampaignRootClosure), additional.length ≤ maxProjectedAdditionalLeaves →
      projectCampaignRootClosure campaignRoot priorRoots outerFinalRoot = .ok closure →
      (∀ leaf ∈ additional, PortableComponent leaf) →
      Antichain ((leafNames additional).map (leafBelow closure.outerStagingRoot)) →
      ∃ layout, projectOuterCampaignLayout campaignRoot priorRoots outerFinalRoot additional = .ok layout := by
  refine ⟨?_, ?_⟩
  · intro campaignRoot outerFinalRoot priorRoots additional layout h
    obtain ⟨-, closure, hclosure, hportable, hnodup, rfl⟩ := projectOuterCampaignLayout_ok.mp h
    obtain ⟨rfl, rfl, rfl, hroots⟩ := projectCampaignRootClosure_spec hclosure
    have hapart := hroots.apart
    refine ⟨⟨rfl, rfl, rfl⟩, hroots.below, hroots.antichain, ⟨leafNames additional, hnodup, rfl, rfl⟩, ?_, ?_,
      ?_, ?_⟩
    · change ∀ leaf ∈ (leafNames additional).map (leafBelow closure.outerStagingRoot), _
      rw [List.forall_mem_map]
      intro name hname
      rw [List.forall_mem_append, List.forall_mem_cons]
      refine ⟨fun root hroot => leaf_apart_root (fun h => hapart.prior_staging root hroot h.symm) name,
        leaf_apart_root (fun h => hapart.final_staging h.symm) name, ?_⟩
      change ∀ leaf ∈ (leafNames additional).map (leafBelow closure.outerFinalRoot), _
      rw [List.forall_mem_map]
      exact fun name' _ => leaf_apart (fun h => hapart.final_staging h.symm) name [.normal name']
    · change ∀ leaf ∈ (leafNames additional).map (leafBelow closure.outerFinalRoot), _
      rw [List.forall_mem_map]
      intro name hname
      rw [List.forall_mem_append, List.forall_mem_cons]
      refine ⟨fun root hroot => leaf_apart_root (fun h => hapart.prior_final root hroot h.symm) name,
        leaf_apart_root hapart.final_staging name, ?_⟩
      change ∀ leaf ∈ (leafNames additional).map (leafBelow closure.outerStagingRoot), _
      rw [List.forall_mem_map]
      exact fun name' _ => leaf_apart hapart.final_staging name [.normal name']
    · intro path
      constructor
      · rintro ⟨⟨rootIndex, relative⟩, hlocated⟩
        obtain ⟨names, hpath, root, below, hroot, hbelow, -⟩ :=
          (resolveAuthenticatedOciArchiveLocator_ok hroots).mp hlocated
        exact ⟨names, hpath, root, List.mem_of_getElem? hroot, below, hbelow⟩
      · rintro ⟨names, hpath, root, hroot, below, hbelow⟩
        obtain ⟨rootIndex, hindex⟩ := List.getElem?_of_mem hroot
        exact ⟨_, (resolveAuthenticatedOciArchiveLocator_ok hroots).mpr
          ⟨names, hpath, root, below, hindex, hbelow, rfl⟩⟩
    · intro path rootIndex relative hlocated
      obtain ⟨names, hpath, root, below, hroot, hbelow, hrelative⟩ :=
        (resolveAuthenticatedOciArchiveLocator_ok hroots).mp hlocated
      obtain ⟨above, habove⟩ := suffix_of_below
        (hroots.below root (List.mem_append_left _ (List.mem_of_getElem? hroot))) rfl hbelow
      refine ⟨names, below, root, hpath, ⟨hpath.1.below habove hbelow.1, hrelative⟩, hroot, hbelow.2, ?_⟩
      rintro otherIndex other hother ⟨otherNames, hotherBelow⟩
      have hlocated' := (resolveAuthenticatedOciArchiveLocator_ok hroots).mpr
        ⟨names, hpath, other, otherNames, hother, hotherBelow, rfl⟩
      have heq := hlocated.symm.trans hlocated'
      rw [Except.ok.injEq, Prod.mk.injEq] at heq
      exact heq.1.symm
  · intro campaignRoot outerFinalRoot priorRoots additional closure hcount hclosure hportable hantichain
    exact ⟨_, projectOuterCampaignLayout_ok.mpr
      ⟨hcount, closure, hclosure, hportable, antichain_leaves.mp hantichain, rfl⟩⟩

end Layouts

end Eip0045.Campaign
