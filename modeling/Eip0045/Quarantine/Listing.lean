import Eip0045.Library.Lexicographic
import Eip0045.Quarantine.Collected

/-! The manifest of a quarantine: it lists what lies below the quarantine root, or the guard refuses. -/

namespace Eip0045.Quarantine

open Bytes Checked FileTree Windows

section Merge

lemma mergeListed_sublist {expected actual rest : List Bytes} (h : mergeListed expected actual = .ok rest) :
    actual.Sublist expected := by
  fun_induction mergeListed expected actual with
  | case1 expected => exact List.nil_sublist _
  | case2 actual others => cases h
  | case3 listed expected actual others hlt ih => exact (ih h).cons _
  | case4 expected actual others hge ih => exact (ih h).cons_cons _
  | case5 => cases h

lemma mergeListed_self (paths : List Bytes) : mergeListed paths paths = .ok [] := by
  induction paths with
  | nil => rw [mergeListed]
  | cons path paths ih => rw [mergeListed, if_neg (List.lt_irrefl path), if_pos rfl, ih]

lemma merge_ok {expected actual : List Bytes} :
    ((∃ rest, mergeListed expected actual = .ok rest) ∧ actual.length = expected.length) ↔ expected = actual := by
  constructor
  · rintro ⟨⟨rest, hmerge⟩, hlength⟩
    exact ((mergeListed_sublist hmerge).eq_of_length hlength).symm
  · rintro rfl
    exact ⟨⟨[], mergeListed_self expected⟩, rfl⟩

end Merge

section Artifacts

variable {sha256 : Bytes → Digest} {isCanonicalJson : Bytes → Bool} {tree : FileTree CandidateNode}
  {quarantine : List FileName} {quarantineRoot : Bytes} {manifest : CandidateCorpusManifest}

/-- What the manifest's check asks of an artifact. -/
structure ArtifactOk (sha256 : Bytes → Digest) (isCanonicalJson : Bytes → Bool) (tree : FileTree CandidateNode)
    (quarantineRoot : Bytes) (artifact : CandidateArtifact) : Prop where
  canonical : validateRelativePath artifact.path = .ok ()
  inside : quarantineRoot ++ [slash] <+: artifact.path
  file : ∃ bytes, RegularAt tree (pathFromPosix artifact.path) bytes ∧
    sha256Hex sha256 bytes = artifact.sha256 ∧ (artifact.encoding = .rfc8785Jcs → isCanonicalJson bytes = true)

lemma candidateFile_ok {path bytes : Bytes} (h : pathFromPosix path ≠ []) :
    candidateFile tree path = .ok bytes ↔ RegularAt tree (pathFromPosix path) bytes := by
  rw [RegularAt, ← locate_leaf tree h, candidateFile]
  cases tree.root.locate (pathFromPosix path) with
  | none => simp
  | some located =>
    cases located with
    | directory children => simp
    | leaf contents => cases contents <;> simp

lemma isLowerHex_iff (byte : UInt8) : isLowerHex byte = true ↔ Hex.IsLower byte := by
  simp [isLowerHex, Hex.IsLower]

lemma validateSha256_sha256Hex (bytes : Bytes) : validateSha256 (sha256Hex sha256 bytes) = .ok () := by
  have hlength : (sha256Hex sha256 bytes).length = 64 := by
    rw [sha256Hex, Hex.encode_length, ByteArr.val_length]
  have hall : (sha256Hex sha256 bytes).all isLowerHex = true := by
    rw [List.all_eq_true]
    exact fun byte hbyte => (isLowerHex_iff byte).mpr (Hex.encode_isLower _ byte hbyte)
  rw [validateSha256, ensure_ok, hall]
  simp [hlength]

lemma validateArtifact_ok {previous : Option Bytes} {index : ℕ} {artifact : CandidateArtifact} :
    validateArtifact sha256 isCanonicalJson tree quarantineRoot previous index artifact = .ok () ↔
      ArtifactOk sha256 isCanonicalJson tree quarantineRoot artifact ∧
        ∀ before ∈ previous, before < artifact.path := by
  simp only [validateArtifact, bind_ok, exists_unit, ensure_ok]
  constructor
  · rintro ⟨hcanonical, -, hinside, hprevious, bytes, hfile, hdigest, hjson⟩
    obtain ⟨names, hnames, -, hpath⟩ := exists_names hcanonical
    exact ⟨⟨hcanonical, hinside, bytes, (candidateFile_ok (hpath ▸ hnames)).mp hfile, hdigest, hjson⟩, hprevious⟩
  · rintro ⟨hok, hprevious⟩
    obtain ⟨bytes, hfile, hdigest, hjson⟩ := hok.file
    obtain ⟨names, hnames, -, hpath⟩ := exists_names hok.canonical
    exact ⟨hok.canonical, hdigest ▸ validateSha256_sha256Hex bytes, hok.inside, hprevious, bytes,
      (candidateFile_ok (hpath ▸ hnames)).mpr hfile, hdigest, hjson⟩

lemma validateArtifacts_ok {previous : Option Bytes} {index : ℕ} {artifacts : List CandidateArtifact} :
    validateArtifacts sha256 isCanonicalJson tree quarantineRoot previous index artifacts = .ok () ↔
      (∀ artifact ∈ artifacts, ArtifactOk sha256 isCanonicalJson tree quarantineRoot artifact) ∧
        (previous.toList ++ artifacts.map CandidateArtifact.path).IsChain (· < ·) := by
  induction artifacts generalizing previous index with
  | nil => cases previous <;> simp [validateArtifacts]
  | cons artifact artifacts ih =>
    rw [validateArtifacts, bind_ok, exists_unit, validateArtifact_ok, ih, List.forall_mem_cons, List.map_cons]
    cases previous with
    | none => simp [and_assoc]
    | some before =>
      simp only [Option.mem_some_iff, forall_eq', Option.toList_some, List.singleton_append, List.isChain_cons_cons]
      tauto

lemma validateCandidateManifest_ok :
    validateCandidateManifest sha256 isCanonicalJson tree quarantineRoot manifest = .ok () ↔
      (∀ artifact ∈ manifest.artifacts, ArtifactOk sha256 isCanonicalJson tree quarantineRoot artifact) ∧
        (manifest.artifacts.map CandidateArtifact.path).Pairwise (· < ·) := by
  rw [validateCandidateManifest, validateArtifacts_ok, Option.toList_none, List.nil_append,
    List.isChain_iff_pairwise]

/-- The manifest lists the regular files below the quarantine root, once each in increasing order. -/
structure Listed (sha256 : Bytes → Digest) (tree : FileTree CandidateNode) (quarantine : List FileName)
    (manifest : CandidateCorpusManifest) : Prop where
  increasing : (manifest.artifacts.map CandidateArtifact.path).Pairwise (· < ·)
  exact : ∀ path digest,
    (∃ artifact ∈ manifest.artifacts, artifact.path = path ∧ artifact.sha256 = digest) ↔
      ∃ names bytes, RegularAt tree names bytes ∧ quarantine <+: names ∧ path = join names ∧
        digest = sha256Hex sha256 bytes

/-- The candidates that are declared canonical JSON are. -/
def JsonCanonical (isCanonicalJson : Bytes → Bool) (tree : FileTree CandidateNode)
    (manifest : CandidateCorpusManifest) : Prop :=
  ∀ artifact ∈ manifest.artifacts, artifact.encoding = .rfc8785Jcs → ∀ names bytes,
    RegularAt tree names bytes → artifact.path = join names → isCanonicalJson bytes = true

lemma RegularAt.unique {names : List FileName} {bytes bytes' : Bytes} (h : RegularAt tree names bytes)
    (h' : RegularAt tree names bytes') : bytes = bytes' := by
  have heq := Keyed.eq_of_key tree.distinct h h' rfl
  cases heq
  rfl

lemma RegularAt.ne_nil {names : List FileName} {bytes : Bytes} (h : RegularAt tree names bytes) : names ≠ [] :=
  Directory.nodes_ne_nil h

/-- The paths of the regular files below the quarantine root. -/
def quarantinedPaths (quarantine : List FileName) (children : Directory CandidateNode) : List Bytes :=
  ((children.nodes quarantine).filterMap regularFile).map Prod.fst

variable {children : Directory CandidateNode}

lemma mem_quarantinedPaths (hq : quarantine ≠ [])
    (hlocated : tree.root.locate quarantine = some (.directory children)) {path : Bytes} :
    path ∈ quarantinedPaths quarantine children ↔
      ∃ names bytes, RegularAt tree names bytes ∧ quarantine <+: names ∧ path = join names := by
  have hroot : ∀ bytes, ¬RegularAt tree quarantine bytes := by
    intro bytes h
    rw [RegularAt, ← locate_leaf tree hq, hlocated] at h
    cases h
  simp only [quarantinedPaths, List.mem_map, List.mem_filterMap, regularFile_eq_some,
    mem_children tree hq hlocated]
  constructor
  · rintro ⟨⟨_, bytes⟩, ⟨⟨names, node⟩, ⟨hnode, hbelow, -⟩, rfl, hjoin⟩, rfl⟩
    exact ⟨names, bytes, hnode, hbelow, hjoin⟩
  · rintro ⟨names, bytes, hfile, hbelow, rfl⟩
    exact ⟨(join names, bytes), ⟨_, ⟨hfile, hbelow, fun heq => hroot bytes (heq ▸ hfile)⟩, rfl, rfl⟩, rfl⟩

lemma quarantinedPaths_nodup (hq : quarantine ≠ [])
    (hlocated : tree.root.locate quarantine = some (.directory children)) :
    (quarantinedPaths quarantine children).Nodup := by
  have hsublist : (children.nodes quarantine).Sublist tree.nodes := by
    have hfilter := filter_locate tree hq
    rw [hlocated, nodesOf, Located.nodes] at hfilter
    exact (List.sublist_cons_self _ _).trans (hfilter ▸ List.filter_sublist)
  have hnodup := (hsublist.map Prod.fst).nodup tree.distinct
  have hpaths : (quarantinedPaths quarantine children).Sublist
      (((children.nodes quarantine).map Prod.fst).map join) := by
    rw [quarantinedPaths, List.map_map]
    induction children.nodes quarantine with
    | nil => exact List.Sublist.slnil
    | cons b nodes ih =>
      rw [List.filterMap_cons, List.map_cons]
      cases hfile : regularFile b with
      | none => exact ih.cons _
      | some file =>
        rw [List.map_cons, (regularFile_eq_some.mp hfile).2]
        exact ih.cons_cons _
  exact hpaths.nodup (hnodup.map join_injective)

lemma Listed.file (h : Listed sha256 tree quarantine manifest) {artifact : CandidateArtifact}
    (hartifact : artifact ∈ manifest.artifacts) : ∃ names bytes, RegularAt tree names bytes ∧
      quarantine <+: names ∧ artifact.path = join names ∧ artifact.sha256 = sha256Hex sha256 bytes :=
  (h.exact artifact.path artifact.sha256).mp ⟨artifact, hartifact, rfl, rfl⟩

lemma Listed.artifact (h : Listed sha256 tree quarantine manifest) {names : List FileName} {bytes : Bytes}
    (hfile : RegularAt tree names bytes) (hq : quarantine <+: names) : ∃ artifact ∈ manifest.artifacts,
      artifact.path = join names ∧ artifact.sha256 = sha256Hex sha256 bytes :=
  (h.exact (join names) (sha256Hex sha256 bytes)).mpr ⟨names, bytes, hfile, hq, rfl, rfl⟩

lemma manifest_ok (hq : quarantine ≠ [])
    (hlocated : tree.root.locate quarantine = some (.directory children)) :
    (validateCandidateManifest sha256 isCanonicalJson tree (join quarantine) manifest = .ok () ∧
      requireCompleteCandidateManifest quarantine children manifest = .ok ()) ↔
    Listed sha256 tree quarantine manifest ∧ JsonCanonical isCanonicalJson tree manifest ∧
      ∀ b ∈ tree.nodes, quarantine <+: b.1 → quarantine ≠ b.1 → NodeCanonical b := by
  have hcanonical : (∀ b ∈ children.nodes quarantine, NodeCanonical b) ↔
      ∀ b ∈ tree.nodes, quarantine <+: b.1 → quarantine ≠ b.1 → NodeCanonical b := by
    simp only [mem_children tree hq hlocated, and_imp]
  have hcomplete : requireCompleteCandidateManifest quarantine children manifest = .ok () ↔
      (∀ b ∈ tree.nodes, quarantine <+: b.1 → quarantine ≠ b.1 → NodeCanonical b) ∧
        manifest.artifacts.map CandidateArtifact.path =
          (quarantinedPaths quarantine children).mergeSort fun a b => a ≤ b := by
    have hcollect : ∀ paths, collectCandidateFiles quarantine children = .ok paths ↔
        (∀ b ∈ tree.nodes, quarantine <+: b.1 → quarantine ≠ b.1 → NodeCanonical b) ∧
          paths = quarantinedPaths quarantine children := by
      intro paths
      rw [collectCandidateFiles_ok, hcanonical, quarantinedPaths]
    simp only [requireCompleteCandidateManifest, bind_ok, hcollect, ensure_ok, exists_and_right]
    constructor
    · rintro ⟨_, ⟨hnodes, rfl⟩, hmerge⟩
      exact ⟨hnodes, merge_ok.mp hmerge⟩
    · rintro ⟨hnodes, hequal⟩
      exact ⟨_, ⟨hnodes, rfl⟩, merge_ok.mpr hequal⟩
  have hsorted : ((quarantinedPaths quarantine children).mergeSort fun a b => a ≤ b).Pairwise (· < ·) :=
    Lexicographic.pairwise_sort id (by simpa using quarantinedPaths_nodup hq hlocated)
  rw [validateCandidateManifest_ok, hcomplete]
  constructor
  · rintro ⟨⟨hartifacts, hincreasing⟩, hnodes, hequal⟩
    have hfile : ∀ artifact ∈ manifest.artifacts, ∃ names bytes, RegularAt tree names bytes ∧
        quarantine <+: names ∧ artifact.path = join names ∧ sha256Hex sha256 bytes = artifact.sha256 ∧
          (artifact.encoding = .rfc8785Jcs → isCanonicalJson bytes = true) := by
      intro artifact hartifact
      have hok := hartifacts artifact hartifact
      obtain ⟨bytes, hregular, hdigest, hjson⟩ := hok.file
      obtain ⟨names, hnames, hjoin, hpath⟩ := exists_names hok.canonical
      rw [hpath] at hregular
      have hinside := hok.inside
      rw [← hjoin, join_below hq hnames] at hinside
      exact ⟨names, bytes, hregular, hinside.1, hjoin.symm, hdigest, hjson⟩
    refine ⟨⟨hincreasing, fun path digest => ⟨?_, ?_⟩⟩, ?_, hnodes⟩
    · rintro ⟨artifact, hartifact, rfl, rfl⟩
      obtain ⟨names, bytes, hregular, hbelow, hpath, hdigest, -⟩ := hfile artifact hartifact
      exact ⟨names, bytes, hregular, hbelow, hpath, hdigest.symm⟩
    · rintro ⟨names, bytes, hregular, hbelow, rfl, rfl⟩
      have hmem : join names ∈ manifest.artifacts.map CandidateArtifact.path := by
        rw [hequal, List.mem_mergeSort]
        exact (mem_quarantinedPaths hq hlocated).mpr ⟨names, bytes, hregular, hbelow, rfl⟩
      obtain ⟨artifact, hartifact, hpath⟩ := List.mem_map.mp hmem
      obtain ⟨names', bytes', hregular', -, hpath', hdigest, -⟩ := hfile artifact hartifact
      have hnames := join_injective (hpath.symm.trans hpath')
      subst hnames
      exact ⟨artifact, hartifact, hpath, by rw [← hdigest, hregular.unique hregular']⟩
    · intro artifact hartifact hencoding names bytes hregular hpath
      obtain ⟨names', bytes', hregular', -, hpath', -, hjson⟩ := hfile artifact hartifact
      have hnames := join_injective (hpath.symm.trans hpath')
      subst hnames
      rw [hregular.unique hregular']
      exact hjson hencoding
  · rintro ⟨hlisted, hjson, hnodes⟩
    have hmem : ∀ path, path ∈ manifest.artifacts.map CandidateArtifact.path ↔
        path ∈ quarantinedPaths quarantine children := by
      intro path
      rw [mem_quarantinedPaths hq hlocated, List.mem_map]
      constructor
      · rintro ⟨artifact, hartifact, rfl⟩
        obtain ⟨names, bytes, hregular, hbelow, hpath, -⟩ := hlisted.file hartifact
        exact ⟨names, bytes, hregular, hbelow, hpath⟩
      · rintro ⟨names, bytes, hregular, hbelow, rfl⟩
        obtain ⟨artifact, hartifact, hpath, -⟩ := hlisted.artifact hregular hbelow
        exact ⟨artifact, hartifact, hpath⟩
    have hequal : manifest.artifacts.map CandidateArtifact.path =
        (quarantinedPaths quarantine children).mergeSort fun a b => a ≤ b := by
      have hnodup : (manifest.artifacts.map CandidateArtifact.path).Nodup :=
        hlisted.increasing.imp fun h => Std.ne_of_lt h
      have hperm : (manifest.artifacts.map CandidateArtifact.path).Perm
          ((quarantinedPaths quarantine children).mergeSort fun a b => a ≤ b) :=
        ((List.perm_ext_iff_of_nodup hnodup (quarantinedPaths_nodup hq hlocated)).mpr hmem).trans
          (List.mergeSort_perm _ _).symm
      exact Lexicographic.eq_of_increasing hperm hlisted.increasing hsorted
    refine ⟨⟨fun artifact hartifact => ?_, hlisted.increasing⟩, hnodes, hequal⟩
    obtain ⟨names, bytes, hregular, hbelow, hpath, hdigest⟩ := hlisted.file hartifact
    have hne : quarantine ≠ names := by
      rintro rfl
      rw [RegularAt, ← locate_leaf tree hq, hlocated] at hregular
      cases hregular
    refine ⟨hpath ▸ (hnodes _ hregular hbelow hne).canonical, ?_, bytes, ?_, hdigest.symm, fun hencoding =>
      hjson artifact hartifact hencoding names bytes hregular hpath⟩
    · rw [hpath, join_below hq hregular.ne_nil]
      exact ⟨hbelow, hne⟩
    · rw [hpath, pathFromPosix_join hregular.ne_nil]
      exact hregular

end Artifacts

end Eip0045.Quarantine
