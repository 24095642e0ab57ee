import Eip0045.Quarantine.Listing

/-! The quarantine is exact: what the guard accepts, and that it accepts every tree without links, special entries
and names that it cannot print. -/

namespace Eip0045.Quarantine

open Bytes Checked FileTree Windows

section Reserved

def lowered (names : List FileName) : List Bytes := names.map fun name => B4Tree.toAsciiLowercase name.bytes

def finalRunNames : List Bytes :=
  [utf8 "runprecommitv1.json", utf8 "runevidencev1.json", utf8 "runevidencev1.sig"]

/-- The lock, the schema, or a precommit, an evidence or a signature below the runs. -/
def Reserved (names : List FileName) : Prop :=
  lowered names = [utf8 "reproduction", utf8 "lock.json"] ∨
    lowered names = [utf8 "reproduction", utf8 "schema-v1.json"] ∨
    ∃ between name, lowered names = utf8 "reproduction" :: utf8 "runs" :: (between ++ [name]) ∧
      name ∈ finalRunNames

lemma lowercase_slash (byte : UInt8) :
    (if 65 ≤ byte ∧ byte ≤ 90 then byte + 32 else byte) = slash ↔ byte = slash := by
  by_cases h : 65 ≤ byte ∧ byte ≤ 90
  · have hlow : 65 ≤ byte.toNat := UInt8.le_iff_toNat_le.mp h.1
    have hhigh : byte.toNat ≤ 90 := UInt8.le_iff_toNat_le.mp h.2
    have hslash : slash.toNat = 47 := rfl
    have hstep : (32 : UInt8).toNat = 32 := rfl
    rw [if_pos h, ← UInt8.toNat_inj, ← UInt8.toNat_inj, UInt8.toNat_add]
    omega
  · rw [if_neg h]

lemma map_intercalate {α : Type} (f : α → α) (sep : α) (parts : List (List α)) :
    ([sep].intercalate parts).map f = [f sep].intercalate (parts.map (List.map f)) := by
  induction parts with
  | nil => rfl
  | cons part parts ih =>
    cases parts with
    | nil => simp
    | cons second parts =>
      have hne : second :: parts ≠ [] := by simp
      have hmapped : (second :: parts).map (List.map f) ≠ [] := by simp
      have hsplit : part :: second :: parts = [part] ++ second :: parts := rfl
      rw [hsplit, Paths.intercalate_append (by simp) hne, List.map_append (f := List.map f),
        Paths.intercalate_append (by simp) hmapped, List.map_append, List.map_cons, ih]
      simp

lemma splitOn_lowered {names : List FileName} (h : names ≠ []) :
    (B4Tree.toAsciiLowercase (join names)).splitOn slash = lowered names := by
  have hslash : (if 65 ≤ slash ∧ slash ≤ 90 then slash + 32 else slash) = slash :=
    (lowercase_slash slash).mpr rfl
  have hlower : B4Tree.toAsciiLowercase (join names) = [slash].intercalate (lowered names) := by
    rw [B4Tree.toAsciiLowercase, join, map_intercalate, hslash, List.map_map]
    rfl
  rw [hlower]
  apply List.splitOn_intercalate
  · intro bytes hbytes hmem
    obtain ⟨name, -, rfl⟩ := List.mem_map.mp hbytes
    obtain ⟨byte, hbyte, heq⟩ := List.mem_map.mp hmem
    rw [(lowercase_slash byte).mp heq] at hbyte
    exact name.noSlash hbyte
  · simpa [lowered] using h

lemma lower_eq_iff {names : List FileName} (h : names ≠ []) (path : Bytes) :
    B4Tree.toAsciiLowercase (join names) = path ↔ lowered names = path.splitOn slash := by
  rw [← splitOn_lowered h]
  constructor
  · exact fun heq => by rw [heq]
  · intro heq
    calc B4Tree.toAsciiLowercase (join names)
        = [slash].intercalate ((B4Tree.toAsciiLowercase (join names)).splitOn slash) :=
          (List.intercalate_splitOn slash).symm
      _ = [slash].intercalate (path.splitOn slash) := by rw [heq]
      _ = path := List.intercalate_splitOn slash

lemma reserved_components :
    (utf8 "reproduction/lock.json").splitOn slash = [utf8 "reproduction", utf8 "lock.json"] ∧
    (utf8 "reproduction/schema-v1.json").splitOn slash = [utf8 "reproduction", utf8 "schema-v1.json"] ∧
    (utf8 "reproduction/runs").splitOn slash = [utf8 "reproduction", utf8 "runs"] ∧
    utf8 "reproduction/runs/" = utf8 "reproduction/runs" ++ [slash] := by
  decide

lemma runs_prefix_iff {names : List FileName} (h : names ≠ []) :
    utf8 "reproduction/runs/" <+: B4Tree.toAsciiLowercase (join names) ↔
      ∃ between name, lowered names = utf8 "reproduction" :: utf8 "runs" :: (between ++ [name]) := by
  obtain ⟨-, -, hruns, htext⟩ := reserved_components
  have hbelow : utf8 "reproduction/runs/" <+: B4Tree.toAsciiLowercase (join names) ↔
      Paths.Below slash (utf8 "reproduction/runs") (B4Tree.toAsciiLowercase (join names)) := by
    rw [htext]
    rfl
  have hcomponents := @Paths.splitOn_prefix_iff _ slash _ _ (utf8 "reproduction/runs")
    (B4Tree.toAsciiLowercase (join names))
  rw [hruns, splitOn_lowered h] at hcomponents
  rw [hbelow]
  constructor
  · intro hlower
    obtain ⟨rest, hrest⟩ := hcomponents.mpr (.inr hlower)
    have hne : rest ≠ [] := by
      rintro rfl
      have heq : B4Tree.toAsciiLowercase (join names) = utf8 "reproduction/runs" := by
        rw [lower_eq_iff h, hruns, ← hrest, List.append_nil]
      rw [heq] at hlower
      exact Paths.Below.irrefl _ hlower
    obtain ⟨between, name, rfl⟩ := List.eq_nil_or_concat' rest |>.resolve_left hne
    exact ⟨between, name, hrest.symm⟩
  · rintro ⟨between, name, hlower⟩
    refine (hcomponents.mp ⟨between ++ [name], hlower.symm⟩).resolve_left fun heq => ?_
    rw [eq_comm, lower_eq_iff h, hruns, hlower] at heq
    simp at heq

lemma reservedFinalKind_none {names : List FileName} (h : names ≠ []) :
    reservedFinalKind (join names) = none ↔ ¬Reserved names := by
  obtain ⟨hlock, hschema, -, -⟩ := reserved_components
  rw [reservedFinalKind, Reserved]
  simp only [lower_eq_iff h, hlock, hschema, splitOn_lowered h]
  by_cases h1 : lowered names = [utf8 "reproduction", utf8 "lock.json"]
  · simp [h1]
  · by_cases h2 : lowered names = [utf8 "reproduction", utf8 "schema-v1.json"]
    · rw [if_neg h1, if_pos h2]
      simp [h2]
    · rw [if_neg h1, if_neg h2]
      simp only [h1, h2, false_or]
      by_cases h3 : utf8 "reproduction/runs/" <+: B4Tree.toAsciiLowercase (join names)
      · obtain ⟨between, name, hnames⟩ := (runs_prefix_iff h).mp h3
        have hlast : (lowered names).getLast?.getD [] = name := by
          rw [hnames, ← List.cons_append, ← List.cons_append, List.getLast?_concat, Option.getD_some]
        rw [if_pos h3, hlast]
        have hreserved : (∃ between name, lowered names = utf8 "reproduction" :: utf8 "runs" :: (between ++ [name]) ∧
            name ∈ finalRunNames) ↔ name ∈ finalRunNames := by
          constructor
          · rintro ⟨between', name', hnames', hname'⟩
            rw [hnames] at hnames'
            have hsame := List.append_inj_right' (List.cons.inj (List.cons.inj hnames').2).2 rfl
            rw [List.cons.inj hsame |>.1]
            exact hname'
          · exact fun hname => ⟨between, name, hnames, hname⟩
        rw [hreserved]
        simp only [finalRunNames, List.mem_cons, List.not_mem_nil, or_false]
        split_ifs <;> simp_all
      · rw [if_neg h3]
        simp only [true_iff]
        rintro ⟨between, name, hnames, -⟩
        exact h3 ((runs_prefix_iff h).mpr ⟨between, name, hnames⟩)

end Reserved

section Scans

variable {sha256 : Bytes → Digest} {tree : FileTree CandidateNode} {quarantine : List FileName}
  {manifest : CandidateCorpusManifest}

lemma containsBytes_iff {haystack needle : Bytes} :
    containsBytes haystack needle = true ↔ needle ≠ [] ∧ needle <:+: haystack := by
  rw [containsBytes, Bool.and_eq_true, Bool.not_eq_true', List.isEmpty_eq_false_iff, List.any_eq_true]
  refine and_congr_right fun _ => ?_
  rw [← mem_windows]
  constructor
  · rintro ⟨window, hwindow, heq⟩
    rw [← beq_iff_eq.mp heq]
    rwa [beq_iff_eq.mp heq] at hwindow ⊢
  · exact fun h => ⟨needle, h, beq_self_eq_true needle⟩

lemma rejectReservedFinalArtifacts_ok : rejectReservedFinalArtifacts tree quarantine = .ok () ↔
    (∀ b ∈ tree.nodes, reproductionRoot <+: b.1 → ¬quarantine <+: b.1 → RootPlain reproductionRoot b) ∧
      ∀ names bytes, RegularAt tree names bytes → reproductionRoot <+: names → ¬quarantine <+: names →
        ¬Reserved names := by
  have hroot : reproductionRoot ≠ [] := by decide
  have hkind : ∀ file : Bytes × Bytes, refuseReserved file = .ok () ↔ reservedFinalKind file.1 = none := by
    intro file
    rw [refuseReserved]
    cases reservedFinalKind file.1 <;> simp
  simp only [rejectReservedFinalArtifacts, bind_ok, collectRoot_ok hroot, forM_ok, List.mem_mergeSort, hkind]
  constructor
  · rintro ⟨_, ⟨hnodes, rfl⟩, hfiles⟩
    refine ⟨hnodes, fun names bytes hregular hprefix hq => ?_⟩
    rw [← reservedFinalKind_none hregular.ne_nil]
    exact hfiles (join names, bytes) (mem_filesUnder.mpr ⟨names, hregular, hprefix, hq, rfl⟩)
  · rintro ⟨hnodes, hfiles⟩
    refine ⟨_, ⟨hnodes, rfl⟩, fun file hfile => ?_⟩
    obtain ⟨names, hregular, hprefix, hq, hpath⟩ := mem_filesUnder.mp hfile
    rw [hpath, reservedFinalKind_none hregular.ne_nil]
    exact hfiles names file.2 hregular hprefix hq

/-- A path under a final-looking root, or a final-looking file. -/
def FinalLooking (names : List FileName) : Prop :=
  (∃ root ∈ finalLookingRoots, pathFromPosix root <+: names) ∨
    ∃ file ∈ finalLookingFiles, names = pathFromPosix file

lemma mapM_collect {α β : Type} {f : α → Result β} {C : α → Prop} {v : α → β} {xs : List α} {ys : List β}
    (hf : ∀ x ∈ xs, ∀ y, f x = .ok y ↔ C x ∧ y = v x) : xs.mapM f = .ok ys ↔ (∀ x ∈ xs, C x) ∧ ys = xs.map v := by
  rw [mapM_forall₂]
  induction xs generalizing ys with
  | nil => simp
  | cons x xs ih =>
    rw [List.forall_mem_cons] at hf
    rw [List.forall_mem_cons, List.map_cons, List.forall₂_cons_left_iff]
    simp only [hf.1, ih hf.2]
    constructor
    · rintro ⟨_, _, ⟨hx, rfl⟩, ⟨hxs, rfl⟩, rfl⟩
      exact ⟨⟨hx, hxs⟩, rfl⟩
    · rintro ⟨⟨hx, hxs⟩, rfl⟩
      exact ⟨_, _, ⟨hx, rfl⟩, ⟨hxs, rfl⟩, rfl⟩

lemma finalLooking_paths : ∀ path ∈ finalLookingRoots ++ finalLookingFiles,
    pathFromPosix path ≠ [] ∧ path = join (pathFromPosix path) := by
  decide

/-- What the walks under the final-looking roots and at the final-looking files ask of the tree. -/
structure FinalWalked (tree : FileTree CandidateNode) (quarantine : List FileName) : Prop where
  roots : ∀ root ∈ finalLookingRoots, ∀ b ∈ tree.nodes, pathFromPosix root <+: b.1 → ¬quarantine <+: b.1 →
    RootPlain (pathFromPosix root) b
  files : ∀ file ∈ finalLookingFiles,
    (pathFromPosix file, Node.leaf (CandidateNode.link true)) ∈ tree.nodes → quarantine <+: pathFromPosix file

def finalFiles (tree : FileTree CandidateNode) (quarantine : List FileName) : List (Bytes × Bytes) :=
  (finalLookingRoots.map fun root => filesUnder tree quarantine (pathFromPosix root)).flatten ++
    (finalLookingFiles.map fun file => fileAt tree quarantine (pathFromPosix file)).flatten

lemma collectFinalFiles_ok {files : List (Bytes × Bytes)} : collectFinalFiles tree quarantine = .ok files ↔
    FinalWalked tree quarantine ∧
      files = dedupByKey Prod.fst ((finalFiles tree quarantine).mergeSort fun a b => a.1 ≤ b.1) := by
  have hroot : ∀ root ∈ finalLookingRoots, ∀ found,
      collectRoot tree quarantine (pathFromPosix root) = .ok found ↔
        (∀ b ∈ tree.nodes, pathFromPosix root <+: b.1 → ¬quarantine <+: b.1 → RootPlain (pathFromPosix root) b) ∧
          found = filesUnder tree quarantine (pathFromPosix root) :=
    fun root hmem found => collectRoot_ok (finalLooking_paths root (List.mem_append_left _ hmem)).1
  have hfile : ∀ file ∈ finalLookingFiles, ∀ found, collectExact tree quarantine file = .ok found ↔
      ((pathFromPosix file, Node.leaf (CandidateNode.link true)) ∈ tree.nodes → quarantine <+: pathFromPosix file) ∧
        found = fileAt tree quarantine (pathFromPosix file) := by
    intro file hmem found
    obtain ⟨hne, hjoin⟩ := finalLooking_paths file (List.mem_append_right _ hmem)
    exact collectExact_ok hne hjoin
  simp only [collectFinalFiles, bind_ok, mapM_collect hroot, mapM_collect hfile, pure_ok]
  constructor
  · rintro ⟨_, ⟨hroots, rfl⟩, _, ⟨hfiles, rfl⟩, rfl⟩
    exact ⟨⟨hroots, hfiles⟩, rfl⟩
  · rintro ⟨hwalked, rfl⟩
    exact ⟨_, ⟨hwalked.roots, rfl⟩, _, ⟨hwalked.files, rfl⟩, rfl⟩

lemma mem_finalFiles {file : Bytes × Bytes} : file ∈ finalFiles tree quarantine ↔
    ∃ names, RegularAt tree names file.2 ∧ ¬quarantine <+: names ∧ FinalLooking names ∧ file.1 = join names := by
  simp only [finalFiles, List.mem_append, List.mem_flatten, List.mem_map, exists_exists_and_eq_and, mem_filesUnder,
    mem_fileAt]
  constructor
  · rintro (⟨root, hroot, names, hregular, hprefix, hq, hpath⟩ | ⟨exact, hexact, hregular, hq, hpath⟩)
    · exact ⟨names, hregular, hq, .inl ⟨root, hroot, hprefix⟩, hpath⟩
    · exact ⟨_, hregular, hq, .inr ⟨exact, hexact, rfl⟩, hpath⟩
  · rintro ⟨names, hregular, hq, ⟨root, hroot, hprefix⟩ | ⟨exact, hexact, rfl⟩, hpath⟩
    · exact .inl ⟨root, hroot, names, hregular, hprefix, hq, hpath⟩
    · exact .inr ⟨exact, hexact, hregular, hq, hpath⟩

lemma mem_scanned {file : Bytes × Bytes} :
    file ∈ dedupByKey Prod.fst ((finalFiles tree quarantine).mergeSort fun a b => a.1 ≤ b.1) ↔
      file ∈ finalFiles tree quarantine := by
  constructor
  · exact fun h => List.mem_mergeSort.mp (mem_of_mem_dedupByKey h)
  · intro h
    have hkept : ∃ other ∈ dedupByKey Prod.fst ((finalFiles tree quarantine).mergeSort fun a b => a.1 ≤ b.1),
        other.1 = file.1 := exists_mem_dedupByKey (List.mem_mergeSort.mpr h)
    obtain ⟨other, hother, hkey⟩ := hkept
    have hsame : other = file := by
      obtain ⟨names, hregular, -, -, hpath⟩ := mem_finalFiles.mp h
      obtain ⟨names', hregular', -, -, hpath'⟩ :=
        mem_finalFiles.mp (List.mem_mergeSort.mp (mem_of_mem_dedupByKey hother))
      have hnames : names' = names := join_injective (hpath'.symm.trans (hkey.trans hpath))
      subst hnames
      exact Prod.ext hkey (hregular'.unique hregular)
    rwa [hsame] at hother

/-- What the scan of a file asks of it, for one candidate. -/
structure Untainted (artifact : CandidateArtifact) (sha256 : Bytes → Digest) (bytes : Bytes) : Prop where
  promoted : artifact.sha256 ≠ sha256Hex sha256 bytes
  raw : ∃ raw, Hex.decode artifact.sha256 = some raw ∧ ¬containsBytes bytes raw = true
  path : ¬containsBytes (B4Tree.toAsciiLowercase bytes) (B4Tree.toAsciiLowercase artifact.path) = true
  digest : ¬containsBytes (B4Tree.toAsciiLowercase bytes) artifact.sha256 = true

lemma candidateReferences_forall {p : Bytes → Prop} :
    (∀ reference ∈ candidateReferences manifest, p reference.2) ↔ ∀ artifact ∈ manifest.artifacts,
      p (B4Tree.toAsciiLowercase artifact.path) ∧ p artifact.sha256 := by
  rw [candidateReferences, forall_dedupByKey]
  simp only [List.mem_mergeSort, List.forall_mem_flatMap, List.forall_mem_cons, List.not_mem_nil, false_imp_iff,
    implies_true, and_true]

lemma scanFinalFile_ok {file : Bytes × Bytes} :
    scanFinalFile sha256 manifest (candidateReferences manifest) file = .ok () ↔
      ∀ artifact ∈ manifest.artifacts, Untainted artifact sha256 file.2 := by
  have hall : (∀ artifact ∈ manifest.artifacts, Untainted artifact sha256 file.2) ↔
      (∀ artifact ∈ manifest.artifacts, artifact.sha256 ≠ sha256Hex sha256 file.2) ∧
      (∀ artifact ∈ manifest.artifacts, ∃ raw, Hex.decode artifact.sha256 = some raw ∧
        ¬containsBytes file.2 raw = true) ∧
      ∀ reference ∈ candidateReferences manifest,
        ¬containsBytes (B4Tree.toAsciiLowercase file.2) reference.2 = true := by
    rw [candidateReferences_forall (p := fun text => ¬containsBytes (B4Tree.toAsciiLowercase file.2) text = true)]
    constructor
    · exact fun h => ⟨fun a ha => (h a ha).promoted, fun a ha => (h a ha).raw,
        fun a ha => ⟨(h a ha).path, (h a ha).digest⟩⟩
    · rintro ⟨hpromoted, hraw, hreferences⟩ a ha
      exact ⟨hpromoted a ha, hraw a ha, (hreferences a ha).1, (hreferences a ha).2⟩
  rw [hall, scanFinalFile]
  dsimp only
  cases hfind : manifest.artifacts.find? fun candidate => candidate.sha256 = sha256Hex sha256 file.2 with
  | some candidate =>
    have hmem := List.mem_of_find?_eq_some hfind
    have heq : candidate.sha256 = sha256Hex sha256 file.2 := by
      have hfound := List.find?_some hfind
      exact of_decide_eq_true hfound
    constructor
    · exact fun h => (by cases h)
    · exact fun h => absurd heq (h.1 candidate hmem)
  | none =>
    have hpromoted : ∀ artifact ∈ manifest.artifacts, artifact.sha256 ≠ sha256Hex sha256 file.2 := by
      intro artifact hartifact heq
      exact absurd (decide_eq_true heq) (List.find?_eq_none.mp hfind artifact hartifact)
    simp only [bind_ok, exists_unit, forM_ok, ensure_ok, context_ok]
    exact ⟨fun h => ⟨hpromoted, h⟩, fun h => h.2⟩

lemma rejectCandidateReferences_ok :
    rejectCandidateReferencesInFinalFiles sha256 tree quarantine manifest = .ok () ↔
      FinalWalked tree quarantine ∧ ∀ names bytes, RegularAt tree names bytes → ¬quarantine <+: names →
        FinalLooking names → ∀ artifact ∈ manifest.artifacts, Untainted artifact sha256 bytes := by
  simp only [rejectCandidateReferencesInFinalFiles, bind_ok, collectFinalFiles_ok, forM_ok, scanFinalFile_ok]
  constructor
  · rintro ⟨_, ⟨hwalked, rfl⟩, hfiles⟩
    refine ⟨hwalked, fun names bytes hregular hq hfinal => hfiles (join names, bytes) ?_⟩
    exact mem_scanned.mpr (mem_finalFiles.mpr ⟨names, hregular, hq, hfinal, rfl⟩)
  · rintro ⟨hwalked, hfiles⟩
    refine ⟨_, ⟨hwalked, rfl⟩, fun file hfile => ?_⟩
    obtain ⟨names, hregular, hq, hfinal, -⟩ := mem_finalFiles.mp (mem_scanned.mp hfile)
    exact hfiles names file.2 hregular hq hfinal

end Scans

section Guard

variable {sha256 : Bytes → Digest} {isCanonicalJson : Bytes → Bool} {tree : FileTree CandidateNode}
  {quarantine : List FileName} {quarantineRoot : Bytes} {manifest : CandidateCorpusManifest}

structure Accepted (sha256 : Bytes → Digest) (isCanonicalJson : Bytes → Bool) (tree : FileTree CandidateNode)
    (quarantine : List FileName) (manifest : CandidateCorpusManifest) : Prop where
  directory : (quarantine, Node.directory) ∈ tree.nodes
  listed : Listed sha256 tree quarantine manifest
  json : JsonCanonical isCanonicalJson tree manifest
  canonical : ∀ b ∈ tree.nodes, quarantine <+: b.1 → quarantine ≠ b.1 → NodeCanonical b
  walked : ∀ b ∈ tree.nodes, reproductionRoot <+: b.1 → ¬quarantine <+: b.1 → RootPlain reproductionRoot b
  reserved : ∀ names bytes, RegularAt tree names bytes → reproductionRoot <+: names → ¬quarantine <+: names →
    ¬Reserved names
  finalWalked : FinalWalked tree quarantine
  untainted : ∀ names bytes, RegularAt tree names bytes → ¬quarantine <+: names → FinalLooking names →
    ∀ artifact ∈ manifest.artifacts, Untainted artifact sha256 bytes

lemma requireOrdinaryDirectory_ok {label : String} {located : Option (Located CandidateNode)}
    {children : Directory CandidateNode} :
    requireOrdinaryDirectory label quarantine located = .ok children ↔ located = some (.directory children) := by
  cases located with
  | none => simp [requireOrdinaryDirectory]
  | some located =>
    cases located with
    | directory other => simp [requireOrdinaryDirectory]
    | leaf contents => cases contents <;> simp [requireOrdinaryDirectory]

lemma validateCandidateQuarantine_ok :
    validateCandidateQuarantine sha256 isCanonicalJson tree quarantineRoot manifest = .ok () ↔
      validateRelativePath quarantineRoot = .ok () ∧
        Accepted sha256 isCanonicalJson tree (pathFromPosix quarantineRoot) manifest := by
  simp only [validateCandidateQuarantine, bind_ok, exists_unit, requireOrdinaryDirectory_ok,
    rejectReservedFinalArtifacts_ok, rejectCandidateReferences_ok]
  refine and_congr_right fun hcanonical => ?_
  obtain ⟨names, hnames, rfl, hpath⟩ := exists_names hcanonical
  rw [hpath]
  constructor
  · rintro ⟨children, hlocated, hmanifest, hcomplete, ⟨hwalked, hreserved⟩, hfinal, huntainted⟩
    obtain ⟨hlisted, hjson, hnodes⟩ := (manifest_ok hnames hlocated).mp ⟨hmanifest, hcomplete⟩
    exact ⟨(locate_directory tree hnames).mp ⟨children, hlocated⟩, hlisted, hjson, hnodes, hwalked, hreserved, hfinal,
      huntainted⟩
  · intro h
    obtain ⟨children, hlocated⟩ := (locate_directory tree hnames).mpr h.directory
    obtain ⟨hmanifest, hcomplete⟩ := (manifest_ok hnames hlocated).mpr ⟨h.listed, h.json, h.canonical⟩
    exact ⟨children, hlocated, hmanifest, hcomplete, ⟨h.walked, h.reserved⟩, h.finalWalked, h.untainted⟩

/-- A file holds neither a candidate's bytes nor, without ASCII case, its path or digest. -/
structure HoldsNothingOf (sha256 : Bytes → Digest) (candidate : List FileName) (content bytes : Bytes) : Prop where
  distinct : bytes ≠ content
  rawDigest : ¬(sha256 content).val <:+: bytes
  path : ¬B4Tree.toAsciiLowercase (join candidate) <:+: B4Tree.toAsciiLowercase bytes
  digest : ¬sha256Hex sha256 content <:+: B4Tree.toAsciiLowercase bytes

structure Quarantined (sha256 : Bytes → Digest) (tree : FileTree CandidateNode) (quarantine : List FileName)
    (manifest : CandidateCorpusManifest) : Prop where
  listed : Listed sha256 tree quarantine manifest
  reserved : ∀ names bytes, RegularAt tree names bytes → reproductionRoot <+: names → ¬quarantine <+: names →
    ¬Reserved names
  final : ∀ names bytes, RegularAt tree names bytes → ¬quarantine <+: names → FinalLooking names →
    ∀ candidate content, RegularAt tree candidate content → quarantine <+: candidate →
      HoldsNothingOf sha256 candidate content bytes

/-- A tree of directories and regular files whose names the walks can print. -/
structure Clean (tree : FileTree CandidateNode) (quarantine : List FileName) : Prop where
  regular : ∀ names node, (names, Node.leaf node) ∈ tree.nodes → ∃ bytes, node = .regular bytes
  utf8 : ∀ names bytes, RegularAt tree names bytes → names.all (fun name => B4Tree.isUtf8 name.bytes) = true
  canonical : ∀ b ∈ tree.nodes, quarantine <+: b.1 → quarantine ≠ b.1 → validateRelativePath (join b.1) = .ok ()

lemma untainted_iff {artifact : CandidateArtifact} {candidate : List FileName} {content bytes : Bytes}
    (hcandidate : candidate ≠ []) (hpath : artifact.path = join candidate)
    (hdigest : artifact.sha256 = sha256Hex sha256 content) : Untainted artifact sha256 bytes ↔
      sha256 content ≠ sha256 bytes ∧ ¬(sha256 content).val <:+: bytes ∧
        ¬B4Tree.toAsciiLowercase (join candidate) <:+: B4Tree.toAsciiLowercase bytes ∧
        ¬sha256Hex sha256 content <:+: B4Tree.toAsciiLowercase bytes := by
  have hraw : (sha256 content).val ≠ [] := by
    intro h
    have hlength := (sha256 content).val_length
    rw [h] at hlength
    cases hlength
  have hlower : B4Tree.toAsciiLowercase (join candidate) ≠ [] := by
    rw [B4Tree.toAsciiLowercase, Ne, List.map_eq_nil_iff]
    exact join_ne_nil hcandidate
  have hhex : sha256Hex sha256 content ≠ [] := by
    intro h
    have hlength := Hex.encode_length (sha256 content).val
    rw [← sha256Hex, h, ByteArr.val_length] at hlength
    cases hlength
  have hsame : sha256Hex sha256 content ≠ sha256Hex sha256 bytes ↔ sha256 content ≠ sha256 bytes :=
    not_congr ⟨fun h => Hex.encode_injective h, fun h => by rw [sha256Hex, h, ← sha256Hex]⟩
  rw [← hsame]
  constructor
  · intro h
    obtain ⟨raw, hdecode, hcontains⟩ := h.raw
    have hpromoted := h.promoted
    have hpathFree := h.path
    have hdigestFree := h.digest
    rw [hdigest, sha256Hex, Hex.decode_encode] at hdecode
    cases hdecode
    rw [containsBytes_iff] at hcontains
    rw [hdigest] at hpromoted hdigestFree
    rw [hpath, containsBytes_iff] at hpathFree
    rw [containsBytes_iff] at hdigestFree
    exact ⟨hpromoted, fun hin => hcontains ⟨hraw, hin⟩, fun hin => hpathFree ⟨hlower, hin⟩,
      fun hin => hdigestFree ⟨hhex, hin⟩⟩
  · rintro ⟨hpromoted, hrawFree, hpathFree, hdigestFree⟩
    refine ⟨hdigest ▸ hpromoted, ⟨_, by rw [hdigest, sha256Hex, Hex.decode_encode], ?_⟩, ?_, ?_⟩
    · rw [containsBytes_iff]
      exact fun hin => hrawFree hin.2
    · rw [hpath, containsBytes_iff]
      exact fun hin => hpathFree hin.2
    · rw [hdigest, containsBytes_iff]
      exact fun hin => hdigestFree hin.2

lemma Accepted.quarantined (h : Accepted sha256 isCanonicalJson tree quarantine manifest) :
    Quarantined sha256 tree quarantine manifest := by
  refine ⟨h.listed, h.reserved, fun names bytes hregular hq hfinal candidate content hcontent hcandidate => ?_⟩
  obtain ⟨artifact, hartifact, hpath, hdigest⟩ := h.listed.artifact hcontent hcandidate
  obtain ⟨hpromoted, hraw, hfree⟩ := (untainted_iff hcontent.ne_nil hpath hdigest).mp
    (h.untainted names bytes hregular hq hfinal artifact hartifact)
  exact ⟨fun heq => hpromoted (by rw [heq]), hraw, hfree.1, hfree.2⟩

lemma Clean.nodePlain (h : Clean tree quarantine) {b : List FileName × Node CandidateNode} (hb : b ∈ tree.nodes) :
    NodePlain b := by
  obtain ⟨names, node⟩ := b
  refine ⟨?_⟩
  rintro contents rfl
  obtain ⟨bytes, rfl⟩ := h.regular names contents hb
  exact ⟨⟨bytes, rfl⟩, h.utf8 names bytes hb⟩

lemma Quarantined.accepted (h : Quarantined sha256 tree quarantine manifest)
    (hdirectory : (quarantine, Node.directory) ∈ tree.nodes) (hclean : Clean tree quarantine)
    (hjson : JsonCanonical isCanonicalJson tree manifest)
    (hsha256 : Set.InjOn sha256 {bytes | ∃ names, RegularAt tree names bytes}) :
    Accepted sha256 isCanonicalJson tree quarantine manifest := by
  refine ⟨hdirectory, h.listed, hjson, ?_, ?_, h.reserved, ⟨?_, ?_⟩, ?_⟩
  · intro b hb hprefix hne
    exact ⟨hclean.canonical b hb hprefix hne, fun node hleaf => ((hclean.nodePlain hb).leaf node hleaf).1⟩
  · exact fun b hb _ _ => .inl (hclean.nodePlain hb)
  · exact fun root _ b hb _ _ => .inl (hclean.nodePlain hb)
  · intro file _ hlink
    obtain ⟨bytes, hbytes⟩ := hclean.regular _ _ hlink
    cases hbytes
  · intro names bytes hregular hq hfinal artifact hartifact
    obtain ⟨candidate, content, hcontent, hcandidate, hpath, hdigest⟩ := h.listed.file hartifact
    have hfree := h.final names bytes hregular hq hfinal candidate content hcontent hcandidate
    refine (untainted_iff hcontent.ne_nil hpath hdigest).mpr ⟨fun heq => ?_, hfree.rawDigest, hfree.path, hfree.digest⟩
    exact hfree.distinct (hsha256 ⟨names, hregular⟩ ⟨candidate, hcontent⟩ heq.symm)

end Guard

/-- What the guard accepts keeps the rule of the quarantine; and it accepts every clean tree with a directory as its
quarantine root that keeps the rule and whose canonical candidates are canonical. -/
theorem candidate_quarantine_exact (sha256 : Bytes → Digest) (isCanonicalJson : Bytes → Bool)
    (tree : FileTree CandidateNode) (quarantineRoot : Bytes) (manifest : CandidateCorpusManifest) :
    (validateCandidateQuarantine sha256 isCanonicalJson tree quarantineRoot manifest = .ok () →
      Quarantined sha256 tree (pathFromPosix quarantineRoot) manifest) ∧
    (validateRelativePath quarantineRoot = .ok () →
      (pathFromPosix quarantineRoot, Node.directory) ∈ tree.nodes →
      Clean tree (pathFromPosix quarantineRoot) → JsonCanonical isCanonicalJson tree manifest →
      Set.InjOn sha256 {bytes | ∃ names, RegularAt tree names bytes} →
      Quarantined sha256 tree (pathFromPosix quarantineRoot) manifest →
      validateCandidateQuarantine sha256 isCanonicalJson tree quarantineRoot manifest = .ok ()) := by
  constructor
  · intro h
    exact (validateCandidateQuarantine_ok.mp h).2.quarantined
  · intro hcanonical hdirectory hclean hjson hsha256 h
    exact validateCandidateQuarantine_ok.mpr ⟨hcanonical, h.accepted hdirectory hclean hjson hsha256⟩

section Exceptions

/-- Each tree below holds at most one content, so no two of its contents have one digest. -/
def zeroHash : Bytes → Digest := fun _ => ByteArr.zero 32

def reproductionName : FileName := ⟨utf8 "reproduction", by decide, by decide, by decide⟩
def lockName : FileName := ⟨utf8 "lock.json", by decide, by decide, by decide⟩
def methodsName : FileName := ⟨utf8 "methods", by decide, by decide, by decide⟩
def unprintableName : FileName := ⟨[255], by decide, by decide, by decide⟩

/-- A final lock that lies in the quarantine and is listed. -/
def lockTree : FileTree CandidateNode where
  root := .directory reproductionName (.leaf lockName (.regular []) .empty) .empty
  distinct := by decide

def lockManifest : CandidateCorpusManifest :=
  ⟨[⟨.rawBytes, utf8 "reproduction/lock.json", sha256Hex zeroHash []⟩]⟩

/-- A file under a final-looking root whose name is no text. -/
def unprintableTree : FileTree CandidateNode where
  root := .directory methodsName (.leaf unprintableName (.regular []) .empty)
    (.directory reproductionName .empty .empty)
  distinct := by decide

def emptyTree : FileTree CandidateNode where
  root := .empty
  distinct := by decide

lemma canonical_texts : validateRelativePath (utf8 "reproduction") = .ok () ∧
    validateRelativePath (join [reproductionName, lockName]) = .ok () :=
  ⟨rfl, rfl⟩

lemma quarantine_names : pathFromPosix (utf8 "reproduction") = [reproductionName] := by decide

lemma lockTree_regular {names : List FileName} {bytes : Bytes} :
    RegularAt lockTree names bytes ↔ names = [reproductionName, lockName] ∧ bytes = [] := by
  simp [RegularAt, FileTree.nodes, lockTree, Directory.nodes]

lemma unprintableTree_regular {names : List FileName} {bytes : Bytes} :
    RegularAt unprintableTree names bytes ↔ names = [methodsName, unprintableName] ∧ bytes = [] := by
  simp [RegularAt, FileTree.nodes, unprintableTree, Directory.nodes]

lemma lock_listed : Listed zeroHash lockTree [reproductionName] lockManifest := by
  have hjoin : join [reproductionName, lockName] = utf8 "reproduction/lock.json" := by decide
  refine ⟨List.pairwise_singleton _ _, fun path digest => ?_⟩
  simp only [lockTree_regular, lockManifest, List.mem_singleton, exists_eq_left]
  constructor
  · rintro ⟨rfl, rfl⟩
    exact ⟨_, _, ⟨rfl, rfl⟩, by decide, hjoin.symm, rfl⟩
  · rintro ⟨_, _, ⟨rfl, rfl⟩, -, rfl, rfl⟩
    exact ⟨hjoin.symm, rfl⟩

lemma lock_accepted : Accepted zeroHash (fun _ => true) lockTree [reproductionName] lockManifest := by
  have hinside : ∀ b ∈ lockTree.nodes, [reproductionName] <+: b.1 := by decide
  refine ⟨by decide, lock_listed, fun _ _ _ _ _ _ _ => rfl, ?_, fun b hb _ hq => absurd (hinside b hb) hq,
    fun names bytes hregular _ hq => absurd (hinside _ hregular) hq, ⟨fun root _ b hb _ hq => absurd (hinside b hb) hq,
    fun file _ hlink => hinside _ hlink⟩, fun names bytes hregular hq => absurd (hinside _ hregular) hq⟩
  intro b hb _ hne
  have hcases : b = ([reproductionName], .directory) ∨
      b = ([reproductionName, lockName], .leaf (.regular [])) := by
    simpa [FileTree.nodes, lockTree, Directory.nodes] using hb
  obtain rfl | rfl := hcases
  · exact absurd rfl hne
  · refine ⟨canonical_texts.2, ?_⟩
    rintro _ ⟨⟩
    exact ⟨[], rfl⟩

/-- A listed lock is accepted below a quarantine root that holds it; a name that is no text and a quarantine root that
is not there are refused, although the rule is kept. -/
theorem quarantined_lock_accepted :
    (validateCandidateQuarantine zeroHash (fun _ => true) lockTree (utf8 "reproduction") lockManifest = .ok () ∧
      RegularAt lockTree [reproductionName, lockName] [] ∧ Reserved [reproductionName, lockName]) ∧
    ((∀ names node, (names, Node.leaf node) ∈ unprintableTree.nodes → ∃ bytes, node = .regular bytes) ∧
      Quarantined zeroHash unprintableTree [reproductionName] ⟨[]⟩ ∧
      validateCandidateQuarantine zeroHash (fun _ => true) unprintableTree (utf8 "reproduction") ⟨[]⟩ ≠ .ok ()) ∧
    Quarantined zeroHash emptyTree [reproductionName] ⟨[]⟩ ∧
      validateCandidateQuarantine zeroHash (fun _ => true) emptyTree (utf8 "reproduction") ⟨[]⟩ ≠ .ok () := by
  refine ⟨⟨?_, lockTree_regular.mpr ⟨rfl, rfl⟩, .inl (by decide)⟩, ⟨?_, ?_, ?_⟩, ?_, ?_⟩
  · rw [validateCandidateQuarantine_ok, quarantine_names]
    exact ⟨canonical_texts.1, lock_accepted⟩
  · intro names node hnode
    have hcases : names = [methodsName, unprintableName] ∧ node = .regular [] := by
      simpa [FileTree.nodes, unprintableTree, Directory.nodes] using hnode
    exact ⟨[], hcases.2⟩
  · have hout : ∀ names bytes, RegularAt unprintableTree names bytes → ¬[reproductionName] <+: names := by
      rintro names bytes hregular
      rw [(unprintableTree_regular.mp hregular).1]
      decide
    refine ⟨⟨List.Pairwise.nil, fun path digest => ?_⟩, fun names bytes hregular hprefix _ => ?_,
      fun _ _ _ _ _ candidate content hcontent hcandidate => absurd hcandidate (hout candidate content hcontent)⟩
    · constructor
      · rintro ⟨artifact, hartifact, -⟩
        exact absurd hartifact List.not_mem_nil
      · rintro ⟨names, bytes, hregular, hprefix, -⟩
        exact absurd hprefix (hout names bytes hregular)
    · exact absurd hprefix (hout names bytes hregular)
  · intro h
    have haccepted := (validateCandidateQuarantine_ok.mp h).2
    rw [quarantine_names] at haccepted
    have hwalked := haccepted.finalWalked.roots (utf8 "methods") (by decide)
      ([methodsName, unprintableName], .leaf (.regular [])) (by decide) (by decide) (by decide)
    rcases hwalked with hplain | hlink
    · exact absurd (hplain.leaf _ rfl).2 (by decide)
    · cases hlink
  · have hnone : ∀ names bytes, ¬RegularAt emptyTree names bytes := fun _ _ h => absurd h List.not_mem_nil
    refine ⟨⟨List.Pairwise.nil, fun path digest => ?_⟩, fun names bytes hregular => absurd hregular (hnone _ _),
      fun names bytes hregular => absurd hregular (hnone _ _)⟩
    constructor
    · rintro ⟨artifact, hartifact, -⟩
      exact absurd hartifact List.not_mem_nil
    · rintro ⟨names, bytes, hregular, -⟩
      exact absurd hregular (hnone _ _)
  · intro h
    exact absurd (validateCandidateQuarantine_ok.mp h).2.directory List.not_mem_nil

end Exceptions

end Eip0045.Quarantine
