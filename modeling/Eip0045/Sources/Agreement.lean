import Eip0045.Sources.Listings

/-! The inventories of a source tree and the parser that reads them agree. -/

namespace Eip0045.SourceManifest

open Bytes FileTree

section Order

variable {allowGitAdmin : Bool}

lemma line_lt {a b : MaterializedFileEntry}
    (hb : EntryOk allowGitAdmin b) (h : a.path < b.path)
    (hblank : ∀ rest, b.path = a.path ++ 32 :: rest → utf8 "executable=" < rest) : a.line < b.line := by
  have hfield : utf8 " executable=" = 32 :: utf8 "executable=" := by decide
  rw [MaterializedFileEntry.line, MaterializedFileEntry.line, manifestLine, manifestLine,
    Lexicographic.append_lt_append_left]
  obtain ⟨c, rest, hpath⟩ | hinside := Lexicographic.lt_cases h
  · rw [hpath, List.append_assoc, Lexicographic.append_lt_append_left, hfield, List.cons_append,
      List.cons_append, List.cons_lt_cons_iff]
    have hvisible := (validateManifestPath_ok.mp hb.path).1.2.2.2.2.2.2 c (by rw [hpath]; simp)
    by_cases hc : c = 32
    · subst hc
      refine .inr ⟨rfl, Lexicographic.append_lt_append (hblank rest hpath) ?_ _ _⟩
      intro hstart
      apply hb.clear
      rw [hpath, hfield]
      exact ((List.cons_prefix_cons.mpr ⟨rfl, hstart⟩).isInfix).trans (List.suffix_append _ _).isInfix
    · exact .inl (Std.lt_of_le_of_ne hvisible.1 (Ne.symm hc))
  · exact Lexicographic.append_lt_append h hinside _ _

/-- No path goes on from another with a blank and a text that comes before the field's name. -/
def BlanksInOrder (paths : List Bytes) : Prop :=
  ∀ path ∈ paths, ∀ rest, path ++ 32 :: rest ∈ paths → utf8 "executable=" < rest

variable {sha256 : Bytes → Digest}

lemma sourceEntry_ok {path : Bytes} (source : SourceFile) (hpath : isNormalizedRepoPath path)
    (hlen : path.length ≤ 1024) (hclear : ¬utf8 " executable=" <:+: path) :
    EntryOk allowGitAdmin (sourceEntry sha256 path source) where
  path := validateManifestPath_normalized hpath hlen
  clear := hclear
  digest := ⟨by rw [sourceEntry, Hex.encode_length, ByteArr.val_length], Hex.encode_isLower _⟩
  length := source.length_lt

lemma sortLines_records {entries : List MaterializedFileEntry}
    (h : ∀ e ∈ entries, EntryOk allowGitAdmin e)
    (hdistinct : (entries.map MaterializedFileEntry.path).Nodup)
    (hblanks : BlanksInOrder (entries.map MaterializedFileEntry.path)) :
    sortLines (printRecords entries) =
      printRecords (entries.mergeSort fun a b => a.path ≤ b.path) := by
  have hplain : ∀ line ∈ entries.map MaterializedFileEntry.line, lineFeed ∉ line := by
    intro line hline hmem
    obtain ⟨e, he, rfl⟩ := List.mem_map.mp hline
    exact ((h e he).lineOk.2 lineFeed hmem).2.2 rfl
  have hsorted : ((entries.mergeSort fun a b => a.path ≤ b.path).map
      MaterializedFileEntry.line).Pairwise fun a b => a < b := by
    rw [List.pairwise_map]
    refine (Lexicographic.pairwise_sort MaterializedFileEntry.path hdistinct).imp_of_mem ?_
    intro a b ha hb hab
    have ha := List.mem_mergeSort.mp ha
    have hb := List.mem_mergeSort.mp hb
    refine line_lt (h b hb) hab fun rest hrest => ?_
    exact hblanks a.path (List.mem_map_of_mem ha) rest (hrest ▸ List.mem_map_of_mem hb)
  have hperm : (entries.map MaterializedFileEntry.line).Perm
      ((entries.mergeSort fun a b => a.path ≤ b.path).map MaterializedFileEntry.line) :=
    ((List.mergeSort_perm _ _).map _).symm
  have hlines : ((entries.map MaterializedFileEntry.line).map id).Nodup := by
    rw [List.map_id, hperm.nodup_iff]
    refine List.Pairwise.imp ?_ hsorted
    intro a b hlt heq
    rw [heq] at hlt
    exact Std.lt_irrefl hlt
  rw [printRecords, sortLines_unlines hplain, printRecords]
  congr 1
  exact Lexicographic.eq_of_increasing ((List.mergeSort_perm _ _).trans hperm)
    (Lexicographic.pairwise_sort id hlines) hsorted

end Order

section Trees

variable {sha256 : Bytes → Digest}

/-- The files of a tree with their paths, without the root's Cargo marker. -/
def sourceFiles (tree : FileTree SourceNode) : List (Bytes × SourceFile) :=
  tree.nodes.filterMap fun b =>
    match b.2 with
    | .leaf (.file source) => if join b.1 = cargoOk then none else some (join b.1, source)
    | _ => none

/-- Paths that obey the rules: normalized, of at most 1,024 bytes, and distinct under folding. -/
structure PathsOk (paths : List Bytes) : Prop where
  normalized : ∀ path ∈ paths, isNormalizedRepoPath path
  length : ∀ path ∈ paths, path.length ≤ 1024
  folded : (paths.map toAsciiLowercase).Nodup

/-- Directories and single-link files, at least one, all of whose paths obey the rules. -/
structure Admissible (tree : FileTree SourceNode) : Prop where
  normalized : ∀ b ∈ tree.nodes, isNormalizedRepoPath (join b.1)
  leaf : ∀ b ∈ tree.nodes, ∀ node, b.2 = .leaf node → ∃ source, node = .file source ∧ source.links = 1
  paths : PathsOk ((sourceFiles tree).map Prod.fst)
  nonempty : sourceFiles tree ≠ []

def NoMarkerDirectory (tree : FileTree SourceNode) : Prop :=
  ∀ b ∈ tree.nodes, b.2 = .directory → join b.1 ≠ cargoOk

lemma listed_sourceFiles (tree : FileTree SourceNode) :
    tree.nodes.flatMap (listed sha256) =
      (sourceFiles tree).map fun file => sourceEntry sha256 file.1 file.2 := by
  rw [sourceFiles]
  induction tree.nodes with
  | nil => rfl
  | cons b nodes ih =>
    obtain ⟨names, node⟩ := b
    rw [List.flatMap_cons, ih, listed]
    cases node with
    | directory => rfl
    | leaf node =>
      cases node with
      | special => rfl
      | file source => by_cases hroot : join names = cargoOk <;> simp [hroot]

lemma Admissible.nodeOk {tree : FileTree SourceNode} (h : Admissible tree)
    (hmarker : NoMarkerDirectory tree) : ∀ b ∈ tree.nodes, NodeOk b :=
  fun b hb => ⟨h.normalized b hb, h.leaf b hb, hmarker b hb⟩

lemma parse_sorted {allowGitAdmin : Bool} {label : String} {files : List (Bytes × SourceFile)}
    {entries : List MaterializedFileEntry} (h : PathsOk (files.map Prod.fst)) (hne : files ≠ [])
    (hperm : entries.Perm (files.map fun file => sourceEntry sha256 file.1 file.2))
    (hsorted : entries.Pairwise fun a b => a.path < b.path)
    (hclear : ∀ path ∈ files.map Prod.fst, ¬utf8 " executable=" <:+: path) :
    parseFileIdentityManifest allowGitAdmin label (printRecords entries) = .ok entries := by
  have hpaths : (entries.map MaterializedFileEntry.path).Perm (files.map Prod.fst) := by
    refine (hperm.map _).trans ?_
    rw [List.map_map]
    exact .refl _
  rw [parseFileIdentityManifest_ok]
  refine ⟨rfl, ?_, ?_, hsorted, ?_⟩
  · rintro rfl
    exact hne (List.map_eq_nil_iff.mp hperm.symm.eq_nil)
  · intro e he
    obtain ⟨file, hfile, rfl⟩ := List.mem_map.mp (hperm.mem_iff.mp he)
    have hpath := List.mem_map_of_mem (f := Prod.fst) hfile
    exact sourceEntry_ok file.2 (h.normalized _ hpath) (h.length _ hpath) (hclear _ hpath)
  · have hfolded := (hpaths.map toAsciiLowercase).nodup_iff.mpr h.folded
    rwa [List.map_map] at hfolded

lemma workspace_parsed {required below files : List (Bytes × SourceFile)}
    (hfiles : files = required ++ below.filter fun b => foundInWorkspace b.1)
    (h : PathsOk (files.map Prod.fst)) (hne : files ≠ [])
    (hclear : ∀ path ∈ files.map Prod.fst, ¬utf8 " executable=" <:+: path)
    (hblanks : BlanksInOrder (files.map Prod.fst)) : ∃ entries,
      entries.Perm (files.map fun file => sourceEntry sha256 file.1 file.2) ∧
      (entries.Pairwise fun a b => a.path < b.path) ∧
      ∀ allowGitAdmin label, parseFileIdentityManifest allowGitAdmin label
        (writeWorkspaceManifest sha256 required below) = .ok entries := by
  set found := below.filter fun b => foundInWorkspace b.1 with hfound
  set listing := required ++ found.mergeSort fun left right => left.1 ≤ right.1 with hlisting
  have hperm : listing.Perm files := by
    rw [hlisting, hfiles]
    exact (List.mergeSort_perm _ _).append_left _
  set entries := listing.map fun file => sourceEntry sha256 file.1 file.2 with hentries
  have hpaths : entries.map MaterializedFileEntry.path = listing.map Prod.fst := by
    rw [hentries, List.map_map]
    rfl
  have hmem : ∀ path ∈ entries.map MaterializedFileEntry.path, path ∈ files.map Prod.fst := by
    intro path hpath
    rw [hpaths] at hpath
    exact (hperm.map Prod.fst).mem_iff.mp hpath
  have hdistinct : (entries.map MaterializedFileEntry.path).Nodup := by
    rw [hpaths, (hperm.map Prod.fst).nodup_iff]
    exact h.folded.of_map _
  have hok : ∀ e ∈ entries, EntryOk true e := by
    intro e he
    have hpath := hmem e.path (List.mem_map_of_mem he)
    obtain ⟨file, -, rfl⟩ := List.mem_map.mp he
    exact sourceEntry_ok file.2 (h.normalized _ hpath) (h.length _ hpath) (hclear _ hpath)
  have hsort := sortLines_records hok hdistinct fun path hpath rest hrest =>
    hblanks path (hmem path hpath) rest (hmem _ hrest)
  have htext : writeWorkspaceManifest sha256 required below =
      printRecords (entries.mergeSort fun a b => a.path ≤ b.path) := by
    rw [← hsort, writeWorkspaceManifest, printRecords, unlines, hentries, List.map_map,
      List.flatMap_map]
    simp only [writeFileManifestRecord_eq]
    rfl
  have hsorted := Lexicographic.pairwise_sort MaterializedFileEntry.path hdistinct
  have hrecords : (entries.mergeSort fun a b => a.path ≤ b.path).Perm
      (files.map fun file => sourceEntry sha256 file.1 file.2) :=
    (List.mergeSort_perm _ _).trans (hperm.map _)
  refine ⟨_, hrecords, hsorted, fun allowGitAdmin label => ?_⟩
  rw [htext]
  exact parse_sorted h hne hrecords hsorted hclear

/-- The walk over a tree lists each file once, the build's listing of the tree holds the same
records, and these are read back; the workspace's listing is read back too; and what is accepted
are records. -/
theorem source_inventories_agree (sha256 : Bytes → Digest) :
    (∀ tree, Admissible tree → NoMarkerDirectory tree → ∃ entries,
      captureMaterializedEntries sha256 tree = .ok entries ∧
      entries.Perm ((sourceFiles tree).map fun file => sourceEntry sha256 file.1 file.2) ∧
      (entries.Pairwise fun a b => a.path < b.path) ∧
      ((∀ b ∈ tree.nodes, MarkerAtRoot b) →
        writeMaterializedSourceManifest sha256 tree = some (printRecords entries)) ∧
      ((∀ e ∈ entries, ¬utf8 " executable=" <:+: e.path) → ∀ allowGitAdmin label,
        parseFileIdentityManifest allowGitAdmin label (printRecords entries) = .ok entries)) ∧
    (∀ required below files, files = required ++ below.filter (fun b => foundInWorkspace b.1) →
      PathsOk (files.map Prod.fst) → files ≠ [] →
      (∀ path ∈ files.map Prod.fst, ¬utf8 " executable=" <:+: path) →
      BlanksInOrder (files.map Prod.fst) → ∃ entries,
      entries.Perm (files.map fun file => sourceEntry sha256 file.1 file.2) ∧
      (entries.Pairwise fun a b => a.path < b.path) ∧
      ∀ allowGitAdmin label, parseFileIdentityManifest allowGitAdmin label
        (writeWorkspaceManifest sha256 required below) = .ok entries) ∧
    ∀ allowGitAdmin label bytes entries,
      parseFileIdentityManifest allowGitAdmin label bytes = .ok entries →
      printRecords entries = bytes := by
  refine ⟨?_, ?_, ?_⟩
  · intro tree htree hmarker
    have hnodes := htree.nodeOk hmarker
    have hperm : (sourceEntries sha256 tree).Perm
        ((sourceFiles tree).map fun file => sourceEntry sha256 file.1 file.2) :=
      listed_sourceFiles tree ▸ sourceEntries_perm tree
    refine ⟨sourceEntries sha256 tree, captureMaterializedEntries_ok hnodes, hperm,
      sourceEntries_increasing tree, writeMaterializedSourceManifest_eq hnodes, ?_⟩
    intro hclear allowGitAdmin label
    refine parse_sorted htree.paths htree.nonempty hperm (sourceEntries_increasing tree) ?_
    intro path hpath
    obtain ⟨file, hfile, rfl⟩ := List.mem_map.mp hpath
    exact hclear _ (hperm.mem_iff.mpr (List.mem_map_of_mem hfile))
  · intro required below files hfiles hpaths hne hclear hblanks
    exact workspace_parsed hfiles hpaths hne hclear hblanks
  · intro allowGitAdmin label bytes entries h
    exact (parseFileIdentityManifest_ok.mp h).1.symm

end Trees

section Disagreements

lemma empty_length_lt : ([] : Bytes).length < 2 ^ 64 := by decide

def emptyFile : SourceFile := ⟨0o644, 1, [], empty_length_lt⟩

def nameA : FileName := ⟨utf8 "a", by decide, by decide, by decide⟩

def nameMarker : FileName := ⟨cargoOk, by decide, by decide, by decide⟩

def nameField : FileName :=
  ⟨utf8 "a executable=b", by decide, by decide, by decide⟩

/-- A directory at the root that goes by the marker's name. -/
def markerDirectory : FileTree SourceNode where
  root := .directory nameMarker (.leaf nameA (.file emptyFile) .empty) .empty
  distinct := by decide

def nestedMarker : FileTree SourceNode where
  root := .directory nameA (.leaf nameMarker (.file emptyFile) .empty) .empty
  distinct := by decide

def fieldInPath : FileTree SourceNode where
  root := .leaf nameField (.file emptyFile) .empty
  distinct := by decide

def zeroHash (_ : Bytes) : Digest := ByteArr.zero 32

lemma sortLines_pair {a b : Bytes} (ha : lineFeed ∉ a) (hb : lineFeed ∉ b) (h : b < a) :
    sortLines (unlines [a, b]) = unlines [b, a] := by
  have hdistinct : ([a, b].map id).Nodup := by
    have hne : a ≠ b := fun heq => Std.lt_irrefl (heq ▸ h)
    simpa using hne
  rw [sortLines_unlines (by simp [ha, hb])]
  congr 1
  refine Lexicographic.eq_of_increasing ?_ (Lexicographic.pairwise_sort id hdistinct) ?_
  · exact (List.mergeSort_perm _ _).trans (List.Perm.swap b a [])
  · simpa using h

lemma leaf_emptyFile {tree : FileTree SourceNode}
    (h : ∀ b ∈ tree.nodes, b.2 = .directory ∨ b.2 = .leaf (.file emptyFile)) :
    ∀ b ∈ tree.nodes, ∀ node, b.2 = .leaf node → ∃ source, node = .file source ∧ source.links = 1 := by
  intro b hb node hnode
  cases h b hb with
  | inl hdirectory => exact absurd (hdirectory.symm.trans hnode) (by simp)
  | inr hfile =>
    rw [hnode, Node.leaf.injEq] at hfile
    exact ⟨emptyFile, hfile, rfl⟩

lemma trees_checked : ∀ tree ∈ [markerDirectory, nestedMarker, fieldInPath],
    (∀ b ∈ tree.nodes, isNormalizedRepoPath (join b.1) = true) ∧
    (∀ b ∈ tree.nodes, b.2 = .directory ∨ b.2 = .leaf (.file emptyFile)) ∧
    ((∀ path ∈ (sourceFiles tree).map Prod.fst, isNormalizedRepoPath path = true) ∧
      (∀ path ∈ (sourceFiles tree).map Prod.fst, path.length ≤ 1024) ∧
      (((sourceFiles tree).map Prod.fst).map toAsciiLowercase).Nodup) ∧ sourceFiles tree ≠ [] := by
  decide

lemma trees_admissible : ∀ tree ∈ [markerDirectory, nestedMarker, fieldInPath], Admissible tree := by
  intro tree htree
  obtain ⟨hnormalized, hleaf, ⟨hpaths, hlength, hfolded⟩, hnonempty⟩ := trees_checked tree htree
  exact ⟨hnormalized, leaf_emptyFile hleaf, ⟨hpaths, hlength, hfolded⟩, hnonempty⟩

lemma workspace_pair :
    writeWorkspaceManifest zeroHash [(utf8 "a", emptyFile)] [(utf8 "a b", emptyFile)] =
      printRecords [sourceEntry zeroHash (utf8 "a b") emptyFile,
        sourceEntry zeroHash (utf8 "a") emptyFile] := by
  have hlines : writeWorkspaceManifest zeroHash [(utf8 "a", emptyFile)] [(utf8 "a b", emptyFile)] =
      sortLines (printRecords [sourceEntry zeroHash (utf8 "a") emptyFile,
        sourceEntry zeroHash (utf8 "a b") emptyFile]) := by
    rw [writeWorkspaceManifest]
    exact congrArg sortLines (by decide +kernel)
  rw [hlines]
  exact sortLines_pair (by decide) (by decide) (by decide)

/-- A directory with the marker's name stops the walk; a marker below the root is listed by the walk
alone; a path may hold the field's name; and lines do not sort as their paths do. -/
theorem source_inventories_disagree :
    (Admissible markerDirectory ∧
      captureMaterializedEntries zeroHash markerDirectory = .error .markerNotFile) ∧
    (Admissible nestedMarker ∧
      captureMaterializedEntries zeroHash nestedMarker =
        .ok [sourceEntry zeroHash (utf8 "a/.cargo-ok") emptyFile] ∧
      writeMaterializedSourceManifest zeroHash nestedMarker = some []) ∧
    (Admissible fieldInPath ∧
      captureMaterializedEntries zeroHash fieldInPath =
        .ok [sourceEntry zeroHash (utf8 "a executable=b") emptyFile] ∧
      (writeMaterializedSourceManifest zeroHash fieldInPath).map
          (parseFileIdentityManifest false "manifest") =
        some (.error "manifest line 0 has a noncanonical executable flag")) ∧
    PathsOk [utf8 "a", utf8 "a b"] ∧
      parseFileIdentityManifest false "manifest"
          (writeWorkspaceManifest zeroHash [(utf8 "a", emptyFile)] [(utf8 "a b", emptyFile)]) =
        .error "manifest paths are not strictly sorted" := by
  refine ⟨⟨trees_admissible markerDirectory (by simp), by decide +kernel⟩,
    ⟨trees_admissible nestedMarker (by simp), by decide +kernel, by decide +kernel⟩,
    ⟨trees_admissible fieldInPath (by simp), by decide +kernel, by decide +kernel⟩,
    ⟨by decide, by decide, by decide⟩, ?_⟩
  rw [workspace_pair]
  decide +kernel

end Disagreements

end Eip0045.SourceManifest
