import Eip0045.Sources.Capture

/-! The listings that the build's shell writes of the same files. -/

namespace Eip0045.SourceManifest

open Bytes CanonicalJson FileTree FirstSplit

section Text

/-- The lines of a text that ends in a line feed. -/
def lines (text : Bytes) : List Bytes := (text.splitOn lineFeed).dropLast

/-- `LC_ALL=C sort`. -/
def sortLines (text : Bytes) : Bytes :=
  unlines ((lines text).mergeSort fun left right => left ≤ right)

lemma lines_unlines {texts : List Bytes} (h : ∀ text ∈ texts, lineFeed ∉ text) :
    lines (unlines texts) = texts := by
  by_cases hne : texts = []
  · subst hne
    rfl
  · rw [lines, unlines_eq hne, List.splitOn_append_cons_self,
      List.splitOn_intercalate lineFeed h hne]
    exact List.dropLast_concat

lemma sortLines_unlines {texts : List Bytes} (h : ∀ text ∈ texts, lineFeed ∉ text) :
    sortLines (unlines texts) = unlines (texts.mergeSort fun left right => left ≤ right) := by
  rw [sortLines, lines_unlines h]

end Text

section Records

variable (sha256 : Bytes → Digest)

def writeFileManifestRecord (source : SourceFile) (recordName : Bytes) : Bytes :=
  let recordExecutable := if source.permissions &&& 0o111 ≠ 0 then utf8 "true" else utf8 "false"
  manifestLine recordName recordExecutable (Hex.encode (sha256 source.content).val)
    (decimal source.content.length) ++ [lineFeed]

/-- `${path#./}`. -/
def recordName (path : Bytes) : Bytes := (stripInitial (utf8 "./") path).getD path

/-- What `find` prints of a node, with the file that lies there. -/
def found (b : List FileName × Node SourceNode) : Option (Bytes × SourceFile) :=
  match b.2 with
  | .leaf (.file source) =>
    let path := utf8 "./" ++ join b.1
    if utf8 "./.git/" <+: path ∨ b.1.getLast?.map FileName.bytes = some cargoOk then none
    else some (path, source)
  | _ => none

/-- The loop that reads paths and writes a record of each; it stops at a path that is no file. -/
def writeRecords (files : List (Bytes × SourceFile)) (paths : Bytes) : Option Bytes := do
  let records ← (lines paths).mapM fun path =>
    (files.lookup path).map fun source => writeFileManifestRecord sha256 source (recordName path)
  pure records.flatten

def writeMaterializedSourceManifest (tree : FileTree SourceNode) : Option Bytes :=
  let files := tree.nodes.filterMap found
  writeRecords sha256 files (sortLines (unlines (files.map Prod.fst)))

/-- Whether `find` prints a file below the workspace's source directories. -/
def foundInWorkspace (name : Bytes) : Bool :=
  let path := utf8 "/workspace/" ++ name
  ¬utf8 "/target/" <:+: path ∧ ¬utf8 "/.git/" <:+: path

/-- The required files, then the found ones in the order of their paths; the finished lines are
sorted. -/
def writeWorkspaceManifest (required below : List (Bytes × SourceFile)) : Bytes :=
  let found := below.filter fun b => foundInWorkspace b.1
  let listed := required ++ found.mergeSort fun left right => left.1 ≤ right.1
  sortLines (listed.flatMap fun b => writeFileManifestRecord sha256 b.2 b.1)

end Records

section Listed

variable {sha256 : Bytes → Digest}

lemma writeFileManifestRecord_eq (source : SourceFile) (name : Bytes) :
    writeFileManifestRecord sha256 source name = (sourceEntry sha256 name source).line ++ [lineFeed] := by
  rw [writeFileManifestRecord, MaterializedFileEntry.line, sourceEntry, flag, SourceFile.executable]
  by_cases h : source.permissions &&& 0o111 = 0 <;> simp [h]

lemma recordName_dot (name : Bytes) : recordName (utf8 "./" ++ name) = name := by
  rw [recordName, stripInitial_eq_some.mpr rfl, Option.getD_some]

def foundEntry (sha256 : Bytes → Digest) (file : Bytes × SourceFile) : MaterializedFileEntry :=
  sourceEntry sha256 (recordName file.1) file.2

/-- Only the root's Cargo marker goes by that name. -/
def MarkerAtRoot (b : List FileName × Node SourceNode) : Prop :=
  b.1.getLast?.map FileName.bytes = some cargoOk → join b.1 = cargoOk

lemma lastName_marker {names : List FileName} (h : join names = cargoOk) :
    names.getLast?.map FileName.bytes = some cargoOk := by
  have hne : names ≠ [] := by
    rintro rfl
    exact absurd h (by decide)
  have halone : cargoOk.splitOn slash = [cargoOk] := by decide
  rw [← List.getLast?_map, ← splitOn_join hne, h]
  exact congrArg List.getLast? halone

lemma listed_eq {b : List FileName × Node SourceNode} (h : NodeOk b) (hmarker : MarkerAtRoot b) :
    listed sha256 b = (found b).toList.map (foundEntry sha256) := by
  obtain ⟨names, node⟩ := b
  cases node with
  | directory => rfl
  | leaf node =>
    obtain ⟨source, rfl, -⟩ := h.leaf node rfl
    have hgit : ¬utf8 "./.git/" <+: utf8 "./" ++ join names := by
      have hsplit : utf8 "./.git/" = utf8 "./" ++ utf8 ".git/" := by decide
      rw [hsplit, List.prefix_append_right_inj]
      exact fun hinside => not_git h.normalized (.inr hinside)
    rw [listed, found]
    by_cases hroot : join names = cargoOk
    · simp only [hroot, lastName_marker hroot, if_true, or_true, Option.toList_none, List.map_nil]
    · have hname : names.getLast?.map FileName.bytes ≠ some cargoOk :=
        fun hlast => hroot (hmarker hlast)
      simp only [hroot, hgit, hname, if_false, or_self, Option.toList_some, List.map_cons,
        List.map_nil, foundEntry, recordName_dot]

lemma listed_found {nodes : List (List FileName × Node SourceNode)} (h : ∀ b ∈ nodes, NodeOk b)
    (hmarker : ∀ b ∈ nodes, MarkerAtRoot b) :
    nodes.flatMap (listed sha256) = (nodes.filterMap found).map (foundEntry sha256) := by
  induction nodes with
  | nil => rfl
  | cons b nodes ih =>
    have hrest := ih (fun c hc => h c (List.mem_cons_of_mem b hc))
      fun c hc => hmarker c (List.mem_cons_of_mem b hc)
    rw [List.flatMap_cons, hrest, listed_eq (h b List.mem_cons_self) (hmarker b List.mem_cons_self)]
    cases hfound : found b <;> simp [hfound]

lemma found_path {b : List FileName × Node SourceNode} {file : Bytes × SourceFile}
    (h : found b = some file) : file.1 = utf8 "./" ++ join b.1 := by
  rw [found] at h
  split at h
  · dsimp only at h
    split_ifs at h
    cases h
    rfl
  · cases h

lemma visible_of_normalized {path : Bytes} (h : isNormalizedRepoPath path) :
    ∀ c ∈ path, 0x20 ≤ c ∧ c ≤ 0x7e := by
  simp only [isNormalizedRepoPath, decide_eq_true_eq, List.all_eq_true] at h
  exact h.2.2.2.2.2.1

lemma mapM_total {α β : Type} {f : α → Option β} {g : α → β} {xs : List α}
    (h : ∀ x ∈ xs, f x = some (g x)) : xs.mapM f = some (xs.map g) := by
  induction xs with
  | nil => rfl
  | cons x xs ih =>
    rw [List.mapM_cons, h x List.mem_cons_self, ih fun y hy => h y (List.mem_cons_of_mem x hy)]
    rfl

/-- The build's listing holds a record of each captured entry, in the same order. -/
theorem writeMaterializedSourceManifest_eq {tree : FileTree SourceNode}
    (h : ∀ b ∈ tree.nodes, NodeOk b) (hmarker : ∀ b ∈ tree.nodes, MarkerAtRoot b) :
    writeMaterializedSourceManifest sha256 tree = some (printRecords (sourceEntries sha256 tree)) := by
  have hdot : ∀ file ∈ tree.nodes.filterMap found, file.1 = utf8 "./" ++ recordName file.1 := by
    intro file hfile
    obtain ⟨b, -, hb⟩ := List.mem_filterMap.mp hfile
    rw [found_path hb, recordName_dot]
  have hplain : ∀ path ∈ (tree.nodes.filterMap found).map Prod.fst, lineFeed ∉ path := by
    intro path hpath hmem
    obtain ⟨file, hfile, rfl⟩ := List.mem_map.mp hpath
    obtain ⟨b, hb, hfound⟩ := List.mem_filterMap.mp hfile
    rw [found_path hfound, List.mem_append] at hmem
    rcases hmem with hmem | hmem
    · exact absurd hmem (by decide)
    · exact absurd (visible_of_normalized (h b hb).normalized _ hmem).1 (by decide)
  have hlisted : tree.nodes.flatMap (listed sha256) =
      (tree.nodes.filterMap found).map (foundEntry sha256) := listed_found h hmarker
  have hdistinct : ((tree.nodes.filterMap found).map Prod.fst).Nodup := by
    have hpaths : (tree.nodes.filterMap found).map Prod.fst =
        ((tree.nodes.flatMap (listed sha256)).map MaterializedFileEntry.path).map (utf8 "./" ++ ·) := by
      rw [hlisted, List.map_map, List.map_map]
      exact List.map_congr_left hdot
    rw [hpaths]
    exact (listed_distinct tree).map (List.append_right_injective _)
  have hentries : sourceEntries sha256 tree =
      ((tree.nodes.filterMap found).mergeSort fun a b => a.1 ≤ b.1).map (foundEntry sha256) := by
    rw [sourceEntries, hlisted]
    refine (List.map_mergeSort fun a ha b hb => ?_).symm
    rw [hdot a ha, hdot b hb, decide_eq_decide]
    exact not_congr (Lexicographic.append_lt_append_left (utf8 "./"))
  have hsorted : ((tree.nodes.filterMap found).map Prod.fst).mergeSort (fun a b => a ≤ b) =
      ((tree.nodes.filterMap found).mergeSort fun a b => a.1 ≤ b.1).map Prod.fst := by
    symm
    apply List.map_mergeSort
    intro a _ b _
    rfl
  have hrecords : (((tree.nodes.filterMap found).mergeSort fun a b => a.1 ≤ b.1).map Prod.fst).mapM
      (fun path => ((tree.nodes.filterMap found).lookup path).map fun source =>
        writeFileManifestRecord sha256 source (recordName path)) =
      some ((sourceEntries sha256 tree).map fun e => e.line ++ [lineFeed]) := by
    rw [hentries, List.map_map, List.mapM_map]
    apply mapM_total
    intro file hfile
    have hlookup := Keyed.lookup_of_mem hdistinct (k := file.1) (v := file.2)
      (List.mem_mergeSort.mp hfile)
    simp only [Function.comp_apply, hlookup, Option.map_some, writeFileManifestRecord_eq]
    rfl
  rw [writeMaterializedSourceManifest, writeRecords]
  rw [sortLines_unlines hplain, lines_unlines fun path hpath => hplain path (List.mem_mergeSort.mp hpath),
    hsorted, hrecords]
  rw [printRecords, unlines, List.flatMap_map, List.flatMap_def]
  rfl

end Listed

end Eip0045.SourceManifest
