import Eip0045.Corpus.TreeWalk
import Eip0045.Library.Lexicographic
import Eip0045.Sources.Manifest

/-! The walk that captures the materialized sources of a tree. -/

namespace Eip0045.SourceManifest

open Bytes Checked FileTree

/-- A regular file that does not change; its length is a word of 64 bits. -/
structure SourceFile where
  permissions : ℕ
  links : ℕ
  content : Bytes
  length_lt : content.length < 2 ^ 64

instance : DecidableEq SourceFile := fun a b =>
  decidable_of_iff (a.permissions = b.permissions ∧ a.links = b.links ∧ a.content = b.content) (by
    cases a
    cases b
    simp)

inductive SourceNode
  | file (source : SourceFile)
  | special
  deriving DecidableEq

def SourceFile.executable (source : SourceFile) : Bool := source.permissions &&& 0o111 ≠ 0

inductive CaptureError
  | notUtf8
  | notCanonical (value : Bytes)
  | markerNotFile
  | gitAdministration
  | unsupportedNode (path : Bytes)
  | notSingleLink (path : Bytes)
  | lengthOverflow
  | changedWhileHashing (path : Bytes)
  deriving DecidableEq

abbrev Capture (α : Type) := Except CaptureError α

def cargoOk : Bytes := utf8 ".cargo-ok"

section Paths

/-- What the walk asks of a path after backslashes have become slashes. -/
def canonicalValue (value : Bytes) : Bool :=
  ¬(value = [] ∨ value.head? = some slash ∨ value.getLast? = some slash ∨ 58 ∈ value ∨
    ¬(value.all fun byte => 0x20 ≤ byte ∧ byte ≤ 0x7e) ∨
    (value.splitOn slash).any fun component => component = [] ∨ component = utf8 "." ∨
      component = utf8 ".." ∨ component.getLast? = some 46 ∨ component.getLast? = some 32)

def normalizedSourcePath (relative : Bytes) : Capture Bytes := do
  ensure (B4Tree.isUtf8 relative) .notUtf8
  let value := relative.map fun byte => if byte = 92 then slash else byte
  ensure (canonicalValue value) (.notCanonical value)
  pure value

/-- The normalized path of an entry, or none for the root's Cargo marker. -/
def admitChild (relative : Bytes) (isFile : Bool) : Capture (Option Bytes) := do
  let normalized ← normalizedSourcePath relative
  if normalized = cargoOk then do
    ensure isFile .markerNotFile
    pure none
  else do
    ensure (¬(normalized = utf8 ".git" ∨ utf8 ".git/" <+: normalized)) .gitAdministration
    pure (some normalized)

end Paths

section Files

variable (sha256 : Bytes → Digest)

def readBufferLength : ℕ := 64 * 1024

/-- The read loop: the length counted, and the bytes given to the digest. -/
def readSource (unread : Bytes) (byteLength : ℕ) (hashed : Bytes) : Capture (ℕ × Bytes) :=
  if _h : unread = [] then pure (byteLength, hashed)
  else do
    let read := unread.take readBufferLength
    let byteLength ← context .lengthOverflow (checkedAdd byteLength read.length)
    readSource (unread.drop readBufferLength) byteLength (hashed ++ read)
termination_by unread.length
decreasing_by
  rw [List.length_drop]
  have := List.length_pos_iff.mpr _h
  have : 0 < readBufferLength := by decide
  omega

def hashSourceFile (source : SourceFile) (normalized : Bytes) : Capture MaterializedFileEntry := do
  ensure (source.links = 1) (.notSingleLink normalized)
  let (byteLength, hashed) ← readSource source.content 0 []
  ensure (byteLength = source.content.length) (.changedWhileHashing normalized)
  pure ⟨normalized, byteLength, Hex.encode (sha256 hashed).val, source.executable⟩

def captureLeaf (normalized : Bytes) : SourceNode → Capture MaterializedFileEntry
  | .file source => hashSourceFile sha256 source normalized
  | .special => .error (.unsupportedNode normalized)

def SourceNode.isFile : SourceNode → Bool
  | .file _ => true
  | .special => false

end Files

section Walk

variable (sha256 : Bytes → Digest)

def captureDirectory (names : List FileName) :
    Directory SourceNode → Capture (List MaterializedFileEntry)
  | .empty => pure []
  | .leaf name node rest => do
    let admitted ← admitChild (join (names ++ [name])) node.isFile
    match admitted with
    | none => captureDirectory names rest
    | some normalized => do
      let entry ← captureLeaf sha256 normalized node
      let entries ← captureDirectory names rest
      pure (entry :: entries)
  | .directory name _ rest => do
    let _ ← admitChild (join (names ++ [name])) false
    captureDirectory names rest

/-- The directories that the loop pushes, in its order. -/
def subdirectories (names : List FileName) :
    Directory SourceNode → List (List FileName × Directory SourceNode)
  | .empty => []
  | .leaf _ _ rest => subdirectories names rest
  | .directory name children rest => (names ++ [name], children) :: subdirectories names rest

def directorySize : Directory SourceNode → ℕ
  | .empty => 1
  | .leaf _ _ rest => directorySize rest + 1
  | .directory _ children rest => directorySize children + directorySize rest + 1

def pendingSize (pending : List (List FileName × Directory SourceNode)) : ℕ :=
  (pending.map fun item => directorySize item.2).sum

lemma subdirectories_size (names : List FileName) (directory : Directory SourceNode) :
    pendingSize (subdirectories names directory) < directorySize directory := by
  induction directory with
  | empty => exact Nat.one_pos
  | leaf name node rest ih => exact Nat.lt_succ_of_lt ih
  | directory name children rest _ ih =>
    simp only [subdirectories, pendingSize, List.map_cons, List.sum_cons, directorySize] at ih ⊢
    omega

/-- The loop over the pending directories, whose last pushed one is taken first. -/
def capturePending :
    List (List FileName × Directory SourceNode) → Capture (List MaterializedFileEntry)
  | [] => pure []
  | (names, directory) :: pending => do
    let entries ← captureDirectory sha256 names directory
    let others ← capturePending ((subdirectories names directory).reverse ++ pending)
    pure (entries ++ others)
termination_by pending => pendingSize pending
decreasing_by
  have hsize := subdirectories_size names directory
  simp only [pendingSize, List.map_append, List.map_reverse, List.sum_append, List.sum_reverse,
    List.map_cons, List.sum_cons] at hsize ⊢
  omega

def captureMaterializedEntries (tree : FileTree SourceNode) :
    Capture (List MaterializedFileEntry) := do
  let entries ← capturePending sha256 [([], tree.root)]
  pure (entries.mergeSort fun left right => left.path ≤ right.path)

end Walk

section Captured

variable {sha256 : Bytes → Digest}

def sourceEntry (sha256 : Bytes → Digest) (path : Bytes) (source : SourceFile) :
    MaterializedFileEntry :=
  ⟨path, source.content.length, Hex.encode (sha256 source.content).val, source.executable⟩

/-- The entry of a node: none for a directory or the root's Cargo marker. -/
def listed (sha256 : Bytes → Digest) (b : List FileName × Node SourceNode) :
    List MaterializedFileEntry :=
  match b.2 with
  | .leaf (.file source) =>
    if join b.1 = cargoOk then [] else [sourceEntry sha256 (join b.1) source]
  | _ => []

structure NodeOk (b : List FileName × Node SourceNode) : Prop where
  normalized : isNormalizedRepoPath (join b.1)
  leaf : ∀ node, b.2 = .leaf node → ∃ source, node = .file source ∧ source.links = 1
  directory : b.2 = .directory → join b.1 ≠ cargoOk

lemma readSource_ok {unread : Bytes} {byteLength : ℕ} {hashed : Bytes}
    (h : byteLength + unread.length < 2 ^ 64) :
    readSource unread byteLength hashed = .ok (byteLength + unread.length, hashed ++ unread) := by
  induction unread, byteLength, hashed using readSource.induct with
  | case1 byteLength hashed =>
    rw [readSource, dif_pos rfl, List.length_nil, List.append_nil]
    rfl
  | case2 unread byteLength hashed hne read ih =>
    have hsplit : (unread.take readBufferLength).length + (unread.drop readBufferLength).length =
        unread.length := by
      rw [← List.length_append, List.take_append_drop]
    have hnext : checkedAdd byteLength (unread.take readBufferLength).length =
        some (byteLength + (unread.take readBufferLength).length) :=
      checkedAdd_eq_some.mpr ⟨by omega, rfl⟩
    rw [readSource, dif_neg hne]
    dsimp only
    rw [hnext, context, ok_bind, ih _ (by omega), Nat.add_assoc, hsplit, List.append_assoc,
      List.take_append_drop]

lemma hashSourceFile_ok {source : SourceFile} (h : source.links = 1) (normalized : Bytes) :
    hashSourceFile sha256 source normalized = .ok (sourceEntry sha256 normalized source) := by
  have hread : readSource source.content 0 [] = .ok (source.content.length, source.content) := by
    rw [readSource_ok (by rw [Nat.zero_add]; exact source.length_lt), Nat.zero_add, List.nil_append]
  rw [hashSourceFile, ensure_pass h, ok_bind, hread, ok_bind]
  dsimp only
  rw [ensure_pass rfl]
  rfl

lemma normalizedSourcePath_ok {path : Bytes} (h : isNormalizedRepoPath path) :
    normalizedSourcePath path = .ok path := by
  simp only [isNormalizedRepoPath, decide_eq_true_eq, List.all_eq_true] at h
  obtain ⟨hne, hhead, hlast, hback, hcolon, hall, hcomponents⟩ := h
  have hutf8 : B4Tree.isUtf8 path := by
    apply ByteArray.validateUTF8_eq_true_iff.mpr
    apply B4Tree.isValidUTF8_ascii
    intro c hc
    exact Nat.lt_of_le_of_lt (UInt8.le_iff_toNat_le.mp (hall c hc).2) (by decide)
  have hmap : (path.map fun byte => if byte = 92 then slash else byte) = path := by
    calc (path.map fun byte => if byte = 92 then slash else byte)
        = path.map id := by
          apply List.map_congr_left
          intro c hc
          apply if_neg
          rintro rfl
          exact hback hc
      _ = path := List.map_id path
  have hcanonical : canonicalValue path := by
    rw [canonicalValue, decide_eq_true_iff]
    rintro (hnil | hstart | hend | hmem | hvisible | hcomponent)
    · exact hne hnil
    · exact hhead hstart
    · exact hlast hend
    · exact hcolon hmem
    · exact hvisible (List.all_eq_true.mpr fun c hc => decide_eq_true (hall c hc))
    · obtain ⟨component, hmem, hbad⟩ := List.any_eq_true.mp hcomponent
      obtain ⟨hnil, hdot, hdots, -, hpoint, hblank⟩ := hcomponents component hmem
      simp only [hnil, hdot, hdots, hpoint, hblank, or_self, decide_false, Bool.false_eq_true] at hbad
  rw [normalizedSourcePath, ensure_pass hutf8, ok_bind, hmap]
  dsimp only
  rw [ensure_pass hcanonical]
  rfl

lemma not_git {path : Bytes} (h : isNormalizedRepoPath path) :
    ¬(path = utf8 ".git" ∨ utf8 ".git/" <+: path) := by
  intro hgit
  have hfirst : utf8 ".git" ∈ path.splitOn slash := by
    have halone : (utf8 ".git").splitOn slash = [utf8 ".git"] := by decide
    cases hgit with
    | inl hroot =>
      rw [hroot, halone]
      exact List.mem_singleton_self _
    | inr hinside =>
      obtain ⟨rest, rfl⟩ := hinside
      have hslash : utf8 ".git/" = utf8 ".git" ++ [slash] := by decide
      rw [hslash, List.append_assoc, List.singleton_append, List.splitOn_append_cons_self, halone]
      exact List.mem_cons_self
  simp only [isNormalizedRepoPath, decide_eq_true_eq, List.all_eq_true] at h
  exact (h.2.2.2.2.2.2 _ hfirst).2.2.2.1 rfl

lemma admitChild_ok {path : Bytes} {isFile : Bool} (h : isNormalizedRepoPath path)
    (hfile : path = cargoOk → isFile) :
    admitChild path isFile = .ok (if path = cargoOk then none else some path) := by
  rw [admitChild, normalizedSourcePath_ok h, ok_bind]
  split_ifs with hmarker
  · rw [ensure_pass (hfile hmarker)]
    rfl
  · rw [ensure_pass (not_git h)]
    rfl

/-- The entries of the files that lie directly in a directory. -/
def owned (sha256 : Bytes → Digest) (names : List FileName) :
    Directory SourceNode → List MaterializedFileEntry
  | .empty => []
  | .leaf name node rest =>
    listed sha256 (names ++ [name], .leaf node) ++ owned sha256 names rest
  | .directory _ _ rest => owned sha256 names rest

lemma captureDirectory_ok {names : List FileName} {directory : Directory SourceNode}
    (h : ∀ b ∈ directory.nodes names, NodeOk b) :
    captureDirectory sha256 names directory = .ok (owned sha256 names directory) := by
  induction directory with
  | empty => rfl
  | leaf name node rest ih =>
    have hnode := h _ List.mem_cons_self
    obtain ⟨source, rfl, hlinks⟩ := hnode.leaf node rfl
    have hrest := ih fun b hb => h b (List.mem_cons_of_mem _ hb)
    have hadmit : admitChild (join (names ++ [name])) true =
        .ok (if join (names ++ [name]) = cargoOk then none else some (join (names ++ [name]))) :=
      admitChild_ok hnode.normalized fun _ => rfl
    rw [captureDirectory, SourceNode.isFile, hadmit, ok_bind]
    split_ifs with hmarker
    · simp [hrest, owned, listed, hmarker]
    · simp [hrest, owned, listed, hmarker, captureLeaf, hashSourceFile_ok hlinks]
  | directory name children rest _ ih =>
    have hnode := h _ List.mem_cons_self
    have hrest := ih fun b hb =>
      h b (List.mem_cons_of_mem _ (List.mem_append_right _ hb))
    have hadmit : admitChild (join (names ++ [name])) false =
        .ok (if join (names ++ [name]) = cargoOk then none else some (join (names ++ [name]))) :=
      admitChild_ok hnode.normalized fun hmarker => absurd hmarker (hnode.directory rfl)
    rw [captureDirectory, hadmit, ok_bind, hrest, owned]

/-- The entries of all files below a directory. -/
def below (sha256 : Bytes → Digest) (item : List FileName × Directory SourceNode) :
    List MaterializedFileEntry :=
  (item.2.nodes item.1).flatMap (listed sha256)

lemma below_perm (names : List FileName) (directory : Directory SourceNode) :
    (owned sha256 names directory ++
      (subdirectories names directory).flatMap (below sha256)).Perm
        (below sha256 (names, directory)) := by
  induction directory with
  | empty => exact .refl _
  | leaf name node rest ih =>
    have hbelow : below sha256 (names, .leaf name node rest) =
        listed sha256 (names ++ [name], .leaf node) ++ below sha256 (names, rest) := rfl
    rw [owned, subdirectories, hbelow, List.append_assoc]
    exact ih.append_left _
  | directory name children rest _ ih =>
    have hbelow : below sha256 (names, .directory name children rest) =
        below sha256 (names ++ [name], children) ++ below sha256 (names, rest) := by
      simp [below, Directory.nodes, listed]
    rw [owned, subdirectories, List.flatMap_cons, hbelow]
    exact (List.perm_append_comm_assoc _ _ _).trans (ih.append_left _)

lemma subdirectories_nodes {names : List FileName} {directory : Directory SourceNode}
    {item : List FileName × Directory SourceNode} (hitem : item ∈ subdirectories names directory)
    {b : List FileName × Node SourceNode} (hb : b ∈ item.2.nodes item.1) :
    b ∈ directory.nodes names := by
  induction directory with
  | empty => exact absurd hitem List.not_mem_nil
  | leaf name node rest ih => exact List.mem_cons_of_mem _ (ih hitem)
  | directory name children rest _ ih =>
    rw [Directory.nodes]
    cases hitem with
    | head => exact List.mem_cons_of_mem _ (List.mem_append_left _ hb)
    | tail _ hitem => exact List.mem_cons_of_mem _ (List.mem_append_right _ (ih hitem))

lemma capturePending_ok {pending : List (List FileName × Directory SourceNode)}
    (h : ∀ item ∈ pending, ∀ b ∈ item.2.nodes item.1, NodeOk b) :
    ∃ entries, capturePending sha256 pending = .ok entries ∧
      entries.Perm (pending.flatMap (below sha256)) := by
  induction pending using capturePending.induct with
  | case1 => exact ⟨[], by rw [capturePending]; rfl, .refl _⟩
  | case2 names directory pending ih =>
    have hnodes := h _ List.mem_cons_self
    obtain ⟨others, hothers, hperm⟩ := ih (by
      intro item hitem b hb
      rcases List.mem_append.mp hitem with hitem | hitem
      · exact hnodes b (subdirectories_nodes (List.mem_reverse.mp hitem) hb)
      · exact h item (List.mem_cons_of_mem _ hitem) b hb)
    refine ⟨owned sha256 names directory ++ others, ?_, ?_⟩
    · rw [capturePending, captureDirectory_ok hnodes, ok_bind, hothers]
      rfl
    · calc (owned sha256 names directory ++ others).Perm
            (owned sha256 names directory ++ ((subdirectories names directory).reverse ++
              pending).flatMap (below sha256)) := hperm.append_left _
        _ = (owned sha256 names directory ++
              (subdirectories names directory).reverse.flatMap (below sha256)) ++
                pending.flatMap (below sha256) := by
            rw [List.flatMap_append, List.append_assoc]
        List.Perm _ ((owned sha256 names directory ++
              (subdirectories names directory).flatMap (below sha256)) ++
                pending.flatMap (below sha256)) :=
            (((List.reverse_perm _).flatMap_right _).append_left _).append_right _
        List.Perm _ (((names, directory) :: pending).flatMap (below sha256)) := by
            rw [List.flatMap_cons]
            exact (below_perm names directory).append_right _

/-- The files of a tree, in the order of their paths. -/
def sourceEntries (sha256 : Bytes → Digest) (tree : FileTree SourceNode) :
    List MaterializedFileEntry :=
  (tree.nodes.flatMap (listed sha256)).mergeSort fun left right => left.path ≤ right.path

lemma listed_paths (b : List FileName × Node SourceNode) :
    ((listed sha256 b).map MaterializedFileEntry.path).Sublist [join b.1] := by
  rw [listed]
  split
  · split_ifs
    · exact List.nil_sublist _
    · exact .refl _
  · exact List.nil_sublist _

lemma listed_distinct (tree : FileTree SourceNode) :
    ((tree.nodes.flatMap (listed sha256)).map MaterializedFileEntry.path).Nodup := by
  have hsublist : ∀ nodes : List (List FileName × Node SourceNode),
      ((nodes.flatMap (listed sha256)).map MaterializedFileEntry.path).Sublist
        ((nodes.map Prod.fst).map join) := by
    intro nodes
    induction nodes with
    | nil => exact .refl _
    | cons b nodes ih =>
      rw [List.flatMap_cons, List.map_append, List.map_cons, List.map_cons, ← List.singleton_append]
      exact (listed_paths b).append ih
  exact (tree.distinct.map join_injective).sublist (hsublist tree.nodes)

lemma sourceEntries_perm (tree : FileTree SourceNode) :
    (sourceEntries sha256 tree).Perm (tree.nodes.flatMap (listed sha256)) :=
  List.mergeSort_perm _ _

lemma sourceEntries_increasing (tree : FileTree SourceNode) :
    (sourceEntries sha256 tree).Pairwise fun a b => a.path < b.path :=
  Lexicographic.pairwise_sort MaterializedFileEntry.path (listed_distinct tree)

/-- The walk succeeds, and lists each file once. -/
theorem captureMaterializedEntries_ok {tree : FileTree SourceNode} (h : ∀ b ∈ tree.nodes, NodeOk b) :
    captureMaterializedEntries sha256 tree = .ok (sourceEntries sha256 tree) := by
  have hpending : ∀ item ∈ [(([] : List FileName), tree.root)], ∀ b ∈ item.2.nodes item.1, NodeOk b := by
    intro item hitem b hb
    rw [List.mem_singleton.mp hitem] at hb
    exact h b hb
  obtain ⟨entries, hentries, hperm⟩ : ∃ entries, capturePending sha256 [([], tree.root)] = .ok entries ∧
      entries.Perm ([([], tree.root)].flatMap (below sha256)) := capturePending_ok hpending
  rw [List.flatMap_singleton] at hperm
  have hdistinct : (entries.map MaterializedFileEntry.path).Nodup :=
    (hperm.map _).nodup_iff.mpr (listed_distinct tree)
  rw [captureMaterializedEntries, hentries, ok_bind, pure_ok]
  refine Lexicographic.eq_of_increasing ?_ (Lexicographic.pairwise_sort _ hdistinct)
    (sourceEntries_increasing tree)
  exact (List.mergeSort_perm _ _).trans (hperm.trans (sourceEntries_perm tree).symm)

end Captured

end Eip0045.SourceManifest
