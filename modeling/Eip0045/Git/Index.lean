import Eip0045.Git.Contents

/-! The tree that Git builds from a flat index, and that it is the reconstructed one. -/

namespace Eip0045.GitTree

open Bytes Lexicographic

variable {sha1 : Bytes → Sha1Digest}

section Write

structure IndexEntry where
  path : Bytes
  executable : Bool
  content : Bytes
  deriving DecidableEq

def IndexEntry.under (name : Bytes) (entry : IndexEntry) : IndexEntry :=
  { entry with path := name ++ slash :: entry.path }

def IndexEntry.below (name : Bytes) (entry : IndexEntry) : IndexEntry :=
  { entry with path := entry.path.drop (name.length + 1) }

def weight (index : List IndexEntry) : ℕ := (index.map fun entry => entry.path.length + 1).sum

def firstName (path : Bytes) : Bytes := path.takeWhile fun c => c ≠ slash

def inDirectory (name : Bytes) (entry : IndexEntry) : Bool := (name ++ [slash]).isPrefixOf entry.path

lemma weight_append (xs ys : List IndexEntry) : weight (xs ++ ys) = weight xs + weight ys := by
  simp [weight]

lemma weight_below (name : Bytes) (index : List IndexEntry) :
    weight (index.map (IndexEntry.below name)) ≤ weight index := by
  induction index with
  | nil => exact le_refl _
  | cons entry rest ih =>
    simp only [weight, List.map_cons, List.sum_cons] at ih ⊢
    simp only [IndexEntry.below, List.length_drop] at ih ⊢
    omega

lemma firstName_append {before : Bytes} (after : Bytes) (h : slash ∉ before) :
    firstName (before ++ slash :: after) = before := by
  have hall : ∀ c ∈ before, decide (c ≠ slash) = true := by
    intro c hc
    exact decide_eq_true fun hcs => h (hcs ▸ hc)
  rw [firstName, List.takeWhile_append_of_pos hall]
  simp

lemma inDirectory_first {entry : IndexEntry} (h : slash ∈ entry.path) :
    inDirectory (firstName entry.path) entry = true := by
  obtain ⟨before, after, hpath, hbefore⟩ := List.eq_append_cons_of_mem h
  rw [inDirectory, List.isPrefixOf_iff_prefix, hpath, firstName_append after hbefore]
  exact ⟨after, by simp⟩

/-- Git's walk of an index: a run of entries below one directory becomes its tree object, and the
items stay in the index's order. -/
def writeItems (sha1 : Bytes → Sha1Digest) : List IndexEntry → List Item
  | [] => []
  | entry :: rest =>
    if _h : slash ∈ entry.path then
      let name := firstName entry.path
      let within := (entry :: rest).takeWhile (inDirectory name)
      treeItem name (treeObject sha1 (writeItems sha1 (within.map (IndexEntry.below name)))) ::
        writeItems sha1 ((entry :: rest).dropWhile (inDirectory name))
    else blobItem sha1 entry.path entry.executable entry.content :: writeItems sha1 rest
termination_by index => weight index
decreasing_by
  · have hfirst := inDirectory_first _h
    have hpos := List.length_pos_of_mem _h
    have hbelow := weight_below (firstName entry.path) (rest.takeWhile (inDirectory (firstName entry.path)))
    have hsplit := congrArg weight
      (List.takeWhile_append_dropWhile (p := inDirectory (firstName entry.path)) (l := rest))
    rw [weight_append] at hsplit
    rw [List.takeWhile_cons_of_pos hfirst, List.map_cons]
    simp only [weight, List.map_cons, List.sum_cons] at hbelow hsplit ⊢
    simp only [IndexEntry.below, List.length_drop] at hbelow ⊢
    omega
  · have hfirst := inDirectory_first _h
    have hsplit := congrArg weight
      (List.takeWhile_append_dropWhile (p := inDirectory (firstName entry.path)) (l := rest))
    rw [weight_append] at hsplit
    rw [List.dropWhile_cons_of_pos hfirst]
    simp only [weight, List.map_cons, List.sum_cons] at hsplit ⊢
    omega
  · simp only [weight, List.map_cons, List.sum_cons]
    omega

def writeTree (sha1 : Bytes → Sha1Digest) (index : List IndexEntry) : Sha1Digest :=
  treeObject sha1 (writeItems sha1 index)

end Write

section Flat

/-- The files of a tree under their full paths. -/
def Tree.files : Tree → List IndexEntry
  | .empty => []
  | .blob name executable content rest => ⟨name, executable, content⟩ :: rest.files
  | .tree name children rest => children.files.map (IndexEntry.under name) ++ rest.files

def Tree.index (t : Tree) : List IndexEntry :=
  t.files.mergeSort fun left right => left.path ≤ right.path

def Child.files (name : Bytes) : Child → List IndexEntry
  | .blob executable content => [⟨name, executable, content⟩]
  | .tree children => children.files.map (IndexEntry.under name)

def Child.index (name : Bytes) : Child → List IndexEntry
  | .blob executable content => [⟨name, executable, content⟩]
  | .tree children => children.index.map (IndexEntry.under name)

def entryOrder (entry : Bytes × Child) : Bytes :=
  match entry.2 with
  | .blob _ _ => entry.1
  | .tree _ => entry.1 ++ [slash]

def Tree.ordered (t : Tree) : List (Bytes × Child) :=
  t.entries.mergeSort fun left right => entryOrder left ≤ entryOrder right

variable {t : Tree} {name : Bytes} {child : Child}

lemma files_entries (t : Tree) : t.files = t.entries.flatMap fun e => e.2.files e.1 := by
  induction t with
  | empty => rfl
  | blob name executable content rest ih => exact congrArg (_ :: ·) ih
  | tree name children rest _ ih => exact congrArg (_ ++ ·) ih

lemma item_order (name : Bytes) (child : Child) :
    (child.item sha1 name).order = entryOrder (name, child) := by
  cases child <;> rfl

lemma ordered_perm (t : Tree) : t.ordered.Perm t.entries := List.mergeSort_perm _ _

lemma index_perm (t : Tree) : t.index.Perm t.files := List.mergeSort_perm _ _

lemma ordered_increasing (h : t.Valid) :
    t.ordered.Pairwise fun a b => entryOrder a < entryOrder b := by
  apply pairwise_sort
  have hnodup := order_nodup (Tree.sound (fun _ => ByteArr.zero 20) h.named h.distinct)
  rwa [items_entries, List.map_map, List.map_congr_left fun e _ => item_order e.1 e.2] at hnodup

lemma ordered_items (h : t.Valid) :
    (t.ordered.map fun e => e.2.item sha1 e.1) = inOrder (t.items sha1) := by
  have hsound := Tree.sound sha1 h.named h.distinct
  refine @eq_of_increasing _ _ _ _ _ _ Item.order _ _ ?_ ?_ ?_
  · rw [items_entries]
    exact ((ordered_perm t).map _).trans (inOrder_perm _).symm
  · rw [List.pairwise_map]
    refine (ordered_increasing h).imp ?_
    intro a b hlt
    rwa [item_order, item_order]
  · exact inOrder_increasing hsound

lemma index_path {x : IndexEntry} (h : x ∈ child.index name) :
    ∃ rest, x.path = entryOrder (name, child) ++ rest ∧
      ∀ executable content, child = .blob executable content → rest = [] := by
  cases child with
  | blob executable content =>
    obtain rfl := List.mem_singleton.mp h
    exact ⟨[], (List.append_nil name).symm, fun _ _ _ => rfl⟩
  | tree children =>
    obtain ⟨y, -, rfl⟩ := List.mem_map.mp h
    refine ⟨y.path, ?_, fun _ _ heq => (by cases heq)⟩
    simp [IndexEntry.under, entryOrder]

lemma index_lt {a b : Bytes × Child} {x y : IndexEntry} (ha : NameOk a.1)
    (hb : NameOk b.1) (hlt : entryOrder a < entryOrder b) (hx : x ∈ a.2.index a.1) (hy : y ∈ b.2.index b.1) :
    x.path < y.path := by
  obtain ⟨r, hxpath, hxblob⟩ := index_path hx
  obtain ⟨s, hypath, -⟩ := index_path hy
  rcases lt_cases hlt with ⟨c, rest, hextends⟩ | hdiffers
  · -- only a file's name can be continued by another entry
    obtain ⟨name, child⟩ := a
    cases child with
    | blob executable content =>
      rw [hxpath, hypath, hxblob executable content rfl, List.append_nil, hextends,
        List.append_assoc]
      exact lt_append_cons _ _ _
    | tree children =>
      obtain ⟨name', child'⟩ := b
      cases child' with
      | blob executable content =>
        have hname : name' = name ++ [slash] ++ c :: rest := hextends
        exact absurd (hname ▸ by simp) hb.noSlash
      | tree children' =>
        have hends : name' ++ slash :: [] = name ++ slash :: (c :: rest) := by
          simpa [entryOrder] using hextends
        have htail := (before_separator hb.noSlash ha.noSlash hends).2
        cases htail
  · rw [hxpath, hypath]
    exact append_lt_append hlt hdiffers _ _

lemma under_increasing {xs : List IndexEntry} (name : Bytes)
    (h : xs.Pairwise fun a b => a.path < b.path) :
    (xs.map (IndexEntry.under name)).Pairwise fun a b => a.path < b.path := by
  rw [List.pairwise_map]
  refine h.imp ?_
  intro a b hlt
  change name ++ slash :: a.path < name ++ slash :: b.path
  rw [append_lt_append_left]
  exact List.cons_lt_cons_iff.mpr (.inr ⟨rfl, hlt⟩)

lemma ordered_named (h : t.Valid) : ∀ e ∈ t.ordered, NameOk e.1 := by
  intro e he
  apply h.named.name
  rw [← entries_names]
  exact List.mem_map_of_mem ((ordered_perm t).mem_iff.mp he)

lemma index_eq (h : t.Valid) : t.index = t.ordered.flatMap (fun e => e.2.index e.1) ∧
    t.index.Pairwise fun a b => a.path < b.path := by
  induction hn : sizeOf t using Nat.strong_induction_on generalizing t with
  | h n ih =>
    subst hn
    have hinside : ∀ e ∈ t.ordered, (e.2.index e.1).Perm (e.2.files e.1) ∧
        (e.2.index e.1).Pairwise fun a b => a.path < b.path := by
      intro e he
      obtain ⟨name, child⟩ := e
      cases child with
      | blob executable content => exact ⟨.refl _, List.pairwise_singleton _ _⟩
      | tree children =>
        obtain ⟨hsize, hvalid⟩ := entries_tree ((ordered_perm t).mem_iff.mp he)
        obtain ⟨-, hincreasing⟩ := ih _ hsize (hvalid h) rfl
        exact ⟨(index_perm children).map _, under_increasing name hincreasing⟩
    have hincreasing : (t.ordered.flatMap fun e => e.2.index e.1).Pairwise
        fun a b => a.path < b.path := by
      rw [List.pairwise_flatMap]
      refine ⟨fun e he => (hinside e he).2, ?_⟩
      refine (ordered_increasing h).imp_of_mem ?_
      intro a b ha hb hlt x hx y hy
      exact index_lt (ordered_named h a ha) (ordered_named h b hb) hlt hx hy
    have hperm : (t.ordered.flatMap fun e => e.2.index e.1).Perm t.files := by
      rw [files_entries]
      exact (List.Perm.flatMap_left _ fun e he => (hinside e he).1).trans
        ((ordered_perm t).flatMap_right _)
    have hnodup : (t.files.map IndexEntry.path).Nodup := by
      apply (hperm.map IndexEntry.path).nodup_iff.mp
      rw [List.nodup_iff_pairwise_ne, List.pairwise_map]
      refine hincreasing.imp ?_
      intro a b hlt heq
      rw [heq] at hlt
      exact Std.lt_irrefl hlt
    have hsorted : t.index.Pairwise fun a b => a.path < b.path := pairwise_sort _ hnodup
    exact ⟨eq_of_increasing ((index_perm t).trans hperm.symm) hsorted hincreasing, hsorted⟩

end Flat

section Grouping

variable {t : Tree} {name : Bytes}

/-- Every directory below this one holds a file at some depth. -/
def Tree.Populated (t : Tree) : Prop :=
  ∀ path, (path, .directory) ∈ t.nodes →
    ∃ below executable content, (path ++ below, .file executable content) ∈ t.nodes

lemma below_under (name : Bytes) (entry : IndexEntry) : (entry.under name).below name = entry := by
  have hdrop : (name ++ slash :: entry.path).drop (name.length + 1) = entry.path := by
    rw [← List.drop_drop, List.drop_left]
    rfl
  simp only [IndexEntry.below, IndexEntry.under, hdrop]

lemma inDirectory_under (name : Bytes) (entry : IndexEntry) :
    inDirectory name (entry.under name) = true := by
  rw [inDirectory, List.isPrefixOf_iff_prefix]
  exact ⟨entry.path, by simp [IndexEntry.under]⟩

lemma writeItems_tree {inside after : List IndexEntry} (hname : slash ∉ name) (hne : inside ≠ [])
    (hafter : ∀ entry ∈ after, inDirectory name entry = false) :
    writeItems sha1 (inside.map (IndexEntry.under name) ++ after) =
      treeItem name (treeObject sha1 (writeItems sha1 inside)) :: writeItems sha1 after := by
  have hall : ∀ entry ∈ inside.map (IndexEntry.under name), inDirectory name entry = true := by
    intro entry hentry
    obtain ⟨y, -, rfl⟩ := List.mem_map.mp hentry
    exact inDirectory_under name y
  have htake : after.takeWhile (inDirectory name) = [] := by
    cases after with
    | nil => rfl
    | cons entry rest =>
      rw [List.takeWhile_cons_of_neg]
      simp [hafter entry List.mem_cons_self]
  have hdrop : after.dropWhile (inDirectory name) = after := by
    cases after with
    | nil => rfl
    | cons entry rest =>
      rw [List.dropWhile_cons_of_neg]
      simp [hafter entry List.mem_cons_self]
  have hback : (inside.map (IndexEntry.under name)).map (IndexEntry.below name) = inside := by
    rw [List.map_map]
    exact (List.map_congr_left fun entry _ => below_under name entry).trans (List.map_id inside)
  obtain ⟨first, rest, hsplit⟩ := List.exists_cons_of_ne_nil
    (List.map_eq_nil_iff.not.mpr hne : inside.map (IndexEntry.under name) ≠ [])
  obtain ⟨y, -, hfirst⟩ := List.mem_map.mp (hsplit ▸ List.mem_cons_self : first ∈ inside.map _)
  have hslash : slash ∈ first.path := by
    rw [← hfirst]
    simp [IndexEntry.under]
  have hfirstName : firstName first.path = name := by
    rw [← hfirst]
    exact firstName_append y.path hname
  rw [hsplit, List.cons_append, writeItems, dif_pos hslash]
  simp only [hfirstName]
  rw [← List.cons_append, ← hsplit, List.takeWhile_append_of_pos hall,
    List.dropWhile_append_of_pos hall, htake, hdrop, List.append_nil, hback]

lemma inDirectory_other {other : Bytes × Child} {entry : IndexEntry} (hname : slash ∉ name)
    (hother : NameOk other.1) (hne : other.1 ≠ name) (h : entry ∈ other.2.index other.1) :
    inDirectory name entry = false := by
  rw [← Bool.not_eq_true, inDirectory, List.isPrefixOf_iff_prefix]
  intro hinitial
  obtain ⟨rest, hrest⟩ := hinitial
  rw [List.append_assoc, List.singleton_append] at hrest
  obtain ⟨name', child⟩ := other
  cases child with
  | blob executable content =>
    obtain rfl := List.mem_singleton.mp h
    have hpath : name' = name ++ slash :: rest := hrest.symm
    exact hother.noSlash (by rw [hpath]; simp)
  | tree children =>
    obtain ⟨y, -, rfl⟩ := List.mem_map.mp h
    exact hne (before_separator hother.noSlash hname hrest.symm).1

lemma writeItems_entries {entries : List (Bytes × Child)} (hnames : ∀ e ∈ entries, NameOk e.1)
    (hnodup : (entries.map Prod.fst).Nodup)
    (hchildren : ∀ name children, (name, .tree children) ∈ entries →
      children.index ≠ [] ∧ writeItems sha1 children.index = inOrder (children.items sha1)) :
    writeItems sha1 (entries.flatMap fun e => e.2.index e.1) =
      entries.map fun e => e.2.item sha1 e.1 := by
  induction entries with
  | nil => rw [List.flatMap_nil, writeItems, List.map_nil]
  | cons e rest ih =>
    obtain ⟨hname, hothers⟩ := List.forall_mem_cons.mp hnames
    obtain ⟨hfresh, hdistinct⟩ := List.nodup_cons.mp hnodup
    have hrest := ih hothers hdistinct fun name children h =>
      hchildren name children (List.mem_cons_of_mem _ h)
    obtain ⟨name, child⟩ := e
    rw [List.flatMap_cons, List.map_cons, ← hrest]
    cases child with
    | blob executable content =>
      change writeItems sha1 (⟨name, executable, content⟩ :: _) = _
      rw [writeItems, dif_neg hname.noSlash]
      rfl
    | tree children =>
      obtain ⟨hne, hinside⟩ := hchildren name children List.mem_cons_self
      have hafter : ∀ entry ∈ rest.flatMap (fun e => e.2.index e.1),
          inDirectory name entry = false := by
        intro entry hentry
        obtain ⟨other, hother, hentry⟩ := List.mem_flatMap.mp hentry
        apply inDirectory_other hname.noSlash (hothers other hother) _ hentry
        rintro rfl
        exact hfresh (List.mem_map.mpr ⟨other, hother, rfl⟩)
      refine (writeItems_tree hname.noSlash hne hafter).trans ?_
      rw [hinside]
      rfl

lemma files_ne_nil {path : List Bytes} {executable : Bool} {content : Bytes}
    (h : (path, .file executable content) ∈ t.nodes) : t.files ≠ [] := by
  induction t generalizing path with
  | empty => cases h
  | blob name e c rest ih => exact List.cons_ne_nil _ _
  | tree name children rest ihc ih =>
    intro hnil
    obtain ⟨hinside, hafter⟩ := List.append_eq_nil_iff.mp hnil
    rcases List.mem_cons.mp h with heq | h
    · cases (Prod.mk.inj heq).2
    · rcases List.mem_append.mp h with h | h
      · obtain ⟨b, hb, heq⟩ := List.mem_map.mp h
        obtain ⟨-, hnode⟩ := Prod.mk.inj heq
        obtain ⟨below, node⟩ := b
        cases hnode
        exact ihc hb (List.map_eq_nil_iff.mp hinside)
      · exact ih h hafter

lemma populated_entry {children : Tree} (h : t.Valid) (hp : t.Populated)
    (he : (name, .tree children) ∈ t.entries) : children.index ≠ [] ∧ children.Populated := by
  have hinside : ∀ path node, path ≠ [] →
      ((name :: path, node) ∈ t.nodes ↔ (path, node) ∈ children.nodes) :=
    fun path node hpath => mem_inside (b := (path, node)) h.distinct he hpath
  refine ⟨?_, ?_⟩
  · have hroot : ([name], .directory) ∈ t.nodes := mem_nodes.mpr ⟨name, _, he, .inl ⟨rfl, rfl⟩⟩
    obtain ⟨below, executable, content, hfile⟩ := hp [name] hroot
    have hbelow : below ≠ [] := by
      rintro rfl
      obtain ⟨other, hother, hnode⟩ := mem_child hfile
      cases entries_unique h.distinct he hother
      cases hnode
    have hfiles := files_ne_nil ((hinside below _ hbelow).mp hfile)
    intro hnil
    have hperm := index_perm children
    rw [hnil] at hperm
    exact hfiles hperm.symm.eq_nil
  · intro path hpath
    have hne := nodes_path_ne hpath
    obtain ⟨below, executable, content, hfile⟩ := hp (name :: path) ((hinside path _ hne).mpr hpath)
    exact ⟨below, executable, content, (hinside _ _ (by simp [hne])).mp hfile⟩

lemma ordered_nodup (h : t.Valid) : (t.ordered.map Prod.fst).Nodup := by
  rw [((ordered_perm t).map Prod.fst).nodup_iff, entries_names]
  exact h.distinct.nodup

lemma writeItems_index (h : t.Valid) (hp : t.Populated) :
    writeItems sha1 t.index = inOrder (t.items sha1) := by
  induction hn : sizeOf t using Nat.strong_induction_on generalizing t with
  | h n ih =>
    subst hn
    rw [(index_eq h).1, ← ordered_items h]
    apply writeItems_entries (ordered_named h) (ordered_nodup h)
    intro name children he
    have hentry := (ordered_perm t).mem_iff.mp he
    obtain ⟨hsize, hvalid⟩ := entries_tree hentry
    obtain ⟨hne, hpopulated⟩ := populated_entry h hp hentry
    exact ⟨hne, ih _ hsize (hvalid h) hpopulated rfl⟩

end Grouping

section Exactness

/-- A checked-out source root, as a file system holds it. -/
structure Checkout where
  listing : Listing
  distinct : listing.Distinct

namespace Checkout

def tree (c : Checkout) : Tree := c.listing.view true

def gitTree (sha1 : Bytes → Sha1Digest) (c : Checkout) : Result Sha1Digest :=
  computeGitTree sha1 (.directory c.listing)

lemma valid {c : Checkout} (h : c.listing.Admitted true) : c.tree.Valid :=
  ⟨view_named h, view_distinct c.distinct⟩

lemma gitTree_ok {c : Checkout} {digest : Sha1Digest} :
    c.gitTree sha1 = .ok digest ↔ c.listing.Admitted true ∧ digest = c.tree.id sha1 :=
  computeGitTree_ok c.distinct

end Checkout

/-- A checkout whose `.git` is a regular file, as in a worktree. -/
def worktree : Checkout where
  listing := .file dotGit ⟨0o644, [], by decide⟩ .empty
  distinct := ⟨List.not_mem_nil, trivial⟩

/-- A regular file `.git` in the root is refused. -/
theorem worktree_refused :
    ¬∃ digest, worktree.gitTree (fun _ => ByteArr.zero 20) = .ok digest := by
  intro h
  obtain ⟨digest, hdigest⟩ := h
  have hrefused : worktree.gitTree (fun _ => ByteArr.zero 20) = .error .checkoutGitNotDirectory := by
    decide
  rw [hrefused] at hdigest
  cases hdigest

/-- The reconstruction returns on the admitted checkouts, and it returns Git's object ID: of the
items in the one order of Git, of the flat index when every directory holds a file. Sort keys differ
in every directory, the contents determine the ID, and the ID the contents. -/
theorem git_tree_exact (sha1 : Bytes → Sha1Digest) :
    (∀ (c : Checkout) (digest : Sha1Digest), c.gitTree sha1 = .ok digest ↔
      c.listing.Admitted true ∧ digest = c.tree.id sha1) ∧
    (∀ t : Tree, t.Valid → ∃ ordered : List Item, t.id sha1 = treeObject sha1 ordered ∧
      (ordered.Perm (t.items sha1) ∧ ordered.Pairwise fun a b => a.order < b.order) ∧
      ∀ other : List Item, other.Perm (t.items sha1) →
        (other.Pairwise fun a b => a.order < b.order) → other = ordered) ∧
    (∀ (directory : List Bytes) (isRoot : Bool) (l : Listing) (entries : List GitTreeEntry),
      l.Distinct → collectEntries sha1 directory isRoot l = .ok entries →
        (entries.map GitTreeEntry.sortKey).Nodup) ∧
    (∀ c c' : Checkout, c.listing.Admitted true → c'.listing.Admitted true →
      SameContents c.tree c'.tree → c.gitTree sha1 = c'.gitTree sha1) ∧
    (∀ c : Checkout, c.listing.Admitted true → c.tree.Populated →
      c.gitTree sha1 = .ok (writeTree sha1 c.tree.index)) ∧
    ∀ (c c' : Checkout) (digest : Sha1Digest), c.gitTree sha1 = .ok digest →
      c'.gitTree sha1 = .ok digest →
      Set.InjOn sha1 {bytes | bytes ∈ c.tree.hashed sha1 ∨ bytes ∈ c'.tree.hashed sha1} →
        SameContents c.tree c'.tree := by
  refine ⟨fun c digest => Checkout.gitTree_ok, ?_, ?_, ?_, ?_, ?_⟩
  · intro t ht
    have hsound := Tree.sound sha1 ht.named ht.distinct
    have hincreasing := inOrder_increasing hsound
    refine ⟨inOrder (t.items sha1), rfl, ⟨inOrder_perm _, hincreasing⟩, ?_⟩
    intro other hperm hother
    exact eq_of_increasing (hperm.trans (inOrder_perm _).symm) hother hincreasing
  · intro directory isRoot l entries hd hrun
    obtain ⟨hadmitted, rfl⟩ := (collectEntries_ok hd).mp hrun
    exact sortKey_nodup (view_sound hd hadmitted)
  · intro c c' h h' hsame
    have hid : c.tree.id sha1 = c'.tree.id sha1 :=
      same_id (Checkout.valid h) (Checkout.valid h') hsame
    rw [Checkout.gitTree_ok.mpr ⟨h, rfl⟩, Checkout.gitTree_ok.mpr ⟨h', hid⟩]
  · intro c h hpopulated
    apply Checkout.gitTree_ok.mpr
    refine ⟨h, ?_⟩
    rw [writeTree, writeItems_index (Checkout.valid h) hpopulated, Tree.id]
  · intro c c' digest hrun hrun' hsha b
    obtain ⟨h, hid⟩ := Checkout.gitTree_ok.mp hrun
    obtain ⟨h', hid'⟩ := Checkout.gitTree_ok.mp hrun'
    have hsame : c.tree.id sha1 = c'.tree.id sha1 := hid.symm.trans hid'
    constructor
    · exact contents_of_id (Checkout.valid h) (Checkout.valid h') hsha hsame b
    · refine contents_of_id (Checkout.valid h') (Checkout.valid h) ?_ hsame.symm b
      apply hsha.mono
      intro bytes hbytes
      exact hbytes.symm

end Exactness

end Eip0045.GitTree
