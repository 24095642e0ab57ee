import Eip0045.Git.Reconstruction

/-! What a tree holds under each path, and that its object ID determines it. -/

namespace Eip0045.GitTree

open Bytes CanonicalJson Lexicographic

variable {sha1 : Bytes → Sha1Digest}

section Nodes

inductive Node
  | directory
  | file (executable : Bool) (content : Bytes)
  deriving DecidableEq

/-- One entry of a directory. -/
inductive Child
  | blob (executable : Bool) (content : Bytes)
  | tree (children : Tree)

def Tree.entries : Tree → List (Bytes × Child)
  | .empty => []
  | .blob name executable content rest => (name, .blob executable content) :: rest.entries
  | .tree name children rest => (name, .tree children) :: rest.entries

/-- Everything below a directory, under its names from there on. -/
def Tree.nodes : Tree → List (List Bytes × Node)
  | .empty => []
  | .blob name executable content rest => ([name], .file executable content) :: rest.nodes
  | .tree name children rest =>
    ([name], .directory) :: (children.nodes.map (fun b => (name :: b.1, b.2)) ++ rest.nodes)

def Child.node : Child → Node
  | .blob executable content => .file executable content
  | .tree _ => .directory

def Child.inside : Child → List (List Bytes × Node)
  | .blob _ _ => []
  | .tree children => children.nodes

def Child.item (sha1 : Bytes → Sha1Digest) (name : Bytes) : Child → Item
  | .blob executable content => blobItem sha1 name executable content
  | .tree children => treeItem name (children.id sha1)

variable {t u : Tree} {name : Bytes} {child : Child}

lemma nodes_path_ne {b : List Bytes × Node} (h : b ∈ t.nodes) : b.1 ≠ [] := by
  induction t with
  | empty => cases h
  | blob name executable content rest ih =>
    rcases List.mem_cons.mp h with rfl | h
    · simp
    · exact ih h
  | tree name children rest ihc ih =>
    rcases List.mem_cons.mp h with rfl | h
    · simp
    · rcases List.mem_append.mp h with h | h
      · obtain ⟨b', -, rfl⟩ := List.mem_map.mp h
        simp
      · exact ih h

lemma mem_nodes {path : List Bytes} {node : Node} :
    (path, node) ∈ t.nodes ↔ ∃ name child, (name, child) ∈ t.entries ∧
      ((path = [name] ∧ node = child.node) ∨
        ∃ rest, path = name :: rest ∧ (rest, node) ∈ child.inside) := by
  induction t with
  | empty => simp [Tree.nodes, Tree.entries]
  | blob name executable content rest ih =>
    simp only [Tree.nodes, Tree.entries, List.mem_cons, ih, Prod.mk.injEq]
    constructor
    · intro h
      rcases h with ⟨rfl, rfl⟩ | ⟨n, c, hmem, hpath⟩
      · exact ⟨name, _, .inl ⟨rfl, rfl⟩, .inl ⟨rfl, rfl⟩⟩
      · exact ⟨n, c, .inr hmem, hpath⟩
    · intro h
      obtain ⟨n, c, ⟨rfl, rfl⟩ | hmem, hpath⟩ := h
      · rcases hpath with ⟨rfl, rfl⟩ | ⟨_, -, hinside⟩
        · exact .inl ⟨rfl, rfl⟩
        · cases hinside
      · exact .inr ⟨n, c, hmem, hpath⟩
  | tree name children rest ihc ih =>
    simp only [Tree.nodes, Tree.entries, List.mem_cons, List.mem_append, List.mem_map, ih,
      Prod.mk.injEq]
    constructor
    · intro h
      rcases h with ⟨rfl, rfl⟩ | ⟨⟨below, node'⟩, hinside, rfl, rfl⟩ | ⟨n, c, hmem, hpath⟩
      · exact ⟨name, _, .inl ⟨rfl, rfl⟩, .inl ⟨rfl, rfl⟩⟩
      · exact ⟨name, _, .inl ⟨rfl, rfl⟩, .inr ⟨below, rfl, hinside⟩⟩
      · exact ⟨n, c, .inr hmem, hpath⟩
    · intro h
      obtain ⟨n, c, ⟨rfl, rfl⟩ | hmem, hpath⟩ := h
      · rcases hpath with ⟨rfl, rfl⟩ | ⟨below, rfl, hinside⟩
        · exact .inl ⟨rfl, rfl⟩
        · exact .inr (.inl ⟨(below, node), hinside, rfl, rfl⟩)
      · exact .inr (.inr ⟨n, c, hmem, hpath⟩)

lemma entries_names (t : Tree) : t.entries.map Prod.fst = t.names := by
  induction t with
  | empty => rfl
  | blob name executable content rest ih => exact congrArg (name :: ·) ih
  | tree name children rest _ ih => exact congrArg (name :: ·) ih

lemma items_entries (t : Tree) : t.items sha1 = t.entries.map fun e => e.2.item sha1 e.1 := by
  induction t with
  | empty => rfl
  | blob name executable content rest ih => exact congrArg (_ :: ·) ih
  | tree name children rest _ ih => exact congrArg (_ :: ·) ih

structure Tree.Valid (t : Tree) : Prop where
  named : t.Named
  distinct : t.Distinct

lemma entries_tree {children : Tree} (h : (name, .tree children) ∈ t.entries) :
    sizeOf children < sizeOf t ∧ (t.Valid → children.Valid) := by
  induction t with
  | empty => cases h
  | blob n executable content rest ih =>
    rcases List.mem_cons.mp h with heq | h
    · cases (Prod.mk.inj heq).2
    · obtain ⟨hsize, hvalid⟩ := ih h
      refine ⟨?_, fun hv => hvalid ⟨hv.named.2, hv.distinct.2⟩⟩
      simp only [Tree.blob.sizeOf_spec]
      omega
  | tree n inside rest ihc ih =>
    rcases List.mem_cons.mp h with heq | h
    · obtain ⟨rfl, hchildren⟩ := Prod.mk.inj heq
      cases hchildren
      refine ⟨?_, fun hv => ⟨hv.named.2.1, hv.distinct.2.1⟩⟩
      simp only [Tree.tree.sizeOf_spec]
      omega
    · obtain ⟨hsize, hvalid⟩ := ih h
      refine ⟨?_, fun hv => hvalid ⟨hv.named.2.2, hv.distinct.2.2⟩⟩
      simp only [Tree.tree.sizeOf_spec]
      omega

lemma entries_unique {other : Child} (hd : t.Distinct) (h : (name, child) ∈ t.entries)
    (h' : (name, other) ∈ t.entries) : child = other := by
  have hnodup : (t.entries.map Prod.fst).Nodup := (entries_names t).symm ▸ hd.nodup
  exact (Prod.mk.inj (List.inj_on_of_nodup_map hnodup h h' rfl)).2

lemma mem_inside {b : List Bytes × Node} (hd : t.Distinct) (h : (name, child) ∈ t.entries)
    (hb : b.1 ≠ []) : (name :: b.1, b.2) ∈ t.nodes ↔ b ∈ child.inside := by
  rw [mem_nodes]
  constructor
  · intro hmem
    obtain ⟨n, c, hentry, ⟨hpath, -⟩ | ⟨rest, hpath, hinside⟩⟩ := hmem
    · exact absurd (List.cons.inj hpath).2 hb
    · obtain ⟨rfl, rfl⟩ := List.cons.inj hpath
      rwa [entries_unique hd h hentry]
  · intro hinside
    exact ⟨name, child, h, .inr ⟨b.1, rfl, hinside⟩⟩

lemma mem_child {node : Node} (h : ([name], node) ∈ t.nodes) :
    ∃ child, (name, child) ∈ t.entries ∧ node = child.node := by
  obtain ⟨n, c, hentry, ⟨hpath, hnode⟩ | ⟨rest, hpath, hinside⟩⟩ := mem_nodes.mp h
  · obtain ⟨rfl, -⟩ := List.cons.inj hpath
    exact ⟨c, hentry, hnode⟩
  · obtain ⟨-, rfl⟩ := List.cons.inj hpath
    cases c with
    | blob executable content => cases hinside
    | tree children => exact absurd rfl (nodes_path_ne hinside)

end Nodes

section SameContents

/-- The two trees hold the same under every path. -/
def SameContents (t u : Tree) : Prop := ∀ b, b ∈ t.nodes ↔ b ∈ u.nodes

variable {t u : Tree} {name : Bytes} {child : Child}

lemma inside_path_ne {b : List Bytes × Node} (h : b ∈ child.inside) : b.1 ≠ [] := by
  cases child with
  | blob executable content => cases h
  | tree children => exact nodes_path_ne h

lemma entry_counterpart (ht : t.Distinct) (hu : u.Distinct) (hsame : SameContents t u)
    (h : (name, child) ∈ t.entries) : ∃ other, (name, other) ∈ u.entries ∧
      child.node = other.node ∧ ∀ b, b ∈ child.inside ↔ b ∈ other.inside := by
  have hnode : ([name], child.node) ∈ t.nodes := mem_nodes.mpr ⟨name, child, h, .inl ⟨rfl, rfl⟩⟩
  obtain ⟨other, hother, hkind⟩ := mem_child ((hsame _).mp hnode)
  refine ⟨other, hother, hkind, ?_⟩
  intro b
  constructor
  · intro hb
    have hne := inside_path_ne hb
    exact (mem_inside hu hother hne).mp ((hsame _).mp ((mem_inside ht h hne).mpr hb))
  · intro hb
    have hne := inside_path_ne hb
    exact (mem_inside ht h hne).mp ((hsame _).mpr ((mem_inside hu hother hne).mpr hb))

lemma items_subset (ht : t.Distinct) (hu : u.Distinct) (hsame : SameContents t u)
    (ih : ∀ c c' : Tree, (∃ name, (name, .tree c) ∈ t.entries) → (∃ name, (name, .tree c') ∈ u.entries) →
      SameContents c c' → c.id sha1 = c'.id sha1) :
    ∀ item ∈ t.items sha1, item ∈ u.items sha1 := by
  intro item hitem
  rw [items_entries] at hitem ⊢
  obtain ⟨⟨name, child⟩, hentry, rfl⟩ := List.mem_map.mp hitem
  obtain ⟨other, hother, hkind, hinside⟩ := entry_counterpart ht hu hsame hentry
  refine List.mem_map.mpr ⟨(name, other), hother, ?_⟩
  cases child with
  | blob executable content =>
    cases other with
    | blob executable' content' =>
      cases hkind
      rfl
    | tree children => cases hkind
  | tree children =>
    cases other with
    | blob executable content => cases hkind
    | tree children' =>
      have hid := ih children children' ⟨name, hentry⟩ ⟨name, hother⟩ hinside
      simp only [Child.item, hid]

lemma same_id (ht : t.Valid) (hu : u.Valid) (hsame : SameContents t u) :
    t.id sha1 = u.id sha1 := by
  induction hn : sizeOf t using Nat.strong_induction_on generalizing t u with
  | h n ih =>
    subst hn
    have hchildren : ∀ c c' : Tree, (∃ name, (name, .tree c) ∈ t.entries) →
        (∃ name, (name, .tree c') ∈ u.entries) → SameContents c c' → c.id sha1 = c'.id sha1 := by
      intro c c' hc hc' hcontents
      obtain ⟨name, hc⟩ := hc
      obtain ⟨name', hc'⟩ := hc'
      obtain ⟨hsize, hvalid⟩ := entries_tree hc
      exact ih _ hsize (hvalid ht) ((entries_tree hc').2 hu) hcontents rfl
    have hsound := Tree.sound sha1 ht.named ht.distinct
    have hsound' := Tree.sound sha1 hu.named hu.distinct
    have hperm : (t.items sha1).Perm (u.items sha1) := by
      apply (List.perm_ext_iff_of_nodup (.of_map _ hsound.nodup) (.of_map _ hsound'.nodup)).mpr
      intro item
      constructor
      · exact items_subset ht.distinct hu.distinct hsame hchildren item
      · refine items_subset hu.distinct ht.distinct (fun b => (hsame b).symm) ?_ item
        intro c c' hc hc' hcontents
        exact (hchildren c' c hc' hc fun b => (hcontents b).symm).symm
    have hordered : inOrder (t.items sha1) = inOrder (u.items sha1) :=
      eq_of_increasing (((inOrder_perm _).trans hperm).trans (inOrder_perm _).symm)
        (inOrder_increasing hsound) (inOrder_increasing hsound')
    rw [Tree.id, Tree.id, hordered]

end SameContents

section Parsing

lemma before_separator {sep : UInt8} {x y r s : Bytes} (hx : sep ∉ x) (hy : sep ∉ y)
    (h : x ++ sep :: r = y ++ sep :: s) : x = y ∧ r = s := by
  induction x generalizing y with
  | nil =>
    cases y with
    | nil => exact ⟨rfl, (List.cons.inj h).2⟩
    | cons c y =>
      obtain ⟨rfl, -⟩ := List.cons.inj h
      exact absurd List.mem_cons_self hy
  | cons c x ih =>
    cases y with
    | nil =>
      obtain ⟨rfl, -⟩ := List.cons.inj h
      exact absurd List.mem_cons_self hx
    | cons d y =>
      obtain ⟨rfl, hrest⟩ := List.cons.inj h
      obtain ⟨rfl, rfl⟩ := ih (fun hm => hx (List.mem_cons_of_mem _ hm))
        (fun hm => hy (List.mem_cons_of_mem _ hm)) hrest
      exact ⟨rfl, rfl⟩

/-- An item whose mode tells what it is, and whose name ends at a NUL. -/
structure Item.Readable (item : Item) : Prop where
  noNul : 0 ∉ item.name
  noSpace : 32 ∉ item.mode
  mode : item.mode = utf8 "40000" ↔ item.isTree = true

lemma texts_checked :
    ((32 ∉ utf8 "100644" ∧ utf8 "100644" ≠ utf8 "40000") ∧ 32 ∉ utf8 "100755" ∧ utf8 "100755" ≠ utf8 "40000") ∧
    32 ∉ utf8 "40000" ∧ utf8 "100644" ≠ utf8 "100755" ∧ utf8 " " = [32] ∧ 0 ∉ utf8 "tree" ∧
      0 ∉ utf8 "blob" := by
  decide

lemma child_readable {name : Bytes} (h : NameOk name) (child : Child) :
    (child.item sha1 name).Readable := by
  obtain ⟨⟨hplain, hexecutable⟩, hdirectory, -⟩ := texts_checked
  cases child with
  | blob executable content =>
    cases executable with
    | false => exact ⟨h.noNul, hplain.1, fun heq => absurd heq hplain.2, fun heq => (by cases heq)⟩
    | true =>
      exact ⟨h.noNul, hexecutable.1, fun heq => absurd heq hexecutable.2, fun heq => (by cases heq)⟩
  | tree children => exact ⟨h.noNul, hdirectory, fun _ => rfl, fun _ => rfl⟩

lemma items_readable {t : Tree} (h : t.Valid) : ∀ item ∈ t.items sha1, item.Readable := by
  intro item hitem
  have hname := (Tree.sound sha1 h.named h.distinct).named item hitem
  rw [items_entries] at hitem
  obtain ⟨⟨name, child⟩, -, rfl⟩ := List.mem_map.mp hitem
  have hsame : (child.item sha1 name).name = name := by cases child <;> rfl
  exact child_readable (hsame ▸ hname) child

lemma encode_inj {a b : Item} {r s : Bytes} (ha : a.Readable) (hb : b.Readable)
    (h : a.encode ++ r = b.encode ++ s) : a = b ∧ r = s := by
  have hspace := texts_checked.2.2.2.1
  simp only [Item.encode, hspace, List.append_assoc, List.singleton_append] at h
  obtain ⟨hmode, h⟩ := before_separator ha.noSpace hb.noSpace h
  obtain ⟨hname, h⟩ := before_separator ha.noNul hb.noNul h
  obtain ⟨hdigest, hrest⟩ := List.append_inj h (by rw [ByteArr.val_length, ByteArr.val_length])
  have htree : a.isTree = b.isTree := by
    rw [Bool.eq_iff_iff, ← ha.mode, ← hb.mode, hmode]
  refine ⟨?_, hrest⟩
  cases a
  cases b
  cases hmode
  cases hname
  cases htree
  cases Subtype.ext hdigest
  rfl

lemma body_inj {xs ys : List Item} (hx : ∀ item ∈ xs, item.Readable)
    (hy : ∀ item ∈ ys, item.Readable)
    (h : xs.flatMap Item.encode = ys.flatMap Item.encode) : xs = ys := by
  have hne : ∀ item : Item, item.encode ≠ [] := by
    intro item hnil
    have hlength := congrArg List.length hnil
    simp [Item.encode] at hlength
  induction xs generalizing ys with
  | nil =>
    cases ys with
    | nil => rfl
    | cons y ys => exact absurd (List.append_eq_nil_iff.mp h.symm).1 (hne y)
  | cons x xs ih =>
    cases ys with
    | nil => exact absurd (List.append_eq_nil_iff.mp h).1 (hne x)
    | cons y ys =>
      obtain ⟨hx, hxs⟩ := List.forall_mem_cons.mp hx
      obtain ⟨hy, hys⟩ := List.forall_mem_cons.mp hy
      obtain ⟨rfl, hrest⟩ := encode_inj hx hy h
      rw [ih hxs hys hrest]

lemma nul_not_mem_decimal (n : ℕ) : 0 ∉ decimal n := by
  rw [decimal]
  split
  · decide
  · intro hmem
    obtain ⟨d, hd, hzero⟩ := List.mem_map.mp (List.mem_reverse.mp hmem)
    have hlt := Nat.digits_lt_base (by decide) hd
    have htoNat := congrArg UInt8.toNat hzero
    rw [UInt8.toNat_ofNat'] at htoNat
    have hmod : (48 + d) % 2 ^ 8 = 48 + d := Nat.mod_eq_of_lt (by omega)
    rw [hmod] at htoNat
    exact absurd htoNat (by simp)

/-- What the digest of an object is taken of. -/
def objectBytes (kind body : Bytes) : Bytes :=
  kind ++ utf8 " " ++ decimal body.length ++ [0] ++ body

lemma objectBytes_inj {kind x y : Bytes} (hkind : 0 ∉ kind)
    (h : objectBytes kind x = objectBytes kind y) : x = y := by
  have hno : ∀ n, 0 ∉ kind ++ utf8 " " ++ decimal n := by
    intro n
    rw [List.mem_append, List.mem_append]
    have hspace : 0 ∉ utf8 " " := by
      rw [texts_checked.2.2.2.1]
      decide
    exact not_or.mpr ⟨not_or.mpr ⟨hkind, hspace⟩, nul_not_mem_decimal n⟩
  have hsplit : ∀ z, objectBytes kind z = (kind ++ utf8 " " ++ decimal z.length) ++ 0 :: z := by
    intro z
    rw [objectBytes, List.append_assoc, List.singleton_append]
  rw [hsplit, hsplit] at h
  exact (before_separator (hno _) (hno _) h).2

end Parsing

section Identified

def treeBytes (sha1 : Bytes → Sha1Digest) (t : Tree) : Bytes :=
  objectBytes (utf8 "tree") ((inOrder (t.items sha1)).flatMap Item.encode)

/-- What the digests below a directory are taken of. -/
def Tree.hashedBelow (sha1 : Bytes → Sha1Digest) : Tree → List Bytes
  | .empty => []
  | .blob _ _ content rest => objectBytes (utf8 "blob") content :: rest.hashedBelow sha1
  | .tree _ children rest =>
    treeBytes sha1 children :: (children.hashedBelow sha1 ++ rest.hashedBelow sha1)

def Tree.hashed (sha1 : Bytes → Sha1Digest) (t : Tree) : List Bytes :=
  treeBytes sha1 t :: t.hashedBelow sha1

variable {t u : Tree} {name : Bytes}

lemma hashed_blob {executable : Bool} {content : Bytes}
    (h : (name, .blob executable content) ∈ t.entries) :
    objectBytes (utf8 "blob") content ∈ t.hashed sha1 := by
  apply List.mem_cons_of_mem
  induction t with
  | empty => cases h
  | blob n e c rest ih =>
    rcases List.mem_cons.mp h with heq | h
    · obtain ⟨-, hchild⟩ := Prod.mk.inj heq
      cases hchild
      exact List.mem_cons_self
    · exact List.mem_cons_of_mem _ (ih h)
  | tree n children rest _ ih =>
    rcases List.mem_cons.mp h with heq | h
    · cases (Prod.mk.inj heq).2
    · exact List.mem_cons_of_mem _ (List.mem_append_right _ (ih h))

lemma hashed_tree {children : Tree} (h : (name, .tree children) ∈ t.entries) :
    ∀ bytes ∈ children.hashed sha1, bytes ∈ t.hashed sha1 := by
  intro bytes hbytes
  apply List.mem_cons_of_mem
  induction t with
  | empty => cases h
  | blob n e c rest ih =>
    rcases List.mem_cons.mp h with heq | h
    · cases (Prod.mk.inj heq).2
    · exact List.mem_cons_of_mem _ (ih h)
  | tree n inside rest _ ih =>
    rcases List.mem_cons.mp h with heq | h
    · obtain ⟨-, hchild⟩ := Prod.mk.inj heq
      cases hchild
      exact List.mem_append_left (rest.hashedBelow sha1) hbytes
    · exact List.mem_cons_of_mem _ (List.mem_append_right _ (ih h))

lemma blobMode_inj {a b : Bool}
    (h : (if a then utf8 "100755" else utf8 "100644") = if b then utf8 "100755" else utf8 "100644") :
    a = b := by
  have hne := texts_checked.2.2.1
  cases a with
  | false =>
    cases b with
    | false => rfl
    | true => exact absurd h hne
  | true =>
    cases b with
    | false => exact absurd h.symm hne
    | true => rfl

lemma contents_of_id (ht : t.Valid) (hu : u.Valid)
    (hsha : Set.InjOn sha1 {bytes | bytes ∈ t.hashed sha1 ∨ bytes ∈ u.hashed sha1})
    (hid : t.id sha1 = u.id sha1) : ∀ b ∈ t.nodes, b ∈ u.nodes := by
  induction hn : sizeOf t using Nat.strong_induction_on generalizing t u with
  | h n ih =>
    subst hn
    have hbytes : treeBytes sha1 t = treeBytes sha1 u :=
      hsha (.inl List.mem_cons_self) (.inr List.mem_cons_self) hid
    have hordered : inOrder (t.items sha1) = inOrder (u.items sha1) := by
      apply body_inj _ _ (objectBytes_inj texts_checked.2.2.2.2.1 hbytes)
      · exact fun item hitem => items_readable ht item ((inOrder_perm _).mem_iff.mp hitem)
      · exact fun item hitem => items_readable hu item ((inOrder_perm _).mem_iff.mp hitem)
    intro b hb
    obtain ⟨path, node⟩ := b
    obtain ⟨name, child, hentry, hpath⟩ := mem_nodes.mp hb
    have hitem : child.item sha1 name ∈ u.items sha1 := by
      rw [← (inOrder_perm (u.items sha1)).mem_iff, ← hordered, (inOrder_perm _).mem_iff,
        items_entries]
      exact List.mem_map.mpr ⟨(name, child), hentry, rfl⟩
    rw [items_entries] at hitem
    obtain ⟨⟨name', other⟩, hother, heq⟩ := List.mem_map.mp hitem
    have hname : name' = name := by
      have hnames := congrArg Item.name heq
      cases child <;> cases other <;> exact hnames
    subst hname
    cases child with
    | blob executable content =>
      cases other with
      | tree children => cases congrArg Item.isTree heq
      | blob executable' content' =>
        have hcontent : objectBytes (utf8 "blob") content' = objectBytes (utf8 "blob") content :=
          hsha (.inr (hashed_blob hother)) (.inl (hashed_blob hentry)) (congrArg Item.digest heq)
        have hexecutable : executable' = executable := blobMode_inj (congrArg Item.mode heq)
        rw [objectBytes_inj texts_checked.2.2.2.2.2 hcontent, hexecutable] at hother
        exact mem_nodes.mpr ⟨name', _, hother, hpath⟩
    | tree children =>
      cases other with
      | blob executable content => cases congrArg Item.isTree heq
      | tree children' =>
        obtain ⟨hsize, hvalid⟩ := entries_tree hentry
        have hinjective : Set.InjOn sha1
            {bytes | bytes ∈ children.hashed sha1 ∨ bytes ∈ children'.hashed sha1} := by
          apply hsha.mono
          intro bytes hbytes
          exact hbytes.imp (hashed_tree hentry bytes) (hashed_tree hother bytes)
        have hinside := ih _ hsize (hvalid ht) ((entries_tree hother).2 hu) hinjective
          (congrArg Item.digest heq).symm rfl
        refine mem_nodes.mpr ⟨name', _, hother, ?_⟩
        apply hpath.imp_right
        intro hbelow
        obtain ⟨rest, hrest, hnode⟩ := hbelow
        exact ⟨rest, hrest, hinside _ hnode⟩

end Identified

end Eip0045.GitTree
