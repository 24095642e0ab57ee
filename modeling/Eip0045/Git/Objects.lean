import Eip0045.Git.Checkout
import Eip0045.Library.Lexicographic

/-! Git's tree objects, and the object ID that the reconstruction returns. -/

namespace Eip0045.GitTree

open Bytes Checked CanonicalJson Lexicographic

variable {sha1 : Bytes → Sha1Digest}

section Trees

/-- The entries of a directory as Git sees it. -/
inductive Tree
  | empty
  | blob (name : Bytes) (executable : Bool) (content : Bytes) (rest : Tree)
  | tree (name : Bytes) (children rest : Tree)

structure Item where
  name : Bytes
  isTree : Bool
  mode : Bytes
  digest : Sha1Digest
  deriving DecidableEq

/-- A directory is compared as if its name ended in a slash. -/
def Item.order (item : Item) : Bytes := if item.isTree then item.name ++ [slash] else item.name

def Item.encode (item : Item) : Bytes :=
  item.mode ++ utf8 " " ++ item.name ++ [0] ++ item.digest.val

variable (sha1)

def objectId (kind body : Bytes) : Sha1Digest :=
  sha1 (kind ++ utf8 " " ++ decimal body.length ++ [0] ++ body)

def treeObject (ordered : List Item) : Sha1Digest :=
  objectId sha1 (utf8 "tree") (ordered.flatMap Item.encode)

def inOrder (items : List Item) : List Item :=
  items.mergeSort fun left right => left.order ≤ right.order

def blobItem (name : Bytes) (executable : Bool) (content : Bytes) : Item where
  name
  isTree := false
  mode := if executable then utf8 "100755" else utf8 "100644"
  digest := objectId sha1 (utf8 "blob") content

def treeItem (name : Bytes) (digest : Sha1Digest) : Item where
  name
  isTree := true
  mode := utf8 "40000"
  digest

def Tree.items : Tree → List Item
  | .empty => []
  | .blob name executable content rest => blobItem sha1 name executable content :: rest.items
  | .tree name children rest =>
    treeItem name (treeObject sha1 (inOrder children.items)) :: rest.items

def Tree.id (t : Tree) : Sha1Digest := treeObject sha1 (inOrder (t.items sha1))

variable {sha1}

def Tree.names : Tree → List Bytes
  | .empty => []
  | .blob name _ _ rest => name :: rest.names
  | .tree name _ rest => name :: rest.names

def Tree.Distinct : Tree → Prop
  | .empty => True
  | .blob name _ _ rest => name ∉ rest.names ∧ rest.Distinct
  | .tree name children rest => name ∉ rest.names ∧ children.Distinct ∧ rest.Distinct

/-- A name has bytes, none of them NUL or a slash. -/
structure NameOk (name : Bytes) : Prop where
  nonempty : name ≠ []
  noNul : 0 ∉ name
  noSlash : slash ∉ name

def Tree.Named : Tree → Prop
  | .empty => True
  | .blob name _ _ rest => NameOk name ∧ rest.Named
  | .tree name children rest => NameOk name ∧ children.Named ∧ rest.Named

lemma items_names (t : Tree) : (t.items sha1).map Item.name = t.names := by
  induction t with
  | empty => rfl
  | blob name executable content rest ih => exact congrArg (name :: ·) ih
  | tree name children rest _ ih => exact congrArg (name :: ·) ih

lemma Tree.Distinct.nodup {t : Tree} (h : t.Distinct) : t.names.Nodup := by
  induction t with
  | empty => exact List.nodup_nil
  | blob name executable content rest ih => exact List.nodup_cons.mpr ⟨h.1, ih h.2⟩
  | tree name children rest _ ih => exact List.nodup_cons.mpr ⟨h.1, ih h.2.2⟩

lemma Tree.Named.name {t : Tree} (h : t.Named) : ∀ name ∈ t.names, NameOk name := by
  induction t with
  | empty => exact fun _ hname => (by cases hname)
  | blob name executable content rest ih => exact List.forall_mem_cons.mpr ⟨h.1, ih h.2⟩
  | tree name children rest _ ih => exact List.forall_mem_cons.mpr ⟨h.1, ih h.2.2⟩

end Trees

section Order

structure Sound (items : List Item) : Prop where
  named : ∀ item ∈ items, NameOk item.name
  nodup : (items.map Item.name).Nodup

lemma Tree.sound (sha1 : Bytes → Sha1Digest) {t : Tree} (hn : t.Named) (hd : t.Distinct) :
    Sound (t.items sha1) := by
  have hnames : (t.items sha1).map Item.name = t.names := items_names t
  refine ⟨?_, hnames ▸ hd.nodup⟩
  intro item hitem
  apply hn.name
  rw [← hnames]
  exact List.mem_map_of_mem hitem

lemma Item.order_eq (item : Item) : ∃ t : Bytes, item.order = item.name ++ t ∧
    (t = [] ∨ t = [slash]) := by
  rw [Item.order]
  cases item.isTree with
  | false => exact ⟨[], by simp, .inl rfl⟩
  | true => exact ⟨[slash], by simp, .inr rfl⟩

lemma order_injective {items : List Item} (h : Sound items) {a b : Item} (ha : a ∈ items)
    (hb : b ∈ items) (heq : a.order = b.order) : a.name = b.name := by
  have hnames := congrArg (List.takeWhile fun c => c ≠ slash) heq
  have htake : ∀ item ∈ items, item.order.takeWhile (fun c => c ≠ slash) = item.name := by
    intro item hitem
    have hslash := (h.named item hitem).noSlash
    have hall : ∀ c ∈ item.name, decide (c ≠ slash) = true := by
      intro c hc
      exact decide_eq_true fun hcs => hslash (hcs ▸ hc)
    obtain ⟨t, horder, rfl | rfl⟩ := item.order_eq
    · rw [horder, List.append_nil, List.takeWhile_eq_self_iff.mpr hall]
    · rw [horder, List.takeWhile_append_of_pos hall]
      simp
  rwa [htake a ha, htake b hb] at hnames

lemma order_nodup {items : List Item} (h : Sound items) : (items.map Item.order).Nodup := by
  have hnodup := List.pairwise_map.mp h.nodup
  rw [List.nodup_iff_pairwise_ne, List.pairwise_map]
  refine hnodup.imp_of_mem ?_
  intro a b ha hb hne heq
  exact hne (order_injective h ha hb heq)

def codeEntry (item : Item) : GitTreeEntry :=
  entryFor item.name item.mode item.digest item.isTree

lemma no_nul_order {item : Item} (h : NameOk item.name) : 0 ∉ item.order := by
  obtain ⟨t, horder, rfl | rfl⟩ := item.order_eq
  · rw [horder, List.append_nil]
    exact h.noNul
  · rw [horder, List.mem_append, List.mem_singleton]
    exact not_or.mpr ⟨h.noNul, by decide⟩

lemma sortKey_eq (item : Item) :
    (codeEntry item).sortKey = item.order ++ if item.isTree then [] else [0] := by
  change item.name ++ [if item.isTree then slash else 0] = _
  rw [Item.order]
  cases item.isTree <;> simp

lemma sortKey_lt {a b : Item} (hb : NameOk b.name) (h : a.order < b.order) :
    (codeEntry a).sortKey < (codeEntry b).sortKey := by
  rw [sortKey_eq, sortKey_eq]
  rcases lt_cases h with ⟨c, rest, hextends⟩ | hdiffers
  · have hnul := no_nul_order hb
    rw [hextends] at hnul ⊢
    have hpos : 0 < c := by
      apply UInt8.pos_iff_ne_zero.mpr
      rintro rfl
      exact hnul (by simp)
    rw [List.append_assoc, append_lt_append_left]
    cases a.isTree with
    | true => exact List.nil_lt_cons _ _
    | false => exact List.cons_lt_cons_iff.mpr (.inl hpos)
  · exact append_lt_append h hdiffers _ _

lemma inOrder_perm (items : List Item) : (inOrder items).Perm items := List.mergeSort_perm items _

lemma inOrder_increasing {items : List Item} (h : Sound items) :
    (inOrder items).Pairwise fun a b => a.order < b.order :=
  pairwise_sort Item.order (order_nodup h)

lemma entries_increasing {items : List Item} (h : Sound items) :
    ((inOrder items).map codeEntry).Pairwise fun a b => a.sortKey < b.sortKey := by
  rw [List.pairwise_map]
  refine (inOrder_increasing h).imp_of_mem ?_
  intro a b _ hb hlt
  exact sortKey_lt (h.named b ((inOrder_perm items).mem_iff.mp hb)) hlt

lemma sortKey_nodup {items : List Item} (h : Sound items) :
    ((items.map codeEntry).map GitTreeEntry.sortKey).Nodup := by
  have hperm := ((inOrder_perm items).map codeEntry).map GitTreeEntry.sortKey
  apply hperm.nodup_iff.mp
  rw [List.nodup_iff_pairwise_ne, List.pairwise_map]
  refine (entries_increasing h).imp ?_
  intro a b hlt heq
  rw [heq] at hlt
  exact Std.lt_irrefl hlt

lemma sort_entries {items : List Item} (h : Sound items) :
    ((items.map codeEntry).mergeSort fun left right => left.sortKey ≤ right.sortKey) =
      (inOrder items).map codeEntry := by
  have hperm := (List.mergeSort_perm (items.map codeEntry)
    fun left right => decide (left.sortKey ≤ right.sortKey)).trans
      ((inOrder_perm items).map codeEntry).symm
  exact eq_of_increasing hperm (pairwise_sort GitTreeEntry.sortKey (sortKey_nodup h))
    (entries_increasing h)

lemma hashEntries_items {items : List Item} (h : Sound items) :
    hashEntries sha1 (items.map codeEntry) = treeObject sha1 (inOrder items) := by
  have hbytes : ((inOrder items).map codeEntry).flatMap entryBytes =
      (inOrder items).flatMap Item.encode := List.flatMap_map _ _ _
  rw [hashEntries, sort_entries h, hbytes]
  rfl

end Order

section Blobs

lemma readBlob_ok {unread : Bytes} {observed : ℕ} {hashed : Bytes}
    (h : observed + unread.length < 2 ^ 64) :
    readBlob unread observed hashed = .ok (observed + unread.length, hashed ++ unread) := by
  induction hn : unread.length using Nat.strong_induction_on generalizing unread observed hashed with
  | h n ih =>
    rw [readBlob]
    split
    case isTrue hempty =>
      subst hempty
      rw [List.length_nil] at hn
      rw [List.append_nil, ← hn]
      rfl
    case isFalse hunread =>
      have hpos := List.length_pos_iff.mpr hunread
      have hbuffer : 0 < readBufferLength := by decide
      have hsplit : (unread.take readBufferLength).length +
          (unread.drop readBufferLength).length = unread.length := by
        rw [← List.length_append, List.take_append_drop]
      have hread : checkedAdd observed (unread.take readBufferLength).length =
          some (observed + (unread.take readBufferLength).length) :=
        checkedAdd_eq_some.mpr ⟨by omega, rfl⟩
      have hshorter : (unread.drop readBufferLength).length < n := by
        rw [List.length_drop]
        omega
      have hrest : readBlob (unread.drop readBufferLength)
          (observed + (unread.take readBufferLength).length)
          (hashed ++ unread.take readBufferLength) = .ok
            (observed + (unread.take readBufferLength).length +
              (unread.drop readBufferLength).length,
            hashed ++ unread.take readBufferLength ++ unread.drop readBufferLength) :=
        ih _ hshorter (by omega) rfl
      dsimp only
      rw [hread, context, ok_bind, hrest, List.append_assoc, List.take_append_drop,
        Nat.add_assoc, hsplit, hn]

lemma hashGitBlob_ok (file : RegularFile) :
    hashGitBlob sha1 file = .ok (objectId sha1 (utf8 "blob") file.content) := by
  have hread : readBlob file.content 0 (header (utf8 "blob") file.content.length) = .ok
      (0 + file.content.length, header (utf8 "blob") file.content.length ++ file.content) :=
    readBlob_ok (by simpa using file.length_lt)
  rw [hashGitBlob, hread, ok_bind]
  simp only [Nat.zero_add, ensure_pass, ok_bind]
  rfl

end Blobs

end Eip0045.GitTree
