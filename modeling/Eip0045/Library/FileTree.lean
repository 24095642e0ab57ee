import Mathlib
import Eip0045.Library.Bytes
import Eip0045.Library.Keyed
import Eip0045.Library.Paths

/-! Finite trees of directories, their entries under slash-joined paths, and shapes: what such a
tree holds at each path, whatever the order in which its directories are read. -/

namespace Eip0045.FileTree

open Bytes

def slash : UInt8 := 47

structure FileName where
  bytes : Bytes
  nonempty : bytes ≠ []
  noSlash : slash ∉ bytes
  ordinary : bytes ≠ utf8 "." ∧ bytes ≠ utf8 ".."
  deriving DecidableEq

@[ext] lemma FileName.ext {a b : FileName} (h : a.bytes = b.bytes) : a = b := by
  cases a
  cases b
  cases h
  rfl

section Join

def join (names : List FileName) : Bytes := [slash].intercalate (names.map FileName.bytes)

lemma splitOn_join {names : List FileName} (h : names ≠ []) :
    (join names).splitOn slash = names.map FileName.bytes := by
  apply List.splitOn_intercalate
  · intro bytes hbytes
    obtain ⟨name, -, rfl⟩ := List.mem_map.mp hbytes
    exact name.noSlash
  · simpa using h

lemma join_concat {parents : List FileName} (h : parents ≠ []) (name : FileName) :
    join (parents ++ [name]) = join parents ++ slash :: name.bytes := by
  rw [join, List.map_append, Paths.intercalate_append (by simpa using h) (by simp)]
  simp [join]

@[simp] lemma join_singleton (name : FileName) : join [name] = name.bytes := by simp [join]

lemma join_ne_nil {names : List FileName} (h : names ≠ []) : join names ≠ [] := by
  intro hnil
  have hsplit := splitOn_join h
  rw [hnil] at hsplit
  obtain ⟨name, rest, rfl⟩ := List.exists_cons_of_ne_nil h
  rw [List.map_cons] at hsplit
  exact name.nonempty (List.cons.inj hsplit).1.symm

lemma join_injective : Function.Injective join := by
  have hnil : ∀ {names : List FileName}, join names = [] → names = [] :=
    fun h => by_contra fun hne => join_ne_nil hne h
  intro p q h
  by_cases hp : p = []
  · subst hp
    exact (hnil h.symm).symm
  · have hq : q ≠ [] := by
      rintro rfl
      exact hp (hnil h)
    have hmap : p.map FileName.bytes = q.map FileName.bytes := by
      rw [← splitOn_join hp, h, splitOn_join hq]
    exact List.map_injective_iff.mpr (fun _ _ => FileName.ext) hmap

lemma rsplitOnce_join {parents : List FileName} {name : FileName} :
    Paths.rsplitOnce slash (join (parents ++ [name])) =
      if parents = [] then none else some (join parents, name.bytes) := by
  split_ifs with h
  · subst h
    rw [List.nil_append, join_singleton, Paths.rsplitOnce_eq_none]
    exact name.noSlash
  · exact Paths.rsplitOnce_eq_some.mpr ⟨join_concat h name, name.noSlash⟩

lemma mem_join {names : List FileName} {name : FileName} {c : UInt8} (hname : name ∈ names)
    (hc : c ∈ name.bytes) : c ∈ join names := by
  induction names with
  | nil => exact absurd hname List.not_mem_nil
  | cons first names ih =>
    by_cases hnames : names = []
    · subst hnames
      rw [List.mem_singleton.mp hname] at hc
      rwa [join_singleton]
    · have hjoin : join (first :: names) = first.bytes ++ slash :: join names := by
        rw [← List.singleton_append, join, List.map_append,
          Paths.intercalate_append (by simp) (by simpa using hnames)]
        simp [join]
      rw [hjoin, List.mem_append, List.mem_cons]
      cases hname with
      | head => exact .inl hc
      | tail _ hname => exact .inr (.inr (ih hname))

lemma exists_join {path : Bytes} (h : ∀ c ∈ path.splitOn slash, c ≠ [] ∧ c ≠ utf8 "." ∧ c ≠ utf8 "..") :
    ∃ names, names ≠ [] ∧ join names = path := by
  have hno : ∀ c ∈ path.splitOn slash, slash ∉ c := fun c hc => Paths.not_mem_of_splitOn hc
  obtain ⟨names, hnames⟩ : ∃ names : List FileName, names.map FileName.bytes = path.splitOn slash := by
    generalize path.splitOn slash = components at h hno
    induction components with
    | nil => exact ⟨[], rfl⟩
    | cons c components ih =>
      obtain ⟨names, hnames⟩ := ih (fun d hd => h d (List.mem_cons_of_mem c hd))
        fun d hd => hno d (List.mem_cons_of_mem c hd)
      have hc := h c List.mem_cons_self
      exact ⟨⟨c, hc.1, hno c List.mem_cons_self, hc.2⟩ :: names, by rw [List.map_cons, hnames]⟩
  refine ⟨names, ?_, ?_⟩
  · rintro rfl
    exact List.splitOn_ne_nil _ _ hnames.symm
  · rw [join, hnames, List.intercalate_splitOn]

end Join

/-- The entries of one directory, in the order in which it is read. -/
inductive Directory (Leaf : Type)
  | empty
  | leaf (name : FileName) (contents : Leaf) (rest : Directory Leaf)
  | directory (name : FileName) (children rest : Directory Leaf)

inductive Node (Leaf : Type)
  | directory
  | leaf (contents : Leaf)
  deriving DecidableEq

def Node.map {Leaf Leaf' : Type} (f : Leaf → Leaf') : Node Leaf → Node Leaf'
  | .directory => .directory
  | .leaf contents => .leaf (f contents)

variable {Leaf : Type}

namespace Directory

/-- Every entry below a directory, under its names from the root on. -/
def nodes (parents : List FileName) : Directory Leaf → List (List FileName × Node Leaf)
  | .empty => []
  | .leaf name contents rest => (parents ++ [name], .leaf contents) :: rest.nodes parents
  | .directory name children rest =>
    (parents ++ [name], .directory) :: (children.nodes (parents ++ [name]) ++ rest.nodes parents)

lemma nodes_closed {parents : List FileName} {d : Directory Leaf} {b : List FileName × Node Leaf}
    (h : b ∈ d.nodes parents) : ∃ above name, b.1 = above ++ [name] ∧
      (above = parents ∨ (above, .directory) ∈ d.nodes parents) := by
  induction d generalizing parents with
  | empty => exact absurd h List.not_mem_nil
  | leaf name contents rest ih =>
    cases List.mem_cons.mp h with
    | inl h => exact ⟨parents, name, by rw [h], .inl rfl⟩
    | inr h =>
      obtain ⟨above, name', hb, habove⟩ := ih h
      exact ⟨above, name', hb, habove.imp_right fun h => List.mem_cons_of_mem _ h⟩
  | directory name children rest ihc ihr =>
    rw [nodes, List.mem_cons, List.mem_append] at h
    simp only [nodes, List.mem_cons, List.mem_append]
    obtain h | h | h := h
    · exact ⟨parents, name, by rw [h], .inl rfl⟩
    · obtain ⟨above, name', hb, habove | habove⟩ := ihc h
      · exact ⟨above, name', hb, .inr (.inl (by rw [habove]))⟩
      · exact ⟨above, name', hb, .inr (.inr (.inl habove))⟩
    · obtain ⟨above, name', hb, habove | habove⟩ := ihr h
      · exact ⟨above, name', hb, .inl habove⟩
      · exact ⟨above, name', hb, .inr (.inr (.inr habove))⟩

lemma nodes_ne_nil {d : Directory Leaf} {b : List FileName × Node Leaf} (h : b ∈ d.nodes []) :
    b.1 ≠ [] := by
  obtain ⟨above, name, hb, -⟩ := nodes_closed h
  simp [hb]

end Directory

end Eip0045.FileTree

/-- A directory with all that lies below it, no path twice. -/
structure Eip0045.FileTree (Leaf : Type) where
  root : FileTree.Directory Leaf
  distinct : ((root.nodes []).map Prod.fst).Nodup

namespace Eip0045.FileTree

variable {Leaf : Type}

def nodes (t : FileTree Leaf) : List (List FileName × Node Leaf) := t.root.nodes []

def entry (t : FileTree Leaf) (names : List FileName) : Option (Node Leaf) :=
  if names = [] then some .directory else t.nodes.lookup names

lemma entry_eq_some {t : FileTree Leaf} {names : List FileName} {node : Node Leaf}
    (h : names ≠ []) : t.entry names = some node ↔ (names, node) ∈ t.nodes := by
  rw [entry, if_neg h]
  exact ⟨Keyed.mem_of_lookup, Keyed.lookup_of_mem t.distinct⟩

end Eip0045.FileTree

/-- What a tree holds at each path: a finite set of entries, each in a directory. -/
structure Eip0045.TreeShape (Leaf : Type) where
  entry : List FileTree.FileName → Option (FileTree.Node Leaf)
  root : entry [] = some .directory
  closed : ∀ parents name, entry (parents ++ [name]) ≠ none → entry parents = some .directory
  finite : {names | entry names ≠ none}.Finite

namespace Eip0045.TreeShape

open FileTree

variable {Leaf : Type}

@[ext] lemma ext {s t : TreeShape Leaf} (h : ∀ names, s.entry names = t.entry names) : s = t := by
  cases s
  cases t
  congr
  exact funext h

end Eip0045.TreeShape
