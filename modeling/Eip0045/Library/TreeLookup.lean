import Eip0045.Library.FileTree

/-! The entry of a tree under a list of names, and the part of the tree that lies at and below it. -/

namespace Eip0045.FileTree

variable {Leaf : Type}

/-- What a name stands for: a directory with its entries, or a leaf. -/
inductive Located (Leaf : Type)
  | directory (children : Directory Leaf)
  | leaf (contents : Leaf)

/-- The part of a tree at and below what is located. -/
def Located.nodes (names : List FileName) : Located Leaf → List (List FileName × Node Leaf)
  | .directory children => (names, .directory) :: children.nodes names
  | .leaf contents => [(names, .leaf contents)]

def nodesOf (names : List FileName) : Option (Located Leaf) → List (List FileName × Node Leaf)
  | some located => located.nodes names
  | none => []

namespace Directory

def child (name : FileName) : Directory Leaf → Option (Located Leaf)
  | .empty => none
  | .leaf other contents rest => if other = name then some (.leaf contents) else rest.child name
  | .directory other children rest => if other = name then some (.directory children) else rest.child name

/-- The entry under a list of names; nothing lies below a leaf. -/
def locate : Directory Leaf → List FileName → Option (Located Leaf)
  | d, [] => some (.directory d)
  | d, name :: names =>
    match d.child name with
    | some (.directory children) => children.locate names
    | some (.leaf contents) => if names = [] then some (.leaf contents) else none
    | none => none

lemma nodes_below {parents : List FileName} {d : Directory Leaf} {b : List FileName × Node Leaf}
    (h : b ∈ d.nodes parents) : ∃ name rest, b.1 = parents ++ name :: rest := by
  induction d generalizing parents with
  | empty => exact absurd h List.not_mem_nil
  | leaf name contents rest ih =>
    cases List.mem_cons.mp h with
    | inl h => exact ⟨name, [], by rw [h]⟩
    | inr h => exact ih h
  | directory name children rest ihc ihr =>
    rw [nodes, List.mem_cons, List.mem_append] at h
    obtain h | h | h := h
    · exact ⟨name, [], by rw [h]⟩
    · obtain ⟨name', rest', hb⟩ := ihc h
      exact ⟨name, name' :: rest', by rw [hb, List.append_assoc]; rfl⟩
    · exact ihr h

lemma exists_above {parents : List FileName} {name : FileName} {d : Directory Leaf}
    {b : List FileName × Node Leaf} (h : b ∈ d.nodes parents) (hbelow : parents ++ [name] <+: b.1) :
    parents ++ [name] ∈ (d.nodes parents).map Prod.fst := by
  induction d with
  | empty => exact absurd h List.not_mem_nil
  | leaf other contents rest ih =>
    rw [nodes, List.map_cons, List.mem_cons]
    cases List.mem_cons.mp h with
    | inl h =>
      subst h
      exact .inl (List.IsPrefix.eq_of_length hbelow (by simp))
    | inr h => exact .inr (ih h)
  | directory other children rest _ ihr =>
    rw [nodes, List.map_cons, List.mem_cons, List.map_append, List.mem_append]
    rw [nodes, List.mem_cons, List.mem_append] at h
    obtain h | h | h := h
    · subst h
      exact .inl (List.IsPrefix.eq_of_length hbelow (by simp))
    · obtain ⟨name', rest', hb⟩ := nodes_below h
      left
      rw [hb, List.append_assoc, List.prefix_append_right_inj] at hbelow
      rw [List.append_cancel_left_eq, (List.cons_prefix_cons.mp hbelow).1]
    · exact .inr (.inr (ihr h))

lemma filter_child {parents : List FileName} {name : FileName} {d : Directory Leaf}
    (hdistinct : ((d.nodes parents).map Prod.fst).Nodup) :
    (d.nodes parents).filter (fun b => parents ++ [name] <+: b.1) =
      nodesOf (parents ++ [name]) (d.child name) := by
  -- of the entries behind the first one with the name none lies below the name
  have hnone : ∀ rest : Directory Leaf, parents ++ [name] ∉ (rest.nodes parents).map Prod.fst →
      (rest.nodes parents).filter (fun b => parents ++ [name] <+: b.1) = [] := by
    intro rest hrest
    rw [List.filter_eq_nil_iff]
    intro b hb hprefix
    exact hrest (exists_above hb (of_decide_eq_true hprefix))
  have hall : ∀ children : Directory Leaf, (children.nodes (parents ++ [name])).filter
      (fun b => parents ++ [name] <+: b.1) = children.nodes (parents ++ [name]) := by
    intro children
    rw [List.filter_eq_self]
    intro b hb
    obtain ⟨name', rest', heq⟩ := nodes_below hb
    rw [heq]
    exact decide_eq_true (List.prefix_append _ _)
  induction d with
  | empty => rfl
  | leaf other contents rest ih =>
    rw [nodes, List.map_cons, List.nodup_cons] at hdistinct
    rw [nodes, List.filter_cons, child]
    by_cases hname : other = name
    · subst hname
      rw [if_pos rfl, if_pos (decide_eq_true List.prefix_rfl), hnone rest hdistinct.1]
      rfl
    · have hprefix : ¬parents ++ [name] <+: parents ++ [other] := by
        intro h
        have heq := h.eq_of_length (by simp)
        rw [List.append_cancel_left_eq] at heq
        exact hname (List.cons.inj heq).1.symm
      rw [if_neg hname, if_neg (by simpa using hprefix), ih hdistinct.2]
  | directory other children rest _ ihr =>
    rw [nodes, List.map_cons, List.map_append, List.nodup_cons, List.nodup_append, List.mem_append] at hdistinct
    obtain ⟨hfirst, -, hrest, -⟩ := hdistinct
    rw [nodes, List.filter_cons, List.filter_append, child]
    by_cases hname : other = name
    · subst hname
      rw [if_pos rfl, if_pos (decide_eq_true List.prefix_rfl), hall,
        hnone rest fun h => hfirst (.inr h), List.append_nil]
      rfl
    · have hprefix : ∀ deeper, ¬parents ++ [name] <+: parents ++ other :: deeper := by
        intro deeper h
        rw [List.prefix_append_right_inj] at h
        exact hname (List.cons_prefix_cons.mp h).1.symm
      have hchildren : (children.nodes (parents ++ [other])).filter (fun b => parents ++ [name] <+: b.1) = [] := by
        rw [List.filter_eq_nil_iff]
        intro b hb h
        obtain ⟨name', rest', heq⟩ := nodes_below hb
        rw [heq, List.append_assoc] at h
        exact hprefix _ (of_decide_eq_true h)
      rw [if_neg hname, if_neg (by simpa using hprefix []), hchildren, List.nil_append, ihr hrest]

lemma child_directory_distinct {parents : List FileName} {name : FileName} {d children : Directory Leaf}
    (hdistinct : ((d.nodes parents).map Prod.fst).Nodup) (h : d.child name = some (.directory children)) :
    ((children.nodes (parents ++ [name])).map Prod.fst).Nodup := by
  have hfilter : (d.nodes parents).filter (fun b => parents ++ [name] <+: b.1) =
      nodesOf (parents ++ [name]) (d.child name) := filter_child hdistinct
  rw [h, nodesOf, Located.nodes] at hfilter
  have hsublist : ((parents ++ [name], Node.directory) :: children.nodes (parents ++ [name])).Sublist
      (d.nodes parents) := hfilter ▸ List.filter_sublist
  exact ((hsublist.map Prod.fst).nodup hdistinct).of_cons

lemma filter_locate {parents names : List FileName} {d : Directory Leaf} (hnames : names ≠ [])
    (hdistinct : ((d.nodes parents).map Prod.fst).Nodup) :
    (d.nodes parents).filter (fun b => parents ++ names <+: b.1) =
      nodesOf (parents ++ names) (d.locate names) := by
  induction names generalizing parents d with
  | nil => exact absurd rfl hnames
  | cons name names ih =>
    have hfilter : (d.nodes parents).filter (fun b => parents ++ [name] <+: b.1) =
        nodesOf (parents ++ [name]) (d.child name) := filter_child hdistinct
    have hsplit : (d.nodes parents).filter (fun b => parents ++ name :: names <+: b.1) =
        (nodesOf (parents ++ [name]) (d.child name)).filter (fun b => parents ++ name :: names <+: b.1) := by
      rw [← hfilter, List.filter_filter]
      apply List.filter_congr
      intro b _
      rw [Bool.eq_iff_iff, Bool.and_eq_true, decide_eq_true_eq, decide_eq_true_eq]
      have hshort : parents ++ [name] <+: parents ++ name :: names := ⟨names, by simp⟩
      exact ⟨fun h => ⟨h, hshort.trans h⟩, fun h => h.1⟩
    rw [hsplit, locate]
    by_cases hrest : names = []
    · subst hrest
      have hself : ∀ b ∈ nodesOf (parents ++ [name]) (d.child name), parents ++ [name] <+: b.1 := by
        intro b hb
        rw [← hfilter] at hb
        exact of_decide_eq_true (List.mem_filter.mp hb).2
      rw [List.filter_eq_self.mpr fun b hb => decide_eq_true (hself b hb)]
      cases hchild : d.child name with
      | none => rfl
      | some located =>
        cases located with
        | directory children => rfl
        | leaf contents => rfl
    · cases hchild : d.child name with
      | none => rfl
      | some located =>
        cases located with
        | directory children =>
          have hdeeper := ih hrest (child_directory_distinct hdistinct hchild)
          rw [List.append_assoc, List.singleton_append] at hdeeper
          have hshort : ¬parents ++ name :: names <+: parents ++ [name] := by
            intro h
            have hlength := h.length_le
            simp only [List.length_append, List.length_cons, List.length_nil] at hlength
            exact hrest (List.length_eq_zero_iff.mp (by omega))
          rw [nodesOf, Located.nodes, List.filter_cons, if_neg (by simpa using hshort), hdeeper]
        | leaf contents =>
          have hshort : ¬parents ++ name :: names <+: parents ++ [name] := by
            intro h
            have hlength := h.length_le
            simp only [List.length_append, List.length_cons, List.length_nil] at hlength
            exact hrest (List.length_eq_zero_iff.mp (by omega))
          simp only [nodesOf, Located.nodes, if_neg hrest]
          rw [List.filter_cons, if_neg (by simpa using hshort), List.filter_nil]

end Directory

lemma filter_locate (t : FileTree Leaf) {names : List FileName} (hnames : names ≠ []) :
    t.nodes.filter (fun b => names <+: b.1) = nodesOf names (t.root.locate names) :=
  @Directory.filter_locate _ [] names t.root hnames t.distinct

lemma mem_nodes (t : FileTree Leaf) {names : List FileName} (hnames : names ≠ []) {b : List FileName × Node Leaf}
    (h : names <+: b.1) : b ∈ t.nodes ↔ b ∈ nodesOf names (t.root.locate names) := by
  rw [← filter_locate t hnames, List.mem_filter]
  exact ⟨fun hb => ⟨hb, decide_eq_true h⟩, fun hb => hb.1⟩

lemma mem_nodesOf_self {names : List FileName} {located : Option (Located Leaf)} {node : Node Leaf} :
    (names, node) ∈ nodesOf names located ↔
      (∃ contents, located = some (.leaf contents) ∧ node = .leaf contents) ∨
        ∃ children, located = some (.directory children) ∧ node = .directory := by
  cases located with
  | none => simp [nodesOf]
  | some located =>
    cases located with
    | leaf contents => simp [nodesOf, Located.nodes]
    | directory children =>
      have hbelow : (names, node) ∉ children.nodes names := by
        intro h
        obtain ⟨name, rest, heq⟩ := Directory.nodes_below h
        simp at heq
      simp [nodesOf, Located.nodes, hbelow]

lemma locate_leaf (t : FileTree Leaf) {names : List FileName} (hnames : names ≠ []) {contents : Leaf} :
    t.root.locate names = some (.leaf contents) ↔ (names, .leaf contents) ∈ t.nodes := by
  rw [mem_nodes t hnames List.prefix_rfl, mem_nodesOf_self]
  constructor
  · exact fun h => .inl ⟨contents, h, rfl⟩
  · rintro (⟨other, h, heq⟩ | ⟨children, -, heq⟩)
    · cases heq
      exact h
    · cases heq

lemma locate_directory (t : FileTree Leaf) {names : List FileName} (hnames : names ≠ []) :
    (∃ children, t.root.locate names = some (.directory children)) ↔ (names, .directory) ∈ t.nodes := by
  rw [mem_nodes t hnames List.prefix_rfl, mem_nodesOf_self]
  constructor
  · rintro ⟨children, h⟩
    exact .inr ⟨children, h, rfl⟩
  · rintro (⟨contents, -, heq⟩ | ⟨children, h, -⟩)
    · cases heq
    · exact ⟨children, h⟩

lemma mem_children (t : FileTree Leaf) {names : List FileName} (hnames : names ≠ []) {children : Directory Leaf}
    (h : t.root.locate names = some (.directory children)) {b : List FileName × Node Leaf} :
    b ∈ children.nodes names ↔ b ∈ t.nodes ∧ names <+: b.1 ∧ names ≠ b.1 := by
  constructor
  · intro hb
    obtain ⟨name, rest, heq⟩ := Directory.nodes_below hb
    have hprefix : names <+: b.1 := heq ▸ List.prefix_append _ _
    refine ⟨?_, hprefix, by rw [heq]; simp⟩
    rw [mem_nodes t hnames hprefix, h]
    exact List.mem_cons_of_mem _ hb
  · rintro ⟨hb, hprefix, hne⟩
    rw [mem_nodes t hnames hprefix, h] at hb
    obtain hb | hb := List.mem_cons.mp hb
    · exact absurd (congrArg Prod.fst hb).symm hne
    · exact hb

end Eip0045.FileTree
