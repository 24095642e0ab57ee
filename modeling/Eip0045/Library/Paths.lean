import Mathlib

/-! Words cut at a separator: the directory part of a path, and what lies below it. -/

namespace Eip0045.Paths

variable {α : Type} {sep : α}

/-- `rsplit_once`: the parts before and after the last separator. -/
def rsplitOnce [DecidableEq α] (sep : α) : List α → Option (List α × List α)
  | [] => none
  | c :: cs =>
    match rsplitOnce sep cs with
    | some (parent, name) => some (c :: parent, name)
    | none => if c = sep then some ([], cs) else none

lemma rsplitOnce_eq_none [DecidableEq α] {p : List α} : rsplitOnce sep p = none ↔ sep ∉ p := by
  induction p with
  | nil => simp [rsplitOnce]
  | cons c cs ih =>
    rw [rsplitOnce, List.mem_cons, not_or, ← ih]
    cases h : rsplitOnce sep cs with
    | none => by_cases hc : c = sep <;> simp [hc, Ne.symm]
    | some split => simp

lemma rsplitOnce_eq_some [DecidableEq α] {p parent name : List α} :
    rsplitOnce sep p = some (parent, name) ↔ p = parent ++ sep :: name ∧ sep ∉ name := by
  induction p generalizing parent with
  | nil => simp [rsplitOnce]
  | cons c cs ih =>
    rw [rsplitOnce]
    cases h : rsplitOnce sep cs with
    | none =>
      have hcs := rsplitOnce_eq_none.mp h
      by_cases hc : c = sep
      · cases parent with
        | nil => simp only [hc, if_true, Option.some.injEq, Prod.mk.injEq, true_and,
            List.nil_append, List.cons.injEq]; grind
        | cons d parent => simp only [hc, if_true]; grind
      · cases parent with
        | nil => simp [hc]
        | cons d parent => simp only [hc, if_false]; grind
    | some split =>
      obtain ⟨parent', name'⟩ := split
      rw [h] at ih
      cases parent with
      | nil =>
        have hs : sep ∈ cs := by
          by_contra hs
          rw [rsplitOnce_eq_none.mpr hs] at h
          cases h
        simp only [Option.some.injEq, Prod.mk.injEq, List.nil_append, List.cons.injEq]
        grind
      | cons d parent =>
        have := @ih parent
        simp only [Option.some.injEq, Prod.mk.injEq, List.cons_append, List.cons.injEq] at this ⊢
        grind

/-- `p` lies strictly below `subject`. -/
def Below (sep : α) (subject p : List α) : Prop := subject ++ [sep] <+: p

instance [DecidableEq α] (subject p : List α) : Decidable (Below sep subject p) :=
  inferInstanceAs (Decidable (_ <+: _))

lemma Below.length_lt {subject p : List α} (h : Below sep subject p) :
    subject.length < p.length := by
  have := h.length_le
  rw [List.length_append, List.length_singleton] at this
  omega

lemma Below.irrefl (p : List α) : ¬Below sep p p := fun h => h.length_lt.ne rfl

lemma Below.trans {p q r : List α} (hpq : Below sep p q) (hqr : Below sep q r) : Below sep p r :=
  List.IsPrefix.trans hpq ((List.prefix_append q [sep]).trans hqr)

lemma below_of_rsplitOnce [DecidableEq α] {p parent name : List α} (h : rsplitOnce sep p = some (parent, name)) :
    Below sep parent p := by
  rw [(rsplitOnce_eq_some.mp h).1]
  exact ⟨name, by simp⟩

lemma Below.parent [DecidableEq α] {subject p parent name : List α} (hb : Below sep subject p)
    (h : rsplitOnce sep p = some (parent, name)) : parent = subject ∨ Below sep subject parent := by
  obtain ⟨rfl, hname⟩ := rsplitOnce_eq_some.mp h
  obtain ⟨t, ht⟩ := hb
  rw [List.append_assoc, List.append_eq_append_iff] at ht
  obtain ⟨as, hparent, hrest⟩ | ⟨bs, hsubject, hrest⟩ := ht
  · cases as with
    | nil => exact .inl (by simpa using hparent)
    | cons a as =>
      right
      rw [List.singleton_append, List.cons_append, List.cons.injEq] at hrest
      exact ⟨as, by rw [hparent, ← hrest.1]; simp⟩
  · cases bs with
    | nil => exact .inl (by simpa using hsubject.symm)
    | cons b bs =>
      rw [List.cons_append, List.cons.injEq] at hrest
      exact absurd (hrest.2 ▸ by simp) hname

lemma Below.rsplitOnce [DecidableEq α] {subject p : List α} (hb : Below sep subject p) :
    ∃ parent name, rsplitOnce sep p = some (parent, name) := by
  cases h : Paths.rsplitOnce sep p with
  | none =>
    have hp := rsplitOnce_eq_none.mp h
    exact absurd (hb.subset (by simp)) hp
  | some split => exact ⟨split.1, split.2, rfl⟩

section Components

variable [BEq α] [LawfulBEq α]

lemma splitOn_below {p q : List α} (h : Below sep p q) :
    ∃ rest, rest ≠ [] ∧ q.splitOn sep = p.splitOn sep ++ rest := by
  obtain ⟨suffix, rfl⟩ := h
  refine ⟨suffix.splitOn sep, List.splitOn_ne_nil _ _, ?_⟩
  rw [List.append_assoc, List.singleton_append, List.splitOn_append_cons_self]

omit [BEq α] [LawfulBEq α] in
lemma intercalate_append {xs ys : List (List α)} (hx : xs ≠ []) (hy : ys ≠ []) :
    [sep].intercalate (xs ++ ys) = [sep].intercalate xs ++ sep :: [sep].intercalate ys := by
  induction xs with
  | nil => exact absurd rfl hx
  | cons x xs ih =>
    cases xs with
    | nil => rw [List.singleton_append, List.intercalate_cons_of_ne_nil hy]; simp
    | cons x' xs =>
      have hrest := ih (List.cons_ne_nil x' xs)
      rw [List.cons_append] at hrest
      rw [List.cons_append, List.cons_append, List.intercalate_cons_cons, hrest,
        List.intercalate_cons_cons]
      simp only [List.append_assoc]

lemma not_mem_of_splitOn {p c : List α} (h : c ∈ p.splitOn sep) : sep ∉ c := by
  induction p generalizing c with
  | nil =>
    rw [List.splitOn_nil, List.mem_singleton] at h
    simp [h]
  | cons x xs ih =>
    rw [List.splitOn_cons_eq_if_modifyHead] at h
    split_ifs at h with hx
    · obtain rfl | h := List.mem_cons.mp h
      · simp
      · exact ih h
    · obtain ⟨head, tail, hxs⟩ := List.exists_cons_of_ne_nil (List.splitOn_ne_nil sep xs)
      rw [hxs] at h ih
      obtain rfl | h := List.mem_cons.mp h
      · intro hmem
        obtain rfl | hmem := List.mem_cons.mp hmem
        · simp at hx
        · exact ih List.mem_cons_self hmem
      · exact ih (List.mem_cons_of_mem head h)

lemma splitOn_prefix_iff {p q : List α} :
    p.splitOn sep <+: q.splitOn sep ↔ p = q ∨ Below sep p q := by
  constructor
  · intro h
    obtain ⟨rest, hrest⟩ := h
    have hq : [sep].intercalate (p.splitOn sep ++ rest) = q := by
      rw [hrest, List.intercalate_splitOn]
    cases rest with
    | nil =>
      left
      rw [← hq, List.append_nil, List.intercalate_splitOn]
    | cons r rest =>
      right
      rw [intercalate_append (List.splitOn_ne_nil _ _) (by simp), List.intercalate_splitOn] at hq
      exact ⟨[sep].intercalate (r :: rest), by rw [← hq]; simp⟩
  · intro h
    obtain rfl | h := h
    · exact List.prefix_rfl
    · obtain ⟨rest, -, hrest⟩ := splitOn_below h
      exact ⟨rest, hrest.symm⟩

end Components

section Order

variable [Ord α] [Std.LawfulEqOrd α]

lemma isLE_prefix (p s : List α) : (compare p (p ++ s)).isLE := by
  induction p with
  | nil => cases s <;> rfl
  | cons c p ih =>
    rw [List.cons_append, List.compare_eq_compareLex, List.compareLex_cons_cons,
      Std.ReflOrd.compare_self]
    simpa [List.compare_eq_compareLex] using ih

lemma Below.compare_lt {p q : List α} (h : Below sep p q) : compare p q = .lt := by
  obtain ⟨s, rfl⟩ := h
  have hle := isLE_prefix p (sep :: s)
  rw [List.append_assoc, List.singleton_append]
  cases hcompare : compare p (p ++ sep :: s) with
  | lt => rfl
  | eq => exact absurd (Std.LawfulEqOrd.eq_of_compare hcompare) (by simp)
  | gt => rw [hcompare] at hle; cases hle

lemma prefix_of_between [Std.TransOrd α] {p r s : List α} (hpr : (compare p r).isLE)
    (hrs : (compare r (p ++ s)).isLE) : p <+: r := by
  induction p generalizing r with
  | nil => exact List.nil_prefix
  | cons c p ih =>
    cases r with
    | nil => cases hpr
    | cons d r =>
      rw [List.compare_eq_compareLex, List.compareLex_cons_cons] at hpr
      rw [List.cons_append, List.compare_eq_compareLex, List.compareLex_cons_cons] at hrs
      have hcd : c = d := by
        apply Std.LawfulEqOrd.eq_of_compare
        have hswap : compare d c = (compare c d).swap := Std.OrientedCmp.eq_swap
        cases h : compare c d with
        | lt => rw [h] at hswap; simp [hswap] at hrs
        | eq => rfl
        | gt => simp [h] at hpr
      subst hcd
      rw [Std.ReflOrd.compare_self] at hpr hrs
      rw [List.cons_prefix_cons]
      exact ⟨rfl, ih (by simpa [List.compare_eq_compareLex] using hpr)
        (by simpa [List.compare_eq_compareLex] using hrs)⟩

end Order

end Eip0045.Paths
