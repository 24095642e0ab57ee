import Mathlib

/-! The lexicographic order of lists, and how it goes on with what is appended. -/

namespace Eip0045.Lexicographic

variable {α : Type} [LT α]

lemma lt_append_cons (xs : List α) (x : α) (rest : List α) : xs < xs ++ x :: rest := by
  induction xs with
  | nil => exact List.nil_lt_cons x rest
  | cons y ys ih => exact List.cons_lt_cons_iff.mpr (.inr ⟨rfl, ih⟩)

lemma append_lt_append {xs ys : List α} (h : xs < ys) (hinitial : ¬xs <+: ys) (s t : List α) :
    xs ++ s < ys ++ t := by
  induction xs generalizing ys with
  | nil => exact absurd List.nil_prefix hinitial
  | cons x xs ih =>
    cases ys with
    | nil => exact absurd h (List.not_lt_nil _)
    | cons y ys =>
      rw [List.cons_append, List.cons_append, List.cons_lt_cons_iff]
      rcases List.cons_lt_cons_iff.mp h with hlt | ⟨rfl, hlt⟩
      · exact .inl hlt
      · exact .inr ⟨rfl, ih hlt fun hp => hinitial (List.cons_prefix_cons.mpr ⟨rfl, hp⟩)⟩

section Irrefl

variable [Std.Irrefl fun a b : α => a < b]

@[simp] lemma append_lt_append_left (xs : List α) {ys zs : List α} :
    xs ++ ys < xs ++ zs ↔ ys < zs := by
  induction xs with
  | nil => rfl
  | cons x xs ih => simp [ih]

lemma lt_cases {xs ys : List α} (h : xs < ys) :
    (∃ x rest, ys = xs ++ x :: rest) ∨ ¬xs <+: ys := by
  by_cases hinitial : xs <+: ys
  · obtain ⟨rest, rfl⟩ := hinitial
    cases rest with
    | nil => exact absurd h (by simp [Std.lt_irrefl])
    | cons x rest => exact .inl ⟨x, rest, rfl⟩
  · exact .inr hinitial

end Irrefl

variable [LE α] [Std.IsLinearOrder α] [Std.LawfulOrderLT α]

lemma eq_of_increasing {β : Type} {key : β → List α} {xs ys : List β} (h : xs.Perm ys)
    (hx : xs.Pairwise fun a b => key a < key b) (hy : ys.Pairwise fun a b => key a < key b) :
    xs = ys := by
  refine List.Perm.eq_of_pairwise ?_ hx hy h
  intro a b _ _ hab hba
  exact absurd (Std.lt_trans hab hba) Std.lt_irrefl

variable [DecidableEq α] [DecidableLT α]

lemma pairwise_sort {β : Type} (key : β → List α) {xs : List β} (h : (xs.map key).Nodup) :
    (xs.mergeSort fun a b => key a ≤ key b).Pairwise fun a b => key a < key b := by
  have hsorted : (xs.mergeSort fun a b => key a ≤ key b).Pairwise fun a b => key a ≤ key b := by
    have htrans : ∀ a b c, decide (key a ≤ key b) → decide (key b ≤ key c) →
        decide (key a ≤ key c) := by
      intro a b c hab hbc
      exact decide_eq_true (Std.le_trans (of_decide_eq_true hab) (of_decide_eq_true hbc))
    have htotal : ∀ a b, decide (key a ≤ key b) || decide (key b ≤ key a) := by
      intro a b
      simpa using Std.le_total (a := key a) (b := key b)
    exact (List.pairwise_mergeSort htrans htotal xs).imp fun hab => of_decide_eq_true hab
  have hnodup : ((xs.mergeSort fun a b => key a ≤ key b).map key).Nodup :=
    ((List.mergeSort_perm xs _).map key).nodup_iff.mpr h
  exact hsorted.imp₂ (fun a b hle hne => Std.lt_of_le_of_ne hle hne) (List.pairwise_map.mp hnodup)

end Eip0045.Lexicographic
