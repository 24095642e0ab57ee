import Mathlib
import Eip0045.Library.Checked

/-! Loops that add up the weights of their items and stop when the total no longer fits. -/

namespace Eip0045.Totals

open Checked

variable {ε σ β τ : Type} [AddCommMonoid τ] {f : σ → β → Except ε σ} {C : β → Prop} {Fits : τ → Prop}
  {val : σ → τ} {weight : β → τ}

/-- A state is the total so far; a step adds the weight of an item that it admits. -/
structure Adding (f : σ → β → Except ε σ) (C : β → Prop) (Fits : τ → Prop) (val : σ → τ) (weight : β → τ) :
    Prop where
  injective : Function.Injective val
  state : ∀ t, Fits t → ∃ s, val s = t
  initial : ∀ a b, Fits (a + b) → Fits a
  step : ∀ s x s', Fits (val s) →
    (f s x = .ok s' ↔ C x ∧ Fits (val s + weight x) ∧ val s' = val s + weight x)

lemma Adding.run (h : Adding f C Fits val weight) {xs : List β} {s s' : σ} (hs : Fits (val s)) :
    xs.foldlM f s = .ok s' ↔
      (∀ x ∈ xs, C x) ∧ Fits (val s + (xs.map weight).sum) ∧ val s' = val s + (xs.map weight).sum := by
  induction xs generalizing s with
  | nil =>
    rw [List.foldlM_nil, pure_ok, List.map_nil, List.sum_nil, add_zero]
    constructor
    · rintro rfl
      exact ⟨by simp, hs, rfl⟩
    · rintro ⟨-, -, heq⟩
      exact (h.injective heq).symm
  | cons x xs ih =>
    rw [List.foldlM_cons, bind_ok, List.forall_mem_cons, List.map_cons, List.sum_cons, ← add_assoc]
    constructor
    · rintro ⟨next, hstep, hrun⟩
      obtain ⟨hx, hfits, hnext⟩ := (h.step s x next hs).mp hstep
      rw [← hnext] at hfits ⊢
      obtain ⟨hxs, htotal⟩ := (ih hfits).mp hrun
      exact ⟨⟨hx, hxs⟩, htotal⟩
    · rintro ⟨⟨hx, hxs⟩, htotal⟩
      have hfits := h.initial _ _ htotal.1
      obtain ⟨next, hnext⟩ := h.state _ hfits
      refine ⟨next, (h.step s x next hs).mpr ⟨hx, hfits, hnext⟩, ?_⟩
      rw [← hnext] at htotal hfits
      exact (ih hfits).mpr ⟨hxs, htotal⟩

lemma Adding.run_enumerated {f : σ → β × ℕ → Except ε σ}
    (h : Adding f (fun item => C item.1) Fits val (fun item => weight item.1)) {xs : List β} {s s' : σ}
    (hs : Fits (val s)) : xs.zipIdx.foldlM f s = .ok s' ↔
      (∀ x ∈ xs, C x) ∧ Fits (val s + (xs.map weight).sum) ∧ val s' = val s + (xs.map weight).sum := by
  have hweights : xs.zipIdx.map (fun item => weight item.1) = xs.map weight := by
    have hcomp := List.map_map (f := Prod.fst) (g := weight) (l := xs.zipIdx)
    rw [List.zipIdx_map_fst] at hcomp
    exact hcomp.symm
  have hitems : (∀ item ∈ xs.zipIdx, C item.1) ↔ ∀ x ∈ xs, C x := by
    rw [← List.forall_mem_map, List.zipIdx_map_fst]
  rw [h.run hs, hweights, hitems]

lemma sum_pair {τ' : Type} [AddCommMonoid τ'] (f : β → τ) (g : β → τ') (items : List β) :
    (items.map fun item => (f item, g item)).sum = ((items.map f).sum, (items.map g).sum) := by
  induction items with
  | nil => rfl
  | cons item items ih => rw [List.map_cons, List.sum_cons, ih]; simp

end Eip0045.Totals
