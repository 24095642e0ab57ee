import Mathlib

/-! A list that holds one item for each pair of a row and a column, row by row. -/

namespace Eip0045.Strides

variable {α β γ : Type}

lemma getElem?_product {rows : List α} {columns : List β} {n : ℕ} {a : α} {b : β} :
    (rows ×ˢ columns)[n]? = some (a, b) ↔
      ∃ i j, rows[i]? = some a ∧ columns[j]? = some b ∧ n = i * columns.length + j := by
  induction rows generalizing n with
  | nil => simp
  | cons row rows ih =>
    rw [List.product_cons]
    by_cases hn : n < columns.length
    · rw [List.getElem?_append_left (by rwa [List.length_map]), List.getElem?_map]
      constructor
      · intro h
        obtain ⟨b', hb, heq⟩ := Option.map_eq_some_iff.mp h
        obtain ⟨rfl, rfl⟩ := Prod.mk.inj heq
        exact ⟨0, n, rfl, hb, by omega⟩
      · intro h
        obtain ⟨i, j, ha, hb, hij⟩ := h
        cases i with
        | zero =>
          cases ha
          rw [hij, Nat.zero_mul, Nat.zero_add, hb]
          rfl
        | succ i =>
          rw [Nat.succ_mul] at hij
          omega
    · rw [List.getElem?_append_right (by rw [List.length_map]; omega), List.length_map, ih]
      constructor
      · intro h
        obtain ⟨i, j, ha, hb, hij⟩ := h
        exact ⟨i + 1, j, ha, hb, by rw [Nat.succ_mul]; omega⟩
      · intro h
        obtain ⟨i, j, ha, hb, hij⟩ := h
        have hj : j < columns.length := (List.getElem?_eq_some_iff.mp hb).1
        cases i with
        | zero => omega
        | succ i =>
          rw [Nat.succ_mul] at hij
          exact ⟨i, j, ha, hb, by omega⟩

lemma forall₂_product {R : α × β → γ → Prop} {rows : List α} {columns : List β} {items : List γ} :
    List.Forall₂ R (rows ×ˢ columns) items ↔
      items.length = rows.length * columns.length ∧
        ∀ a i, rows[i]? = some a → ∀ b j, columns[j]? = some b →
          ∃ c, items[i * columns.length + j]? = some c ∧ R (a, b) c := by
  have hproduct : (rows ×ˢ columns).length = rows.length * columns.length :=
    List.length_product rows columns
  rw [List.forall₂_iff_get]
  constructor
  · intro h
    obtain ⟨hlength, h⟩ := h
    refine ⟨hlength.symm.trans hproduct, ?_⟩
    intro a i ha b j hb
    have hpair := getElem?_product.mpr ⟨i, j, ha, hb, rfl⟩
    obtain ⟨hlt, hpair⟩ := List.getElem?_eq_some_iff.mp hpair
    have hlt' : i * columns.length + j < items.length := hlength ▸ hlt
    refine ⟨_, List.getElem?_eq_getElem hlt', ?_⟩
    have hR := h _ hlt hlt'
    rwa [List.get_eq_getElem, hpair] at hR
  · intro h
    obtain ⟨hlength, h⟩ := h
    refine ⟨hproduct.trans hlength.symm, ?_⟩
    intro n hlt hlt'
    cases hp : (rows ×ˢ columns).get ⟨n, hlt⟩ with
    | mk a b =>
      have hpair : (rows ×ˢ columns)[n]? = some (a, b) := by
        rw [← hp]
        exact List.getElem?_eq_getElem hlt
      obtain ⟨i, j, ha, hb, hij⟩ := getElem?_product.mp hpair
      obtain ⟨c, hc, hR⟩ := h a i ha b j hb
      rw [← hij, List.getElem?_eq_getElem hlt'] at hc
      cases hc
      exact hR

end Eip0045.Strides
