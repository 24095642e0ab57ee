import Mathlib

/-! Lists whose entries have distinct keys: a search by key finds the one entry that has it. -/

namespace Eip0045.Keyed

variable {α β κ ν : Type}

lemma eq_of_key {key : α → κ} {xs : List α} (h : (xs.map key).Nodup) {x y : α} (hx : x ∈ xs)
    (hy : y ∈ xs) (hkey : key x = key y) : x = y :=
  List.inj_on_of_nodup_map h hx hy hkey

section Search

lemma find?_key [DecidableEq κ] {key : α → κ} {xs : List α} (h : (xs.map key).Nodup) {x : α} (hx : x ∈ xs) :
    (xs.find? fun y => key y = key x) = some x := by
  cases hfind : xs.find? fun y => key y = key x with
  | none =>
    have hnone := List.find?_eq_none.mp hfind x hx
    exact absurd hnone (by simp)
  | some y =>
    have hkey : key y = key x := by simpa using List.find?_some hfind
    rw [eq_of_key h (List.mem_of_find?_eq_some hfind) hx hkey]

variable [BEq κ] [LawfulBEq κ]

lemma mem_of_lookup {xs : List (κ × ν)} {k : κ} {v : ν} (h : xs.lookup k = some v) :
    (k, v) ∈ xs := by
  obtain ⟨l₁, l₂, hxs, -⟩ := List.lookup_eq_some_iff.mp h
  rw [hxs]
  simp

lemma lookup_of_mem {xs : List (κ × ν)} (h : (xs.map Prod.fst).Nodup) {k : κ} {v : ν}
    (hmem : (k, v) ∈ xs) : xs.lookup k = some v := by
  cases hlookup : xs.lookup k with
  | none =>
    have hnone := List.lookup_eq_none_iff.mp hlookup (k, v) hmem
    exact absurd hnone (by simp)
  | some w =>
    have heq := eq_of_key h (mem_of_lookup hlookup) hmem rfl
    rw [(Prod.mk.inj heq).2]

end Search

lemma forall₂_of_keys {key : α → κ} {key' : β → κ} {xs : List α} {ys : List β}
    {R : α → β → Prop} (hkeys : xs.map key = ys.map key')
    (hR : ∀ x ∈ xs, ∀ y ∈ ys, key x = key' y → R x y) : List.Forall₂ R xs ys := by
  induction xs generalizing ys with
  | nil =>
    rw [List.map_nil, eq_comm, List.map_eq_nil_iff] at hkeys
    rw [hkeys]
    exact .nil
  | cons x xs ih =>
    cases ys with
    | nil => exact absurd hkeys (by simp)
    | cons y ys =>
      rw [List.map_cons, List.map_cons, List.cons.injEq] at hkeys
      apply List.Forall₂.cons
      · exact hR x List.mem_cons_self y List.mem_cons_self hkeys.1
      · apply ih hkeys.2
        intro a ha b hb hab
        exact hR a (List.mem_cons_of_mem x ha) b (List.mem_cons_of_mem y hb) hab

lemma forall₂_mem_left {xs : List α} {ys : List β} {R : α → β → Prop}
    (h : List.Forall₂ R xs ys) {x : α} (hx : x ∈ xs) : ∃ y ∈ ys, R x y := by
  induction h with
  | nil => exact absurd hx List.not_mem_nil
  | cons hR _ ih =>
    cases hx with
    | head => exact ⟨_, List.mem_cons_self, hR⟩
    | tail _ hx =>
      obtain ⟨y, hy, hxy⟩ := ih hx
      exact ⟨y, List.mem_cons_of_mem _ hy, hxy⟩

section TreeMap

variable [Ord κ] [Std.LawfulEqOrd κ] [Std.TransOrd κ]

lemma ofList_getElem? {xs : List (κ × ν)} (h : (xs.map Prod.fst).Nodup) {k : κ} {v : ν}
    (hmem : (k, v) ∈ xs) : (Std.ExtTreeMap.ofList xs compare)[k]? = some v := by
  refine Std.ExtTreeMap.getElem?_ofList_of_mem (Std.compare_eq_iff_eq.mpr rfl) ?_ hmem
  have hpair := List.pairwise_map.mp h
  exact hpair.imp fun hne heq => hne (Std.compare_eq_iff_eq.mp heq)

end TreeMap

end Eip0045.Keyed
