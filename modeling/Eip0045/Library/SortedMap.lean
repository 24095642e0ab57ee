import Mathlib
import Eip0045.Library.Paths
import Eip0045.Library.Checked

/-! Finite maps kept in key order: what holds of all bindings, sums over them, range queries, and
loops that fill a map and stop at the first key it has had. -/

namespace Eip0045

abbrev SortedMap (κ ν : Type) [Ord κ] := Std.ExtTreeMap κ ν compare

namespace SortedMap

variable {κ ν : Type} [Ord κ] [Std.TransOrd κ]

lemma nodup_toList (m : SortedMap κ ν) : m.toList.Nodup := by
  apply m.distinct_keys_toList.imp
  intro a b hab heq
  rw [heq] at hab
  exact hab (Std.ReflOrd.compare_self)

def total (w : κ → ν → ℕ) (m : SortedMap κ ν) : ℕ := (m.toList.map fun b => w b.1 b.2).sum

section

variable {w : κ → ν → ℕ} {m : SortedMap κ ν}

@[simp] lemma total_empty : total w (∅ : SortedMap κ ν) = 0 := by
  simp [total, Std.ExtTreeMap.toList_eq_nil_iff.mpr rfl]

lemma total_eq_of_perm {bs : List (κ × ν)} (h : m.toList.Perm bs) :
    total w m = (bs.map fun b => w b.1 b.2).sum :=
  (h.map _).sum_eq

lemma total_add {u : κ → ν → ℕ} :
    total (fun k v => w k v + u k v) m = total w m + total u m := by
  rw [total, total, total, ← List.sum_map_add]

end

variable [Std.LawfulEqOrd κ]

lemma mem_toList {m : SortedMap κ ν} {k : κ} {v : ν} : (k, v) ∈ m.toList ↔ m[k]? = some v :=
  Std.ExtTreeMap.mem_toList_iff_getElem?_eq_some

lemma getElem?_insert' (m : SortedMap κ ν) (k a : κ) (v : ν) [DecidableEq κ] :
    (m.insert k v)[a]? = if k = a then some v else m[a]? := by
  rw [Std.ExtTreeMap.getElem?_insert]
  simp only [Std.LawfulEqOrd.compare_eq_iff_eq]

lemma getElem?_erase' (m : SortedMap κ ν) (k a : κ) [DecidableEq κ] :
    (m.erase k)[a]? = if k = a then none else m[a]? := by
  rw [Std.ExtTreeMap.getElem?_erase]
  simp only [Std.LawfulEqOrd.compare_eq_iff_eq]

def without (drop : κ → Bool) (m : SortedMap κ ν) : SortedMap κ ν := m.filter fun k _ => !drop k

lemma getElem?_without (drop : κ → Bool) (m : SortedMap κ ν) (k : κ) :
    (without drop m)[k]? = if drop k then none else m[k]? := by
  rw [without, Std.ExtTreeMap.getElem?_filter']
  cases m[k]? <;> cases drop k <;> simp [Option.filter]

lemma getElem?_without_eq_some {drop : κ → Bool} {m : SortedMap κ ν} {k : κ} {v : ν} :
    (without drop m)[k]? = some v ↔ drop k = false ∧ m[k]? = some v := by
  rw [getElem?_without]
  cases drop k <;> simp

lemma without_of_none {drop : κ → Bool} {m : SortedMap κ ν}
    (h : ∀ k v, m[k]? = some v → drop k = false) : without drop m = m := by
  apply Std.ExtTreeMap.ext_getElem?
  intro k
  rw [getElem?_without]
  cases hk : m[k]? with
  | none => simp
  | some v => simp [h k v hk]

lemma without_erase [DecidableEq κ] {drop : κ → Bool} {m : SortedMap κ ν} {k : κ} (hd : drop k) :
    without drop (m.erase k) = without drop m := by
  apply Std.ExtTreeMap.ext_getElem?
  intro a
  rw [getElem?_without, getElem?_without, getElem?_erase']
  by_cases ha : k = a
  · simp [← ha, hd]
  · simp [ha]

omit [Std.LawfulEqOrd κ] in
lemma size_erase_lt {m : SortedMap κ ν} {k : κ} {v : ν} (h : m[k]? = some v) :
    (m.erase k).size < m.size := by
  have hmem : k ∈ m := Std.ExtTreeMap.mem_iff_isSome_getElem?.mpr (by rw [h]; rfl)
  have hpos : m.size ≠ 0 := by
    intro h0
    rw [Std.ExtTreeMap.eq_empty_iff_size_eq_zero.mpr h0] at hmem
    exact Std.ExtTreeMap.not_mem_empty hmem
  rw [Std.ExtTreeMap.size_erase, if_pos (Std.ExtTreeMap.mem_iff_contains.mp hmem)]
  omega

section Total

variable {w : κ → ν → ℕ} {m m' : SortedMap κ ν} {k : κ} {v v' : ν}

lemma perm_of_bindings {bs : List (κ × ν)} (hd : bs.Nodup)
    (h : ∀ k v, (k, v) ∈ bs ↔ m[k]? = some v) : m.toList.Perm bs := by
  apply (List.perm_ext_iff_of_nodup (nodup_toList m) hd).mpr
  rintro ⟨k, v⟩
  rw [mem_toList, h]

lemma total_erase (h : m[k]? = some v) : total w m = w k v + total w (m.erase k) := by
  classical
  have hperm : m.toList.Perm ((k, v) :: (m.erase k).toList) := by
    apply perm_of_bindings
    · refine List.nodup_cons.mpr ⟨?_, nodup_toList _⟩
      rw [mem_toList, getElem?_erase', if_pos rfl]
      simp
    · intro a b
      rw [List.mem_cons, mem_toList, getElem?_erase']
      by_cases ha : k = a
      · subst ha
        simp [h, eq_comm]
      · simp [ha, Ne.symm ha]
  rw [total_eq_of_perm hperm]
  rfl

lemma total_insert_new (h : m[k]? = none) : total w (m.insert k v) = w k v + total w m := by
  classical
  have hk : (m.insert k v)[k]? = some v := by rw [getElem?_insert', if_pos rfl]
  have he : (m.insert k v).erase k = m := by
    apply Std.ExtTreeMap.ext_getElem?
    intro a
    rw [getElem?_erase', getElem?_insert']
    by_cases ha : k = a
    · simp [← ha, h]
    · simp [ha]
  rw [total_erase hk, he]

lemma insert_erase [DecidableEq κ] : (m.erase k).insert k v = m.insert k v := by
  apply Std.ExtTreeMap.ext_getElem?
  intro a
  rw [getElem?_insert', getElem?_insert', getElem?_erase']
  by_cases ha : k = a <;> simp [ha]

lemma total_insert_old (h : m[k]? = some v') :
    total w (m.insert k v) + w k v' = w k v + total w m := by
  classical
  have hk : (m.erase k)[k]? = none := by rw [getElem?_erase', if_pos rfl]
  rw [← insert_erase, total_insert_new hk, total_erase h]
  omega

lemma total_insert_le : total w (m.insert k v) ≤ w k v + total w m := by
  cases h : m[k]? with
  | none => exact (total_insert_new h).le
  | some v' =>
    have := total_insert_old (w := w) (v := v) h
    omega

lemma sum_le_total {bs : List (κ × ν)} (hd : bs.Nodup) (h : ∀ b ∈ bs, m[b.1]? = some b.2) :
    (bs.map fun b => w b.1 b.2).sum ≤ total w m := by
  have hsub : bs ⊆ m.toList := fun b hb => mem_toList.mpr (h b hb)
  have hperm := (List.subperm_of_subset hd hsub)
  obtain ⟨cs, hcs, hsl⟩ := hperm
  rw [total, ← (hcs.map _).sum_eq]
  exact (hsl.map _).sum_le_sum fun _ _ => Nat.zero_le _

lemma total_without_le (drop : κ → Bool) : total w (without drop m) ≤ total w m := by
  apply sum_le_total (nodup_toList _)
  rintro ⟨k, v⟩ hb
  exact (getElem?_without_eq_some.mp (mem_toList.mp hb)).2

lemma le_total (h : m[k]? = some v) : w k v ≤ total w m := by
  rw [total_erase h]
  omega

lemma total_congr {u : κ → ν → ℕ} (h : ∀ k v, m[k]? = some v → w k v = u k v) :
    total w m = total u m := by
  rw [total, total]
  congr 1
  apply List.map_congr_left
  rintro ⟨k, v⟩ hb
  exact h k v (mem_toList.mp hb)

end Total

/-- `range(from..).next()`: the first binding whose key is at or after a bound. -/
def firstFrom (m : SortedMap κ ν) (bound : κ) : Option (κ × ν) :=
  m.toList.find? fun b => (compare bound b.1).isLE

lemma firstFrom_some {m : SortedMap κ ν} {bound k : κ} {v : ν}
    (h : firstFrom m bound = some (k, v)) : m[k]? = some v ∧ (compare bound k).isLE :=
  ⟨mem_toList.mp (List.mem_of_find?_eq_some h), by simpa using (List.find?_eq_some_iff_append.mp h).1⟩

lemma firstFrom_least {m : SortedMap κ ν} {bound k a : κ} {v b : ν}
    (h : firstFrom m bound = some (k, v)) (ha : m[a]? = some b) (hle : (compare bound a).isLE) :
    (compare k a).isLE := by
  rw [firstFrom, List.find?_eq_some_iff_append] at h
  obtain ⟨_, before, after, hsplit, hbefore⟩ := h
  have hmem := mem_toList.mpr ha
  have hord := m.ordered_keys_toList
  rw [hsplit] at hmem hord
  rw [List.pairwise_append, List.pairwise_cons] at hord
  rcases List.mem_append.mp hmem with hin | hin
  · have := hbefore (a, b) hin
    simp [hle] at this
  · rcases List.mem_cons.mp hin with heq | hin
    · cases heq
      rw [Std.ReflOrd.compare_self]
      rfl
    · rw [hord.2.1.1 (a, b) hin]
      rfl

lemma firstFrom_none {m : SortedMap κ ν} {bound a : κ} {b : ν} (h : firstFrom m bound = none)
    (ha : m[a]? = some b) : ¬(compare bound a).isLE := by
  rw [firstFrom, List.find?_eq_none] at h
  exact h (a, b) (mem_toList.mpr ha)

end SortedMap

namespace SortedMap

variable {α ν : Type} [Ord α] [Std.TransOrd α] [Std.LawfulEqOrd α] [DecidableEq α]

/-- The first binding whose key begins with a word, looked up as the first one after the word. -/
def firstBelow (m : SortedMap (List α) ν) (start : List α) : Option (List α × ν) :=
  (firstFrom m start).filter fun b => start.isPrefixOf b.1

lemma firstBelow_some {m : SortedMap (List α) ν} {start k : List α} {v : ν}
    (h : firstBelow m start = some (k, v)) : m[k]? = some v ∧ start <+: k := by
  obtain ⟨hfirst, hprefix⟩ := Option.filter_eq_some_iff.mp h
  exact ⟨(firstFrom_some hfirst).1, List.isPrefixOf_iff_prefix.mp hprefix⟩

lemma firstBelow_none {m : SortedMap (List α) ν} {start a : List α} {b : ν}
    (h : firstBelow m start = none) (ha : m[a]? = some b) : ¬start <+: a := by
  rintro ⟨s, rfl⟩
  have hle := Paths.isLE_prefix start s
  cases hf : firstFrom m start with
  | none => exact firstFrom_none hf ha hle
  | some kv =>
    obtain ⟨k, v⟩ := kv
    have hk := Paths.prefix_of_between (firstFrom_some hf).2 (firstFrom_least hf ha hle)
    rw [firstBelow, hf, Option.filter_some, if_pos (List.isPrefixOf_iff_prefix.mpr hk)] at h
    cases h

end SortedMap

end Eip0045

namespace Eip0045.SortedMap

open Checked

variable {κ ν : Type} [Ord κ] [Std.TransOrd κ] [Std.LawfulEqOrd κ]

lemma keys_nodup (m : SortedMap κ ν) : (m.toList.map Prod.fst).Nodup := by
  rw [List.Nodup, List.pairwise_map]
  apply m.distinct_keys_toList.imp
  intro a b hab heq
  rw [heq] at hab
  exact hab Std.ReflOrd.compare_self

lemma mem_keys {m : SortedMap κ ν} {k : κ} : k ∈ m.toList.map Prod.fst ↔ m[k]? ≠ none := by
  rw [List.mem_map]
  constructor
  · rintro ⟨⟨_, v⟩, hmem, rfl⟩
    rw [mem_toList.mp hmem]
    exact Option.some_ne_none v
  · intro h
    obtain ⟨v, hv⟩ := Option.ne_none_iff_exists'.mp h
    exact ⟨(k, v), mem_toList.mpr hv, rfl⟩

lemma eq_of_perm {m m' : SortedMap κ ν} (h : m.toList.Perm m'.toList) : m = m' := by
  apply Std.ExtTreeMap.ext_getElem?
  intro k
  apply Option.ext
  intro v
  rw [← mem_toList, ← mem_toList, h.mem_iff]

lemma toList_insert [DecidableEq κ] {m : SortedMap κ ν} {k : κ} {v : ν} (h : m[k]? = none) :
    (m.insert k v).toList.Perm ((k, v) :: m.toList) := by
  have hnew : (k, v) ∉ m.toList := by
    simp [h]
  apply perm_of_bindings (List.nodup_cons.mpr ⟨hnew, nodup_toList m⟩)
  intro a w
  rw [List.mem_cons, Prod.mk.injEq, mem_toList, getElem?_insert']
  by_cases hk : k = a
  · subst hk
    simp [h, eq_comm]
  · rw [if_neg hk]
    simp [Ne.symm hk]

lemma exists_perm [DecidableEq κ] {bs : List (κ × ν)} (h : (bs.map Prod.fst).Nodup) :
    ∃ m : SortedMap κ ν, m.toList.Perm bs := by
  induction bs with
  | nil => exact ⟨∅, by rw [Std.ExtTreeMap.toList_eq_nil_iff.mpr rfl]⟩
  | cons b bs ih =>
    rw [List.map_cons, List.nodup_cons] at h
    obtain ⟨m, hm⟩ := ih h.2
    have hnew : m[b.1]? = none := by
      by_contra hold
      exact h.1 ((hm.map Prod.fst).mem_iff.mp (mem_keys.mpr hold))
    exact ⟨m.insert b.1 b.2, (toList_insert hnew).trans (hm.cons b)⟩

variable {α ε : Type} {step : SortedMap κ ν → α → Except ε (SortedMap κ ν)} {binds : α → κ × ν → Prop}

lemma foldlM_inserts [DecidableEq κ]
    (hstep : ∀ m x m', step m x = .ok m' ↔ ∃ b, binds x b ∧ m[b.1]? = none ∧ m' = m.insert b.1 b.2)
    {xs : List α} {m m' : SortedMap κ ν} :
    xs.foldlM step m = .ok m' ↔
      ∃ bs, List.Forall₂ binds xs bs ∧ ((bs ++ m.toList).map Prod.fst).Nodup ∧ m'.toList.Perm (bs ++ m.toList) := by
  induction xs generalizing m with
  | nil =>
    simp only [List.foldlM_nil, pure_ok, List.forall₂_nil_left_iff, exists_eq_left, List.nil_append]
    exact ⟨fun h => h ▸ ⟨keys_nodup m, .refl _⟩, fun h => (eq_of_perm h.2).symm⟩
  | cons x xs ih =>
    simp only [List.foldlM_cons, bind_ok, ih, hstep, List.forall₂_cons_left_iff]
    constructor
    · rintro ⟨_, ⟨b, hb, hnew, rfl⟩, bs, hbs, hkeys, hperm⟩
      have hmoved : (bs ++ (m.insert b.1 b.2).toList).Perm (b :: bs ++ m.toList) :=
        ((toList_insert hnew).append_left bs).trans List.perm_middle
      exact ⟨b :: bs, ⟨b, bs, hb, hbs, rfl⟩, (hmoved.map Prod.fst).nodup_iff.mp hkeys, hperm.trans hmoved⟩
    · rintro ⟨_, ⟨b, bs, hb, hbs, rfl⟩, hkeys, hperm⟩
      have hnew : m[b.1]? = none := by
        by_contra hold
        rw [List.cons_append, List.map_cons, List.nodup_cons, List.map_append, List.mem_append] at hkeys
        exact hkeys.1 (.inr (mem_keys.mpr hold))
      have hmoved : (bs ++ (m.insert b.1 b.2).toList).Perm (b :: bs ++ m.toList) :=
        ((toList_insert hnew).append_left bs).trans List.perm_middle
      exact ⟨_, ⟨b, hb, hnew, rfl⟩, bs, hbs, (hmoved.map Prod.fst).nodup_iff.mpr hkeys, hperm.trans hmoved.symm⟩

lemma foldlM_inserts_empty [DecidableEq κ]
    (hstep : ∀ m x m', step m x = .ok m' ↔ ∃ b, binds x b ∧ m[b.1]? = none ∧ m' = m.insert b.1 b.2)
    {xs : List α} {m : SortedMap κ ν} : xs.foldlM step ∅ = .ok m ↔
      ∃ bs, List.Forall₂ binds xs bs ∧ (bs.map Prod.fst).Nodup ∧ m.toList.Perm bs := by
  rw [foldlM_inserts hstep, Std.ExtTreeMap.toList_eq_nil_iff.mpr rfl]
  simp only [List.append_nil]

end Eip0045.SortedMap
