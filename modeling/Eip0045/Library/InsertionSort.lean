import Mathlib

/-! Insertion sort by swaps of neighbours, as a loop over an array does it. -/

namespace Eip0045.InsertionSort

variable {α : Type} [LinearOrder α]

/-- The item at an index changes places with the greater items before it. -/
def siftBack (xs : List α) : ℕ → List α
  | 0 => xs
  | cursor + 1 =>
    match xs[cursor]?, xs[cursor + 1]? with
    | some y, some x => if x < y then siftBack ((xs.set (cursor + 1) y).set cursor x) cursor else xs
    | _, _ => xs

def sorted (xs : List α) : List α := (List.range' 1 (xs.length - 1)).foldl siftBack xs

lemma siftBack_append (p : List α) (y x : α) (s : List α) : siftBack (p ++ y :: x :: s) (p.length + 1) =
    if x < y then siftBack (p ++ x :: y :: s) p.length else p ++ y :: x :: s := by
  rw [siftBack]
  simp

lemma siftBack_sorted {p : List α} (x : α) (s : List α) (hp : p.Pairwise (· ≤ ·)) :
    ∃ q, siftBack (p ++ x :: s) p.length = q ++ s ∧ q.Perm (p ++ [x]) ∧ q.Pairwise (· ≤ ·) := by
  induction p using List.reverseRecOn generalizing s with
  | nil => exact ⟨[x], rfl, List.Perm.refl _, List.pairwise_singleton _ _⟩
  | append_singleton p y ih =>
    obtain ⟨hp, -, hy⟩ := List.pairwise_append.mp hp
    have hle : ∀ a ∈ p, a ≤ y := fun a ha => hy a ha y List.mem_cons_self
    rw [List.append_assoc, List.length_append, List.length_singleton, List.singleton_append,
      siftBack_append]
    split
    case isTrue hlt =>
      obtain ⟨q, hq, hperm, hsorted⟩ := ih (y :: s) hp
      refine ⟨q ++ [y], ?_, ?_, ?_⟩
      · rw [hq, List.append_assoc, List.singleton_append]
      · refine (hperm.append_right [y]).trans ?_
        rw [List.append_assoc, List.append_assoc]
        exact (List.Perm.swap _ _ _).append_left p
      · refine List.pairwise_append.mpr ⟨hsorted, List.pairwise_singleton _ _, ?_⟩
        intro a ha b hb
        rw [List.mem_singleton.mp hb]
        obtain ha | ha := List.mem_append.mp (hperm.mem_iff.mp ha)
        · exact hle a ha
        · rw [List.mem_singleton.mp ha]
          exact hlt.le
    case isFalse hlt =>
      refine ⟨p ++ [y, x], by simp, by simp, ?_⟩
      refine List.pairwise_append.mpr ⟨hp, ?_, ?_⟩
      · simpa using le_of_not_gt hlt
      · intro a ha b hb
        have hay := hle a ha
        obtain rfl | rfl : b = y ∨ b = x := by simpa using hb
        · exact hay
        · exact hay.trans (le_of_not_gt hlt)

lemma foldl_siftBack {p : List α} (s : List α) (hp : p.Pairwise (· ≤ ·)) :
    ∃ q, (List.range' p.length s.length).foldl siftBack (p ++ s) = q ∧ q.Perm (p ++ s) ∧
      q.Pairwise (· ≤ ·) := by
  induction s generalizing p with
  | nil => exact ⟨p, by simp, by simp, hp⟩
  | cons x s ih =>
    obtain ⟨q, hq, hperm, hsorted⟩ := siftBack_sorted x s hp
    obtain ⟨r, hr, hrest, hall⟩ := ih hsorted
    have hlength : q.length = p.length + 1 := by simpa using hperm.length_eq
    refine ⟨r, ?_, ?_, hall⟩
    · rw [List.length_cons, List.range'_succ, List.foldl_cons, hq, ← hlength]
      exact hr
    · refine hrest.trans ((hperm.append_right s).trans ?_)
      rw [List.append_assoc, List.singleton_append]

lemma sorted_spec (xs : List α) : (sorted xs).Perm xs ∧ (sorted xs).Pairwise (· ≤ ·) := by
  cases xs with
  | nil => exact ⟨List.Perm.refl _, List.Pairwise.nil⟩
  | cons x xs =>
    obtain ⟨q, hq, hperm, hsorted⟩ := foldl_siftBack xs (List.pairwise_singleton (· ≤ ·) x)
    rw [sorted, List.length_cons, Nat.add_sub_cancel]
    rw [List.length_singleton, List.singleton_append] at hq
    rw [hq]
    exact ⟨hperm, hsorted⟩

lemma strict_of_isChain_ne {xs : List α} (hle : xs.Pairwise (· ≤ ·)) (hne : xs.IsChain (· ≠ ·)) :
    xs.Pairwise (· < ·) := by
  rw [← List.isChain_iff_pairwise, List.isChain_iff_getElem] at hle ⊢
  rw [List.isChain_iff_getElem] at hne
  intro i hi
  exact lt_of_le_of_ne (hle i hi) (hne i hi)

end Eip0045.InsertionSort
