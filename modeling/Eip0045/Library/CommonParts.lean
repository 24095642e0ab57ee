import Mathlib

/-! How far two lists agree from their start, and from their end. -/

namespace Eip0045.CommonParts

variable {α : Type} [DecidableEq α] {xs ys : List α} {n : ℕ}

/-- The number of positions at the start where two lists agree. -/
def agreeing (xs ys : List α) : ℕ := ((xs.zip ys).takeWhile fun pair => pair.1 = pair.2).length

@[simp] lemma agreeing_nil_left (ys : List α) : agreeing [] ys = 0 := rfl

@[simp] lemma agreeing_nil_right (xs : List α) : agreeing xs [] = 0 := by
  rw [agreeing, List.zip_nil_right]
  rfl

lemma agreeing_cons (x y : α) (xs ys : List α) :
    agreeing (x :: xs) (y :: ys) = if x = y then agreeing xs ys + 1 else 0 := by
  rw [agreeing, List.zip_cons_cons, List.takeWhile_cons]
  by_cases h : x = y
  · simp [h, agreeing]
  · simp [h]

lemma agreeing_le (xs ys : List α) : agreeing xs ys ≤ xs.length ∧ agreeing xs ys ≤ ys.length := by
  have h : agreeing xs ys ≤ (xs.zip ys).length := (List.takeWhile_sublist _).length_le
  rw [List.length_zip] at h
  exact ⟨h.trans (Nat.min_le_left _ _), h.trans (Nat.min_le_right _ _)⟩

lemma take_agreeing (xs ys : List α) : xs.take (agreeing xs ys) = ys.take (agreeing xs ys) := by
  induction xs generalizing ys with
  | nil => simp
  | cons x xs ih =>
    cases ys with
    | nil => simp
    | cons y ys =>
      rw [agreeing_cons]
      split
      case isTrue h => rw [List.take_succ_cons, List.take_succ_cons, h, ih]
      case isFalse => rfl

lemma le_agreeing (hx : n ≤ xs.length) (hy : n ≤ ys.length) (h : xs.take n = ys.take n) :
    n ≤ agreeing xs ys := by
  induction n generalizing xs ys with
  | zero => exact Nat.zero_le _
  | succ n ih =>
    cases xs with
    | nil => cases hx
    | cons x xs =>
      cases ys with
      | nil => cases hy
      | cons y ys =>
        rw [List.take_succ_cons, List.take_succ_cons, List.cons.injEq] at h
        rw [agreeing_cons, if_pos h.1]
        exact Nat.succ_le_succ (ih (Nat.le_of_succ_le_succ hx) (Nat.le_of_succ_le_succ hy) h.2)

/-- The same count for a loop that stops after `bound` positions. -/
def agreeingWithin (bound : ℕ) (xs ys : List α) : ℕ :=
  (((xs.zip ys).take bound).takeWhile fun pair => pair.1 = pair.2).length

lemma agreeingWithin_eq (bound : ℕ) (xs ys : List α) :
    agreeingWithin bound xs ys = agreeing (xs.take bound) (ys.take bound) := by
  rw [agreeingWithin, agreeing, List.zip_eq_zipWith, List.zip_eq_zipWith, List.take_zipWith]

/-- The agreement at the end within `bound` positions. -/
def agreeingBack (bound : ℕ) (xs ys : List α) : ℕ := agreeingWithin bound xs.reverse ys.reverse

lemma agreeingBack_le (bound : ℕ) (xs ys : List α) : agreeingBack bound xs ys ≤ bound ∧
    agreeingBack bound xs ys ≤ xs.length ∧ agreeingBack bound xs ys ≤ ys.length := by
  obtain ⟨hx, hy⟩ := agreeing_le (xs.reverse.take bound) (ys.reverse.take bound)
  rw [← agreeingWithin_eq, List.length_take, List.length_reverse] at hx hy
  exact ⟨hx.trans (Nat.min_le_left _ _), hx.trans (Nat.min_le_right _ _), hy.trans (Nat.min_le_right _ _)⟩

lemma drop_agreeingBack (bound : ℕ) (xs ys : List α) :
    xs.drop (xs.length - agreeingBack bound xs ys) = ys.drop (ys.length - agreeingBack bound xs ys) := by
  have hbound := (agreeingBack_le bound xs ys).1
  have h := take_agreeing (xs.reverse.take bound) (ys.reverse.take bound)
  rw [← agreeingWithin_eq] at h
  change (xs.reverse.take bound).take (agreeingBack bound xs ys) =
    (ys.reverse.take bound).take (agreeingBack bound xs ys) at h
  rwa [List.take_take, List.take_take, Nat.min_eq_left hbound, List.take_reverse, List.take_reverse,
    List.reverse_inj] at h

lemma le_agreeingBack {bound : ℕ} (hbound : n ≤ bound) (hx : n ≤ xs.length) (hy : n ≤ ys.length)
    (h : xs.drop (xs.length - n) = ys.drop (ys.length - n)) : n ≤ agreeingBack bound xs ys := by
  rw [agreeingBack, agreeingWithin_eq]
  apply le_agreeing
  · rw [List.length_take, List.length_reverse]
    exact le_min hbound hx
  · rw [List.length_take, List.length_reverse]
    exact le_min hbound hy
  · rw [List.take_take, List.take_take, Nat.min_eq_left hbound]
    rw [List.take_reverse, List.take_reverse, h]

end Eip0045.CommonParts
