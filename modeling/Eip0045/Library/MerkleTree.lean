import Mathlib

/-! Binary trees of hashes over a level of `2 ^ k` nodes: the root by whole levels, and the way up from one
node past its siblings. -/

namespace Eip0045.MerkleTree

variable {α : Type}

abbrev Level (α : Type) (k : ℕ) := Fin (2 ^ k) → α

variable {k : ℕ}

def left (i : Fin (2 ^ k)) : Fin (2 ^ (k + 1)) := ⟨2 * i.val, by omega⟩

def right (i : Fin (2 ^ k)) : Fin (2 ^ (k + 1)) := ⟨2 * i.val + 1, by omega⟩

def parent (i : Fin (2 ^ (k + 1))) : Fin (2 ^ k) := ⟨i.val / 2, by omega⟩

def sibling (i : Fin (2 ^ (k + 1))) : Fin (2 ^ (k + 1)) :=
  ⟨i.val ^^^ 1, Nat.xor_lt_two_pow i.isLt (Nat.one_lt_two_pow (by omega))⟩

lemma left_or_right (i : Fin (2 ^ (k + 1))) :
    i.val % 2 = 0 ∧ i = left (parent i) ∨ i.val % 2 = 1 ∧ i = right (parent i) := by
  simp only [left, right, parent, Fin.ext_iff]
  omega

lemma sibling_left (i : Fin (2 ^ k)) : sibling (left i) = right i := by
  simp only [sibling, left, right, Fin.mk.injEq]
  rw [Nat.xor_one_of_even (even_two_mul i.val)]

lemma sibling_right (i : Fin (2 ^ k)) : sibling (right i) = left i := by
  simp only [sibling, left, right, Fin.mk.injEq]
  rw [Nat.xor_one_of_odd (odd_two_mul_add_one i.val), Nat.add_sub_cancel]

section Hashed

variable (hash : α → α → α)

def above (level : Level α (k + 1)) : Level α k := fun i => hash (level (left i)) (level (right i))

def root : {k : ℕ} → Level α k → α
  | 0, level => level 0
  | _ + 1, level => root (above hash level)

/-- For each level on the way up, whether the current node is the right one of its pair, and the other one. -/
def branch : {k : ℕ} → Level α k → Fin (2 ^ k) → List (Bool × α)
  | 0, _, _ => []
  | _ + 1, level, i => (i.val % 2 == 1, level (sibling i)) :: branch (above hash level) (parent i)

def fold (current : α) (siblings : List (Bool × α)) : α :=
  siblings.foldl (fun current step => if step.1 then hash step.2 current else hash current step.2) current

lemma fold_cons (current : α) (step : Bool × α) (siblings : List (Bool × α)) :
    fold hash current (step :: siblings) =
      fold hash (if step.1 then hash step.2 current else hash current step.2) siblings := rfl

lemma step_update (level : Level α (k + 1)) (i : Fin (2 ^ (k + 1))) (a : α) :
    above hash (Function.update level i a) =
      Function.update (above hash level) (parent i)
        (if i.val % 2 == 1 then hash (level (sibling i)) a else hash a (level (sibling i))) := by
  funext j
  by_cases hj : j = parent i
  · subst hj
    rw [Function.update_self, above]
    obtain ⟨hi, hleft⟩ | ⟨hi, hright⟩ := left_or_right i
    · have hne : right (parent i) ≠ i := by
        intro h
        rw [← h, right] at hi
        simp only at hi
        omega
      have hsibling : sibling i = right (parent i) := by
        rw [← sibling_left, ← hleft]
      rw [← hleft, Function.update_self, Function.update_of_ne hne, hsibling, hi]
      rfl
    · have hne : left (parent i) ≠ i := by
        intro h
        rw [← h, left] at hi
        simp only at hi
        omega
      have hsibling : sibling i = left (parent i) := by
        rw [← sibling_right, ← hright]
      rw [← hright, Function.update_self, Function.update_of_ne hne, hsibling, hi]
      rfl
  · have hleft : left j ≠ i := by
      rintro rfl
      apply hj
      simp [parent, left]
    have hright : right j ≠ i := by
      rintro rfl
      apply hj
      simp only [parent, right, Fin.ext_iff]
      omega
    rw [Function.update_of_ne hj, above, above, Function.update_of_ne hleft, Function.update_of_ne hright]

lemma fold_branch_update (level : Level α k) (i : Fin (2 ^ k)) (a : α) :
    fold hash a (branch hash level i) = root hash (Function.update level i a) := by
  induction k generalizing a with
  | zero =>
    have hi : i = 0 := Fin.fin_one_eq_zero i
    subst hi
    rw [root, Function.update_self]
    rfl
  | succ k ih =>
    rw [branch, fold_cons, ih, root, step_update]

lemma fold_branch (level : Level α k) (i : Fin (2 ^ k)) :
    fold hash (level i) (branch hash level i) = root hash level := by
  rw [fold_branch_update, Function.update_eq_self]

end Hashed

end Eip0045.MerkleTree
