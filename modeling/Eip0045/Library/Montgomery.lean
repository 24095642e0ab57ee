import Mathlib

/-! Residues kept multiplied by a fixed unit `r`, with `s` its inverse modulo `p`. -/

namespace Eip0045.Montgomery

variable {p r s v w : ℕ}

def toForm (p r v : ℕ) : ℕ := v * r % p
def fromForm (p s w : ℕ) : ℕ := w * s % p

lemma toForm_lt (hp : 0 < p) : toForm p r v < p := Nat.mod_lt _ hp

lemma fromForm_lt (hp : 0 < p) : fromForm p s w < p := Nat.mod_lt _ hp

lemma mul_cancel (h : r * s ≡ 1 [MOD p]) (hv : v < p) : v * r % p * s % p = v := by
  have hmod : v * r % p * s ≡ v * r * s [MOD p] := (Nat.mod_modEq (v * r) p).mul_right s
  have hone : v * r * s ≡ v [MOD p] := by
    rw [Nat.mul_assoc]
    simpa only [Nat.mul_one] using h.mul_left v
  exact Nat.mod_eq_of_modEq (hmod.trans hone) hv

lemma fromForm_toForm (h : r * s ≡ 1 [MOD p]) (hv : v < p) : fromForm p s (toForm p r v) = v :=
  mul_cancel h hv

lemma toForm_fromForm (h : r * s ≡ 1 [MOD p]) (hw : w < p) : toForm p r (fromForm p s w) = w :=
  mul_cancel (by rwa [Nat.mul_comm]) hw

lemma fromForm_injOn (h : r * s ≡ 1 [MOD p]) : Set.InjOn (fromForm p s) (Set.Iio p) := by
  intro v hv w hw hvw
  rw [← toForm_fromForm h hv, hvw, toForm_fromForm h hw]

end Eip0045.Montgomery
