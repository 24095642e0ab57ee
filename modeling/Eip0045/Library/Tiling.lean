import Mathlib

/-! Half-open spans that cover an interval one after another. -/

namespace Eip0045.Tiling

/-- The positions `start ≤ i < stop`. -/
structure Span where
  start : ℕ
  stop : ℕ
  deriving DecidableEq

namespace Span

def Contains (s : Span) (i : ℕ) : Prop := s.start ≤ i ∧ i < s.stop

instance (s : Span) (i : ℕ) : Decidable (s.Contains i) := inferInstanceAs (Decidable (_ ∧ _))

end Span

/-- The spans cover `[a, b)` in order, each starting where the one before it stops. -/
def Tiles : ℕ → ℕ → List Span → Prop
  | a, b, [] => a = b
  | a, b, s :: ss => s.start = a ∧ a ≤ s.stop ∧ Tiles s.stop b ss

lemma Tiles.le {a b : ℕ} {ss : List Span} (h : Tiles a b ss) : a ≤ b := by
  induction ss generalizing a with
  | nil => exact le_of_eq h
  | cons s ss ih => exact h.2.1.trans (ih h.2.2)

lemma tiles_append {a c : ℕ} {ss ts : List Span} :
    Tiles a c (ss ++ ts) ↔ ∃ b, Tiles a b ss ∧ Tiles b c ts := by
  induction ss generalizing a with
  | nil => simp [Tiles]
  | cons s ss ih =>
    simp only [List.cons_append, Tiles, ih]
    constructor
    · rintro ⟨hs, hl, b, hb, hc⟩
      exact ⟨b, ⟨hs, hl, hb⟩, hc⟩
    · rintro ⟨b, ⟨hs, hl, hb⟩, hc⟩
      exact ⟨hs, hl, b, hb, hc⟩

lemma Tiles.bounds {a b : ℕ} {ss : List Span} (h : Tiles a b ss) {s : Span} (hs : s ∈ ss) :
    a ≤ s.start ∧ s.start ≤ s.stop ∧ s.stop ≤ b := by
  induction ss generalizing a with
  | nil => exact absurd hs List.not_mem_nil
  | cons t ss ih =>
    obtain ⟨ht, hl, hr⟩ := h
    cases hs with
    | head => exact ⟨ht.ge, ht ▸ hl, hr.le⟩
    | tail _ hs =>
      obtain ⟨h₁, h₂, h₃⟩ := ih hr hs
      exact ⟨hl.trans h₁, h₂, h₃⟩

lemma Tiles.existsUnique {a b : ℕ} {ss : List Span} (h : Tiles a b ss) {i : ℕ} (ha : a ≤ i)
    (hb : i < b) : ∃! k : Fin ss.length, (ss.get k).Contains i := by
  induction ss generalizing a with
  | nil => exact absurd (ha.trans_lt hb) (by rw [Tiles] at h; omega)
  | cons s ss ih =>
    obtain ⟨hs, hl, hr⟩ := h
    by_cases hi : i < s.stop
    · refine ⟨⟨0, Nat.succ_pos _⟩, ⟨hs.trans_le ha, hi⟩, ?_⟩
      intro k hk
      obtain ⟨_ | k, hlt⟩ := k
      · rfl
      · have hmem : ss.get ⟨k, Nat.lt_of_succ_lt_succ hlt⟩ ∈ ss := List.get_mem _ _
        have hstart : (ss.get ⟨k, Nat.lt_of_succ_lt_succ hlt⟩).start ≤ i := hk.1
        have := (hr.bounds hmem).1
        omega
    · obtain ⟨k, hk, huniq⟩ := ih hr (not_lt.mp hi)
      refine ⟨k.succ, hk, ?_⟩
      intro l hl'
      obtain ⟨_ | l, hlt⟩ := l
      · exact absurd hl'.2 hi
      · exact congrArg Fin.succ (huniq ⟨l, Nat.lt_of_succ_lt_succ hlt⟩ hl')

lemma Tiles.existsUnique_label {ι : Type} {span : ι → Span} {labels : List ι} {a b : ℕ}
    (h : Tiles a b (labels.map span)) (hrest : ∀ l, l ∉ labels → ∀ i, ¬(span l).Contains i)
    {i : ℕ} (ha : a ≤ i) (hb : i < b) : ∃! l, (span l).Contains i := by
  obtain ⟨k, hk, hunique⟩ := h.existsUnique ha hb
  have hlength : (labels.map span).length = labels.length := List.length_map span
  refine ⟨labels.get ⟨k.val, hlength ▸ k.isLt⟩, ?_, ?_⟩
  · simpa using hk
  · intro l hl
    have hmem : l ∈ labels := not_not.mp fun hnot => hrest l hnot i hl
    obtain ⟨j, hj, rfl⟩ := List.mem_iff_getElem.mp hmem
    have hjk := hunique ⟨j, hlength ▸ hj⟩ (by simpa using hl)
    simp only [← hjk]
    rfl

lemma tiles_range {cut : ℕ → ℕ} {pieces : ℕ → List Span} {n : ℕ}
    (h : ∀ i < n, Tiles (cut i) (cut (i + 1)) (pieces i)) :
    Tiles (cut 0) (cut n) ((List.range n).flatMap pieces) := by
  induction n with
  | zero => rfl
  | succ n ih =>
    rw [List.range_succ, List.flatMap_append]
    apply tiles_append.mpr
    refine ⟨cut n, ih fun i hi => h i (Nat.lt_succ_of_lt hi), ?_⟩
    simpa using h n (Nat.lt_succ_self n)

end Eip0045.Tiling
