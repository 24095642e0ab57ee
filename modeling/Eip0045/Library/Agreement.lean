import Mathlib
import Eip0045.Library.Checked

/-! A checked computation that succeeds exactly when a reference does, with related results. -/

namespace Eip0045.Checked

variable {ε σ σ' τ τ' β : Type} {R : σ → τ → Prop} {R' : σ' → τ' → Prop}

def Agrees (R : σ → τ → Prop) (x : Except ε σ) (y : Option τ) : Prop :=
  (∀ s, x = .ok s → ∃ t, y = some t ∧ R s t) ∧ (∀ t, y = some t → ∃ s, x = .ok s ∧ R s t)

lemma Agrees.ok {s : σ} {t : τ} (h : R s t) : Agrees R (.ok s : Except ε σ) (some t) := by
  constructor
  · intro s' hs
    cases hs
    exact ⟨t, rfl, h⟩
  · intro t' ht
    cases ht
    exact ⟨s, rfl, h⟩

lemma Agrees.none {x : Except ε σ} (h : ∀ s, x ≠ .ok s) : Agrees R x (.none : Option τ) :=
  ⟨fun s hs => absurd hs (h s), fun _ ht => nomatch ht⟩

lemma Agrees.of_iff {x : Except ε σ} {y : Option τ} {s : σ} {t : τ} {P Q : Prop}
    (hx : ∀ s', x = .ok s' ↔ P ∧ s' = s) (hy : ∀ t', y = some t' ↔ Q ∧ t' = t) (hpq : P ↔ Q)
    (h : P → R s t) : Agrees R x y := by
  constructor
  · intro s' hs
    obtain ⟨hp, rfl⟩ := (hx s').mp hs
    exact ⟨t, (hy t).mpr ⟨hpq.mp hp, rfl⟩, h hp⟩
  · intro t' ht
    obtain ⟨hq, rfl⟩ := (hy t').mp ht
    exact ⟨s, (hx s).mpr ⟨hpq.mpr hq, rfl⟩, h (hpq.mpr hq)⟩

lemma Agrees.mono {Q : σ → τ → Prop} {x : Except ε σ} {y : Option τ} (h : Agrees R x y)
    (hq : ∀ s t, x = .ok s → y = some t → R s t → Q s t) : Agrees Q x y := by
  constructor
  · intro s hs
    obtain ⟨t, ht, hr⟩ := h.1 s hs
    exact ⟨t, ht, hq s t hs ht hr⟩
  · intro t ht
    obtain ⟨s, hs, hr⟩ := h.2 t ht
    exact ⟨s, hs, hq s t hs ht hr⟩

lemma Agrees.bind {x : Except ε σ} {y : Option τ} {f : σ → Except ε σ'} {g : τ → Option τ'}
    (h : Agrees R x y) (hf : ∀ s t, R s t → Agrees R' (f s) (g t)) :
    Agrees R' (x >>= f) (y.bind g) := by
  constructor
  · intro s' hs'
    obtain ⟨s, hs, hfs⟩ := bind_ok.mp hs'
    obtain ⟨t, ht, hr⟩ := h.1 s hs
    obtain ⟨t', ht', hr'⟩ := (hf s t hr).1 s' hfs
    exact ⟨t', by rw [ht]; exact ht', hr'⟩
  · intro t' ht'
    obtain ⟨t, ht, hgt⟩ := Option.bind_eq_some_iff.mp ht'
    obtain ⟨s, hs, hr⟩ := h.2 t ht
    obtain ⟨s', hs', hr'⟩ := (hf s t hr).2 t' hgt
    exact ⟨s', bind_ok.mpr ⟨s, hs, hs'⟩, hr'⟩

lemma Agrees.foldlM_range {R : ℕ → σ → τ → Prop} {f : σ → ℕ → Except ε σ} {g : τ → β → Option τ}
    (items : List β) (step : ∀ i b s t, items[i]? = some b → R i s t →
      Agrees (R (i + 1)) (f s i) (g t b)) {s : σ} {t : τ} (h : R 0 s t) :
    Agrees (R items.length) ((List.range items.length).foldlM f s) (items.foldlM g t) := by
  have run : ∀ (rest : List β) k, items.drop k = rest → ∀ s t, R k s t →
      Agrees (R (k + rest.length)) ((List.range' k rest.length).foldlM f s) (rest.foldlM g t) := by
    intro rest
    induction rest with
    | nil => exact fun _ _ s t hr => Agrees.ok hr
    | cons b rest ih =>
      intro k hdrop s t hr
      have hb : items[k]? = some b := by
        rw [← List.head?_drop, hdrop, List.head?_cons]
      have hrest : items.drop (k + 1) = rest := by
        rw [← List.drop_drop, hdrop, List.drop_one, List.tail_cons]
      rw [List.length_cons, List.range'_succ, List.foldlM_cons, List.foldlM_cons,
        Nat.add_comm rest.length, ← Nat.add_assoc]
      exact (step k b s t hb hr).bind fun s t hr => ih (k + 1) hrest s t hr
  rw [List.range_eq_range']
  have hrun := run items 0 rfl s t h
  rwa [Nat.zero_add] at hrun

lemma foldlM_invariant {f : σ → β → Except ε σ} {I : ℕ → σ → Prop} (items : List β)
    (step : ∀ i b s, items[i]? = some b → I i s → ∃ s', f s b = .ok s' ∧ I (i + 1) s') {s : σ}
    (h : I 0 s) : ∃ s', items.foldlM f s = .ok s' ∧ I items.length s' := by
  have run : ∀ (rest : List β) k, items.drop k = rest → ∀ s, I k s →
      ∃ s', rest.foldlM f s = .ok s' ∧ I (k + rest.length) s' := by
    intro rest
    induction rest with
    | nil => exact fun k _ s hs => ⟨s, rfl, hs⟩
    | cons b rest ih =>
      intro k hdrop s hs
      have hb : items[k]? = some b := by
        rw [← List.head?_drop, hdrop, List.head?_cons]
      obtain ⟨s₁, hf, hs₁⟩ := step k b s hb hs
      have hrest : items.drop (k + 1) = rest := by
        rw [← List.drop_drop, hdrop, List.drop_one, List.tail_cons]
      obtain ⟨s', hrun, hs'⟩ := ih (k + 1) hrest s₁ hs₁
      rw [List.length_cons, List.foldlM_cons, hf, ok_bind]
      exact ⟨s', hrun, by rwa [Nat.add_comm rest.length, ← Nat.add_assoc]⟩
  have hrun := run items 0 rfl s h
  rwa [Nat.zero_add] at hrun

lemma foldlM_range_invariant {f : σ → ℕ → Except ε σ} {I : ℕ → σ → Prop} (items : List β)
    (step : ∀ i b s, items[i]? = some b → I i s → ∃ s', f s i = .ok s' ∧ I (i + 1) s') {s : σ}
    (h : I 0 s) : ∃ s', (List.range items.length).foldlM f s = .ok s' ∧ I items.length s' := by
  have hrun := foldlM_invariant (ε := ε) (f := f) (I := I) (List.range items.length)
    (fun i b s hb => by
      obtain ⟨hlt, rfl⟩ := List.getElem?_eq_some_iff.mp hb
      rw [List.getElem_range]
      rw [List.length_range] at hlt
      exact step i (items.get ⟨i, hlt⟩) s (List.getElem?_eq_getElem hlt)) h
  rwa [List.length_range] at hrun

lemma foldlM_zipIdx_invariant {f : σ → β × ℕ → Except ε σ} {I : ℕ → σ → Prop} (items : List β)
    (step : ∀ i b s, items[i]? = some b → I i s → ∃ s', f s (b, i) = .ok s' ∧ I (i + 1) s') {s : σ}
    (h : I 0 s) : ∃ s', items.zipIdx.foldlM f s = .ok s' ∧ I items.length s' := by
  have hrun := foldlM_invariant (ε := ε) (f := f) (I := I) items.zipIdx (fun i b s hb => by
    rw [List.getElem?_zipIdx, Nat.zero_add] at hb
    obtain ⟨c, hc, rfl⟩ := Option.map_eq_some_iff.mp hb
    exact step i c s hc) h
  rwa [List.length_zipIdx] at hrun

lemma Agrees.foldlM_zipIdx {γ : Type} {R : ℕ → σ → τ → Prop} {f : σ → γ × ℕ → Except ε σ}
    {g : τ → β → Option τ} (weight : β → γ) (items : List β) (step : ∀ i b s t,
      items[i]? = some b → R i s t → Agrees (R (i + 1)) (f s (weight b, i)) (g t b)) {s : σ} {t : τ}
    (h : R 0 s t) :
    Agrees (R items.length) ((items.map weight).zipIdx.foldlM f s) (items.foldlM g t) := by
  have run : ∀ (rest : List β) k, items.drop k = rest → ∀ s t, R k s t →
      Agrees (R (k + rest.length)) (((rest.map weight).zipIdx k).foldlM f s) (rest.foldlM g t) := by
    intro rest
    induction rest with
    | nil => exact fun _ _ s t hr => Agrees.ok hr
    | cons b rest ih =>
      intro k hdrop s t hr
      have hb : items[k]? = some b := by
        rw [← List.head?_drop, hdrop, List.head?_cons]
      have hrest : items.drop (k + 1) = rest := by
        rw [← List.drop_drop, hdrop, List.drop_one, List.tail_cons]
      rw [List.map_cons, List.zipIdx_cons, List.length_cons, List.foldlM_cons, List.foldlM_cons,
        Nat.add_comm rest.length, ← Nat.add_assoc]
      exact (step k b s t hb hr).bind fun s t hr => ih (k + 1) hrest s t hr
  have hrun := run items 0 rfl s t h
  rwa [Nat.zero_add] at hrun

end Eip0045.Checked
