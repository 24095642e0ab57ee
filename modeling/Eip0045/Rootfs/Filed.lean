import Mathlib
import Eip0045.Rootfs.Effects

/-! The journal's source index is a bijection onto its operations, and so are its extents onto the
regular ones. -/

namespace Eip0045.Rootfs

open Checked

section Lists

variable {α β : Type}

lemma getElem?_concat_eq_some {xs : List α} {x y : α} {i : ℕ} :
    (xs ++ [x])[i]? = some y ↔ xs[i]? = some y ∨ i = xs.length ∧ x = y := by
  rcases lt_trichotomy i xs.length with h | h | h
  · rw [List.getElem?_append_left h]
    simp [h.ne]
  · subst h
    simp
  · rw [List.getElem?_append_right h.le, List.getElem?_eq_none (by simp; omega),
      List.getElem?_eq_none h.le]
    simp [h.ne']

lemma getElem?_set_eq_some {xs : List α} {x y : α} {i j : ℕ} (hi : i < xs.length) :
    (xs.set i x)[j]? = some y ↔ (i = j ∧ x = y) ∨ (i ≠ j ∧ xs[j]? = some y) := by
  rw [List.getElem?_set]
  by_cases h : i = j
  · subst h
    simp [hi]
  · simp [h]

lemma forall₂_filterMap {f : α → Option β} {xs : List α} (h : ∀ x ∈ xs, (f x).isSome) :
    List.Forall₂ (fun x y => f x = some y) xs (xs.filterMap f) := by
  induction xs with
  | nil => exact List.Forall₂.nil
  | cons x xs ih =>
    rw [List.forall_mem_cons] at h
    obtain ⟨y, hy⟩ := Option.isSome_iff_exists.mp h.1
    rw [List.filterMap_cons_some hy]
    exact List.Forall₂.cons hy (ih h.2)

lemma forall₂_getElem? {r : α → β → Prop} {xs : List α} {ys : List β} (h : List.Forall₂ r xs ys)
    {i : ℕ} {x : α} (hx : xs[i]? = some x) : ∃ y, ys[i]? = some y ∧ r x y := by
  induction h generalizing i with
  | nil => simp at hx
  | cons hr _ ih =>
    cases i with
    | zero =>
      cases hx
      exact ⟨_, rfl, hr⟩
    | succ i => exact ih hx

lemma sum_set_succ {xs : List ℕ} {i n : ℕ} (h : xs[i]? = some n) :
    (xs.set i (n + 1)).sum = xs.sum + 1 := by
  induction xs generalizing i with
  | nil => simp at h
  | cons x xs ih =>
    cases i with
    | zero =>
      cases h
      simp only [List.set_cons_zero, List.sum_cons]
      omega
    | succ i =>
      rw [List.set_cons_succ, List.sum_cons, List.sum_cons, ih h]
      omega

end Lists

namespace Journal

variable (journal : Journal)

/-- The operations that the source index of a layer lists. -/
def layerOperations (layer : ℕ) : List Operation :=
  (journal.operationsBySource[layer]?.getD []).filterMap (journal.operations[·]?)

def push (operation : Operation) (sources : List ℕ) : Journal := { journal with
  operations := journal.operations ++ [operation]
  operationsBySource := journal.operationsBySource.set operation.source.semanticLayerIndex
    (sources ++ [journal.operations.length]) }

def extend (extent : RegularExtent) : Journal := { journal with
  physicalRegularExtents := journal.physicalRegularExtents ++ [extent] }

end Journal

variable {journal : Journal} {captured : List ℕ} {operation : Operation} {sources : List ℕ}

lemma operationAtSource_eq_ok {layer index operationIndex : ℕ} :
    journal.operationAtSource layer index = .ok (operationIndex, operation) ↔
      layer < journal.expectedSemanticLayers ∧
        (∃ sources, journal.operationsBySource[layer]? = some sources ∧
          sources[index]? = some operationIndex) ∧
        journal.operations[operationIndex]? = some operation ∧
        operation.source = ⟨layer, index⟩ := by
  simp only [Journal.operationAtSource, Journal.semanticLayerSlot, bind_ok, exists_unit, report_ok,
    ensure_ok, context_ok, item_ok, pure_ok, Prod.mk.injEq]
  constructor
  · rintro ⟨_, ⟨hlt, rfl⟩, sources, hsources, _, hindex, _, hop, hsource, rfl, rfl⟩
    exact ⟨hlt, ⟨sources, hsources, hindex⟩, hop, hsource⟩
  · rintro ⟨hlt, ⟨sources, hsources, hindex⟩, hop, hsource⟩
    exact ⟨_, ⟨hlt, rfl⟩, sources, hsources, _, hindex, _, hop, hsource, rfl, rfl⟩

/-- The source index lists each operation once, under its own source, and nothing else. -/
structure Filed (journal : Journal) (captured : List ℕ) : Prop where
  layers : journal.operationsBySource.length = journal.expectedSemanticLayers
  capturedLayers : captured.length = journal.expectedSemanticLayers
  counts : ∀ (layer : ℕ) (sources : List ℕ), journal.operationsBySource[layer]? = some sources →
    captured[layer]? = some sources.length
  listed : ∀ (layer : ℕ) (sources : List ℕ), journal.operationsBySource[layer]? = some sources →
    ∀ (index i : ℕ), sources[index]? = some i →
      ∃ operation, journal.operations[i]? = some operation ∧ operation.source = ⟨layer, index⟩
  indexed : journal.Indexed
  total : (journal.operationsBySource.map List.length).sum = journal.operations.length

namespace Filed

lemma forall₂ (h : Filed journal captured) (layer : ℕ) :
    List.Forall₂ (fun i operation => journal.operations[i]? = some operation)
      (journal.operationsBySource[layer]?.getD []) (journal.layerOperations layer) := by
  apply forall₂_filterMap
  intro i hi
  cases hs : journal.operationsBySource[layer]? with
  | none => simp [hs] at hi
  | some sources =>
    rw [hs, Option.getD_some] at hi
    obtain ⟨index, hindex⟩ := List.mem_iff_getElem?.mp hi
    obtain ⟨operation, hop, _⟩ := h.listed layer sources hs index i hindex
    rw [hop]
    rfl

lemma length_layerOperations (h : Filed journal captured) {layer : ℕ}
    (hs : journal.operationsBySource[layer]? = some sources) :
    (journal.layerOperations layer).length = sources.length := by
  have hlength := (h.forall₂ layer).length_eq
  rw [hs] at hlength
  exact hlength.symm

lemma source_eq (h : Filed journal captured) {layer index : ℕ}
    (ho : (journal.layerOperations layer)[index]? = some operation) :
    ∃ i : ℕ, journal.operations[i]? = some operation ∧ operation.source = ⟨layer, index⟩ := by
  have hflip : List.Forall₂ (fun operation (i : ℕ) => journal.operations[i]? = some operation)
      (journal.layerOperations layer) (journal.operationsBySource[layer]?.getD []) :=
    (h.forall₂ layer).flip
  obtain ⟨i, hi, hop⟩ := forall₂_getElem? hflip ho
  cases hs : journal.operationsBySource[layer]? with
  | none => simp [hs] at hi
  | some sources =>
    rw [hs, Option.getD_some] at hi
    obtain ⟨operation', hop', hsource⟩ := h.listed layer sources hs index i hi
    rw [hop] at hop'
    cases hop'
    exact ⟨i, hop, hsource⟩

lemma at_position (h : Filed journal captured) {layer index : ℕ}
    (ho : (journal.layerOperations layer)[index]? = some operation) :
    ∃ i, journal.operationAtSource layer index = .ok (i, operation) := by
  obtain ⟨i, hop, hsource⟩ := h.source_eq ho
  have hat := h.indexed i operation hop
  rw [hsource] at hat
  exact ⟨i, hat⟩

lemma extend (h : Filed journal captured) (extent : RegularExtent) :
    Filed (journal.extend extent) captured :=
  ⟨h.1, h.2, h.3, h.4, h.5, h.6⟩

lemma lt_of_mem (h : Filed journal captured) {layer : ℕ}
    (hs : journal.operationsBySource[layer]? = some sources) {i : ℕ} (hi : i ∈ sources) :
    i < journal.operations.length := by
  obtain ⟨index, hindex⟩ := List.mem_iff_getElem?.mp hi
  obtain ⟨_, hop, _⟩ := h.listed layer sources hs index i hindex
  exact (List.getElem?_eq_some_iff.mp hop).1

lemma layerOperations_push (h : Filed journal captured)
    (hs : journal.operationsBySource[operation.source.semanticLayerIndex]? = some sources)
    (layer : ℕ) : (journal.push operation sources).layerOperations layer =
      journal.layerOperations layer ++
        if operation.source.semanticLayerIndex = layer then [operation] else [] := by
  have hkeep : ∀ (layer : ℕ) (sources : List ℕ), journal.operationsBySource[layer]? = some sources →
      sources.filterMap ((journal.operations ++ [operation])[·]?) =
        sources.filterMap (journal.operations[·]?) := by
    intro layer sources hs
    apply List.filterMap_congr
    intro i hi
    rw [List.getElem?_append_left (h.lt_of_mem hs hi)]
  obtain ⟨hlt, -⟩ := List.getElem?_eq_some_iff.mp hs
  rw [Journal.layerOperations, Journal.layerOperations, Journal.push]
  by_cases hl : operation.source.semanticLayerIndex = layer
  · subst hl
    rw [List.getElem?_set_self hlt, Option.getD_some, List.filterMap_append, hkeep _ sources hs, hs,
      if_pos rfl, Option.getD_some]
    simp
  · rw [List.getElem?_set_ne hl, if_neg hl, List.append_nil]
    cases hs' : journal.operationsBySource[layer]? with
    | none => rfl
    | some sources' => exact hkeep layer sources' hs'

lemma push (h : Filed journal captured)
    (hs : journal.operationsBySource[operation.source.semanticLayerIndex]? = some sources)
    (hlength : sources.length = operation.source.archiveEntryIndex) :
    Filed (journal.push operation sources) (captured.set operation.source.semanticLayerIndex
      (operation.source.archiveEntryIndex + 1)) := by
  obtain ⟨hlt, hget⟩ := List.getElem?_eq_some_iff.mp hs
  have hlt' : operation.source.semanticLayerIndex < captured.length := by
    rw [h.capturedLayers, ← h.layers]
    exact hlt
  refine ⟨?_, ?_, ?_, ?_, ?_, ?_⟩
  · rw [Journal.push, List.length_set]
    exact h.layers
  · rw [List.length_set]
    exact h.capturedLayers
  · intro layer sources' hs'
    rw [Journal.push, getElem?_set_eq_some hlt] at hs'
    rw [getElem?_set_eq_some hlt']
    rcases hs' with ⟨rfl, rfl⟩ | ⟨hne, hs'⟩
    · left
      simp [hlength]
    · exact .inr ⟨hne, h.counts layer sources' hs'⟩
  · intro layer sources' hs' index i hi
    simp only [Journal.push, getElem?_concat_eq_some]
    rw [Journal.push, getElem?_set_eq_some hlt] at hs'
    rcases hs' with ⟨rfl, rfl⟩ | ⟨_, hs'⟩
    · rcases getElem?_concat_eq_some.mp hi with hi | ⟨rfl, rfl⟩
      · obtain ⟨found, hfound, hsource⟩ := h.listed _ sources hs index i hi
        exact ⟨found, .inl hfound, hsource⟩
      · exact ⟨operation, .inr ⟨rfl, rfl⟩, by rw [hlength]⟩
    · obtain ⟨found, hfound, hsource⟩ := h.listed _ sources' hs' index i hi
      exact ⟨found, .inl hfound, hsource⟩
  · intro i found hfound
    rw [operationAtSource_eq_ok]
    refine ⟨?_, ?_, hfound, rfl⟩
    · rcases getElem?_concat_eq_some.mp hfound with hfound | ⟨_, rfl⟩
      · exact (operationAtSource_eq_ok.mp (h.indexed i found hfound)).1
      · rw [Journal.push, ← h.layers]
        exact hlt
    · simp only [Journal.push, getElem?_set_eq_some hlt]
      rcases getElem?_concat_eq_some.mp hfound with hfound | ⟨rfl, rfl⟩
      · obtain ⟨_, ⟨sources', hs', hi⟩, _⟩ := operationAtSource_eq_ok.mp (h.indexed i found hfound)
        by_cases hl : operation.source.semanticLayerIndex = found.source.semanticLayerIndex
        · rw [← hl, hs] at hs'
          cases hs'
          exact ⟨_, .inl ⟨hl, rfl⟩, getElem?_concat_eq_some.mpr (.inl hi)⟩
        · exact ⟨_, .inr ⟨hl, hs'⟩, hi⟩
      · exact ⟨_, .inl ⟨rfl, rfl⟩, getElem?_concat_eq_some.mpr (.inr ⟨hlength.symm, rfl⟩)⟩
  · have hsum := h.total
    rw [Journal.push, List.map_set, List.length_append, List.length_append, List.length_singleton,
      List.length_singleton, ← hsum]
    exact sum_set_succ (by rw [List.getElem?_map, hs]; rfl)

end Filed

/-- Each extent belongs to exactly one regular operation, which agrees with it. -/
structure Referenced (journal : Journal) : Prop where
  agrees : ∀ (i : ℕ) (operation : Operation) (extentIndex : ℕ),
    journal.operations[i]? = some operation → operation.kind = .regular extentIndex →
      ∃ extent, journal.physicalRegularExtents[extentIndex]? = some extent ∧
        extent.byteLength = operation.byteLength ∧ extent.mode = operation.mode ∧
          extent.source = operation.source
  unique : ∀ (i i' : ℕ) (operation operation' : Operation) (extentIndex : ℕ),
    journal.operations[i]? = some operation → journal.operations[i']? = some operation' →
      operation.kind = .regular extentIndex → operation'.kind = .regular extentIndex → i = i'
  covered : ∀ extentIndex < journal.physicalRegularExtents.length, ∃ (i : ℕ) (operation : Operation),
    journal.operations[i]? = some operation ∧ operation.kind = .regular extentIndex

namespace Referenced

lemma extent_lt (h : Referenced journal) {i extentIndex : ℕ}
    (hop : journal.operations[i]? = some operation) (hk : operation.kind = .regular extentIndex) :
    extentIndex < journal.physicalRegularExtents.length := by
  obtain ⟨extent, hextent, _⟩ := h.agrees i operation extentIndex hop hk
  exact (List.getElem?_eq_some_iff.mp hextent).1

lemma push_inert (h : Referenced journal) (hk : ∀ k, operation.kind ≠ .regular k)
    (sources : List ℕ) : Referenced (journal.push operation sources) := by
  refine ⟨?_, ?_, ?_⟩
  · intro i found k hfound hkind
    rcases getElem?_concat_eq_some.mp hfound with hfound | ⟨_, rfl⟩
    · exact h.agrees i found k hfound hkind
    · exact absurd hkind (hk k)
  · intro i i' found found' k hfound hfound' hkind hkind'
    rcases getElem?_concat_eq_some.mp hfound with hfound | ⟨_, rfl⟩
    · rcases getElem?_concat_eq_some.mp hfound' with hfound' | ⟨_, rfl⟩
      · exact h.unique i i' found found' k hfound hfound' hkind hkind'
      · exact absurd hkind' (hk k)
    · exact absurd hkind (hk k)
  · intro k hlt
    obtain ⟨i, found, hfound, hkind⟩ := h.covered k hlt
    exact ⟨i, found, getElem?_concat_eq_some.mpr (.inl hfound), hkind⟩

lemma push_regular (h : Referenced journal) {extent : RegularExtent}
    (hk : operation.kind = .regular journal.physicalRegularExtents.length)
    (hagrees : extent.byteLength = operation.byteLength ∧ extent.mode = operation.mode ∧
      extent.source = operation.source) (sources : List ℕ) :
    Referenced ((journal.extend extent).push operation sources) := by
  have hfresh : ∀ {i : ℕ} {found : Operation}, journal.operations[i]? = some found →
      found.kind ≠ .regular journal.physicalRegularExtents.length := by
    intro i found hfound hkind
    exact (h.extent_lt hfound hkind).ne rfl
  refine ⟨?_, ?_, ?_⟩
  · intro i found k hfound hkind
    rcases getElem?_concat_eq_some.mp hfound with hfound | ⟨_, rfl⟩
    · obtain ⟨extent', hextent, hrest⟩ := h.agrees i found k hfound hkind
      exact ⟨extent', getElem?_concat_eq_some.mpr (.inl hextent), hrest⟩
    · rw [hk] at hkind
      cases hkind
      exact ⟨extent, getElem?_concat_eq_some.mpr (.inr ⟨rfl, rfl⟩), hagrees⟩
  · intro i i' found found' k hfound hfound' hkind hkind'
    rcases getElem?_concat_eq_some.mp hfound with hfound | ⟨rfl, rfl⟩
    · rcases getElem?_concat_eq_some.mp hfound' with hfound' | ⟨_, rfl⟩
      · exact h.unique i i' found found' k hfound hfound' hkind hkind'
      · rw [hk] at hkind'
        cases hkind'
        exact absurd hkind (hfresh hfound)
    · rcases getElem?_concat_eq_some.mp hfound' with hfound' | ⟨rfl, _⟩
      · rw [hk] at hkind
        cases hkind
        exact absurd hkind' (hfresh hfound')
      · rfl
  · intro k hlt
    simp only [Journal.push, Journal.extend, List.length_append, List.length_singleton] at hlt
    rcases Nat.lt_succ_iff_lt_or_eq.mp hlt with hlt | rfl
    · obtain ⟨i, found, hfound, hkind⟩ := h.covered k hlt
      exact ⟨i, found, getElem?_concat_eq_some.mpr (.inl hfound), hkind⟩
    · exact ⟨_, operation, getElem?_concat_eq_some.mpr (.inr ⟨rfl, rfl⟩), hk⟩

end Referenced

end Eip0045.Rootfs
