import Mathlib
import Eip0045.Rootfs.Whiteouts

/-! The entry phase of a layer: parents, type conflicts and replaced subtrees. -/

namespace Eip0045.Rootfs

open Checked

lemma Live.tallyOf_without_le (live : Live) (drop : Bytes → Bool) (weight : Entry → ℕ) :
    Live.tallyOf (SortedMap.without drop live) weight ≤ live.tallyOf weight :=
  SortedMap.total_without_le drop

lemma Live.fits_without {live : Live} (hf : live.tally.Fits) (drop : Bytes → Bool) :
    (Live.tally (SortedMap.without drop live)).Fits :=
  ⟨(live.tallyOf_without_le drop fun entry => entry.counts.entryCount).trans_lt hf.1,
    (live.tallyOf_without_le drop fun entry => entry.counts.regularFileBytes).trans_lt hf.2⟩

namespace Sound

variable {journal : Journal} {projection : Projection} {live : Live} {operationIndex : ℕ}
  {operation : Operation} {entry : Entry}

lemma typed (h : Sound journal projection live) : live.tally.Typed :=
  Live.tally_typed h.counted.noWhiteout

lemma validateProjectionParent_ok (h : Sound journal projection live) (path : Bytes) :
    validateProjectionParent journal.operations projection path = .ok () ↔ live.parentReady path := by
  rw [validateProjectionParent, Live.parentReady]
  cases Paths.rsplitOnce slash path with
  | none => simp [pure, Except.pure]
  | some split =>
    simp only [bind_ok, report_ok, context_ok, item_ok, ensure_ok]
    obtain ⟨hd, hl⟩ | ⟨definition, found, _, hd, hop, _, hl, hdir⟩ := h.lookup split.1
    · simp [hd, Live.directoryAt, hl]
    · simp [hd, hop, hdir]

lemma checkReplacedDirectory_ok (h : Sound journal projection live) (path : Bytes) :
    journal.checkReplacedDirectory projection path = .ok () ↔
      live[path]?.all Entry.isDirectory := by
  rw [Journal.checkReplacedDirectory]
  obtain ⟨hd, hl⟩ | ⟨definition, found, other, hd, hop, hstaged, hl, _⟩ := h.lookup path
  · simp [hd, hl, pure, Except.pure]
  · simp only [hd, bind_ok, item_ok, hop, report_ok, ensure_ok, Option.some.injEq, exists_eq_left', hl,
      Option.all_some]
    exact (Operation.entry_isDirectory hstaged).symm

lemma insert_counted (projection : Projection)
    (h : Counted journal projection.paths projection.counters live)
    (hop : journal.operations[operationIndex]? = some operation)
    (hstaged : operation.entry journal.physicalRegularExtents = some entry)
    (hsubject : entry.whiteoutSubject = none) (effect : EffectReference) :
    Counted journal (projection.paths.insert entry.path ⟨operationIndex, effect⟩)
      (Live.tally (live.insert entry.path entry)) (live.insert entry.path entry) := by
  have hat : journal.entryAt operationIndex = some entry := by
    rw [Journal.entryAt, hop]
    exact hstaged
  refine ⟨?_, ?_, rfl, ?_, ?_⟩
  · intro path
    rw [SortedMap.getElem?_insert', SortedMap.getElem?_insert', h.shows]
    by_cases hp : entry.path = path <;> simp [hp, hat]
  · intro path state hs
    rw [SortedMap.getElem?_insert'] at hs
    by_cases hp : entry.path = path
    · rw [if_pos hp] at hs
      cases hs
      exact ⟨entry, hat⟩
    · rw [if_neg hp] at hs
      exact h.defined path state hs
  · intro path other ho
    rw [SortedMap.getElem?_insert'] at ho
    by_cases hp : entry.path = path
    · rw [if_pos hp] at ho
      cases ho
      exact hsubject
    · rw [if_neg hp] at ho
      exact h.noWhiteout path other ho
  · intro path other ho
    rw [SortedMap.getElem?_insert'] at ho
    by_cases hp : entry.path = path
    · rw [if_pos hp] at ho
      cases ho
      exact hp
    · rw [if_neg hp] at ho
      exact h.selfNamed path other ho

lemma setProjectionDefinition_ok (projection : Projection)
    (h : Counted journal projection.paths projection.counters live)
    (hf : live.tally.Fits)
    (hop : journal.operations[operationIndex]? = some operation)
    (hstaged : operation.entry journal.physicalRegularExtents = some entry)
    (hsubject : entry.whiteoutSubject = none) {effect : EffectReference} {projection' : Projection} :
    setProjectionDefinition journal.operations journal.physicalRegularExtents projection
        operation.path operationIndex effect = .ok projection' ↔
      (Live.tally (live.insert entry.path entry)).Fits ∧ projection' = { projection with
        paths := projection.paths.insert entry.path ⟨operationIndex, effect⟩
        counters := Live.tally (live.insert entry.path entry) } := by
  have hpath := Operation.entry_path hstaged
  have hadd : ∀ rest : Live, NoWhiteoutLive rest → rest.tally.Fits → rest[entry.path]? = none →
      Live.tally (rest.insert entry.path entry) = Live.tally (live.insert entry.path entry) →
      ∀ counters, addLiveCounter journal.physicalRegularExtents rest.tally operation = .ok counters ↔
        (Live.tally (live.insert entry.path entry)).Fits ∧
          counters = Live.tally (live.insert entry.path entry) := by
    intro rest hw hfits hnone htally counters
    rw [addLiveCounter_counts hstaged hsubject (Live.tally_typed hw) hfits,
      ← Live.tally_insert hnone, htally]
  rw [setProjectionDefinition, ← hpath]
  cases hp : projection.paths[entry.path]? with
  | none =>
    have hl := h.path_none.mp hp
    have hdef : projection.liveDefinition entry.path = none := by
      rw [Projection.liveDefinition, hp]
      rfl
    simp only [hdef, bind_ok, item_ok, hop, pure_ok, h.counters, Option.some.injEq, exists_eq_left',
      hadd live h.noWhiteout hf hl rfl]
    constructor
    · rintro ⟨_, ⟨hfits, rfl⟩, rfl⟩
      exact ⟨hfits, rfl⟩
    · rintro ⟨hfits, rfl⟩
      exact ⟨_, ⟨hfits, rfl⟩, rfl⟩
  | some state =>
    obtain ⟨previous, other, hprevious, hother, hl⟩ := h.live_of_path hp
    have hdef : projection.liveDefinition entry.path = some state.liveDefinition := by
      rw [Projection.liveDefinition, hp]
      rfl
    have hnone : (live.erase entry.path)[entry.path]? = none := by
      rw [SortedMap.getElem?_erase', if_pos rfl]
    have hremove : removeLiveCounter journal.physicalRegularExtents projection.counters previous =
        .ok (Live.tally (live.erase entry.path)) := by
      rw [h.counters, Live.tally_erase hl]
      exact removeLiveCounter_counts hother (h.noWhiteout _ _ hl) _
    have hfits : (Live.tally (live.erase entry.path)).Fits := by
      have := hf
      rw [Live.tally_erase hl] at this
      simp only [LiveCounters.Fits, LiveCounters.add_def] at this ⊢
      omega
    have hw : NoWhiteoutLive (live.erase entry.path) := by
      apply h.noWhiteout.mono
      intro path found hfound
      rw [SortedMap.getElem?_erase'] at hfound
      exact (Option.ite_none_left_eq_some.mp hfound).2
    simp only [hdef, bind_ok, item_ok, hprevious, hremove, hop, pure_ok, Option.some.injEq,
      exists_eq_left', Except.ok.injEq,
      hadd (live.erase entry.path) hw hfits hnone (by rw [SortedMap.insert_erase])]
    constructor
    · rintro ⟨_, ⟨hfits, rfl⟩, rfl⟩
      exact ⟨hfits, rfl⟩
    · rintro ⟨hfits, rfl⟩
      exact ⟨_, ⟨hfits, rfl⟩, rfl⟩

/-- What an operation of the entry phase leaves of the paths, effects included. -/
structure Entered (before after : Projection) (operationIndex : ℕ) (operation : Operation)
    (entry : Entry) : Prop where
  kept : ∀ (path : Bytes) (state : PathProjection), after.paths[path]? = some state →
    if entry.whiteoutSubject = none ∧ path = entry.path then
      state = ⟨operationIndex, effectReference operationIndex operation .entry⟩
    else before.paths[path]? = some state
  root : after.rootLastEffect = before.rootLastEffect

end Sound

/-- The overlay of one entry as far as its tally fits machine words. -/
def overlayEntryFit (live : Live) (entry : Entry) : Option Live :=
  (overlayEntry live entry).filter fun live => live.tally.Fits

namespace Sound

variable {journal : Journal} {projection : Projection} {live : Live} {operationIndex : ℕ}
  {operation : Operation} {entry : Entry}

lemma applyEntry_agrees (h : Sound journal projection live) (hf : live.tally.Fits)
    (hop : journal.operations[operationIndex]? = some operation)
    (hstaged : operation.entry journal.physicalRegularExtents = some entry) :
    Agrees (fun projection' live' => Sound journal projection' live' ∧ live'.tally.Fits ∧
      Entered projection projection' operationIndex operation entry)
      (journal.applyEntry projection operationIndex operation) (overlayEntryFit live entry) := by
  have hpath := Operation.entry_path hstaged
  have hinert : entry.whiteoutSubject ≠ none →
      journal.applyEntry projection operationIndex operation = .ok projection →
      overlayEntry live entry = some live →
      Agrees (fun projection' live' => Sound journal projection' live' ∧ live'.tally.Fits ∧
        Entered projection projection' operationIndex operation entry)
        (journal.applyEntry projection operationIndex operation) (overlayEntryFit live entry) := by
    intro hs hcode hover
    rw [hcode, overlayEntryFit, hover, Option.filter_some, if_pos (decide_eq_true hf)]
    refine Agrees.ok ⟨h, hf, ?_, rfl⟩
    intro path state hstate
    rwa [if_neg fun hc => hs hc.1]
  have hreplace : entry.whiteoutSubject = none →
      journal.applyEntry projection operationIndex operation = (do
        validateProjectionParent journal.operations projection operation.path
        let projection ← removeProjectionSubtree journal.operations journal.physicalRegularExtents
          projection operation.path true
        setProjectionDefinition journal.operations journal.physicalRegularExtents projection
          operation.path operationIndex (effectReference operationIndex operation .entry)) →
      overlayEntry live entry = (if live.parentReady entry.path then
        some ((SortedMap.without (Inside entry.path) live).insert entry.path entry) else none) →
      Agrees (fun projection' live' => Sound journal projection' live' ∧ live'.tally.Fits ∧
        Entered projection projection' operationIndex operation entry)
        (journal.applyEntry projection operationIndex operation) (overlayEntryFit live entry) := by
    intro hs hcode hover
    have hcounted := h.counted.without fun path => Inside entry.path path
    have hfits : (Live.tally (SortedMap.without (fun path => Inside entry.path path) live)).Fits :=
      Live.fits_without hf _
    rw [hcode, overlayEntryFit, hover, ← hpath]
    apply Agrees.of_iff
      (P := live.parentReady entry.path ∧
        (Live.tally ((SortedMap.without (Inside entry.path) live).insert entry.path entry)).Fits)
      (Q := live.parentReady entry.path ∧
        (Live.tally ((SortedMap.without (Inside entry.path) live).insert entry.path entry)).Fits)
      (s := { projection with
        paths := (SortedMap.without (fun path => Inside entry.path path) projection.paths).insert
          entry.path ⟨operationIndex, effectReference operationIndex operation .entry⟩
        counters := Live.tally
          ((SortedMap.without (Inside entry.path) live).insert entry.path entry) })
      (t := (SortedMap.without (Inside entry.path) live).insert entry.path entry)
    · intro projection'
      rw [bind_ok, exists_unit, h.validateProjectionParent_ok, h.removeInside, ok_bind, hpath,
        setProjectionDefinition_ok { projection with
          paths := SortedMap.without (fun path => Inside operation.path path) projection.paths
          counters := Live.tally
            (SortedMap.without (fun path => Inside operation.path path) live) }
          (hpath ▸ hcounted) (hpath ▸ hfits) hop hstaged hs, ← hpath, and_assoc]
    · intro live'
      by_cases hready : live.parentReady entry.path
      · simp [hready, Option.filter_some, eq_comm]
      · simp [hready]
    · rfl
    · rintro ⟨hready, hfit⟩
      refine ⟨⟨insert_counted { projection with
          paths := SortedMap.without (fun path => Inside entry.path path) projection.paths
          counters := Live.tally (SortedMap.without (fun path => Inside entry.path path) live) }
          hcounted hop hstaged hs _, h.parentClosed.replace hready⟩, hfit, ?_, rfl⟩
      intro path state hstate
      rw [SortedMap.getElem?_insert'] at hstate
      by_cases hp : entry.path = path
      · rw [if_pos hp] at hstate
        rw [if_pos ⟨hs, hp.symm⟩]
        exact (Option.some.inj hstate).symm
      · rw [if_neg hp] at hstate
        rw [if_neg fun hc => hp hc.2.symm]
        exact (SortedMap.getElem?_without_eq_some.mp hstate).2
  obtain ⟨k, sha, hk, he⟩ | ⟨hk, he⟩ | ⟨t, hk, he⟩ | ⟨target, hk, he⟩ | ⟨path, hk, he⟩ :=
    Operation.entry_kinds hstaged
  case inl | inr.inr.inl =>
    apply hreplace
    · simp [Entry.whiteoutSubject, he]
    · rw [Journal.applyEntry, hk]
    · rw [overlayEntry, he]
  case inr.inr.inr.inl | inr.inr.inr.inr =>
    apply hinert
    · simp [Entry.whiteoutSubject, he]
    · rw [Journal.applyEntry, hk]
      rfl
    · rw [overlayEntry, he]
  · have hs : entry.whiteoutSubject = none := by simp [Entry.whiteoutSubject, he]
    have hdir : entry.isDirectory := by simp [Entry.isDirectory, he]
    apply Agrees.of_iff
      (P := (live.parentReady entry.path ∧ live[entry.path]?.all Entry.isDirectory) ∧
        (Live.tally (live.insert entry.path entry)).Fits)
      (Q := (live.parentReady entry.path ∧ live[entry.path]?.all Entry.isDirectory) ∧
        (Live.tally (live.insert entry.path entry)).Fits)
      (s := { projection with
        paths := projection.paths.insert entry.path
          ⟨operationIndex, effectReference operationIndex operation .entry⟩
        counters := Live.tally (live.insert entry.path entry) })
      (t := live.insert entry.path entry)
    · intro projection'
      simp only [Journal.applyEntry, hk, bind_ok, exists_unit]
      rw [h.validateProjectionParent_ok, h.checkReplacedDirectory_ok,
        setProjectionDefinition_ok projection h.counted hf hop hstaged hs, ← hpath, and_assoc, and_assoc]
    · intro live'
      rw [overlayEntryFit, overlayEntry, he]
      by_cases hready : live.parentReady entry.path ∧ live[entry.path]?.all Entry.isDirectory
      · simp [hready.1, hready.2, Option.filter_some, eq_comm]
      · have hfalse : (live.parentReady entry.path && live[entry.path]?.all Entry.isDirectory) ≠
            true := by
          simpa using hready
        simp only [if_neg hfalse, Option.filter_none]
        simp only [reduceCtorEq, hready, false_and]
    · rfl
    · rintro ⟨⟨hready, _⟩, hfit⟩
      refine ⟨⟨insert_counted projection h.counted hop hstaged hs _,
        h.parentClosed.insert_directory hready hdir⟩, hfit, ?_, rfl⟩
      intro path state hstate
      rw [SortedMap.getElem?_insert'] at hstate
      by_cases hp : entry.path = path
      · rw [if_pos hp] at hstate
        rw [if_pos ⟨hs, hp.symm⟩]
        exact (Option.some.inj hstate).symm
      · rw [if_neg hp] at hstate
        rwa [if_neg fun hc => hp hc.2.symm]

end Sound

end Eip0045.Rootfs
