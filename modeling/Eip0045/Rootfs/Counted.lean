import Mathlib
import Eip0045.Library.Agreement
import Eip0045.Rootfs.Overlay

/-! The live counters of a projection as tallies over the entries that its paths define. -/

namespace Eip0045.Rootfs

open Checked

/-- The entry that an operation stages; a regular one takes its content from its own extent. -/
def Operation.entry (extents : List RegularExtent) (operation : Operation) : Option Entry :=
  let staged (kind : EntryKind) : Entry :=
    { path := operation.path, mode := operation.mode, byteLength := operation.byteLength, kind }
  match operation.kind with
  | .regular extentIndex =>
    extents[extentIndex]?.bind fun extent =>
      if extent.byteLength = operation.byteLength ∧ extent.mode = operation.mode ∧
          extent.source = operation.source then
        some (staged (.regular extent.sha256))
      else none
  | .directory => some (staged .directory)
  | .symbolicLink target => some (staged (.symbolicLink target))
  | .remove target => some (staged (.remove target))
  | .opaqueDirectory path => some (staged (.opaqueDirectory path))

def Journal.entryAt (journal : Journal) (operationIndex : ℕ) : Option Entry :=
  journal.operations[operationIndex]?.bind (Operation.entry journal.physicalRegularExtents)

lemma Operation.entry_path {extents : List RegularExtent} {operation : Operation} {entry : Entry}
    (h : operation.entry extents = some entry) : entry.path = operation.path := by
  unfold Operation.entry at h
  cases hk : operation.kind <;> simp only [hk, Option.bind_eq_some_iff, Option.some.injEq,
    Option.ite_none_right_eq_some] at h
  case regular k =>
    obtain ⟨_, _, _, rfl⟩ := h
    rfl
  all_goals exact h ▸ rfl

lemma Operation.entry_isDirectory {extents : List RegularExtent} {operation : Operation}
    {entry : Entry} (h : operation.entry extents = some entry) :
    entry.isDirectory ↔ operation.kind = .directory := by
  unfold Operation.entry at h
  cases hk : operation.kind <;> simp only [hk, Option.bind_eq_some_iff, Option.some.injEq,
    Option.ite_none_right_eq_some] at h
  case regular k =>
    obtain ⟨_, _, _, rfl⟩ := h
    simp [Entry.isDirectory]
  all_goals simp [← h, Entry.isDirectory]

namespace LiveCounters

instance : Add LiveCounters where
  add a b := ⟨a.entryCount + b.entryCount, a.regularFileCount + b.regularFileCount,
    a.directoryCount + b.directoryCount, a.symbolicLinkCount + b.symbolicLinkCount,
    a.regularFileBytes + b.regularFileBytes⟩

lemma add_def (a b : LiveCounters) : a + b = ⟨a.entryCount + b.entryCount,
    a.regularFileCount + b.regularFileCount, a.directoryCount + b.directoryCount,
    a.symbolicLinkCount + b.symbolicLinkCount, a.regularFileBytes + b.regularFileBytes⟩ := rfl

lemma add_comm (a b : LiveCounters) : a + b = b + a := by
  simp only [add_def, Nat.add_comm]

def Fits (counters : LiveCounters) : Prop :=
  counters.entryCount < 2 ^ 64 ∧ counters.regularFileBytes < 2 ^ 64

instance (counters : LiveCounters) : Decidable counters.Fits := inferInstanceAs (Decidable (_ ∧ _))

/-- Each typed count is at most the count of all entries. -/
def Typed (counters : LiveCounters) : Prop :=
  counters.entryCount =
    counters.regularFileCount + counters.directoryCount + counters.symbolicLinkCount

end LiveCounters

namespace Live

variable {live : Live} {path : Bytes} {entry : Entry}

lemma tally_erase (h : live[path]? = some entry) :
    live.tally = entry.counts + Live.tally (live.erase path) := by
  simp only [LiveCounters.add_def, tally, tallyOf, SortedMap.total_erase h]

lemma tally_insert (h : live[path]? = none) :
    Live.tally (live.insert path entry) = live.tally + entry.counts := by
  rw [LiveCounters.add_comm]
  simp only [LiveCounters.add_def, tally, tallyOf, SortedMap.total_insert_new h]

@[simp] lemma tally_empty : Live.tally ∅ = ⟨0, 0, 0, 0, 0⟩ := by
  simp [tally, tallyOf]

lemma tally_typed (hw : NoWhiteoutLive live) : live.tally.Typed := by
  rw [LiveCounters.Typed]
  simp only [tally, tallyOf, ← SortedMap.total_add]
  apply SortedMap.total_congr
  intro path entry h
  have hnone := hw path entry h
  unfold Entry.whiteoutSubject at hnone
  unfold Entry.counts
  cases hk : entry.kind <;> simp [hk] at hnone ⊢

end Live

lemma NoWhiteoutLive.mono {live other : Live} (h : NoWhiteoutLive live)
    (ho : ∀ (path : Bytes) (entry : Entry), other[path]? = some entry → live[path]? = some entry) :
    NoWhiteoutLive other :=
  fun path entry he => h path entry (ho path entry he)

lemma SelfNamed.mono {live other : Live} (h : SelfNamed live)
    (ho : ∀ (path : Bytes) (entry : Entry), other[path]? = some entry → live[path]? = some entry) : SelfNamed other :=
  fun path entry he => h path entry (ho path entry he)

section Counting

variable {extents : List RegularExtent} {operation : Operation} {entry : Entry}

lemma checkedSub_add (a b : ℕ) : checkedSub (b + a) b = some a := by
  simp [checkedSub]

lemma removeLiveCounter_counts (h : operation.entry extents = some entry)
    (hw : entry.whiteoutSubject = none) (counters : LiveCounters) :
    removeLiveCounter extents (entry.counts + counters) operation = .ok counters := by
  unfold Operation.entry at h
  rw [removeLiveCounter]
  cases hk : operation.kind <;> simp only [hk, Option.bind_eq_some_iff, Option.some.injEq,
    Option.ite_none_right_eq_some] at h
  case regular k =>
    obtain ⟨extent, hextent, hsame, rfl⟩ := h
    simp [Entry.counts, LiveCounters.add_def, checkedSub_add, hextent, ← hsame.1, context, report]
  case directory =>
    subst h
    simp [Entry.counts, LiveCounters.add_def, checkedSub_add, context, report]
  case symbolicLink target =>
    subst h
    simp [Entry.counts, LiveCounters.add_def, checkedSub_add, context, report]
  all_goals
    subst h
    cases hw

lemma addLiveCounter_counts (h : operation.entry extents = some entry)
    (hw : entry.whiteoutSubject = none) {counters : LiveCounters} (ht : counters.Typed)
    (hf : counters.Fits) {added : LiveCounters} :
    addLiveCounter extents counters operation = .ok added ↔
      (counters + entry.counts).Fits ∧ added = counters + entry.counts := by
  unfold Operation.entry at h
  rw [LiveCounters.Typed] at ht
  have hbytes := hf.2
  rw [addLiveCounter]
  cases hk : operation.kind <;> simp only [hk, Option.bind_eq_some_iff, Option.some.injEq,
    Option.ite_none_right_eq_some] at h
  case regular k =>
    obtain ⟨extent, hextent, hsame, rfl⟩ := h
    simp only [bind_ok, report_ok, context_ok, checkedAdd_eq_some, hextent, pure_ok,
      Entry.counts, LiveCounters.add_def, LiveCounters.Fits, Option.some.injEq]
    constructor
    · rintro ⟨_, ⟨he, rfl⟩, _, rfl, _, ⟨hr, rfl⟩, _, ⟨hb, rfl⟩, rfl⟩
      rw [hsame.1] at hb ⊢
      exact ⟨⟨he, hb⟩, by simp⟩
    · rintro ⟨⟨he, hb⟩, rfl⟩
      refine ⟨_, ⟨he, rfl⟩, _, rfl, _, ⟨by omega, rfl⟩, _, ⟨by rw [hsame.1]; exact hb, rfl⟩, ?_⟩
      simp [hsame.1]
  case directory =>
    subst h
    simp only [bind_ok, report_ok, context_ok, checkedAdd_eq_some, pure_ok,
      Entry.counts, LiveCounters.add_def, LiveCounters.Fits]
    constructor
    · rintro ⟨_, ⟨he, rfl⟩, _, ⟨hr, rfl⟩, rfl⟩
      exact ⟨⟨he, by omega⟩, by simp⟩
    · rintro ⟨⟨he, hb⟩, rfl⟩
      exact ⟨_, ⟨he, rfl⟩, _, ⟨by omega, rfl⟩, by simp⟩
  case symbolicLink target =>
    subst h
    simp only [bind_ok, report_ok, context_ok, checkedAdd_eq_some, pure_ok,
      Entry.counts, LiveCounters.add_def, LiveCounters.Fits]
    constructor
    · rintro ⟨_, ⟨he, rfl⟩, _, ⟨hr, rfl⟩, rfl⟩
      exact ⟨⟨he, by omega⟩, by simp⟩
    · rintro ⟨⟨he, hb⟩, rfl⟩
      exact ⟨_, ⟨he, rfl⟩, _, ⟨by omega, rfl⟩, by simp⟩
  all_goals
    subst h
    cases hw

lemma validateLiveCounters_ok {counters : LiveCounters} (ht : counters.Typed) :
    validateLiveCounters counters = .ok () ↔
      counters.entryCount ≤ postChangesetRootfs.maximumEntries ∧
        counters.regularFileBytes ≤ postChangesetRootfs.maximumRegularFileBytes := by
  rw [LiveCounters.Typed] at ht
  simp only [validateLiveCounters, OciPostChangesetRootfsLimits.validateFinalEntryCount,
    OciPostChangesetRootfsLimits.validateFinalRegularFileBytes, bind_ok, exists_unit, report_ok,
    context_ok, checkedAdd_eq_some, ensure_ok, validateCeiling_ok, postChangesetRootfs]
  constructor
  · rintro ⟨_, ⟨_, rfl⟩, _, ⟨_, rfl⟩, _, he, hb⟩
    exact ⟨he, hb⟩
  · rintro ⟨he, hb⟩
    exact ⟨_, ⟨by omega, rfl⟩, _, ⟨by omega, rfl⟩, ht, he, hb⟩

end Counting

end Eip0045.Rootfs
