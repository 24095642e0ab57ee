import Mathlib
import Eip0045.Rootfs.Counted

/-! Deleting a subtree from a projection: what it leaves live, and that the counters follow. -/

namespace Eip0045.Rootfs

open Checked

/-- Paths and counters that show a live map of the journal's entries. -/
structure Counted (journal : Journal) (paths : SortedMap Bytes PathProjection)
    (counters : LiveCounters) (live : Live) : Prop where
  shows : ∀ path : Bytes, live[path]? =
    paths[path]?.bind fun state => journal.entryAt state.liveDefinition
  defined : ∀ (path : Bytes) (state : PathProjection), paths[path]? = some state →
    ∃ entry, journal.entryAt state.liveDefinition = some entry
  counters : counters = live.tally
  noWhiteout : NoWhiteoutLive live
  selfNamed : SelfNamed live

namespace Counted

variable {journal : Journal} {paths : SortedMap Bytes PathProjection} {counters : LiveCounters}
  {live : Live} {path subject : Bytes} {state : PathProjection}

lemma empty : Counted journal ∅ ⟨0, 0, 0, 0, 0⟩ ∅ where
  shows := by simp
  defined := by simp
  counters := Live.tally_empty.symm
  noWhiteout := by
    intro path entry h
    simp at h
  selfNamed := by
    intro path entry h
    simp at h

lemma live_of_path (h : Counted journal paths counters live) (hp : paths[path]? = some state) :
    ∃ operation entry, journal.operations[state.liveDefinition]? = some operation ∧
      operation.entry journal.physicalRegularExtents = some entry ∧ live[path]? = some entry := by
  obtain ⟨entry, hentry⟩ := h.defined path state hp
  obtain ⟨operation, hop, hstaged⟩ := Option.bind_eq_some_iff.mp hentry
  exact ⟨operation, entry, hop, hstaged, by rw [h.shows, hp]; exact hentry⟩

lemma path_none (h : Counted journal paths counters live) : paths[path]? = none ↔ live[path]? = none := by
  constructor
  · intro hp
    rw [h.shows, hp]
    rfl
  · intro hl
    cases hp : paths[path]? with
    | none => rfl
    | some state =>
      obtain ⟨_, entry, _, _, hentry⟩ := h.live_of_path hp
      rw [hentry] at hl
      cases hl

lemma path_of_live (h : Counted journal paths counters live) {entry : Entry}
    (hl : live[path]? = some entry) : ∃ state operation, paths[path]? = some state ∧
      journal.operations[state.liveDefinition]? = some operation ∧
      operation.entry journal.physicalRegularExtents = some entry := by
  cases hp : paths[path]? with
  | none =>
    rw [h.path_none.mp hp] at hl
    cases hl
  | some state =>
    obtain ⟨operation, entry', hop, hstaged, hentry⟩ := h.live_of_path hp
    rw [hl] at hentry
    cases hentry
    exact ⟨state, operation, rfl, hop, hstaged⟩

lemma shrink (h : Counted journal paths counters live) (drop : Bytes → Bool)
    {paths' : SortedMap Bytes PathProjection} {live' : Live}
    (hp : ∀ path : Bytes, paths'[path]? = if drop path then none else paths[path]?)
    (hl : ∀ path : Bytes, live'[path]? = if drop path then none else live[path]?)
    {counters' : LiveCounters} (hc : counters' = live'.tally) :
    Counted journal paths' counters' live' := by
  have hsub : ∀ (path : Bytes) (entry : Entry), live'[path]? = some entry → live[path]? = some entry := by
    intro path entry he
    rw [hl] at he
    cases hd : drop path <;> simp [hd] at he
    exact he
  refine ⟨?_, ?_, hc, h.noWhiteout.mono hsub, h.selfNamed.mono hsub⟩
  · intro path
    rw [hp, hl, h.shows]
    cases drop path <;> rfl
  · intro path state hs
    rw [hp] at hs
    cases hd : drop path <;> simp [hd] at hs
    exact h.defined path state hs

lemma erase (h : Counted journal paths counters live) (hp : paths[path]? = some state) :
    ∃ counters', removeProjectionState journal.operations journal.physicalRegularExtents counters
      state = .ok counters' ∧ Counted journal (paths.erase path) counters' (live.erase path) := by
  obtain ⟨operation, entry, hop, hstaged, hentry⟩ := h.live_of_path hp
  refine ⟨Live.tally (live.erase path), ?_, ?_⟩
  · rw [removeProjectionState, item_ok.mpr hop, ok_bind, h.counters, Live.tally_erase hentry]
    exact removeLiveCounter_counts hstaged (h.noWhiteout path entry hentry) _
  · apply h.shrink fun p => path = p
    · intro p
      rw [SortedMap.getElem?_erase']
      simp only [decide_eq_true_eq]
    · intro p
      rw [SortedMap.getElem?_erase']
      simp only [decide_eq_true_eq]
    · rfl

lemma without (h : Counted journal paths counters live) (drop : Bytes → Bool) :
    Counted journal (SortedMap.without drop paths) (Live.tally (SortedMap.without drop live))
      (SortedMap.without drop live) :=
  h.shrink drop (SortedMap.getElem?_without drop paths) (SortedMap.getElem?_without drop live) rfl

lemma removeDescendants (h : Counted journal paths counters live) (start : Bytes) :
    Rootfs.removeDescendants journal.operations journal.physicalRegularExtents start paths counters =
      .ok (SortedMap.without (fun path => start.isPrefixOf path) paths,
        Live.tally (SortedMap.without (fun path => start.isPrefixOf path) live)) := by
  induction hn : paths.size using Nat.strong_induction_on generalizing paths counters live with
  | _ n ih =>
    rw [Rootfs.removeDescendants]
    split
    · next hfirst =>
      have hnone : ∀ (path : Bytes) (state : PathProjection), paths[path]? = some state →
          start.isPrefixOf path = false := by
        intro path state hp
        have := SortedMap.firstBelow_none hfirst hp
        rwa [← List.isPrefixOf_iff_prefix, Bool.not_eq_true] at this
      have hlive : ∀ (path : Bytes) (entry : Entry), live[path]? = some entry →
          start.isPrefixOf path = false := by
        intro path entry hl
        obtain ⟨state, _, hp, _⟩ := h.path_of_live hl
        exact hnone path state hp
      rw [SortedMap.without_of_none hnone,
        SortedMap.without_of_none hlive, ← h.counters]
      rfl
    · next path state hfirst =>
      obtain ⟨hp, hprefix⟩ := SortedMap.firstBelow_some hfirst
      have hdrop : start.isPrefixOf path := List.isPrefixOf_iff_prefix.mpr hprefix
      obtain ⟨counters', hremove, hcounted⟩ := h.erase hp
      rw [hremove, ok_bind, ih _ (hn ▸ SortedMap.size_erase_lt hp) hcounted rfl,
        SortedMap.without_erase hdrop, SortedMap.without_erase hdrop]

lemma removeListed (h : Counted journal paths counters live) {bindings : List (Bytes × PathProjection)}
    (hd : (bindings.map Prod.fst).Nodup) (hb : ∀ b ∈ bindings, paths[b.1]? = some b.2) :
    bindings.foldlM (fun counters binding => removeProjectionState journal.operations
      journal.physicalRegularExtents counters binding.2) counters =
        .ok (Live.tally (SortedMap.without (fun path => path ∈ bindings.map Prod.fst) live)) := by
  induction bindings generalizing paths counters live with
  | nil =>
    rw [SortedMap.without_of_none fun _ _ _ => by simp, ← h.counters]
    rfl
  | cons b bindings ih =>
    obtain ⟨path, state⟩ := b
    rw [List.map_cons, List.nodup_cons] at hd
    obtain ⟨counters', hremove, hcounted⟩ := h.erase (hb _ List.mem_cons_self)
    have hrest : ∀ b ∈ bindings, (paths.erase path)[b.1]? = some b.2 := by
      intro b hmem
      have hne : path ≠ b.1 := by
        intro heq
        have hin := List.mem_map_of_mem (f := Prod.fst) hmem
        rw [← heq] at hin
        exact hd.1 hin
      rw [SortedMap.getElem?_erase', if_neg hne]
      exact hb b (List.mem_cons_of_mem _ hmem)
    rw [List.foldlM_cons, hremove, ok_bind, ih hcounted hd.2 hrest]
    congr 2
    apply Std.ExtTreeMap.ext_getElem?
    intro p
    rw [SortedMap.getElem?_without, SortedMap.getElem?_without, SortedMap.getElem?_erase']
    by_cases hp : path = p
    · simp [hp]
    · rw [if_neg hp, List.map_cons]
      simp only [List.mem_cons, Ne.symm hp, false_or]

lemma removeAll (h : Counted journal paths counters live) :
    paths.toList.foldlM (fun counters binding => removeProjectionState journal.operations
      journal.physicalRegularExtents counters binding.2) counters = .ok ⟨0, 0, 0, 0, 0⟩ := by
  have hd : (paths.toList.map Prod.fst).Nodup := by
    rw [List.nodup_iff_pairwise_ne, List.pairwise_map]
    apply paths.distinct_keys_toList.imp
    intro a b hab heq
    rw [heq] at hab
    exact hab Std.ReflOrd.compare_self
  rw [h.removeListed hd fun b hb => SortedMap.mem_toList.mp hb, ← Live.tally_empty]
  congr 2
  apply Std.ExtTreeMap.ext_getElem?
  intro path
  rw [SortedMap.getElem?_without, Std.ExtTreeMap.getElem?_empty]
  cases hl : live[path]? with
  | none => simp
  | some entry =>
    obtain ⟨state, _, hp, _⟩ := h.path_of_live hl
    have hin : path ∈ paths.toList.map Prod.fst :=
      List.mem_map_of_mem (f := Prod.fst) (SortedMap.mem_toList.mpr hp)
    rw [decide_eq_true hin, if_pos rfl]

end Counted

/-- A projection that shows a live map closed under parents. -/
structure Sound (journal : Journal) (projection : Projection) (live : Live) : Prop where
  counted : Counted journal projection.paths projection.counters live
  parentClosed : ParentClosed live

namespace Sound

variable {journal : Journal} {projection : Projection} {live : Live} {subject : Bytes}

lemma default : Sound journal Projection.default ∅ := ⟨Counted.empty, parentClosed_empty⟩

lemma lookup (h : Sound journal projection live) (path : Bytes) :
    (projection.liveDefinition path = none ∧ live[path]? = none) ∨
      ∃ definition operation entry, projection.liveDefinition path = some definition ∧
        journal.operations[definition]? = some operation ∧
        operation.entry journal.physicalRegularExtents = some entry ∧ live[path]? = some entry ∧
        (operation.kind = .directory ↔ live.directoryAt path) := by
  cases hp : projection.paths[path]? with
  | none =>
    left
    exact ⟨by rw [Projection.liveDefinition, hp]; rfl, h.counted.path_none.mp hp⟩
  | some state =>
    right
    obtain ⟨operation, entry, hop, hstaged, hl⟩ := h.counted.live_of_path hp
    refine ⟨state.liveDefinition, operation, entry, by rw [Projection.liveDefinition, hp]; rfl, hop,
      hstaged, hl, ?_⟩
    rw [← Operation.entry_isDirectory hstaged, Live.directoryAt, hl]
    rfl

lemma hasDescendants_eq (h : Sound journal projection live) (path : Bytes) :
    hasDescendants journal.operations projection path = .ok (live.directoryAt path) := by
  rw [hasDescendants]
  obtain ⟨hd, hl⟩ | ⟨definition, operation, entry, hd, hop, _, _, hdir⟩ := h.lookup path
  · simp [hd, Live.directoryAt, hl, pure, Except.pure]
  · simp only [hd, item_ok.mpr hop, ok_bind, pure, Except.pure]
    congr 1
    rw [Bool.eq_iff_iff, decide_eq_true_iff, hdir]

lemma isPrefixOf_iff_below (subject path : Bytes) :
    (subject ++ [slash]).isPrefixOf path = decide (Paths.Below slash subject path) := by
  rw [Bool.eq_iff_iff, decide_eq_true_iff, List.isPrefixOf_iff_prefix]
  rfl

lemma nothing_below (h : Sound journal projection live) (hd : ¬live.directoryAt subject)
    {path : Bytes} (hb : Paths.Below slash subject path) : live[path]? = none := by
  by_contra hl
  exact hd (h.parentClosed.directory_above hb hl)

lemma tally_without (h : Sound journal projection live) (drop : Bytes → Bool)
    (hd : ∀ (path : Bytes) (entry : Entry), live[path]? = some entry → drop path = false) :
    SortedMap.without drop projection.paths = projection.paths ∧
      Live.tally (SortedMap.without drop live) = projection.counters := by
  rw [SortedMap.without_of_none hd, SortedMap.without_of_none, h.counted.counters]
  · exact ⟨rfl, rfl⟩
  · intro path state hp
    obtain ⟨_, entry, _, _, hl⟩ := h.counted.live_of_path hp
    exact hd path entry hl

lemma removeListed_eq {paths : SortedMap Bytes PathProjection} {counters : LiveCounters}
    {rest : Live} (hc : Counted journal paths counters rest) {descendants : Bool}
    (hd : descendants = false → ∀ (path : Bytes), Paths.Below slash subject path →
      rest[path]? = none) :
    removeListed journal.operations journal.physicalRegularExtents paths counters subject
      descendants = .ok (SortedMap.without (fun path => Paths.Below slash subject path) paths,
        Live.tally (SortedMap.without (fun path => Paths.Below slash subject path) rest)) := by
  rw [removeListed]
  cases descendants with
  | true =>
    rw [if_pos rfl, hc.removeDescendants]
    simp only [isPrefixOf_iff_below]
  | false =>
    have hlive : ∀ (path : Bytes) (entry : Entry), rest[path]? = some entry →
        decide (Paths.Below slash subject path) = false := by
      intro path entry hl
      rw [decide_eq_false_iff_not]
      intro hb
      rw [hd rfl path hb] at hl
      cases hl
    rw [SortedMap.without_of_none hlive, SortedMap.without_of_none, ← hc.counters]
    · rfl
    · intro path state hp
      obtain ⟨_, entry, _, _, hl⟩ := hc.live_of_path hp
      exact hlive path entry hl

lemma without_below_erase {ν : Type} (m : SortedMap Bytes ν) (hs : subject ≠ []) :
    SortedMap.without (fun path => Paths.Below slash subject path) (m.erase subject) =
      SortedMap.without (fun path => Inside subject path) m := by
  apply Std.ExtTreeMap.ext_getElem?
  intro path
  rw [SortedMap.getElem?_without, SortedMap.getElem?_without, SortedMap.getElem?_erase']
  by_cases hp : subject = path
  · simp [Inside, hp]
  · simp [Inside, hp, Ne.symm hp, hs]

lemma without_strictlyInside {ν : Type} (m : SortedMap Bytes ν) (hs : subject ≠ []) :
    SortedMap.without (fun path => StrictlyInside subject path) m =
      SortedMap.without (fun path => Paths.Below slash subject path) m := by
  simp only [StrictlyInside, hs, false_or]

lemma removeRoot (h : Sound journal projection live) (includeSubject : Bool) {drop : Bytes → Bool}
    (hd : ∀ path, drop path) :
    Rootfs.removeProjectionSubtree journal.operations journal.physicalRegularExtents projection
      [] includeSubject = .ok { projection with
        paths := SortedMap.without drop projection.paths
        counters := Live.tally (SortedMap.without drop live) } := by
  have hempty : ∀ {ν : Type} (m : SortedMap Bytes ν), SortedMap.without drop m = ∅ := by
    intro ν m
    apply Std.ExtTreeMap.ext_getElem?
    intro path
    rw [SortedMap.getElem?_without, hd, if_pos rfl, Std.ExtTreeMap.getElem?_empty]
  rw [Rootfs.removeProjectionSubtree, if_pos rfl, h.counted.removeAll, hempty, hempty,
    Live.tally_empty]
  rfl

lemma removeInside (h : Sound journal projection live) (subject : Bytes) :
    Rootfs.removeProjectionSubtree journal.operations journal.physicalRegularExtents projection
      subject true = .ok { projection with
        paths := SortedMap.without (fun path => Inside subject path) projection.paths
        counters := Live.tally (SortedMap.without (fun path => Inside subject path) live) } := by
  by_cases hs : subject = []
  · subst hs
    exact h.removeRoot true fun path => decide_eq_true (.inl rfl)
  rw [Rootfs.removeProjectionSubtree, if_neg hs, h.hasDescendants_eq, ok_bind, if_pos rfl]
  cases hp : projection.paths[subject]? with
  | none =>
    have hl := h.counted.path_none.mp hp
    have hdir : ¬live.directoryAt subject := by simp [Live.directoryAt, hl]
    obtain ⟨hpaths, htally⟩ := h.tally_without (fun path => Inside subject path) (by
      intro path entry he
      rw [decide_eq_false_iff_not]
      rintro (h0 | rfl | hb)
      · exact hs h0
      · rw [hl] at he
        cases he
      · rw [h.nothing_below hdir hb] at he
        cases he)
    rw [hpaths, htally]
    rfl
  | some state =>
    obtain ⟨counters', hremove, hcounted⟩ := h.counted.erase hp
    simp only [hremove, ok_bind]
    rw [removeListed_eq hcounted, ok_bind, without_below_erase _ hs, without_below_erase _ hs]
    · rfl
    · intro hdir path hb
      rw [SortedMap.getElem?_erase', h.nothing_below (by simp [hdir]) hb, ite_self]

lemma removeStrictlyInside (h : Sound journal projection live) (subject : Bytes) :
    Rootfs.removeProjectionSubtree journal.operations journal.physicalRegularExtents projection
      subject false = .ok { projection with
        paths := SortedMap.without (fun path => StrictlyInside subject path) projection.paths
        counters := Live.tally (SortedMap.without (fun path => StrictlyInside subject path) live) } := by
  by_cases hs : subject = []
  · subst hs
    exact h.removeRoot false fun path => decide_eq_true (.inl rfl)
  rw [Rootfs.removeProjectionSubtree, if_neg hs, h.hasDescendants_eq, ok_bind, if_neg (by simp),
    removeListed_eq h.counted, ok_bind, without_strictlyInside _ hs, without_strictlyInside _ hs]
  · rfl
  · intro hdir path hb
    exact h.nothing_below (by simp [hdir]) hb

lemma deletesInside (h : Sound journal projection live) (drop : Bytes → Bool)
    (hd : ∀ parent path, Paths.Below slash parent path → drop parent → drop path) :
    Sound journal { projection with
      paths := SortedMap.without drop projection.paths
      counters := Live.tally (SortedMap.without drop live) } (SortedMap.without drop live) :=
  ⟨h.counted.without drop, h.parentClosed.without hd⟩

end Sound

end Eip0045.Rootfs
