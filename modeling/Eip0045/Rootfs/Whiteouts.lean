import Mathlib
import Eip0045.Rootfs.Removal

/-! The whiteout phase of a layer: which whiteouts are admitted and what they delete. -/

namespace Eip0045.Rootfs

open Checked

/-- The journal holds the layers: every position of every layer leads to an operation that stages
the entry there, in whatever order the operations arrived. -/
def Journal.Holds (journal : Journal) (layers : List (List Entry)) : Prop :=
  ∀ layer entries, layers[layer]? = some entries → ∀ index entry, entries[index]? = some entry →
    ∃ operationIndex operation,
      journal.operationAtSource layer index = .ok (operationIndex, operation) ∧
        operation.entry journal.physicalRegularExtents = some entry

lemma Journal.operationAtSource_ok {journal : Journal} {layer index operationIndex : ℕ}
    {operation : Operation}
    (h : journal.operationAtSource layer index = .ok (operationIndex, operation)) :
    journal.operations[operationIndex]? = some operation ∧ operation.source = ⟨layer, index⟩ := by
  simp only [operationAtSource, semanticLayerSlot, bind_ok, exists_unit, report_ok, ensure_ok,
    context_ok, item_ok, pure_ok, Prod.mk.injEq] at h
  obtain ⟨_, _, _, _, _, _, _, hop, hsource, rfl, rfl⟩ := h
  exact ⟨hop, hsource⟩

lemma Operation.entry_kinds {extents : List RegularExtent} {operation : Operation} {entry : Entry}
    (h : operation.entry extents = some entry) :
    (∃ k sha256, operation.kind = .regular k ∧ entry.kind = .regular sha256) ∨
      (operation.kind = .directory ∧ entry.kind = .directory) ∨
      (∃ target, operation.kind = .symbolicLink target ∧ entry.kind = .symbolicLink target) ∨
      (∃ target, operation.kind = .remove target ∧ entry.kind = .remove target) ∨
      ∃ path, operation.kind = .opaqueDirectory path ∧ entry.kind = .opaqueDirectory path := by
  unfold Operation.entry at h
  cases hk : operation.kind <;> simp only [hk, Option.bind_eq_some_iff, Option.some.injEq,
    Option.ite_none_right_eq_some] at h
  case regular k =>
    obtain ⟨extent, _, _, rfl⟩ := h
    exact .inl ⟨k, extent.sha256, rfl, rfl⟩
  all_goals
    subst h
    simp

section Nonoverlapping

variable {existing : SortedMap Bytes Unit} {candidate : Bytes}

lemma below_iff_take {subject path : Bytes} :
    Paths.Below slash subject path ↔ ∃ i, path[i]? = some slash ∧ path.take i = subject := by
  constructor
  · rintro ⟨t, rfl⟩
    exact ⟨subject.length, by simp⟩
  · rintro ⟨i, hi, rfl⟩
    obtain ⟨hlt, hget⟩ := List.getElem?_eq_some_iff.mp hi
    refine ⟨path.drop (i + 1), ?_⟩
    rw [List.append_assoc, List.singleton_append, ← hget, ← List.drop_eq_getElem_cons hlt,
      List.take_append_drop]

lemma firstBelow_eq_none_iff :
    existing.firstBelow (candidate ++ [slash]) = none ↔
      ∀ subject : Bytes, existing[subject]? = some () → ¬Paths.Below slash candidate subject := by
  constructor
  · intro h subject hs
    exact SortedMap.firstBelow_none h hs
  · intro h
    cases hf : existing.firstBelow (candidate ++ [slash]) with
    | none => rfl
    | some found =>
      obtain ⟨subject, u⟩ := found
      obtain ⟨hs, hb⟩ := SortedMap.firstBelow_some hf
      exact absurd hb (h subject hs)

lemma isEmpty_iff_no_subject :
    existing.isEmpty ↔ ∀ subject : Bytes, existing[subject]? ≠ some () := by
  rw [Std.ExtTreeMap.isEmpty_iff]
  constructor
  · rintro rfl subject
    simp
  · intro h
    apply Std.ExtTreeMap.ext_getElem?
    intro subject
    rw [Std.ExtTreeMap.getElem?_empty]
    cases hs : existing[subject]? with
    | none => rfl
    | some u => exact absurd hs (h subject)

lemma insertNonoverlappingWhiteout_ok {subjects : SortedMap Bytes Unit} :
    insertNonoverlappingWhiteout existing candidate = .ok subjects ↔
      (∀ subject : Bytes, existing[subject]? = some () → ¬Overlap subject candidate) ∧
        subjects = existing.insert candidate () := by
  rw [insertNonoverlappingWhiteout, bind_ok, exists_unit, report_ok, ensure_ok, bind_ok, exists_unit,
    pure_ok, checkNonoverlapping, ← and_assoc, eq_comm (b := subjects)]
  apply and_congr_left'
  by_cases hc : candidate = []
  · subst hc
    rw [if_pos rfl, report_ok, ensure_ok, isEmpty_iff_no_subject]
    simp only [Overlap, true_or, or_true, not_true, imp_false]
    refine ⟨fun h => h.2, fun h => ⟨?_, h⟩⟩
    cases hs : existing[([] : Bytes)]? with
    | none => rfl
    | some u => exact absurd hs (h [])
  · rw [if_neg hc]
    simp only [bind_ok, exists_unit, report_ok, ensure_ok, forM_ok, List.mem_filter, List.mem_range,
      decide_eq_true_eq, firstBelow_eq_none_iff]
    constructor
    · rintro ⟨hself, hroot, habove, hbelow⟩ subject hs
      intro ho
      rcases ho with rfl | rfl | h0 | hb | hb
      · rw [hself] at hs
        cases hs
      · rw [hroot] at hs
        cases hs
      · exact hc h0
      · obtain ⟨i, hi, rfl⟩ := below_iff_take.mp hb
        rw [habove i ⟨(List.getElem?_eq_some_iff.mp hi).1, hi⟩] at hs
        cases hs
      · exact hbelow subject hs hb
    · intro h
      have hnone : ∀ subject : Bytes, Overlap subject candidate → existing[subject]? = none := by
        intro subject ho
        cases hs : existing[subject]? with
        | none => rfl
        | some u => exact absurd ho (h subject hs)
      exact ⟨hnone _ (.inl rfl), hnone _ (.inr (.inl rfl)),
        fun i hi => hnone _ (.inr (.inr (.inr (.inl (below_iff_take.mpr ⟨i, hi.2, rfl⟩))))),
        fun subject hs hb => h subject hs (.inr (.inr (.inr (.inr hb))))⟩

end Nonoverlapping

/-- The whiteout subjects gathered from a layer, as long as each is admissible and apart from the
earlier ones. -/
def gatherWhiteout (lower : Live) (subjects : List Bytes) (entry : Entry) : Option (List Bytes) :=
  if entry.admissible lower ∧
      ∀ candidate ∈ entry.whiteoutSubject.toList, ∀ subject ∈ subjects, ¬Overlap subject candidate then
    some (subjects ++ entry.whiteoutSubject.toList)
  else none

lemma gatherWhiteouts_isSome {lower : Live} {entries : List Entry} {subjects : List Bytes} :
    (∃ gathered, entries.foldlM (gatherWhiteout lower) subjects = some gathered) ↔
      (entries.all (Entry.admissible lower)) ∧
        (∀ candidate ∈ entries.filterMap Entry.whiteoutSubject, ∀ subject ∈ subjects,
          ¬Overlap subject candidate) ∧
        (entries.filterMap Entry.whiteoutSubject).Pairwise fun a b => ¬Overlap a b := by
  induction entries generalizing subjects with
  | nil => simp
  | cons entry entries ih =>
    rw [List.foldlM_cons, List.all_cons, Bool.and_eq_true]
    by_cases hg : entry.admissible lower ∧
      ∀ candidate ∈ entry.whiteoutSubject.toList, ∀ subject ∈ subjects, ¬Overlap subject candidate
    · rw [gatherWhiteout, if_pos hg]
      change (∃ gathered, entries.foldlM (gatherWhiteout lower) _ = some gathered) ↔ _
      rw [ih]
      cases hs : entry.whiteoutSubject with
      | none =>
        rw [List.filterMap_cons_none hs]
        simp [hg.1]
      | some candidate =>
        rw [List.filterMap_cons_some hs]
        have hfirst : ∀ subject ∈ subjects, ¬Overlap subject candidate := hg.2 candidate (by simp [hs])
        simp only [hg.1, true_and, Option.toList_some, List.mem_append, List.mem_cons, List.pairwise_cons, forall_eq_or_imp]
        grind
    · rw [gatherWhiteout, if_neg hg]
      simp only [Option.bind_eq_bind, Option.bind_none, reduceCtorEq, exists_false, false_iff]
      rintro ⟨⟨hadmissible, _⟩, hapart, _⟩
      apply hg
      refine ⟨hadmissible, fun candidate hc => hapart candidate ?_⟩
      rw [List.mem_filterMap]
      exact ⟨entry, List.mem_cons_self, Option.mem_toList.mp hc⟩

namespace Sound

variable {journal : Journal} {projection : Projection} {lower : Live} {layer : ℕ}
  {entries : List Entry}

/-- A set of subjects with the list of its members. -/
def Lists (subjects : SortedMap Bytes Unit) (gathered : List Bytes) : Prop :=
  ∀ subject : Bytes, subjects[subject]? = some () ↔ subject ∈ gathered

lemma Lists.insert {subjects : SortedMap Bytes Unit} {gathered : List Bytes}
    (h : Lists subjects gathered) (candidate : Bytes) :
    Lists (subjects.insert candidate ()) (gathered ++ [candidate]) := by
  intro subject
  rw [SortedMap.getElem?_insert', List.mem_append, List.mem_singleton, ← h]
  by_cases hs : candidate = subject
  · simp [hs]
  · simp [hs, Ne.symm hs]

lemma gatherWhiteout_eq_some {gathered gathered' : List Bytes} {entry : Entry} :
    gatherWhiteout lower gathered entry = some gathered' ↔
      (entry.admissible lower ∧ ∀ candidate ∈ entry.whiteoutSubject.toList, ∀ subject ∈ gathered,
        ¬Overlap subject candidate) ∧ gathered' = gathered ++ entry.whiteoutSubject.toList := by
  rw [gatherWhiteout, Option.ite_none_right_eq_some, Option.some.injEq, eq_comm (a := gathered')]

lemma checkWhiteout_agrees (h : Sound journal projection lower) {operation : Operation}
    {entry : Entry} (hstaged : operation.entry journal.physicalRegularExtents = some entry)
    {subjects : SortedMap Bytes Unit} {gathered : List Bytes} (hl : Lists subjects gathered) :
    Agrees Lists (journal.checkWhiteout projection subjects operation)
      (gatherWhiteout lower gathered entry) := by
  have hinert : entry.admissible lower → entry.whiteoutSubject = none →
      journal.checkWhiteout projection subjects operation = .ok subjects →
      Agrees Lists (journal.checkWhiteout projection subjects operation)
        (gatherWhiteout lower gathered entry) := by
    intro hadmissible hsubject hcheck
    rw [hcheck, gatherWhiteout, if_pos ⟨hadmissible, by simp [hsubject]⟩, hsubject]
    simpa using Agrees.ok hl
  have hwhiteout : ∀ (candidate : Bytes) (P : Prop), entry.whiteoutSubject = some candidate →
      (P ↔ entry.admissible lower) →
      (∀ s, journal.checkWhiteout projection subjects operation = .ok s ↔
        (P ∧ ∀ subject : Bytes, subjects[subject]? = some () → ¬Overlap subject candidate) ∧
          s = subjects.insert candidate ()) →
      Agrees Lists (journal.checkWhiteout projection subjects operation)
        (gatherWhiteout lower gathered entry) := by
    intro candidate P hsubject hadmissible hcheck
    apply Agrees.of_iff hcheck fun _ => gatherWhiteout_eq_some
    · simp only [hsubject, hadmissible, Option.toList_some, List.mem_singleton, forall_eq, hl _]
    · intro _
      rw [hsubject]
      exact hl.insert candidate
  obtain ⟨k, sha, hk, he⟩ | ⟨hk, he⟩ | ⟨t, hk, he⟩ | ⟨target, hk, he⟩ | ⟨path, hk, he⟩ :=
    Operation.entry_kinds hstaged
  case inl | inr.inl | inr.inr.inl =>
    apply hinert
    · simp [Entry.admissible, he]
    · simp [Entry.whiteoutSubject, he]
    · rw [Journal.checkWhiteout, hk]
      rfl
  · apply hwhiteout target ((projection.liveDefinition target).isSome)
    · simp [Entry.whiteoutSubject, he]
    · obtain ⟨hd, hlow⟩ | ⟨_, _, _, hd, _, _, hlow, _⟩ := h.lookup target <;>
        simp [Entry.admissible, he, hd, hlow]
    · intro s
      simp only [Journal.checkWhiteout, hk, bind_ok, exists_unit, report_ok, ensure_ok, pure_ok,
        insertNonoverlappingWhiteout_ok]
      constructor
      · rintro ⟨_, ⟨hapart, rfl⟩, hsome, rfl⟩
        exact ⟨⟨hsome, hapart⟩, rfl⟩
      · rintro ⟨⟨hsome, hapart⟩, rfl⟩
        exact ⟨_, ⟨hapart, rfl⟩, hsome, rfl⟩
  · apply hwhiteout path (path = [] ∨ ∃ definition, projection.liveDefinition path = some definition ∧
      ∃ operation, journal.operations[definition]? = some operation ∧ operation.kind = .directory)
    · simp [Entry.whiteoutSubject, he]
    · simp only [Entry.admissible, he, Bool.or_eq_true, decide_eq_true_eq]
      apply or_congr_right
      obtain ⟨hd, hlow⟩ | ⟨definition, operation, _, hd, hop, _, hlow, hdir⟩ := h.lookup path
      · simp [hd, Live.directoryAt, hlow]
      · simp [hd, hop, hdir]
    · intro s
      rw [Journal.checkWhiteout, hk]
      simp only [bind_ok, insertNonoverlappingWhiteout_ok]
      by_cases hp : path = []
      · simp only [hp, if_true, pure_ok, true_or, true_and]
        constructor
        · rintro ⟨_, ⟨hapart, rfl⟩, rfl⟩
          exact ⟨hapart, rfl⟩
        · rintro ⟨hapart, rfl⟩
          exact ⟨_, ⟨hapart, rfl⟩, rfl⟩
      · simp only [hp, if_false, false_or, bind_ok, exists_unit, report_ok, context_ok, item_ok,
          ensure_ok, pure_ok]
        constructor
        · rintro ⟨_, ⟨hapart, rfl⟩, definition, hd, op, hop, hkind, rfl⟩
          exact ⟨⟨⟨definition, hd, op, hop, hkind⟩, hapart⟩, rfl⟩
        · rintro ⟨⟨⟨definition, hd, op, hop, hkind⟩, hapart⟩, rfl⟩
          exact ⟨_, ⟨hapart, rfl⟩, definition, hd, op, hop, hkind, rfl⟩

lemma validateLayerWhiteouts_ok (h : Sound journal projection lower) {layers : List (List Entry)}
    (hold : journal.Holds layers) (hlayer : layers[layer]? = some entries) :
    journal.validateLayerWhiteoutsAgainstLowerSnapshot projection layer entries.length = .ok () ↔
      whiteoutsAdmissible lower entries := by
  have hrun : Agrees Lists ((List.range entries.length).foldlM
      (journal.checkWhiteoutAt projection layer) ∅) (entries.foldlM (gatherWhiteout lower) []) := by
    apply Agrees.foldlM_range (R := fun _ => Lists)
    · intro index entry subjects gathered hentry hl
      obtain ⟨operationIndex, operation, hat, hstaged⟩ := hold layer entries hlayer index entry hentry
      have hlt : operationIndex < journal.operations.length :=
        (List.getElem?_eq_some_iff.mp (Journal.operationAtSource_ok hat).1).1
      rw [Journal.checkWhiteoutAt, hat, ok_bind]
      have hagree := h.checkWhiteout_agrees hstaged hl
      have hpass : ∀ s : SortedMap Bytes Unit, (do
          report (ensure (operationIndex < journal.operations.length)
            "OCI rootfs operation index escaped its journal")
          pure s : Result (SortedMap Bytes Unit)) = pure s := by
        intro s
        rw [ensure_pass hlt]
        rfl
      simp only [hpass, bind_pure]
      exact hagree
    · intro subject
      simp
  have hsome := @gatherWhiteouts_isSome lower entries []
  simp only [List.not_mem_nil, IsEmpty.forall_iff, implies_true, true_and] at hsome
  rw [whiteoutsAdmissible, ← hsome, Journal.validateLayerWhiteoutsAgainstLowerSnapshot, bind_ok]
  constructor
  · rintro ⟨s, hs, _⟩
    obtain ⟨t, ht, _⟩ := hrun.1 s hs
    exact ⟨t, ht⟩
  · rintro ⟨t, ht⟩
    obtain ⟨s, hs, _⟩ := hrun.2 t ht
    exact ⟨s, hs, rfl⟩

lemma touch (h : Sound journal projection lower) {path : Bytes} {state : PathProjection}
    (hp : projection.paths[path]? = some state) (effect : EffectReference) :
    Sound journal { projection with
      paths := projection.paths.insert path { state with lastEffect := effect } } lower := by
  refine ⟨⟨?_, ?_, h.counted.counters, h.counted.noWhiteout, h.counted.selfNamed⟩, h.parentClosed⟩
  · intro other
    rw [SortedMap.getElem?_insert', h.counted.shows]
    by_cases ho : path = other
    · simp [← ho, hp]
    · simp [ho]
  · intro other found hf
    rw [SortedMap.getElem?_insert'] at hf
    by_cases ho : path = other
    · rw [if_pos ho] at hf
      cases hf
      exact h.counted.defined path state hp
    · rw [if_neg ho] at hf
      exact h.counted.defined other found hf

lemma root (h : Sound journal projection lower) (effect : Option EffectReference) :
    Sound journal { projection with rootLastEffect := effect } lower :=
  ⟨h.counted, h.parentClosed⟩

/-- What an operation of the whiteout phase leaves of the paths, effects included. -/
structure Whitened (journal : Journal) (before after : Projection) (operationIndex : ℕ)
    (operation : Operation) (entry : Entry) : Prop where
  kept : ∀ (path : Bytes) (state : PathProjection), after.paths[path]? = some state →
    ∃ previous, before.paths[path]? = some previous ∧
      previous.liveDefinition = state.liveDefinition ∧
      state.lastEffect = if entry.kind = .opaqueDirectory path ∧ path ≠ [] then
        effectReference operationIndex operation .whiteout else previous.lastEffect
  directory : ∀ (path : Bytes) (state : PathProjection), after.paths[path]? = some state →
    entry.kind = .opaqueDirectory path → path ≠ [] → ∃ live,
      journal.operations[state.liveDefinition]? = some live ∧ live.kind = .directory
  root : after.rootLastEffect = if entry.kind = .opaqueDirectory [] then
    some (effectReference operationIndex operation .whiteout) else before.rootLastEffect

lemma without_false (h : Sound journal projection lower) {entry : Entry}
    (hd : ∀ path, entry.deletes path = false) :
    Sound journal projection (SortedMap.without (fun path => entry.deletes path) lower) := by
  rwa [SortedMap.without_of_none fun path _ _ => hd path]

lemma applyWhiteout_ok (h : Sound journal projection lower) (operationIndex : ℕ)
    {operation : Operation} {entry : Entry}
    (hstaged : operation.entry journal.physicalRegularExtents = some entry)
    (hsubject : ∀ path, entry.kind = .opaqueDirectory path → path ≠ [] → lower.directoryAt path) :
    ∃ projection', journal.applyWhiteout projection operationIndex operation = .ok projection' ∧
      Sound journal projection' (SortedMap.without (fun path => entry.deletes path) lower) ∧
      Whitened journal projection projection' operationIndex operation entry := by
  have hclosed : ∀ parent path, Paths.Below slash parent path → entry.deletes parent →
      entry.deletes path := fun _ _ hb hd => Entry.deletes_below hb hd
  have hdeleted := h.deletesInside (fun path => entry.deletes path) hclosed
  obtain ⟨k, sha, hk, he⟩ | ⟨hk, he⟩ | ⟨t, hk, he⟩ | ⟨target, hk, he⟩ | ⟨path, hk, he⟩ :=
    Operation.entry_kinds hstaged
  case inl | inr.inl | inr.inr.inl =>
    refine ⟨projection, ?_, h.without_false fun path => by simp [Entry.deletes, he], ?_, ?_, ?_⟩
    · simp only [Journal.applyWhiteout, hk]
      rfl
    · intro path state hp
      exact ⟨state, hp, rfl, by simp [he]⟩
    · simp [he]
    · simp [he]
  · have hdrop : (fun path => entry.deletes path) = fun path => decide (Inside target path) := by
      simp only [Entry.deletes, he]
    rw [hdrop] at hdeleted ⊢
    refine ⟨_, ?_, hdeleted, ?_, ?_, ?_⟩
    · simp only [Journal.applyWhiteout, hk]
      exact h.removeInside target
    · intro path state hp
      exact ⟨state, (SortedMap.getElem?_without_eq_some.mp hp).2, rfl, by simp [he]⟩
    · simp [he]
    · simp [he]
  · have hdrop : (fun path => entry.deletes path) =
        fun other => decide (StrictlyInside path other) := by
      simp only [Entry.deletes, he]
    rw [hdrop] at hdeleted ⊢
    by_cases hp : path = []
    · subst hp
      refine ⟨_, ?_, hdeleted.root (some (effectReference operationIndex operation .whiteout)), ?_, ?_,
        ?_⟩
      · simp only [Journal.applyWhiteout, hk, h.removeStrictlyInside, ok_bind, if_true]
        rfl
      · intro other state hs
        refine ⟨state, (SortedMap.getElem?_without_eq_some.mp hs).2, rfl, ?_⟩
        by_cases ho : other = [] <;> simp [he, ho, eq_comm]
      · intro other state _ hkind hne
        rw [he] at hkind
        cases hkind
        exact absurd rfl hne
      · simp [he]
    · have hkeep : StrictlyInside path path ↔ False := by
        simp [StrictlyInside, hp, Paths.Below.irrefl]
      obtain ⟨state, hstate⟩ : ∃ state, projection.paths[path]? = some state := by
        apply Option.ne_none_iff_exists'.mp
        rw [ne_eq, h.counted.path_none]
        intro hnone
        have hdir := hsubject path he hp
        simp [Live.directoryAt, hnone] at hdir
      have hstill : (SortedMap.without (fun other => decide (StrictlyInside path other))
          projection.paths)[path]? = some state := by
        rw [SortedMap.getElem?_without_eq_some]
        exact ⟨by simp [hkeep], hstate⟩
      refine ⟨_, ?_, hdeleted.touch hstill (effectReference operationIndex operation .whiteout), ?_, ?_,
        ?_⟩
      · simp only [Journal.applyWhiteout, hk, h.removeStrictlyInside, ok_bind, if_neg hp, hstill]
        rfl
      · intro other found hf
        rw [SortedMap.getElem?_insert'] at hf
        by_cases ho : path = other
        · subst ho
          rw [if_pos rfl] at hf
          cases hf
          exact ⟨state, hstate, rfl, by simp [he, hp]⟩
        · rw [if_neg ho] at hf
          refine ⟨found, (SortedMap.getElem?_without_eq_some.mp hf).2, rfl, ?_⟩
          simp [he, ho]
      · intro other found hf hkind _
        rw [he] at hkind
        cases hkind
        rw [SortedMap.getElem?_insert', if_pos rfl] at hf
        cases hf
        obtain ⟨live, _, hlive, hstagedLive, hl⟩ := h.counted.live_of_path hstate
        refine ⟨live, hlive, (Operation.entry_isDirectory hstagedLive).mp ?_⟩
        have hdir := hsubject path he hp
        rwa [Live.directoryAt, hl] at hdir
      · simp [he, hp]

lemma deleted_overlaps {entry : Entry} {subject path : Bytes}
    (hs : entry.whiteoutSubject = some subject) (hd : entry.deletes path) : Overlap subject path := by
  unfold Entry.whiteoutSubject at hs
  unfold Entry.deletes at hd
  cases hk : entry.kind <;> rw [hk] at hs hd <;> cases hs
  case remove =>
    rcases of_decide_eq_true hd with h0 | rfl | hb
    · exact .inr (.inl h0)
    · exact .inl rfl
    · exact .inr (.inr (.inr (.inl hb)))
  case opaqueDirectory =>
    rcases of_decide_eq_true hd with h0 | hb
    · exact .inr (.inl h0)
    · exact .inr (.inr (.inr (.inl hb)))

lemma not_deleted_of_no_subject {entry : Entry} {path : Bytes} (hs : entry.whiteoutSubject = none) :
    entry.deletes path = false := by
  unfold Entry.whiteoutSubject at hs
  unfold Entry.deletes
  cases hk : entry.kind <;> rw [hk] at hs <;> first | rfl | cases hs

lemma subject_kept {lower : Live} (hadmissible : whiteoutsAdmissible lower entries) {index : ℕ}
    {entry : Entry} (hentry : entries[index]? = some entry) {subject : Bytes}
    (hs : entry.whiteoutSubject = some subject) :
    ((entries.take index).any fun earlier => earlier.deletes subject) = false := by
  rw [List.any_eq_false]
  intro earlier hmem hdel
  obtain ⟨hlt, hget⟩ := List.getElem?_eq_some_iff.mp hentry
  obtain ⟨k, hk, hearlier⟩ := List.getElem_of_mem hmem
  rw [List.length_take] at hk
  rw [List.getElem_take] at hearlier
  have hpair := List.pairwise_filterMap.mp hadmissible.2
  have hapart := List.pairwise_iff_getElem.mp hpair k index (by omega) hlt (by omega)
  rw [hearlier, hget] at hapart
  cases he : earlier.whiteoutSubject with
  | none => simp [not_deleted_of_no_subject he] at hdel
  | some other => exact hapart other he subject hs (deleted_overlaps he hdel)

lemma applyLayerWhiteoutPhase_ok (h : Sound journal projection lower) {layers : List (List Entry)}
    (hold : journal.Holds layers) (hlayer : layers[layer]? = some entries)
    (hadmissible : whiteoutsAdmissible lower entries) {I : ℕ → Projection → Prop}
    (h0 : I 0 projection)
    (hI : ∀ index entry operationIndex operation before after, entries[index]? = some entry →
      journal.operationAtSource layer index = .ok (operationIndex, operation) →
      operation.entry journal.physicalRegularExtents = some entry → I index before →
      Whitened journal before after operationIndex operation entry → I (index + 1) after) :
    ∃ projection', journal.applyLayerWhiteoutPhase projection layer entries.length =
        .ok projection' ∧
      Sound journal projection' (SortedMap.without
        (fun path => entries.any fun entry => entry.deletes path) lower) ∧
      I entries.length projection' := by
  have hrun := foldlM_range_invariant (ε := Fault String) (s := projection) entries
    (f := journal.applyWhiteoutAt layer)
    (I := fun index projection => Sound journal projection (SortedMap.without
      (fun path => (entries.take index).any fun entry => entry.deletes path) lower) ∧
        I index projection)
  obtain ⟨projection', hfold, hsound, hI'⟩ := hrun (by
    intro index entry before hentry hbefore
    obtain ⟨hsound, hIbefore⟩ := hbefore
    obtain ⟨operationIndex, operation, hat, hstaged⟩ := hold layer entries hlayer index entry hentry
    obtain ⟨after, happly, hafter, hwhitened⟩ := hsound.applyWhiteout_ok operationIndex hstaged (by
      intro path hkind hne
      have hs : entry.whiteoutSubject = some path := by rw [Entry.whiteoutSubject, hkind]
      rw [directoryAt_without]
      refine ⟨subject_kept hadmissible hentry hs, ?_⟩
      have hin := List.all_eq_true.mp hadmissible.1 entry (List.mem_of_getElem? hentry)
      simp only [Entry.admissible, hkind, hne, decide_false, Bool.false_or] at hin
      exact hin)
    refine ⟨after, by rw [Journal.applyWhiteoutAt, hat, ok_bind]; exact happly, ?_, hI index entry operationIndex operation
      before after hentry hat hstaged hIbefore hwhitened⟩
    have htake : entries.take (index + 1) = entries.take index ++ [entry] := by
      rw [List.take_add_one, hentry]
      rfl
    rw [htake]
    convert hafter using 1
    apply Std.ExtTreeMap.ext_getElem?
    intro path
    simp only [SortedMap.getElem?_without, List.any_append, List.any_cons, List.any_nil,
      Bool.or_false]
    cases (entries.take index).any fun entry => entry.deletes path <;> simp) ⟨by
    rw [SortedMap.without_of_none fun _ _ _ => by simp]
    exact h, h0⟩
  rw [List.take_length] at hsound
  exact ⟨projection', hfold, hsound, hI'⟩

end Sound

end Eip0045.Rootfs
