import Mathlib
import Eip0045.Rootfs.Candidate
import Eip0045.Rootfs.Projected

/-! The effects that a projection records are the latest ones, and the candidate checks agree. -/

namespace Eip0045.Rootfs

open Checked

namespace EffectOrdinal

variable {a b c : EffectOrdinal} {l : ℕ} {phase : EffectPhase} {j : ℕ}

lemma before_iff : Before a b ↔ a.semanticLayerIndex < b.semanticLayerIndex ∨
    a.semanticLayerIndex = b.semanticLayerIndex ∧
      ((a.phase = .whiteout ∧ b.phase = .entry) ∨
        (a.phase = b.phase ∧ a.archiveEntryIndex < b.archiveEntryIndex)) := Iff.rfl

lemma Before.trans (hab : Before a b) (hbc : Before b c) : Before a c := by
  rw [before_iff] at *
  cases ha : a.phase <;> cases hb : b.phase <;> cases hc : c.phase <;> simp [ha, hb, hc] at * <;>
    omega

lemma not_before_trans (hab : ¬Before a b) (hbc : ¬Before b c) : ¬Before a c := by
  rw [before_iff] at *
  cases ha : a.phase <;> cases hb : b.phase <;> cases hc : c.phase <;> simp [ha, hb, hc] at * <;>
    omega

lemma Before.asymm (h : Before a b) : ¬Before b a := by
  rw [before_iff] at *
  cases ha : a.phase <;> cases hb : b.phase <;> simp [ha, hb] at * <;> omega

lemma before_irrefl (a : EffectOrdinal) : ¬Before a a := fun h => h.asymm h

lemma eq_of_not_before (hab : ¬Before a b) (hba : ¬Before b a) : a = b := by
  obtain ⟨l, p, j⟩ := a
  obtain ⟨l', p', j'⟩ := b
  rw [before_iff] at hab hba
  cases p <;> cases p' <;> simp at hab hba ⊢ <;> omega

lemma Before.of_not_before (hab : ¬Before a b) (hac : Before a c) : Before b c := by
  rw [before_iff] at *
  cases ha : a.phase <;> cases hb : b.phase <;> cases hc : c.phase <;> simp [ha, hb, hc] at * <;>
    omega

lemma before_next : Before a ⟨l, phase, j + 1⟩ ↔ Before a ⟨l, phase, j⟩ ∨ a = ⟨l, phase, j⟩ := by
  obtain ⟨l', phase', j'⟩ := a
  simp only [before_iff, mk.injEq]
  cases phase' <;> cases phase <;> simp <;> omega

lemma not_before_self_next : ¬Before ⟨l, phase, j⟩ a ↔ Before a ⟨l, phase, j + 1⟩ := by
  obtain ⟨l', phase', j'⟩ := a
  simp only [before_iff]
  cases phase' <;> cases phase <;> simp <;> omega

lemma before_turn (h : a.semanticLayerIndex = l → a.archiveEntryIndex < j) :
    Before a ⟨l, .entry, 0⟩ ↔ Before a ⟨l, .whiteout, j⟩ := by
  obtain ⟨l', phase', j'⟩ := a
  simp only [before_iff] at h ⊢
  cases phase' <;> simp
  all_goals omega

lemma before_close (h : a.semanticLayerIndex = l → a.archiveEntryIndex < j) :
    Before a ⟨l + 1, .whiteout, 0⟩ ↔ Before a ⟨l, .entry, j⟩ := by
  obtain ⟨l', phase', j'⟩ := a
  simp only [before_iff] at h ⊢
  cases phase' <;> simp <;> omega

end EffectOrdinal

open EffectOrdinal

/-- Every operation is found at its own source position. -/
def Journal.Indexed (journal : Journal) : Prop :=
  ∀ (i : ℕ) (operation : Operation), journal.operations[i]? = some operation →
    journal.operationAtSource operation.source.semanticLayerIndex
      operation.source.archiveEntryIndex = .ok (i, operation)

def Operation.ordinal (operation : Operation) (phase : EffectPhase) : EffectOrdinal :=
  ⟨operation.source.semanticLayerIndex, phase, operation.source.archiveEntryIndex⟩

lemma effectReference_ordinal (i : ℕ) (operation : Operation) (phase : EffectPhase) :
    (effectReference i operation phase).ordinal = operation.ordinal phase := rfl

/-- What the path's definition and last effect are, all of them before a bound. -/
structure LiveEffect (journal : Journal) (bound : EffectOrdinal) (path : Bytes)
    (state : PathProjection) (live effect : Operation) : Prop where
  definition : journal.operations[state.liveDefinition]? = some live
  path_eq : live.path = path
  kind : live.kind.isWhiteout = false
  effect_at : journal.operations[state.lastEffect.operationIndex]? = some effect
  effect_eq : state.lastEffect =
    effectReference state.lastEffect.operationIndex effect state.lastEffect.ordinal.phase
  entry : state.lastEffect.ordinal.phase = .entry →
    state.lastEffect.operationIndex = state.liveDefinition
  whiteout : state.lastEffect.ordinal.phase = .whiteout →
    live.kind = .directory ∧ effect.kind = .opaqueDirectory path
  bounded : Before state.lastEffect.ordinal bound
  defined : ¬Before state.lastEffect.ordinal (live.ordinal .entry)

/-- The projection after all effects before a bound. -/
structure Effective (journal : Journal) (bound : EffectOrdinal) (projection : Projection) :
    Prop where
  live : ∀ (path : Bytes) (state : PathProjection), projection.paths[path]? = some state →
    ∃ live effect, LiveEffect journal bound path state live effect
  latest : ∀ (i : ℕ) (operation : Operation), journal.operations[i]? = some operation →
    operation.kind.isWhiteout = false → Before (operation.ordinal .entry) bound →
    ∀ state live, projection.paths[operation.path]? = some state →
      journal.operations[state.liveDefinition]? = some live →
        ¬Before (live.ordinal .entry) (operation.ordinal .entry)
  opaques : ∀ (i : ℕ) (operation : Operation) (path : Bytes),
    journal.operations[i]? = some operation → operation.kind = .opaqueDirectory path → path ≠ [] →
    Before (operation.ordinal .whiteout) bound → ∀ state, projection.paths[path]? = some state →
      ¬Before state.lastEffect.ordinal (operation.ordinal .whiteout)
  root : ∀ effect, projection.rootLastEffect = some effect → ∃ operation,
    journal.operations[effect.operationIndex]? = some operation ∧
      effect = effectReference effect.operationIndex operation .whiteout ∧
      operation.kind = .opaqueDirectory [] ∧ Before effect.ordinal bound
  rootLatest : ∀ (i : ℕ) (operation : Operation), journal.operations[i]? = some operation →
    operation.kind = .opaqueDirectory [] → Before (operation.ordinal .whiteout) bound →
    ∃ effect, projection.rootLastEffect = some effect ∧
      ¬Before effect.ordinal (operation.ordinal .whiteout)

namespace Effective

variable {journal : Journal} {bound bound' : EffectOrdinal} {projection : Projection}

lemma default (journal : Journal) : Effective journal ⟨0, .whiteout, 0⟩ Projection.default := by
  have hbefore : ∀ a : EffectOrdinal, ¬Before a ⟨0, .whiteout, 0⟩ := by
    intro a h
    rw [before_iff] at h
    cases ha : a.phase <;> simp [ha] at h
  constructor
  · intro path state h
    simp [Projection.default] at h
  · intro i operation _ _ hb
    exact absurd hb (hbefore _)
  · intro i operation path _ _ _ hb
    exact absurd hb (hbefore _)
  · intro effect h
    simp [Projection.default] at h
  · intro i operation _ _ hb
    exact absurd hb (hbefore _)

lemma move (h : Effective journal bound projection)
    (hmove : ∀ (i : ℕ) (operation : Operation) (phase : EffectPhase),
      journal.operations[i]? = some operation →
      (Before (operation.ordinal phase) bound' ↔ Before (operation.ordinal phase) bound)) :
    Effective journal bound' projection := by
  refine ⟨?_, ?_, ?_, ?_, ?_⟩
  · intro path state hs
    obtain ⟨live, effect, hl⟩ := h.live path state hs
    refine ⟨live, effect, { hl with bounded := ?_ }⟩
    have hb := hl.bounded
    rw [hl.effect_eq, effectReference_ordinal] at hb ⊢
    exact (hmove _ _ _ hl.effect_at).mpr hb
  · intro i operation hop hk hb
    exact h.latest i operation hop hk ((hmove i operation _ hop).mp hb)
  · intro i operation path hop hk hp hb
    exact h.opaques i operation path hop hk hp ((hmove i operation _ hop).mp hb)
  · intro effect he
    obtain ⟨operation, hop, heq, hk, hb⟩ := h.root effect he
    refine ⟨operation, hop, heq, hk, ?_⟩
    rw [heq, effectReference_ordinal] at hb ⊢
    exact (hmove _ _ _ hop).mpr hb
  · intro i operation hop hk hb
    exact h.rootLatest i operation hop hk ((hmove i operation _ hop).mp hb)

variable {layer position operationIndex : ℕ} {operation : Operation} {entry : Entry}
  {before after : Projection}

lemma at_position (hindexed : journal.Indexed)
    (hat : journal.operationAtSource layer position = .ok (operationIndex, operation))
    {i : ℕ} {other : Operation} {phase phase' : EffectPhase}
    (hop : journal.operations[i]? = some other)
    (ho : other.ordinal phase = ⟨layer, phase', position⟩) : i = operationIndex ∧ other = operation := by
  have h := hindexed i other hop
  simp only [Operation.ordinal, EffectOrdinal.mk.injEq] at ho
  rw [ho.1, ho.2.2, hat] at h
  cases h
  exact ⟨rfl, rfl⟩

lemma ordinal_eq (hat : journal.operationAtSource layer position = .ok (operationIndex, operation))
    (phase : EffectPhase) : operation.ordinal phase = ⟨layer, phase, position⟩ := by
  rw [Operation.ordinal, (Journal.operationAtSource_ok hat).2]

lemma kind_opaqueDirectory (hstaged : operation.entry journal.physicalRegularExtents = some entry)
    {path : Bytes} : operation.kind = .opaqueDirectory path ↔ entry.kind = .opaqueDirectory path := by
  obtain ⟨k, sha, hk, he⟩ | ⟨hk, he⟩ | ⟨t, hk, he⟩ | ⟨target, hk, he⟩ | ⟨path, hk, he⟩ :=
    Operation.entry_kinds hstaged <;> simp [hk, he]

lemma isWhiteout_iff (hstaged : operation.entry journal.physicalRegularExtents = some entry) :
    operation.kind.isWhiteout = false ↔ entry.whiteoutSubject = none := by
  obtain ⟨k, sha, hk, he⟩ | ⟨hk, he⟩ | ⟨t, hk, he⟩ | ⟨target, hk, he⟩ | ⟨path, hk, he⟩ :=
    Operation.entry_kinds hstaged <;>
    simp [hk, he, OperationKind.isWhiteout, Entry.whiteoutSubject]

lemma whitened (h : Effective journal ⟨layer, .whiteout, position⟩ before)
    (hindexed : journal.Indexed)
    (hat : journal.operationAtSource layer position = .ok (operationIndex, operation))
    (hstaged : operation.entry journal.physicalRegularExtents = some entry)
    (hw : Sound.Whitened journal before after operationIndex operation entry) :
    Effective journal ⟨layer, .whiteout, position + 1⟩ after := by
  have hop := (Journal.operationAtSource_ok hat).1
  have hself := ordinal_eq hat .whiteout
  have hgrow : ∀ {a : EffectOrdinal}, Before a ⟨layer, .whiteout, position⟩ →
      Before a ⟨layer, .whiteout, position + 1⟩ := fun hb => before_next.mpr (.inl hb)
  refine ⟨?_, ?_, ?_, ?_, ?_⟩
  · intro path state hs
    obtain ⟨previous, hp, hdef, heffect⟩ := hw.kept path state hs
    obtain ⟨live, effect, hl⟩ := h.live path previous hp
    by_cases hk : entry.kind = .opaqueDirectory path ∧ path ≠ []
    · rw [if_pos hk] at heffect
      obtain ⟨live', hlive', hdir⟩ := hw.directory path state hs hk.1 hk.2
      rw [← hdef, hl.definition] at hlive'
      cases hlive'
      refine ⟨live, operation, hdef ▸ hl.definition, hl.path_eq, hl.kind, ?_, ?_, ?_, ?_, ?_, ?_⟩
      · rw [heffect]
        exact hop
      · rw [heffect]
        rfl
      · rw [heffect]
        exact fun hphase => nomatch hphase
      · exact fun _ => ⟨hdir, (kind_opaqueDirectory hstaged).mpr hk.1⟩
      · rw [heffect, effectReference_ordinal, hself]
        exact before_next.mpr (.inr rfl)
      · rw [heffect, effectReference_ordinal, hself, not_before_self_next]
        exact hgrow (hl.bounded.of_not_before hl.defined)
    · rw [if_neg hk] at heffect
      have hsame : state = previous := PathProjection.ext hdef.symm heffect
      exact ⟨live, effect, hsame ▸ { hl with bounded := hgrow hl.bounded }⟩
  · intro i other hother hk hb state live hs hlive
    obtain ⟨previous, hp, hdef, _⟩ := hw.kept other.path state hs
    rcases before_next.mp hb with hb | heq
    · exact h.latest i other hother hk hb previous live hp (hdef ▸ hlive)
    · cases heq
  · intro i other path hother hk hne hb state hs
    obtain ⟨previous, hp, _, heffect⟩ := hw.kept path state hs
    rcases before_next.mp hb with hb | heq
    · rw [heffect]
      split
      · rw [effectReference_ordinal, hself]
        exact hb.asymm
      · exact h.opaques i other path hother hk hne hb previous hp
    · obtain ⟨rfl, rfl⟩ := at_position hindexed hat hother heq
      rw [heffect, if_pos ⟨(kind_opaqueDirectory hstaged).mp hk, hne⟩, effectReference_ordinal]
      exact before_irrefl _
  · intro effect he
    rw [hw.root] at he
    by_cases hk : entry.kind = .opaqueDirectory []
    · rw [if_pos hk] at he
      cases he
      refine ⟨operation, hop, rfl, (kind_opaqueDirectory hstaged).mpr hk, ?_⟩
      rw [effectReference_ordinal, hself]
      exact before_next.mpr (.inr rfl)
    · rw [if_neg hk] at he
      obtain ⟨other, hother, heq, hkind, hb⟩ := h.root effect he
      exact ⟨other, hother, heq, hkind, hgrow hb⟩
  · intro i other hother hk hb
    rw [hw.root]
    by_cases hkind : entry.kind = .opaqueDirectory []
    · rw [if_pos hkind]
      refine ⟨_, rfl, ?_⟩
      rw [effectReference_ordinal, hself, not_before_self_next]
      exact hb
    · rw [if_neg hkind]
      rcases before_next.mp hb with hb | heq
      · exact h.rootLatest i other hother hk hb
      · obtain ⟨rfl, rfl⟩ := at_position hindexed hat hother heq
        exact absurd ((kind_opaqueDirectory hstaged).mp hk) hkind

lemma entered (h : Effective journal ⟨layer, .entry, position⟩ before)
    (hindexed : journal.Indexed)
    (hat : journal.operationAtSource layer position = .ok (operationIndex, operation))
    (hstaged : operation.entry journal.physicalRegularExtents = some entry)
    (he : Sound.Entered before after operationIndex operation entry) :
    Effective journal ⟨layer, .entry, position + 1⟩ after := by
  have hop := (Journal.operationAtSource_ok hat).1
  have hself := ordinal_eq hat .entry
  have hpath := Operation.entry_path hstaged
  have hgrow : ∀ {a : EffectOrdinal}, Before a ⟨layer, .entry, position⟩ →
      Before a ⟨layer, .entry, position + 1⟩ := fun hb => before_next.mpr (.inl hb)
  refine ⟨?_, ?_, ?_, ?_, ?_⟩
  · intro path state hs
    have hkept := he.kept path state hs
    by_cases hk : entry.whiteoutSubject = none ∧ path = entry.path
    · rw [if_pos hk] at hkept
      subst hkept
      refine ⟨operation, operation, hop, hpath.symm.trans hk.2.symm, (isWhiteout_iff hstaged).mpr hk.1,
        hop, rfl, fun _ => rfl, (fun hphase => nomatch hphase), ?_, ?_⟩
      · change Before (operation.ordinal .entry) _
        rw [hself]
        exact before_next.mpr (.inr rfl)
      · exact before_irrefl _
    · rw [if_neg hk] at hkept
      obtain ⟨live, effect, hl⟩ := h.live path state hkept
      exact ⟨live, effect, { hl with bounded := hgrow hl.bounded }⟩
  · intro i other hother hk hb state live hs hlive
    have hkept := he.kept other.path state hs
    by_cases hnew : entry.whiteoutSubject = none ∧ other.path = entry.path
    · rw [if_pos hnew] at hkept
      subst hkept
      rw [hop] at hlive
      cases hlive
      rw [hself, not_before_self_next]
      exact hb
    · rw [if_neg hnew] at hkept
      rcases before_next.mp hb with hb | heq
      · exact h.latest i other hother hk hb state live hkept hlive
      · obtain ⟨rfl, rfl⟩ := at_position hindexed hat hother heq
        exact absurd ⟨(isWhiteout_iff hstaged).mp hk, hpath.symm⟩ hnew
  · intro i other path hother hk hne hb state hs
    have hkept := he.kept path state hs
    have hb' : Before (other.ordinal .whiteout) ⟨layer, .entry, position⟩ := by
      rcases before_next.mp hb with hb | heq
      · exact hb
      · cases heq
    by_cases hnew : entry.whiteoutSubject = none ∧ path = entry.path
    · rw [if_pos hnew] at hkept
      subst hkept
      change ¬Before (operation.ordinal .entry) _
      rw [hself]
      exact hb'.asymm
    · rw [if_neg hnew] at hkept
      exact h.opaques i other path hother hk hne hb' state hkept
  · intro effect hr
    rw [he.root] at hr
    obtain ⟨other, hother, heq, hkind, hb⟩ := h.root effect hr
    exact ⟨other, hother, heq, hkind, hgrow hb⟩
  · intro i other hother hk hb
    rw [he.root]
    rcases before_next.mp hb with hb | heq
    · exact h.rootLatest i other hother hk hb
    · cases heq

lemma tracks {layers : List Layer} (hindexed : journal.Indexed)
    (hinside : ∀ (i : ℕ) (operation : Operation) (layer : Layer),
      journal.operations[i]? = some operation →
      layers[operation.source.semanticLayerIndex]? = some layer →
        operation.source.archiveEntryIndex < layer.entries.length) :
    Tracks journal layers (fun layer position => Effective journal ⟨layer, .whiteout, position⟩)
      fun layer position => Effective journal ⟨layer, .entry, position⟩ where
  whitened := fun _ _ _ _ _ _ _ _ _ _ hat hstaged h hw => h.whitened hindexed hat hstaged hw
  turned := by
    intro index layer projection hlayer h
    apply h.move
    intro i operation phase hop
    refine before_turn fun heq => hinside i operation layer hop ?_
    rwa [show operation.source.semanticLayerIndex = index from heq]
  entered := fun _ _ _ _ _ _ _ _ _ _ hat hstaged h he => h.entered hindexed hat hstaged he
  closed := by
    intro index layer projection hlayer h
    apply h.move
    intro i operation phase hop
    refine before_close fun heq => hinside i operation layer hop ?_
    rwa [show operation.source.semanticLayerIndex = index from heq]

end Effective

section Checks

variable {journal : Journal} {bound : EffectOrdinal} {projection : Projection}

lemma validateLiveEffect_ok {path : Bytes} {state : PathProjection} {live effect : Operation}
    (h : LiveEffect journal bound path state live effect) :
    validateLiveEffect journal.operations (path, state) = .ok () := by
  simp only [validateLiveEffect, bind_ok, exists_unit, report_ok, context_ok, ensure_ok]
  refine ⟨live, h.definition, h.path_eq, effect, h.effect_at, h.effect_eq, ?_⟩
  cases hphase : state.lastEffect.ordinal.phase with
  | entry =>
    have hindex := h.entry hphase
    have hat := h.effect_at
    rw [hindex, h.definition] at hat
    cases hat
    simp [hindex, h.kind, ensure, report]
  | whiteout =>
    obtain ⟨hdir, hopaque⟩ := h.whiteout hphase
    simp [hdir, hopaque, ensure, report]

/-- The latest root opaque whiteout among the first operations. -/
def LatestRoot (journal : Journal) (count : ℕ) (latest : Option EffectReference) : Prop :=
  (∀ effect, latest = some effect → ∃ i operation, journal.operations[i]? = some operation ∧
    operation.kind = .opaqueDirectory [] ∧ effect = effectReference i operation .whiteout) ∧
  ∀ i operation, i < count → journal.operations[i]? = some operation →
    operation.kind = .opaqueDirectory [] → ∃ effect, latest = some effect ∧
      ¬Before effect.ordinal (operation.ordinal .whiteout)

lemma LatestRoot.skip {count : ℕ} {latest : Option EffectReference}
    (h : LatestRoot journal count latest) {operation : Operation}
    (hop : journal.operations[count]? = some operation)
    (hk : operation.kind ≠ .opaqueDirectory []) : LatestRoot journal (count + 1) latest := by
  refine ⟨h.1, ?_⟩
  intro i other hi hother hkind
  rcases Nat.lt_succ_iff_lt_or_eq.mp hi with hi | rfl
  · exact h.2 i other hi hother hkind
  · rw [hop] at hother
    cases hother
    exact absurd hkind hk

lemma LatestRoot.root {count : ℕ} {latest : Option EffectReference}
    (h : LatestRoot journal count latest) {operation : Operation}
    (hop : journal.operations[count]? = some operation)
    (hk : operation.kind = .opaqueDirectory []) :
    LatestRoot journal (count + 1)
      (if latest.all fun latest => latest.ordinal.Before (operation.ordinal .whiteout) then
        some (effectReference count operation .whiteout) else latest) := by
  split
  · next hall =>
    refine ⟨?_, ?_⟩
    · rintro effect heq
      cases heq
      exact ⟨count, operation, hop, hk, rfl⟩
    · intro i other hi hother hkind
      refine ⟨_, rfl, ?_⟩
      rw [effectReference_ordinal]
      rcases Nat.lt_succ_iff_lt_or_eq.mp hi with hi | rfl
      · obtain ⟨effect, rfl, hnot⟩ := h.2 i other hi hother hkind
        have hlt : Before effect.ordinal (operation.ordinal .whiteout) := by simpa using hall
        exact not_before_trans hlt.asymm hnot
      · rw [hop] at hother
        cases hother
        exact before_irrefl _
  · next hall =>
    refine ⟨h.1, ?_⟩
    intro i other hi hother hkind
    rcases Nat.lt_succ_iff_lt_or_eq.mp hi with hi | rfl
    · exact h.2 i other hi hother hkind
    · rw [hop] at hother
      cases hother
      cases latest with
      | none => simp at hall
      | some effect => exact ⟨effect, rfl, by simpa using hall⟩

lemma validateTemporalMaximum_ok (h : Effective journal bound projection)
    (hall : ∀ (i : ℕ) (operation : Operation) (phase : EffectPhase),
      journal.operations[i]? = some operation → Before (operation.ordinal phase) bound)
    {i : ℕ} {operation : Operation} {latest : Option EffectReference}
    (hop : journal.operations[i]? = some operation) (hl : LatestRoot journal i latest) :
    ∃ latest', validateTemporalMaximum journal.operations projection latest (operation, i) =
      .ok latest' ∧ LatestRoot journal (i + 1) latest' := by
  have hplain : operation.kind.isWhiteout = false → ∃ latest', (do
      validateTemporalDefinition journal.operations projection operation i
      pure latest : Result (Option EffectReference)) = .ok latest' ∧
        LatestRoot journal (i + 1) latest' := by
    intro hk
    refine ⟨latest, ?_, hl.skip hop fun hkind => by rw [hkind] at hk; cases hk⟩
    rw [bind_ok, exists_unit, validateTemporalDefinition]
    cases hs : projection.paths[operation.path]? with
    | none => exact ⟨rfl, rfl⟩
    | some state =>
      obtain ⟨live, effect, hlive⟩ := h.live operation.path state hs
      have hlatest := h.latest i operation hop hk (hall i operation _ hop) state live hs
        hlive.definition
      simp only [bind_ok, exists_unit, report_ok, context_ok, effectReference_ordinal]
      exact ⟨⟨live, hlive.definition, ensure_pass hlatest,
        ensure_pass (not_before_trans hlive.defined hlatest)⟩, rfl⟩
  rw [validateTemporalMaximum]
  cases hk : operation.kind with
  | regular k => exact hplain (by rw [hk]; rfl)
  | directory => exact hplain (by rw [hk]; rfl)
  | symbolicLink target => exact hplain (by rw [hk]; rfl)
  | remove target => exact ⟨latest, rfl, hl.skip hop (by rw [hk]; simp)⟩
  | opaqueDirectory path =>
    by_cases hp : path = []
    · subst hp
      refine ⟨_, ?_, hl.root hop hk⟩
      simp only [if_true, effectReference_ordinal]
      exact (apply_ite Except.ok _ _ _).symm
    · simp only [hp, if_false]
      refine ⟨latest, ?_, hl.skip hop (by rw [hk]; simpa using hp)⟩
      cases hs : projection.paths[path]? with
      | none => rfl
      | some state =>
        simp only [bind_ok, exists_unit, report_ok, pure_ok, effectReference_ordinal, and_true]
        exact ensure_pass (h.opaques i operation path hop hk hp (hall i operation _ hop) state hs)

lemma validateProjectionEffectReferences_ok (h : Effective journal bound projection)
    (hall : ∀ (i : ℕ) (operation : Operation) (phase : EffectPhase),
      journal.operations[i]? = some operation → Before (operation.ordinal phase) bound)
    (hindexed : journal.Indexed) :
    validateProjectionEffectReferences journal.operations projection = .ok () := by
  have hrun := foldlM_zipIdx_invariant (ε := Fault String) (s := (none : Option EffectReference))
    (f := validateTemporalMaximum journal.operations projection) (I := LatestRoot journal)
    journal.operations fun i operation latest hop hl => validateTemporalMaximum_ok h hall hop hl
  obtain ⟨latest, hfold, hlatest⟩ := hrun ⟨by simp, by simp⟩
  simp only [validateProjectionEffectReferences, bind_ok, exists_unit, report_ok, ensure_ok]
  refine ⟨?_, ?_, latest, hfold, ?_⟩
  · rw [forM_ok]
    rintro ⟨path, state⟩ hb
    obtain ⟨live, effect, hl⟩ := h.live path state (SortedMap.mem_toList.mp hb)
    exact validateLiveEffect_ok hl
  · cases hr : projection.rootLastEffect with
    | none => rfl
    | some effect =>
      obtain ⟨operation, hop, heq, hk, _⟩ := h.root effect hr
      simp only [validateRootEffect, bind_ok, exists_unit, report_ok, context_ok, ensure_ok]
      exact ⟨operation, hop, heq, hk⟩
  · cases hr : projection.rootLastEffect with
    | none =>
      cases hl : latest with
      | none => rfl
      | some effect =>
        obtain ⟨i, operation, hop, hk, _⟩ := hlatest.1 effect hl
        obtain ⟨effect', he, _⟩ := h.rootLatest i operation hop hk (hall i operation _ hop)
        rw [hr] at he
        cases he
    | some effect =>
      obtain ⟨operation, hop, heq, hk, _⟩ := h.root effect hr
      obtain ⟨hlt, -⟩ := List.getElem?_eq_some_iff.mp hop
      obtain ⟨effect', hl, hnot⟩ := hlatest.2 _ operation hlt hop hk
      obtain ⟨i, other, hother, hk', heq'⟩ := hlatest.1 effect' hl
      obtain ⟨effect'', hr'', hnot'⟩ := h.rootLatest i other hother hk' (hall i other _ hother)
      rw [hr] at hr''
      cases hr''
      rw [heq, effectReference_ordinal] at hnot'
      rw [heq', effectReference_ordinal] at hnot
      have hord := eq_of_not_before hnot hnot'
      simp only [Operation.ordinal, EffectOrdinal.mk.injEq, true_and] at hord
      have h1 := hindexed _ operation hop
      have h2 := hindexed i other hother
      rw [hord.1, hord.2, h1] at h2
      cases h2
      rw [hl, heq', heq]
      rfl

end Checks

end Eip0045.Rootfs
