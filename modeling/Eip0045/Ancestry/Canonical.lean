import Eip0045.Ancestry.Semantics

/-! What a canonical outcome fixes of the projected claims. -/

namespace Eip0045.RecursiveAncestry

open Bytes Checked Constants Receipt Statement

variable {U : Upstream} {projection : Projection} {statement : Bytes} {program : Digest}
  {ok : ReceiptClaimDigests} {expectedOk : ParsedClaim} {claims : List ParsedClaim}
  {conditional : Option Digest}

section Claims

lemma receiptClaimFromProjection_ok {claim : Claim} {r : ReceiptClaim U.ExitCode} :
    receiptClaimFromProjection U claim = .ok r ↔
      ∃ c : ParsedClaim, ∃ e, claim = c.wire ∧ U.fromPair c.systemExit c.userExit = some e ∧
        r = ⟨c.input, c.pre, c.post, e, .pruned c.output⟩ := by
  simp only [receiptClaimFromProjection, bind_ok, parseDigest_ok, context_ok, pure_ok]
  constructor
  · intro h
    obtain ⟨input, hinput, pre, hpre, post, hpost, e, he, output, houtput, rfl⟩ := h
    refine ⟨⟨input, pre, post, claim.systemExit, claim.userExit, output⟩, e, ?_, he, rfl⟩
    cases claim
    simp only at hinput hpre hpost houtput
    rw [hinput, hpre, hpost, houtput]
    rfl
  · intro h
    obtain ⟨c, e, rfl, he, rfl⟩ := h
    exact ⟨_, rfl, _, rfl, _, rfl, e, he, _, rfl, rfl⟩

lemma wire_injective : Function.Injective ParsedClaim.wire := by
  intro c d h
  have hc : parseClaim c.wire = .ok c := parseClaim_ok.mpr rfl
  rw [h, parseClaim_ok.mpr rfl] at hc
  exact (Except.ok.inj hc).symm

lemma matches_true {r : ReceiptClaim U.ExitCode} {c : ParsedClaim}
    (h : receiptClaimMatchesProjection U r c.wire = .ok true) : parsedFromReceiptClaim U r = c := by
  simp only [receiptClaimMatchesProjection, bind_ok] at h
  obtain ⟨projected, -, h⟩ := h
  by_cases hdigest : U.claimDigest r = U.claimDigest projected
  · rw [if_pos hdigest, parseClaim_ok.mpr rfl] at h
    exact of_decide_eq_true (Except.ok.inj h)
  · rw [if_neg hdigest] at h
    exact absurd (Except.ok.inj h) (by simp)

lemma mapM_parseClaim {steps : List Step} :
    (steps.mapM fun step => parseClaim step.claim) = .ok claims ↔
      steps.map (fun step => step.claim) = claims.map ParsedClaim.wire := by
  rw [mapM_forall₂]
  simp only [parseClaim_ok]
  constructor
  · intro h
    induction h with
    | nil => rfl
    | cons hstep _ ih => rw [List.map_cons, List.map_cons, hstep, ih]
  · intro h
    induction steps generalizing claims with
    | nil =>
      rw [List.map_nil, eq_comm, List.map_eq_nil_iff] at h
      rw [h]
      exact .nil
    | cons step steps ih =>
      cases claims with
      | nil => exact absurd h (by simp)
      | cons c claims =>
        rw [List.map_cons, List.map_cons, List.cons.injEq] at h
        exact .cons h.1 (ih h.2)

end Claims

section Operations

/-- `result` is the stock join of two claims. -/
def StockJoin (U : Upstream) (left right result : ParsedClaim) : Prop :=
  ∃ l r, receiptClaimFromProjection U left.wire = .ok l ∧
    receiptClaimFromProjection U right.wire = .ok r ∧
    parsedFromReceiptClaim U (U.join l r) = result

/-- `result` is the stock resolve of a claim under its source list by an assumption's claim. -/
def StockResolve (U : Upstream) (statement : Bytes) (assumption : Assumed)
    (conditional result : ParsedClaim) : Prop :=
  ∃ c a r, receiptClaimWithInventory U conditional.wire statement assumption.sourceInventory =
      .ok c ∧
    receiptClaimFromProjection U assumption.claim = .ok a ∧ U.resolve c a = some r ∧
    parsedFromReceiptClaim U r = result

lemma StockJoin.input (hU : U.Joins) {left right result : ParsedClaim}
    (h : StockJoin U left right result) : result.input = left.input := by
  obtain ⟨l, r, hl, -, rfl⟩ := h
  obtain ⟨c, e, hc, -, rfl⟩ := receiptClaimFromProjection_ok.mp hl
  rw [wire_injective hc]
  simp only [parsedFromReceiptClaim, hU.join_eq]

lemma earlierClaim_ok {ordinal : UInt32} {current : ℕ} {c : ParsedClaim}
    (h : earlierClaim claims ordinal current = .ok c) : claims[ordinal.toNat]? = some c := by
  simp only [earlierClaim, bind_ok, exists_unit, context_ok] at h
  exact h.2

lemma claim_at (hclaims : projection.steps.map (fun step => step.claim) =
    claims.map ParsedClaim.wire) {i : ℕ} {step : Step} {c : ParsedClaim}
    (hs : projection.steps[i]? = some step) (hc : claims[i]? = some c) : step.claim = c.wire := by
  have hstep : (projection.steps.map (fun step => step.claim))[i]? = some step.claim := by
    rw [List.getElem?_map, hs]
    rfl
  rw [hclaims, List.getElem?_map, hc] at hstep
  exact (Option.some.inj hstep).symm

lemma replayJoin_none (hclaims : projection.steps.map (fun step => step.claim) =
    claims.map ParsedClaim.wire) {step : Step} {index : ℕ} {l r : UInt32} {c : ParsedClaim}
    (hc : step.claim = c.wire)
    (h : replayJoin U projection claims step index l r = .ok none) :
    ∃ left right, claims[l.toNat]? = some left ∧ claims[r.toNat]? = some right ∧
      StockJoin U left right c := by
  simp only [replayJoin, bind_ok, item_ok] at h
  obtain ⟨left, hleft, right, hright, pl, hpl, pr, hpr, lc, hlc, rc, hrc, h⟩ := h
  have hl := earlierClaim_ok hleft
  have hr := earlierClaim_ok hright
  refine ⟨left, right, hl, hr, lc, rc, ?_, ?_, ?_⟩
  · rwa [← claim_at hclaims hpl hl]
  · rwa [← claim_at hclaims hpr hr]
  · split_ifs at h with hedge
    · exact absurd (Except.ok.inj h) (by simp)
    · rw [hc, bind_ok] at h
      obtain ⟨matched, hmatched, h⟩ := h
      cases matched with
      | true => exact matches_true hmatched
      | false => exact absurd (Except.ok.inj h) (by simp)

lemma replayResolve_none (hclaims : projection.steps.map (fun step => step.claim) =
    claims.map ParsedClaim.wire) {step : Step} {index : ℕ} {k : UInt32} {c : ParsedClaim}
    (hc : step.claim = c.wire)
    (h : replayResolve U projection statement claims conditional step index k = .ok none) :
    ∃ assumption source, projection.assumptionReceipt = some assumption ∧
      claims[k.toNat]? = some source ∧ StockResolve U statement assumption source c := by
  simp only [replayResolve, bind_ok, exists_unit, ensure_ok, item_ok, context_ok] at h
  obtain ⟨source, hsource, output, -, -, assumption, hassumption, p, hp, cc, hcc, ac, hac, r, hr,
    matched, hmatched, h⟩ := h
  have hk := earlierClaim_ok hsource
  refine ⟨assumption, source, hassumption, hk, cc, ac, r, ?_, hac, hr, ?_⟩
  · rwa [← claim_at hclaims hp hk]
  · cases matched with
    | true =>
      rw [hc] at hmatched
      exact matches_true hmatched
    | false => exact absurd (Except.ok.inj h) (by simp)

end Operations

section Edges

lemma sourceEdge_next {index : ℕ} {c d : ParsedClaim}
    (hlt : index + 1 < projection.family.sourceCount) (hc : claims[index]? = some c)
    (hd : claims[index + 1]? = some d)
    (h : sourceEdge projection ok claims conditional index = .ok none) :
    (c.systemExit, c.userExit) = (2, 0) ∧ c.output = zeroDigest ∧ c.post = d.pre := by
  simp only [sourceEdge, bind_ok, item_ok, hc, Option.some.injEq, exists_eq_left', if_pos hlt,
    hd] at h
  split_ifs at h with hedge
  · exact absurd (Except.ok.inj h) (by simp)
  · tauto

lemma sourceEdge_last {index : ℕ} {c : ParsedClaim}
    (hlt : ¬index + 1 < projection.family.sourceCount) (hc : claims[index]? = some c)
    (h : sourceEdge projection ok claims conditional index = .ok none) :
    c.post = ok.post ∧ (c.systemExit, c.userExit) = (0, 0) ∧
      c.output = conditional.getD ok.output := by
  simp only [sourceEdge, bind_ok, item_ok, hc, Option.some.injEq, exists_eq_left', if_neg hlt] at h
  split_ifs at h with hedge houtput
  · exact absurd (Except.ok.inj h) (by simp)
  · tauto

end Edges

section Replay

lemma resolveOutcome_ne (family : Family) : family.resolveOutcome ≠ .canonical := by
  cases family <;> simp [Family.resolveOutcome]

lemma sourceEdge_some {index : ℕ} {outcome : SemanticOutcome}
    (h : sourceEdge projection ok claims conditional index = .ok (some outcome)) :
    outcome ≠ .canonical := by
  simp only [sourceEdge, bind_ok] at h
  obtain ⟨c, -, h⟩ := h
  split_ifs at h
  · rw [bind_ok] at h
    obtain ⟨d, -, h⟩ := h
    split_ifs at h
    · cases Except.ok.inj h
      simp
    · exact absurd (Except.ok.inj h) (by simp)
  · cases Except.ok.inj h
    simp
  · exact absurd (Except.ok.inj h) (by simp)

lemma edgeOf_ne {matched : Bool} {outcome : SemanticOutcome}
    (h : (if matched then pure none else pure (some .claimEdge) : Result (Option SemanticOutcome)) =
      .ok (some outcome)) : outcome ≠ .canonical := by
  cases matched with
  | true => exact absurd (Except.ok.inj h) (by simp)
  | false =>
    cases Except.ok.inj h
    simp

lemma replayStep_some {pair : Step × ℕ} {outcome : SemanticOutcome}
    (h : replayStep U projection statement expectedOk claims conditional pair =
      .ok (some outcome)) : outcome ≠ .canonical := by
  obtain ⟨step, index⟩ := pair
  simp only [replayStep] at h
  split_ifs at h
  · cases Except.ok.inj h
    exact resolveOutcome_ne _
  · cases hop : step.operation with
    | lift segmentIndex =>
      rw [hop] at h
      exact absurd (Except.ok.inj h) (by simp)
    | join l r =>
      simp only [hop, replayJoin, bind_ok] at h
      obtain ⟨_, -, _, -, _, -, _, -, _, -, _, -, h⟩ := h
      split_ifs at h
      · cases Except.ok.inj h
        simp
      · rw [bind_ok] at h
        obtain ⟨matched, -, h⟩ := h
        exact edgeOf_ne h
    | resolve k =>
      simp only [hop, replayResolve, bind_ok] at h
      obtain ⟨_, -, _, -, _, -, _, -, _, -, _, -, _, -, _, -, matched, -, h⟩ := h
      exact edgeOf_ne h

/-- No loop of the replay has found a mismatch. -/
structure Replayed (U : Upstream) (projection : Projection) (statement : Bytes) (program : Digest)
    (ok : ReceiptClaimDigests) (expectedOk : ParsedClaim) (claims : List ParsedClaim)
    (conditional : Option Digest) : Prop where
  start : ∃ c, claims[0]? = some c ∧ c.pre = program
  edges : ∀ index < projection.family.sourceCount,
    sourceEdge projection ok claims conditional index = .ok none
  steps : ∀ k step, projection.steps[k]? = some step →
    replayStep U projection statement expectedOk claims conditional (step, k) = .ok none

lemma replayClaims_canonical
    (h : replayClaims U projection statement program ok expectedOk claims conditional =
      .ok .canonical) :
    Replayed U projection statement program ok expectedOk claims conditional := by
  simp only [replayClaims, bind_ok, item_ok] at h
  obtain ⟨first, hfirst, h⟩ := h
  split_ifs at h with hpre
  · exact absurd (Except.ok.inj h) (resolveOutcome_ne _)
  · rw [bind_ok] at h
    obtain ⟨edge, hedge, h⟩ := h
    cases edge with
    | some outcome =>
      obtain ⟨index, -, hindex⟩ := firstSome_some hedge
      exact absurd (Except.ok.inj h) (sourceEdge_some hindex)
    | none =>
      obtain ⟨replayed, hreplayed, h⟩ := bind_ok.mp h
      cases replayed with
      | some outcome =>
        obtain ⟨pair, -, hpair⟩ := firstSome_some hreplayed
        exact absurd (Except.ok.inj h) (replayStep_some hpair)
      | none =>
        refine ⟨⟨first, hfirst, not_not.mp hpre⟩, ?_, ?_⟩
        · intro index hindex
          exact firstSome_none.mp hedge index (List.mem_range.mpr hindex)
        · intro k step hk
          exact firstSome_none.mp hreplayed (step, k) (List.mem_zipIdx_iff_getElem?.mpr hk)

section Replayed

variable (hclaims : projection.steps.map (fun step => step.claim) = claims.map ParsedClaim.wire)
  (h : Replayed U projection statement program ok expectedOk claims conditional)

include hclaims h

lemma Replayed.join {k : ℕ} {step : Step} {l r : UInt32} {c : ParsedClaim}
    (hk : projection.steps[k]? = some step) (hop : step.operation = .join l r)
    (hc : claims[k]? = some c) :
    ∃ left right, claims[l.toNat]? = some left ∧ claims[r.toNat]? = some right ∧
      StockJoin U left right c := by
  have hstep := h.steps k step hk
  simp only [replayStep, hop] at hstep
  split_ifs at hstep
  · exact absurd (Except.ok.inj hstep) (by simp)
  · exact replayJoin_none hclaims (claim_at hclaims hk hc) hstep

lemma Replayed.resolve {k : ℕ} {step : Step} {s : UInt32} {c : ParsedClaim}
    (hk : projection.steps[k]? = some step) (hop : step.operation = .resolve s)
    (hc : claims[k]? = some c) :
    ∃ assumption source, projection.assumptionReceipt = some assumption ∧
      claims[s.toNat]? = some source ∧ StockResolve U statement assumption source c := by
  have hstep := h.steps k step hk
  simp only [replayStep, hop] at hstep
  split_ifs at hstep
  · exact absurd (Except.ok.inj hstep) (by simp)
  · exact replayResolve_none hclaims (claim_at hclaims hk hc) hstep

omit hclaims in
lemma Replayed.last {k : ℕ} {step : Step} (hk : projection.steps[k]? = some step)
    (hlen : k + 1 = projection.steps.length) : claims.getLast? = some expectedOk := by
  have hstep := h.steps k step hk
  simp only [replayStep, hlen, true_and] at hstep
  split_ifs at hstep with hlast
  · exact absurd (Except.ok.inj hstep) (by simp)
  · exact not_not.mp hlast

end Replayed

end Replay

section Inventory

lemma StockResolve.unique {assumption : Assumed} {source c d : ParsedClaim}
    (hc : StockResolve U statement assumption source c)
    (hd : StockResolve U statement assumption source d) : c = d := by
  obtain ⟨x, a, r, hx, ha, hr, rfl⟩ := hc
  obtain ⟨x', a', r', hx', ha', hr', rfl⟩ := hd
  cases Except.ok.inj (hx.symm.trans hx')
  cases Except.ok.inj (ha.symm.trans ha')
  cases Option.some.inj (hr.symm.trans hr')
  rfl

lemma classifyStockInventory_none {assumption : Assumed} {expectedClaim root : Digest}
    (h : classifyStockInventory U projection.family projection assumption statement expectedClaim
      expectedOk root = .ok none) :
    ∃ index step c, conditionalIndex projection.family = .ok index ∧
      projection.steps[index]? = some step ∧ step.claim = c.wire ∧
      StockResolve U statement assumption c { c with output := expectedOk.output } := by
  simp only [classifyStockInventory, bind_ok, exists_unit, ensure_ok, item_ok, pure_ok,
    parseClaim_ok] at h
  obtain ⟨defect, -, -, index, hindex, step, hstep, source, hsource, digest, -, -, a, ha, -, c, hc,
    hchecked, rfl⟩ := h
  simp only [checkResolved, bind_ok, context_ok, ensure_ok] at hchecked
  obtain ⟨r, hr, hparsed⟩ := hchecked
  rw [hc] at hsource
  exact ⟨index, step, c, hindex, hstep, hc, source, a, r, hsource, ha, hr, hparsed⟩

end Inventory

end Eip0045.RecursiveAncestry
