import Eip0045.Ancestry.Canonical

/-! A canonical projection carries its producer's claims, up to one intermediate state, exactly when
its second source claim has no input. -/

namespace Eip0045.RecursiveAncestry

open Bytes Checked Constants Receipt Statement

variable {U : Upstream} {projection : Projection} {statement : Bytes} {expectedProfileId : Digest}
  {program : Digest} {ok : ReceiptClaimDigests} {claims : List ParsedClaim} {output : Digest}

section Inversion

/-- What the classifier has computed and checked when it answers `canonical`. -/
structure CanonicalRun (U : Upstream) (projection : Projection) (statement : Bytes)
    (expectedProfileId : Digest) (s : ErgoStatementV1) (ok : ReceiptClaimDigests)
    (root : Option Digest) (claims : List ParsedClaim) : Prop where
  structured : Structured U projection statement expectedProfileId
  parsed : parseErgoStatementV1 statement = .ok s
  digests : okReceiptClaimDigests U s.programId.val statement = .ok ok
  expectedRoot : expectedAssumptionRoot projection.family = .ok root
  projected : projection.steps.map (fun step => step.claim) = claims.map ParsedClaim.wire
  replayed : Replayed U projection statement s.programId ok (okClaim s.programId ok) claims
    (root.map (conditionalOutputDigest U statement ok.expectedClaim))
  resolved : projection.family ≠ .terminalJoin → ∃ assumption index step c,
    projection.assumptionReceipt = some assumption ∧
      conditionalIndex projection.family = .ok index ∧ projection.steps[index]? = some step ∧
      step.claim = c.wire ∧ StockResolve U statement assumption c { c with output := ok.output }

lemma classifyDefect_ne {defect : InventoryDefect} {expectedOk : ParsedClaim} :
    classifyDefect U projection statement program ok expectedOk claims defect ≠
      .ok .canonical := by
  intro h
  simp only [classifyDefect, bind_ok] at h
  obtain ⟨_, -, assumption, -, sourceOutput, -, h⟩ := h
  split at h
  · rw [bind_ok] at h
    obtain ⟨_, -, h⟩ := h
    exact absurd (Except.ok.inj h) (by simp)
  · exact absurd h (by simp)

lemma classifyClaims_canonical {expectedOk : ParsedClaim} {root : Option Digest}
    {defect : Option InventoryDefect}
    (h : classifyClaims U projection statement program ok expectedOk root defect =
      .ok .canonical) :
    defect = none ∧ ∃ claims,
      projection.steps.map (fun step => step.claim) = claims.map ParsedClaim.wire ∧
      Replayed U projection statement program ok expectedOk claims
        (root.map (conditionalOutputDigest U statement ok.expectedClaim)) := by
  simp only [classifyClaims, bind_ok, mapM_parseClaim] at h
  obtain ⟨claims, hclaims, h⟩ := h
  cases defect with
  | some defect => exact absurd h classifyDefect_ne
  | none => exact ⟨rfl, claims, hclaims, replayClaims_canonical h⟩

lemma classifyAssumed_canonical {expectedOk : ParsedClaim} {assumption : Assumed} {root : Digest}
    (h : classifyAssumed U projection statement program ok expectedOk assumption root =
      .ok .canonical) :
    classifyStockInventory U projection.family projection assumption statement ok.expectedClaim
        expectedOk root = .ok none ∧
      classifyClaims U projection statement program ok expectedOk (some root) none =
        .ok .canonical := by
  simp only [classifyAssumed, bind_ok] at h
  obtain ⟨claim, -, h⟩ := h
  split_ifs at h
  · exact absurd (Except.ok.inj h) (resolveOutcome_ne _)
  obtain ⟨requested, -, h⟩ := bind_ok.mp h
  split_ifs at h
  · exact absurd (Except.ok.inj h) (resolveOutcome_ne _)
  obtain ⟨held, -, h⟩ := bind_ok.mp h
  split_ifs at h
  · exact absurd (Except.ok.inj h) (by simp)
  obtain ⟨alternate, -, h⟩ := bind_ok.mp h
  split_ifs at h
  · exact absurd (Except.ok.inj h) (by simp)
  obtain ⟨defect, hdefect, h⟩ := bind_ok.mp h
  obtain ⟨rfl, -⟩ := classifyClaims_canonical h
  exact ⟨hdefect, h⟩

lemma classify_canonical
    (h : classifyRecursiveAncestrySemantics U projection statement expectedProfileId =
      .ok .canonical) :
    ∃ s ok root claims,
      CanonicalRun U projection statement expectedProfileId s ok root claims := by
  simp only [classifyRecursiveAncestrySemantics, bind_ok, exists_unit, mapError_ok] at h
  obtain ⟨hstructure, s, hs, ok, hok, root, hroot, h⟩ := h
  have hstructured := validate_structured hstructure
  split at h
  · rename_i hfamily _
    obtain ⟨-, claims, hclaims, hreplayed⟩ := classifyClaims_canonical h
    refine ⟨s, ok, none, claims, hstructured, hs, hok, hroot, hclaims, hreplayed, ?_⟩
    intro hne
    exact absurd hfamily hne
  · rename_i assumption root hassumption
    obtain ⟨hstock, h⟩ := classifyAssumed_canonical h
    obtain ⟨-, claims, hclaims, hreplayed⟩ := classifyClaims_canonical h
    obtain ⟨index, step, c, hindex, hstep, hc, hresolve⟩ := classifyStockInventory_none hstock
    refine ⟨s, ok, some root, claims, hstructured, hs, hok, hroot, hclaims, hreplayed, ?_⟩
    intro _
    exact ⟨assumption, index, step, c, hassumption, hindex, hstep, hc, hresolve⟩
  · exact absurd h (by simp)

end Inversion

section Producer

/-- The claims of the family's graph: `mid` is the state between its two segments and `input` the
input of the right one. -/
def familyClaims (program : Digest) (ok : ReceiptClaimDigests) (output mid input : Digest) :
    Family → List ParsedClaim
  | .terminalJoin =>
    [⟨zeroDigest, program, mid, 2, 0, zeroDigest⟩, ⟨input, mid, ok.post, 0, 0, output⟩,
      okClaim program ok]
  | .terminalResolve => [⟨zeroDigest, program, ok.post, 0, 0, output⟩, okClaim program ok]
  | .resolveThenJoin =>
    [⟨zeroDigest, program, mid, 2, 0, zeroDigest⟩, ⟨input, mid, ok.post, 0, 0, output⟩,
      ⟨input, mid, ok.post, 0, 0, ok.output⟩, okClaim program ok]

/-- The producer runs every segment without input. -/
def producerClaims (program : Digest) (ok : ReceiptClaimDigests) (output mid : Digest) :
    Family → List ParsedClaim :=
  familyClaims program ok output mid zeroDigest

structure Pinned (U : Upstream) (projection : Projection) (statement : Bytes) (program : Digest)
    (ok : ReceiptClaimDigests) (output : Digest) (claims : List ParsedClaim) : Prop where
  inputs : ∀ c ∈ claims, c.input = zeroDigest
  start : ∀ c, claims[0]? = some c → c.pre = program
  continues : ∀ i c d, i + 1 < projection.family.sourceCount → claims[i]? = some c →
    claims[i + 1]? = some d →
      (c.systemExit, c.userExit) = (2, 0) ∧ c.output = zeroDigest ∧ c.post = d.pre
  ends : ∀ i c, i + 1 = projection.family.sourceCount → claims[i]? = some c →
    c.post = ok.post ∧ (c.systemExit, c.userExit) = (0, 0) ∧ c.output = output
  joins : ∀ (k : ℕ) (step : Step) (l r : UInt32) (c : ParsedClaim), projection.steps[k]? = some step →
    step.operation = .join l r →
    claims[k]? = some c → ∃ left right, claims[l.toNat]? = some left ∧
      claims[r.toNat]? = some right ∧ StockJoin U left right c
  resolves : ∀ (k : ℕ) (step : Step) (s : UInt32) (c : ParsedClaim), projection.steps[k]? = some step →
    step.operation = .resolve s →
    claims[k]? = some c → ∃ assumption source, projection.assumptionReceipt = some assumption ∧
      claims[s.toNat]? = some source ∧ StockResolve U statement assumption source c
  last : claims.getLast? = some (okClaim program ok)
  producer : ∃ mid, claims = producerClaims program ok output mid projection.family

/-- The output that the last source claim of the family must have. -/
def familyOutput (U : Upstream) (statement : Bytes) (ok : ReceiptClaimDigests)
    (root : Option Digest) : Digest :=
  (root.map (conditionalOutputDigest U statement ok.expectedClaim)).getD ok.output

def CanonicallyPinned (U : Upstream) (projection : Projection) (statement : Bytes) : Prop :=
  ∃ s ok root claims, parseErgoStatementV1 statement = .ok s ∧
    okReceiptClaimDigests U s.programId.val statement = .ok ok ∧
    expectedAssumptionRoot projection.family = .ok root ∧
    projection.steps.map (fun step => step.claim) = claims.map ParsedClaim.wire ∧
    Pinned U projection statement s.programId ok (familyOutput U statement ok root) claims

/-- No branch of the classifier looks at this field. -/
def RightSourceInputZero (projection : Projection) : Prop :=
  projection.family = .terminalResolve ∨
    ∃ step, projection.steps[1]? = some step ∧
      step.claim.inputDigest = Hex.encode zeroDigest.val

end Producer

section Assembly

variable {s : ErgoStatementV1} {root : Option Digest}

lemma CanonicalRun.length (h : CanonicalRun U projection statement expectedProfileId s ok root claims) :
    claims.length = projection.family.stepCount := by
  have hlen := congrArg List.length h.projected
  rw [List.length_map, List.length_map] at hlen
  rw [← hlen, h.structured.stepCount]

lemma CanonicalRun.step (h : CanonicalRun U projection statement expectedProfileId s ok root claims)
    {k : ℕ} {operation : Operation}
    (hk : (expectedOperations projection.family)[k]? = some operation) :
    ∃ step, projection.steps[k]? = some step ∧ step.operation = operation := by
  have hlen : (expectedOperations projection.family).length = projection.family.stepCount := by
    cases projection.family <;> rfl
  obtain ⟨hlt, -⟩ := List.getElem?_eq_some_iff.mp hk
  have hstep : k < projection.steps.length := by
    rw [h.structured.stepCount, ← hlen]
    exact hlt
  refine ⟨_, List.getElem?_eq_getElem hstep, ?_⟩
  exact (h.structured.steps k _ operation (List.getElem?_eq_getElem hstep) hk).operation

lemma CanonicalRun.last (h : CanonicalRun U projection statement expectedProfileId s ok root claims) :
    claims.getLast? = some (okClaim s.programId ok) := by
  have hpos : 0 < projection.steps.length := by
    rw [h.structured.stepCount]
    cases projection.family <;> decide
  have hlt : projection.steps.length - 1 < projection.steps.length := by omega
  exact h.replayed.last (List.getElem?_eq_getElem hlt) (by omega)

lemma CanonicalRun.source
    (h : CanonicalRun U projection statement expectedProfileId s ok root claims) {c : ParsedClaim}
    (hc : claims[0]? = some c) : c.pre = s.programId := by
  obtain ⟨d, hd, hpre⟩ := h.replayed.start
  rw [hc] at hd
  cases Option.some.inj hd
  exact hpre

lemma CanonicalRun.segment
    (h : CanonicalRun U projection statement expectedProfileId s ok root claims) (index : ℕ)
    {c d : ParsedClaim} (hlt : index + 1 < projection.family.sourceCount)
    (hc : claims[index]? = some c) (hd : claims[index + 1]? = some d) :
    (c.systemExit, c.userExit) = (2, 0) ∧ c.output = zeroDigest ∧ c.post = d.pre :=
  sourceEdge_next hlt hc hd (h.replayed.edges index (by omega))

lemma CanonicalRun.lastSegment
    (h : CanonicalRun U projection statement expectedProfileId s ok root claims) (index : ℕ)
    {c : ParsedClaim} (hlt : index + 1 = projection.family.sourceCount)
    (hc : claims[index]? = some c) :
    c.post = ok.post ∧ (c.systemExit, c.userExit) = (0, 0) ∧
      c.output = familyOutput U statement ok root :=
  sourceEdge_last (by omega) hc (h.replayed.edges index (by omega))

lemma CanonicalRun.joinAt
    (h : CanonicalRun U projection statement expectedProfileId s ok root claims) (k : ℕ)
    {l r : UInt32} {c : ParsedClaim}
    (hk : (expectedOperations projection.family)[k]? = some (.join l r))
    (hc : claims[k]? = some c) :
    ∃ left right, claims[l.toNat]? = some left ∧ claims[r.toNat]? = some right ∧
      StockJoin U left right c := by
  obtain ⟨step, hstep, hop⟩ := h.step hk
  exact h.replayed.join h.projected hstep hop hc

lemma CanonicalRun.resolvedAt
    (h : CanonicalRun U projection statement expectedProfileId s ok root claims) {index : ℕ}
    {c : ParsedClaim} (hindex : conditionalIndex projection.family = .ok index)
    (hc : claims[index]? = some c) :
    ∃ assumption, projection.assumptionReceipt = some assumption ∧
      StockResolve U statement assumption c { c with output := ok.output } := by
  have hne : projection.family ≠ .terminalJoin := by
    intro hf
    rw [hf] at hindex
    exact absurd hindex (by simp [conditionalIndex])
  obtain ⟨assumption, i, step, d, hassumption, hi, hstep, hd, hresolve⟩ := h.resolved hne
  cases Except.ok.inj (hindex.symm.trans hi)
  have hcd := wire_injective (hd.symm.trans (claim_at h.projected hstep hc))
  exact ⟨assumption, hassumption, hcd ▸ hresolve⟩

lemma CanonicalRun.resolveAt
    (h : CanonicalRun U projection statement expectedProfileId s ok root claims) (k : ℕ)
    {n : UInt32} {c d : ParsedClaim}
    (hk : (expectedOperations projection.family)[k]? = some (.resolve n))
    (hindex : conditionalIndex projection.family = .ok n.toNat)
    (hc : claims[n.toNat]? = some c) (hd : claims[k]? = some d) :
    d = { c with output := ok.output } := by
  obtain ⟨step, hstep, hop⟩ := h.step hk
  obtain ⟨assumption, source, hassumption, hsource, hresolve⟩ :=
    h.replayed.resolve h.projected hstep hop hd
  obtain ⟨assumption', hassumption', hresolve'⟩ := h.resolvedAt hindex hc
  cases Option.some.inj (hassumption.symm.trans hassumption')
  cases Option.some.inj (hc.symm.trans hsource)
  exact hresolve.unique hresolve'

lemma eq_of_fields {c : ParsedClaim} {input pre post output : Digest} {system user : UInt32}
    (hinput : c.input = input) (hpre : c.pre = pre) (hpost : c.post = post)
    (hexit : (c.systemExit, c.userExit) = (system, user)) (houtput : c.output = output) :
    c = ⟨input, pre, post, system, user, output⟩ := by
  obtain ⟨hsystem, huser⟩ := Prod.mk.inj hexit
  exact ParsedClaim.ext hinput hpre hpost hsystem huser houtput

lemma length_eq_four {α : Type} {xs : List α} (h : xs.length = 4) :
    ∃ a b c d, xs = [a, b, c, d] := by
  cases xs with
  | nil => exact absurd h (by simp)
  | cons a xs =>
    obtain ⟨b, c, d, rfl⟩ := List.length_eq_three.mp (Nat.succ.inj h)
    exact ⟨a, b, c, d, rfl⟩

lemma CanonicalRun.familyClaims (hU : U.Joins)
    (h : CanonicalRun U projection statement expectedProfileId s ok root claims) :
    ∃ mid input, claims = familyClaims s.programId ok (familyOutput U statement ok root) mid input
      projection.family := by
  have hlen := h.length
  have hlast := h.last
  cases hf : projection.family with
  | terminalJoin =>
    rw [hf] at hlen
    obtain ⟨c₀, c₁, c₂, rfl⟩ := List.length_eq_three.mp hlen
    cases Option.some.inj hlast
    obtain ⟨hexit, houtput, hpost⟩ := h.segment 0 (by rw [hf]; decide) rfl rfl
    obtain ⟨hpost', hexit', houtput'⟩ := h.lastSegment 1 (by rw [hf]; rfl) rfl
    obtain ⟨left, right, hleft, -, hjoin⟩ := h.joinAt 2 (by rw [hf]; rfl) rfl
    cases Option.some.inj hleft
    have hleftSource := eq_of_fields (hjoin.input hU).symm (h.source rfl) hpost hexit houtput
    have hrightSource := eq_of_fields rfl rfl hpost' hexit' houtput'
    refine ⟨c₁.pre, c₁.input, ?_⟩
    rw [hleftSource, hrightSource]
    rfl
  | terminalResolve =>
    rw [hf] at hlen
    obtain ⟨c₀, c₁, rfl⟩ := List.length_eq_two.mp hlen
    cases Option.some.inj hlast
    obtain ⟨hpost, hexit, houtput⟩ := h.lastSegment 0 (by rw [hf]; rfl) rfl
    have hresolve := h.resolveAt 1 (by rw [hf]; rfl) (by rw [hf]; rfl) rfl rfl
    have hinput : c₀.input = zeroDigest := (congrArg ParsedClaim.input hresolve).symm
    have hsource := eq_of_fields hinput (h.source rfl) hpost hexit houtput
    refine ⟨zeroDigest, zeroDigest, ?_⟩
    rw [hsource]
    rfl
  | resolveThenJoin =>
    rw [hf] at hlen
    obtain ⟨c₀, c₁, c₂, c₃, rfl⟩ := length_eq_four hlen
    cases Option.some.inj hlast
    obtain ⟨hexit, houtput, hpost⟩ := h.segment 0 (by rw [hf]; decide) rfl rfl
    obtain ⟨hpost', hexit', houtput'⟩ := h.lastSegment 1 (by rw [hf]; rfl) rfl
    have hresolve := h.resolveAt 2 (by rw [hf]; rfl) (by rw [hf]; rfl) rfl rfl
    obtain ⟨left, right, hleft, -, hjoin⟩ := h.joinAt 3 (by rw [hf]; rfl) rfl
    cases Option.some.inj hleft
    have hleftSource := eq_of_fields (hjoin.input hU).symm (h.source rfl) hpost hexit houtput
    have hrightSource := eq_of_fields rfl rfl hpost' hexit' houtput'
    refine ⟨c₁.pre, c₁.input, ?_⟩
    rw [hresolve, hleftSource, hrightSource]
    rfl

lemma CanonicalRun.pinned
    (h : CanonicalRun U projection statement expectedProfileId s ok root claims) {mid : Digest}
    (hclaims : claims = producerClaims s.programId ok (familyOutput U statement ok root) mid
      projection.family) :
    Pinned U projection statement s.programId ok (familyOutput U statement ok root) claims where
  inputs := by
    rw [hclaims]
    cases projection.family <;>
      simp [producerClaims, RecursiveAncestry.familyClaims, okClaim]
  start := fun c => h.source
  continues := fun i c d hlt hc hd => h.segment i hlt hc hd
  ends := fun i c hlt hc => h.lastSegment i hlt hc
  joins := fun k step l r c hk hop hc => h.replayed.join h.projected hk hop hc
  resolves := fun k step n c hk hop hc => h.replayed.resolve h.projected hk hop hc
  last := h.last
  producer := ⟨mid, hclaims⟩

lemma CanonicalRun.rightSource
    (h : CanonicalRun U projection statement expectedProfileId s ok root claims)
    (hne : projection.family ≠ .terminalResolve) :
    ∃ step c, projection.steps[1]? = some step ∧ claims[1]? = some c ∧ step.claim = c.wire := by
  have hop : (expectedOperations projection.family)[1]? = some (.lift 1) := by
    cases hf : projection.family with
    | terminalResolve => exact absurd hf hne
    | terminalJoin => rfl
    | resolveThenJoin => rfl
  obtain ⟨step, hstep, -⟩ := h.step hop
  have hlt : 1 < claims.length := by
    rw [h.length]
    cases projection.family <;> decide
  have hc := List.getElem?_eq_getElem hlt
  exact ⟨step, _, hstep, hc, claim_at h.projected hstep hc⟩

lemma familyClaims_right {family : Family} {mid input : Digest} {c : ParsedClaim}
    (hne : family ≠ .terminalResolve)
    (hc : (familyClaims program ok output mid input family)[1]? = some c) : c.input = input := by
  cases family with
  | terminalResolve => exact absurd rfl hne
  | terminalJoin =>
    cases Option.some.inj hc
    rfl
  | resolveThenJoin =>
    cases Option.some.inj hc
    rfl

end Assembly

lemma pinned_rightSource
    (h : classifyRecursiveAncestrySemantics U projection statement expectedProfileId =
      .ok .canonical)
    (hpinned : CanonicallyPinned U projection statement) : RightSourceInputZero projection := by
  obtain ⟨s, ok, root, claims, hrun⟩ := classify_canonical h
  obtain ⟨_, _, _, claims', -, -, -, hclaims', hpinned⟩ := hpinned
  have hmap : claims = claims' :=
    List.map_injective_iff.mpr wire_injective (hrun.projected.symm.trans hclaims')
  by_cases hf : projection.family = .terminalResolve
  · exact Or.inl hf
  · obtain ⟨step, c, hstep, hc, hwire⟩ := hrun.rightSource hf
    have hmem : c ∈ claims' := hmap ▸ List.mem_of_getElem? hc
    refine Or.inr ⟨step, hstep, ?_⟩
    rw [hwire, ← hpinned.inputs c hmem]
    rfl

lemma rightSource_pinned (hU : U.Joins)
    (h : classifyRecursiveAncestrySemantics U projection statement expectedProfileId =
      .ok .canonical)
    (hzero : RightSourceInputZero projection) : CanonicallyPinned U projection statement := by
  obtain ⟨s, ok, root, claims, hrun⟩ := classify_canonical h
  obtain ⟨mid, input, hclaims⟩ := hrun.familyClaims hU
  have hproducer : claims = producerClaims s.programId ok (familyOutput U statement ok root) mid
      projection.family := by
    by_cases hf : projection.family = .terminalResolve
    · rw [hclaims, hf]
      rfl
    · obtain ⟨step, c, hstep, hc, hwire⟩ := hrun.rightSource hf
      obtain hresolve | ⟨step', hstep', hinput⟩ := hzero
      · exact absurd hresolve hf
      · cases Option.some.inj (hstep.symm.trans hstep')
        rw [hwire] at hinput
        rw [hclaims] at hc
        have hcinput := familyClaims_right hf hc
        rw [hclaims, ← hcinput, Hex.encode_injective hinput]
        rfl
  exact ⟨s, ok, root, claims, hrun.parsed, hrun.digests, hrun.expectedRoot, hrun.projected,
    hrun.pinned hproducer⟩

/-- For canonical projections the classifier pins every claim exactly when the field it never looks
at holds what the producer writes. -/
theorem canonical_pinned_iff (U : Upstream) (hU : U.Joins) (projection : Projection)
    (statement : Bytes) (expectedProfileId : Digest)
    (h : classifyRecursiveAncestrySemantics U projection statement expectedProfileId =
      .ok .canonical) :
    CanonicallyPinned U projection statement ↔ RightSourceInputZero projection :=
  ⟨pinned_rightSource h, rightSource_pinned hU h⟩

section Drift

def hexDigest (s : String) : Digest := (Hex.decodeToSlice 32 (utf8 s)).getD zeroDigest

def filled (b : UInt8) : Digest := List.Vector.replicate 32 b

def driftStatement : Bytes :=
  utf8 "Ergo.VerifyStark.Statement" ++ [1] ++ (filled 0x11).val ++ (filled 0x22).val ++
    (filled 0x42).val ++ (filled 0x44).val ++ [0, 0, 0, 0]

def stateTag : Digest :=
  hexDigest "206115a847207c0892e0c0547225df31d02a96eeb395670c31112dff90b421d6"
def outputTag : Digest :=
  hexDigest "77eafeb366a78b47747de0d7bb176284085ff5564887009a5be63da32d3559d4"
def claimTag : Digest :=
  hexDigest "cb1fefcd1f2d9a64975cbbbf6e161e2914434b0cbb9960b84df5d717e86b48af"
def journalDigest : Digest :=
  hexDigest "d1f8a1cafc9815e7a7660f74e5a0bb1d5df8ae17bdc8c3804c2db94322b8ea96"
def postDigest : Digest :=
  hexDigest "a3acc27117418996340b84e5a90f3ef4c49d22c79e44aad822ec9c313e1eb8e2"
def outputDigest : Digest :=
  hexDigest "693d2333d2c4ce8981e34803649a87e9b870345519fc01f6203784ea0bd075f5"

def leftSource : ParsedClaim := ⟨zeroDigest, filled 0x42, filled 0x55, 2, 0, zeroDigest⟩

/-- A right-hand source claim with an input that no producer writes. -/
def driftedSource : ParsedClaim := ⟨filled 0x88, filled 0x55, postDigest, 0, 0, outputDigest⟩

def joinedClaim : ParsedClaim := ⟨zeroDigest, filled 0x42, postDigest, 0, 0, outputDigest⟩

def claimPreimage (c : ParsedClaim) : Bytes :=
  claimTag.val ++ c.input.val ++ c.pre.val ++ c.post.val ++ c.output.val ++ le32 c.systemExit ++
    le32 c.userExit ++ [4, 0]

/-- SHA-256 on every byte string that the classifier hashes here. -/
def hashTable : List (Bytes × Digest) := [
  (driftStatement, journalDigest),
  (utf8 "risc0.SystemState", stateTag),
  (utf8 "risc0.Output", outputTag),
  (utf8 "risc0.ReceiptClaim", claimTag),
  (stateTag.val ++ zeroDigest.val ++ [0, 0, 0, 0] ++ [1, 0], postDigest),
  (outputTag.val ++ journalDigest.val ++ zeroDigest.val ++ [2, 0], outputDigest),
  (claimPreimage leftSource,
    hexDigest "8f2de775fc1e377e79c6aeddac9d816f0e939528afaed1acebe9f6b98c730a4a"),
  (claimPreimage driftedSource,
    hexDigest "180d737e70531ca45b981f0453262452135066c0aa74db29a6f3223898ac1620"),
  (claimPreimage joinedClaim,
    hexDigest "a141020a0d05bb329d7a73554b4fc27f64dd42c3a490ecbabdb235cd42144e09")]

def driftUpstream : Upstream :=
  reference fun bytes => (hashTable.lookup bytes).getD zeroDigest

def driftStep (ordinal : UInt32) (operation : Operation) (claim : ParsedClaim) (file : String)
    (terminal : Terminal) : Step where
  ordinal := ordinal
  operation := operation
  claim := claim.wire
  rawSeal := ⟨casePath .terminalJoin (utf8 file), 222668, Hex.encode zeroDigest.val⟩
  terminal := terminal

def normalLift : Terminal :=
  .lift 15 (utf8 "1ca3ca03030719064ba61b3125bdd326fc57f74e799ef860bdea6f3227381e16")

def driftedProjection : Projection where
  format := format
  formatVersion := 2
  caseId := utf8 "terminal-join"
  profileId := Hex.encode (filled 0x22).val
  programId := Hex.encode (filled 0x42).val
  statement := ⟨casePath .terminalJoin statementFile, 159, Hex.encode journalDigest.val⟩
  family := .terminalJoin
  assumptionReceipt := none
  steps := [
    driftStep 0 (.lift 0) leftSource "candidate-ancestry-step-00-raw-seal.bin" normalLift,
    driftStep 1 (.lift 1) driftedSource "candidate-ancestry-step-01-raw-seal.bin" normalLift,
    driftStep 2 (.join 0 1) joinedClaim "candidate-raw-seal.bin" (.join risc0JoinControlIdHex)]

lemma driftedProjection_canonical :
    classifyRecursiveAncestrySemantics driftUpstream driftedProjection driftStatement
      (filled 0x22) = .ok .canonical := by
  decide +kernel

theorem canonical_pinned_iff_drifted :
    CanonicallyPinned driftUpstream driftedProjection driftStatement ↔
      RightSourceInputZero driftedProjection :=
  canonical_pinned_iff driftUpstream (reference_joins _) driftedProjection driftStatement
    (filled 0x22) driftedProjection_canonical

/-- No two hashed strings collide, stock join agrees with every projected claim, and the right-hand
source still carries an input that the producer never writes. -/
theorem drifted_canonical_not_pinned :
    (hashTable.map Prod.snd).Nodup ∧ driftUpstream.Joins ∧
      classifyRecursiveAncestrySemantics driftUpstream driftedProjection driftStatement
        (filled 0x22) = .ok .canonical ∧
      ¬CanonicallyPinned driftUpstream driftedProjection driftStatement := by
  have hinput : ¬RightSourceInputZero driftedProjection := by
    intro h
    obtain h | ⟨step, hstep, hzero⟩ := h
    · exact absurd h (by decide)
    · cases Option.some.inj hstep
      exact absurd (Hex.encode_injective hzero) (by decide)
  refine ⟨by decide, reference_joins _, driftedProjection_canonical, ?_⟩
  intro h
  exact hinput (pinned_rightSource driftedProjection_canonical h)

end Drift

end Eip0045.RecursiveAncestry
