import Eip0045.Ancestry.Projection

/-! The structural validation of a projection: wire, graph, identities, paths and terminals. -/

namespace Eip0045.RecursiveAncestry

open Bytes Checked Constants Receipt Statement

section Paths

def casePath (family : Family) (fileName : Bytes) : Bytes :=
  positiveRoot ++ utf8 "/" ++ family.caseId ++ utf8 "/" ++ fileName

def terminalJoinAuxiliaryArtifactPaths : List Bytes := [
  utf8 "reproduction/schema/b4-corpus-v1.candidate/positive/terminal-join/candidate-ancestry-step-00-raw-seal.bin",
  utf8 "reproduction/schema/b4-corpus-v1.candidate/positive/terminal-join/candidate-ancestry-step-01-raw-seal.bin"]

def terminalResolveAuxiliaryArtifactPaths : List Bytes := [
  utf8 "reproduction/schema/b4-corpus-v1.candidate/positive/terminal-resolve-explicit-root/candidate-ancestry-assumption-raw-seal.bin",
  utf8 "reproduction/schema/b4-corpus-v1.candidate/positive/terminal-resolve-explicit-root/candidate-ancestry-step-00-raw-seal.bin"]

def resolveThenJoinAuxiliaryArtifactPaths : List Bytes := [
  utf8 "reproduction/schema/b4-corpus-v1.candidate/positive/resolve-zero-root-then-join/candidate-ancestry-assumption-raw-seal.bin",
  utf8 "reproduction/schema/b4-corpus-v1.candidate/positive/resolve-zero-root-then-join/candidate-ancestry-step-00-raw-seal.bin",
  utf8 "reproduction/schema/b4-corpus-v1.candidate/positive/resolve-zero-root-then-join/candidate-ancestry-step-01-raw-seal.bin",
  utf8 "reproduction/schema/b4-corpus-v1.candidate/positive/resolve-zero-root-then-join/candidate-ancestry-step-02-raw-seal.bin"]

def compiledPositiveAuxiliaryArtifactPaths (caseIndex : ℕ) : Except String (List Bytes) :=
  if caseIndex ≤ 7 then .ok []
  else if caseIndex = 8 then .ok terminalJoinAuxiliaryArtifactPaths
  else if caseIndex = 9 then .ok terminalResolveAuxiliaryArtifactPaths
  else if caseIndex = 10 then .ok resolveThenJoinAuxiliaryArtifactPaths
  else .error "positive generation case index is outside the closed eleven-case plan"

/-- The source unwraps the compiled paths of the family's case. -/
def expectedAuxiliaryPaths (family : Family) : Result (List Bytes) :=
  mapError .outOfRange (compiledPositiveAuxiliaryArtifactPaths family.positiveCaseIndex)

/-- `{index:02}`. -/
def twoDigits (index : ℕ) : Bytes :=
  if index < 10 then utf8 "0" ++ utf8 (toString index) else utf8 (toString index)

def stepSealFile (index : ℕ) : Bytes :=
  utf8 "candidate-ancestry-step-" ++ twoDigits index ++ utf8 "-raw-seal.bin"

def CanonicalComponent (component : Bytes) : Prop :=
  component ≠ [] ∧ component ≠ utf8 "." ∧ component ≠ utf8 ".." ∧
    component.getLast? ≠ some 46 ∧ component.getLast? ≠ some 32

instance (component : Bytes) : Decidable (CanonicalComponent component) :=
  inferInstanceAs (Decidable (_ ∧ _))

def CanonicalPath (path : Bytes) : Prop :=
  path.head? ≠ some 47 ∧ path.getLast? ≠ some 47 ∧ 92 ∉ path ∧ 58 ∉ path ∧
    ∀ component ∈ path.splitOn 47, CanonicalComponent component

instance (path : Bytes) : Decidable (CanonicalPath path) := inferInstanceAs (Decidable (_ ∧ _))

def validatePath (path : Bytes) : Result Unit := do
  ensure (path ≠ [] ∧ path.length ≤ maxPathBytes)
    (.reported "ancestry artifact path is empty or too long")
  ensure (path.all fun byte => 0x21 ≤ byte ∧ byte ≤ 0x7e)
    (.reported "ancestry artifact path is not printable space-free ASCII")
  ensure (CanonicalPath path)
    (.reported "ancestry artifact path is not canonical repository-relative POSIX")

end Paths

def expectedOperations : Family → List Operation
  | .terminalJoin => [.lift 0, .lift 1, .join 0 1]
  | .terminalResolve => [.lift 0, .resolve 0]
  | .resolveThenJoin => [.lift 0, .lift 1, .resolve 1, .join 0 2]

section Terminals

def validateLiftTerminalFields (segmentPo2 : UInt32) (controlId : Bytes) : Result Unit := do
  let po2 ← context (.reported "lift segment exponent does not fit u8")
    (if segmentPo2.toNat < 2 ^ 8 then some segmentPo2.toUInt8 else none)
  let index ← context (.reported "normal-lift segment exponent is outside the supported range")
    (supportedSegmentPo2.findIdx? (· = po2))
  let expected ← item risc0NormalLiftControlIdsHex index
  ensure (controlId = expected)
    (.reported "normal-lift control ID differs from its segment exponent")

def validateLiftTerminal : Terminal → Result Unit
  | .lift segmentPo2 controlId => validateLiftTerminalFields segmentPo2 controlId
  | _ => .error (.reported "assumption receipt terminal is not a normal lift")

def validateOperationTerminal : Operation → Terminal → Result Unit
  | .lift _, .lift segmentPo2 controlId => validateLiftTerminalFields segmentPo2 controlId
  | .join _ _, .join controlId => ensure (controlId = risc0JoinControlIdHex)
      (.reported "join terminal control ID differs from the frozen stock control")
  | .resolve _, .resolve controlId => ensure (controlId = risc0ResolveControlIdHex)
      (.reported "resolve terminal control ID differs from the frozen stock control")
  | _, _ => .error (.reported "ancestry operation and terminal kinds differ")

end Terminals

def validateReference (reference : ArtifactReference) (expectedPath : Bytes)
    (expectedLength : ℕ) : Result Unit := do
  validatePath reference.path
  ensure (reference.path = expectedPath)
    (.reported "ancestry artifact path differs from its parsed family")
  ensure (reference.byteLength.toNat = expectedLength)
    (.reported "ancestry artifact length differs from its exact bound")
  mapError (.reported "ancestry artifact SHA-256 is not exact lowercase hex")
    (validateLowerHexExact reference.sha256 digestBytes)

def validateInventoryEntryShape : InventoryEntry → Result Unit
  | .revealed claimDigest controlRoot => do
    let _ ← parseDigest claimDigest "source assumption claim digest"
    let _ ← parseDigest controlRoot "source assumption control root"
    pure ()
  | .pruned digest => do
    let _ ← parseDigest digest "pruned source assumption digest"
    pure ()

variable (U : Upstream)

def sha256Hex (bytes : Bytes) : Bytes := Hex.encode (U.sha256 bytes).val

def receiptClaimFromProjection (claim : Claim) : Result (ReceiptClaim U.ExitCode) := do
  let input ← parseDigest claim.inputDigest "claim input digest"
  let pre ← parseDigest claim.preStateDigest "claim pre-state digest"
  let post ← parseDigest claim.postStateDigest "claim post-state digest"
  let exitCode ← context (.reported "claim exit-code pair is invalid")
    (U.fromPair claim.systemExit claim.userExit)
  let output ← parseDigest claim.outputDigest "claim output digest"
  pure ⟨input, pre, post, exitCode, .pruned output⟩

def claimDigest (claim : Claim) : Result Digest := do
  let receiptClaim ← receiptClaimFromProjection U claim
  pure (U.claimDigest receiptClaim)

def validateClaimProjection (claim : Claim) : Result Unit := do
  let parsed ← parseClaim claim
  let exit ← context (.reported "claim exit-code pair is invalid")
    (U.fromPair parsed.systemExit parsed.userExit)
  ensure (U.intoPair exit = (parsed.systemExit, parsed.userExit))
    (.reported "claim exit-code pair is not canonical")
  let _ ← claimDigest U claim
  pure ()

/-- The loop over the steps and the operations expected of them, with the paths seen so far. -/
def validateSteps (projection : Projection) :
    ℕ → List Bytes → List (Step × Operation) → Result Unit
  | _, _, [] => pure ()
  | index, paths, (step, expectedOperation) :: rest => do
    ensure (step.ordinal.toNat = index) (.reported "ancestry step ordinal is not canonical")
    ensure (step.operation = expectedOperation)
      (.reported "ancestry operation differs from its parsed-family graph")
    validateOperationTerminal step.operation step.terminal
    validateClaimProjection U step.claim
    let file := if index + 1 = projection.steps.length then finalSealFile else stepSealFile index
    validateReference step.rawSeal (casePath projection.family file) proofBytes
    ensure (step.rawSeal.path ∉ paths) (.reported "duplicate ancestry step path")
    validateSteps projection (index + 1) (paths ++ [step.rawSeal.path]) rest

def validateAssumptionShape (projection : Projection) : Result Unit :=
  match projection.family.usesAssumption, projection.assumptionReceipt with
  | false, none => pure ()
  | false, some _ =>
    .error (.reported "plain ancestry unexpectedly carries an assumption receipt")
  | true, none => .error (.reported "assumption-bearing ancestry has no assumption receipt")
  | true, some assumption => do
    ensure (assumption.sourceInventory.entries.length ≤ 2)
      (.reported "source assumption inventory exceeds its two-entry bound")
    assumption.sourceInventory.entries.forM validateInventoryEntryShape
    validateLiftTerminal assumption.terminal
    validateReference assumption.rawSeal (casePath projection.family assumptionSealFile) proofBytes

/-- The paths of the statement and of the assumption seal, each new when it is inserted. -/
def assumptionPaths (projection : Projection) : Result (List Bytes) := do
  ensure (projection.statement.path ∉ ([] : List Bytes))
    (.reported "duplicate ancestry statement path")
  match projection.assumptionReceipt with
  | none => pure [projection.statement.path]
  | some assumption =>
    ensure (assumption.rawSeal.path ∉ [projection.statement.path])
      (.reported "duplicate ancestry assumption path")
    pure [projection.statement.path, assumption.rawSeal.path]

def validateAssumptionClaim (projection : Projection) : Result Unit :=
  match projection.assumptionReceipt with
  | none => pure ()
  | some assumption => do
    validateClaimProjection U assumption.claim
    let _ ← parseDigest assumption.requestedControlRoot "assumption requested control root"
    pure ()

def validateRecursiveAncestryStructure (projection : Projection) (statement : Bytes)
    (expectedProfileId : Digest) : Result Unit := do
  ensure (projection.format = format ∧ projection.formatVersion = formatVersion)
    (.reported "ancestry projection format/version differs")
  ensure (projection.caseId = projection.family.caseId)
    (.reported "ancestry case ID differs from its parsed family")
  ensure (projection.steps.length = projection.family.stepCount ∧ 1 ≤ projection.steps.length ∧
      projection.steps.length ≤ maxSteps)
    (.reported "ancestry step count differs from its parsed family")
  let statementValue ← mapError (.reported "cannot decode ancestry statement")
    (parseErgoStatementV1 statement)
  let encoded ← statementValue.encode
  ensure (encoded = statement) (.reported "ancestry statement decode/re-encode changed bytes")
  ensure (statementValue.profileId = expectedProfileId)
    (.reported "ancestry statement profile ID differs from expected profile")
  ensure (projection.profileId = Hex.encode expectedProfileId.val)
    (.reported "ancestry projection profile ID differs")
  ensure (projection.programId = Hex.encode statementValue.programId.val)
    (.reported "ancestry projection program ID differs from the statement")
  validateReference projection.statement (casePath projection.family statementFile)
    statement.length
  ensure (projection.statement.sha256 = sha256Hex U statement)
    (.reported "ancestry statement SHA-256 differs")
  validateAssumptionShape projection
  let paths ← assumptionPaths projection
  validateSteps U projection 0 paths
    (projection.steps.zip (expectedOperations projection.family))
  validateAssumptionClaim U projection

section Validated

variable {U} {projection : Projection} {statement : Bytes} {expectedProfileId : Digest}

structure StepValid (U : Upstream) (projection : Projection) (index : ℕ) (step : Step)
    (operation : Operation) : Prop where
  ordinal : step.ordinal.toNat = index
  operation : step.operation = operation
  terminal : validateOperationTerminal step.operation step.terminal = .ok ()
  claim : validateClaimProjection U step.claim = .ok ()
  reference : validateReference step.rawSeal (casePath projection.family
    (if index + 1 = projection.steps.length then finalSealFile else stepSealFile index))
    proofBytes = .ok ()

structure Structured (U : Upstream) (projection : Projection) (statement : Bytes)
    (expectedProfileId : Digest) : Prop where
  stepCount : projection.steps.length = projection.family.stepCount
  parsed : ∃ s, parseErgoStatementV1 statement = .ok s ∧ s.profileId = expectedProfileId ∧
    projection.programId = Hex.encode s.programId.val
  statementReference : validateReference projection.statement
    (casePath projection.family statementFile) statement.length = .ok ()
  statementSha256 : projection.statement.sha256 = sha256Hex U statement
  assumptionShape : validateAssumptionShape projection = .ok ()
  steps : ∀ k step operation, projection.steps[k]? = some step →
    (expectedOperations projection.family)[k]? = some operation →
      StepValid U projection k step operation
  assumptionClaim : validateAssumptionClaim U projection = .ok ()

lemma validateSteps_ok {index : ℕ} {paths : List Bytes} {pairs : List (Step × Operation)}
    (h : validateSteps U projection index paths pairs = .ok ()) :
    ∀ k step operation, pairs[k]? = some (step, operation) →
      StepValid U projection (index + k) step operation := by
  induction pairs generalizing index paths with
  | nil =>
    intro k step operation hk
    exact absurd hk (by simp)
  | cons pair pairs ih =>
    obtain ⟨first, expected⟩ := pair
    simp only [validateSteps, bind_ok, exists_unit, ensure_ok] at h
    obtain ⟨hordinal, hoperation, hterminal, hclaim, hreference, -, hrest⟩ := h
    intro k step operation hk
    cases k with
    | zero =>
      cases hk
      exact ⟨hordinal, hoperation, hterminal, hclaim, hreference⟩
    | succ k =>
      rw [List.getElem?_cons_succ] at hk
      have hstep := ih hrest k step operation hk
      rwa [Nat.add_assoc, Nat.add_comm 1 k] at hstep

lemma validate_structured
    (h : validateRecursiveAncestryStructure U projection statement expectedProfileId = .ok ()) :
    Structured U projection statement expectedProfileId := by
  simp only [validateRecursiveAncestryStructure, bind_ok, exists_unit, ensure_ok, mapError_ok] at h
  obtain ⟨-, -, ⟨hcount, -, -⟩, s, hs, -, -, -, hprofile, -, hprogram, href, hsha, hshape, paths, -,
    hsteps, hassumption⟩ := h
  refine ⟨hcount, ⟨s, hs, hprofile, hprogram⟩, href, hsha, hshape, ?_, hassumption⟩
  intro k step operation hk hop
  have hpair : (projection.steps.zip (expectedOperations projection.family))[k]? =
      some (step, operation) := by
    rw [List.getElem?_zip_eq_some]
    exact ⟨hk, hop⟩
  have hvalid := validateSteps_ok hsteps k step operation hpair
  rwa [Nat.zero_add] at hvalid

end Validated

end Eip0045.RecursiveAncestry
