import Eip0045.Ancestry.Structure

/-! The shared classifier: the stock replay of a structurally valid projection. -/

namespace Eip0045.RecursiveAncestry

open Bytes Checked Constants Receipt Statement

inductive InventoryDefect
  | missing
  | extra
  | pruned
  deriving DecidableEq

inductive SemanticOutcome
  | canonical
  | claimEdge
  | resolveExplicit
  | resolveZeroRoot
  | assumptionInventory (defect : InventoryDefect)
  deriving DecidableEq

def Family.resolveOutcome : Family → SemanticOutcome
  | .terminalResolve => .resolveExplicit
  | .resolveThenJoin => .resolveZeroRoot
  | .terminalJoin => .claimEdge

def expectedAssumptionRoot : Family → Result (Option Digest)
  | .terminalJoin => pure none
  | .terminalResolve => do
    let root ← parseDigest risc0InnerControlRootHex "initial inner control root"
    pure (some root)
  | .resolveThenJoin => pure (some zeroDigest)

def earlierClaim (claims : List ParsedClaim) (ordinal : UInt32) (current : ℕ) :
    Result ParsedClaim := do
  ensure (ordinal.toNat < current) (.reported "ancestry edge does not point backward")
  context (.reported "ancestry edge points outside the parsed graph") claims[ordinal.toNat]?

def canonicalSourceFields (claim : ParsedClaim) (programId post : Digest) : Prop :=
  claim.input = zeroDigest ∧ claim.pre = programId ∧ claim.post = post ∧ claim.systemExit = 0 ∧
    claim.userExit = 0

instance (claim : ParsedClaim) (programId post : Digest) :
    Decidable (canonicalSourceFields claim programId post) := inferInstanceAs (Decidable (_ ∧ _))

variable (U : Upstream)

section Inventory

def inventoryEntry : InventoryEntry → Result (MaybePruned Assumption)
  | .revealed claimDigest controlRoot => do
    let claim ← parseDigest claimDigest "source assumption claim digest"
    let controlRoot ← parseDigest controlRoot "source assumption control root"
    pure (.value { claim, controlRoot })
  | .pruned digest => do
    let digest ← parseDigest digest "pruned source assumption digest"
    pure (.pruned digest)

/-- The output that the statement and the listed assumptions make. -/
def inventoryOutput (statement : Bytes) (entries : List (MaybePruned Assumption)) :
    MaybePruned (Option Output) :=
  .value (some { journal := U.sha256 statement, assumptions := entries })

def receiptClaimWithInventory (claim : Claim) (statement : Bytes) (inventory : SourceInventory) :
    Result (ReceiptClaim U.ExitCode) := do
  let entries ← inventory.entries.mapM inventoryEntry
  let reconstructed ← receiptClaimFromProjection U claim
  let output := inventoryOutput U statement entries
  let projected ← parseDigest claim.outputDigest "claim output digest"
  ensure (U.outputDigest output = projected)
    (.reported "projected output digest differs from reconstructed source inventory")
  pure { reconstructed with output }

def reconstructedInventoryOutputDigest (statement : Bytes) (inventory : SourceInventory) :
    Result Digest := do
  let entries ← inventory.entries.mapM inventoryEntry
  pure (U.outputDigest (inventoryOutput U statement entries))

def conditionalOutputDigest (statement : Bytes) (claim root : Digest) : Digest :=
  U.outputDigest (inventoryOutput U statement [.value { claim, controlRoot := root }])

end Inventory

def parsedFromReceiptClaim (claim : ReceiptClaim U.ExitCode) : ParsedClaim where
  input := claim.input
  pre := claim.pre
  post := claim.post
  systemExit := (U.intoPair claim.exitCode).1
  userExit := (U.intoPair claim.exitCode).2
  output := U.outputDigest claim.output

def receiptClaimMatchesProjection (claim : ReceiptClaim U.ExitCode) (projection : Claim) :
    Result Bool := do
  let projected ← receiptClaimFromProjection U projection
  if U.claimDigest claim = U.claimDigest projected then do
    let parsed ← parseClaim projection
    pure (decide (parsedFromReceiptClaim U claim = parsed))
  else pure false

def deriveEmptyAssumptionOkClaim (imageId journal : Bytes) : Result Claim := do
  let digests ← mapError (.reported "cannot independently derive empty-assumption OK claim")
    (okReceiptClaimDigests U imageId journal)
  let derived : Claim := {
    inputDigest := Hex.encode zeroDigest.val
    preStateDigest := Hex.encode imageId
    postStateDigest := Hex.encode digests.post.val
    systemExit := 0
    userExit := 0
    outputDigest := Hex.encode digests.output.val }
  let digest ← claimDigest U derived
  ensure (digest = digests.expectedClaim)
    (.reported "independent OK claim digest differs from its ancestry projection")
  pure derived

section StockInventory

def unplannedInventory {α : Type} : Result α :=
  .error (.reported "source assumption inventory is not canonical or one exact planned defect")

def inventoryDefect (expectedEntry : InventoryEntry) (expectedHeadDigest : Digest) :
    List InventoryEntry → Result (Option InventoryDefect)
  | [] => pure (some .missing)
  | [entry] =>
    if entry = expectedEntry then pure none
    else match entry with
      | .pruned digest => do
        let digest ← parseDigest digest "pruned assumption digest"
        if digest = expectedHeadDigest then pure (some .pruned) else unplannedInventory
      | .revealed _ _ => unplannedInventory
  | [first, second] =>
    if first = expectedEntry ∧ second = expectedEntry then pure (some .extra)
    else unplannedInventory
  | _ => unplannedInventory

def conditionalIndex : Family → Result ℕ
  | .terminalResolve => pure 0
  | .resolveThenJoin => pure 1
  | .terminalJoin => .error (.reported "plain family cannot classify an assumption inventory")

/-- What stock resolve must have answered for the defect found in the list. -/
def checkResolved (statement : Bytes) (conditionalProjection : Claim)
    (expectedEntry : InventoryEntry) (expectedResolved : ParsedClaim)
    (resolved : Option (ReceiptClaim U.ExitCode)) : Option InventoryDefect → Result Unit
  | none => do
    let resolved ← context (.reported "canonical one-head stock resolve failed") resolved
    ensure (parsedFromReceiptClaim U resolved = expectedResolved)
      (.reported "canonical stock resolve output differs from the family-local resolved claim")
  | some .missing => ensure (resolved.isNone = true)
      (.reported "stock resolve unexpectedly accepted an empty assumption inventory")
  | some .extra => do
    let resolved ← context (.reported "stock resolve rejected the exact duplicate-head case")
      resolved
    ensure (parsedFromReceiptClaim U resolved ≠ expectedResolved)
      (.reported "stock resolve unexpectedly removed more than one assumption")
    let canonicalInventory : SourceInventory := ⟨[expectedEntry]⟩
    let output ← reconstructedInventoryOutputDigest U statement canonicalInventory
    let canonicalProjection := { conditionalProjection with outputDigest := Hex.encode output.val }
    let canonicalConditional ← receiptClaimWithInventory U canonicalProjection statement
      canonicalInventory
    ensure (U.claimDigest resolved = U.claimDigest canonicalConditional ∧
        parsedFromReceiptClaim U resolved = parsedFromReceiptClaim U canonicalConditional)
      (.reported "stock resolve duplicate-head residual differs from the exact one-head claim")
  | some .pruned => ensure (resolved.isNone = true)
      (.reported "stock resolve unexpectedly opened a pruned assumption head")

def classifyStockInventory (family : Family) (projection : Projection) (assumption : Assumed)
    (statement : Bytes) (expectedClaim : Digest) (expectedOk : ParsedClaim)
    (expectedRoot : Digest) : Result (Option InventoryDefect) := do
  let expectedEntry : InventoryEntry :=
    .revealed (Hex.encode expectedClaim.val) (Hex.encode expectedRoot.val)
  let expectedHeadDigest := U.assumptionDigest { claim := expectedClaim, controlRoot := expectedRoot }
  let defect ← inventoryDefect expectedEntry expectedHeadDigest assumption.sourceInventory.entries
  ensure (defect = none ∨ family = .terminalResolve)
    (.reported "source assumption inventory defect is outside the planned explicit-root family")
  let index ← conditionalIndex family
  let step ← item projection.steps index
  let conditionalProjection := step.claim
  let conditional ← receiptClaimWithInventory U conditionalProjection statement
    assumption.sourceInventory
  let projectedDigest ← claimDigest U conditionalProjection
  ensure (U.claimDigest conditional = projectedDigest)
    (.reported "source inventory reconstruction is not bound to the projected claim digest")
  let assumptionClaim ← receiptClaimFromProjection U assumption.claim
  ensure (U.claimDigest assumptionClaim = expectedClaim)
    (.reported "assumption claim reconstruction differs from exact same-program OK")
  let parsed ← parseClaim conditionalProjection
  let expectedResolved := { parsed with output := expectedOk.output }
  checkResolved U statement conditionalProjection expectedEntry expectedResolved
    (U.resolve conditional assumptionClaim) defect
  pure defect

end StockInventory

/-- The explicit family's conditional lift replaced by an OK claim of another program. -/
def matchesExactAlternateProgramStepZero (projection : Projection) (statement : Bytes) :
    Result Bool :=
  if projection.family ≠ .terminalResolve then pure false
  else match projection.steps, projection.assumptionReceipt with
    | [source, finalStep], some assumption => do
      let parsed ← parseErgoStatementV1 statement
      let expected ← deriveEmptyAssumptionOkClaim U parsed.programId.val statement
      let digest ← claimDigest U expected
      let expectedHead : InventoryEntry :=
        .revealed (Hex.encode digest.val) risc0InnerControlRootHex
      let liftControlId ← item risc0NormalLiftControlIdsHex 0
      let expectedLift : Terminal := .lift 15 liftControlId
      if assumption.claim ≠ expected ∨
          assumption.requestedControlRoot ≠ risc0InnerControlRootHex ∨
          assumption.sourceInventory.entries ≠ [expectedHead] ∨
          assumption.terminal ≠ expectedLift ∨ finalStep.claim ≠ expected ∨
          source.ordinal ≠ 0 ∨ finalStep.ordinal ≠ 1 ∨ source.operation ≠ .lift 0 ∨
          finalStep.operation ≠ .resolve 0 ∨ source.terminal ≠ expectedLift ∨
          finalStep.terminal ≠ .resolve risc0ResolveControlIdHex then pure false
      else do
        let alternateProgram ← parseDigest source.claim.preStateDigest "alternate source program"
        if alternateProgram = parsed.programId then pure false
        else do
          let alternate ← report <| ErgoStatementV1.new parsed.chainDomainId parsed.profileId
            alternateProgram parsed.contractId parsed.applicationPayload
          let alternateStatement ← alternate.encode
          let alternateClaim ← deriveEmptyAssumptionOkClaim U alternateProgram.val
            alternateStatement
          pure (decide (source.claim = alternateClaim))
    | _, _ => pure false

section Replay

variable (projection : Projection) (statement : Bytes) (program : Digest)
  (ok : ReceiptClaimDigests) (expectedOk : ParsedClaim) (claims : List ParsedClaim)
  (expectedConditionalOutput : Option Digest)

def classifyDefect (defect : InventoryDefect) : Result SemanticOutcome := do
  ensure (projection.family = .terminalResolve)
    (.reported "source inventory defects are planned only for terminal resolve")
  let assumption ← context (.reported "inventory defect lost its assumption")
    projection.assumptionReceipt
  let expectedSourceOutput ← reconstructedInventoryOutputDigest U statement
    assumption.sourceInventory
  let coordinated := Fault.reported
    "inventory defect is coordinated with another ancestry claim drift"
  match claims with
  | [source, last] => do
    ensure (canonicalSourceFields source program ok.post ∧ source.output = expectedSourceOutput ∧
      last = expectedOk) coordinated
    pure (.assumptionInventory defect)
  | _ => .error coordinated

/-- One turn of the loop over the source claims; `none` goes on to the next. -/
def sourceEdge (index : ℕ) : Result (Option SemanticOutcome) := do
  let claim ← item claims index
  if index + 1 < projection.family.sourceCount then do
    let next ← item claims (index + 1)
    if claim.post ≠ next.pre ∨ (claim.systemExit, claim.userExit) ≠ (2, 0) ∨
        claim.output ≠ zeroDigest then pure (some .claimEdge)
    else pure none
  else if claim.post ≠ ok.post ∨ (claim.systemExit, claim.userExit) ≠ (0, 0) then
    pure (some .claimEdge)
  else if claim.output ≠ expectedConditionalOutput.getD ok.output then
    .error (.reported "canonical inventory is coordinated with a noncanonical source output")
  else pure none

def replayJoin (step : Step) (index : ℕ) (leftStep rightStep : UInt32) :
    Result (Option SemanticOutcome) := do
  let left ← earlierClaim claims leftStep index
  let right ← earlierClaim claims rightStep index
  let leftProjection ← item projection.steps leftStep.toNat
  let rightProjection ← item projection.steps rightStep.toNat
  let leftClaim ← receiptClaimFromProjection U leftProjection.claim
  let rightClaim ← receiptClaimFromProjection U rightProjection.claim
  let joined := U.join leftClaim rightClaim
  if left.post ≠ right.pre ∨ (left.systemExit, left.userExit) ≠ (2, 0) ∨
      left.output ≠ zeroDigest then pure (some .claimEdge)
  else do
    let matched ← receiptClaimMatchesProjection U joined step.claim
    if matched then pure none else pure (some .claimEdge)

def replayResolve (step : Step) (index : ℕ) (conditionalStep : UInt32) :
    Result (Option SemanticOutcome) := do
  let conditional ← earlierClaim claims conditionalStep index
  let expectedOutput ← context
    (.reported "resolve operation has no parsed-family conditional output")
    expectedConditionalOutput
  ensure (conditional.output = expectedOutput)
    (.reported "canonical inventory resolve input has a noncanonical output")
  let assumption ← context (.reported "resolve operation has no assumption receipt")
    projection.assumptionReceipt
  let conditionalProjection ← item projection.steps conditionalStep.toNat
  let conditionalClaim ← receiptClaimWithInventory U conditionalProjection.claim statement
    assumption.sourceInventory
  let assumptionClaim ← receiptClaimFromProjection U assumption.claim
  let resolved ← context (.reported "canonical stock resolve replay failed")
    (U.resolve conditionalClaim assumptionClaim)
  let matched ← receiptClaimMatchesProjection U resolved step.claim
  if matched then pure none else pure (some .claimEdge)

def replayStep : Step × ℕ → Result (Option SemanticOutcome) := fun (step, index) =>
  if index + 1 = projection.steps.length ∧ claims.getLast? ≠ some expectedOk then
    pure (some projection.family.resolveOutcome)
  else match step.operation with
    | .lift _ => pure none
    | .join leftStep rightStep => replayJoin U projection claims step index leftStep rightStep
    | .resolve conditionalStep =>
      replayResolve U projection statement claims expectedConditionalOutput step index
        conditionalStep

def replayClaims : Result SemanticOutcome := do
  let first ← item claims 0
  if first.pre ≠ program then pure projection.family.resolveOutcome
  else do
    let edge ← firstSome (sourceEdge projection ok claims expectedConditionalOutput)
      (List.range projection.family.sourceCount)
    match edge with
    | some outcome => pure outcome
    | none => do
      let replayed ← firstSome
        (replayStep U projection statement expectedOk claims expectedConditionalOutput)
        projection.steps.zipIdx
      pure (replayed.getD .canonical)

/-- What is decided from the claims once the source list is classified. -/
def classifyClaims (expectedRoot : Option Digest) (defect : Option InventoryDefect) :
    Result SemanticOutcome := do
  let claims ← projection.steps.mapM fun step => parseClaim step.claim
  let expectedConditionalOutput :=
    expectedRoot.map (conditionalOutputDigest U statement ok.expectedClaim)
  match defect with
  | some defect => classifyDefect U projection statement program ok expectedOk claims defect
  | none =>
    replayClaims U projection statement program ok expectedOk claims expectedConditionalOutput

end Replay

section Classifier

variable (projection : Projection) (statement : Bytes)

/-- The authenticated assumption lift put into the conditional source slot. -/
def sourceSlotHoldsOk (assumption : Assumed) (expectedClaim root : Digest)
    (expectedOk : ParsedClaim) : Result Bool :=
  if projection.family = .terminalResolve ∧ assumption.sourceInventory.entries =
      [.revealed (Hex.encode expectedClaim.val) (Hex.encode root.val)] then do
    let source ← item projection.steps 0
    let claim ← parseClaim source.claim
    pure (decide (claim = expectedOk))
  else pure false

def classifyAssumed (program : Digest) (ok : ReceiptClaimDigests) (expectedOk : ParsedClaim)
    (assumption : Assumed) (root : Digest) : Result SemanticOutcome := do
  let claim ← parseClaim assumption.claim
  if claim ≠ expectedOk then pure projection.family.resolveOutcome
  else do
    let requested ← parseDigest assumption.requestedControlRoot "assumption requested control root"
    if requested ≠ root then pure projection.family.resolveOutcome
    else do
      let held ← sourceSlotHoldsOk projection assumption ok.expectedClaim root expectedOk
      if held then pure .claimEdge
      else do
        let alternate ← matchesExactAlternateProgramStepZero U projection statement
        if alternate then pure .resolveExplicit
        else do
          let defect ← classifyStockInventory U projection.family projection assumption statement
            ok.expectedClaim expectedOk root
          classifyClaims U projection statement program ok expectedOk (some root) defect

def okClaim (program : Digest) (ok : ReceiptClaimDigests) : ParsedClaim where
  input := zeroDigest
  pre := program
  post := ok.post
  systemExit := 0
  userExit := 0
  output := ok.output

def classifyRecursiveAncestrySemantics (expectedProfileId : Digest) : Result SemanticOutcome := do
  validateRecursiveAncestryStructure U projection statement expectedProfileId
  let statementValue ← parseErgoStatementV1 statement
  let ok ← mapError (.reported "cannot derive ancestry same-program OK claim")
    (okReceiptClaimDigests U statementValue.programId.val statement)
  let expectedOk := okClaim statementValue.programId ok
  let expectedRoot ← expectedAssumptionRoot projection.family
  match projection.family, projection.assumptionReceipt, expectedRoot with
  | .terminalJoin, none, none =>
    classifyClaims U projection statement statementValue.programId ok expectedOk none none
  | _, some assumption, some root =>
    classifyAssumed U projection statement statementValue.programId ok expectedOk assumption root
  | _, _, _ => .error (.reported "ancestry assumption presence differs from parsed family")

end Classifier

end Eip0045.RecursiveAncestry
