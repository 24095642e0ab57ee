import Eip0045.Ancestry.Structure
import Eip0045.Framing.ByteMap

/-! The auxiliary seals of a recursive family, by their compiled paths. -/

namespace Eip0045.RecursiveAncestry

open Bytes Checked Constants

def recursiveAuxiliaryMapMaxBytes : ℕ :=
  ByteMap.exactByteMapMaximumEncodedBytes resolveThenJoinAuxiliaryArtifactPaths proofBytes

def Family.auxiliaryCount : Family → ℕ
  | .terminalJoin => 2
  | .terminalResolve => 2
  | .resolveThenJoin => 4

def auxiliaryPayloadBounds (family : Family) : List ByteMap.PayloadBounds :=
  match family with
  | .terminalJoin | .terminalResolve => List.replicate 2 ⟨proofBytes, proofBytes⟩
  | .resolveThenJoin => List.replicate 4 ⟨proofBytes, proofBytes⟩

/-- The family's map contract, with its paths. -/
def recursiveAuxiliaryContract (family : Family) : Result (ByteMap.Contract × List Bytes) := do
  let expected ← report (compiledPositiveAuxiliaryArtifactPaths family.positiveCaseIndex)
  let payloadBounds := auxiliaryPayloadBounds family
  ensure (expected.length = payloadBounds.length ∧ expected.length = family.auxiliaryCount)
    (.reported "compiled auxiliary path cardinality differs from the recursive family")
  let familyMaximum := ByteMap.exactByteMapMaximumEncodedBytes expected proofBytes
  ensure (familyMaximum ≤ recursiveAuxiliaryMapMaxBytes)
    (.reported "compiled auxiliary family exceeds the enclosing subject byte bound")
  pure (⟨⟨payloadBounds, expected⟩, familyMaximum⟩, expected)

structure AuxiliaryMap where
  family : Family
  entries : List (Bytes × Bytes)
  deriving DecidableEq

def AuxiliaryMap.get (map : AuxiliaryMap) (path : Bytes) : Option Bytes := map.entries.lookup path

def decodeRecursiveAuxiliaryMap (source : Bytes) (family : Family) : Result AuxiliaryMap := do
  ensure (source.length ≤ recursiveAuxiliaryMapMaxBytes)
    (.reported "auxiliary seal map exceeds its byte bound")
  let (contract, expected) ← recursiveAuxiliaryContract family
  let decoded ← mapError (.reported "cannot decode exact recursive auxiliary map")
    (ByteMap.decodeByteMap source contract)
  let entries := (expected.zip decoded).map fun (path, entry) => (path, entry.payload)
  pure { family, entries }

/-- A `BTreeMap` from paths to seals. -/
abbrev SealMap := Std.ExtTreeMap Bytes Bytes compare

section Artifacts

variable (U : Receipt.Upstream)

def validateBoundBytes (reference : ArtifactReference) (bytes : Bytes) (label : String) :
    Result Unit := do
  ensure (reference.byteLength.toNat = bytes.length)
    (.reported s!"{label} byte length differs from its binding")
  ensure (reference.sha256 = sha256Hex U bytes)
    (.reported s!"{label} SHA-256 differs from its binding")

def validateAssumptionSeal (projection : Projection) (auxiliarySeals : SealMap) : Result Unit :=
  match projection.assumptionReceipt with
  | none => pure ()
  | some assumption => do
    let bytes ← context (.reported "missing assumption raw seal")
      auxiliarySeals[assumption.rawSeal.path]?
    validateBoundBytes U assumption.rawSeal bytes "assumption raw seal"

def validateIntermediateSeal (auxiliarySeals : SealMap) (step : Step) : Result Unit := do
  let bytes ← context (.reported "missing intermediate raw seal") auxiliarySeals[step.rawSeal.path]?
  validateBoundBytes U step.rawSeal bytes "intermediate raw seal"

def validateRecursiveAncestryArtifacts (projection : Projection) (statement finalRawSeal : Bytes)
    (auxiliarySeals : SealMap) : Result Unit := do
  validateBoundBytes U projection.statement statement "statement"
  ensure (finalRawSeal.length = proofBytes)
    (.reported "existing final raw seal has the wrong byte length")
  let finalStep ← context (.reported "ancestry projection has no final step")
    projection.steps.getLast?
  validateBoundBytes U finalStep.rawSeal finalRawSeal "final raw seal"
  ensure (projection.statement.path ∉ auxiliarySeals ∧ finalStep.rawSeal.path ∉ auxiliarySeals)
    (.reported "auxiliary map duplicates an existing statement or final seal")
  let expected ← expectedAuxiliaryPaths projection.family
  ensure (auxiliarySeals.keys = expected)
    (.reported "auxiliary seal map differs from the exact parsed-family path sequence")
  validateAssumptionSeal U projection auxiliarySeals
  (projection.steps.take (projection.steps.length - 1)).forM
    (validateIntermediateSeal U auxiliarySeals)

end Artifacts

end Eip0045.RecursiveAncestry
