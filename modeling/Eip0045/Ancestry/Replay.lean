import Eip0045.Ancestry.AuxiliaryMap
import Eip0045.Ancestry.Semantics
import Eip0045.Framing.SubjectEnvelope
import Eip0045.Profile.InitialTarget
import Eip0045.Seal.RawSeal

/-! The negative adapter: every referenced producer seal is authenticated before the shared
classifier's outcome becomes a typed rejection. -/

namespace Eip0045.AncestryReplay

open Bytes Checked Constants Manifest RawSeal Receipt RecursiveAncestry

section Data

inductive AncestryRejection
  | claimEdge
  | resolveExplicit
  | resolveZeroRoot
  | assumptionInventory
  deriving DecidableEq

inductive TerminalKind
  | lift
  | join
  | resolve
  deriving DecidableEq

structure VerifiedTerminal where
  kind : TerminalKind
  parameter : UInt8
  controlId : Digest
  deriving DecidableEq

/-- What the STARK verifier and the root and claim typestates yield for a seal. -/
structure VerifiedStark where
  innerControlRoot : Digest
  claimDigest : Digest
  terminal : VerifiedTerminal
  deriving DecidableEq

structure UntrustedSealOutput where
  innerRoot : Digest
  claimDigest : Digest
  deriving DecidableEq

inductive SealProducerRole
  | assumptionLift
  | lift
  | join
  | resolve
  deriving DecidableEq

def SealProducerRole.fromOperation : Operation → SealProducerRole
  | .lift _ => .lift
  | .join _ _ => .join
  | .resolve _ => .resolve

def SealProducerRole.terminalKind : SealProducerRole → TerminalKind
  | .assumptionLift => .lift
  | .lift => .lift
  | .join => .join
  | .resolve => .resolve

inductive SealProducerRootBinding
  | initialProfile
  | fixedAlternateAssumption
  deriving DecidableEq

structure PreparedAncestry where
  projection : Projection
  statement : Bytes
  profileId : Digest
  authenticatedAssumptionRoot : Option Digest

end Data

/-- The code outside the repository: the upstream crates, the JSON parser behind the canonical
source check, the profile hash and the STARK verifier. -/
structure Environment where
  upstream : Upstream
  Json : Type
  validateCanonicalJsonSource : Bytes → Option Json
  fromValue : Json → Option Projection
  blake2b256 : Bytes → Digest
  verifyStark : StarkProfileManifestV1 → Bytes → Option VerifiedStark

variable (E : Environment)

def recursiveAncestryMaxBytes : ℕ := 65536

def parseRecursiveAncestryJcs (source : Bytes) : Result Projection := do
  ensure (source.length ≤ recursiveAncestryMaxBytes)
    (.reported "ancestry projection exceeds its byte limit")
  let value ← context (.reported "ancestry projection is not exact RFC 8785 JCS")
    (E.validateCanonicalJsonSource source)
  context (.reported "ancestry projection has the wrong closed shape") (E.fromValue value)

section Terminals

def projectedTerminalFields : Terminal → Result (TerminalKind × UInt8 × Digest)
  | .lift segmentPo2 controlId => do
    let parameter ← context (.reported "lift exponent does not fit u8")
      (if segmentPo2.toNat < 2 ^ 8 then some segmentPo2.toUInt8 else none)
    let controlId ← parseDigest controlId "ancestry lift control ID"
    pure (.lift, parameter, controlId)
  | .join controlId => do
    let controlId ← parseDigest controlId "ancestry join control ID"
    pure (.join, 0, controlId)
  | .resolve controlId => do
    let controlId ← parseDigest controlId "ancestry resolve control ID"
    pure (.resolve, 0, controlId)

def TerminalKind.manifestKind : TerminalKind → UInt8
  | .lift => terminalControlKindLift
  | .join => terminalControlKindJoin
  | .resolve => terminalControlKindResolve

def validateProjectedTerminal (terminal : Terminal) (role : SealProducerRole)
    (manifest : StarkProfileManifestV1) : Result Unit := do
  let (kind, parameter, controlId) ← projectedTerminalFields terminal
  ensure (kind = role.terminalKind)
    (.reported "ancestry projected terminal kind differs from its operation")
  let control ← context (.reported "ancestry terminal key is absent from the manifest")
    (manifest.terminalControls.toList.find? fun entry =>
      entry.kind = kind.manifestKind ∧ entry.parameter = parameter)
  ensure (controlId = control.controlId)
    (.reported "ancestry terminal control ID differs from the manifest")

def bindProjectedTerminal (projected : Terminal) (actual : VerifiedTerminal) : Result Unit := do
  let fields ← projectedTerminalFields projected
  ensure (fields = (actual.kind, actual.parameter, actual.controlId))
    (.reported
      "ancestry projection terminal differs from its cryptographically verified producer")

end Terminals

section Seals

def untrustedRootBlock (words : List UInt32) (k : ℕ) : Result Bytes := do
  let padding ← item words (2 * k + 1)
  ensure (padding = 0) (.reported "ancestry producer seal has nonzero root padding")
  let word ← item words (2 * k)
  pure (le32 (asU32 word))

def untrustedClaimBlock (rawWord : UInt32) : Result Bytes := do
  let decoded := asU32 rawWord
  let halfword ← context (.reported "ancestry producer seal claim halfword exceeds u16")
    (if decoded.toNat < 2 ^ 16 then some decoded.toUInt16 else none)
  pure (le16 halfword)

/-- The blocks fill the 32 bytes of each digest in order. -/
def decodeUntrustedSealOutput (rawSeal : Bytes) (manifest : StarkProfileManifestV1) :
    Result UntrustedSealOutput := do
  let words ← mapError (.reported "cannot decode ancestry producer seal")
    (decodeSealWords rawSeal)
  ensure (words.all fun word => word.toNat < babyBearModulus)
    (.reported "ancestry producer seal contains a non-reduced word")
  let outerPo2 ← item words 32
  ensure (outerPo2 = manifest.outerPo2.toUInt32)
    (.reported "ancestry producer seal has the wrong outer exponent")
  let root ← (List.range 8).mapM (untrustedRootBlock words)
  let claim ← ((words.drop 16).take 16).mapM untrustedClaimBlock
  pure {
    innerRoot := ByteArr.atOffset 32 root.flatten 0
    claimDigest := ByteArr.atOffset 32 claim.flatten 0 }

def requireSupportedProducerRoot (role : SealProducerRole) (actual : Digest)
    (manifest : StarkProfileManifestV1) : Result SealProducerRootBinding :=
  if actual = manifest.innerControlRoot then pure .initialProfile
  else if role = .assumptionLift ∧ actual = b4AlternateControlRoot then
    pure .fixedAlternateAssumption
  else do
    ensure (role ≠ .assumptionLift) (.reported
      "assumption receipt root is neither the initial profile root nor the fixed alternate witness")
    .error (.reported "ancestry step producer root differs from the authenticated profile")

/-- The root that a binding transition compares with. -/
def SealProducerRootBinding.expectedRoot (manifest : StarkProfileManifestV1) :
    SealProducerRootBinding → Digest
  | .initialProfile => manifest.innerControlRoot
  | .fixedAlternateAssumption => b4AlternateControlRoot

/-- The inner root of a seal that passes every check of its producer. -/
def authenticateSealProducer (rawSeal : Bytes) (manifest : StarkProfileManifestV1)
    (role : SealProducerRole) (projectedTerminal : Terminal) (expectedClaim : Digest) :
    Result Digest := do
  let output ← decodeUntrustedSealOutput rawSeal manifest
  let verified ← context
    (.reported "ancestry producer seal failed pinned STARK verification")
    (E.verifyStark manifest rawSeal)
  let rootBinding ← requireSupportedProducerRoot role output.innerRoot manifest
  ensure (verified.innerControlRoot = rootBinding.expectedRoot manifest)
    (.reported "ancestry producer seal failed closed root binding")
  ensure (verified.claimDigest = expectedClaim)
    (.reported "ancestry producer seal failed claim binding")
  ensure (verified.innerControlRoot = output.innerRoot ∧
    verified.claimDigest = output.claimDigest)
    (.reported "ancestry producer typestate differs from independently decoded output")
  ensure (verified.terminal.kind = role.terminalKind)
    (.reported "ancestry producer terminal kind differs from its role")
  validateProjectedTerminal projectedTerminal role manifest
  bindProjectedTerminal projectedTerminal verified.terminal
  pure verified.innerControlRoot

end Seals

section Producers

/-- Who must have made the seal behind a reference. -/
structure ProducerContract where
  role : SealProducerRole
  terminal : Terminal
  claim : Claim
  reference : ArtifactReference
  deriving DecidableEq

def assumptionContract (assumption : Assumed) : ProducerContract :=
  ⟨.assumptionLift, assumption.terminal, assumption.claim, assumption.rawSeal⟩

def stepContract (step : Step) : ProducerContract :=
  ⟨.fromOperation step.operation, step.terminal, step.claim, step.rawSeal⟩

def auxiliaryProducerContract (projection : Projection) (path : Bytes) :
    Result ProducerContract :=
  match projection.assumptionReceipt.filter fun assumption => assumption.rawSeal.path = path with
  | some assumption => pure (assumptionContract assumption)
  | none => do
    let step ← context (.reported "parsed-family auxiliary path has no producer contract")
      ((projection.steps.take (projection.steps.length - 1)).find? fun step =>
        step.rawSeal.path = path)
    pure (stepContract step)

/-- One turn of the loop over the compiled paths, with the assumption root found so far. -/
def authenticateAuxiliary (manifest : StarkProfileManifestV1) (projection : Projection)
    (auxiliary : AuxiliaryMap) (path : Bytes) (root : Option Digest) : Result (Option Digest) := do
  let bytes ← context (.reported s!"missing parsed-family producer seal {text path}")
    (auxiliary.get path)
  let producer ← auxiliaryProducerContract projection path
  ensure (producer.reference.path = path)
    (.reported "auxiliary producer reference changed after shared artifact validation")
  let claim ← claimDigest E.upstream producer.claim
  let innerRoot ← authenticateSealProducer E bytes manifest producer.role producer.terminal claim
  if producer.role = .assumptionLift then do
    ensure (root = none) (.reported "ancestry authenticated more than one assumption receipt")
    pure (some innerRoot)
  else pure root

def authenticateAuxiliaries (manifest : StarkProfileManifestV1) (projection : Projection)
    (auxiliary : AuxiliaryMap) : List Bytes → Option Digest → Result (Option Digest)
  | [], root => pure root
  | path :: rest, root => do
    let root ← authenticateAuxiliary E manifest projection auxiliary path root
    authenticateAuxiliaries manifest projection auxiliary rest root

end Producers

def prepareAncestry (ancestry statement finalSeal auxiliaryMap manifestBytes : Bytes) :
    Result PreparedAncestry := do
  let projection ← parseRecursiveAncestryJcs E ancestry
  let manifest ← mapError (.reported "cannot decode ancestry manifest context")
    (Manifest.decode manifestBytes)
  let encoded ← shown ProfileManifestError.display (Manifest.encode manifest)
  ensure (encoded.val = manifestBytes)
    (.reported "ancestry manifest decode/re-encode changed bytes")
  mapError (.reported "ancestry manifest differs from the frozen initial target")
    (validateInitialProfileTarget manifest)
  let profileId ← shown ProfileManifestError.display (Manifest.profileId E.blake2b256 manifest)
  validateRecursiveAncestryStructure E.upstream projection statement profileId
  let borrowedAuxiliary ← decodeRecursiveAuxiliaryMap auxiliaryMap projection.family
  ensure (borrowedAuxiliary.family = projection.family)
    (.reported "decoded auxiliary family differs from parsed ancestry")
  let auxiliary : SealMap := Std.ExtTreeMap.ofList borrowedAuxiliary.entries compare
  ensure (auxiliary.size = borrowedAuxiliary.entries.length)
    (.reported "decoded auxiliary inventory lost one compiled path")
  validateRecursiveAncestryArtifacts E.upstream projection statement finalSeal auxiliary
  let finalStep ← context (.reported "ancestry projection has no final step")
    projection.steps.getLast?
  let finalClaim ← claimDigest E.upstream finalStep.claim
  let _ ← authenticateSealProducer E finalSeal manifest (.fromOperation finalStep.operation)
    finalStep.terminal finalClaim
  let paths ← expectedAuxiliaryPaths projection.family
  let authenticatedAssumptionRoot ←
    authenticateAuxiliaries E manifest projection borrowedAuxiliary paths none
  ensure (authenticatedAssumptionRoot.isSome = projection.family.usesAssumption)
    (.reported "authenticated assumption-root presence differs from the ancestry family")
  pure { projection, statement, profileId, authenticatedAssumptionRoot }

section Classification

def mapSemanticOutcome : SemanticOutcome → Option AncestryRejection
  | .canonical => none
  | .claimEdge => some .claimEdge
  | .resolveExplicit => some .resolveExplicit
  | .resolveZeroRoot => some .resolveZeroRoot
  | .assumptionInventory _ => some .assumptionInventory

def classifyAuthenticatedAssumptionRoot (family : Family) (requested authenticated : Option Digest) :
    Result (Option AncestryRejection) :=
  match family with
  | .terminalJoin => do
    ensure (requested = none ∧ authenticated = none)
      (.reported "terminal-join unexpectedly retained an assumption root")
    pure none
  | .terminalResolve => do
    let requested ← context (.reported "explicit resolve lost its requested control root")
      requested
    let authenticated ← context
      (.reported "explicit resolve lost its authenticated receipt root") authenticated
    pure (if requested ≠ authenticated then some .resolveExplicit else none)
  | .resolveThenJoin => do
    ensure (requested = some zeroDigest ∧ authenticated.isSome)
      (.reported "zero-root resolve lost its requested or authenticated assumption root")
    pure none

def requestedAssumptionRoot (projection : Projection) : Result (Option Digest) :=
  match projection.assumptionReceipt with
  | none => pure none
  | some assumption => do
    let root ← parseDigest assumption.requestedControlRoot "assumption requested control root"
    pure (some root)

def classifySemantics (prepared : PreparedAncestry) : Result (Option AncestryRejection) := do
  let outcome ← classifyRecursiveAncestrySemantics E.upstream prepared.projection
    prepared.statement prepared.profileId
  if outcome ≠ .canonical then pure (mapSemanticOutcome outcome)
  else do
    let requested ← requestedAssumptionRoot prepared.projection
    classifyAuthenticatedAssumptionRoot prepared.projection.family requested
      prepared.authenticatedAssumptionRoot

end Classification

def ancestrySubjectEnvelopeContract : SubjectEnvelope.Contract where
  kind := .ancestryBundle
  partBounds := [⟨1, recursiveAncestryMaxBytes⟩, ⟨159, 16543⟩, ⟨proofBytes, proofBytes⟩,
    ⟨1, recursiveAuxiliaryMapMaxBytes⟩]

/-- The verdict on an authenticated subject; `none` accepts it. -/
def ancestryVerdict (subject : Bytes) (contexts : List Bytes) :
    Result (Option AncestryRejection) := do
  ensure (contexts.length = 1)
    (.reported "ancestry replay requires exactly one manifest context")
  let decoded ← mapError (.reported "invalid ancestry subject envelope")
    (SubjectEnvelope.decodeSubjectEnvelope subject ancestrySubjectEnvelopeContract)
  match decoded with
  | [ancestry, statement, finalSeal, auxiliaryMap] => do
    let manifest ← item contexts 0
    let prepared ← prepareAncestry E ancestry statement finalSeal auxiliaryMap manifest
    classifySemantics E prepared
  | _ => .error (.reported "ancestry envelope part count changed after decoding")

def rejectAncestryReplay (subject : Bytes) (contexts : List Bytes) : Result AncestryRejection := do
  let verdict ← ancestryVerdict E subject contexts
  context (.reported "ancestry subject was unexpectedly accepted") verdict

end Eip0045.AncestryReplay
