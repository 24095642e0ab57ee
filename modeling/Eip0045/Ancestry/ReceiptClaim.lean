import Eip0045.Statement.ErgoStatement

/-! Receipt claims: the code of other crates that the replay calls, and the byte formulas that
derive the digests of an OK claim without it. -/

namespace Eip0045.Receipt

open Bytes Checked Constants

section Upstream

inductive MaybePruned (α : Type)
  | value (a : α)
  | pruned (digest : Digest)
  deriving DecidableEq

structure Assumption where
  claim : Digest
  controlRoot : Digest
  deriving DecidableEq

/-- An output whose journal is given by its digest alone. -/
structure Output where
  journal : Digest
  assumptions : List (MaybePruned Assumption)
  deriving DecidableEq

/-- A claim whose input and states are given by their digests alone. -/
structure ReceiptClaim (ExitCode : Type) where
  input : Digest
  pre : Digest
  post : Digest
  exitCode : ExitCode
  output : MaybePruned (Option Output)

/-- What the repository uses of its hash and receipt crates. -/
structure Upstream where
  sha256 : Bytes → Digest
  ExitCode : Type
  fromPair : UInt32 → UInt32 → Option ExitCode
  intoPair : ExitCode → UInt32 × UInt32
  assumptionDigest : Assumption → Digest
  outputDigest : MaybePruned (Option Output) → Digest
  claimDigest : ReceiptClaim ExitCode → Digest
  join : ReceiptClaim ExitCode → ReceiptClaim ExitCode → ReceiptClaim ExitCode
  resolve : ReceiptClaim ExitCode → ReceiptClaim ExitCode → Option (ReceiptClaim ExitCode)

/-- A joined claim starts as the left one and ends as the right one. -/
structure Upstream.Joins (U : Upstream) : Prop where
  join_eq : ∀ left right, U.join left right =
    ⟨left.input, left.pre, right.post, right.exitCode, right.output⟩

end Upstream

section Reference

inductive ReferenceExit
  | halted (user : UInt32)
  | paused (user : UInt32)
  | systemSplit

def referenceTagged (sha256 : Bytes → Digest) (tag : String) (down : List Digest)
    (data : List UInt32) : Digest :=
  sha256 ((sha256 (utf8 tag)).val ++ down.flatMap (fun digest => digest.val) ++
    data.flatMap le32 ++ le16 (UInt16.ofNat down.length))

def referenceFromPair (system user : UInt32) : Option ReferenceExit :=
  if system = 0 then some (.halted user)
  else if system = 1 then some (.paused user)
  else if system = 2 then some .systemSplit
  else none

def referenceIntoPair : ReferenceExit → UInt32 × UInt32
  | .halted user => (0, user)
  | .paused user => (1, user)
  | .systemSplit => (2, 0)

def referenceAssumption (sha256 : Bytes → Digest) (a : Assumption) : Digest :=
  referenceTagged sha256 "risc0.Assumption" [a.claim, a.controlRoot] []

def referenceAssumptions (sha256 : Bytes → Digest) : List (MaybePruned Assumption) → Digest
  | [] => ByteArr.zero 32
  | .value a :: rest => referenceTagged sha256 "risc0.Assumptions"
    [referenceAssumption sha256 a, referenceAssumptions sha256 rest] []
  | .pruned digest :: rest => referenceTagged sha256 "risc0.Assumptions"
    [digest, referenceAssumptions sha256 rest] []

def referenceOutput (sha256 : Bytes → Digest) : MaybePruned (Option Output) → Digest
  | .pruned digest => digest
  | .value none => ByteArr.zero 32
  | .value (some output) => referenceTagged sha256 "risc0.Output"
    [output.journal, referenceAssumptions sha256 output.assumptions] []

def referenceClaim (sha256 : Bytes → Digest) (c : ReceiptClaim ReferenceExit) : Digest :=
  referenceTagged sha256 "risc0.ReceiptClaim"
    [c.input, c.pre, c.post, referenceOutput sha256 c.output]
    [(referenceIntoPair c.exitCode).1, (referenceIntoPair c.exitCode).2]

def referenceResolve (sha256 : Bytes → Digest) (c assumption : ReceiptClaim ReferenceExit) :
    Option (ReceiptClaim ReferenceExit) :=
  match c.output with
  | .value (some ⟨journal, .value head :: rest⟩) =>
    if head.claim = referenceClaim sha256 assumption then
      some { c with output := .value (some ⟨journal, rest⟩) }
    else none
  | _ => none

/-- The documented algebra over a hash function. -/
def reference (sha256 : Bytes → Digest) : Upstream where
  sha256 := sha256
  ExitCode := ReferenceExit
  fromPair := referenceFromPair
  intoPair := referenceIntoPair
  assumptionDigest := referenceAssumption sha256
  outputDigest := referenceOutput sha256
  claimDigest := referenceClaim sha256
  join := fun left right => ⟨left.input, left.pre, right.post, right.exitCode, right.output⟩
  resolve := referenceResolve sha256

lemma reference_joins (sha256 : Bytes → Digest) : (reference sha256).Joins := ⟨fun _ _ => rfl⟩

end Reference

structure ReceiptClaimDigests where
  journalDigest : Digest
  post : Digest
  output : Digest
  expectedClaim : Digest
  deriving DecidableEq

inductive ClaimConstructionError
  | invalidImageIdLength (actual expected : ℕ)
  | tooManyTaggedStructChildren (actual maximum : ℕ)
  | arithmeticOverflow (construct : String)
  | sha256InputTooLong (construct : String) (actual : ℕ)
  deriving DecidableEq

def zeroDigest : Digest := ByteArr.zero 32

def checkedSha256InputLength (construct : String) (byteLength : ℕ) :
    Except ClaimConstructionError Unit :=
  ensure (byteLength < 2 ^ 64 ∧ byteLength * 8 < 2 ^ 64) (.sha256InputTooLong construct byteLength)

def taggedStructPreimageLength (downCount dataCount : ℕ) :
    Except ClaimConstructionError (UInt16 × ℕ) := do
  let encodedDownCount ← context (.tooManyTaggedStructChildren downCount 65535)
    (if downCount < 2 ^ 16 then some (UInt16.ofNat downCount) else none)
  let downBytes ← context (.arithmeticOverflow "tagged-struct child digests")
    (Statement.checkedMul downCount digestBytes)
  let dataBytes ← context (.arithmeticOverflow "tagged-struct data bytes")
    (Statement.checkedMul dataCount 4)
  let preimageLength ← context (.arithmeticOverflow "complete tagged-struct preimage")
    ((checkedAdd digestBytes downBytes).bind fun length =>
      (checkedAdd length dataBytes).bind fun length => checkedAdd length 2)
  pure (encodedDownCount, preimageLength)

variable (U : Upstream)

def sha256Bytes (construct : String) (bytes : Bytes) : Except ClaimConstructionError Digest := do
  checkedSha256InputLength construct bytes.length
  pure (U.sha256 bytes)

def taggedStructSha256 (tag : Bytes) (down : List Digest) (data : List UInt32) :
    Except ClaimConstructionError Digest := do
  let (downCount, preimageLength) ← taggedStructPreimageLength down.length data.length
  checkedSha256InputLength "tagged-struct preimage" preimageLength
  let tagDigest ← sha256Bytes U "tagged-struct tag" tag
  pure (U.sha256 (tagDigest.val ++ down.flatMap (fun digest => digest.val) ++ data.flatMap le32 ++
    le16 downCount))

def okPostDigest : Except ClaimConstructionError Digest :=
  taggedStructSha256 U (utf8 "risc0.SystemState") [zeroDigest] [0]

def okOutputDigest (journalDigest : Digest) : Except ClaimConstructionError Digest :=
  taggedStructSha256 U (utf8 "risc0.Output") [journalDigest, zeroDigest] []

def okReceiptClaimDigests (imageId journal : Bytes) :
    Except ClaimConstructionError ReceiptClaimDigests := do
  let imageId ← context (.invalidImageIdLength imageId.length digestBytes)
    (ByteArr.ofBytes digestBytes imageId)
  let journalDigest ← sha256Bytes U "receipt journal" journal
  let post ← okPostDigest U
  let output ← okOutputDigest U journalDigest
  let expectedClaim ← taggedStructSha256 U (utf8 "risc0.ReceiptClaim")
    [zeroDigest, imageId, post, output] [0, 0]
  pure { journalDigest, post, output, expectedClaim }

end Eip0045.Receipt
