import Eip0045.Ancestry.ReceiptClaim
import Eip0045.Library.Hex

/-! The closed wire of recursive ancestry, with the texts as UTF-8 bytes. -/

namespace Eip0045.RecursiveAncestry

open Bytes Checked Constants Receipt

abbrev Result (α : Type) := Except (Fault String) α

section Constants

def format : Bytes := utf8 "Eip0045B4RecursiveAncestryV2"
def formatVersion : UInt8 := 2
def maxSteps : ℕ := 4
def maxPathBytes : ℕ := 512
def positiveRoot : Bytes := utf8 "reproduction/schema/b4-corpus-v1.candidate/positive"
def statementFile : Bytes := utf8 "candidate-journal.bin"
def finalSealFile : Bytes := utf8 "candidate-raw-seal.bin"
def assumptionSealFile : Bytes := utf8 "candidate-ancestry-assumption-raw-seal.bin"

end Constants

inductive Family
  | terminalJoin
  | terminalResolve
  | resolveThenJoin
  deriving DecidableEq

namespace Family

def caseId : Family → Bytes
  | terminalJoin => utf8 "terminal-join"
  | terminalResolve => utf8 "terminal-resolve-explicit-root"
  | resolveThenJoin => utf8 "resolve-zero-root-then-join"

def positiveCaseIndex : Family → ℕ
  | terminalJoin => 8
  | terminalResolve => 9
  | resolveThenJoin => 10

def stepCount : Family → ℕ
  | terminalJoin => 3
  | terminalResolve => 2
  | resolveThenJoin => 4

def sourceCount : Family → ℕ
  | terminalResolve => 1
  | terminalJoin => 2
  | resolveThenJoin => 2

def usesAssumption : Family → Bool
  | terminalJoin => false
  | terminalResolve => true
  | resolveThenJoin => true

end Family

structure ArtifactReference where
  path : Bytes
  byteLength : UInt64
  sha256 : Bytes
  deriving DecidableEq

inductive InventoryEntry
  | revealed (claimDigest controlRoot : Bytes)
  | pruned (digest : Bytes)
  deriving DecidableEq

structure SourceInventory where
  entries : List InventoryEntry
  deriving DecidableEq

structure Claim where
  inputDigest : Bytes
  preStateDigest : Bytes
  postStateDigest : Bytes
  systemExit : UInt32
  userExit : UInt32
  outputDigest : Bytes
  deriving DecidableEq

inductive Operation
  | lift (segmentIndex : UInt32)
  | join (leftStep rightStep : UInt32)
  | resolve (conditionalStep : UInt32)
  deriving DecidableEq

inductive Terminal
  | lift (segmentPo2 : UInt32) (controlId : Bytes)
  | join (controlId : Bytes)
  | resolve (controlId : Bytes)
  deriving DecidableEq

structure Assumed where
  claim : Claim
  requestedControlRoot : Bytes
  sourceInventory : SourceInventory
  rawSeal : ArtifactReference
  terminal : Terminal
  deriving DecidableEq

structure Step where
  ordinal : UInt32
  operation : Operation
  claim : Claim
  rawSeal : ArtifactReference
  terminal : Terminal
  deriving DecidableEq

structure Projection where
  format : Bytes
  formatVersion : UInt8
  caseId : Bytes
  profileId : Bytes
  programId : Bytes
  statement : ArtifactReference
  family : Family
  assumptionReceipt : Option Assumed
  steps : List Step
  deriving DecidableEq

@[ext] structure ParsedClaim where
  input : Digest
  pre : Digest
  post : Digest
  systemExit : UInt32
  userExit : UInt32
  output : Digest
  deriving DecidableEq

section Digests

def validateLowerHexExact (value : Bytes) (byteLen : ℕ) : Except String Unit := do
  let expectedLen ← context "fixed-hex byte length overflows usize"
    (Statement.checkedMul byteLen 2)
  ensure (value.length = expectedLen)
    s!"fixed-hex value has length {value.length}, expected {expectedLen} lowercase characters"
  ensure (value.all fun c => Hex.IsLower c)
    "fixed-hex value must contain only lowercase hexadecimal characters"

def parseDigest (value : Bytes) (label : String) : Result Digest := do
  mapError (.reported s!"{label} is not exact lowercase hex")
    (validateLowerHexExact value digestBytes)
  context (.reported s!"cannot decode {label}") (Hex.decodeToSlice digestBytes value)

def parseClaim (claim : Claim) : Result ParsedClaim := do
  let input ← parseDigest claim.inputDigest "claim input digest"
  let pre ← parseDigest claim.preStateDigest "claim pre-state digest"
  let post ← parseDigest claim.postStateDigest "claim post-state digest"
  let output ← parseDigest claim.outputDigest "claim output digest"
  pure { input, pre, post, systemExit := claim.systemExit, userExit := claim.userExit, output }

lemma parseDigest_ok {value : Bytes} {label : String} {digest : Digest} :
    parseDigest value label = .ok digest ↔ value = Hex.encode digest.val := by
  simp only [parseDigest, validateLowerHexExact, bind_ok, exists_unit, mapError_ok, context_ok,
    ensure_ok, List.all_eq_true, decide_eq_true_eq]
  constructor
  · intro h
    obtain ⟨⟨n, hn, hlen, hlower⟩, hdecode⟩ := h
    have hlen' : value.length = digestBytes * 2 := by
      simp only [Statement.checkedMul, digestBytes] at hn
      simp only [digestBytes]
      grind
    exact (Hex.decodeToSlice_eq_some hlower hlen').mp (context_ok.mp hdecode)
  · intro h
    subst h
    refine ⟨⟨64, rfl, ?_, Hex.encode_isLower _⟩, ?_⟩
    · rw [Hex.encode_length, ByteArr.val_length]
    · exact context_ok.mpr (Hex.decodeToSlice_encode digest)

def ParsedClaim.wire (c : ParsedClaim) : Claim where
  inputDigest := Hex.encode c.input.val
  preStateDigest := Hex.encode c.pre.val
  postStateDigest := Hex.encode c.post.val
  systemExit := c.systemExit
  userExit := c.userExit
  outputDigest := Hex.encode c.output.val

lemma parseClaim_ok {claim : Claim} {c : ParsedClaim} : parseClaim claim = .ok c ↔ claim = c.wire := by
  simp only [parseClaim, bind_ok, parseDigest_ok, pure_ok]
  constructor
  · intro h
    obtain ⟨input, hinput, pre, hpre, post, hpost, output, houtput, rfl⟩ := h
    cases claim
    simp only [ParsedClaim.wire] at *
    rw [hinput, hpre, hpost, houtput]
  · intro h
    subst h
    exact ⟨_, rfl, _, rfl, _, rfl, _, rfl, rfl⟩

end Digests

end Eip0045.RecursiveAncestry
