import Eip0045.Framing.SequenceSubject
import Eip0045.Opcode.Producer
import Eip0045.Seal.Semantics

/-! The producer's raw-seal rows: the checks on the base seal, the edit of a row, its splice into
the seal and the projection that the edited seal must pass. -/

namespace Eip0045.RawSeal

open Bytes Checked Constants SequenceSubject Statement

namespace Producer

def liftCaseId : Bytes := utf8 "lift-po2-15"
def wordBytes : ℕ := 4

section Montgomery

def montgomeryRadix (modulus : UInt32) : Result UInt32 := do
  ensure (modulus > 2) (.reported "Montgomery modulus is too small")
  let radix ← Opcode.Producer.tryFromInt (2 ^ 32) (2 ^ 32 % modulus.toNat)
  pure (UInt32.ofNat radix)

/-- The loop of `modular_pow`, which halves the exponent. -/
def modularPowLoop (modulus accumulator base exponent : ℕ) : ℕ :=
  if exponent > 0 then
    modularPowLoop modulus
      (if exponent &&& 1 = 1 then accumulator * base % modulus else accumulator)
      (base * base % modulus) (exponent >>> 1)
  else accumulator
termination_by exponent
decreasing_by
  rw [Nat.shiftRight_eq_div_pow]
  omega

def modularPow (base exponent modulus : ℕ) : ℕ := modularPowLoop modulus 1 base exponent

def montgomeryEncode (value modulus : UInt32) : Result UInt32 := do
  ensure (value < modulus) (.reported "Montgomery input is not a field element")
  let radix ← montgomeryRadix modulus
  let encoded ← Opcode.Producer.tryFromInt (2 ^ 32) (value.toNat * radix.toNat % modulus.toNat)
  pure (UInt32.ofNat encoded)

def montgomeryDecode (raw modulus : UInt32) : Result UInt32 := do
  ensure (raw < modulus) (.reported "Montgomery residue is not reduced")
  let radix ← montgomeryRadix modulus
  let inverse := modularPow radix.toNat (modulus.toNat - 2) modulus.toNat
  ensure (radix.toNat * inverse % modulus.toNat = 1)
    (.reported "authenticated modulus does not admit the Montgomery radix inverse")
  let decoded ← Opcode.Producer.tryFromInt (2 ^ 32) (raw.toNat * inverse % modulus.toNat)
  pure (UInt32.ofNat decoded)

end Montgomery

section Sources

structure RawSources where
  manifest : Bytes
  rawSeal : Bytes
  rawSealWords : List UInt32
  proofChunks : List Bytes
  proofSubject : Bytes
  statementBytes : Bytes
  statement : ErgoStatementV1
  profileId : Digest
  programId : Digest
  semanticProjection : SealSemanticProjection
  outerPo2 : UInt8

-- SHA-256, and what strict parsing has against a source that is not its own canonical form.
variable (sha256 : Bytes → Digest) (validateCanonicalJsonSource : Bytes → Except String Unit)

/-- `chunk-{index:02}`. -/
def chunkId (index : ℕ) : Bytes :=
  utf8 "chunk-" ++ (if index < 10 then utf8 "0" else []) ++ utf8 (toString index)

def proofSubjectFromRawSeal (rawSeal : Bytes) : Result Bytes := do
  let chunks ← Opcode.Producer.splitRawSeal rawSeal
  let elements ← chunks.zipIdx.mapM fun entry =>
    report (B4SequenceSubjectElement.fromBytes sha256 (chunkId entry.2) entry.1)
  let subject ← report
    (Eip0045B4SequenceSubjectV1.new sha256 validateCanonicalJsonSource .proofChunks elements)
  report (subject.toCanonicalJcs sha256 validateCanonicalJsonSource)

/-- One word of the claim decodes to a halfword. -/
def checkClaimWord (modulus : UInt32) (offset : ℕ) (rawWord : UInt32) : Result Unit := do
  let value ← montgomeryDecode rawWord modulus
  ensure (value.toNat < 2 ^ 16)
    (.reported s!"raw producer base claim word {16 + offset} does not decode to one halfword")

def fromAuthenticatedParts (caseIndex : ℕ) (caseId manifest : Bytes) (outerPo2 : UInt8)
    (profileConstants rawSeal statementBytes : Bytes) (statement : ErgoStatementV1)
    (profileId programId : Digest) : Result RawSources := do
  ensure (caseIndex = 0 ∧ caseId = liftCaseId)
    (.reported "raw producer selected a different positive case")
  ensure (profileId = statement.profileId ∧ programId = statement.programId)
    (.reported
      "raw producer reference statement identities differ from their independent sources")
  let rawSealWords ← mapError (.reported "raw producer seal has the wrong exact grammar")
    (decodeSealWords rawSeal)
  let semanticProjection ← mapError
    (.reported "raw producer cannot derive its semantic seal projection from B2")
    (deriveSealSemanticProjection sha256 profileConstants)
  let modulus := semanticProjection.modulus
  ensure (∀ word ∈ rawSealWords, word < modulus)
    (.reported "raw producer base contains a non-reduced field word")
  ensure (∀ index ∈ List.range' 1 8 2, rawSealWords[index]? = some 0)
    (.reported "raw producer base contains nonzero inner-root padding")
  ensure (rawSealWords[32]? = some outerPo2.toUInt32)
    (.reported
      "raw producer base outer exponent differs from the authenticated manifest literal")
  let claimWords ← context
    (.reported "raw producer base lacks the exact sixteen-word claim span")
    (if 32 ≤ rawSealWords.length then some ((rawSealWords.drop 16).take 16) else none)
  claimWords.zipIdx.forM fun entry => checkClaimWord modulus entry.2 entry.1
  let proofChunks ← mapError (.reported "raw producer cannot derive the exact proof chunks")
    (Opcode.Producer.splitRawSeal rawSeal)
  let proofSubject ← mapError
    (.reported "raw producer cannot derive the detached proof-chunk subject")
    (proofSubjectFromRawSeal sha256 validateCanonicalJsonSource rawSeal)
  pure ⟨manifest, rawSeal, rawSealWords, proofChunks, proofSubject, statementBytes, statement,
    profileId, programId, semanticProjection, outerPo2⟩

end Sources

section Edits

inductive B4ByteOperation
  | delete (beforeHex : Bytes) (offset : ℕ)
  | insert (insertedHex : Bytes) (offset : ℕ)
  | replace (beforeHex replacementHex : Bytes) (offset : ℕ)
  | truncate (beforeHex : Bytes) (newLength originalLength : ℕ)
  deriving DecidableEq

def sealRole (relative : ℕ) : Result SealSemanticRole :=
  context (.reported "raw seal role index is outside the exact seven-role table")
    SealSemanticRole.all[relative]?

def replaceWord (sources : RawSources) (wordIndex : ℕ) (replacement : UInt32) :
    Result B4ByteOperation := do
  let before ← context
    (.reported "raw seal mutation word is outside the authenticated proof")
    sources.rawSealWords[wordIndex]?
  ensure (before ≠ replacement) (.reported "raw seal word replacement would be a no-op")
  let byteOffset ← context (.reported "raw seal word offset overflows usize")
    (checkedMul wordIndex wordBytes)
  pure (.replace (Hex.encode (le32 before)) (Hex.encode (le32 replacement)) byteOffset)

def paddingEdit (index : ℕ) (sources : RawSources) : Result B4ByteOperation := do
  let wordIndex := 1 + (index - 33) * 2
  ensure (sources.rawSealWords[wordIndex]? = some 0)
    (.reported "raw seal padding recipe base is not exact zero")
  replaceWord sources wordIndex 1

def claimEdit (index : ℕ) (sources : RawSources) : Result B4ByteOperation := do
  let modulus := sources.semanticProjection.modulus
  let wordIndex := 16 + (index - 41)
  let before ← context (.reported "raw seal claim word is absent") sources.rawSealWords[wordIndex]?
  let value ← montgomeryDecode before modulus
  ensure (value.toNat < 2 ^ 16)
    (.reported "raw seal claim recipe base is already outside one halfword")
  let replacement ← montgomeryEncode 65536 modulus
  ensure (replacement = 0x0ffdddde)
    (.reported "authenticated BabyBear Montgomery encoding of 65536 drifted")
  replaceWord sources wordIndex replacement

def modulusEdit (index : ℕ) (sources : RawSources) : Result B4ByteOperation := do
  let role ← sealRole (index - 57)
  let wordIndex ← fixedSemanticRepresentative sources.semanticProjection role
  replaceWord sources wordIndex sources.semanticProjection.modulus

def byteOrderEdit (index : ℕ) (sources : RawSources) : Result B4ByteOperation := do
  let role ← sealRole (index - 64)
  let selected ← mapError
    (.reported "raw seal role lacks its exact first byte-order rejection")
    (firstByteOrderCandidate sources.rawSeal sources.semanticProjection role)
  let byteOffset ← context (.reported "raw seal byte-order offset overflows usize")
    (checkedMul selected.wordIndex wordBytes)
  ensure (sources.rawSealWords[selected.wordIndex]? = some selected.originalWord ∧
    selected.reversedWord ≥ sources.semanticProjection.modulus)
    (.reported "raw seal byte-order witness differs from its authenticated semantic role")
  pure (.replace (Hex.encode selected.beforeBytes) (Hex.encode selected.replacementBytes)
    byteOffset)

def montgomeryPo2Edit (sources : RawSources) : Result B4ByteOperation := do
  let modulus := sources.semanticProjection.modulus
  let before := sources.outerPo2.toUInt32
  ensure (sources.rawSealWords[32]? = some before)
    (.reported "raw seal Montgomery-po2 base is not the manifest literal")
  let replacement ← montgomeryEncode before modulus
  ensure (replacement = 0x2fffffda ∧ replacement < modulus)
    (.reported "authenticated manifest outerPo2 Montgomery encoding drifted")
  replaceWord sources 32 replacement

def alternatePo2Edit (sources : RawSources) : Result B4ByteOperation := do
  let before := sources.outerPo2.toUInt32
  ensure (sources.rawSealWords[32]? = some before)
    (.reported "raw seal alternate-po2 base is not the manifest literal")
  let replacement ← context
    (.reported "manifest outerPo2 has no deterministic next literal")
    (if before.toNat + 1 < 2 ^ 32 then some (before + 1) else none)
  ensure (replacement < sources.semanticProjection.modulus)
    (.reported "deterministic alternate outerPo2 literal is not reduced")
  replaceWord sources 32 replacement

/-- The arms of the match on the row's index. -/
def sealEdit (index : ℕ) (sources : RawSources) : Result B4ByteOperation :=
  if 33 ≤ index ∧ index ≤ 40 then paddingEdit index sources
  else if 41 ≤ index ∧ index ≤ 56 then claimEdit index sources
  else if 57 ≤ index ∧ index ≤ 63 then modulusEdit index sources
  else if 64 ≤ index ∧ index ≤ 70 then byteOrderEdit index sources
  else if index = 71 then montgomeryPo2Edit sources
  else if index = 109 then alternatePo2Edit sources
  else .error (.reported "raw seal execution index is outside its closed row set")

structure ReplacementParts where
  start : ℕ
  before : Bytes
  replacement : Bytes
  deriving DecidableEq

def replacementParts : B4ByteOperation → Result ReplacementParts
  | .replace beforeHex replacementHex offset => do
    let before ← context (.reported "raw seal before witness is not valid hex")
      (Hex.decode beforeHex)
    let replacement ← context (.reported "raw seal replacement witness is not valid hex")
      (Hex.decode replacementHex)
    ensure (before.length = wordBytes ∧ replacement.length = wordBytes)
      (.reported "raw seal replacement is not exactly one word")
    pure ⟨offset, before, replacement⟩
  | _ => .error (.reported "raw seal recipe is not an exact replacement")

def independentReplaceSplice (base : Bytes) (edit : B4ByteOperation) : Result Bytes := do
  let parts ← replacementParts edit
  let stop ← context (.reported "raw seal replacement range overflows usize")
    (checkedAdd parts.start parts.before.length)
  ensure (getRange base parts.start stop = some parts.before)
    (.reported "raw seal replacement witness differs from the authenticated source")
  let initial ← context (.reported "raw seal replacement prefix is outside the source")
    (getRange base 0 parts.start)
  let final ← context (.reported "raw seal replacement suffix is outside the source")
    (getRange base stop base.length)
  let output := initial ++ parts.replacement ++ final
  ensure (output.length = base.length)
    (.reported "raw seal replacement changed the exact proof length")
  pure output

end Edits

section Projections

/-- Every word but the selected one is reduced. -/
def ReducedExcept (modulus : UInt32) (selected : ℕ) (words : List UInt32) : Prop :=
  ∀ entry ∈ words.zipIdx, entry.2 = selected ∨ entry.1 < modulus

instance (modulus : UInt32) (selected : ℕ) (words : List UInt32) :
    Decidable (ReducedExcept modulus selected words) :=
  inferInstanceAs (Decidable (∀ _ ∈ _, _))

/-- `is_ok_and` of the decoded word and a halfword. -/
def decodesToHalfword (modulus word : UInt32) : Bool :=
  match montgomeryDecode word modulus with
  | .ok value => value.toNat < 2 ^ 16
  | .error _ => false

def paddingProjection (index : ℕ) (modulus : UInt32) (words : List UInt32) : Result Unit := do
  let wordIndex := 1 + (index - 33) * 2
  let selected ← context (.reported "raw padding mutation word is absent") words[wordIndex]?
  ensure (selected = 1 ∧ ReducedExcept modulus wordIndex words)
    (.reported "raw padding mutation does not isolate one reduced nonzero padding word")

def claimProjection (index : ℕ) (modulus : UInt32) (words : List UInt32) : Result Unit := do
  let failure : Fault String :=
    .reported "raw claim mutation does not isolate the selected overflowing halfword"
  let wordIndex := 16 + (index - 41)
  let selected ← context (.reported "raw claim mutation word is absent") words[wordIndex]?
  let claimWords ← context (.reported "raw claim mutation lacks the exact claim span")
    (if 32 ≤ words.length then some ((words.drop 16).take 16) else none)
  ensure (∀ word ∈ words, word < modulus) failure
  let value ← montgomeryDecode selected modulus
  ensure (value = 65536) failure
  ensure (∀ entry ∈ claimWords.zipIdx,
    16 + entry.2 = wordIndex ∨ decodesToHalfword modulus entry.1) failure

def fieldProjection (index : ℕ) (sources : RawSources) (words : List UInt32) : Result Unit := do
  let modulus := sources.semanticProjection.modulus
  let edit ← sealEdit index sources
  let parts ← replacementParts edit
  let wordIndex := parts.start / wordBytes
  let selected ← context (.reported "raw field mutation word is absent") words[wordIndex]?
  ensure (selected ≥ modulus ∧ ReducedExcept modulus wordIndex words)
    (.reported "raw field mutation does not isolate one non-reduced word")

def montgomeryPo2Projection (sources : RawSources) (words : List UInt32) : Result Unit := do
  let failure : Fault String :=
    .reported "raw Montgomery-po2 mutation does not isolate the literal preflight mismatch"
  let modulus := sources.semanticProjection.modulus
  let selected ← context (.reported "raw Montgomery-po2 mutation word is absent") words[32]?
  ensure (∀ word ∈ words, word < modulus) failure
  let encoded ← montgomeryEncode sources.outerPo2.toUInt32 modulus
  ensure (selected = encoded ∧ selected ≠ sources.outerPo2.toUInt32) failure

def alternatePo2Projection (sources : RawSources) (words : List UInt32) : Result Unit := do
  let modulus := sources.semanticProjection.modulus
  let selected ← context (.reported "raw alternate-po2 mutation word is absent") words[32]?
  ensure ((∀ word ∈ words, word < modulus) ∧ selected = sources.outerPo2.toUInt32 + 1)
    (.reported "raw alternate-po2 mutation does not isolate the literal preflight mismatch")

/-- The arms of the match on the row's index. -/
def validateSealRejectionProjection (index : ℕ) (sources : RawSources) (mutated : Bytes) :
    Result Unit := do
  let words ← report (decodeSealWords mutated)
  let modulus := sources.semanticProjection.modulus
  if 33 ≤ index ∧ index ≤ 40 then paddingProjection index modulus words
  else if 41 ≤ index ∧ index ≤ 56 then claimProjection index modulus words
  else if 57 ≤ index ∧ index ≤ 70 then fieldProjection index sources words
  else if index = 71 then montgomeryPo2Projection sources words
  else if index = 109 then alternatePo2Projection sources words
  else .error (.reported "raw seal rejection projection received an unsupported row")

end Projections

end Producer

end Eip0045.RawSeal
