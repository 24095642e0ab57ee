import Mathlib
import Eip0045.Framing.SequenceValidity
import Eip0045.Mutation.ByteEdits

/-! Authenticated edits of sequence subjects: their checks and their replay. -/

namespace Eip0045.Mutation

open Bytes Checked SequenceSubject

section Operations

inductive B4BoundaryShiftDirection
  | leftToRight
  | rightToLeft
  deriving DecidableEq

inductive B4SequenceOperation
  | empty
  | insert (insertedElement : B4SequenceSubjectElement) (index : ℕ)
  | move (beforeElementId beforeElementSha256 : Bytes) (fromIndex toIndex : ℕ)
  | omit (beforeElementId beforeElementSha256 : Bytes) (index : ℕ)
  | replace (beforeElementId beforeElementSha256 : Bytes) (index : ℕ)
      (replacementElement : B4SequenceSubjectElement)
  | shiftBoundary (byteCount : ℕ) (direction : B4BoundaryShiftDirection) (leftChunkIndex : ℕ)
  deriving DecidableEq

def validateSemanticId (value : Bytes) (label : String) : Except String Unit :=
  ensure (value ≠ [] ∧ value.length ≤ 128 ∧
      (∀ byte ∈ value, 97 ≤ byte ∧ byte ≤ 122 ∨ 48 ≤ byte ∧ byte ≤ 57 ∨ byte = 45) ∧
      value.head? ≠ some 45 ∧ value.getLast? ≠ some 45 ∧ ¬[45, 45] <:+: value)
    s!"{label} is not a bounded lower-kebab identifier"

def validateSha256 (value : Bytes) (label : String) : Except String Unit :=
  ensure (value.length = 64 ∧ ∀ byte ∈ value, Hex.IsLower byte)
    s!"{label} is not exactly 32 lowercase hexadecimal bytes"

-- SHA-256, and what strict parsing has against a source that is not its own canonical form.
variable (sha256 : Bytes → Digest) (validateCanonicalJsonSource : Bytes → Except String Unit)

/-- The identifier and the digest that name an element before its edit. -/
def validateWitness (elementId elementSha256 : Bytes) (action : String) : Except String Unit := do
  validateSemanticId elementId s!"{action} sequence element ID"
  validateSha256 elementSha256 s!"{action} sequence element SHA-256"

def validateSequenceOperation (target : B4SequenceTarget) : B4SequenceOperation → Except String Unit
  | .empty => ensure (target = .proofChunks) "empty sequence mutation is admitted only for proof chunks"
  | .insert insertedElement index => do
    validateJcsSafeInteger index "sequence insertion index"
    insertedElement.validateFor sha256 validateCanonicalJsonSource target
  | .move beforeElementId beforeElementSha256 fromIndex toIndex => do
    validateWitness beforeElementId beforeElementSha256 "moved"
    validateJcsSafeInteger fromIndex "sequence move source index"
    validateJcsSafeInteger toIndex "sequence move destination index"
    ensure (fromIndex ≠ toIndex) "sequence move is a no-op"
  | .omit beforeElementId beforeElementSha256 index => do
    validateWitness beforeElementId beforeElementSha256 "omitted"
    validateJcsSafeInteger index "sequence omission index"
  | .replace beforeElementId beforeElementSha256 index replacementElement => do
    validateWitness beforeElementId beforeElementSha256 "replaced"
    validateJcsSafeInteger index "sequence replacement index"
    replacementElement.validateFor sha256 validateCanonicalJsonSource target
    ensure (beforeElementId ≠ replacementElement.elementId ∨
      beforeElementSha256 ≠ replacementElement.sha256) "sequence replacement is a no-op"
  | .shiftBoundary byteCount _ leftChunkIndex => do
    ensure (target = .proofChunks) "boundary shift is admitted only for proof chunks"
    validateJcsSafeInteger byteCount "proof-chunk boundary byte count"
    validateJcsSafeInteger leftChunkIndex "proof-chunk boundary index"
    ensure (0 < byteCount) "boundary shift moves zero bytes"
    let rightChunkIndex ← context "proof-chunk boundary index has no right neighbor"
      (checkedAdd leftChunkIndex 1)
    validateJcsSafeInteger rightChunkIndex "proof-chunk right-neighbor index"

end Operations

section Replay

-- SHA-256, and what strict parsing has against a source that is not its own canonical form.
variable (sha256 : Bytes → Digest) (validateCanonicalJsonSource : Bytes → Except String Unit)

def authenticateElement (element : B4SequenceSubjectElement) (expectedId expectedSha256 : Bytes)
    (action : String) : Except String Unit := do
  ensure (element.elementId = expectedId)
    s!"{action} sequence element ID witness differs from the base"
  ensure (element.sha256 = expectedSha256)
    s!"{action} sequence element digest witness differs from the base"
  let _ ← element.decodedBytes sha256
  pure ()

/-- The element that an index names, authenticated by its witness. -/
def witnessedElement (elements : List B4SequenceSubjectElement) (index : ℕ)
    (expectedId expectedSha256 : Bytes) (action : String) : Except String B4SequenceSubjectElement := do
  let index ← checkedIndex index s!"{action} sequence index"
  let element ← context s!"{action} sequence element is absent" elements[index]?
  authenticateElement sha256 element expectedId expectedSha256 action
  pure element

def appendPayload (output : Bytes) (element : B4SequenceSubjectElement) : Except String Bytes := do
  let bytes ← element.decodedBytes sha256
  let _ ← context "concatenated sequence payload length overflows usize"
    (checkedAdd output.length bytes.length)
  pure (output ++ bytes)

def concatenatedPayload (elements : List B4SequenceSubjectElement) : Except String Bytes :=
  elements.foldlM (appendPayload sha256) []

def decodedElementPayloads (elements : List B4SequenceSubjectElement) : Except String (List Bytes) :=
  elements.mapM (B4SequenceSubjectElement.decodedBytes sha256)

def B4SequenceSubjectElement.withBytes (element : B4SequenceSubjectElement)
    (target : B4SequenceTarget) (bytes : Bytes) : Except String B4SequenceSubjectElement := do
  let replacement ← SequenceSubject.B4SequenceSubjectElement.fromBytes sha256 element.elementId bytes
  replacement.validateFor sha256 validateCanonicalJsonSource target
  pure replacement

/-- The two chunks beside a boundary after `count` bytes crossed it. -/
def shiftedChunks (left right : Bytes) (count : ℕ) :
    B4BoundaryShiftDirection → Except String (Bytes × Bytes)
  | .leftToRight => do
    ensure (count < left.length) "left-to-right shift must leave the left donor nonempty"
    pure (left.take (left.length - count), left.drop (left.length - count) ++ right)
  | .rightToLeft => do
    ensure (count < right.length) "right-to-left shift must leave the right donor nonempty"
    pure (left ++ right.take count, right.drop count)

def shiftBoundary (subject : Eip0045B4SequenceSubjectV1) (leftChunkIndex byteCount : ℕ)
    (direction : B4BoundaryShiftDirection) : Except String Eip0045B4SequenceSubjectV1 := do
  ensure (subject.target = .proofChunks) "boundary shift requires a proof-chunk subject"
  let leftIndex ← checkedIndex leftChunkIndex "proof-chunk left boundary index"
  let rightIndex ← context "proof-chunk boundary index overflows usize" (checkedAdd leftIndex 1)
  let rightElement ← context "proof-chunk boundary has no right neighbor" subject.elements[rightIndex]?
  let leftElement ← context "proof-chunk boundary has no left chunk" subject.elements[leftIndex]?
  let count ← checkedIndex byteCount "proof-chunk boundary byte count"
  let originalConcat ← concatenatedPayload sha256 subject.elements
  let left ← leftElement.decodedBytes sha256
  let right ← rightElement.decodedBytes sha256
  let shifted ← shiftedChunks left right count direction
  let newLeft ← B4SequenceSubjectElement.withBytes sha256 validateCanonicalJsonSource leftElement
    .proofChunks shifted.1
  let newRight ← B4SequenceSubjectElement.withBytes sha256 validateCanonicalJsonSource rightElement
    .proofChunks shifted.2
  let elements := (subject.elements.set leftIndex newLeft).set rightIndex newRight
  ensure (elements.length = subject.elements.length) "boundary shift changed the proof-chunk count"
  let concat ← concatenatedPayload sha256 elements
  ensure (concat = originalConcat) "boundary shift changed concatenated proof bytes"
  pure { subject with elements }

def applySequenceOperation (subject : Eip0045B4SequenceSubjectV1) (target : B4SequenceTarget) :
    B4SequenceOperation → Except String Eip0045B4SequenceSubjectV1
  | .empty => do
    ensure (subject.elements ≠ []) "empty sequence operation has an already-empty base"
    pure { subject with elements := [] }
  | .insert insertedElement index => do
    let index ← checkedIndex index "sequence insertion index"
    ensure (index ≤ subject.elements.length) "sequence insertion index exceeds the base"
    insertedElement.validateFor sha256 validateCanonicalJsonSource target
    pure { subject with elements := subject.elements.insertIdx index insertedElement }
  | .move beforeElementId beforeElementSha256 fromIndex toIndex => do
    let element ← witnessedElement sha256 subject.elements fromIndex beforeElementId
      beforeElementSha256 "moved"
    let shortened := subject.elements.eraseIdx fromIndex
    let toIndex ← checkedIndex toIndex "sequence move final index"
    ensure (toIndex ≤ shortened.length) "sequence move final index exceeds the shortened sequence"
    pure { subject with elements := shortened.insertIdx toIndex element }
  | .omit beforeElementId beforeElementSha256 index => do
    let _ ← witnessedElement sha256 subject.elements index beforeElementId beforeElementSha256 "omitted"
    pure { subject with elements := subject.elements.eraseIdx index }
  | .replace beforeElementId beforeElementSha256 index replacementElement => do
    let _ ← witnessedElement sha256 subject.elements index beforeElementId beforeElementSha256 "replaced"
    replacementElement.validateFor sha256 validateCanonicalJsonSource target
    pure { subject with elements := subject.elements.set index replacementElement }
  | .shiftBoundary byteCount direction leftChunkIndex =>
    shiftBoundary sha256 validateCanonicalJsonSource subject leftChunkIndex byteCount direction

end Replay

section Sources

variable (sha256 : Bytes → Digest) (validateCanonicalJsonSource : Bytes → Except String Unit)

/-- A strict parser of subjects, which reads what is printed. Nothing is known of it on other sources. -/
structure SubjectParser where
  parse : Bytes → Except String Eip0045B4SequenceSubjectV1
  reads : ∀ subject, subject.validate sha256 validateCanonicalJsonSource = .ok () →
    parse subject.toCanonicalJson = .ok subject

open Classical in
/-- There is such a parser, as no two valid subjects have one text. -/
theorem subjectParser_nonempty : Nonempty (SubjectParser sha256 validateCanonicalJsonSource) := by
  refine ⟨⟨fun source =>
    if h : ∃ subject, Valid sha256 validateCanonicalJsonSource subject ∧ subject.toCanonicalJson = source
    then .ok h.choose else .error "B4 sequence subject is malformed", ?_⟩⟩
  intro subject hvalid
  have hvalid := validate_ok.mp hvalid
  have h : ∃ other, Valid sha256 validateCanonicalJsonSource other ∧
      other.toCanonicalJson = subject.toCanonicalJson := ⟨subject, hvalid, rfl⟩
  rw [dif_pos h, subject_unique h.choose_spec.1 hvalid h.choose_spec.2]

variable (parser : SubjectParser sha256 validateCanonicalJsonSource)

def fromCanonicalJcs (source : Bytes) : Except String Eip0045B4SequenceSubjectV1 := do
  ensure (source.length ≤ maxSequenceSubjectBytes)
    "B4 sequence subject exceeds the canonical-byte bound"
  let subject ← parser.parse source
  subject.validate sha256 validateCanonicalJsonSource
  let printed ← subject.toCanonicalJcs sha256 validateCanonicalJsonSource
  ensure (printed = source) "B4 sequence subject does not round-trip byte-exactly"
  pure subject

def reconstructSequenceEdit (base : Bytes) (target : B4SequenceTarget)
    (operation : B4SequenceOperation) : Except String Bytes := do
  validateSequenceOperation sha256 validateCanonicalJsonSource target operation
  let subject ← fromCanonicalJcs sha256 validateCanonicalJsonSource parser base
  ensure (subject.target = target)
    "sequence mutation target differs from the detached base subject"
  let baseConsumerElements ← decodedElementPayloads sha256 subject.elements
  let edited ← applySequenceOperation sha256 validateCanonicalJsonSource subject target operation
  edited.validate sha256 validateCanonicalJsonSource
  let outputConsumerElements ← decodedElementPayloads sha256 edited.elements
  ensure (outputConsumerElements ≠ baseConsumerElements)
    "sequence mutation changes only detached metadata, not consumer-visible elements"
  let output ← edited.toCanonicalJcs sha256 validateCanonicalJsonSource
  ensure (output ≠ base) "sequence mutation reconstructed a no-op"
  pure output

end Sources

end Eip0045.Mutation
