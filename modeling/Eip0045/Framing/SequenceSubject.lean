import Eip0045.Constants
import Eip0045.Library.Checked
import Eip0045.Library.Hex

/-! Detached sequence subjects and their canonical JSON bytes. -/

namespace Eip0045.SequenceSubject

open Bytes Checked Constants

def b4SequenceSubjectFormat : Bytes := utf8 "Eip0045B4SequenceSubjectV1"
def maxSequenceSubjectBytes : ℕ := 8 * 1024 * 1024
def maxSequenceElementBytes : ℕ := 1024 * 1024
def maxSequencePayloadBytes : ℕ := 3 * 1024 * 1024
def maxSequenceElements : ℕ := 4096
def maxElementIdBytes : ℕ := 128

inductive B4SequenceTarget
  | abstractTreeProbe
  | registryPositiveCases
  | registryNegativeCases
  | registryNegativeClasses
  | registryNegativeBindings
  | profilePackageFiles
  | proofChunks
  deriving DecidableEq

def B4SequenceTarget.kind : B4SequenceTarget → Bytes
  | .abstractTreeProbe => utf8 "abstract-tree-probe"
  | .registryPositiveCases => utf8 "registry-positive-cases"
  | .registryNegativeCases => utf8 "registry-negative-cases"
  | .registryNegativeClasses => utf8 "registry-negative-classes"
  | .registryNegativeBindings => utf8 "registry-negative-bindings"
  | .profilePackageFiles => utf8 "profile-package-files"
  | .proofChunks => utf8 "proof-chunks"

structure B4SequenceSubjectElement where
  elementId : Bytes
  bytesHex : Bytes
  sha256 : Bytes
  deriving DecidableEq

structure Eip0045B4SequenceSubjectV1 where
  format : Bytes
  target : B4SequenceTarget
  elements : List B4SequenceSubjectElement
  deriving DecidableEq

section Validation

def validateElementId (value : Bytes) : Except String Unit := do
  ensure (value ≠ [] ∧ value.length ≤ maxElementIdBytes) "sequence element ID is empty or too long"
  ensure (∀ byte ∈ value, 97 ≤ byte ∧ byte ≤ 122 ∨ 48 ≤ byte ∧ byte ≤ 57 ∨ byte = 45)
    "sequence element ID is not lower-kebab ASCII"
  ensure (value.head? ≠ some 45 ∧ value.getLast? ≠ some 45 ∧ ¬[45, 45] <:+: value)
    "sequence element ID is not canonical lower-kebab ASCII"

def validateDigest (value : Bytes) (label : String) : Except String Unit :=
  ensure (¬(value.length ≠ 64 ∨ ¬∀ byte ∈ value, Hex.IsLower byte))
    s!"{label} is not exactly 32 lowercase hexadecimal bytes"

def B4SequenceSubjectElement.validateCommon (element : B4SequenceSubjectElement) :
    Except String Unit := do
  validateElementId element.elementId
  ensure (element.bytesHex.length % 2 = 0 ∧ element.bytesHex.length ≤ maxSequenceElementBytes * 2 ∧
    ∀ byte ∈ element.bytesHex, Hex.IsLower byte)
    "sequence element bytesHex is not bounded lowercase hexadecimal"
  validateDigest element.sha256 "sequence element SHA-256"

-- SHA-256, and what strict parsing has against a source that is not its own canonical form.
variable (sha256 : Bytes → Digest) (validateCanonicalJsonSource : Bytes → Except String Unit)

def sha256Hex (bytes : Bytes) : Bytes := Hex.encode (sha256 bytes).val

def B4SequenceSubjectElement.decodedBytes (element : B4SequenceSubjectElement) :
    Except String Bytes := do
  element.validateCommon
  let bytes ← context "cannot decode sequence element bytes" (Hex.decode element.bytesHex)
  ensure (sha256Hex sha256 bytes = element.sha256)
    "sequence element SHA-256 does not authenticate bytesHex"
  pure bytes

def B4SequenceSubjectElement.validateFor (element : B4SequenceSubjectElement)
    (target : B4SequenceTarget) : Except String Unit := do
  let bytes ← element.decodedBytes sha256
  if target ≠ .proofChunks then
    mapError "registry/profile sequence element is not exact RFC 8785 JCS"
      (validateCanonicalJsonSource bytes)
  else pure ()

def B4SequenceSubjectElement.fromBytes (elementId bytes : Bytes) :
    Except String B4SequenceSubjectElement := do
  let element : B4SequenceSubjectElement :=
    { elementId, bytesHex := Hex.encode bytes, sha256 := sha256Hex sha256 bytes }
  element.validateCommon
  pure element

/-- The loop over the elements, with the identifiers seen and the payload bytes so far. -/
def validateElements (target : B4SequenceTarget) :
    ℕ → List Bytes → ℕ → List B4SequenceSubjectElement → Except String Unit
  | _, _, _, [] => pure ()
  | index, ids, payloadBytes, element :: rest => do
    mapError s!"invalid sequence element at index {index}"
      (element.validateFor sha256 validateCanonicalJsonSource target)
    ensure (element.elementId ∉ ids) s!"duplicate sequence element ID at index {index}"
    let payloadBytes ← context "B4 sequence payload byte count overflows usize"
      (checkedAdd payloadBytes (element.bytesHex.length / 2))
    ensure (payloadBytes ≤ maxSequencePayloadBytes)
      "B4 sequence payload exceeds the decoded-byte bound"
    validateElements target (index + 1) (element.elementId :: ids) payloadBytes rest

def Eip0045B4SequenceSubjectV1.validate (subject : Eip0045B4SequenceSubjectV1) :
    Except String Unit := do
  ensure (subject.format = b4SequenceSubjectFormat) "wrong B4 sequence-subject format label"
  ensure (subject.elements.length ≤ maxSequenceElements) "B4 sequence subject has too many elements"
  validateElements sha256 validateCanonicalJsonSource subject.target 0 [] 0 subject.elements

def Eip0045B4SequenceSubjectV1.new (target : B4SequenceTarget)
    (elements : List B4SequenceSubjectElement) : Except String Eip0045B4SequenceSubjectV1 := do
  let subject : Eip0045B4SequenceSubjectV1 := { format := b4SequenceSubjectFormat, target, elements }
  subject.validate sha256 validateCanonicalJsonSource
  pure subject

end Validation

section CanonicalJson

/-- A string without characters that JSON escapes. -/
def quoted (text : Bytes) : Bytes := [34] ++ text ++ [34]

def member (name value : Bytes) : Bytes := quoted name ++ [58] ++ value

def object (members : List Bytes) : Bytes := [123] ++ List.intercalate [44] members ++ [125]

def B4SequenceSubjectElement.toCanonicalJson (element : B4SequenceSubjectElement) : Bytes :=
  object [member (utf8 "bytesHex") (quoted element.bytesHex),
    member (utf8 "elementId") (quoted element.elementId),
    member (utf8 "sha256") (quoted element.sha256)]

def Eip0045B4SequenceSubjectV1.toCanonicalJson (subject : Eip0045B4SequenceSubjectV1) : Bytes :=
  object [
    member (utf8 "elements")
      ([91] ++ List.intercalate [44] (subject.elements.map (·.toCanonicalJson)) ++ [93]),
    member (utf8 "format") (quoted subject.format),
    member (utf8 "target") (object [member (utf8 "targetKind") (quoted subject.target.kind)])]

/-- Of a validated subject no text has a character that its JSON would escape. -/
def Eip0045B4SequenceSubjectV1.toCanonicalJcs (sha256 : Bytes → Digest)
    (validateCanonicalJsonSource : Bytes → Except String Unit)
    (subject : Eip0045B4SequenceSubjectV1) : Except String Bytes := do
  subject.validate sha256 validateCanonicalJsonSource
  let bytes := subject.toCanonicalJson
  ensure (bytes.length ≤ maxSequenceSubjectBytes)
    "B4 sequence subject exceeds the canonical-byte bound"
  pure bytes

end CanonicalJson

end Eip0045.SequenceSubject
