import Eip0045.Constants
import Eip0045.Library.Checked

/-! The envelope of composite negative subjects, decoded against a handler's contract. -/

namespace Eip0045.SubjectEnvelope

open Bytes Checked Constants

def magic : Bytes := utf8 "EIP45B4S"
def version : UInt8 := 1
def headerBytes : ℕ := 12
def partLengthBytes : ℕ := 4
def maxParts : ℕ := 64
def maxEncodedBytes : ℕ := 536870912

inductive Kind
  | opcodeInputs
  | profilePackage
  | ancestryBundle
  | terminalCatalogBundle
  | sequenceCatalogBundle
  | terminalMetadataBundle
  | profileIdPreimageBundle
  | candidateRegistryBundle
  | negativeBindingIndexBundle
  deriving DecidableEq

def Kind.fromByte (value : UInt8) : Option Kind :=
  if value = 0x01 then some .opcodeInputs
  else if value = 0x02 then some .profilePackage
  else if value = 0x03 then some .ancestryBundle
  else if value = 0x10 then some .terminalCatalogBundle
  else if value = 0x11 then some .sequenceCatalogBundle
  else if value = 0x12 then some .terminalMetadataBundle
  else if value = 0x13 then some .profileIdPreimageBundle
  else if value = 0x14 then some .candidateRegistryBundle
  else if value = 0x15 then some .negativeBindingIndexBundle
  else none

structure PartBounds where
  minimum : ℕ
  maximum : ℕ
  deriving DecidableEq

structure Contract where
  kind : Kind
  partBounds : List PartBounds
  deriving DecidableEq

inductive EnvelopeError
  | invalidContract
  | subjectTooLarge
  | truncatedHeader
  | magicMismatch
  | unsupportedVersion (version : UInt8)
  | unsupportedKind (kind : UInt8)
  | unexpectedKind (actual expected : Kind)
  | partCountMismatch (actual expected : ℕ)
  | truncatedPartLength (index : ℕ)
  | partLengthOutOfBounds (index actual minimum maximum : ℕ)
  | lengthArithmeticOverflow (index : ℕ)
  | truncatedPart (index : ℕ)
  | trailingBytes
  deriving DecidableEq

abbrev Result (α : Type) := Except (Fault EnvelopeError) α

/-- The largest encoding that the bounds from `total` on let through. -/
def maximumEncoded : ℕ → List PartBounds → Result ℕ
  | total, [] => pure total
  | total, bounds :: rest => do
    ensure (¬(bounds.minimum > bounds.maximum ∨ bounds.maximum > 2 ^ 32 - 1))
      (.reported .invalidContract)
    let total ← context (.reported .invalidContract)
      ((checkedAdd total partLengthBytes).bind fun length => checkedAdd length bounds.maximum)
    maximumEncoded total rest

def validateContract (contract : Contract) : Result ℕ := do
  ensure (¬contract.partBounds.length > maxParts) (.reported .invalidContract)
  let maximumEncodedBytes ← maximumEncoded headerBytes contract.partBounds
  ensure (¬maximumEncodedBytes > maxEncodedBytes) (.reported .invalidContract)
  pure maximumEncodedBytes

/-- The loop over the parts from a cursor on, with the cursor where it ends. -/
def decodeParts (source : Bytes) : ℕ → ℕ → List PartBounds → Result (List Bytes × ℕ)
  | _, cursor, [] => pure ([], cursor)
  | index, cursor, bounds :: rest => do
    let lengthEnd ← context (.reported (.lengthArithmeticOverflow index))
      (checkedAdd cursor partLengthBytes)
    let lengthBytes ← context (.reported (.truncatedPartLength index))
      (getRange source cursor lengthEnd)
    let lengthArray ← context (.reported (.truncatedPartLength index))
      (ByteArr.ofBytes 4 lengthBytes)
    let length := (ofLe32 lengthArray.val).toNat
    ensure (bounds.minimum ≤ length ∧ length ≤ bounds.maximum)
      (.reported (.partLengthOutOfBounds index length bounds.minimum bounds.maximum))
    let partEnd ← context (.reported (.lengthArithmeticOverflow index))
      (checkedAdd lengthEnd length)
    let part ← context (.reported (.truncatedPart index)) (getRange source lengthEnd partEnd)
    let (parts, stop) ← decodeParts source (index + 1) partEnd rest
    pure (part :: parts, stop)

def decodeSubjectEnvelope (source : Bytes) (contract : Contract) : Result (List Bytes) := do
  let maximumEncodedBytes ← validateContract contract
  ensure (¬source.length > maximumEncodedBytes) (.reported .subjectTooLarge)
  ensure (¬source.length < headerBytes) (.reported .truncatedHeader)
  let head ← context .outOfRange (getRange source 0 magic.length)
  ensure (head = magic) (.reported .magicMismatch)
  let actualVersion ← item source magic.length
  ensure (actualVersion = version) (.reported (.unsupportedVersion actualVersion))
  let kindByte ← item source (magic.length + 1)
  let actualKind ← context (.reported (.unsupportedKind kindByte)) (Kind.fromByte kindByte)
  ensure (actualKind = contract.kind) (.reported (.unexpectedKind actualKind contract.kind))
  let low ← item source (magic.length + 2)
  let high ← item source (magic.length + 2 + 1)
  let partCount := (ofLe16 [low, high]).toNat
  ensure (partCount = contract.partBounds.length)
    (.reported (.partCountMismatch partCount contract.partBounds.length))
  let (parts, cursor) ← decodeParts source 0 headerBytes contract.partBounds
  ensure (cursor = source.length) (.reported .trailingBytes)
  pure parts

end Eip0045.SubjectEnvelope
