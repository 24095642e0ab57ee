import Eip0045.Constants
import Eip0045.Library.Reader

/-! Strict codec of the binary Manifest V1 envelope. -/

namespace Eip0045.Manifest

open Bytes Checked Constants Reading

structure TerminalControl where
  kind : UInt8
  parameter : UInt8
  controlId : Digest
  deriving DecidableEq

structure ProfileArtifactReference where
  kind : UInt16
  length : UInt32
  digest : Digest
  deriving DecidableEq

inductive InitialProfileTargetField
  | exactProofBytes
  | maxApplicationPayloadBytes
  | outerPo2
  | innerControlRoot
  deriving DecidableEq

inductive ProfileManifestError
  | invalidLength (actual expected : ℕ)
  | unsupportedVersion (version : UInt8)
  | zeroProofLength
  | unsupportedControlKind (index : ℕ) (actual : UInt8)
  | invalidControlParameter (index : ℕ) (kind actual : UInt8)
  | controlOrder (index : ℕ)
  | duplicateControlId (index : ℕ)
  | artifactKind (index : ℕ) (actual expected : UInt16)
  | emptyArtifact (index : ℕ)
  | internalLayout
  | invalidFrozenDigest
  | initialTargetMismatch (field : InitialProfileTargetField)
  | initialControlMismatch (index : ℕ)
  deriving DecidableEq

/-- The arguments of `StarkProfileManifestV1::new`. -/
@[ext] structure Fields where
  exactProofBytes : UInt32
  maxApplicationPayloadBytes : UInt32
  outerPo2 : UInt8
  innerControlRoot : Digest
  terminalControls : List.Vector TerminalControl manifestControlCount
  algorithmArtifact : ProfileArtifactReference
  binaryDataArtifact : ProfileArtifactReference
  deriving DecidableEq

@[ext] structure StarkProfileManifestV1 extends Fields where
  rawBytes : ByteArr manifestBytes
  deriving DecidableEq

def TerminalControl.bytes (c : TerminalControl) : Bytes :=
  [c.kind] ++ [c.parameter] ++ c.controlId.val

def appendArtifactReference (r : ProfileArtifactReference) : Bytes :=
  le16 r.kind ++ le32 r.length ++ r.digest.val

/-- Rust's `<=` on the pairs `(kind, parameter)`. -/
def TerminalControl.KeyLe (a b : TerminalControl) : Prop :=
  a.kind < b.kind ∨ a.kind = b.kind ∧ a.parameter ≤ b.parameter

instance (a b : TerminalControl) : Decidable (a.KeyLe b) := inferInstanceAs (Decidable (_ ∨ _))

section Validation

def validateControlKind (index : ℕ) (control : TerminalControl) :
    Except ProfileManifestError Unit :=
  if control.kind = terminalControlKindLift then .ok ()
  else if control.kind = terminalControlKindJoin ∨ control.kind = terminalControlKindResolve then
    ensure (control.parameter = 0)
      (.invalidControlParameter index control.kind control.parameter)
  else .error (.unsupportedControlKind index control.kind)

def previous (index : Fin manifestControlCount) : Fin manifestControlCount :=
  ⟨index.val - 1, by omega⟩

def validateControl (controls : List.Vector TerminalControl manifestControlCount)
    (index : Fin manifestControlCount) : Except ProfileManifestError Unit := do
  let control := controls.get index
  validateControlKind index control
  ensure (¬(index.val ≠ 0 ∧ control.KeyLe (controls.get (previous index))))
    (.controlOrder index)
  ensure (¬∃ earlier ∈ controls.toList.take index, earlier.controlId = control.controlId)
    (.duplicateControlId index)

def validateArtifactReferenceShape (reference : ProfileArtifactReference) (expectedKind : UInt16)
    (index : ℕ) : Except ProfileManifestError Unit := do
  ensure (reference.kind = expectedKind) (.artifactKind index reference.kind expectedKind)
  ensure (reference.length ≠ 0) (.emptyArtifact index)

def validateV1Grammar (m : Fields) : Except ProfileManifestError Unit := do
  ensure (m.exactProofBytes ≠ 0) .zeroProofLength
  (List.finRange manifestControlCount).forM (validateControl m.terminalControls)
  validateArtifactReferenceShape m.algorithmArtifact algorithmArtifactKind 0
  validateArtifactReferenceShape m.binaryDataArtifact binaryDataArtifactKind 1

end Validation

def fieldBytes (m : Fields) : Bytes :=
  [manifestFormatVersion] ++ le32 m.exactProofBytes ++ le32 m.maxApplicationPayloadBytes ++
    [m.outerPo2] ++ m.innerControlRoot.val ++
    m.terminalControls.toList.flatMap TerminalControl.bytes ++
    appendArtifactReference m.algorithmArtifact ++ appendArtifactReference m.binaryDataArtifact

def encodeFields (m : Fields) : Except ProfileManifestError (ByteArr manifestBytes) :=
  context .internalLayout (ByteArr.ofBytes manifestBytes (fieldBytes m))

def new (f : Fields) : Except ProfileManifestError StarkProfileManifestV1 := do
  validateV1Grammar f
  let rawBytes ← encodeFields f
  pure { f with rawBytes }

def encode (m : StarkProfileManifestV1) : Except ProfileManifestError (ByteArr manifestBytes) := do
  validateV1Grammar m.toFields
  let bytes ← encodeFields m.toFields
  ensure (bytes = m.rawBytes) .internalLayout
  pure m.rawBytes

section Cursor

def takeU8 : Reader ProfileManifestError UInt8 := u8 .internalLayout fun _ => .internalLayout
def takeU16Le : Reader ProfileManifestError UInt16 := u16 .internalLayout fun _ => .internalLayout
def takeU32Le : Reader ProfileManifestError UInt32 := u32 .internalLayout fun _ => .internalLayout
def takeDigest : Reader ProfileManifestError Digest :=
  takeArray .internalLayout (fun _ => .internalLayout) digestBytes

def takeTerminalControl : Reader ProfileManifestError TerminalControl := do
  let kind ← takeU8
  let parameter ← takeU8
  let controlId ← takeDigest
  pure { kind, parameter, controlId }

def takeArtifactReference : Reader ProfileManifestError ProfileArtifactReference := do
  let kind ← takeU16Le
  let length ← takeU32Le
  let digest ← takeDigest
  pure { kind, length, digest }

/-- The conversion of a vector of controls into a fixed-size table. -/
def controlTable (controls : List TerminalControl) :
    Reader ProfileManifestError (List.Vector TerminalControl manifestControlCount) := fun c =>
  if h : controls.length = manifestControlCount then .ok (⟨controls, h⟩, c)
  else .error .internalLayout

def takeFields : Reader ProfileManifestError Fields := do
  let version ← takeU8
  require (version = manifestFormatVersion) (.unsupportedVersion version)
  let exactProofBytes ← takeU32Le
  let maxApplicationPayloadBytes ← takeU32Le
  let outerPo2 ← takeU8
  let innerControlRoot ← takeDigest
  let controls ← times takeTerminalControl manifestControlCount
  let terminalControls ← controlTable controls
  let algorithmArtifact ← takeArtifactReference
  let binaryDataArtifact ← takeArtifactReference
  pure {
    exactProofBytes, maxApplicationPayloadBytes, outerPo2, innerControlRoot, terminalControls
    algorithmArtifact, binaryDataArtifact }

end Cursor

def decode (bytes : Bytes) : Except ProfileManifestError StarkProfileManifestV1 :=
  if h : bytes.length = manifestBytes then do
    let (f, cursor) ← takeFields (Cursor.new bytes (by rw [h]; decide))
    ensure (cursor.position = manifestBytes) .internalLayout
    let manifest ← new f
    let rawBytes ← context .internalLayout (ByteArr.ofBytes manifestBytes bytes)
    ensure (manifest.rawBytes = rawBytes) .internalLayout
    pure manifest
  else .error (.invalidLength bytes.length manifestBytes)

end Eip0045.Manifest
