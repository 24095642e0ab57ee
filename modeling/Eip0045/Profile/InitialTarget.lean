import Eip0045.Library.Hex
import Eip0045.Profile.Manifest
import Eip0045.Statement.ErgoStatement

/-! The frozen target of the initial profile and the profile ID of a manifest. -/

namespace Eip0045.Manifest

open Bytes Checked Constants

def InitialProfileTargetField.display : InitialProfileTargetField → String
  | exactProofBytes => "exactProofBytes"
  | maxApplicationPayloadBytes => "maxApplicationPayloadBytes"
  | outerPo2 => "outerPo2"
  | innerControlRoot => "innerControlRoot"

def ProfileManifestError.display : ProfileManifestError → String
  | invalidLength actual expected => s!"profile manifest has {actual} bytes, expected {expected}"
  | unsupportedVersion version =>
    s!"unsupported profile manifest version 0x{text (Hex.encode [version])}"
  | zeroProofLength => "profile proof length is zero"
  | unsupportedControlKind index actual =>
    s!"unsupported terminal-control kind {actual} at index {index}"
  | invalidControlParameter index kind actual =>
    s!"terminal-control kind {kind} has parameter {actual} at index {index}"
  | controlOrder index => s!"profile terminal controls are not ordered at index {index}"
  | duplicateControlId index => s!"duplicate profile control ID at index {index}"
  | artifactKind index actual expected =>
    s!"artifact reference {index} has kind {actual}, expected {expected}"
  | emptyArtifact index => s!"artifact reference {index} has zero length"
  | internalLayout => "internal Manifest V1 layout mismatch"
  | invalidFrozenDigest => "invalid frozen profile digest"
  | initialTargetMismatch field => s!"initial profile target mismatch: {field.display}"
  | initialControlMismatch index => s!"initial profile control mismatch at index {index}"

def decodeFrozenDigest (value : Bytes) : Except ProfileManifestError Digest :=
  context .invalidFrozenDigest (Hex.decodeToSlice digestBytes value)

def validateInitialControl (m : StarkProfileManifestV1) (index : ℕ) (kind parameter : UInt8)
    (controlIdHex : Bytes) : Except (Fault ProfileManifestError) Unit := do
  let control ← item m.terminalControls.toList index
  ensure (control.kind = kind ∧ control.parameter = parameter)
    (.reported (.initialControlMismatch index))
  let controlId ← report (decodeFrozenDigest controlIdHex)
  ensure (control.controlId = controlId) (.reported (.initialControlMismatch index))

def validateInitialProfileTarget (m : StarkProfileManifestV1) :
    Except (Fault ProfileManifestError) Unit := do
  let expectedProofBytes ← context (.reported .internalLayout) (Statement.u32TryFrom proofBytes)
  let expectedPayloadBytes ← context (.reported .internalLayout)
    (Statement.u32TryFrom maxApplicationPayloadBytes)
  ensure (m.exactProofBytes = expectedProofBytes)
    (.reported (.initialTargetMismatch .exactProofBytes))
  ensure (m.maxApplicationPayloadBytes = expectedPayloadBytes)
    (.reported (.initialTargetMismatch .maxApplicationPayloadBytes))
  ensure (m.outerPo2 = risc0OuterPo2) (.reported (.initialTargetMismatch .outerPo2))
  let root ← report (decodeFrozenDigest risc0InnerControlRootHex)
  ensure (m.innerControlRoot = root) (.reported (.initialTargetMismatch .innerControlRoot))
  supportedSegmentPo2.zipIdx.forM fun (expectedParameter, index) => do
    let controlIdHex ← item risc0NormalLiftControlIdsHex index
    validateInitialControl m index terminalControlKindLift expectedParameter controlIdHex
  let joinIndex := supportedSegmentPo2.length
  validateInitialControl m joinIndex terminalControlKindJoin 0 risc0JoinControlIdHex
  let resolveIndex := joinIndex + 1
  validateInitialControl m resolveIndex terminalControlKindResolve 0 risc0ResolveControlIdHex

def profileIdPreimage (manifest : Bytes) :
    Except Statement.ProfileConstructionError (ByteArr profileIdPreimageBytes) := do
  ensure (manifest.length = manifestBytes) (.invalidManifestLength manifest.length manifestBytes)
  let manifestLength ← context (.arithmeticOverflow "profile manifest length prefix")
    (Statement.u32TryFrom manifest.length)
  let expectedLength ← context (.arithmeticOverflow "profile ID preimage")
    ((checkedAdd profileIdDomain.length profileIdDomainSeparatorBytes).bind fun length =>
      (checkedAdd length manifestLengthPrefixBytes).bind fun length =>
        checkedAdd length manifest.length)
  Statement.requireLength "profile ID preimage" expectedLength profileIdPreimageBytes
  let preimage := profileIdDomain ++ [0] ++ le32 manifestLength ++ manifest
  Statement.requireLength "profile ID preimage" preimage.length expectedLength
  context (.derivedLengthMismatch "profile ID preimage" preimage.length profileIdPreimageBytes)
    (ByteArr.ofBytes profileIdPreimageBytes preimage)

variable (blake2b256 : Bytes → Digest)

def profileId (m : StarkProfileManifestV1) : Except ProfileManifestError Digest := do
  let _ ← encode m
  let preimage ← mapError .internalLayout (profileIdPreimage m.rawBytes.val)
  pure (blake2b256 preimage.val)

end Eip0045.Manifest
