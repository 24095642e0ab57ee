import Mathlib
import Eip0045.Oci.ImageProjection

/-! The importer's expectation of an OCI image, and of the archive that holds it. -/

namespace Eip0045.Oci

open Bytes Checked CanonicalJson

section Expectation

structure OciImageExpectation where
  manifest : OciBlobIdentity
  config : OciBlobIdentity
  layers : List OciExpectedLayer
  postChangesetRootfs : OciRootfsCounts

def ociJsonMinBytes : ℕ := 2
def ociJsonMaxBytes : ℕ := 1048576
def ociLayerMinBytes : ℕ := 20
def ociLayerMaxBytes : ℕ := 8589934591
def ociLayerMinUncompressedBytes : ℕ := 1024
def ociLayerMaxUncompressedBytes : ℕ := 34359738368
def ociMaxAggregateUncompressedBytes : ℕ := 34359738368
def ociMaxRootfsEntries : ℕ := 1000000

def validateInclusiveRange (value minimum maximum : ℕ) (label : String) : Except String Unit :=
  ensure (minimum ≤ value ∧ value ≤ maximum)
    s!"{label} is outside the closed range {minimum}..={maximum}"

/-- What the loop over the expected layers has seen. -/
structure ExpectationScan where
  compressedDigests : List Digest
  diffIds : List Digest
  aggregateUncompressedBytes : ℕ

def scanExpectedLayer (scan : ExpectationScan) (layer : OciExpectedLayer) (index : ℕ) :
    Except String ExpectationScan := do
  mapError s!"OCI layer {index} compressed length is invalid" <|
    validateInclusiveRange layer.compressed.byteLength.toNat ociLayerMinBytes ociLayerMaxBytes
      "OCI compressed layer byte length"
  mapError s!"OCI layer {index} uncompressed length is invalid" <|
    validateInclusiveRange layer.uncompressedBytes.toNat ociLayerMinUncompressedBytes
      ociLayerMaxUncompressedBytes "OCI declared uncompressed layer byte length"
  ensure (layer.uncompressedBytes.toNat % 512 = 0)
    s!"OCI layer {index} uncompressed byte length is not a multiple of 512"
  ensure (layer.compressed.digest ∉ scan.compressedDigests)
    s!"OCI layer {index} compressed digest is reused"
  ensure (layer.diffId ∉ scan.diffIds) s!"OCI layer {index} DiffID is reused"
  let aggregateUncompressedBytes ← context
    "OCI aggregate declared uncompressed layer bytes overflowed"
    (checkedAdd scan.aggregateUncompressedBytes layer.uncompressedBytes.toNat)
  ensure (aggregateUncompressedBytes ≤ ociMaxAggregateUncompressedBytes)
    "OCI aggregate declared uncompressed layer bytes exceed the closed bound"
  pure {
    compressedDigests := layer.compressed.digest :: scan.compressedDigests
    diffIds := layer.diffId :: scan.diffIds
    aggregateUncompressedBytes }

def rootfsBounds (rootfs : OciRootfsCounts) : List (UInt64 × String) :=
  [(rootfs.entryCount, "OCI post-changeset rootfs entry count"),
    (rootfs.regularFileCount, "OCI post-changeset rootfs regular-file count"),
    (rootfs.directoryCount, "OCI post-changeset rootfs directory count"),
    (rootfs.symbolicLinkCount, "OCI post-changeset rootfs symbolic-link count")]

def validateOciImageExpectation (expectation : OciImageExpectation) : Except String Unit := do
  validateInclusiveRange expectation.manifest.byteLength.toNat ociJsonMinBytes ociJsonMaxBytes
    "OCI manifest JSON byte length"
  validateInclusiveRange expectation.config.byteLength.toNat ociJsonMinBytes ociJsonMaxBytes
    "OCI config JSON byte length"
  ensure (1 ≤ expectation.layers.length ∧ expectation.layers.length ≤ 128)
    "OCI expected layer cardinality is outside the closed range"
  ensure (expectation.config.digest ≠ expectation.manifest.digest)
    "OCI config digest aliases the manifest digest"
  let scan ← expectation.layers.zipIdx.foldlM (fun scan layer => scanExpectedLayer scan layer.1 layer.2)
    ⟨[expectation.config.digest, expectation.manifest.digest], [], 0⟩
  let rootfs := expectation.postChangesetRootfs
  (rootfsBounds rootfs).forM fun count =>
    ensure (count.1.toNat ≤ ociMaxRootfsEntries) s!"{count.2} exceeds its closed bound"
  let typedEntryCount ← context "OCI post-changeset rootfs typed entry count overflowed" <| do
    let count ← checkedAdd rootfs.regularFileCount.toNat rootfs.directoryCount.toNat
    checkedAdd count rootfs.symbolicLinkCount.toNat
  ensure (rootfs.entryCount.toNat = typedEntryCount)
    "OCI post-changeset rootfs entry count differs from its typed counts"
  ensure (rootfs.regularFileBytes.toNat ≤ scan.aggregateUncompressedBytes)
    "OCI post-changeset rootfs regular-file bytes exceed the layer stream"

def formatSha256Digest (digest : Digest) : Bytes := sha256Prefix ++ Hex.encode digest.val

def expectedIndexValue (expectation : OciImageExpectation) : JsonValue :=
  let platform := insertKey (utf8 "os") (.string (utf8 "linux"))
    (insertKey (utf8 "architecture") (.string (utf8 "amd64")) [])
  let descriptor := insertKey (utf8 "platform") (.object platform)
    (insertKey (utf8 "size") (.number expectation.manifest.byteLength.toNat)
      (insertKey (utf8 "digest") (.string (formatSha256Digest expectation.manifest.digest))
        (insertKey (utf8 "mediaType") (.string ociManifestMediaType) [])))
  .object <| insertKey (utf8 "manifests") (.array [.object descriptor])
    (insertKey (utf8 "mediaType") (.string ociIndexMediaType)
      (insertKey (utf8 "schemaVersion") (.number 2) []))

def expectedIndexJsonByteLength (canonicalizer : Canonicalizer) (expectation : OciImageExpectation) :
    Except String ℕ := do
  validateOciImageExpectation expectation
  let byteLength := (canonicalizer.toVec (expectedIndexValue expectation)).length
  validateInclusiveRange byteLength ociJsonMinBytes ociJsonMaxBytes
    "derived OCI index JSON byte length"
  pure byteLength

def projectAuthenticatedOciImageExpectation (profile : PositiveOciImageLayout) :
    Except String OciImageExpectation := do
  let expectation := {
    manifest := profile.manifest
    config := profile.config
    layers := profile.layers
    postChangesetRootfs := profile.postChangesetRootfs }
  validateOciImageExpectation expectation
  pure expectation

end Expectation

section Archive

structure OciOuterUstarExpectation where
  archiveByteLength : UInt64
  archiveSha256 : Digest
  image : OciImageExpectation

/-- The limits of the role of an OCI image layout. -/
structure OciRoleLimits where
  minimumEncodedBytes : ℕ
  maximumEncodedBytes : ℕ
  encodedByteMultiple : ℕ
  maximumOuterUstarMemberPayloadBytes : ℕ
  maximumJsonBytes : ℕ
  maximumLayers : ℕ
  deriving DecidableEq

def ociImageLayoutUstarLimits : OciRoleLimits where
  minimumEncodedBytes := 6144
  maximumEncodedBytes := 17179869184
  encodedByteMultiple := 512
  maximumOuterUstarMemberPayloadBytes := 8589934591
  maximumJsonBytes := 1048576
  maximumLayers := 128

/-- The ceilings of the parser, of which the blob counts follow from the layers. -/
def ociOuterUstarCeilings : OciRoleLimits := ⟨6144, 17179869184, 512, 8589934591, 1048576, 128⟩

def OciRoleLimits.validateEncodedLength (limits : OciRoleLimits) (byteLength : ℕ) (label : String) :
    Except String Unit := do
  ensure (limits.minimumEncodedBytes ≤ byteLength ∧ byteLength ≤ limits.maximumEncodedBytes)
    s!"{label} encoded byte length is outside its role-specific range"
  ensure (byteLength % limits.encodedByteMultiple = 0)
    s!"{label} encoded byte length is not a multiple of {limits.encodedByteMultiple}"

def OciRoleLimits.validateJsonBytes (limits : OciRoleLimits) (byteLength : ℕ) (label : String) :
    Except String Unit :=
  ensure (2 ≤ byteLength ∧ byteLength ≤ limits.maximumJsonBytes)
    s!"{label} JSON byte length is outside its role-specific range"

def validateOciOuterUstarRoleContract (byteLength : ℕ) : Except String OciRoleLimits := do
  ensure (ociImageLayoutUstarLimits = ociOuterUstarCeilings)
    "OCI outer-ustar parser ceilings differ from the closed role contract"
  ociImageLayoutUstarLimits.validateEncodedLength byteLength "OCI image-layout ustar"
  pure ociImageLayoutUstarLimits

def outerUstarMemberExtent (payloadBytes : ℕ) : Except String ℕ := do
  let rounded ← context "OCI outer-ustar payload rounding overflowed"
    (checkedAdd payloadBytes (ustarBlockBytes - 1))
  let padded ← context "OCI outer-ustar padded payload length overflowed"
    (Statement.checkedMul (rounded / ustarBlockBytes) ustarBlockBytes)
  context "OCI outer-ustar member extent overflowed" (checkedAdd ustarBlockBytes padded)

def addOuterMember (overflow : String) (archiveBytes payloadBytes : ℕ) : Except String ℕ := do
  context overflow (checkedAdd archiveBytes (← outerUstarMemberExtent payloadBytes))

def ociLayoutBytes : Bytes := [0x7b] ++ utf8 "\"imageLayoutVersion\":\"1.0.0\"" ++ [0x7d]

/-- The archive length that `validate_outer_ustar_expectation` computes. -/
def outerUstarFootprint (indexJsonByteLength : ℕ) (image : OciImageExpectation) : Except String ℕ := do
  let expected ← context "OCI outer-ustar terminator length overflowed"
    (Statement.checkedMul 2 ustarBlockBytes)
  let expected ← [ociLayoutBytes.length, indexJsonByteLength, image.manifest.byteLength.toNat,
    image.config.byteLength.toNat].foldlM
      (addOuterMember "OCI outer-ustar fixed-member footprint overflowed") expected
  (image.layers.map fun layer => layer.compressed.byteLength.toNat).foldlM
    (addOuterMember "OCI outer-ustar layer footprint overflowed") expected

def validateOuterUstarExpectation (canonicalizer : Canonicalizer)
    (expectation : OciOuterUstarExpectation) : Except String Unit := do
  let nested ← validateOciOuterUstarRoleContract expectation.archiveByteLength.toNat
  ensure (nested.maximumJsonBytes = ociOuterUstarCeilings.maximumJsonBytes)
    "OCI JSON ceiling differs from the closed role contract"
  validateOciImageExpectation expectation.image
  let indexJsonByteLength ← expectedIndexJsonByteLength canonicalizer expectation.image
  nested.validateJsonBytes indexJsonByteLength "expected OCI index.json"
  let expectedArchiveByteLength ← outerUstarFootprint indexJsonByteLength expectation.image
  ensure (expectedArchiveByteLength = expectation.archiveByteLength.toNat)
    "OCI archive byte length differs from the exact closed-ustar footprint"

/-- A locator with the profile that its permit owns. -/
structure OciSlotConstructionPermit where
  rootIndex : ℕ
  relativePath : Bytes
  profile : PositiveOciImageLayout

structure OciOuterUstarSlot where
  role : PositiveRunnerRole
  rootIndex : ℕ
  relativePath : Bytes
  expectation : OciOuterUstarExpectation

def projectAuthenticatedOciOuterUstarSlot (canonicalizer : Canonicalizer)
    (permit : OciSlotConstructionPermit) : Except String OciOuterUstarSlot := do
  let image ← projectAuthenticatedOciImageExpectation permit.profile
  let expectation := {
    archiveByteLength := permit.profile.archiveByteLength
    archiveSha256 := permit.profile.archiveSha256
    image }
  validateOuterUstarExpectation canonicalizer expectation
  pure {
    role := permit.profile.role
    rootIndex := permit.rootIndex
    relativePath := permit.relativePath
    expectation }

end Archive

end Eip0045.Oci
