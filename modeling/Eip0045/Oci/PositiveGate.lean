import Mathlib
import Eip0045.Library.CanonicalJson
import Eip0045.Oci.RunnerProfile
import Eip0045.Statement.ErgoStatement

/-! The positive gate over runner profiles: its checks of the image, and what it projects. -/

namespace Eip0045.Oci

open Bytes Checked CanonicalJson

section Fields

def requireStringEq (actual : Bytes) (key expected : String) : Except String Unit :=
  ensure (actual = utf8 expected) s!"{key} differs from {expected}"

def requireU64Eq (actual : ℕ) (key : String) (expected : ℕ) : Except String Unit :=
  ensure (actual = expected) s!"{key} differs from {expected}"

def requireFormat (profile : RunnerProfile) (format : String) (version : ℕ) : Except String Unit := do
  requireStringEq profile.format "format" format
  requireU64Eq profile.formatVersion "formatVersion" version

def requireRole (profile : RunnerProfile) (role : PositiveRunnerRole) (label : String) :
    Except String Unit := do
  ensure (profile.runnerProfileIndex = role.index) s!"{label} index drift for {role.purpose}"
  ensure (profile.purpose = utf8 role.purpose) s!"{label} purpose drift for {role.purpose}"

/-- `decode_digest`, which takes digits of either case. -/
def decodeDigest (value : Bytes) (label : String) : Except String Digest := do
  let bytes ← context s!"{label} is not lowercase hex" (Hex.decode value)
  context s!"{label} is not exactly 32 bytes" (ByteArr.ofBytes 32 bytes)

def decodeOciSha256Digest (value : Bytes) (label : String) : Except String Digest := do
  ensure (value.take 7 = sha256Prefix) s!"{label} does not use the sha256 algorithm"
  decodeDigest (value.drop 7) label

end Fields

section Elf

/-- The dynamic entries and the needed libraries of an inspection that has them. -/
def validateElfProjection (elf : ElfInspection) (linkage : Option (ℕ × ℕ)) (label : String) :
    Except String Unit := do
  ensure (elf.executableLoadSegmentCount ≤ elf.loadSegmentCount)
    s!"{label} executable-load segment count exceeds the load-segment count"
  ensure (elf.loadSegmentCount ≤ elf.programHeaderCount)
    s!"{label} load-segment count exceeds the program-header count"
  let classified ← context "ELF classified program-header count overflow" <| do
    let count ← checkedAdd elf.loadSegmentCount elf.interpreterSegmentCount
    let count ← checkedAdd count elf.dynamicSegmentCount
    checkedAdd count elf.gnuStackSegmentCount
  ensure (classified ≤ elf.programHeaderCount)
    s!"{label} classified segment counts exceed the program-header count"
  match linkage with
  | none => pure ()
  | some (dynamicEntries, neededLibraries) =>
    if neededLibraries ≠ 0 then do
      let minimum ← context "ELF runtime dynamic-entry relation overflow" (checkedAdd neededLibraries 3)
      ensure (minimum ≤ dynamicEntries) s!"{label} dynamic-entry count cannot contain its DT_NEEDED entries, DT_STRTAB, DT_STRSZ, and DT_NULL"
    else pure ()

def validateRuntimeElfProjection (elf : RuntimeElfInspection) (label : String) : Except String Unit :=
  validateElfProjection elf.toElfInspection (some (elf.dynamicEntryCount, elf.neededLibraryCount)) label

def isDigit (c : UInt8) : Bool := 48 ≤ c && c ≤ 57

def isVersionComponent (component : Bytes) : Bool :=
  component ≠ [] && component.all isDigit && (component == utf8 "0" || component.head? != some 48)

def validateJavaFeatureVersion (featureVersion : ℕ) (version : Bytes) (label : String) :
    Except String Unit := do
  requireU64Eq featureVersion "featureVersion" 21
  let components := (version.takeWhile fun c => c ≠ 45 && c ≠ 43).splitOn dot
  ensure (components.head? = some (utf8 "21")) s!"{label} does not identify Java SE feature 21"
  let remaining := components.drop 1
  ensure (remaining.length ≤ 3 ∧ remaining.all isVersionComponent ∧ remaining.getLast? ≠ some (utf8 "0"))
    s!"{label} version number is not canonical"

end Elf

section Image

def maxOciUncompressedLayerBytes : ℕ := 34359738368
def ustarBlockBytes : ℕ := 512
def ociLayoutPayload : Bytes :=
  [0x7b] ++ utf8 "\"imageLayoutVersion\":\"1.0.0\"" ++ [0x7d]

structure LayerScan where
  blobDigests : List Bytes
  diffIds : List Bytes
  uncompressedBytes : ℕ

def scanLayer (label : String) (scan : LayerScan) (layer : LayerIdentity) : Except String LayerScan := do
  ensure (layer.digest ∉ scan.blobDigests) s!"{label} OCI compressed blob digest is reused"
  ensure (layer.diffId ∉ scan.diffIds) s!"{label} OCI rootfs DiffID is reused"
  let uncompressedBytes ← context "OCI cumulative uncompressed-layer byte count overflow"
    (checkedAdd scan.uncompressedBytes layer.uncompressedBytes)
  pure {
    blobDigests := layer.digest :: scan.blobDigests
    diffIds := layer.diffId :: scan.diffIds
    uncompressedBytes }

def validateOciLayers (image : OciImageIdentity) (label : String) (blobDigests : List Bytes) :
    Except String ℕ := do
  ensure (1 ≤ image.layers.length ∧ image.layers.length ≤ 128)
    s!"{label} OCI layer cardinality is outside the closed bound"
  let scan ← image.layers.foldlM (scanLayer label) ⟨blobDigests, [], 0⟩
  ensure (scan.uncompressedBytes ≤ maxOciUncompressedLayerBytes)
    s!"{label} OCI cumulative uncompressed-layer bytes exceed the closed aggregate bound"
  pure scan.uncompressedBytes

def ociIndexMediaType : Bytes := utf8 "application/vnd.oci.image.index.v1+json"

def platformValue (platform : Platform) : JsonValue :=
  ofFields [(utf8 "os", .string platform.os), (utf8 "architecture", .string platform.architecture)]

def canonicalOciIndexBytes (canonicalizer : Canonicalizer) (image : OciImageIdentity) : Bytes :=
  canonicalizer.toVec <| ofFields [
    (utf8 "schemaVersion", .number 2),
    (utf8 "mediaType", .string ociIndexMediaType),
    (utf8 "manifests", .array [ofFields [
      (utf8 "mediaType", .string image.manifest.mediaType),
      (utf8 "digest", .string image.manifest.digest),
      (utf8 "size", .number image.manifest.size),
      (utf8 "platform", platformValue image.platform)]])]

def ustarMemberExtent (payloadBytes : ℕ) : Except String ℕ := do
  let rounded ← context "ustar payload rounding overflow"
    (checkedAdd payloadBytes (ustarBlockBytes - 1))
  let padded ← context "ustar padded payload length overflow"
    (Statement.checkedMul (rounded / ustarBlockBytes) ustarBlockBytes)
  context "ustar member extent overflow" (checkedAdd ustarBlockBytes padded)

def addMember (overflow : String) (archiveBytes payloadBytes : ℕ) : Except String ℕ := do
  context overflow (checkedAdd archiveBytes (← ustarMemberExtent payloadBytes))

def expectedOciArchiveByteLength (canonicalizer : Canonicalizer) (image : OciImageIdentity) :
    Except String ℕ := do
  let indexBytes := canonicalOciIndexBytes canonicalizer image
  let archiveBytes ← context "OCI outer-ustar terminator length overflow"
    (Statement.checkedMul ustarBlockBytes 2)
  let archiveBytes ← [ociLayoutPayload.length, indexBytes.length, image.manifest.size,
    image.config.size].foldlM (addMember "OCI outer-ustar aggregate length overflow") archiveBytes
  (image.layers.map LayerIdentity.size).foldlM
    (addMember "OCI outer-ustar aggregate layer length overflow") archiveBytes

/-- The checks of the image in `validate_runner_profile_with_metadata_policy`. -/
def validateImage (canonicalizer : Canonicalizer) (profile : RunnerProfile) (label : String)
    (metadataPolicyId : String) : Except String Unit := do
  let image := profile.image
  requireStringEq image.policy "policy" "eip0045-b4-oci-image-v1"
  requireStringEq image.retainedHostRootfsMetadataPolicy "retainedHostRootfsMetadataPolicy"
    metadataPolicyId
  requireStringEq image.imageSpec.version "version" "1.1.1"
  requireStringEq image.imageSpec.commit "commit" "147f9c13cedb47a0c4d9a11a222961073d585877"
  requireStringEq image.layoutVersion "layoutVersion" "1.0.0"
  requireStringEq image.archive.encoding "encoding" "eip0045-b4-oci-image-layout-ustar-v1"
  ensure (image.platform = profile.platform)
    s!"{label} image platform differs from the runner platform"
  ensure (image.config.digest ≠ image.manifest.digest)
    s!"{label} OCI config digest aliases the manifest"
  let layerUncompressedBytes ← validateOciLayers image label
    [image.config.digest, image.manifest.digest]
  let expectedArchiveBytes ← expectedOciArchiveByteLength canonicalizer image
  ensure (image.archive.byteLength = expectedArchiveBytes)
    s!"{label} OCI archive byte length differs from the exact closed-ustar footprint"
  let rootfs := image.postChangesetRootfs
  let typedEntries ← context "OCI rootfs type-count overflow" <| do
    let count ← checkedAdd rootfs.regularFileCount rootfs.directoryCount
    checkedAdd count rootfs.symbolicLinkCount
  ensure (typedEntries = rootfs.entryCount) s!"{label} OCI rootfs type counts do not cover every entry"
  ensure (rootfs.regularFileBytes ≤ layerUncompressedBytes)
    s!"{label} OCI rootfs regular-file bytes exceed all uncompressed layer bytes"

def validateRuntimes (profile : RunnerProfile) (label : String) : Except String Unit := do
  let runtime := profile.runtime
  requireStringEq runtime.name "name" "runc"
  requireStringEq runtime.runtimeSpec.version "version" "1.3.0"
  requireStringEq runtime.runtimeSpec.commit "commit" "92249139eea7161e13745abd4cb6d0ea02a3227a"
  validateElfProjection runtime.binary.elf none s!"{label} OCI runtime binary ELF"
  profile.javaRuntime.toList.forM fun java => do
    validateRuntimeElfProjection java.binary.elf s!"{label} Java launcher ELF"
    validateJavaFeatureVersion java.featureVersion java.version s!"{label} Java runtime"
  profile.buildJdk.toList.forM fun jdk => do
    validateRuntimeElfProjection jdk.launcher.elf s!"{label} Java launcher ELF"
    validateRuntimeElfProjection jdk.compiler.elf s!"{label} Java compiler ELF"
    validateJavaFeatureVersion jdk.featureVersion jdk.version s!"{label} build JDK"

def validateRunnerProfileWithMetadataPolicy (canonicalizer : Canonicalizer) (profile : RunnerProfile)
    (label : String) (metadataPolicyId : String) : Except String Unit := do
  validateImage canonicalizer profile label metadataPolicyId
  validateRuntimes profile label

end Image

section Requirements

inductive RootfsPathKind
  | directory
  | emptyRegular
  deriving DecidableEq

abbrev Requirements := List (Bytes × RootfsPathKind)

def insertRequirement (requirements : Requirements) (imagePath : Bytes) (kind : RootfsPathKind) :
    Except String Requirements := do
  ensure (∀ previous ∈ requirements.lookup imagePath, previous = kind)
    s!"positive OCI rootfs path has conflicting physical requirements: {text imagePath}"
  pure (insertKey imagePath kind requirements)

def mountKind (mount : Mount) : Except String RootfsPathKind :=
  if mount.type = utf8 "bind-directory" then .ok .directory
  else if mount.type = utf8 "bind-file" then .ok .emptyRegular
  else .error s!"unsupported positive OCI bind type: {text mount.type}"

def insertMount (requirements : Requirements) (mount : Mount) : Except String Requirements := do
  insertRequirement requirements mount.target (← mountKind mount)

/-- The packaging phase, which the build role of the JVM has. -/
def packagingMounts (policy : Policy) (role : PositiveRunnerRole) : Except String (List Mount) :=
  if role = .jvmValidatorBuild then context "missing required field packagingPhase" policy.packagingPhase
  else .ok []

def fixedRequirements : List (Bytes × RootfsPathKind) :=
  ["/dev", "/proc"].map (fun directory => (utf8 directory, .directory)) ++
    ["full", "null", "random", "urandom", "zero"].map fun device =>
      (utf8 s!"/dev/{device}", .emptyRegular)

def projectPositiveRootfsPathRequirements (policy : Policy) (role : PositiveRunnerRole) :
    Except String Requirements := do
  let requirements ← policy.mounts.foldlM insertMount []
  let packaging ← packagingMounts policy role
  let requirements ← packaging.foldlM insertMount requirements
  ensure (policy.tmpfs.length = 1) "positive OCI runner tmpfs cardinality drift"
  (policy.tmpfs.map (fun target => (target, RootfsPathKind.directory)) ++ fixedRequirements).foldlM
    (fun requirements requirement => insertRequirement requirements requirement.1 requirement.2)
    requirements

end Requirements

section V2

def validateMetadataProvider (image : OciImageIdentity) (provider : MetadataProvider)
    (role : PositiveRunnerRole) : Except String Unit := do
  requireStringEq provider.metadataPolicy "metadataPolicy" retainedHostRootfsMetadataPolicyV2Id
  ensure (provider.metadataPolicy = image.retainedHostRootfsMetadataPolicy)
    "V2 metadata-policy binding differs from the image policy"
  requireStringEq provider.providerProfile "providerProfile" tmpfsMetadataProviderProfileId
  requireStringEq provider.sessionProtocol "sessionProtocol" supervisedFilesystemSessionProtocolId
  requireStringEq provider.applianceProfile "applianceProfile" buildrootApplianceProfileId
  requireStringEq provider.canonicalRole "canonicalRole" role.canonicalRole
  ensure (provider.expectedModeTableSha256.length = 64 ∧
      ∀ c ∈ provider.expectedModeTableSha256, Hex.IsLower c)
    "V2 expected-mode-table SHA-256 is not lower-case hexadecimal"

def requireProvider (profile : RunnerProfile) : Except String MetadataProvider :=
  context "missing required field retainedHostRootfsMetadataProvider"
    profile.retainedHostRootfsMetadataProvider

def validateV2RunnerProfile (canonicalizer : Canonicalizer) (profile : RunnerProfile)
    (role : PositiveRunnerRole) : Except String Unit := do
  ensure (Facets runnerProfileV2Schema profile) "V2 runner profile fails Draft 2020-12 schema"
  requireFormat profile "Eip0045B4PositiveOciRunnerProfileV2" 2
  requireRole profile role "V2 runner profile"
  validateRunnerProfileWithMetadataPolicy canonicalizer profile role.purpose
    retainedHostRootfsMetadataPolicyV2Id
  requireStringEq profile.image.retainedHostRootfsMetadataPolicy "retainedHostRootfsMetadataPolicy"
    retainedHostRootfsMetadataPolicyV2Id
  let provider ← requireProvider profile
  validateMetadataProvider profile.image provider role

end V2

end Eip0045.Oci
