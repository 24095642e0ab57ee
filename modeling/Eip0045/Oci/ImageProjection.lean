import Mathlib
import Eip0045.Oci.PositiveGate

/-! The positive gate's projection of an OCI image layout. -/

namespace Eip0045.Oci

open Bytes Checked

section Identities

def unsignedField (value : ℕ) (key : String) : Except String UInt64 := do
  ensure (value < 2 ^ 64) s!"{key} is not an unsigned integer"
  pure (UInt64.ofNat value)

/-- The fields that a static and a runtime inspection share. -/
structure ElfIdentity where
  path : Bytes
  byteLength : UInt64
  sha256 : Digest
  elfType : Bytes
  osAbi : Bytes
  programHeaderCount : UInt64
  sectionHeaderCount : UInt64
  loadSegmentCount : UInt64
  executableLoadSegmentCount : UInt64
  gnuStackSegmentCount : UInt64

structure RuntimeElfIdentity extends ElfIdentity where
  interpreterPath : Bytes
  dynamicEntryCount : UInt64
  neededLibraryCount : UInt64

def projectElfIdentity (path : Bytes) (byteLength : ℕ) (sha256 : Bytes) (elf : ElfInspection)
    (label : String) : Except String ElfIdentity := do
  pure {
    path
    byteLength := ← unsignedField byteLength "byteLength"
    sha256 := ← decodeDigest sha256 s!"{label} SHA-256"
    elfType := elf.elfType
    osAbi := elf.osAbi
    programHeaderCount := ← unsignedField elf.programHeaderCount "programHeaderCount"
    sectionHeaderCount := ← unsignedField elf.sectionHeaderCount "sectionHeaderCount"
    loadSegmentCount := ← unsignedField elf.loadSegmentCount "loadSegmentCount"
    executableLoadSegmentCount :=
      ← unsignedField elf.executableLoadSegmentCount "executableLoadSegmentCount"
    gnuStackSegmentCount := ← unsignedField elf.gnuStackSegmentCount "gnuStackSegmentCount" }

def projectPositiveRuntimeElfIdentity (executable : ImageBinaryIdentity) (label : String) :
    Except String RuntimeElfIdentity := do
  pure {
    toElfIdentity := ← projectElfIdentity executable.imagePath executable.byteLength executable.sha256
      executable.elf.toElfInspection label
    interpreterPath := executable.elf.interpreterPath
    dynamicEntryCount := ← unsignedField executable.elf.dynamicEntryCount "dynamicEntryCount"
    neededLibraryCount := ← unsignedField executable.elf.neededLibraryCount "neededLibraryCount" }

structure JvmReleaseIdentity where
  imagePath : Bytes
  byteLength : UInt64
  sha256 : Digest
  featureVersion : UInt64
  vendor : Bytes
  version : Bytes

def projectPositiveJvmReleaseIdentity (release : JavaReleaseIdentity) (featureVersion : ℕ)
    (vendor version : Bytes) (label : String) : Except String JvmReleaseIdentity := do
  pure {
    imagePath := release.imagePath
    byteLength := ← unsignedField release.byteLength "byteLength"
    sha256 := ← decodeDigest release.sha256 s!"{label} SHA-256"
    featureVersion := ← unsignedField featureVersion "featureVersion"
    vendor
    version }

structure JvmExecutableClosure where
  launcher : RuntimeElfIdentity
  compiler : Option RuntimeElfIdentity

def projectPositiveStartupDependencyPolicy (policy : Bytes) (label : String) : Except String Unit :=
  ensure (policy = utf8 startupDependencyPolicyId)
    s!"{label} has unsupported startup-dependency policy: {text policy}"

def requireBuildJdk (profile : RunnerProfile) : Except String BuildJdk :=
  context "missing required field buildJdk" profile.buildJdk

def requireJavaRuntime (profile : RunnerProfile) : Except String JavaRuntime :=
  context "missing required field javaRuntime" profile.javaRuntime

def buildJdkClosure (jdk : BuildJdk) : Except String JvmExecutableClosure := do
  projectPositiveStartupDependencyPolicy jdk.startupDependencyPolicy "JVM build JDK"
  let launcher ← projectPositiveRuntimeElfIdentity jdk.launcher "JVM build launcher"
  let compiler ← projectPositiveRuntimeElfIdentity jdk.compiler "JVM build compiler"
  pure ⟨launcher, some compiler⟩

def javaRuntimeClosure (java : JavaRuntime) : Except String JvmExecutableClosure := do
  projectPositiveStartupDependencyPolicy java.startupDependencyPolicy "JVM verifier runtime"
  let launcher ← projectPositiveRuntimeElfIdentity java.binary "JVM verifier launcher"
  pure ⟨launcher, none⟩

def projectPositiveJvmExecutableClosure (profile : RunnerProfile) :
    PositiveRunnerRole → Except String (Option JvmExecutableClosure)
  | .jvmValidatorBuild => do
    let jdk ← requireBuildJdk profile
    pure (some (← buildJdkClosure jdk))
  | .jvmVerifier => do
    let java ← requireJavaRuntime profile
    pure (some (← javaRuntimeClosure java))
  | .rustValidatorBuild | .rustVerifier => pure none

def projectPositiveJvmRelease (profile : RunnerProfile) :
    PositiveRunnerRole → Except String (Option JvmReleaseIdentity)
  | .jvmValidatorBuild => do
    let jdk ← requireBuildJdk profile
    pure (some (← projectPositiveJvmReleaseIdentity jdk.release jdk.featureVersion jdk.vendor jdk.version
      "JVM build JDK release"))
  | .jvmVerifier => do
    let java ← requireJavaRuntime profile
    pure (some (← projectPositiveJvmReleaseIdentity java.release java.featureVersion java.vendor
      java.version "JVM verifier release"))
  | .rustValidatorBuild | .rustVerifier => pure none

end Identities

section Runtime

/-- The contract of a runtime: its kinds of policies and of selectors have one value each. -/
structure OciRuntimeContract where
  role : PositiveRunnerRole
  version : Bytes
  binary : ElfIdentity

def validateRuntimeObservationSelectors (selectors : List (Bytes × Bytes)) : Except String Unit := do
  ensure (selectors.map Prod.fst = runtimeObservationSelectors.map fun selector => utf8 selector.1)
    "runtime observation selector set has the wrong keys"
  (selectors.zip runtimeObservationSelectors).forM fun pair =>
    requireStringEq pair.1.2 pair.2.1 pair.2.2

/-- The counts that a static binary has, under the names of their fields. -/
def staticElfCounts (elf : ElfInspection) : List (ℕ × String × ℕ) :=
  [(elf.interpreterSegmentCount, "interpreterSegmentCount", 0),
    (elf.dynamicSegmentCount, "dynamicSegmentCount", 0),
    (elf.gnuStackSegmentCount, "gnuStackSegmentCount", 1),
    (elf.writableExecutableLoadSegmentCount, "writableExecutableLoadSegmentCount", 0),
    (elf.executableStackSegmentCount, "executableStackSegmentCount", 0),
    (elf.overlappingLoadFileRangeCount, "overlappingLoadFileRangeCount", 0),
    (elf.extendedNumberingCount, "extendedNumberingCount", 0),
    (elf.structuralParseFailureCount, "structuralParseFailureCount", 0)]

def projectPositiveOciRuntimeContract (profile : RunnerProfile) (role : PositiveRunnerRole) :
    Except String OciRuntimeContract := do
  requireRole profile role "OCI runtime-contract projection"
  let runtime := profile.runtime
  requireStringEq runtime.name "name" "runc"
  requireStringEq runtime.version "version" "1.3.0"
  requireStringEq runtime.runtimeSpec.version "version" "1.3.0"
  requireStringEq runtime.runtimeSpec.commit "commit" "92249139eea7161e13745abd4cb6d0ea02a3227a"
  requireStringEq runtime.configurationPolicy "configurationPolicy" runtimeConfigurationPolicyId
  validateRuntimeObservationSelectors runtime.observationSelectors
  let binary := runtime.binary
  requireStringEq binary.encoding "encoding" "raw-bytes"
  requireStringEq binary.fileFormat "fileFormat" "elf64"
  requireStringEq binary.architecture "architecture" "amd64"
  requireStringEq binary.linkage "linkage" "static-no-interpreter"
  requireStringEq binary.inspectionPolicy "inspectionPolicy" "eip0045-b4-elf64-amd64-static-v1"
  let elf := binary.elf
  requireStringEq elf.policy "policy" "eip0045-b4-elf64-amd64-structural-v1"
  validateElfProjection elf none s!"{role.purpose} OCI runtime binary ELF"
  (staticElfCounts elf).forM fun count => requireU64Eq count.1 count.2.1 count.2.2
  ensure (elf.entryPointInExecutableLoad = true) "entryPointInExecutableLoad differs from true"
  let identity ← projectElfIdentity binary.path binary.byteLength binary.sha256 elf
    s!"{role.purpose} OCI runtime binary"
  pure ⟨role, runtime.version, identity⟩

end Runtime

section Image

def projectPositiveRetainedHostRootfsMetadataPolicy (profile : RunnerProfile)
    (role : PositiveRunnerRole) : Except String Unit := do
  requireRole profile role "retained-host rootfs metadata-policy projection"
  requireStringEq profile.image.retainedHostRootfsMetadataPolicy "retainedHostRootfsMetadataPolicy"
    retainedHostRootfsMetadataPolicyId

/-- A digest with a byte length, as the gate and as the importer have it. -/
structure OciBlobIdentity where
  digest : Digest
  byteLength : UInt64

structure OciExpectedLayer where
  compressed : OciBlobIdentity
  uncompressedBytes : UInt64
  diffId : Digest

structure OciRootfsCounts where
  entryCount : UInt64
  regularFileCount : UInt64
  directoryCount : UInt64
  symbolicLinkCount : UInt64
  regularFileBytes : UInt64

structure PositiveOciImageLayout where
  role : PositiveRunnerRole
  runtimeContract : OciRuntimeContract
  archivePath : Bytes
  archiveByteLength : UInt64
  archiveSha256 : Digest
  manifest : OciBlobIdentity
  config : OciBlobIdentity
  layers : List OciExpectedLayer
  postChangesetRootfs : OciRootfsCounts
  jvmExecutables : Option JvmExecutableClosure
  jvmRelease : Option JvmReleaseIdentity
  rootfsPathRequirements : Requirements

def projectOciBlob (digest : Bytes) (size : ℕ) (label : String) : Except String OciBlobIdentity := do
  let digest ← decodeOciSha256Digest digest s!"{label} digest"
  let byteLength ← unsignedField size "size"
  pure ⟨digest, byteLength⟩

def projectOciLayer (role : PositiveRunnerRole) (layer : LayerIdentity) (index : ℕ) :
    Except String OciExpectedLayer := do
  let compressed ← projectOciBlob layer.digest layer.size s!"{role.purpose} OCI layer {index}"
  let uncompressedBytes ← unsignedField layer.uncompressedBytes "uncompressedBytes"
  let diffId ← decodeOciSha256Digest layer.diffId s!"{role.purpose} OCI layer {index} DiffID"
  pure ⟨compressed, uncompressedBytes, diffId⟩

def projectRootfsCounts (rootfs : PostChangesetRootfs) : Except String OciRootfsCounts := do
  pure {
    entryCount := ← unsignedField rootfs.entryCount "entryCount"
    regularFileCount := ← unsignedField rootfs.regularFileCount "regularFileCount"
    directoryCount := ← unsignedField rootfs.directoryCount "directoryCount"
    symbolicLinkCount := ← unsignedField rootfs.symbolicLinkCount "symbolicLinkCount"
    regularFileBytes := ← unsignedField rootfs.regularFileBytes "regularFileBytes" }

def projectPositiveOciImageLayout (profile : RunnerProfile) (role : PositiveRunnerRole) :
    Except String PositiveOciImageLayout := do
  requireRole profile role "OCI image-layout projection"
  let runtimeContract ← projectPositiveOciRuntimeContract profile role
  projectPositiveRetainedHostRootfsMetadataPolicy profile role
  let image := profile.image
  let layers ← image.layers.zipIdx.mapM fun layer => projectOciLayer role layer.1 layer.2
  let jvmExecutables ← projectPositiveJvmExecutableClosure profile role
  let jvmRelease ← projectPositiveJvmRelease profile role
  let rootfsPathRequirements ← projectPositiveRootfsPathRequirements profile.policy role
  let archiveByteLength ← unsignedField image.archive.byteLength "byteLength"
  let archiveSha256 ← decodeDigest image.archive.sha256 s!"{role.purpose} OCI archive SHA-256"
  let manifest ← projectOciBlob image.manifest.digest image.manifest.size
    s!"{role.purpose} OCI manifest"
  let config ← projectOciBlob image.config.digest image.config.size s!"{role.purpose} OCI config"
  let postChangesetRootfs ← projectRootfsCounts image.postChangesetRootfs
  pure {
    role
    runtimeContract
    archivePath := image.archive.path
    archiveByteLength
    archiveSha256
    manifest
    config
    layers
    postChangesetRootfs
    jvmExecutables
    jvmRelease
    rootfsPathRequirements }

end Image

end Eip0045.Oci
