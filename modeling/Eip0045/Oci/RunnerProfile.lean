import Mathlib
import Eip0045.Library.Bytes
import Eip0045.Library.Checked
import Eip0045.Library.Hex

/-! OCI runner profiles, with the fields that their schema requires, and the facets that it puts on
those fields. -/

namespace Eip0045.Oci

open Bytes Checked

section Roles

inductive PositiveRunnerRole
  | rustValidatorBuild
  | jvmValidatorBuild
  | rustVerifier
  | jvmVerifier
  deriving DecidableEq

def PositiveRunnerRole.index : PositiveRunnerRole → ℕ
  | .rustValidatorBuild => 0
  | .jvmValidatorBuild => 1
  | .rustVerifier => 2
  | .jvmVerifier => 3

def PositiveRunnerRole.purpose : PositiveRunnerRole → String
  | .rustValidatorBuild => "rust-validator-build"
  | .jvmValidatorBuild => "jvm-validator-build"
  | .rustVerifier => "rust-validator"
  | .jvmVerifier => "jvm-validator"

/-- `v2_canonical_role`. -/
def PositiveRunnerRole.canonicalRole : PositiveRunnerRole → String
  | .rustValidatorBuild => "RustValidatorBuild"
  | .jvmValidatorBuild => "JvmValidatorBuild"
  | .rustVerifier => "RustVerifier"
  | .jvmVerifier => "JvmVerifier"

end Roles

section Profile

/-- `StaticElfInspection`, and `RuntimeElfInspection` with its three further fields. -/
structure ElfInspection where
  policy : Bytes
  elfType : Bytes
  osAbi : Bytes
  programHeaderCount : ℕ
  sectionHeaderCount : ℕ
  loadSegmentCount : ℕ
  executableLoadSegmentCount : ℕ
  entryPointInExecutableLoad : Bool
  interpreterSegmentCount : ℕ
  dynamicSegmentCount : ℕ
  gnuStackSegmentCount : ℕ
  writableExecutableLoadSegmentCount : ℕ
  executableStackSegmentCount : ℕ
  overlappingLoadFileRangeCount : ℕ
  extendedNumberingCount : ℕ
  structuralParseFailureCount : ℕ

structure RuntimeElfInspection extends ElfInspection where
  interpreterPath : Bytes
  dynamicEntryCount : ℕ
  neededLibraryCount : ℕ

structure BinaryIdentity where
  path : Bytes
  byteLength : ℕ
  sha256 : Bytes
  encoding : Bytes
  fileFormat : Bytes
  architecture : Bytes
  linkage : Bytes
  inspectionPolicy : Bytes
  elf : ElfInspection

structure ImageBinaryIdentity where
  imagePath : Bytes
  byteLength : ℕ
  sha256 : Bytes
  elf : RuntimeElfInspection

structure JavaReleaseIdentity where
  imagePath : Bytes
  byteLength : ℕ
  sha256 : Bytes

structure JavaRuntime where
  startupDependencyPolicy : Bytes
  binary : ImageBinaryIdentity
  release : JavaReleaseIdentity
  featureVersion : ℕ
  vendor : Bytes
  version : Bytes

structure BuildJdk where
  startupDependencyPolicy : Bytes
  launcher : ImageBinaryIdentity
  compiler : ImageBinaryIdentity
  release : JavaReleaseIdentity
  featureVersion : ℕ
  vendor : Bytes
  version : Bytes

@[ext]
structure SpecPin where
  version : Bytes
  commit : Bytes

/-- The selectors in the order in which they are checked. -/
structure OciRuntimeIdentity where
  name : Bytes
  version : Bytes
  runtimeSpec : SpecPin
  configurationPolicy : Bytes
  observationSelectors : List (Bytes × Bytes)
  binary : BinaryIdentity

structure Mount where
  type : Bytes
  target : Bytes
  deriving DecidableEq

structure Policy where
  mounts : List Mount
  packagingPhase : Option (List Mount)
  tmpfs : List Bytes
  deriving DecidableEq

structure Platform where
  os : Bytes
  architecture : Bytes
  deriving DecidableEq

@[ext]
structure OciImageArchiveIdentity where
  path : Bytes
  byteLength : ℕ
  sha256 : Bytes
  encoding : Bytes

@[ext]
structure OciDescriptor where
  mediaType : Bytes
  digest : Bytes
  size : ℕ

@[ext]
structure LayerIdentity where
  digest : Bytes
  size : ℕ
  uncompressedBytes : ℕ
  diffId : Bytes

@[ext]
structure PostChangesetRootfs where
  entryCount : ℕ
  regularFileCount : ℕ
  directoryCount : ℕ
  symbolicLinkCount : ℕ
  regularFileBytes : ℕ

@[ext]
structure OciImageIdentity where
  policy : Bytes
  retainedHostRootfsMetadataPolicy : Bytes
  imageSpec : SpecPin
  layoutVersion : Bytes
  archive : OciImageArchiveIdentity
  manifest : OciDescriptor
  config : OciDescriptor
  platform : Platform
  layers : List LayerIdentity
  postChangesetRootfs : PostChangesetRootfs

structure MetadataProvider where
  metadataPolicy : Bytes
  providerProfile : Bytes
  sessionProtocol : Bytes
  applianceProfile : Bytes
  expectedModeTableSha256 : Bytes
  canonicalRole : Bytes

/-- A profile as a canonical document has it: its integers are naturals. Only the second version has a
metadata provider. -/
structure RunnerProfile where
  format : Bytes
  formatVersion : ℕ
  runnerProfileIndex : ℕ
  purpose : Bytes
  retainedHostRootfsMetadataProvider : Option MetadataProvider
  platform : Platform
  image : OciImageIdentity
  runtime : OciRuntimeIdentity
  buildJdk : Option BuildJdk
  javaRuntime : Option JavaRuntime
  policy : Policy

end Profile

section Schema

def slash : UInt8 := 0x2f
def dot : UInt8 := 0x2e

def Within (minimum maximum value : ℕ) : Prop := minimum ≤ value ∧ value ≤ maximum

instance (minimum maximum value : ℕ) : Decidable (Within minimum maximum value) :=
  inferInstanceAs (Decidable (_ ∧ _))

/-- `^[0-9a-f]{64}$`. -/
def Hex32 (text : Bytes) : Prop := text.length = 64 ∧ ∀ c ∈ text, Hex.IsLower c

instance (text : Bytes) : Decidable (Hex32 text) := inferInstanceAs (Decidable (_ ∧ _))

def sha256Prefix : Bytes := utf8 "sha256:"

/-- `^sha256:[0-9a-f]{64}$`. -/
def Sha256Digest (text : Bytes) : Prop := text.take 7 = sha256Prefix ∧ Hex32 (text.drop 7)

instance (text : Bytes) : Decidable (Sha256Digest text) := inferInstanceAs (Decidable (_ ∧ _))

def isLowerOrDigit (c : UInt8) : Bool := (97 ≤ c && c ≤ 122) || (48 ≤ c && c ≤ 57)

/-- `con|prn|aux|nul|com[1-9]|lpt[1-9]`. -/
def reservedDeviceNames : List Bytes :=
  [utf8 "con", utf8 "prn", utf8 "aux", utf8 "nul"] ++
    ["com", "lpt"].flatMap fun device => (List.range' 49 9).map fun d => utf8 device ++ [UInt8.ofNat d]

/-- `RelativePath`: the characters, and then the segments that its negated patterns leave. -/
def RelativePath (text : Bytes) : Prop :=
  Within 1 240 text.length ∧ (∀ c ∈ text.head?, isLowerOrDigit c = true) ∧
    (∀ c ∈ text, isLowerOrDigit c = true ∨ c = 46 ∨ c = 95 ∨ c = 47 ∨ c = 45) ∧
    ∀ component ∈ text.splitOn slash, component ≠ [] ∧ component ≠ utf8 "." ∧ component ≠ utf8 ".." ∧
      component.getLast? ≠ some dot ∧ (component.splitOn dot).headD component ∉ reservedDeviceNames

instance (text : Bytes) : Decidable (RelativePath text) := inferInstanceAs (Decidable (_ ∧ _ ∧ _ ∧ _))

def ElfInspection.Facets (elf : ElfInspection) (interpreters dynamics : ℕ) : Prop :=
  elf.policy = utf8 "eip0045-b4-elf64-amd64-structural-v1" ∧
    elf.elfType ∈ [utf8 "et-exec", utf8 "et-dyn"] ∧ elf.osAbi ∈ [utf8 "sysv", utf8 "linux"] ∧
    Within 1 65534 elf.programHeaderCount ∧ elf.sectionHeaderCount ≤ 65279 ∧
    Within 1 65534 elf.loadSegmentCount ∧ Within 1 65534 elf.executableLoadSegmentCount ∧
    elf.entryPointInExecutableLoad = true ∧ elf.interpreterSegmentCount = interpreters ∧
    elf.dynamicSegmentCount = dynamics ∧ elf.gnuStackSegmentCount = 1 ∧
    elf.writableExecutableLoadSegmentCount = 0 ∧ elf.executableStackSegmentCount = 0 ∧
    elf.overlappingLoadFileRangeCount = 0 ∧ elf.extendedNumberingCount = 0 ∧
    elf.structuralParseFailureCount = 0

instance (elf : ElfInspection) (interpreters dynamics : ℕ) :
    Decidable (elf.Facets interpreters dynamics) := by
  unfold ElfInspection.Facets
  infer_instance

def RuntimeElfInspection.Facets (elf : RuntimeElfInspection) : Prop :=
  elf.toElfInspection.Facets 1 1 ∧ Within 2 240 elf.interpreterPath.length ∧
    Within 1 65534 elf.dynamicEntryCount ∧ elf.neededLibraryCount ≤ 4096

instance (elf : RuntimeElfInspection) : Decidable elf.Facets := inferInstanceAs (Decidable (_ ∧ _))

def BinaryIdentity.Facets (binary : BinaryIdentity) : Prop :=
  RelativePath binary.path ∧ Within 64 1073741824 binary.byteLength ∧ Hex32 binary.sha256 ∧
    binary.encoding = utf8 "raw-bytes" ∧ binary.fileFormat = utf8 "elf64" ∧
    binary.architecture = utf8 "amd64" ∧ binary.linkage = utf8 "static-no-interpreter" ∧
    binary.inspectionPolicy = utf8 "eip0045-b4-elf64-amd64-static-v1" ∧ binary.elf.Facets 0 0

instance (binary : BinaryIdentity) : Decidable binary.Facets := by
  unfold BinaryIdentity.Facets
  infer_instance

def ImageBinaryIdentity.Facets (binary : ImageBinaryIdentity) (imagePath : String) : Prop :=
  binary.imagePath = utf8 imagePath ∧ Within 64 1073741824 binary.byteLength ∧ Hex32 binary.sha256 ∧
    binary.elf.Facets

instance (binary : ImageBinaryIdentity) (imagePath : String) : Decidable (binary.Facets imagePath) :=
  inferInstanceAs (Decidable (_ ∧ _ ∧ _ ∧ _))

def JavaReleaseIdentity.Facets (release : JavaReleaseIdentity) : Prop :=
  release.imagePath = utf8 "/runtime/release" ∧ Within 1 65536 release.byteLength ∧
    Hex32 release.sha256

instance (release : JavaReleaseIdentity) : Decidable release.Facets :=
  inferInstanceAs (Decidable (_ ∧ _ ∧ _))

def startupDependencyPolicyId : String := "eip0045-b4-elf64-amd64-startup-dependency-closure-v1"

/-- The text of the vendor and of the version is left to the schema. -/
def JavaRuntime.Facets (java : JavaRuntime) : Prop :=
  java.startupDependencyPolicy = utf8 startupDependencyPolicyId ∧
    java.binary.Facets "/runtime/bin/java" ∧ java.release.Facets ∧ java.featureVersion = 21

instance (java : JavaRuntime) : Decidable java.Facets := inferInstanceAs (Decidable (_ ∧ _ ∧ _ ∧ _))

def BuildJdk.Facets (jdk : BuildJdk) : Prop :=
  jdk.startupDependencyPolicy = utf8 startupDependencyPolicyId ∧
    jdk.launcher.Facets "/runtime/bin/java" ∧ jdk.compiler.Facets "/runtime/bin/javac" ∧
    jdk.release.Facets ∧ jdk.featureVersion = 21

instance (jdk : BuildJdk) : Decidable jdk.Facets := inferInstanceAs (Decidable (_ ∧ _ ∧ _ ∧ _ ∧ _))

def runtimeObservationSelectors : List (String × String) :=
  [("state", "eip0045-b4-runtime-observation-runc-state-json-v1"),
    ("processIdentity", "eip0045-b4-runtime-observation-linux-boot-id-pid-starttime-jcs-v1"),
    ("namespaces", "eip0045-b4-runtime-observation-namespaces-reserved-v1"),
    ("idMappings", "eip0045-b4-runtime-observation-id-mappings-reserved-v1"),
    ("mountinfo", "eip0045-b4-runtime-observation-mountinfo-reserved-v1"),
    ("securityStatus", "eip0045-b4-runtime-observation-security-status-reserved-v1"),
    ("cgroupV2", "eip0045-b4-runtime-observation-cgroup-v2-reserved-v1"),
    ("rootIdentity", "eip0045-b4-runtime-observation-root-identity-reserved-v1"),
    ("auxv", "eip0045-b4-runtime-observation-auxv-reserved-v1"),
    ("processMappings", "eip0045-b4-runtime-observation-process-mappings-reserved-v1"),
    ("smokeIdentity", "eip0045-b4-runtime-observation-smoke-identity-reserved-v1")]

def runtimeConfigurationPolicyId : String := "eip0045-b4-oci-runtime-config-projection-v1"

def OciRuntimeIdentity.Facets (runtime : OciRuntimeIdentity) : Prop :=
  runtime.name = utf8 "runc" ∧ runtime.version = utf8 "1.3.0" ∧
    runtime.runtimeSpec.version = utf8 "1.3.0" ∧
    runtime.runtimeSpec.commit = utf8 "92249139eea7161e13745abd4cb6d0ea02a3227a" ∧
    runtime.configurationPolicy = utf8 runtimeConfigurationPolicyId ∧
    runtime.observationSelectors =
      runtimeObservationSelectors.map (fun selector => (utf8 selector.1, utf8 selector.2)) ∧
    runtime.binary.Facets

instance (runtime : OciRuntimeIdentity) : Decidable runtime.Facets := by
  unfold OciRuntimeIdentity.Facets
  infer_instance

def linuxAmd64 : Platform := ⟨utf8 "linux", utf8 "amd64"⟩

def ociManifestMediaType : Bytes := utf8 "application/vnd.oci.image.manifest.v1+json"
def ociConfigMediaType : Bytes := utf8 "application/vnd.oci.image.config.v1+json"

def OciDescriptor.Facets (descriptor : OciDescriptor) (mediaType : Bytes) : Prop :=
  descriptor.mediaType = mediaType ∧ Sha256Digest descriptor.digest ∧ Within 2 1048576 descriptor.size

instance (descriptor : OciDescriptor) (mediaType : Bytes) : Decidable (descriptor.Facets mediaType) :=
  inferInstanceAs (Decidable (_ ∧ _ ∧ _))

def LayerIdentity.Facets (layer : LayerIdentity) : Prop :=
  Sha256Digest layer.digest ∧ Within 20 8589934591 layer.size ∧
    Within 1024 34359738368 layer.uncompressedBytes ∧ layer.uncompressedBytes % 512 = 0 ∧
    Sha256Digest layer.diffId

instance (layer : LayerIdentity) : Decidable layer.Facets :=
  inferInstanceAs (Decidable (_ ∧ _ ∧ _ ∧ _ ∧ _))

def PostChangesetRootfs.Facets (rootfs : PostChangesetRootfs) : Prop :=
  rootfs.entryCount ≤ 1000000 ∧ rootfs.regularFileCount ≤ 1000000 ∧
    rootfs.directoryCount ≤ 1000000 ∧ rootfs.symbolicLinkCount ≤ 1000000 ∧
    rootfs.regularFileBytes ≤ 34359738368

instance (rootfs : PostChangesetRootfs) : Decidable rootfs.Facets :=
  inferInstanceAs (Decidable (_ ∧ _ ∧ _ ∧ _ ∧ _))

def OciImageArchiveIdentity.Facets (archive : OciImageArchiveIdentity) : Prop :=
  RelativePath archive.path ∧ Within 6144 17179869184 archive.byteLength ∧
    archive.byteLength % 512 = 0 ∧ Hex32 archive.sha256 ∧
    archive.encoding = utf8 "eip0045-b4-oci-image-layout-ustar-v1"

instance (archive : OciImageArchiveIdentity) : Decidable archive.Facets :=
  inferInstanceAs (Decidable (_ ∧ _ ∧ _ ∧ _ ∧ _))

def OciImageIdentity.Facets (image : OciImageIdentity) (metadataPolicy : String) : Prop :=
  image.policy = utf8 "eip0045-b4-oci-image-v1" ∧
    image.retainedHostRootfsMetadataPolicy = utf8 metadataPolicy ∧
    image.imageSpec.version = utf8 "1.1.1" ∧
    image.imageSpec.commit = utf8 "147f9c13cedb47a0c4d9a11a222961073d585877" ∧
    image.layoutVersion = utf8 "1.0.0" ∧ image.archive.Facets ∧
    image.manifest.Facets ociManifestMediaType ∧ image.config.Facets ociConfigMediaType ∧
    image.platform = linuxAmd64 ∧ Within 1 128 image.layers.length ∧
    (∀ layer ∈ image.layers, layer.Facets) ∧ image.postChangesetRootfs.Facets

instance (image : OciImageIdentity) (metadataPolicy : String) :
    Decidable (image.Facets metadataPolicy) := by
  unfold OciImageIdentity.Facets
  infer_instance

def bindDirectory (target : String) : Mount := ⟨utf8 "bind-directory", utf8 target⟩
def bindFile (target : String) : Mount := ⟨utf8 "bind-file", utf8 target⟩

/-- The only types and targets that the policy of a role may have. -/
def rolePolicy : PositiveRunnerRole → Policy
  | .rustValidatorBuild =>
    ⟨[bindDirectory "/src", bindDirectory "/deps", bindDirectory "/out"], none, [utf8 "/tmp"]⟩
  | .jvmValidatorBuild =>
    ⟨[bindDirectory "/src", bindDirectory "/deps", bindDirectory "/out"],
      some [bindDirectory "/phase-input", bindDirectory "/out"], [utf8 "/tmp"]⟩
  | .rustVerifier =>
    ⟨[bindDirectory "/input", bindFile "/validator/validator"], none, [utf8 "/tmp"]⟩
  | .jvmVerifier =>
    ⟨[bindDirectory "/input", bindFile "/validator/validator.jar"], none, [utf8 "/tmp"]⟩

/-- The alternative of the schema for a role. -/
def RunnerProfile.RoleFacets (profile : RunnerProfile) (role : PositiveRunnerRole) : Prop :=
  profile.runnerProfileIndex = role.index ∧ profile.purpose = utf8 role.purpose ∧
    profile.policy = rolePolicy role ∧
    (profile.buildJdk.isSome = true ↔ role = .jvmValidatorBuild) ∧
    (profile.javaRuntime.isSome = true ↔ role = .jvmVerifier) ∧
    ∀ provider ∈ profile.retainedHostRootfsMetadataProvider,
      provider.canonicalRole = utf8 role.canonicalRole

instance (profile : RunnerProfile) (role : PositiveRunnerRole) : Decidable (profile.RoleFacets role) := by
  unfold RunnerProfile.RoleFacets
  infer_instance

/-- What distinguishes the schemas of the two versions. -/
structure SchemaVersion where
  format : String
  formatVersion : ℕ
  metadataPolicy : String
  provided : Bool

def retainedHostRootfsMetadataPolicyId : String :=
  "eip0045-b4-retained-host-rootfs-metadata-obligations-v1"
def retainedHostRootfsMetadataPolicyV2Id : String :=
  "eip0045-b4-retained-host-rootfs-metadata-obligations-v2"
def tmpfsMetadataProviderProfileId : String := "eip0045-b4-tmpfs-metadata-provider-v1"
def supervisedFilesystemSessionProtocolId : String := "eip0045-b4-supervised-filesystem-session-v1"
def buildrootApplianceProfileId : String := "eip0045-b4-buildroot-appliance-v1"

def runnerProfileSchema : SchemaVersion :=
  ⟨"Eip0045B4PositiveOciRunnerProfileV1", 1, retainedHostRootfsMetadataPolicyId, false⟩
def runnerProfileV2Schema : SchemaVersion :=
  ⟨"Eip0045B4PositiveOciRunnerProfileV2", 2, retainedHostRootfsMetadataPolicyV2Id, true⟩

def MetadataProvider.Facets (provider : MetadataProvider) : Prop :=
  provider.metadataPolicy = utf8 retainedHostRootfsMetadataPolicyV2Id ∧
    provider.providerProfile = utf8 tmpfsMetadataProviderProfileId ∧
    provider.sessionProtocol = utf8 supervisedFilesystemSessionProtocolId ∧
    provider.applianceProfile = utf8 buildrootApplianceProfileId ∧
    Hex32 provider.expectedModeTableSha256

instance (provider : MetadataProvider) : Decidable provider.Facets :=
  inferInstanceAs (Decidable (_ ∧ _ ∧ _ ∧ _ ∧ _))

/-- What acceptance by a schema says about the fields of a profile. -/
structure Facets (schema : SchemaVersion) (profile : RunnerProfile) : Prop where
  format : profile.format = utf8 schema.format
  formatVersion : profile.formatVersion = schema.formatVersion
  provided : profile.retainedHostRootfsMetadataProvider.isSome = schema.provided
  provider : ∀ provider ∈ profile.retainedHostRootfsMetadataProvider, provider.Facets
  platform : profile.platform = linuxAmd64
  image : profile.image.Facets schema.metadataPolicy
  runtime : profile.runtime.Facets
  buildJdk : ∀ jdk ∈ profile.buildJdk, jdk.Facets
  javaRuntime : ∀ java ∈ profile.javaRuntime, java.Facets
  role : profile.RoleFacets .rustValidatorBuild ∨ profile.RoleFacets .jvmValidatorBuild ∨
    profile.RoleFacets .rustVerifier ∨ profile.RoleFacets .jvmVerifier

instance (schema : SchemaVersion) (profile : RunnerProfile) : Decidable (Facets schema profile) :=
  decidable_of_iff (profile.format = utf8 schema.format ∧
      profile.formatVersion = schema.formatVersion ∧
      profile.retainedHostRootfsMetadataProvider.isSome = schema.provided ∧
      (∀ provider ∈ profile.retainedHostRootfsMetadataProvider, provider.Facets) ∧
      profile.platform = linuxAmd64 ∧ profile.image.Facets schema.metadataPolicy ∧
      profile.runtime.Facets ∧ (∀ jdk ∈ profile.buildJdk, jdk.Facets) ∧
      (∀ java ∈ profile.javaRuntime, java.Facets) ∧
      (profile.RoleFacets .rustValidatorBuild ∨ profile.RoleFacets .jvmValidatorBuild ∨
        profile.RoleFacets .rustVerifier ∨ profile.RoleFacets .jvmVerifier))
    ⟨fun h => ⟨h.1, h.2.1, h.2.2.1, h.2.2.2.1, h.2.2.2.2.1, h.2.2.2.2.2.1, h.2.2.2.2.2.2.1,
        h.2.2.2.2.2.2.2.1, h.2.2.2.2.2.2.2.2.1, h.2.2.2.2.2.2.2.2.2⟩,
      fun h => ⟨h.format, h.formatVersion, h.provided, h.provider, h.platform, h.image, h.runtime,
        h.buildJdk, h.javaRuntime, h.role⟩⟩

end Schema

end Eip0045.Oci
