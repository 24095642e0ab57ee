import Mathlib
import Eip0045.Materialization.SafePath
import Eip0045.Oci.PositiveGate

/-! The request projection of a runner profile: its preimages and their commitments. -/

namespace Eip0045.Oci

open Bytes Checked

section Errors

/-- The errors of a request projection, with the three drifts of a length apart from the others. -/
inductive RequestError
  | reported (message : String)
  | lengthDrift (message : String)

def reported {α : Type} : Except String α → Except RequestError α
  | .ok a => .ok a
  | .error message => .error (.reported message)

def check (c : Prop) [Decidable c] (message : String) : Except RequestError Unit :=
  ensure c (.reported message)

def require {α : Type} (message : String) (o : Option α) : Except RequestError α :=
  context (.reported message) o

end Errors

section Domains

def h0ArtifactIdentityDomain : Bytes := utf8 "eip0045-b4-artifact-identity-commitment-v1" ++ [0]
def h0OciImageLayoutDomain : Bytes := utf8 "eip0045-b4-oci-image-layout-commitment-v1" ++ [0]
def h0RootfsPlanDomain : Bytes := utf8 "eip0045-b4-rootfs-plan-commitment-v1" ++ [0]

end Domains

section Artifacts

structure ArtifactIdentityPreimage where
  encoded : Bytes
  commitment : Digest

structure ArtifactIdentity where
  kind : UInt8
  encoding : UInt8
  path : Bytes
  byteLength : UInt64
  sha256 : Digest
  deriving DecidableEq

def h0ArtifactIdentity (h0Sha256 : Bytes → Digest) (a : ArtifactIdentity) :
    Except RequestError ArtifactIdentityPreimage := do
  check ((a.kind ≤ 5 ∧ a.encoding = 1) ∨ (a.kind = 8 ∧ a.encoding = 3))
    "H0 artifact kind and encoding are not a closed compatible pair"
  reported (mapError "H0 artifact identity path is not canonical"
    (Materialization.validateSafeRelativePath a.path))
  check (a.path.length < 2 ^ 16) "H0 artifact path length exceeds u16"
  let pathLength := UInt16.ofNat a.path.length
  let exactLength ← require "H0 artifact identity preimage length overflow"
    (checkedAdd 87 a.path.length)
  let encoded := h0ArtifactIdentityDomain ++ [a.kind] ++ [a.encoding] ++ le16 pathLength ++ a.path ++
    le64 a.byteLength ++ a.sha256.val
  ensure (encoded.length = exactLength) (.lengthDrift "H0 artifact identity preimage length drift")
  pure { encoded, commitment := h0Sha256 encoded }

end Artifacts

section Projection

/-- A bound document: where it is retained, its bytes, and the profile that they spell. -/
structure BoundDocument where
  relativePath : Bytes
  bytes : Bytes
  fits : bytes.length < 2 ^ 64
  value : RunnerProfile

def h0DocumentArtifactIdentity (h0Sha256 : Bytes → Digest) (document : BoundDocument) (kind : UInt8) :
    Except RequestError ArtifactIdentityPreimage := do
  h0ArtifactIdentity h0Sha256 {
    kind
    encoding := 1
    path := document.relativePath
    byteLength := UInt64.ofNat document.bytes.length
    sha256 := h0Sha256 document.bytes }

def u64Field (value : ℕ) (key : String) : Except RequestError UInt64 := do
  check (value < 2 ^ 64) s!"{key} is not an unsigned integer"
  pure (UInt64.ofNat value)

def h0OciLayer (layer : LayerIdentity) (index : ℕ) : Except RequestError Bytes := do
  let digest ← reported (decodeOciSha256Digest layer.digest s!"H0 OCI layer {index} compressed digest")
  let size ← u64Field layer.size "size"
  let uncompressedBytes ← u64Field layer.uncompressedBytes "uncompressedBytes"
  let diffId ← reported (decodeOciSha256Digest layer.diffId s!"H0 OCI layer {index} DiffID")
  pure (digest.val ++ le64 size ++ le64 uncompressedBytes ++ diffId.val)

def h0OciLayoutPreimage (image : OciImageIdentity) (roleByte : UInt8) (archiveCommitment : Digest) :
    Except RequestError Bytes := do
  check (1 ≤ image.layers.length ∧ image.layers.length ≤ 128)
    "H0 OCI layer cardinality is outside the closed bound"
  let layerLength ← require "H0 OCI layer preimage length overflow"
    (Statement.checkedMul 80 image.layers.length)
  let ociLength ← require "H0 OCI preimage length overflow" (checkedAdd 157 layerLength)
  let manifestDigest ← reported (decodeOciSha256Digest image.manifest.digest "H0 OCI manifest digest")
  let manifestSize ← u64Field image.manifest.size "size"
  let configDigest ← reported (decodeOciSha256Digest image.config.digest "H0 OCI config digest")
  let configSize ← u64Field image.config.size "size"
  check (image.layers.length < 2 ^ 16) "H0 OCI layer count exceeds u16"
  let layers ← image.layers.zipIdx.mapM fun layer => h0OciLayer layer.1 layer.2
  let preimage := h0OciImageLayoutDomain ++ [roleByte] ++ archiveCommitment.val ++ manifestDigest.val ++
    le64 manifestSize ++ configDigest.val ++ le64 configSize ++
    le16 (UInt16.ofNat image.layers.length) ++ layers.flatten
  ensure (preimage.length = ociLength) (.lengthDrift "H0 OCI image-layout preimage length drift")
  pure preimage

def validateH0RootfsRequirementPath (path : Bytes) : Except RequestError Unit := do
  check (1 ≤ path.length ∧ path.length ≤ 240 ∧ path.all fun c => c < 128)
    "H0 rootfs requirement path length or encoding is invalid"
  check (path.head? = some slash ∧ path.getLast? ≠ some slash ∧ ¬[slash, slash] <:+: path)
    "H0 rootfs requirement path has a non-canonical separator"
  check (0 ∉ path) "H0 rootfs requirement path contains NUL"
  ((path.drop 1).splitOn slash).forM fun segment =>
    check (segment ≠ [] ∧ segment ≠ utf8 "." ∧ segment ≠ utf8 "..")
      "H0 rootfs requirement path contains an empty, dot, or parent segment"

/-- The length of the plan after a further requirement, whose path follows the one before it. -/
def measureRequirement (seen : Option Bytes × ℕ) (requirement : Bytes × RootfsPathKind) :
    Except RequestError (Option Bytes × ℕ) := do
  validateH0RootfsRequirementPath requirement.1
  check (∀ prior ∈ seen.1, prior < requirement.1)
    "H0 rootfs requirements are not unique and byte-sorted"
  let requirementLength ← require "H0 rootfs requirement preimage length overflow"
    (checkedAdd 3 requirement.1.length)
  let rootfsLength ← require "H0 rootfs-plan preimage length overflow"
    (checkedAdd seen.2 requirementLength)
  pure (some requirement.1, rootfsLength)

def RootfsPathKind.byte : RootfsPathKind → UInt8
  | .directory => 0
  | .emptyRegular => 1

def h0Requirement (requirement : Bytes × RootfsPathKind) : Except RequestError Bytes := do
  check (requirement.1.length < 2 ^ 16) "H0 rootfs requirement path length exceeds u16"
  pure ([requirement.2.byte] ++ le16 (UInt16.ofNat requirement.1.length) ++ requirement.1)

def h0RootfsPlanPreimage (profile : RunnerProfile) (role : PositiveRunnerRole) (roleByte : UInt8) :
    Except RequestError Bytes := do
  let requirements ← reported (projectPositiveRootfsPathRequirements profile.policy role)
  check (1 ≤ requirements.length ∧ requirements.length ≤ 16)
    "H0 rootfs requirement cardinality is outside the closed bound"
  let measured ← requirements.foldlM measureRequirement (none, 112)
  let provider ← reported (requireProvider profile)
  let modeTable ← reported (decodeDigest provider.expectedModeTableSha256 "H0 expected-mode-table SHA-256")
  let rootfs := profile.image.postChangesetRootfs
  let entryCount ← u64Field rootfs.entryCount "entryCount"
  let regularFileCount ← u64Field rootfs.regularFileCount "regularFileCount"
  let directoryCount ← u64Field rootfs.directoryCount "directoryCount"
  let symbolicLinkCount ← u64Field rootfs.symbolicLinkCount "symbolicLinkCount"
  let regularFileBytes ← u64Field rootfs.regularFileBytes "regularFileBytes"
  check (requirements.length < 2 ^ 16) "H0 rootfs requirement count exceeds u16"
  let encoded ← requirements.mapM h0Requirement
  let preimage := h0RootfsPlanDomain ++ [roleByte] ++ modeTable.val ++ le64 entryCount ++
    le64 regularFileCount ++ le64 directoryCount ++ le64 symbolicLinkCount ++ le64 regularFileBytes ++
    le16 (UInt16.ofNat requirements.length) ++ encoded.flatten
  ensure (preimage.length = measured.2) (.lengthDrift "H0 rootfs-plan preimage length drift")
  pure preimage

structure RoleRequestProjection where
  role : PositiveRunnerRole
  runnerIdentity : ArtifactIdentityPreimage
  archiveIdentity : ArtifactIdentityPreimage
  ociLayoutPreimage : Bytes
  ociLayoutCommitment : Digest
  rootfsPlanPreimage : Bytes
  rootfsPlanCommitment : Digest

def h0ArchiveIdentity (h0Sha256 : Bytes → Digest) (archive : OciImageArchiveIdentity) :
    Except RequestError ArtifactIdentityPreimage := do
  let byteLength ← u64Field archive.byteLength "byteLength"
  let sha256 ← reported (decodeDigest archive.sha256 "H0 OCI archive SHA-256")
  h0ArtifactIdentity h0Sha256 { kind := 8, encoding := 3, path := archive.path, byteLength, sha256 }

def deriveH0RoleRequestProjection (h0Sha256 : Bytes → Digest) (profile : BoundDocument)
    (role : PositiveRunnerRole) : Except RequestError RoleRequestProjection := do
  let roleByte := UInt8.ofNat role.index
  let runnerIdentity ← h0DocumentArtifactIdentity h0Sha256 profile (2 + roleByte)
  let archiveIdentity ← h0ArchiveIdentity h0Sha256 profile.value.image.archive
  let ociLayoutPreimage ←
    h0OciLayoutPreimage profile.value.image roleByte archiveIdentity.commitment
  let rootfsPlanPreimage ← h0RootfsPlanPreimage profile.value role roleByte
  pure {
    role
    runnerIdentity
    archiveIdentity
    ociLayoutPreimage
    ociLayoutCommitment := h0Sha256 ociLayoutPreimage
    rootfsPlanPreimage
    rootfsPlanCommitment := h0Sha256 rootfsPlanPreimage }

end Projection

end Eip0045.Oci
