import Mathlib
import Eip0045.Corpus.TreeManifest
import Eip0045.Library.SortedMap
import Eip0045.Library.FirstSplit

/-! The validation and the derivation of Cargo-closure evidence (`reproduction/src/cargo_closure.rs`). Strings are
their UTF-8 bytes, and the metadata are the document that the JSON parses into. -/

namespace Eip0045.CargoClosure

open Bytes Checked FileTree B4Tree FirstSplit

def evidenceSchema : Bytes := utf8 "eip0045-candidate-cargo-closure-v2"
def candidate : Bytes := utf8 "candidate"
def risc0CargoSourceRepository : Bytes := utf8 "https://github.com/a-shannon/risc0"
def risc0CargoSourceRevision : Bytes := utf8 "227229dc793c215c533cbc0e07911601974a4629"
def risc0SemanticSourceRepository : Bytes := utf8 "https://github.com/risc0/risc0"
def requiredHostCrate : Bytes := utf8 "risc0-zkvm"
def requiredHostFeatures : List String := ["disable-dev-mode", "prove"]
def requiredMethodsCrate : Bytes := utf8 "eip-0045-methods"
def requiredMethodsFeature : String := "embed-methods"
def forbiddenFeatures : List Bytes := ["bonsai", "cuda", "docker", "metal", "witgen_debug"].map utf8

inductive CargoClosureRole
  | generatorHost
  | methodsBuild
  | guest
  deriving DecidableEq

structure ProfileRootIdentity where
  privateRoot : Bytes
  windowsSemantics : Bool
  publicIdentity : Bytes

structure FeatureTreePackage where
  packageId : Bytes
  features : List Bytes
  deriving DecidableEq

structure CargoConfigurationEvidence where
  patches : List Bytes
  replacements : List Bytes
  sourceReplacements : List Bytes
  pathOverrides : List Bytes
  rustcWrapper : Option Bytes
  rustcWorkspaceWrapper : Option Bytes
  deriving DecidableEq

structure CargoClosureEvidence where
  schema : Bytes
  lifecycle : Bytes
  profileRootIdentity : Bytes
  role : CargoClosureRole
  featureTree : List FeatureTreePackage
  configuration : CargoConfigurationEvidence
  deriving DecidableEq

inductive CargoClosureError
  | invalidEvidenceMarker (marker : String)
  | forbiddenConfiguration (influence : String)
  | duplicatePackageId
  | invalidResolveGraph
  | localPackageOutsideProfile
  | unpinnedRisc0Package
  | unsupportedPackageSource
  | featureTreeMismatch
  | forbiddenFeature
  | invalidRisc0ZkvmPackageCount
  | missingRequiredRisc0ZkvmFeature (feature : String)
  | disallowedRisc0ZkvmFeature (feature : String)
  | invalidMethodsPackageCount
  | missingRequiredMethodsFeature (feature : String)
  | disallowedMethodsFeature (feature : String)
  deriving DecidableEq

abbrev Result (α : Type) := Except CargoClosureError α

structure MetadataPackage where
  name : Bytes
  id : Bytes
  source : Option Bytes
  manifestPath : Bytes

structure MetadataNode where
  id : Bytes
  features : List Bytes

structure MetadataResolve where
  nodes : List MetadataNode

structure MetadataDocument where
  packages : List MetadataPackage
  resolve : Option MetadataResolve

abbrev Packages := SortedMap Bytes MetadataPackage

section Roots

def colon : UInt8 := 58

def isAsciiControl (byte : UInt8) : Bool := byte < 32 || byte == 127

def isAsciiAlphabetic (byte : UInt8) : Bool := (65 ≤ byte && byte ≤ 90) || (97 ≤ byte && byte ≤ 122)

/-- `path.replace('\\', "/")`. -/
def withSlashes (path : Bytes) : Bytes := path.map fun byte => if byte = 92 then slash else byte

/-- What follows the drive or the leading slash. -/
def rootBody (normalized : Bytes) : Option Bytes :=
  if normalized[1]? = some colon then
    if normalized.head?.any isAsciiAlphabetic = false ∨ normalized[2]? ≠ some slash then none
    else some (normalized.drop 3)
  else stripInitial [slash] normalized

def plainComponent (component : Bytes) : Bool := component != [] && component != [dot] && component != [dot, dot]

def normalizeAbsoluteRoot (path : Bytes) : Option (Bytes × Bool) := do
  guard (path ≠ [] ∧ path.any isAsciiControl = false)
  let normalized := withSlashes path
  let body ← rootBody normalized
  guard (normalized.getLast? ≠ some slash ∧ body ≠ [])
  guard ((body.splitOn slash).all plainComponent)
  pure (normalized, normalized[1]? == some colon)

namespace ProfileRootIdentity

/-- What follows the private root in a normalized path. The position after a matching root never lies within a
character. -/
def suffixOf (root : ProfileRootIdentity) (path : Bytes) : Option Bytes :=
  if root.windowsSemantics then
    (stripInitial (toAsciiLowercase root.privateRoot) (toAsciiLowercase path)).map fun _ =>
      path.drop root.privateRoot.length
  else stripInitial root.privateRoot path

def relativeManifest (root : ProfileRootIdentity) (manifestPath : Bytes) : Option Bytes := do
  let normalized ← normalizeAbsoluteRoot manifestPath
  guard (normalized.2 = root.windowsSemantics ∧ utf8 "/Cargo.toml" <:+ normalized.1)
  let suffix ← root.suffixOf normalized.1
  stripInitial [slash] suffix

end ProfileRootIdentity

end Roots

section Markers

variable (root : ProfileRootIdentity)

def validateEvidenceMarkers (evidence : CargoClosureEvidence) : Result Unit := do
  ensure (evidence.schema = evidenceSchema) (.invalidEvidenceMarker "schema")
  ensure (evidence.lifecycle = candidate) (.invalidEvidenceMarker "lifecycle")
  ensure (evidence.profileRootIdentity = root.publicIdentity) (.invalidEvidenceMarker "profile root identity")

def validateConfiguration (configuration : CargoConfigurationEvidence) : Result Unit := do
  ensure (configuration.patches = []) (.forbiddenConfiguration "patch")
  ensure (configuration.replacements = []) (.forbiddenConfiguration "replace")
  ensure (configuration.sourceReplacements = []) (.forbiddenConfiguration "source replacement")
  ensure (configuration.pathOverrides = []) (.forbiddenConfiguration "path override")
  ensure (configuration.rustcWrapper = none) (.forbiddenConfiguration "rustc wrapper")
  ensure (configuration.rustcWorkspaceWrapper = none) (.forbiddenConfiguration "rustc workspace wrapper")

end Markers

section Sources

variable (root : ProfileRootIdentity)

def isExactRisc0Source (source : Bytes) : Bool :=
  source == utf8 "git+" ++ risc0CargoSourceRepository ++ utf8 "?rev=" ++ risc0CargoSourceRevision ++ utf8 "#" ++
    risc0CargoSourceRevision

def risc0Named (package : MetadataPackage) : Bool :=
  package.name == utf8 "risc0" || (utf8 "risc0-").isPrefixOf package.name

def validatePackageSource (package : MetadataPackage) : Result Unit :=
  match package.source with
  | none =>
    ensure (risc0Named package = false ∧ root.relativeManifest package.manifestPath ≠ none)
      (if risc0Named package then .unpinnedRisc0Package else .localPackageOutsideProfile)
  | some source =>
    if isExactRisc0Source source then .ok ()
    else if (utf8 "registry+").isPrefixOf source || (utf8 "sparse+").isPrefixOf source then
      ensure (risc0Named package = false) .unpinnedRisc0Package
    else if (utf8 "git+").isPrefixOf source then
      .error (if risc0Named package ∨ risc0SemanticSourceRepository <:+: source ∨ risc0CargoSourceRepository <:+: source
        then .unpinnedRisc0Package else .unsupportedPackageSource)
    else .error .unsupportedPackageSource

def evidencePackageId (package : MetadataPackage) : Result Bytes :=
  if package.source.isSome then .ok package.id
  else do
    let relative ← context .localPackageOutsideProfile (root.relativeManifest package.manifestPath)
    pure (utf8 "path+" ++ root.publicIdentity ++ utf8 "/" ++ relative)

end Sources

section Features

def isForbiddenFeature (feature : Bytes) : Bool :=
  let normalized := (toAsciiLowercase feature).map fun byte => if byte = 45 then 95 else byte
  let leaf := (normalized.splitOnP fun byte => byte == slash || byte == colon).getLastD normalized
  forbiddenFeatures.contains leaf

def hasDuplicates : List Bytes → Bool
  | [] => false
  | value :: values => values.contains value || hasDuplicates values

def isStrictlySorted : List Bytes → Bool
  | first :: second :: values => (compare first second).isLT && isStrictlySorted (second :: values)
  | _ => true

def sortFeatures (features : List Bytes) : List Bytes := features.mergeSort fun a b => (compare a b).isLE

end Features

section Resolve

variable (root : ProfileRootIdentity)

def insertPackage (check : MetadataPackage → Result Unit) (packages : Packages) (package : MetadataPackage) :
    Result Packages := do
  ensure (packages[package.id]? = none) .duplicatePackageId
  check package
  pure (packages.insert package.id package)

/-- The loop over the packages, with what it checks of each one. -/
def indexPackages (check : MetadataPackage → Result Unit) (packages : List MetadataPackage) : Result Packages :=
  packages.foldlM (insertPackage check) ∅

def resolveNode (packages : Packages) (resolved : SortedMap Bytes (List Bytes)) (node : MetadataNode) :
    Result (SortedMap Bytes (List Bytes)) := do
  let package ← context .invalidResolveGraph packages[node.id]?
  let evidenceId ← evidencePackageId root package
  ensure (resolved[evidenceId]? = none) .invalidResolveGraph
  ensure (hasDuplicates node.features = false) .invalidResolveGraph
  ensure (node.features.any isForbiddenFeature = false) .forbiddenFeature
  pure (resolved.insert evidenceId node.features)

def deriveNode (packages : Packages) (nodes : SortedMap Bytes (List Bytes)) (node : MetadataNode) :
    Result (SortedMap Bytes (List Bytes)) := do
  let package ← context .invalidResolveGraph packages[node.id]?
  let evidenceId ← evidencePackageId root package
  ensure (¬(hasDuplicates node.features = true ∨ nodes[evidenceId]? ≠ none)) .invalidResolveGraph
  pure (nodes.insert evidenceId node.features)

/-- The loop over the evidence from the entry after `previous` on. -/
def checkFeatureTree (resolved : SortedMap Bytes (List Bytes)) (previous : Option Bytes) :
    List FeatureTreePackage → Result Unit
  | [] => .ok ()
  | package :: rest => do
    ensure (¬((previous.any fun id => (compare id package.packageId).isGE) = true ∨
      isStrictlySorted package.features = false ∨ package.features.any isForbiddenFeature = true)) .featureTreeMismatch
    let actual ← context .featureTreeMismatch resolved[package.packageId]?
    ensure (actual.toFinset = package.features.toFinset) .featureTreeMismatch
    checkFeatureTree resolved (some package.packageId) rest

def validateFeatureEvidence (resolved : SortedMap Bytes (List Bytes)) (evidence : List FeatureTreePackage) :
    Result Unit := do
  ensure (resolved.size = evidence.length) .featureTreeMismatch
  checkFeatureTree resolved none evidence

/-- The resolved nodes of the packages with a name. -/
def namedNodes (packages : Packages) (name : Bytes) (nodes : List MetadataNode) : List MetadataNode :=
  nodes.filter fun node => packages[node.id]?.any fun package => package.name == name

def validateZkvmNodes (zkvmNodes : List MetadataNode) : CargoClosureRole → Result Unit
  | .generatorHost => do
    let zkvm ← context .invalidRisc0ZkvmPackageCount (if zkvmNodes.length = 1 then zkvmNodes.head? else none)
    ensure (utf8 "default" ∉ zkvm.features) (.disallowedRisc0ZkvmFeature "default")
    requiredHostFeatures.forM fun feature =>
      ensure (utf8 feature ∈ zkvm.features) (.missingRequiredRisc0ZkvmFeature feature)
  | .guest => do
    let zkvm ← context .invalidRisc0ZkvmPackageCount (if zkvmNodes.length = 1 then zkvmNodes.head? else none)
    ensure (utf8 "default" ∉ zkvm.features) (.disallowedRisc0ZkvmFeature "default")
    ensure (utf8 "prove" ∉ zkvm.features) (.disallowedRisc0ZkvmFeature "prove")
  | .methodsBuild => ensure (zkvmNodes = []) .invalidRisc0ZkvmPackageCount

def validateMethodsNodes (methodsNodes : List MetadataNode) (role : CargoClosureRole) : Result Unit := do
  let methods ← context .invalidMethodsPackageCount (if methodsNodes.length = 1 then methodsNodes.head? else none)
  let embedsMethods := decide (utf8 requiredMethodsFeature ∈ methods.features)
  ensure (role = .guest ∨ embedsMethods = true) (.missingRequiredMethodsFeature requiredMethodsFeature)
  ensure (role ≠ .guest ∨ embedsMethods = false) (.disallowedMethodsFeature requiredMethodsFeature)

def validateRolePolicy (nodes : List MetadataNode) (packages : Packages) (role : CargoClosureRole) : Result Unit := do
  validateZkvmNodes (namedNodes packages requiredHostCrate nodes) role
  validateMethodsNodes (namedNodes packages requiredMethodsCrate nodes) role

def validateCargoClosure (metadata : MetadataDocument) (evidence : CargoClosureEvidence) : Result Unit := do
  validateEvidenceMarkers root evidence
  validateConfiguration evidence.configuration
  let resolve ← context .invalidResolveGraph metadata.resolve
  let packages ← indexPackages (validatePackageSource root) metadata.packages
  let resolvedFeatures ← resolve.nodes.foldlM (resolveNode root packages) ∅
  validateFeatureEvidence resolvedFeatures evidence.featureTree
  validateRolePolicy resolve.nodes packages evidence.role

def deriveCargoClosureEvidence (metadata : MetadataDocument) (role : CargoClosureRole)
    (configuration : CargoConfigurationEvidence) : Result CargoClosureEvidence := do
  let resolve ← context .invalidResolveGraph metadata.resolve
  let packages ← indexPackages (fun _ => .ok ()) metadata.packages
  let nodes ← resolve.nodes.foldlM (deriveNode root packages) ∅
  pure {
    schema := evidenceSchema
    lifecycle := candidate
    profileRootIdentity := root.publicIdentity
    role := role
    featureTree := nodes.toList.map fun node => ⟨node.1, sortFeatures node.2⟩
    configuration := configuration }

end Resolve

end Eip0045.CargoClosure
