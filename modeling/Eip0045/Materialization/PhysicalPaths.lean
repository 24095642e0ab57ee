import Mathlib
import Eip0045.Library.Hex
import Eip0045.Library.SortedMap
import Eip0045.Library.Stateful
import Eip0045.Materialization.SafePath

/-! The physical path closure: the paths that one materialization owns, with digests and roles. -/

namespace Eip0045.Materialization

open Bytes Checked Stateful

abbrev PathSet := Std.ExtTreeSet Bytes compare

inductive B4PhysicalPathRole
  | source
  | output
  deriving DecidableEq

structure B4PhysicalPathClosure where
  paths : PathSet
  sha256ByPath : SortedMap Bytes Bytes
  roleByPath : SortedMap Bytes B4PhysicalPathRole
  publicationPaths : PathSet

structure B4NegativeMaterializationExternalBytes where
  path : Bytes
  bytes : Bytes

abbrev Binding := Stateful String B4PhysicalPathClosure

variable (sha256 : Bytes → Digest)

def sha256Hex (bytes : Bytes) : Bytes := Hex.encode (sha256 bytes).val

def bindPath (path digest : Bytes) (allowExactReuse : Bool) (role : B4PhysicalPathRole)
    (label : String) : Binding Unit := do
  lift (mapError s!"{label} has an unsafe physical path" (validateSafeRelativePath path))
  let closure ← get
  if path ∈ closure.paths then
    lift (ensure (allowExactReuse = true ∧ role = .source ∧
        closure.roleByPath[path]? = some .source ∧ closure.sha256ByPath[path]? = some digest)
      s!"{label} aliases an existing physical role or rewrites its bytes: {text path}")
  else do
    lift (ensure ((closure.paths.toList.any fun existing => b4PathsConflict existing path) = false)
      s!"{label} path has an ancestor/descendant conflict with the retained authority closure")
    modify fun closure => { closure with paths := closure.paths.insert path }
    modify fun closure => { closure with sha256ByPath := closure.sha256ByPath.insert path digest }
    modify fun closure => { closure with roleByPath := closure.roleByPath.insert path role }

def bindPublicationSource (path bytes : Bytes) (label : String) : Binding Unit := do
  bindPath path (sha256Hex sha256 bytes) true .source label
  modify fun closure => { closure with publicationPaths := closure.publicationPaths.insert path }

def bindAuthoritySelectedSource (external : B4NegativeMaterializationExternalBytes)
    (label : String) : Binding Unit :=
  bindPath external.path (sha256Hex sha256 external.bytes) true .source label

def bindPriorReplay (external : B4NegativeMaterializationExternalBytes) (label : String) :
    Binding Unit := do
  lift (validateSafeRelativePath external.path)
  let closure ← get
  lift (ensure (external.path ∈ closure.paths)
    s!"{label} path is absent from the prior authority closure")
  lift (ensure (closure.roleByPath[external.path]? = some .source)
    s!"{label} prior path is not classified as a source")
  lift (ensure (closure.sha256ByPath[external.path]? = some (sha256Hex sha256 external.bytes))
    s!"{label} bytes differ from the prior path identity")

def bindPriorIdentity (identity : B4ContractArtifactIdentity) (label : String) : Binding Unit := do
  lift (mapError s!"{label} has an invalid identity" identity.validate)
  let closure ← get
  lift (ensure (identity.path ∈ closure.paths)
    s!"{label} path is absent from the prior authority closure: {text identity.path}")
  lift (ensure (closure.roleByPath[identity.path]? = some .source)
    s!"{label} prior path is not classified as a source")
  match closure.sha256ByPath[identity.path]? with
  | some previous =>
    lift (ensure (previous = identity.sha256)
      s!"{label} disagrees with an existing prior-authority digest")
  | none =>
    modify fun closure =>
      { closure with sha256ByPath := closure.sha256ByPath.insert identity.path identity.sha256 }

def bindNewSource (external : B4NegativeMaterializationExternalBytes) (allowExactReuse : Bool)
    (label : String) : Binding Unit := do
  let closure ← get
  lift (ensure (external.path ∉ closure.publicationPaths)
    s!"{label} cannot reuse an authenticated publication-owned path")
  bindPath external.path (sha256Hex sha256 external.bytes) allowExactReuse .source label

def bindUniqueOutput (external : B4NegativeMaterializationExternalBytes) (label : String) :
    Binding Unit := do
  let closure ← get
  lift (ensure (external.path ∉ closure.publicationPaths)
    s!"{label} cannot reuse an authenticated publication-owned path")
  bindPath external.path (sha256Hex sha256 external.bytes) false .output label

inductive Call
  | bindPublicationSource (path bytes : Bytes) (label : String)
  | bindAuthoritySelectedSource (external : B4NegativeMaterializationExternalBytes) (label : String)
  | bindPriorReplay (external : B4NegativeMaterializationExternalBytes) (label : String)
  | bindPriorIdentity (identity : B4ContractArtifactIdentity) (label : String)
  | bindNewSource (external : B4NegativeMaterializationExternalBytes) (allowExactReuse : Bool)
    (label : String)
  | bindUniqueOutput (external : B4NegativeMaterializationExternalBytes) (label : String)

namespace Call

def perform : Call → Binding Unit
  | bindPublicationSource path bytes label => Materialization.bindPublicationSource sha256 path bytes label
  | bindAuthoritySelectedSource external label =>
    Materialization.bindAuthoritySelectedSource sha256 external label
  | bindPriorReplay external label => Materialization.bindPriorReplay sha256 external label
  | bindPriorIdentity identity label => Materialization.bindPriorIdentity identity label
  | bindNewSource external allowExactReuse label =>
    Materialization.bindNewSource sha256 external allowExactReuse label
  | bindUniqueOutput external label => Materialization.bindUniqueOutput sha256 external label

def path : Call → Bytes
  | bindPublicationSource path .. => path
  | bindAuthoritySelectedSource external _ | bindPriorReplay external _
  | bindNewSource external .. | bindUniqueOutput external _ => external.path
  | bindPriorIdentity identity _ => identity.path

def digest : Call → Bytes
  | bindPublicationSource _ bytes _ => sha256Hex sha256 bytes
  | bindAuthoritySelectedSource external _ | bindPriorReplay external _
  | bindNewSource external .. | bindUniqueOutput external _ => sha256Hex sha256 external.bytes
  | bindPriorIdentity identity _ => identity.sha256

def IsOutput : Call → Prop
  | bindUniqueOutput .. => True
  | bindPublicationSource .. | bindAuthoritySelectedSource .. | bindPriorReplay ..
  | bindPriorIdentity .. | bindNewSource .. => False

end Call

end Eip0045.Materialization
