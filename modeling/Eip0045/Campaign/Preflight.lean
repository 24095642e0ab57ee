import Eip0045.Library.UnixPath
import Eip0045.Materialization.SafePath

/-! The projected layout of a campaign transaction: the roots of the earlier phases, the final root, its
staging sibling, and the leaves on both sides. A path is the list of its components. -/

namespace Eip0045.Campaign

open Bytes Checked UnixPath
open Materialization (isAsciiLowercase isAsciiDigit isWindowsDeviceName validateSafeRelativePath)

section Constants

def maxCampaignRelativePathBytes : ℕ := 240
def maxProjectedPriorRoots : ℕ := 16
def maxProjectedAdditionalLeaves : ℕ := 16
def innerPacketComponent : Bytes := utf8 "terminal-evidence-packet"
def publicationStagingSuffix : Bytes := utf8 ".b4-terminal-evidence-publication-staging"
def maxPublicationFinalComponentBytes : ℕ := 255 - 1 - 41

end Constants

section Checks

def validateNormalizedAbsolute (path : Path) (label : String) : Except String Unit := do
  ensure (isAbsolute path = true) s!"{label} must be absolute"
  ensure (∀ c ∈ path, c ≠ .curDir ∧ c ≠ .parentDir) s!"{label} contains a dot or parent component"
  ensure (join [] path = path) s!"{label} is not lexically normalized"

def requireStrictDescendant (path root : Path) (label : String) : Except String Path := do
  let relative ← context s!"{label} is not derived from its retained root" (stripPrefix path root)
  ensure (relative ≠ []) s!"{label} conflict: path must be strictly below its root"
  ensure (isAbsolute relative = false) s!"{label} escaped its retained root"
  pure relative

def validatePortableComponent (component : Bytes) (label : String) : Except String Unit := do
  ensure (1 ≤ component.length ∧ component.length ≤ maxCampaignRelativePathBytes)
    s!"{label} component length is outside the portable bound"
  ensure (component.all fun c => c < 128) s!"{label} must use the portable ASCII subset"
  ensure (component.head?.any fun c => isAsciiLowercase c || isAsciiDigit c)
    s!"{label} must start with a lowercase letter or digit"
  ensure (component.all fun c => isAsciiLowercase c || isAsciiDigit c || c == 46 || c == 95 || c == 45)
    s!"{label} contains a non-portable character"
  ensure (component ≠ utf8 "." ∧ component ≠ utf8 ".." ∧ component.getLast? ≠ some 46)
    s!"{label} contains a dot, parent, or trailing-dot component"
  ensure (isWindowsDeviceName ((component.splitOn 46).headD component) = false)
    s!"{label} contains a reserved Windows device component"

def normalName (label : String) : Component → Except String Bytes
  | .normal name => context s!"{label} contains a non-UTF-8 component" (toStr name)
  | _ => .error s!"{label} contains a noncanonical component"

/-- The length of the joined components, and their number. -/
def portableLength (label : String) : Path → ℕ → ℕ → Except String (ℕ × ℕ)
  | [], encodedLength, componentCount => pure (encodedLength, componentCount)
  | c :: rest, encodedLength, componentCount => do
    let component ← normalName label c
    validatePortableComponent component label
    let separated ← context "campaign relative-path length overflowed"
      (checkedAdd encodedLength (if componentCount ≠ 0 then 1 else 0))
    let encodedLength ← context "campaign relative-path length overflowed"
      (checkedAdd separated component.length)
    portableLength label rest encodedLength (componentCount + 1)

def validatePortableRelativePath (path : Path) (label : String) : Except String Unit := do
  ensure (path ≠ []) s!"{label} has an empty relative path"
  let measured ← portableLength label path 0 0
  ensure (measured.2 ≠ 0 ∧ 1 ≤ measured.1 ∧ measured.1 ≤ maxCampaignRelativePathBytes)
    s!"{label} length is outside the campaign-relative bound"

def campaignRelativePortablePath (path campaignRoot : Path) (label : String) : Except String Bytes := do
  let relative ← requireStrictDescendant path campaignRoot label
  validatePortableRelativePath relative label
  let components ← relative.mapM (normalName label)
  pure ([47].intercalate components)

def requireDirectDescendant (path root : Path) (label : String) : Except String Unit := do
  let relative ← requireStrictDescendant path root label
  ensure (relative.length = 1 ∧ relative.head?.any fun c => c matches .normal _)
    s!"{label} must be one direct component below its root"

def normalComponent (label : String) : Component → Except String Component
  | .normal name => pure (.normal name)
  | _ => .error s!"{label} contains a noncanonical component"

def joinPortableRelative (root : Path) (relativePath : Bytes) (label : String) : Except String Path := do
  let relative := ofText relativePath
  validatePortableRelativePath relative label
  let components ← relative.mapM (normalComponent label)
  pure (join root components)

end Checks

section Conflicts

def pathsConflict (left right : Path) : Bool := startsWith left right || startsWith right left

def display (path : Path) : String :=
  text ([47].intercalate (path.filterMap fun c =>
    match c with
    | .rootDir => some []
    | .curDir => some [46]
    | .parentDir => some [46, 46]
    | .normal name => some name))

def conflict (label : String) (left right : Path) : String :=
  s!"{label} conflict between {display left} and {display right}"

def requirePairwiseAntichain (label : String) : List Path → Except String Unit
  | [] => pure ()
  | left :: rest => do
    rest.forM fun right => ensure (pathsConflict left right = false) (conflict label left right)
    requirePairwiseAntichain label rest

def requireNoConflicts (paths forbiddenRoots : List Path) (label : String) : Except String Unit :=
  paths.forM fun path => forbiddenRoots.forM fun forbiddenRoot =>
    ensure (pathsConflict path forbiddenRoot = false) (conflict label path forbiddenRoot)

def requireEquivalentLeafClosure (staged projected : List Path) : Except String Unit := do
  ensure (staged.length = projected.length)
    "staged and projected leaf closures have different cardinality"
  (List.range staged.length).forM fun left => ((List.range staged.length).drop (left + 1)).forM fun right =>
    ensure (pathsConflict (staged.getD left []) (staged.getD right []) =
        pathsConflict (projected.getD left []) (projected.getD right []))
      "staging-to-final projection changed the component-wise leaf closure"

def projectStagedLeaf (stagedLeaf outerStagingRoot outerFinalRoot : Path) : Except String Path := do
  let relative ← context "staged leaf escaped the outer staging root"
    (stripPrefix stagedLeaf outerStagingRoot)
  ensure (relative ≠ [] ∧ isAbsolute relative = false)
    "staged leaf did not project to a strict relative path"
  let projected := join outerFinalRoot relative
  validateNormalizedAbsolute projected "projected final leaf"
  let projectedRelative ← requireStrictDescendant projected outerFinalRoot "projected final leaf"
  ensure (projectedRelative = relative)
    "component-wise staging-to-final projection changed the relative leaf"
  pure projected

end Conflicts

section CreateOnly

structure B4TerminalEvidencePublicationLayoutV1 where
  finalPath : Path
  parent : Path
  reservedStagingPath : Path
  deriving DecidableEq

def usablePublicationParent (path : Path) : Path :=
  let parent := (UnixPath.parent path).getD (ofText [46])
  if parent = [] then ofText [46] else parent

def validatePublicationFinalComponent (name : Bytes) : Except String Unit := do
  mapError "terminal-evidence destination final component is not portable" (validateSafeRelativePath name)
  ensure (47 ∉ name) "terminal-evidence destination must have exactly one final component"
  ensure (name.length ≤ maxPublicationFinalComponentBytes)
    "terminal-evidence destination final component exceeds the 213-byte derived staging bound"

def projectB4TerminalEvidencePublicationLayout (destination : Path) :
    Except String B4TerminalEvidencePublicationLayoutV1 := do
  let name ← context "terminal-evidence destination must have a portable final component"
    (fileName destination >>= toStr)
  validatePublicationFinalComponent name
  let parent := usablePublicationParent destination
  pure ⟨destination, parent, join parent (ofText ([46] ++ name ++ publicationStagingSuffix))⟩

structure CreateOnlyDirectoryLayout where
  finalPath : Path
  parent : Path
  reservedStagingPath : Path
  deriving DecidableEq

def validateNormalizedAbsolutePath (path : Path) : Except String Unit := do
  ensure (isAbsolute path = true) "create-only destination must be an absolute path"
  ensure (∀ c ∈ path, c ≠ .curDir ∧ c ≠ .parentDir)
    "create-only destination must be a normalized absolute path"
  ensure (join [] path = path) "create-only destination must be a normalized absolute path"

def projectCreateOnlyDirectoryLayout (destination : Path) : Except String CreateOnlyDirectoryLayout := do
  validateNormalizedAbsolutePath destination
  let canonical ← mapError "create-only destination basename is not portable"
    (projectB4TerminalEvidencePublicationLayout destination)
  ensure (canonical.finalPath = destination) "create-only final-path projection drift"
  pure ⟨canonical.finalPath, canonical.parent, canonical.reservedStagingPath⟩

end CreateOnly

section Layouts

structure ProjectedCampaignRootClosure where
  campaignRoot : Path
  priorRoots : List Path
  outerCreateOnly : CreateOnlyDirectoryLayout
  outerFinalRoot : Path
  outerStagingRoot : Path

structure ProjectedOuterCampaignLayout where
  campaignRoot : Path
  priorRoots : List Path
  outerCreateOnly : CreateOnlyDirectoryLayout
  outerFinalRoot : Path
  outerStagingRoot : Path
  stagedInnerFinalPath : Path
  stagedInnerStagingPath : Path
  projectedInnerFinalPath : Path
  projectedInnerStagingPath : Path
  requiredOuterTopLevelEntries : List Bytes
  requiredOuterTopLevelDirectories : List Bytes
  stagedAdditionalTopLevelLeaves : List Path
  projectedAdditionalTopLevelLeaves : List Path

def validatePriorRoot (campaignRoot priorRoot : Path) : Except String Unit := do
  validateNormalizedAbsolute priorRoot "prior root"
  let relative ← requireStrictDescendant priorRoot campaignRoot "prior root"
  validatePortableRelativePath relative "prior root"

def projectCampaignRootClosure (campaignRoot : Path) (priorRoots : List Path) (outerFinalRoot : Path) :
    Except String ProjectedCampaignRootClosure := do
  ensure (priorRoots.length ≤ maxProjectedPriorRoots)
    "projected layout exceeds the compiled prior-root bound"
  validateNormalizedAbsolute campaignRoot "campaign root"
  validateNormalizedAbsolute outerFinalRoot "outer final root"
  let outerFinalRelative ← requireStrictDescendant outerFinalRoot campaignRoot "outer final root"
  validatePortableRelativePath outerFinalRelative "outer final root"
  priorRoots.forM (validatePriorRoot campaignRoot)
  let outerCreateOnly ← mapError "outer create-only layout projection failed"
    (projectCreateOnlyDirectoryLayout outerFinalRoot)
  ensure (outerCreateOnly.finalPath = outerFinalRoot)
    "outer create-only projector changed the requested final root"
  let outerFinalParent ← context "outer final root has no parent" (parent outerFinalRoot)
  ensure (outerCreateOnly.parent = outerFinalParent)
    "outer create-only projector changed the requested final parent"
  let outerStagingRoot := outerCreateOnly.reservedStagingPath
  validateNormalizedAbsolute outerStagingRoot "outer staging root"
  let _ ← requireStrictDescendant outerStagingRoot campaignRoot "outer staging root"
  requirePairwiseAntichain "campaign root" (priorRoots ++ [outerFinalRoot, outerStagingRoot])
  pure ⟨campaignRoot, priorRoots, outerCreateOnly, outerFinalRoot, outerStagingRoot⟩

/-- The layout of the inner packet below the staging root. -/
def projectInnerLayout (outerStagingRoot : Path) : Except String B4TerminalEvidencePublicationLayoutV1 := do
  let stagedInnerDestination := join outerStagingRoot (ofText innerPacketComponent)
  let innerLayout ← mapError "inner terminal-evidence layout projection failed"
    (projectB4TerminalEvidencePublicationLayout stagedInnerDestination)
  ensure (innerLayout.finalPath = stagedInnerDestination)
    "inner projector changed the requested final path"
  ensure (innerLayout.parent = outerStagingRoot) "inner projector changed the requested staging parent"
  pure innerLayout

def validateStagedLeaf (outerStagingRoot leaf : Path) : Except String Unit := do
  validateNormalizedAbsolute leaf "staged top-level leaf"
  requireDirectDescendant leaf outerStagingRoot "staged top-level leaf"

/-- What follows the check that no staged leaf lies above another. -/
def projectFinalLeaves (closure : ProjectedCampaignRootClosure) (stagedLeaves : List Path) :
    Except String (List Path) := do
  requireNoConflicts stagedLeaves (closure.priorRoots ++ [closure.outerFinalRoot]) "staged top-level leaf"
  let projectedFinalLeaves ← stagedLeaves.mapM fun leaf =>
    projectStagedLeaf leaf closure.outerStagingRoot closure.outerFinalRoot
  requirePairwiseAntichain "projected final leaf" projectedFinalLeaves
  requireNoConflicts projectedFinalLeaves (closure.priorRoots ++ [closure.outerStagingRoot])
    "projected final leaf"
  requireEquivalentLeafClosure stagedLeaves projectedFinalLeaves
  requireNoConflicts stagedLeaves projectedFinalLeaves "staged/projected leaf"
  pure projectedFinalLeaves

def projectOuterCampaignLayout (campaignRoot : Path) (priorRoots : List Path) (outerFinalRoot : Path)
    (additionalTopLevelLeaves : List Bytes) : Except String ProjectedOuterCampaignLayout := do
  ensure (additionalTopLevelLeaves.length ≤ maxProjectedAdditionalLeaves)
    "projected layout exceeds the compiled additional-leaf bound"
  let closure ← projectCampaignRootClosure campaignRoot priorRoots outerFinalRoot
  let innerLayout ← projectInnerLayout closure.outerStagingRoot
  additionalTopLevelLeaves.forM fun leaf => validatePortableComponent leaf "additional top-level leaf"
  let stagedLeaves := [innerLayout.finalPath, innerLayout.reservedStagingPath] ++
    additionalTopLevelLeaves.map fun leaf => join closure.outerStagingRoot (ofText leaf)
  stagedLeaves.forM (validateStagedLeaf closure.outerStagingRoot)
  requirePairwiseAntichain "staged top-level leaf" stagedLeaves
  let projectedFinalLeaves ← projectFinalLeaves closure stagedLeaves
  let stagedInnerFinalPath ← context "inner final path disappeared from projected layout" stagedLeaves[0]?
  let stagedInnerStagingPath ← context "inner staging path disappeared from projected layout"
    stagedLeaves[1]?
  let projectedInnerFinalPath ← context "projected inner final path disappeared from layout"
    projectedFinalLeaves[0]?
  let projectedInnerStagingPath ← context "projected inner staging path disappeared from layout"
    projectedFinalLeaves[1]?
  pure {
    campaignRoot := closure.campaignRoot
    priorRoots := closure.priorRoots
    outerCreateOnly := closure.outerCreateOnly
    outerFinalRoot := closure.outerFinalRoot
    outerStagingRoot := closure.outerStagingRoot
    stagedInnerFinalPath := stagedInnerFinalPath
    stagedInnerStagingPath := stagedInnerStagingPath
    projectedInnerFinalPath := projectedInnerFinalPath
    projectedInnerStagingPath := projectedInnerStagingPath
    requiredOuterTopLevelEntries := innerPacketComponent :: additionalTopLevelLeaves
    requiredOuterTopLevelDirectories := [innerPacketComponent]
    stagedAdditionalTopLevelLeaves := stagedLeaves.drop 2
    projectedAdditionalTopLevelLeaves := projectedFinalLeaves.drop 2 }

end Layouts

section Locator

/-- What one prior root contributes to the search for the root of an archive. -/
def locateUnder (archiveTarget priorRoot : Path) : Except String (Option Bytes) :=
  match stripPrefix archiveTarget priorRoot with
  | none => pure none
  | some rootRelative =>
    if rootRelative = [] then pure none
    else do
      validatePortableRelativePath rootRelative "root-relative OCI archive path"
      let rootRelativePath ← campaignRelativePortablePath archiveTarget priorRoot
        "root-relative OCI archive target"
      let recomposed ← joinPortableRelative priorRoot rootRelativePath "root-relative OCI archive path"
      ensure (recomposed = archiveTarget)
        "root-relative OCI archive locator does not recompose byte-exactly"
      pure (some rootRelativePath)

def locate (archiveTarget : Path) : List (Path × ℕ) → Option (ℕ × Bytes) →
    Except String (Option (ℕ × Bytes))
  | [], resolved => pure resolved
  | (priorRoot, rootIndex) :: rest, resolved => do
    match ← locateUnder archiveTarget priorRoot with
    | none => locate archiveTarget rest resolved
    | some rootRelativePath => do
      ensure (resolved.isNone) "positive-profile OCI archive maps to multiple retained roots"
      locate archiveTarget rest (some (rootIndex, rootRelativePath))

def resolveAuthenticatedOciArchiveLocator (campaignRoot : Path) (priorRoots : List Path)
    (campaignArchivePath : Bytes) : Except String (ℕ × Bytes) := do
  let archiveTarget ← joinPortableRelative campaignRoot campaignArchivePath
    "positive-profile OCI archive path"
  validateNormalizedAbsolute archiveTarget "positive-profile OCI archive target"
  let canonicalCampaignPath ← campaignRelativePortablePath archiveTarget campaignRoot
    "positive-profile OCI archive target"
  ensure (canonicalCampaignPath = campaignArchivePath)
    "positive-profile OCI archive path does not round-trip byte-exactly"
  let resolved ← locate archiveTarget priorRoots.zipIdx none
  context "positive-profile OCI archive does not map to exactly one retained root" resolved

end Locator

end Eip0045.Campaign
