import Mathlib
import Eip0045.Rootfs.Journal

/-! What paths, link targets and whiteout markers a staged operation may carry. -/

namespace Eip0045.Rootfs

open Checked

def layerPathMaxBytes : ℕ := 240
def symlinkTargetMaxBytes : ℕ := 100

def dot : UInt8 := 46

def components (path : Bytes) : List Bytes := path.splitOn slash

def validateNormalizedRootfsPath (path : Bytes) (label : String) : Result Unit := do
  report (ensure (1 ≤ path.length ∧ path.length ≤ layerPathMaxBytes)
    s!"{label} length is outside its closed range")
  report (ensure (0 ∉ path) s!"{label} contains a NUL byte")
  report (ensure (path.head? ≠ some slash) s!"{label} is not relative POSIX")
  report (ensure ((components path).all fun component =>
      component ≠ [] && component ≠ [dot] && component ≠ [dot, dot])
    s!"{label} is not lexically root-contained and canonical")

inductive ParsedWhiteout
  | remove (parent targetName : Bytes)
  | opaqueDirectory (parent : Bytes)
  deriving DecidableEq

/-- `.wh.` -/
def whiteoutPrefix : Bytes := [dot, 119, 104, dot]

/-- `.wh..wh..opq` -/
def opaqueMarker : Bytes := whiteoutPrefix ++ whiteoutPrefix ++ [dot, 111, 112, 113]

def parseRootfsWhiteout (path : Bytes) : Result (Option ParsedWhiteout) :=
  let (parent, basename) := (Paths.rsplitOnce slash path).getD ([], path)
  if ¬whiteoutPrefix <+: basename then pure none
  else if basename = opaqueMarker then pure (some (.opaqueDirectory parent))
  else do
    let targetName := basename.drop 4
    report (ensure (targetName ≠ []) "OCI rootfs whiteout basename is outside the closed syntax")
    report (ensure (parent.length + (if parent = [] then 0 else 1) + targetName.length ≤
        layerPathMaxBytes)
      "OCI rootfs whiteout target length is outside its closed range")
    pure (some (.remove parent targetName))

def parsedWhiteoutRemoveMatches (parsed : Option ParsedWhiteout) (target : Bytes) : Bool :=
  match parsed with
  | some (.remove parent targetName) =>
    if parent = [] then target = targetName else target = parent ++ slash :: targetName
  | some (.opaqueDirectory _) | none => false

/-- One component of a link target over the directories resolved so far. -/
def resolveTargetComponent (resolved : List Bytes) (component : Bytes) : Result (List Bytes) :=
  if component = [] ∨ component = [dot] then pure resolved
  else if component = [dot, dot] then do
    report (ensure (resolved ≠ []) "OCI rootfs symbolic-link target escapes the layer root")
    pure resolved.dropLast
  else pure (resolved ++ [component])

def validateSymlinkTarget (entryPath target : Bytes) : Result Unit := do
  report (ensure (target ≠ []) "OCI rootfs symbolic-link target is empty")
  report (ensure (target.length ≤ symlinkTargetMaxBytes)
    "OCI rootfs symbolic-link target exceeds its ustar field bound")
  report (ensure (0 ∉ target) "OCI rootfs symbolic-link target contains a NUL byte")
  let start := if target.head? = some slash then [] else (components entryPath).dropLast
  let _ ← (components target).foldlM resolveTargetComponent start
  pure ()

def regularFileMode (mode : ℕ) : Bool := mode = 0o444 || mode = 0o555

def validateStagedOperationIdentity (path : Bytes) (mode : UInt32) (byteLength : UInt64)
    (kind : OperationKind) : Result Unit := do
  validateNormalizedRootfsPath path "OCI rootfs operation path"
  let parsedWhiteout ← parseRootfsWhiteout path
  match kind with
  | .regular _ =>
    report (ensure (parsedWhiteout = none)
      "OCI rootfs regular operation uses reserved whiteout syntax")
    report (ensure (regularFileMode mode.toNat)
      "OCI rootfs regular operation mode is outside 0444/0555")
    layerStream.validateRegularFilePayloadBytes byteLength.toNat "OCI rootfs operation validation"
  | .directory =>
    report (ensure (parsedWhiteout = none)
      "OCI rootfs directory operation uses reserved whiteout syntax")
    report (ensure (mode = 0o555) "OCI rootfs directory mode is not 0555")
    report (ensure (byteLength = 0) "OCI rootfs directory payload is not empty")
  | .symbolicLink target =>
    report (ensure (parsedWhiteout = none)
      "OCI rootfs symbolic-link operation uses reserved whiteout syntax")
    report (ensure (mode = 0o777) "OCI rootfs symbolic-link mode is not 0777")
    report (ensure (byteLength = 0) "OCI rootfs symbolic-link payload is not empty")
    validateSymlinkTarget path target
  | .remove target =>
    report (ensure (mode = 0) "OCI rootfs whiteout mode is not 0000")
    report (ensure (byteLength = 0) "OCI rootfs whiteout payload is not empty")
    report (ensure (parsedWhiteoutRemoveMatches parsedWhiteout target)
      "OCI rootfs remove whiteout target is not derived exactly from its marker")
  | .opaqueDirectory subject =>
    report (ensure (mode = 0) "OCI rootfs whiteout mode is not 0000")
    report (ensure (byteLength = 0) "OCI rootfs whiteout payload is not empty")
    if subject = [] then pure ()
    else validateNormalizedRootfsPath subject "OCI rootfs opaque whiteout subject"
    report (ensure (parsedWhiteout = some (.opaqueDirectory subject))
      "OCI rootfs opaque whiteout subject is not derived exactly from its marker")

end Eip0045.Rootfs
