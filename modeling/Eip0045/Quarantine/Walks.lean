import Eip0045.Corpus.TreeManifest
import Eip0045.Library.Hex
import Eip0045.Library.TreeLookup
import Eip0045.Library.Windows

/-! The quarantine of candidate artifacts: the manifest of what lies below the quarantine root, and the three walks
over the repository. -/

namespace Eip0045.Quarantine

open Bytes Checked FileTree Windows

section Data

/-- An entry that is no directory. A link is not followed; `resolves` says whether its target exists. -/
inductive CandidateNode
  | regular (bytes : Bytes)
  | special
  | link (resolves : Bool)
  deriving DecidableEq

inductive CandidateEncoding
  | rawBytes
  | rfc8785Jcs
  deriving DecidableEq

structure CandidateArtifact where
  encoding : CandidateEncoding
  path : Bytes
  sha256 : Bytes

structure CandidateCorpusManifest where
  artifacts : List CandidateArtifact

inductive ReferenceKind
  | candidatePath
  | candidateDigest
  deriving DecidableEq

inductive FinalKind
  | reproductionLock
  | reproductionSchema
  | runPrecommit
  | runEvidence
  | runEvidenceSignature
  deriving DecidableEq

inductive CandidateError
  | missing (label : String)
  | linkForbidden (names : List FileName)
  | notDirectory (label : String)
  | notCanonicalAscii (path : Bytes)
  | unsafeSegment (path : Bytes)
  | nonUtf8 (names : List FileName)
  | notDirectoryOrFile (names : List FileName)
  | unlisted (path : Bytes)
  | notClosed (expected found : ℕ)
  | digestSpelling (value : Bytes)
  | escapesQuarantine (path : Bytes)
  | notIncreasing (index : ℕ) (previous path : Bytes)
  | candidateMissing (path : Bytes)
  | candidateNotRegular (path : Bytes)
  | digestMismatch (path expected actual : Bytes)
  | notCanonicalJson (path : Bytes)
  | finalArtifact (kind : FinalKind) (path : Bytes)
  | promoted (relative candidate : Bytes)
  | digestUndecodable
  | rawDigestLeaked (relative candidate : Bytes)
  | referenceLeaked (kind : ReferenceKind) (relative reference : Bytes)
  deriving DecidableEq

abbrev Result := Except CandidateError

end Data

section Paths

def isSegmentStart (byte : UInt8) : Bool := (97 ≤ byte && byte ≤ 122) || (48 ≤ byte && byte ≤ 57)

def isSegmentByte (byte : UInt8) : Bool := isSegmentStart byte || byte == 46 || byte == 95 || byte == 45

def isSafeSegment (segment : Bytes) : Bool :=
  !segment.isEmpty && segment.head?.all isSegmentStart && segment.all isSegmentByte

def validateRelativePath (path : Bytes) : Result Unit := do
  ensure (¬(path = [] ∨ ¬(path.all fun byte => byte < 128) ∨ path.head? = some slash ∨ 92 ∈ path))
    (.notCanonicalAscii path)
  ensure ((path.splitOn slash).all isSafeSegment) (.unsafeSegment path)

def isLowerHex (byte : UInt8) : Bool := (48 ≤ byte && byte ≤ 57) || (97 ≤ byte && byte ≤ 102)

def validateSha256 (value : Bytes) : Result Unit :=
  ensure (¬(value.length ≠ 64 ∨ ¬value.all isLowerHex)) (.digestSpelling value)

def fileName (component : Bytes) : Option FileName :=
  if h : component ≠ [] ∧ slash ∉ component ∧ component ≠ utf8 "." ∧ component ≠ utf8 ".." then
    some ⟨component, h.1, h.2.1, h.2.2⟩
  else none

/-- The names of a path whose components are names. -/
def pathFromPosix (path : Bytes) : List FileName := (path.splitOn slash).filterMap fileName

def repositoryRelative (names : List FileName) : Result Bytes := do
  ensure (names.all fun name => B4Tree.isUtf8 name.bytes) (.nonUtf8 names)
  pure (join names)

def containsBytes (haystack needle : Bytes) : Bool :=
  !needle.isEmpty && (windows haystack needle.length).any fun window => window == needle

end Paths

section Lookup

/-- `symlink_metadata` of a path that has to be an ordinary directory. -/
def requireOrdinaryDirectory (label : String) (names : List FileName) :
    Option (Located CandidateNode) → Result (Directory CandidateNode)
  | none => .error (.missing label)
  | some (.leaf (.link _)) => .error (.linkForbidden names)
  | some (.leaf _) => .error (.notDirectory label)
  | some (.directory children) => .ok children

/-- `Path::exists`, which follows a link. -/
def pathExists : Option (Located CandidateNode) → Bool
  | none => false
  | some (.leaf (.link resolves)) => resolves
  | some _ => true

end Lookup

section Manifest

variable (sha256 : Bytes → Digest) (isCanonicalJson : Bytes → Bool) (tree : FileTree CandidateNode)

def sha256Hex (bytes : Bytes) : Bytes := Hex.encode (sha256 bytes).val

def candidateFile (path : Bytes) : Result Bytes :=
  let names := pathFromPosix path
  match tree.root.locate names with
  | none => .error (.candidateMissing path)
  | some (.leaf (.link _)) => .error (.linkForbidden names)
  | some (.leaf (.regular bytes)) => .ok bytes
  | some _ => .error (.candidateNotRegular path)

def validateArtifact (quarantineRoot : Bytes) (previous : Option Bytes) (index : ℕ)
    (artifact : CandidateArtifact) : Result Unit := do
  validateRelativePath artifact.path
  validateSha256 artifact.sha256
  ensure (quarantineRoot ++ [slash] <+: artifact.path) (.escapesQuarantine artifact.path)
  ensure (∀ before ∈ previous, before < artifact.path)
    (.notIncreasing index (previous.getD []) artifact.path)
  let bytes ← candidateFile tree artifact.path
  let actual := sha256Hex sha256 bytes
  ensure (actual = artifact.sha256) (.digestMismatch artifact.path artifact.sha256 actual)
  ensure (artifact.encoding = .rfc8785Jcs → isCanonicalJson bytes) (.notCanonicalJson artifact.path)

def validateArtifacts (quarantineRoot : Bytes) (previous : Option Bytes) (index : ℕ) :
    List CandidateArtifact → Result Unit
  | [] => .ok ()
  | artifact :: artifacts => do
    validateArtifact sha256 isCanonicalJson tree quarantineRoot previous index artifact
    validateArtifacts quarantineRoot (some artifact.path) (index + 1) artifacts

def validateCandidateManifest (quarantineRoot : Bytes) (manifest : CandidateCorpusManifest) : Result Unit :=
  validateArtifacts sha256 isCanonicalJson tree quarantineRoot none 0 manifest.artifacts

end Manifest

section Completeness

/-- The entries of a directory below the quarantine root, which are read in the order of their names. -/
def collectCandidateFiles (names : List FileName) : Directory CandidateNode → Result (List Bytes)
  | .empty => pure []
  | .leaf name node rest => do
    let relative ← repositoryRelative (names ++ [name])
    validateRelativePath relative
    match node with
    | .link _ => .error (.linkForbidden (names ++ [name]))
    | .special => .error (.notDirectoryOrFile (names ++ [name]))
    | .regular _ => do
      let others ← collectCandidateFiles names rest
      pure (relative :: others)
  | .directory name children rest => do
    let relative ← repositoryRelative (names ++ [name])
    validateRelativePath relative
    let below ← collectCandidateFiles (names ++ [name]) children
    let others ← collectCandidateFiles names rest
    pure (below ++ others)

/-- The merge of the listed paths with the collected ones: what is left of the listed ones. -/
def mergeListed : List Bytes → List Bytes → Result (List Bytes)
  | expected, [] => .ok expected
  | [], actual :: _ => .error (.unlisted actual)
  | listed :: expected, actual :: rest =>
    if listed < actual then mergeListed expected (actual :: rest)
    else if listed = actual then mergeListed expected rest
    else .error (.unlisted actual)
termination_by expected actual => expected.length + actual.length

def requireCompleteCandidateManifest (names : List FileName) (quarantine : Directory CandidateNode)
    (manifest : CandidateCorpusManifest) : Result Unit := do
  let collected ← collectCandidateFiles names quarantine
  let actual := collected.mergeSort fun left right => left ≤ right
  let expected := manifest.artifacts.map CandidateArtifact.path
  let _ ← mergeListed expected actual
  ensure (actual.length = expected.length) (.notClosed expected.length actual.length)

end Completeness

section FinalFiles

/-- The entries of a directory, less what lies under the quarantine root. -/
def collectRegularBelow (quarantine names : List FileName) :
    Directory CandidateNode → Result (List (Bytes × Bytes))
  | .empty => pure []
  | .leaf name node rest =>
    if quarantine <+: names ++ [name] then collectRegularBelow quarantine names rest
    else
      match node with
      | .link _ => .error (.linkForbidden (names ++ [name]))
      | .special => .error (.notDirectoryOrFile (names ++ [name]))
      | .regular bytes => do
        let relative ← repositoryRelative (names ++ [name])
        let others ← collectRegularBelow quarantine names rest
        pure ((relative, bytes) :: others)
  | .directory name children rest =>
    if quarantine <+: names ++ [name] then collectRegularBelow quarantine names rest
    else do
      let below ← collectRegularBelow quarantine (names ++ [name]) children
      let others ← collectRegularBelow quarantine names rest
      pure (below ++ others)

def collectRegularFiles (quarantine names : List FileName) :
    Located CandidateNode → Result (List (Bytes × Bytes))
  | located =>
    if quarantine <+: names then pure []
    else
      match located with
      | .leaf (.link _) => .error (.linkForbidden names)
      | .leaf .special => .error (.notDirectoryOrFile names)
      | .leaf (.regular bytes) => do
        let relative ← repositoryRelative names
        pure [(relative, bytes)]
      | .directory children => collectRegularBelow quarantine names children

/-- The walk from a path, where something exists there. -/
def collectRoot (tree : FileTree CandidateNode) (quarantine names : List FileName) :
    Result (List (Bytes × Bytes)) :=
  let located := tree.root.locate names
  match located with
  | none => pure []
  | some found => if pathExists located then collectRegularFiles quarantine names found else pure []

def reservedFinalKind (relative : Bytes) : Option FinalKind :=
  let lower := B4Tree.toAsciiLowercase relative
  if lower = utf8 "reproduction/lock.json" then some .reproductionLock
  else if lower = utf8 "reproduction/schema-v1.json" then some .reproductionSchema
  else if utf8 "reproduction/runs/" <+: lower then
    let name := (lower.splitOn slash).getLast?.getD []
    if name = utf8 "runprecommitv1.json" then some .runPrecommit
    else if name = utf8 "runevidencev1.json" then some .runEvidence
    else if name = utf8 "runevidencev1.sig" then some .runEvidenceSignature
    else none
  else none

/-- The body of the loop over the files below `reproduction`. -/
def refuseReserved (file : Bytes × Bytes) : Result Unit :=
  match reservedFinalKind file.1 with
  | some kind => .error (.finalArtifact kind file.1)
  | none => .ok ()

def reproductionRoot : List FileName := pathFromPosix (utf8 "reproduction")

def rejectReservedFinalArtifacts (tree : FileTree CandidateNode) (quarantine : List FileName) : Result Unit := do
  let files ← collectRoot tree quarantine reproductionRoot
  let files := files.mergeSort fun left right => left.1 ≤ right.1
  files.forM refuseReserved

end FinalFiles

section References

variable (sha256 : Bytes → Digest)

def finalLookingRoots : List Bytes :=
  [utf8 "activation", utf8 "contracts", utf8 "evidence/b7-freshness", utf8 "methods", utf8 "profiles",
    utf8 "reproduction/frozen", utf8 "vectors"]

def finalLookingFiles : List Bytes := [utf8 "reproduction/LOCK.json", utf8 "reproduction/schema-v1.json"]

def candidateReferences (manifest : CandidateCorpusManifest) : List (ReferenceKind × Bytes) :=
  let references := manifest.artifacts.flatMap fun artifact =>
    [(.candidatePath, B4Tree.toAsciiLowercase artifact.path), (.candidateDigest, artifact.sha256)]
  dedupByKey Prod.snd (references.mergeSort fun left right => left.2 ≤ right.2)

/-- One of the final-looking files, where it exists as a regular file. -/
def collectExact (tree : FileTree CandidateNode) (quarantine : List FileName) (exactFile : Bytes) :
    Result (List (Bytes × Bytes)) :=
  let names := pathFromPosix exactFile
  let located := tree.root.locate names
  if pathExists located ∧ ¬quarantine <+: names then
    match located with
    | some (.leaf (.link _)) => .error (.linkForbidden names)
    | some (.leaf (.regular bytes)) => pure [(exactFile, bytes)]
    | _ => pure []
  else pure []

def collectFinalFiles (tree : FileTree CandidateNode) (quarantine : List FileName) :
    Result (List (Bytes × Bytes)) := do
  let underRoots ← finalLookingRoots.mapM fun root => collectRoot tree quarantine (pathFromPosix root)
  let exactFiles ← finalLookingFiles.mapM fun file => collectExact tree quarantine file
  let finalFiles := underRoots.flatten ++ exactFiles.flatten
  pure (dedupByKey Prod.fst (finalFiles.mergeSort fun left right => left.1 ≤ right.1))

def scanFinalFile (manifest : CandidateCorpusManifest) (references : List (ReferenceKind × Bytes))
    (file : Bytes × Bytes) : Result Unit := do
  let finalDigest := sha256Hex sha256 file.2
  match manifest.artifacts.find? fun candidate => candidate.sha256 = finalDigest with
  | some candidate => .error (.promoted file.1 candidate.path)
  | none => do
    manifest.artifacts.forM fun candidate => do
      let rawDigest ← context .digestUndecodable (Hex.decode candidate.sha256)
      ensure (¬containsBytes file.2 rawDigest) (.rawDigestLeaked file.1 candidate.path)
    let lowercase := B4Tree.toAsciiLowercase file.2
    references.forM fun reference =>
      ensure (¬containsBytes lowercase reference.2) (.referenceLeaked reference.1 file.1 reference.2)

def rejectCandidateReferencesInFinalFiles (tree : FileTree CandidateNode) (quarantine : List FileName)
    (manifest : CandidateCorpusManifest) : Result Unit := do
  let references := candidateReferences manifest
  let finalFiles ← collectFinalFiles tree quarantine
  finalFiles.forM (scanFinalFile sha256 manifest references)

end References

/-- The guard, over the digest and over the reader of canonical JSON. -/
def validateCandidateQuarantine (sha256 : Bytes → Digest) (isCanonicalJson : Bytes → Bool)
    (tree : FileTree CandidateNode) (quarantineRoot : Bytes) (manifest : CandidateCorpusManifest) :
    Result Unit := do
  validateRelativePath quarantineRoot
  let names := pathFromPosix quarantineRoot
  let quarantine ← requireOrdinaryDirectory "candidate quarantine root" names (tree.root.locate names)
  validateCandidateManifest sha256 isCanonicalJson tree quarantineRoot manifest
  requireCompleteCandidateManifest names quarantine manifest
  rejectReservedFinalArtifacts tree names
  rejectCandidateReferencesInFinalFiles sha256 tree names manifest

end Eip0045.Quarantine
