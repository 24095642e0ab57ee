import Mathlib
import Eip0045.Corpus.TreeManifest
import Eip0045.Library.SortedMap
import Eip0045.Library.Jcs

/-! The check of a JVM COPY-ONLY inclusion manifest against its descriptor (`reproduction/src/b4_positive_gate.rs`),
over parsed JSON values. -/

namespace Eip0045.JvmPackaging

open Bytes Checked Jcs

abbrev Result (α : Type) := Except (Fault String) α

section Values

mutual

def sameValue : Json → Json → Bool
  | .null, .null => true
  | .bool a, .bool b => a == b
  | .unsigned a, .unsigned b => a == b
  | .otherNumber a, .otherNumber b => a == b
  | .string a, .string b => a == b
  | .array as, .array bs => sameItems as bs
  | .object as, .object bs => sameFields as bs
  | _, _ => false

def sameItems : List Json → List Json → Bool
  | [], [] => true
  | a :: as, b :: bs => sameValue a b && sameItems as bs
  | _, _ => false

def sameFields : List (Bytes × Json) → List (Bytes × Json) → Bool
  | [], [] => true
  | (key, a) :: as, (key', b) :: bs => key == key' && sameValue a b && sameFields as bs
  | _, _ => false

end

def field (value : Json) (key : String) : Result Json :=
  match value with
  | .object fields => context (.reported ("missing required field " ++ key)) (fields.lookup (utf8 key))
  | _ => .error (.reported "JSON object is not a JSON object")

def asArray (key : String) : Json → Result (List Json)
  | .array items => .ok items
  | _ => .error (.reported (key ++ " is not an array"))

def asString (key : String) : Json → Result Bytes
  | .string text => .ok text
  | _ => .error (.reported (key ++ " is not a string"))

/-- The numbers that `as_u64` gives. -/
def asU64 (key : String) : Json → Result ℕ
  | .unsigned value => do
    ensure (value < 2 ^ 64) (.reported (key ++ " is not an unsigned integer"))
    pure value
  | _ => .error (.reported (key ++ " is not an unsigned integer"))

def arrayField (value : Json) (key : String) : Result (List Json) := do
  let found ← field value key
  asArray key found

def stringField (value : Json) (key : String) : Result Bytes := do
  let found ← field value key
  asString key found

def u64Field (value : Json) (key : String) : Result ℕ := do
  let found ← field value key
  asU64 key found

def requireStringEq (value : Json) (key expected : String) : Result Unit := do
  let found ← stringField value key
  ensure (found = utf8 expected) (.reported (key ++ " differs from " ++ expected))

def requireSame (actual expected : Json) (key : String) (message : String) : Result Unit := do
  let found ← field actual key
  let bound ← field expected key
  ensure (sameValue found bound = true) (.reported message)

end Values

structure BoundDocument where
  relativePath : Bytes
  bytes : Bytes
  value : Json
  sha256 : Bytes

def BoundDocument.identityWithPath (document : BoundDocument) (format : String) : Json :=
  .object [
    (utf8 "byteLength", .unsigned document.bytes.length),
    (utf8 "encoding", .string (utf8 "rfc8785-jcs")),
    (utf8 "format", .string (utf8 format)),
    (utf8 "path", .string document.relativePath),
    (utf8 "sha256", .string document.sha256)]

def requireArchiveIdentityFields (actual expected : Json) (requireFileFormat : Bool) (label : String) :
    Result Unit := do
  ["path", "byteLength", "sha256", "encoding"].forM fun key =>
    requireSame actual expected key (label ++ " " ++ key ++ " differs from its bound identity")
  if requireFileFormat then
    requireSame actual expected "fileFormat" (label ++ " fileFormat differs from its bound identity")
  else .ok ()

section Inputs

def application : Bytes := utf8 "application"
def manifestName : Bytes := utf8 "META-INF/MANIFEST.MF"

/-- `format!("dependency-{index:03}")`. -/
def dependencyId (index : ℕ) : Bytes :=
  let digits := CanonicalJson.decimal index
  utf8 "dependency-" ++ List.replicate (3 - digits.length) 48 ++ digits

def checkDependency (inputs : List Json) (indexed : Json × ℕ) : Result Unit := do
  let ecosystem ← stringField indexed.1 "ecosystem"
  ensure (ecosystem = utf8 "maven" ∨ ecosystem = utf8 "local")
    (.reported "JVM COPY-ONLY dependency input has a non-JAR ecosystem")
  let input ← item inputs (indexed.2 + 1)
  let id ← stringField input "id"
  ensure (id = dependencyId indexed.2) (.reported "JVM COPY-ONLY dependency input ID is not canonical")
  requireStringEq input "role" "dependency-artifact"
  let artifact ← field indexed.1 "artifact"
  requireArchiveIdentityFields input artifact false "JVM COPY-ONLY dependency input"

end Inputs

section Entries

structure Scan where
  outputNames : List Bytes
  foldedOutputNames : List Bytes
  sourceEntries : List Bytes
  previousNonManifestName : Option Bytes
  totalBytes : ℕ
  largestEntry : ℕ
  classEntries : ℕ
  applicationEntries : ℕ
  selectedInputEntries : SortedMap Bytes ℕ
  manifestEntryLength : Option ℕ

def Scan.empty : Scan := ⟨[], [], [], none, 0, 0, 0, 0, ∅, none⟩

def isClass (name : Bytes) : Bool := (utf8 ".class").isSuffixOf name

/-- `checked_add` of 64-bit counters. -/
def addChecked (a b : ℕ) (overflow : String) : Result ℕ := context (.reported overflow) (checkedAdd a b)

/-- A counter that goes up where the condition holds. -/
def countWhen (c : Prop) [Decidable c] (count : ℕ) (overflow : String) : Result ℕ :=
  if c then addChecked count 1 overflow else .ok count

def scanEntry (inputIds : List Bytes) (mainClassEntry : Bytes) (scan : Scan) (indexed : Json × ℕ) : Result Scan := do
  let name ← stringField indexed.1 "name"
  ensure (name ∉ scan.outputNames) (.reported "JVM COPY-ONLY output entry name is duplicated")
  let folded := B4Tree.toAsciiLowercase name
  ensure (folded ∉ scan.foldedOutputNames) (.reported "JVM COPY-ONLY output entry has an ASCII case-fold collision")
  ensure (indexed.2 = 0 ∨ ∀ previous ∈ scan.previousNonManifestName, previous < name)
    (.reported "JVM COPY-ONLY output entry names are not in canonical order")
  let previousNonManifestName := if indexed.2 > 0 then some name else scan.previousNonManifestName
  let sourceEntryName ← stringField indexed.1 "sourceEntryName"
  ensure (sourceEntryName = name) (.reported "JVM COPY-ONLY entry relocation is forbidden")
  let sourceInput ← stringField indexed.1 "sourceInputId"
  ensure (sourceInput ∈ inputIds) (.reported "JVM COPY-ONLY entry names an unknown source input")
  ensure (¬(name = manifestName ∨ name = mainClassEntry) ∨ sourceInput = application)
    (.reported "JVM COPY-ONLY manifest and Main-Class entries must come from the application input")
  let applicationEntries ← countWhen (sourceInput = application) scan.applicationEntries
    "JVM COPY-ONLY application-entry count overflow"
  let selectedCount ← addChecked (scan.selectedInputEntries.getD sourceInput 0) 1
    "JVM COPY-ONLY per-input selected-entry count overflow"
  let sourceEntry := sourceInput ++ [0] ++ name
  ensure (sourceEntry ∉ scan.sourceEntries) (.reported "JVM COPY-ONLY source entry is selected more than once")
  let byteLength ← u64Field indexed.1 "byteLength"
  let totalBytes ← addChecked scan.totalBytes byteLength "JVM COPY-ONLY aggregate entry length overflow"
  let classEntries ← countWhen (isClass name = true) scan.classEntries "JVM COPY-ONLY class-entry count overflow"
  pure {
    outputNames := name :: scan.outputNames
    foldedOutputNames := folded :: scan.foldedOutputNames
    sourceEntries := sourceEntry :: scan.sourceEntries
    previousNonManifestName := previousNonManifestName
    totalBytes := totalBytes
    largestEntry := max scan.largestEntry byteLength
    classEntries := classEntries
    applicationEntries := applicationEntries
    selectedInputEntries := scan.selectedInputEntries.insert sourceInput selectedCount
    manifestEntryLength := if name = manifestName then some byteLength else scan.manifestEntryLength }

def checkSelected (scan : Scan) (dependencyInput : Json) : Result Unit := do
  let inputId ← stringField dependencyInput "id"
  let selectedCount := scan.selectedInputEntries.getD inputId 0
  let regularEntryCount ← u64Field dependencyInput "regularEntryCount"
  ensure (selectedCount ≤ regularEntryCount)
    (.reported ("JVM COPY-ONLY manifest selects more entries from " ++ text inputId ++
      " than the dependency archive declares"))

/-- `a - b` of 64-bit counters. -/
def subtract (a b : ℕ) : Result ℕ := if b ≤ a then .ok (a - b) else .error .outOfRange

/-- A figure that the descriptor declares of the output archive. -/
def declared (artifact : Json) (part key : String) : Result ℕ := do
  let found ← field artifact part
  u64Field found key

/-- The scan of the non-class files is only read where the class files agree. -/
def classFiguresAgree (artifact : Json) (classEntries nonClassEntries : ℕ) : Result Bool := do
  let classFiles ← declared artifact "classFiles" "classEntryCount"
  if classEntries = classFiles then do
    let nonClassFiles ← declared artifact "nonClassFiles" "regularEntryCount"
    pure (nonClassEntries == nonClassFiles)
  else pure false

/-- The checks of the figures after the loop. -/
def checkFigures (artifact : Json) (entryCount : ℕ) (scan : Scan) : Result Unit := do
  let directories ← declared artifact "archive" "directoryEntryCount"
  ensure (directories = 0) (.reported "JVM COPY-ONLY output cannot contain directory entries")
  ensure (entryCount < 2 ^ 64) (.reported "JVM COPY-ONLY entry count does not fit u64")
  let regular ← declared artifact "archive" "regularFileEntryCount"
  ensure (entryCount = regular) (.reported "JVM COPY-ONLY manifest entry count differs from the output JAR")
  let total ← declared artifact "archive" "entryCount"
  ensure (entryCount = total)
    (.reported "JVM COPY-ONLY manifest entry count differs from the total output entry count")
  let uncompressed ← declared artifact "archive" "uncompressedByteLength"
  ensure (scan.totalBytes = uncompressed)
    (.reported "JVM COPY-ONLY entry lengths differ from the output JAR aggregate")
  let largest ← declared artifact "archive" "largestEntryUncompressedByteLength"
  ensure (scan.largestEntry = largest) (.reported "JVM COPY-ONLY largest entry differs from the output JAR")
  let nonClassEntries ← subtract entryCount scan.classEntries
  let agree ← classFiguresAgree artifact scan.classEntries nonClassEntries
  ensure (agree = true)
    (.reported "JVM COPY-ONLY class/non-class entry counts differ from the output JAR scan")
  let manifestByteLength ← declared artifact "manifest" "manifestByteLength"
  ensure (scan.manifestEntryLength = some manifestByteLength)
    (.reported "JVM COPY-ONLY manifest length differs from the output JAR scan")
  let manifest ← field artifact "manifest"
  let mainClassEntry ← stringField manifest "mainClassEntry"
  ensure (mainClassEntry ∈ scan.outputNames) (.reported "JVM COPY-ONLY output omits the declared Main-Class entry")

end Entries

/-- The policy and the inclusion-manifest commitment. -/
def checkPolicy (manifest : BoundDocument) (packaging : Json) : Result Unit := do
  requireStringEq manifest.value "policy" "eip0045-b4-jvm-copy-only-packaging-v1"
  requireStringEq manifest.value "applicationSelection" "all-regular-entries"
  requireStringEq manifest.value "dependencySelection" "reviewed-exact-copy-list"
  requireStringEq manifest.value "inputArchivePolicy" "eip0045-b4-jar-source-read-v1"
  requireStringEq manifest.value "archivePolicy" "eip0045-b4-canonical-jar-zip-v1"
  let inclusionManifest ← field packaging "inclusionManifest"
  ensure (sameValue inclusionManifest (manifest.identityWithPath "Eip0045B4JvmCopyOnlyInclusionManifestV1") = true)
    (.reported "JVM COPY-ONLY inclusion-manifest commitment is stale")

def checkApplication (input packaging : Json) : Result Unit := do
  requireStringEq input "id" "application"
  requireStringEq input "role" "application-intermediate"
  let applicationInput ← field packaging "applicationInput"
  requireArchiveIdentityFields input applicationInput true "JVM COPY-ONLY application input"
  let applicationInput ← field packaging "applicationInput"
  requireSame input applicationInput "regularEntryCount"
    "JVM COPY-ONLY application input regular-entry count is stale"

def validateJvmCopyOnlyInclusionManifest (manifest : BoundDocument) (descriptor : Json) : Result Unit := do
  let artifact ← field descriptor "artifact"
  let packaging ← field artifact "packaging"
  checkPolicy manifest packaging
  let inputs ← arrayField manifest.value "inputs"
  let dependencyClosure ← field descriptor "dependencyClosure"
  let dependencies ← arrayField dependencyClosure "entries"
  ensure (inputs.length = dependencies.length + 1)
    (.reported "JVM COPY-ONLY input count differs from the application plus dependency closure")
  let applicationInput ← item inputs 0
  checkApplication applicationInput packaging
  dependencies.zipIdx.forM (checkDependency inputs)
  let generatedEntries ← arrayField manifest.value "generatedEntries"
  ensure (generatedEntries = []) (.reported "JVM COPY-ONLY generated entries must be empty")
  let entries ← arrayField manifest.value "entries"
  let first ← item entries 0
  let firstName ← stringField first "name"
  ensure (firstName = manifestName) (.reported "JVM COPY-ONLY manifest entry is not first")
  let inputIds ← inputs.mapM fun input => stringField input "id"
  ensure inputIds.Nodup (.reported "JVM COPY-ONLY input IDs are duplicated")
  let manifestFigures ← field artifact "manifest"
  let mainClassEntry ← stringField manifestFigures "mainClassEntry"
  let scan ← entries.zipIdx.foldlM (scanEntry inputIds mainClassEntry) Scan.empty
  let regularEntryCount ← u64Field applicationInput "regularEntryCount"
  ensure (scan.applicationEntries = regularEntryCount)
    (.reported "JVM COPY-ONLY manifest does not select every application entry exactly once")
  (inputs.drop 1).forM (checkSelected scan)
  let _archive ← field artifact "archive"
  checkFigures artifact entries.length scan
  let output ← field manifest.value "output"
  requireArchiveIdentityFields output artifact true "JVM COPY-ONLY output"

end Eip0045.JvmPackaging
