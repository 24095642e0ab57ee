import Mathlib
import Eip0045.Library.Bytes
import Eip0045.Library.Checked
import Eip0045.Library.FileTree
import Eip0045.Library.Hex
import Eip0045.Library.Paths

/-! The closed manifest of a corpus tree: its paths, its check, and its derivation by a walk. -/

namespace Eip0045.B4Tree

open Bytes Checked FileTree

def b4TreeManifestFormat : Bytes := utf8 "Eip0045B4TreeManifestV1"

def b4TreeManifestFormatVersion : UInt8 := 1

def b4TreeManifestPath : Bytes := utf8 "tree-manifest.json"

def b4LockPath : Bytes := utf8 "LOCK.json"

def maxTreeEntries : ℕ := 16 * 1024

def maxFileBytes : ℕ := 1024 * 1024 * 1024

def maxTotalFileBytes : ℕ := 16 * 1024 * 1024 * 1024

def maxPathBytes : ℕ := 512

def hashBufferBytes : ℕ := 64 * 1024

section Paths

def dot : UInt8 := 46

def toAsciiLowercase (bytes : Bytes) : Bytes :=
  bytes.map fun c => if 65 ≤ c ∧ c ≤ 90 then c + 32 else c

def eqIgnoreAsciiCase (left right : Bytes) : Bool := toAsciiLowercase left == toAsciiLowercase right

def isWindowsDeviceComponent (component : Bytes) : Bool :=
  let stem := (component.splitOn dot).headD component
  ["CON", "PRN", "AUX", "NUL", "CONIN$", "CONOUT$"].any
      (fun reserved => eqIgnoreAsciiCase stem (utf8 reserved)) ||
    (stem.length == 4 &&
      (eqIgnoreAsciiCase (stem.take 3) (utf8 "COM") || eqIgnoreAsciiCase (stem.take 3) (utf8 "LPT")) &&
      (stem.drop 3).all fun c => 49 ≤ c && c ≤ 57)

def isAmbiguousComponent (component : Bytes) : Bool :=
  component == [] || component == utf8 "." || component == utf8 ".." ||
    component.getLast? == some dot || component.getLast? == some 32 ||
    isWindowsDeviceComponent component

def validateRelativePath (path : Bytes) : Except String Unit := do
  ensure (path ≠ [] ∧ path.length ≤ maxPathBytes) "B4 tree path is empty or too long"
  ensure (path.all fun c => 0x21 ≤ c && c ≤ 0x7e) "B4 tree path is not printable space-free ASCII"
  ensure (path.head? ≠ some slash ∧ path.getLast? ≠ some slash ∧ 92 ∉ path ∧ 58 ∉ path)
    "B4 tree path is not canonical repository-relative POSIX"
  ensure ((path.splitOn slash).all fun component => !isAmbiguousComponent component)
    "B4 tree path contains an ambiguous component"

/-- The two paths that a manifest leaves out. -/
def isReserved (path : Bytes) : Bool :=
  toAsciiLowercase path == toAsciiLowercase b4TreeManifestPath ||
    toAsciiLowercase path == toAsciiLowercase b4LockPath

def rejectReservedTreePath (path : Bytes) : Except String Unit :=
  ensure (isReserved path = false) "B4 tree manifest entries cannot include the manifest or lock"

def parentPath (path : Bytes) : Option Bytes := (Paths.rsplitOnce slash path).map Prod.fst

end Paths

inductive B4TreeEntryV1
  | directory (path : Bytes)
  | file (byteLength : UInt64) (path sha256 : Bytes)
  deriving DecidableEq

namespace B4TreeEntryV1

def path : B4TreeEntryV1 → Bytes
  | .directory path => path
  | .file _ path _ => path

def isDirectory : B4TreeEntryV1 → Bool
  | .directory _ => true
  | .file _ _ _ => false

def isFile : B4TreeEntryV1 → Bool
  | .directory _ => false
  | .file _ _ _ => true

/-- The bytes that an entry adds to the total of its manifest. -/
def fileBytes : B4TreeEntryV1 → ℕ
  | .directory _ => 0
  | .file byteLength _ _ => byteLength.toNat

end B4TreeEntryV1

structure Eip0045B4TreeManifestV1 where
  format : Bytes
  formatVersion : UInt8
  entries : List B4TreeEntryV1
  directoryCount : UInt32
  fileCount : UInt32
  totalFileBytes : UInt64
  deriving DecidableEq

section Validate

/-- What the forward pass of the check has counted and seen. -/
structure Pass where
  previous : Option Bytes
  casefolded : Finset Bytes
  directories : ℕ
  files : ℕ
  total : ℕ
  knownDirectories : Finset Bytes

def Pass.start : Pass := ⟨none, ∅, 0, 0, 0, ∅⟩

/-- `checked_add(1)` on a word of 32 bits. -/
def checkedIncrement (n : ℕ) : Option ℕ := if n + 1 < 2 ^ 32 then some (n + 1) else none

def validateDigest (value : Bytes) (label : String) : Except String Unit :=
  ensure (value.length = 64 ∧ ∀ c ∈ value, Hex.IsLower c)
    s!"{label} is not exactly 32 lowercase hexadecimal bytes"

def Pass.count (pass : Pass) : B4TreeEntryV1 → Except String Pass
  | .directory path => do
    let directories ← context "B4 directory census overflows u32" (checkedIncrement pass.directories)
    ensure (path ∉ pass.knownDirectories) "duplicate B4 directory path"
    pure { pass with directories, knownDirectories := insert path pass.knownDirectories }
  | .file byteLength path sha256 => do
    ensure (byteLength.toNat ≤ maxFileBytes)
      s!"B4 tree file exceeds the per-file byte bound: {text path}"
    validateDigest sha256 "B4 tree file SHA-256"
    let files ← context "B4 file census overflows u32" (checkedIncrement pass.files)
    let total ← context "B4 total file bytes overflow u64" (checkedAdd pass.total byteLength.toNat)
    ensure (total ≤ maxTotalFileBytes) "B4 tree exceeds the total-file-byte bound"
    pure { pass with files, total }

def Pass.entry (pass : Pass) (index : ℕ) (entry : B4TreeEntryV1) : Except String Pass := do
  validateRelativePath entry.path
  rejectReservedTreePath entry.path
  ensure (pass.previous.all fun previous => compare previous entry.path == .lt)
    s!"B4 tree paths are duplicate or unsorted at index {index}"
  ensure (toAsciiLowercase entry.path ∉ pass.casefolded)
    s!"B4 tree contains an ASCII-case-fold path collision at index {index}"
  ensure ((parentPath entry.path).all fun parent => parent ∈ pass.knownDirectories)
    s!"B4 tree entry appears before or without its parent directory: {text entry.path}"
  ({ pass with
    previous := some entry.path
    casefolded := insert (toAsciiLowercase entry.path) pass.casefolded } : Pass).count entry

def Pass.entries (pass : Pass) (index : ℕ) : List B4TreeEntryV1 → Except String Pass
  | [] => pure pass
  | entry :: entries => do
    let pass ← pass.entry index entry
    pass.entries (index + 1) entries

def Eip0045B4TreeManifestV1.validate (manifest : Eip0045B4TreeManifestV1) : Except String Unit := do
  ensure (manifest.format = b4TreeManifestFormat) "wrong B4 tree-manifest format label"
  ensure (manifest.formatVersion = b4TreeManifestFormatVersion) "wrong B4 tree-manifest format version"
  ensure (manifest.entries ≠ [] ∧ manifest.entries.length ≤ maxTreeEntries)
    "B4 tree-manifest entry count is outside the V1 bound"
  let pass ← Pass.start.entries 0 manifest.entries
  ensure (pass.directories = manifest.directoryCount.toNat)
    "B4 tree directoryCount differs from its entries"
  ensure (pass.files = manifest.fileCount.toNat) "B4 tree fileCount differs from its entries"
  ensure (pass.total = manifest.totalFileBytes.toNat) "B4 tree totalFileBytes differs from its entries"

end Validate

section Walk

/-- What an entry of the corpus that is no directory is. -/
inductive Leaf
  | file (links : ℕ) (contents : Bytes)
  | symlink
  | special

inductive FileType
  | directory
  | file
  | symlink
  | special
  deriving DecidableEq

structure Metadata where
  fileType : FileType
  len : ℕ
  nlink : ℕ

def symlinkMetadata : Node Leaf → Metadata
  | .directory => ⟨.directory, 0, 1⟩
  | .leaf (.file links contents) => ⟨.file, contents.length, links⟩
  | .leaf .symlink => ⟨.symlink, 0, 1⟩
  | .leaf .special => ⟨.special, 0, 1⟩

def readable : Node Leaf → Bytes
  | .leaf (.file _ contents) => contents
  | _ => []

/-- `Path::display` of the entry with these names below the root, and SHA-256. -/
structure Host where
  display : List FileName → String
  sha256 : Bytes → Digest

abbrev Walk := List B4TreeEntryV1 → Except String (List B4TreeEntryV1)

variable (host : Host)

def rejectLinkOrReparse (names : List FileName) (metadata : Metadata) : Except String Unit :=
  ensure (metadata.fileType ≠ .symlink)
    s!"symlink or reparse point is forbidden: {host.display names}"

def requireSingleLink (names : List FileName) (metadata : Metadata) : Except String Unit :=
  ensure (metadata.nlink = 1) s!"hard-linked B4 tree file is forbidden: {host.display names}"

def isUtf8 (bytes : Bytes) : Bool := (⟨bytes.toArray⟩ : ByteArray).validateUTF8

def repositoryRelative (names : List FileName) : Except String Bytes := do
  ensure (names.all fun name => isUtf8 name.bytes) s!"B4 tree path is not UTF-8: {host.display names}"
  pure (join names)

/-- The read loop of `hash_regular_file`: each buffer adds to the observed length and to the hashed
bytes, until a read returns none. -/
def hashReads (names : List FileName) (limit : ℕ) (unread : Bytes) (observed : ℕ) (hashed : Bytes) :
    Except String (ℕ × Bytes) :=
  if _h : unread = [] then pure (observed, hashed)
  else do
    let buffer := unread.take hashBufferBytes
    let observed ← context "B4 tree observed length overflows u64" (checkedAdd observed buffer.length)
    ensure (observed ≤ limit) s!"B4 tree file grew while hashing: {host.display names}"
    hashReads names limit (unread.drop hashBufferBytes) observed (hashed ++ buffer)
termination_by unread.length
decreasing_by
  have := List.length_pos_iff.mpr _h
  rw [List.length_drop, hashBufferBytes]
  omega

/-- Nothing writes to the tree, so every observation of the file returns the same metadata. -/
def hashRegularFile (names : List FileName) (node : Node Leaf) : Except String (UInt64 × Bytes) := do
  let metadata := symlinkMetadata node
  rejectLinkOrReparse host names metadata
  ensure (metadata.fileType = .file) s!"B4 tree path is not a regular file: {host.display names}"
  ensure (metadata.len ≤ maxFileBytes)
    s!"B4 tree file exceeds the per-file byte bound: {host.display names}"
  requireSingleLink host names metadata
  let readLimit ← context "B4 tree file read bound overflows u64" (checkedAdd metadata.len 1)
  let hashed ← hashReads host names metadata.len ((readable node).take readLimit) 0 []
  ensure (hashed.1 = metadata.len) s!"B4 tree file changed length while hashing: {host.display names}"
  pure (UInt64.ofNat hashed.1, Hex.encode (host.sha256 hashed.2).val)

def ensureEntryBound (entries : List B4TreeEntryV1) : Except String Unit :=
  ensure (entries.length ≤ maxTreeEntries) "B4 tree exceeds the entry-count bound"

/-- An entry that is listed: a directory, which the walk descends into, or a file. -/
def visitListed (names : List FileName) (relative : Bytes) (node : Node Leaf) (descend : Walk) :
    Walk := fun entries =>
  match (symlinkMetadata node).fileType with
  | .directory => descend (entries ++ [.directory relative])
  | .file => do
    let hashed ← hashRegularFile host names node
    pure (entries ++ [.file hashed.1 relative hashed.2])
  | _ => .error s!"B4 tree entry is neither a directory nor a regular file: {host.display names}"

def visitReserved (relative : Bytes) (node : Node Leaf) : Except String Unit := do
  ensure (relative = b4TreeManifestPath ∨ relative = b4LockPath)
    s!"reserved B4 tree path has a noncanonical case alias: {text relative}"
  ensure ((symlinkMetadata node).fileType = .file)
    s!"reserved B4 tree path is not a regular file: {text relative}"

/-- One turn of the loop over the children of a directory. -/
def visitChild (names : List FileName) (node : Node Leaf) (descend : Walk) : Walk := fun entries => do
  let relative ← repositoryRelative host names
  validateRelativePath relative
  rejectLinkOrReparse host names (symlinkMetadata node)
  if isReserved relative then do
    visitReserved relative node
    pure entries
  else do
    let entries ← visitListed host names relative node descend entries
    ensureEntryBound entries
    pure entries

/-- The loop over the children of a directory, in the order of their names. -/
def visitChildren (names : List FileName) (children : List (FileName × Walk)) : Walk := fun entries => do
  ensureEntryBound entries
  rejectLinkOrReparse host names (symlinkMetadata .directory)
  ensure ((symlinkMetadata .directory).fileType = .directory)
    s!"B4 tree traversal target is not a directory: {host.display names}"
  (children.mergeSort fun left right => (compare left.1.bytes right.1.bytes).isLE).foldlM
    (fun entries child => child.2 entries) entries

def childVisits (parents : List FileName) : Directory Leaf → List (FileName × Walk)
  | .empty => []
  | .leaf name contents rest =>
    (name, visitChild host (parents ++ [name]) (.leaf contents) pure) :: childVisits parents rest
  | .directory name children rest =>
    (name, visitChild host (parents ++ [name]) .directory
      (visitChildren host (parents ++ [name]) (childVisits (parents ++ [name]) children))) ::
      childVisits parents rest

def collectTreeEntries (names : List FileName) (directory : Directory Leaf) : Walk :=
  visitChildren host names (childVisits host names directory)

def tryU32 (count : ℕ) : Option UInt32 := if count < 2 ^ 32 then some (UInt32.ofNat count) else none

def addFileBytes (total : UInt64) (entry : B4TreeEntryV1) : Except String UInt64 := do
  let total ← context "B4 tree total bytes overflow u64" (checkedAdd total.toNat entry.fileBytes)
  pure (UInt64.ofNat total)

def deriveTreeSnapshot (tree : FileTree Leaf) : Except String Eip0045B4TreeManifestV1 := do
  let entries ← collectTreeEntries host [] tree.root []
  let entries := entries.mergeSort fun left right => (compare left.path right.path).isLE
  let directoryCount ← context "B4 directory count does not fit u32"
    (tryU32 (entries.countP B4TreeEntryV1.isDirectory))
  let fileCount ← context "B4 file count does not fit u32"
    (tryU32 (entries.countP B4TreeEntryV1.isFile))
  let totalFileBytes ← entries.foldlM addFileBytes 0
  let manifest : Eip0045B4TreeManifestV1 :=
    ⟨b4TreeManifestFormat, b4TreeManifestFormatVersion, entries, directoryCount, fileCount,
      totalFileBytes⟩
  manifest.validate
  pure manifest

end Walk

end Eip0045.B4Tree
