import Eip0045.Library.Bytes
import Eip0045.Library.CanonicalJson
import Eip0045.Library.Checked

/-! The Git object ID of a checked-out source tree, rebuilt from the file system. -/

namespace Eip0045.GitTree

open Bytes Checked CanonicalJson

abbrev Sha1Digest := ByteArr 20

/-- A regular file that does not change; its length is a word of 64 bits. -/
structure RegularFile where
  permissions : ℕ
  content : Bytes
  length_lt : content.length < 2 ^ 64
  deriving DecidableEq

def RegularFile.executable (file : RegularFile) : Bool := file.permissions &&& 0o111 ≠ 0

/-- The entries of one directory, in the order in which they are enumerated. -/
inductive Listing
  | empty
  | file (name : Bytes) (contents : RegularFile) (rest : Listing)
  | directory (name : Bytes) (children rest : Listing)
  | special (name : Bytes) (rest : Listing)
  deriving DecidableEq

/-- What is found under the source root. -/
inductive SourceRoot
  | directory (listing : Listing)
  | other

inductive GitTreeError
  | rootNotDirectory
  | invalidFilename
  | checkoutGitNotDirectory
  | checkoutCargoOkNotFile
  | nestedAdministrationData
  | specialNode (path : List Bytes)
  | lengthOverflow
  | changedWhileHashing
  deriving DecidableEq

abbrev Result (α : Type) := Except GitTreeError α

structure GitTreeEntry where
  name : Bytes
  sortKey : Bytes
  mode : Bytes
  digest : Sha1Digest
  deriving DecidableEq

def slash : UInt8 := 47

def dotGit : Bytes := utf8 ".git"

def dotCargoOk : Bytes := utf8 ".cargo-ok"

inductive FileType
  | directory
  | regularFile
  | special
  deriving DecidableEq

section Hashing

variable (sha1 : Bytes → Sha1Digest)

def header (kind : Bytes) (length : ℕ) : Bytes := kind ++ utf8 " " ++ decimal length ++ [0]

def hashGitObject (kind body : Bytes) : Sha1Digest := sha1 (header kind body.length ++ body)

def readBufferLength : ℕ := 64 * 1024

/-- The read loop: the length observed, and the bytes given to the digest. -/
def readBlob (unread : Bytes) (observedLength : ℕ) (hashed : Bytes) : Result (ℕ × Bytes) :=
  if _h : unread = [] then pure (observedLength, hashed)
  else do
    let read := unread.take readBufferLength
    let observedLength ← context .lengthOverflow (checkedAdd observedLength read.length)
    readBlob (unread.drop readBufferLength) observedLength (hashed ++ read)
termination_by unread.length
decreasing_by
  rw [List.length_drop]
  have := List.length_pos_iff.mpr _h
  have : 0 < readBufferLength := by decide
  omega

def hashGitBlob (file : RegularFile) : Result Sha1Digest := do
  let (observedLength, hashed) ← readBlob file.content 0 (header (utf8 "blob") file.content.length)
  ensure (observedLength = file.content.length) .changedWhileHashing
  pure (sha1 hashed)

end Hashing

section Directories

/-- Whether the entry is hashed; the root's own `.git` and `.cargo-ok` are left out. -/
def admitEntry (isRoot : Bool) (name : Bytes) (fileType : FileType) : Result Bool := do
  ensure (¬(name = [] ∨ 0 ∈ name ∨ slash ∈ name)) .invalidFilename
  if isRoot ∧ name = dotGit then do
    ensure (fileType = .directory) .checkoutGitNotDirectory
    pure false
  else if isRoot ∧ name = dotCargoOk then do
    ensure (fileType = .regularFile) .checkoutCargoOkNotFile
    pure false
  else do
    ensure (name ≠ dotGit) .nestedAdministrationData
    pure true

def directoryMode : Bytes := utf8 "40000"

def fileMode (file : RegularFile) : Bytes :=
  if file.executable then utf8 "100755" else utf8 "100644"

def entryFor (name mode : Bytes) (digest : Sha1Digest) (directoryEntry : Bool) : GitTreeEntry where
  name
  sortKey := name ++ [if directoryEntry then slash else 0]
  mode
  digest

def entryBytes (entry : GitTreeEntry) : Bytes :=
  entry.mode ++ utf8 " " ++ entry.name ++ [0] ++ entry.digest.val

variable (sha1 : Bytes → Sha1Digest)

/-- The digest of a directory from its entries, sorted. -/
def hashEntries (entries : List GitTreeEntry) : Sha1Digest :=
  hashGitObject sha1 (utf8 "tree")
    ((entries.mergeSort fun left right => left.sortKey ≤ right.sortKey).flatMap entryBytes)

/-- The loop over one directory, which hashes the directories that it meets. -/
def collectEntries (directory : List Bytes) : Bool → Listing → Result (List GitTreeEntry)
  | _, .empty => pure []
  | isRoot, .file name contents rest => do
    let admitted ← admitEntry isRoot name .regularFile
    if admitted then do
      let digest ← hashGitBlob sha1 contents
      let entries ← collectEntries directory isRoot rest
      pure (entryFor name (fileMode contents) digest false :: entries)
    else collectEntries directory isRoot rest
  | isRoot, .directory name children rest => do
    let admitted ← admitEntry isRoot name .directory
    if admitted then do
      let inside ← collectEntries (directory ++ [name]) false children
      let entries ← collectEntries directory isRoot rest
      pure (entryFor name directoryMode (hashEntries sha1 inside) true :: entries)
    else collectEntries directory isRoot rest
  | isRoot, .special name rest => do
    let admitted ← admitEntry isRoot name .special
    if admitted then .error (.specialNode (directory ++ [name]))
    else collectEntries directory isRoot rest

def hashGitDirectory (directory : List Bytes) (isRoot : Bool) (listing : Listing) :
    Result Sha1Digest := do
  let entries ← collectEntries sha1 directory isRoot listing
  pure (hashEntries sha1 entries)

def computeGitTree : SourceRoot → Result Sha1Digest
  | .directory listing => hashGitDirectory sha1 [] true listing
  | .other => .error .rootNotDirectory

end Directories

end Eip0045.GitTree
