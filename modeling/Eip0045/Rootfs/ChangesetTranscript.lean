import Mathlib
import Eip0045.Library.Bytes
import Eip0045.Rootfs.Limits

/-! The changeset transcript of a layer: what its hash absorbs, entry by entry. -/

namespace Eip0045.Rootfs

open Checked

inductive ReplayWhiteout
  | remove (target : Bytes)
  | opaqueDirectory (path : Bytes)
  deriving DecidableEq

inductive ReplayEntryKind
  | regularFile (mode byteLength : UInt64)
  | directory (mode byteLength : UInt64)
  | symbolicLink (mode byteLength : UInt64) (target : Bytes)
  | whiteout (mode byteLength : UInt64) (operation : ReplayWhiteout)
  deriving DecidableEq

structure ReplayEntry where
  path : Bytes
  kind : ReplayEntryKind
  deriving DecidableEq

def ioBufferBytes : ℕ := 16 * 1024

/-- `EIP-0045 OCI layer changeset transcript v1\0` -/
def changesetTranscriptDomain : Bytes :=
  [69, 73, 80, 45, 48, 48, 52, 53, 32, 79, 67, 73, 32, 108, 97, 121, 101, 114, 32, 99, 104, 97, 110,
    103, 101, 115, 101, 116, 32, 116, 114, 97, 110, 115, 99, 114, 105, 112, 116, 32, 118, 49, 0]

/-- The hash state is kept as the bytes it has absorbed. -/
structure ChangesetTranscript where
  sha256 : Bytes
  entryOpen : Bool
  regularBytesRemaining : Option ℕ
  deriving DecidableEq

namespace ChangesetTranscript

def new : ChangesetTranscript where
  sha256 := changesetTranscriptDomain
  entryOpen := false
  regularBytesRemaining := none

def updateString (value : Bytes) : Bytes := Bytes.leBytes 8 value.length ++ value

def updateEntryIdentity (path : Bytes) (mode byteLength : UInt64) : Bytes :=
  updateString path ++ Bytes.leBytes 8 mode.toNat ++ Bytes.leBytes 8 byteLength.toNat

/-- What the start of an entry adds to the hash. -/
def entryBytes (entry : ReplayEntry) : Bytes :=
  0x01 :: match entry.kind with
    | .regularFile mode byteLength => 0x10 :: updateEntryIdentity entry.path mode byteLength
    | .directory mode byteLength => 0x11 :: updateEntryIdentity entry.path mode byteLength
    | .symbolicLink mode byteLength target =>
      0x12 :: (updateEntryIdentity entry.path mode byteLength ++ updateString target)
    | .whiteout mode byteLength (.remove target) =>
      0x13 :: (updateEntryIdentity entry.path mode byteLength ++ updateString target)
    | .whiteout mode byteLength (.opaqueDirectory path) =>
      0x14 :: (updateEntryIdentity entry.path mode byteLength ++ updateString path)

def payloadOf (entry : ReplayEntry) : Option ℕ :=
  match entry.kind with
  | .regularFile _ byteLength => some byteLength.toNat
  | .directory .. | .symbolicLink .. | .whiteout .. => none

def beginEntry (transcript : ChangesetTranscript) (entry : ReplayEntry) :
    Result ChangesetTranscript := do
  report (ensure (transcript.entryOpen = false)
    "OCI layer changeset transcript entry is already open")
  pure {
    sha256 := transcript.sha256 ++ entryBytes entry
    entryOpen := true
    regularBytesRemaining := payloadOf entry }

def writeRegularFileChunk (transcript : ChangesetTranscript) (chunk : Bytes) :
    Result ChangesetTranscript := do
  report (ensure (transcript.entryOpen = true) "OCI layer changeset transcript has no open entry")
  report (ensure (chunk ≠ [] ∧ chunk.length ≤ ioBufferBytes)
    "OCI layer replay chunk is outside its fixed streaming range")
  let remaining ← report (context "OCI layer replay emitted payload for a non-regular entry"
    transcript.regularBytesRemaining)
  report (ensure (chunk.length ≤ remaining)
    "OCI layer replay emitted more regular-file bytes than declared")
  pure { transcript with
    sha256 := transcript.sha256 ++ chunk
    regularBytesRemaining := some (remaining - chunk.length) }

def finishEntry (transcript : ChangesetTranscript) : Result ChangesetTranscript := do
  report (ensure (transcript.entryOpen = true) "OCI layer changeset transcript has no open entry")
  report (ensure (transcript.regularBytesRemaining.getD 0 = 0)
    "OCI layer replay ended before its regular-file payload")
  pure {
    sha256 := transcript.sha256 ++ [0xff]
    entryOpen := false
    regularBytesRemaining := none }

def finish (sha256 : Bytes → Digest) (transcript : ChangesetTranscript) : Result Digest := do
  report (ensure (transcript.entryOpen = false)
    "OCI layer changeset transcript ended with an open entry")
  pure (sha256 transcript.sha256)

end ChangesetTranscript

end Eip0045.Rootfs
