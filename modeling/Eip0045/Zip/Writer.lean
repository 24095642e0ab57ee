import Eip0045.Zip.Reader

/-! The canonical STORED writer, over an output stream that may write in parts or fail. -/

namespace Eip0045.CanonicalZip

open Bytes Checked Packed

def maxWriteEntryCount : ℕ := 4096

inductive WriteName
  | str (name : String)
  | bytes (name : Bytes)
  deriving DecidableEq

structure SourceEntry where
  name : WriteName
  data : Bytes
  deriving DecidableEq

structure WriteEntry where
  rawName : Bytes
  name : String
  data : Bytes
  crc32 : ℕ
  localHeaderOffset : ℕ
  deriving DecidableEq

structure WriteReport where
  artifactSha256 : Bytes
  byteSize : ℕ
  entryCount : ℕ
  totalUncompressedSize : ℕ
  entriesAggregateSha256 : Bytes
  deriving DecidableEq

section Prepare

variable (L : Library)

def encodeAscii (name : String) : Option Bytes :=
  if name.toList.all fun c => c.toNat < 128 then
    some (name.toList.map fun c => UInt8.ofNat c.toNat)
  else none

def encodeName : WriteName → Result Bytes
  | .str name => context (.zipRejection "non_printable_or_non_ascii_name" "") (encodeAscii name)
  | .bytes rawName => pure rawName

def coerceWriteName (name : WriteName) : Result (Bytes × String) := do
  let rawName ← encodeName name
  let (decoded, isDirectory) ← validateName rawName
  require (isDirectory = false) "writer_directory_not_allowed"
  pure (rawName, decoded)

structure Collected where
  rawName : Bytes
  name : String
  data : Bytes
  crc32 : ℕ
  deriving DecidableEq

/-- One turn of the loop over the source, with the new total. -/
def collectEntry (exactNames foldedNames : List Bytes) (total : ℕ) (source : SourceEntry) :
    Result (Collected × ℕ) := do
  let (rawName, name) ← coerceWriteName source.name
  require (rawName ∉ exactNames) "duplicate_entry_name"
  require (asciiFold rawName ∉ foldedNames) "ascii_casefold_collision"
  require (source.data.length ≤ maxArchiveBytes) "entry_too_large"
  require (total + source.data.length ≤ maxArchiveBytes) "total_uncompressed_size_exceeded"
  let crc32 := (L.crc32 source.data 0).toNat
  require (crc32 ≠ 0xFFFFFFFF) "crc32_all_ones"
  pure (⟨rawName, name, source.data, crc32⟩, total + source.data.length)

def collectEntries : List SourceEntry → List Bytes → List Bytes → ℕ → ℕ → Result (List Collected)
  | [], _, _, _, _ => pure []
  | source :: rest, exactNames, foldedNames, total, count => do
    let (entry, total) ← collectEntry L exactNames foldedNames total source
    require (count + 1 ≤ maxWriteEntryCount) "writer_entry_count_exceeded"
    let entries ← collectEntries rest (entry.rawName :: exactNames)
      (asciiFold entry.rawName :: foldedNames) total (count + 1)
    pure (entry :: entries)

def orderedAfter : Option Bytes → List Bytes → Bool
  | _, [] => true
  | none, rawName :: rest => orderedAfter (some rawName) rest
  | some previous, rawName :: rest => previous < rawName && orderedAfter (some rawName) rest

def validateWriteOrder (entries : List Collected) : Result Unit := do
  require (1 ≤ entries.length ∧ entries.length ≤ maxWriteEntryCount) "invalid_writer_entry_count"
  let first ← context .outsideBuffer entries.head?
  require (first.rawName = manifestName) "manifest_not_first"
  require (orderedAfter none ((entries.drop 1).map Collected.rawName)) "non_canonical_entry_order"

def WriteEntry.localSize (entry : WriteEntry) : ℕ :=
  size localFormat + entry.rawName.length + entry.data.length

def WriteEntry.centralSize (entry : WriteEntry) : ℕ := size centralFormat + entry.rawName.length

/-- The entries with their offsets, and the offset after the last. -/
def placeEntries : List Collected → ℕ → Result (List WriteEntry × ℕ)
  | [], cursor => pure ([], cursor)
  | ⟨rawName, name, data, crc32⟩ :: rest, cursor => do
    require (cursor ≠ 0xFFFFFFFF ∧ data.length ≠ 0xFFFFFFFF) "zip64_sentinel"
    let entry : WriteEntry := ⟨rawName, name, data, crc32, cursor⟩
    let (entries, last) ← placeEntries rest (cursor + entry.localSize)
    pure (entry :: entries, last)

structure Prepared where
  entries : List WriteEntry
  cdOffset : ℕ
  cdSize : ℕ
  outputSize : ℕ
  deriving DecidableEq

def prepareWriteEntries (sources : List SourceEntry) : Result Prepared := do
  let collected ← collectEntries L sources [] [] 0 0
  validateWriteOrder collected
  let (entries, cdOffset) ← placeEntries collected 0
  let cdSize := (entries.map WriteEntry.centralSize).sum
  let outputSize := cdOffset + cdSize + size eocdFormat
  require (0xFFFFFFFF ∉ [cdOffset, cdSize] ∧ outputSize ≤ maxArchiveBytes)
    "canonical_output_too_large"
  pure ⟨entries, cdOffset, cdSize, outputSize⟩

end Prepare

section Streams

/-- A caller-owned binary stream: `write` answers with the count it reports, which Python does not
bound, or with `None`. -/
structure Stream where
  State : Type
  tell : State → Option ℕ
  write : State → Bytes → Except Raised (Option ℤ) × State

/-- The stream, the bytes it has taken in this call, and the bytes hashed so far. -/
structure Sink (S : Stream) where
  state : S.State
  delivered : Bytes
  digest : Bytes

/-- A computation that keeps the sink when it raises. -/
def Writer (S : Stream) (α : Type) : Type := Sink S → Result α × Sink S

variable {S : Stream} {α β : Type}

namespace Writer

def pure (a : α) : Writer S α := fun sink => (.ok a, sink)

def bind (w : Writer S α) (f : α → Writer S β) : Writer S β := fun sink =>
  match w sink with
  | (.ok a, next) => f a next
  | (.error raised, next) => (.error raised, next)

instance : Monad (Writer S) where
  pure := Writer.pure
  bind := Writer.bind

def lift (x : Result α) : Writer S α := fun sink => (x, sink)

end Writer

/-- The view shrinks by what the stream reports to have taken. -/
def writeExact (S : Stream) (view : Bytes) : Writer S Unit := fun sink =>
  if view = [] then (.ok (), sink)
  else match S.write sink.state view with
  | (.error (.typeError _), state) =>
    (.error (.typeError "output must be a binary stream"), { sink with state })
  | (.error raised, state) => (.error raised, { sink with state })
  | (.ok none, state) =>
    (.error (.osError "binary output stream made no write progress"), { sink with state })
  | (.ok (some written), state) =>
    if h : 0 < written ∧ written ≤ view.length then
      let taken := view.take written.toNat
      writeExact S (view.drop written.toNat)
        ⟨state, sink.delivered ++ taken, sink.digest ++ taken⟩
    else
      (.error (.osError "binary output stream made no valid write progress"), { sink with state })
termination_by view.length
decreasing_by
  rw [List.length_drop]
  omega

end Streams

section Write

variable (L : Library) (S : Stream)

def localFields (entry : WriteEntry) : List ℕ :=
  [localSignature, 10, 0x0800, 0, 0x0000, 0x0021, entry.crc32, entry.data.length,
    entry.data.length, entry.rawName.length, 0]

def centralFields (entry : WriteEntry) : List ℕ :=
  [centralSignature, 0x000A, 10, 0x0800, 0, 0x0000, 0x0021, entry.crc32, entry.data.length,
    entry.data.length, entry.rawName.length, 0, 0, 0, 0, 0, entry.localHeaderOffset]

def eocdFields (prepared : Prepared) : List ℕ :=
  [eocdSignature, 0, 0, prepared.entries.length, prepared.entries.length, prepared.cdSize,
    prepared.cdOffset, 0]

def writeHeader (format : Format) (values : List ℕ) : Writer S Unit := do
  let header ← Writer.lift (context .structError (pack format values))
  writeExact S header

/-- The data in chunks, the last one as long as it is. -/
def dataChunks (data : Bytes) : List Bytes :=
  (List.range ((data.length + maxChunkBytes - 1) / maxChunkBytes)).map fun k =>
    slice data (k * maxChunkBytes) maxChunkBytes

def writeAll : List Bytes → Writer S Unit
  | [] => pure ()
  | view :: rest => do
    writeExact S view
    writeAll rest

def writeLocals : List WriteEntry → Writer S Unit
  | [] => pure ()
  | entry :: rest => do
    writeHeader S localFormat (localFields entry)
    writeExact S entry.rawName
    writeAll S (dataChunks entry.data)
    writeLocals rest

def writeCentrals : List WriteEntry → Writer S Unit
  | [] => pure ()
  | entry :: rest => do
    writeHeader S centralFormat (centralFields entry)
    writeExact S entry.rawName
    writeCentrals rest

def requireStart : Writer S Unit := fun sink =>
  match S.tell sink.state with
  | none => (.error (.typeError "output must expose tell() and start at position zero"), sink)
  | some position => (require (position = 0) "output_not_empty", sink)

def WriteEntry.aggregateRecord (entry : WriteEntry) : Result Bytes :=
  CanonicalZip.aggregateRecord entry.rawName entry.data.length entry.data.length entry.crc32

def entriesAggregate (entries : List WriteEntry) : Result Bytes := do
  let records ← entries.mapM WriteEntry.aggregateRecord
  pure (L.sha256 records.flatten)

def reportDigest : Writer S Bytes := fun sink => (.ok (L.sha256 sink.digest), sink)

def writePrepared (prepared : Prepared) : Writer S WriteReport := do
  writeLocals S prepared.entries
  writeCentrals S prepared.entries
  writeHeader S eocdFormat (eocdFields prepared)
  let artifactSha256 ← reportDigest L S
  let entriesAggregateSha256 ← Writer.lift (entriesAggregate L prepared.entries)
  pure {
    artifactSha256
    byteSize := prepared.outputSize
    entryCount := prepared.entries.length
    totalUncompressedSize := (prepared.entries.map fun entry => entry.data.length).sum
    entriesAggregateSha256 }

def writeCanonicalTo (sources : List SourceEntry) : Writer S WriteReport := do
  let prepared ← Writer.lift (prepareWriteEntries L sources)
  requireStart S
  writePrepared L S prepared

def writeCanonical (sources : List SourceEntry) (state : S.State) : Result WriteReport × Sink S :=
  writeCanonicalTo L S sources ⟨state, [], []⟩

end Write

end Eip0045.CanonicalZip
