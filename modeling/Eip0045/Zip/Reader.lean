import Eip0045.Library.Checked
import Eip0045.Library.Packed

/-! The bounded classic-ZIP reader, with Python's integers as naturals. A slice that Python would
clamp raises here, so that the model shows every read outside the buffer. -/

namespace Eip0045.CanonicalZip

open Bytes Checked Packed

section Constants

def maxArchiveBytes : ℕ := 1073741824
def maxEntryCount : ℕ := 65534
def maxNameBytes : ℕ := 240
def maxChunkBytes : ℕ := 65536

def localSignature : ℕ := 0x04034B50
def centralSignature : ℕ := 0x02014B50
def descriptorSignature : ℕ := 0x08074B50
def eocdSignature : ℕ := 0x06054B50
def jarMarker : Bytes := [0xfe, 0xca, 0x00, 0x00]
def manifestName : Bytes := utf8 "META-INF/MANIFEST.MF"

def localFormat : Format := [4, 2, 2, 2, 2, 2, 4, 4, 4, 2, 2]
def centralFormat : Format := [4, 2, 2, 2, 2, 2, 2, 4, 4, 4, 2, 2, 2, 2, 2, 4, 4]
def descriptorFormat : Format := [4, 4, 4, 4]
def eocdFormat : Format := [4, 2, 2, 2, 2, 4, 4, 2]

end Constants

inductive Raised
  | zipRejection (code detail : String)
  | outsideBuffer
  | unicodeDecodeError
  | structError
  | typeError (message : String)
  | osError (message : String)
  deriving DecidableEq

abbrev Result (α : Type) := Except Raised α

/-- The library calls: `zlib.crc32`, `hashlib.sha256(..).hexdigest()` and a raw-inflate object. -/
structure Library where
  crc32 : Bytes → UInt32 → UInt32
  sha256 : Bytes → Bytes
  Inflater : Type
  decompressobj : Inflater
  decompress : Inflater → Bytes → ℕ → Except String (Bytes × Inflater)
  unconsumedTail : Inflater → Bytes
  unusedData : Inflater → Bytes
  eof : Inflater → Bool

abbrev ChunkSize := { n : ℕ // 1 ≤ n ∧ n ≤ maxChunkBytes }

def defaultChunk : ChunkSize := ⟨maxChunkBytes, by decide⟩

def reject {α : Type} (code : String) : Result α := .error (.zipRejection code "")

def require (c : Prop) [Decidable c] (code : String) : Result Unit :=
  ensure c (.zipRejection code "")

def requireRange (rawSize offset length : ℕ) (code : String) : Result Unit :=
  require (offset + length ≤ rawSize) code

def readRange (raw : Bytes) (start stop : ℕ) : Result Bytes :=
  context .outsideBuffer (getRange raw start stop)

def unpackFrom (format : Format) (raw : Bytes) (offset : ℕ) : Result (List ℕ) := do
  let bytes ← readRange raw offset (offset + size format)
  pure (unpack format bytes)

section Names

def asciiFold (rawName : Bytes) : Bytes :=
  rawName.map fun value => if 65 ≤ value ∧ value ≤ 90 then value + 32 else value

def decodeAscii (rawName : Bytes) : Result String := do
  ensure (rawName.all fun value => value < 128) .unicodeDecodeError
  pure (String.ofList (rawName.map fun value => Char.ofNat value.toNat))

def slash : UInt8 := 0x2f

/-- The decoded name, and whether it is a directory's. -/
def validateName (rawName : Bytes) : Result (String × Bool) := do
  require (1 ≤ rawName.length ∧ rawName.length ≤ maxNameBytes) "invalid_name_length"
  require (rawName.all fun value => 0x20 ≤ value ∧ value ≤ 0x7e) "non_printable_or_non_ascii_name"
  require (rawName.head? ≠ some slash ∧ 0x5c ∉ rawName ∧ 0x3a ∉ rawName) "non_canonical_name"
  let isDirectory : Bool := rawName.getLast? = some slash
  let body := if isDirectory then rawName.dropLast else rawName
  require (body ≠ [] ∧ ¬[slash, slash] <:+ rawName) "non_canonical_name"
  require ((body.splitOn slash).all fun segment =>
    segment ≠ [] ∧ segment ≠ [0x2e] ∧ segment ≠ [0x2e, 0x2e]) "non_canonical_name"
  let name ← decodeAscii rawName
  pure (name, isDirectory)

end Names

section Central

structure CentralHeader where
  signature : ℕ
  madeBy : ℕ
  needed : ℕ
  flags : ℕ
  method : ℕ
  dosTime : ℕ
  dosDate : ℕ
  crc32 : ℕ
  compressedSize : ℕ
  uncompressedSize : ℕ
  nameLength : ℕ
  extraLength : ℕ
  commentLength : ℕ
  diskStart : ℕ
  internalAttributes : ℕ
  externalAttributes : ℕ
  localHeaderOffset : ℕ
  deriving DecidableEq

/-- An unpacked record has as many fields as its format. -/
def CentralHeader.ofFields (fields : List ℕ) : CentralHeader where
  signature := fields.getD 0 0
  madeBy := fields.getD 1 0
  needed := fields.getD 2 0
  flags := fields.getD 3 0
  method := fields.getD 4 0
  dosTime := fields.getD 5 0
  dosDate := fields.getD 6 0
  crc32 := fields.getD 7 0
  compressedSize := fields.getD 8 0
  uncompressedSize := fields.getD 9 0
  nameLength := fields.getD 10 0
  extraLength := fields.getD 11 0
  commentLength := fields.getD 12 0
  diskStart := fields.getD 13 0
  internalAttributes := fields.getD 14 0
  externalAttributes := fields.getD 15 0
  localHeaderOffset := fields.getD 16 0

structure CentralEntry where
  index : ℕ
  madeBy : ℕ
  needed : ℕ
  flags : ℕ
  method : ℕ
  dosTime : ℕ
  dosDate : ℕ
  crc32 : ℕ
  compressedSize : ℕ
  uncompressedSize : ℕ
  rawName : Bytes
  extra : Bytes
  localHeaderOffset : ℕ
  isDirectory : Bool
  deriving DecidableEq

def expectedTuple (method : ℕ) : Result (ℕ × ℕ × ℕ) :=
  if method = 0 then pure (0x000A, 10, 0x0800)
  else if method = 8 then pure (0x0014, 20, 0x0808)
  else reject "unsupported_compression_method"

def validateExtra (extra : Bytes) (index : ℕ) : Result Unit :=
  require (extra = [] ∨ index = 0 ∧ extra = jarMarker) "unsupported_extra_field"

def validateCentralHeader (h : CentralHeader) : Result Unit := do
  require (h.signature = centralSignature) "invalid_central_signature"
  require (0xFFFF ∉ [h.diskStart, h.nameLength, h.extraLength, h.commentLength]) "zip64_sentinel"
  require (0xFFFFFFFF ∉ [h.compressedSize, h.uncompressedSize, h.localHeaderOffset])
    "zip64_sentinel"
  require (h.crc32 ≠ 0xFFFFFFFF) "crc32_all_ones"
  let (expectedMadeBy, expectedNeeded, expectedFlags) ← expectedTuple h.method
  require (h.madeBy = expectedMadeBy ∧ h.needed = expectedNeeded) "unsupported_version_tuple"
  require (h.flags = expectedFlags) "unsupported_flags"
  require (h.diskStart = 0) "multi_disk"
  require (h.internalAttributes = 0 ∧ h.externalAttributes = 0) "non_zero_attributes"
  require (h.commentLength = 0) "entry_comment"

def validateCentralSizes (h : CentralHeader) (isDirectory : Bool) : Result Unit := do
  require (¬(h.compressedSize = 0 ∧ h.uncompressedSize ≠ 0)) "zero_compressed_size_mismatch"
  require (¬(h.method = 0 ∧ h.compressedSize ≠ h.uncompressedSize)) "stored_size_mismatch"
  require (¬(isDirectory ∧ (h.uncompressedSize ≠ 0 ∨ h.crc32 ≠ 0 ∨
    h.method = 0 ∧ h.compressedSize ≠ 0))) "invalid_directory_marker"

/-- One turn of the loop over the directory: its entry and the next cursor. -/
def centralEntry (raw : Bytes) (cdEnd index cursor : ℕ) (exactNames foldedNames : List Bytes) :
    Result (CentralEntry × ℕ) := do
  requireRange cdEnd cursor (size centralFormat) "truncated_central_header"
  let fields ← unpackFrom centralFormat raw cursor
  let h := CentralHeader.ofFields fields
  validateCentralHeader h
  let recordSize := size centralFormat + h.nameLength + h.extraLength
  requireRange cdEnd cursor recordSize "truncated_central_record"
  let nameStart := cursor + size centralFormat
  let rawName ← readRange raw nameStart (nameStart + h.nameLength)
  let extra ← readRange raw (nameStart + h.nameLength) (cursor + recordSize)
  let (_, isDirectory) ← validateName rawName
  validateExtra extra index
  require (rawName ∉ exactNames) "duplicate_entry_name"
  require (asciiFold rawName ∉ foldedNames) "ascii_casefold_collision"
  validateCentralSizes h isDirectory
  pure ({
    index
    madeBy := h.madeBy
    needed := h.needed
    flags := h.flags
    method := h.method
    dosTime := h.dosTime
    dosDate := h.dosDate
    crc32 := h.crc32
    compressedSize := h.compressedSize
    uncompressedSize := h.uncompressedSize
    rawName
    extra
    localHeaderOffset := h.localHeaderOffset
    isDirectory }, cursor + recordSize)

def centralEntries (raw : Bytes) (cdEnd : ℕ) :
    ℕ → ℕ → ℕ → List Bytes → List Bytes → Result (List CentralEntry × ℕ)
  | 0, _, cursor, _, _ => pure ([], cursor)
  | n + 1, index, cursor, exactNames, foldedNames => do
    let (entry, next) ← centralEntry raw cdEnd index cursor exactNames foldedNames
    let (rest, last) ← centralEntries raw cdEnd n (index + 1) next (entry.rawName :: exactNames)
      (asciiFold entry.rawName :: foldedNames)
    pure (entry :: rest, last)

def parseCentral (raw : Bytes) (cdOffset cdSize entryCount : ℕ) : Result (List CentralEntry) := do
  let (entries, cursor) ← centralEntries raw (cdOffset + cdSize) entryCount 0 cdOffset [] []
  require (cursor = cdOffset + cdSize) "central_directory_size_mismatch"
  pure entries

end Central

section Locals

structure LocalHeader where
  signature : ℕ
  needed : ℕ
  flags : ℕ
  method : ℕ
  dosTime : ℕ
  dosDate : ℕ
  crc32 : ℕ
  compressedSize : ℕ
  uncompressedSize : ℕ
  nameLength : ℕ
  extraLength : ℕ
  deriving DecidableEq

def LocalHeader.ofFields (fields : List ℕ) : LocalHeader where
  signature := fields.getD 0 0
  needed := fields.getD 1 0
  flags := fields.getD 2 0
  method := fields.getD 3 0
  dosTime := fields.getD 4 0
  dosDate := fields.getD 5 0
  crc32 := fields.getD 6 0
  compressedSize := fields.getD 7 0
  uncompressedSize := fields.getD 8 0
  nameLength := fields.getD 9 0
  extraLength := fields.getD 10 0

structure Entry where
  index : ℕ
  name : String
  rawName : Bytes
  method : ℕ
  flags : ℕ
  crc32 : ℕ
  compressedSize : ℕ
  uncompressedSize : ℕ
  dosTime : ℕ
  dosDate : ℕ
  localHeaderOffset : ℕ
  dataOffset : ℕ
  dataDescriptorOffset : Option ℕ
  isDirectory : Bool
  extra : Bytes
  deriving DecidableEq

def validateLocalHeader (h : LocalHeader) : Result Unit := do
  require (h.signature = localSignature) "invalid_local_signature"
  require (0xFFFF ∉ [h.nameLength, h.extraLength]) "zip64_sentinel"
  require (0xFFFFFFFF ∉ [h.compressedSize, h.uncompressedSize]) "zip64_sentinel"

/-- The offset of the data descriptor that must follow a deflated payload. -/
def localDescriptor (raw : Bytes) (cdOffset : ℕ) (h : LocalHeader) (central : CentralEntry)
    (dataEnd : ℕ) : Result (Option ℕ) :=
  if h.method = 0 then do
    require (h.crc32 = central.crc32 ∧ h.compressedSize = central.compressedSize ∧
      h.uncompressedSize = central.uncompressedSize) "stored_local_central_mismatch"
    pure none
  else do
    require (h.crc32 = 0 ∧ h.compressedSize = 0 ∧ h.uncompressedSize = 0)
      "deflate_local_fields_nonzero"
    requireRange cdOffset dataEnd (size descriptorFormat) "missing_data_descriptor"
    let descriptor ← unpackFrom descriptorFormat raw dataEnd
    require (descriptor.getD 0 0 = descriptorSignature) "unsigned_or_invalid_data_descriptor"
    require (descriptor.tail = [central.crc32, central.compressedSize, central.uncompressedSize])
      "data_descriptor_mismatch"
    pure (some dataEnd)

/-- One turn of the loop over the local records: its entry and the next cursor. -/
def localEntry (raw : Bytes) (cdOffset : ℕ) (canonical : Bool) (cursor : ℕ)
    (central : CentralEntry) : Result (Entry × ℕ) := do
  require (central.localHeaderOffset = cursor) "local_record_coverage_or_order"
  requireRange cdOffset cursor (size localFormat) "truncated_local_header"
  let fields ← unpackFrom localFormat raw cursor
  let h := LocalHeader.ofFields fields
  validateLocalHeader h
  let headerSize := size localFormat + h.nameLength + h.extraLength
  requireRange cdOffset cursor headerSize "truncated_local_record"
  let nameStart := cursor + size localFormat
  let rawName ← readRange raw nameStart (nameStart + h.nameLength)
  let extra ← readRange raw (nameStart + h.nameLength) (cursor + headerSize)
  require (h.needed = central.needed ∧ h.flags = central.flags ∧ h.method = central.method ∧
    h.dosTime = central.dosTime ∧ h.dosDate = central.dosDate ∧ rawName = central.rawName ∧
    extra = central.extra) "local_central_header_mismatch"
  require (¬(canonical ∧ (h.dosTime ≠ 0x0000 ∨ h.dosDate ≠ 0x0021))) "non_canonical_timestamp"
  let dataOffset := cursor + headerSize
  requireRange cdOffset dataOffset central.compressedSize "truncated_compressed_payload"
  let dataEnd := dataOffset + central.compressedSize
  let descriptorOffset ← localDescriptor raw cdOffset h central dataEnd
  let name ← decodeAscii central.rawName
  pure ({
    index := central.index
    name
    rawName := central.rawName
    method := central.method
    flags := central.flags
    crc32 := central.crc32
    compressedSize := central.compressedSize
    uncompressedSize := central.uncompressedSize
    dosTime := central.dosTime
    dosDate := central.dosDate
    localHeaderOffset := central.localHeaderOffset
    dataOffset
    dataDescriptorOffset := descriptorOffset
    isDirectory := central.isDirectory
    extra := central.extra },
    match descriptorOffset with
    | none => dataEnd
    | some offset => offset + size descriptorFormat)

def localEntries (raw : Bytes) (cdOffset : ℕ) (canonical : Bool) :
    List CentralEntry → ℕ → Result (List Entry × ℕ)
  | [], cursor => pure ([], cursor)
  | central :: rest, cursor => do
    let (entry, next) ← localEntry raw cdOffset canonical cursor central
    let (entries, last) ← localEntries raw cdOffset canonical rest next
    pure (entry :: entries, last)

def parseLocals (raw : Bytes) (centralEntries : List CentralEntry) (cdOffset : ℕ)
    (canonical : Bool) : Result (List Entry) := do
  let (entries, cursor) ← localEntries raw cdOffset canonical centralEntries 0
  require (cursor = cdOffset) "local_record_coverage_or_order"
  pure entries

end Locals

section Contents

variable (L : Library)

structure Yielded where
  chunks : List Bytes
  produced : ℕ
  crc : UInt32
  deriving DecidableEq

def yieldChunk (entry : Entry) (chunk : Bytes) (out : Yielded) : Result Yielded := do
  require (out.produced + chunk.length ≤ entry.uncompressedSize ∧
    out.produced + chunk.length ≤ maxArchiveBytes) "decompressed_size_exceeded"
  pure ⟨out.chunks ++ [chunk], out.produced + chunk.length, L.crc32 chunk out.crc⟩

lemma yieldChunk_ok {entry : Entry} {chunk : Bytes} {out next : Yielded}
    (h : yieldChunk L entry chunk out = .ok next) :
    next.produced ≤ entry.uncompressedSize ∧
      next = ⟨out.chunks ++ [chunk], out.produced + chunk.length, L.crc32 chunk out.crc⟩ := by
  simp only [yieldChunk, require, bind_ok, exists_unit, ensure_ok, pure_ok] at h
  obtain ⟨⟨hsize, -⟩, rfl⟩ := h
  exact ⟨hsize, rfl⟩

def iterStored (raw : Bytes) (entry : Entry) (chunkSize : ChunkSize) (stop cursor : ℕ)
    (out : Yielded) : Result Yielded :=
  if cursor < stop then do
    let nextCursor := min (cursor + chunkSize) stop
    let chunk ← readRange raw cursor nextCursor
    let out ← yieldChunk L entry chunk out
    iterStored raw entry chunkSize stop nextCursor out
  else pure out
termination_by stop - cursor
decreasing_by
  have := chunkSize.2.1
  omega

/-- The loop over `pending`: each chunk brings `produced` nearer to the declared size. -/
def iterPending (entry : Entry) (chunkSize : ChunkSize) (pending : Bytes) (inflater : L.Inflater)
    (out : Yielded) : Result (L.Inflater × Yielded) :=
  if pending = [] then pure (inflater, out)
  else match L.decompress inflater pending chunkSize with
  | .error message => .error (.zipRejection "deflate_error" message)
  | .ok (chunk, inflater) =>
    if L.unusedData inflater ≠ [] then reject "trailing_compressed_data"
    else if hchunk : chunk = [] then
      if L.unconsumedTail inflater ≠ [] then reject "deflate_no_progress" else pure (inflater, out)
    else match hyield : yieldChunk L entry chunk out with
    | .error raised => .error raised
    | .ok next => iterPending entry chunkSize (L.unconsumedTail inflater) inflater next
termination_by entry.uncompressedSize - out.produced
decreasing_by
  obtain ⟨hsize, rfl⟩ := yieldChunk_ok L hyield
  have := List.length_pos_iff.mpr hchunk
  simp only at hsize ⊢
  omega

def iterCompressed (raw : Bytes) (entry : Entry) (chunkSize : ChunkSize) (stop cursor : ℕ)
    (inflater : L.Inflater) (out : Yielded) : Result (L.Inflater × Yielded) :=
  if cursor < stop then do
    let nextCursor := min (cursor + maxChunkBytes) stop
    let pending ← readRange raw cursor nextCursor
    let (inflater, out) ← iterPending L entry chunkSize pending inflater out
    iterCompressed raw entry chunkSize stop nextCursor inflater out
  else pure (inflater, out)
termination_by stop - cursor
decreasing_by
  simp only [maxChunkBytes]
  omega

def iterFlushed (entry : Entry) (chunkSize : ChunkSize) (inflater : L.Inflater) (out : Yielded) :
    Result (L.Inflater × Yielded) :=
  match L.decompress inflater [] chunkSize with
  | .error message => .error (.zipRejection "deflate_error" message)
  | .ok (chunk, inflater) =>
    if hchunk : chunk = [] then pure (inflater, out)
    else match hyield : yieldChunk L entry chunk out with
    | .error raised => .error raised
    | .ok next => iterFlushed entry chunkSize inflater next
termination_by entry.uncompressedSize - out.produced
decreasing_by
  obtain ⟨hsize, rfl⟩ := yieldChunk_ok L hyield
  have := List.length_pos_iff.mpr hchunk
  simp only at hsize ⊢
  omega

def iterDeflated (raw : Bytes) (entry : Entry) (chunkSize : ChunkSize) (start stop : ℕ) :
    Result Yielded := do
  let (inflater, out) ← iterCompressed L raw entry chunkSize stop start L.decompressobj ⟨[], 0, 0⟩
  let (inflater, out) ← iterFlushed L entry chunkSize inflater out
  require (L.eof inflater) "truncated_deflate_stream"
  require (L.unusedData inflater = [] ∧ L.unconsumedTail inflater = []) "trailing_compressed_data"
  pure out

def iterContents (raw : Bytes) (entry : Entry) (chunkSize : ChunkSize) : Result Yielded :=
  let start := entry.dataOffset
  let stop := start + entry.compressedSize
  if entry.method = 0 then iterStored L raw entry chunkSize stop start ⟨[], 0, 0⟩
  else iterDeflated L raw entry chunkSize start stop

def iterValidatedEntry (raw : Bytes) (entry : Entry) (chunkSize : ChunkSize) :
    Result (List Bytes) := do
  let out ← iterContents L raw entry chunkSize
  require (out.produced = entry.uncompressedSize) "uncompressed_size_mismatch"
  require (out.crc.toNat = entry.crc32) "crc32_mismatch"
  require (¬(entry.isDirectory ∧ out.produced ≠ 0)) "invalid_directory_marker"
  pure out.chunks

end Contents

section Archives

variable (L : Library)

structure EndRecord where
  signature : ℕ
  diskNumber : ℕ
  centralDisk : ℕ
  entriesOnDisk : ℕ
  entryCount : ℕ
  cdSize : ℕ
  cdOffset : ℕ
  commentLength : ℕ
  deriving DecidableEq

def EndRecord.ofFields (fields : List ℕ) : EndRecord where
  signature := fields.getD 0 0
  diskNumber := fields.getD 1 0
  centralDisk := fields.getD 2 0
  entriesOnDisk := fields.getD 3 0
  entryCount := fields.getD 4 0
  cdSize := fields.getD 5 0
  cdOffset := fields.getD 6 0
  commentLength := fields.getD 7 0

structure Archive where
  raw : Bytes
  entries : List Entry
  canonical : Bool
  artifactSha256 : Bytes
  totalUncompressedSize : ℕ
  deriving DecidableEq

structure EntryReport where
  name : String
  compressedSize : ℕ
  uncompressedSize : ℕ
  crc32 : ℕ
  deriving DecidableEq

structure ArchiveReport where
  artifactSha256 : Bytes
  entryCount : ℕ
  totalUncompressedSize : ℕ
  entriesAggregateSha256 : Bytes
  entries : List EntryReport
  deriving DecidableEq

def validateEndRecord (e : EndRecord) (eocdOffset : ℕ) : Result Unit := do
  require (e.signature = eocdSignature) "eocd_not_final_22_bytes"
  require (e.diskNumber = 0 ∧ e.centralDisk = 0) "multi_disk"
  require (e.entriesOnDisk ≠ 0xFFFF ∧ e.entryCount ≠ 0xFFFF) "zip64_sentinel"
  require (e.entriesOnDisk = e.entryCount ∧ 1 ≤ e.entryCount ∧ e.entryCount ≤ maxEntryCount)
    "invalid_entry_count"
  require (e.cdSize ≠ 0xFFFFFFFF ∧ e.cdOffset ≠ 0xFFFFFFFF) "zip64_sentinel"
  require (e.commentLength = 0) "archive_comment"
  require (e.cdOffset + e.cdSize = eocdOffset) "central_directory_coverage"

def readEndRecord (raw : Bytes) : Result EndRecord := do
  require (raw.length ≤ maxArchiveBytes) "archive_too_large"
  require (size eocdFormat ≤ raw.length) "missing_eocd"
  let eocdOffset := raw.length - size eocdFormat
  let fields ← unpackFrom eocdFormat raw eocdOffset
  validateEndRecord (EndRecord.ofFields fields) eocdOffset
  pure (EndRecord.ofFields fields)

def validateOrder (entries : List Entry) : Result Unit := do
  let first ← context .outsideBuffer entries.head?
  require (first.rawName = manifestName) "manifest_not_first"
  require (((entries.drop 1).zip (entries.drop 2)).all fun (previous, current) =>
    previous.rawName < current.rawName) "non_canonical_entry_order"

/-- One turn of the last loop: the entry's contents are read, and its size joins the total. -/
def validateEntry (raw : Bytes) (total : ℕ) (entry : Entry) : Result ℕ := do
  require (entry.uncompressedSize ≤ maxArchiveBytes) "entry_too_large"
  let next := if entry.isDirectory then total else total + entry.uncompressedSize
  require (entry.isDirectory ∨ next ≤ maxArchiveBytes) "total_uncompressed_size_exceeded"
  let _ ← iterValidatedEntry L raw entry defaultChunk
  pure next

def inspectArchive (raw : Bytes) (canonical : Bool) : Result Archive := do
  let e ← readEndRecord raw
  let central ← parseCentral raw e.cdOffset e.cdSize e.entryCount
  let entries ← parseLocals raw central e.cdOffset canonical
  if canonical then validateOrder entries
  let totalUncompressed ← entries.foldlM (validateEntry L raw) 0
  pure {
    raw
    entries
    canonical
    artifactSha256 := L.sha256 raw
    totalUncompressedSize := totalUncompressed }

/-- The name and the three numbers of an entry that the aggregate hashes. -/
def aggregateRecord (rawName : Bytes) (compressedSize uncompressedSize crc32 : ℕ) :
    Result Bytes := do
  let length ← context .structError (pack [2] [rawName.length])
  let numbers ← context .structError (pack [4, 4, 4] [compressedSize, uncompressedSize, crc32])
  pure (length ++ rawName ++ numbers)

def Entry.aggregateRecord (entry : Entry) : Result Bytes :=
  CanonicalZip.aggregateRecord entry.rawName entry.compressedSize entry.uncompressedSize entry.crc32

def Archive.report (archive : Archive) : Result ArchiveReport := do
  let records ← archive.entries.mapM Entry.aggregateRecord
  pure {
    artifactSha256 := archive.artifactSha256
    entryCount := archive.entries.length
    totalUncompressedSize := archive.totalUncompressedSize
    entriesAggregateSha256 := L.sha256 records.flatten
    entries := archive.entries.map fun entry =>
      ⟨entry.name, entry.compressedSize, entry.uncompressedSize, entry.crc32⟩ }

end Archives

end Eip0045.CanonicalZip
