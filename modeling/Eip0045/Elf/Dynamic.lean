import Mathlib
import Eip0045.Elf.Headers

/-! The dynamic array of an AMD64 ELF body and the strings that it refers to. -/

namespace Eip0045.Amd64Elf

open Bytes Checked

section Tags

inductive AcceptedDynamicTag
  | null
  | needed
  | pltRelSize
  | pltGot
  | hash
  | stringTable
  | symbolTable
  | rela
  | relaSize
  | relaEntrySize
  | stringTableSize
  | symbolEntrySize
  | init
  | fini
  | soname
  | rel
  | relSize
  | relEntrySize
  | pltRel
  | debug
  | jumpRel
  | bindNow
  | initArray
  | finiArray
  | initArraySize
  | finiArraySize
  | runpath
  | flags
  | preinitArray
  | preinitArraySize
  | symbolTableSectionIndex
  | gnuHash
  | versionSymbol
  | relaCount
  | relCount
  | flags1
  | versionDefinition
  | versionDefinitionCount
  | versionNeed
  | versionNeedCount
  deriving DecidableEq

def dtNull : Int64 := 0
def dtNeeded : Int64 := 1
def dtStrtab : Int64 := 5
def dtStrsz : Int64 := 10
def dtSoname : Int64 := 14
def dtRpath : Int64 := 15
def dtRunpath : Int64 := 29
def dtFlags : Int64 := 30
def dtFlags1 : Int64 := 0x6ffffffb

def acceptedTags : List (Int64 × AcceptedDynamicTag) :=
  [(dtNull, .null), (dtNeeded, .needed), (2, .pltRelSize), (3, .pltGot), (4, .hash),
    (dtStrtab, .stringTable), (6, .symbolTable), (7, .rela), (8, .relaSize), (9, .relaEntrySize),
    (dtStrsz, .stringTableSize), (11, .symbolEntrySize), (12, .init), (13, .fini),
    (dtSoname, .soname), (17, .rel), (18, .relSize), (19, .relEntrySize), (20, .pltRel),
    (21, .debug), (23, .jumpRel), (24, .bindNow), (25, .initArray), (26, .finiArray),
    (27, .initArraySize), (28, .finiArraySize), (dtRunpath, .runpath), (dtFlags, .flags),
    (32, .preinitArray), (33, .preinitArraySize), (34, .symbolTableSectionIndex),
    (0x6ffffef5, .gnuHash), (0x6ffffff0, .versionSymbol), (0x6ffffff9, .relaCount),
    (0x6ffffffa, .relCount), (dtFlags1, .flags1), (0x6ffffffc, .versionDefinition),
    (0x6ffffffd, .versionDefinitionCount), (0x6ffffffe, .versionNeed), (0x6fffffff, .versionNeedCount)]

/-- `DT_CONFIG`, `DT_DEPAUDIT`, `DT_AUDIT`, `DT_AUXILIARY` and `DT_FILTER`. -/
def rejectedLoaderTags : List Int64 := [0x6ffffefa, 0x6ffffefb, 0x6ffffefc, 0x7ffffffd, 0x7fffffff]

/-- `{tag:#x}`. -/
def hexadecimal (tag : Int64) : String := "0x" ++ String.ofList (Nat.toDigits 16 tag.toUInt64.toNat)

def classifyStartupDynamicTag (tag : Int64) : Result AcceptedDynamicTag :=
  match acceptedTags.lookup tag with
  | some accepted => .ok accepted
  | none => .error (.reported
      (if tag ∈ rejectedLoaderTags then
        s!"runtime ELF contains a rejected dynamic loader tag {hexadecimal tag}"
      else if tag = dtRpath then "startup ELF contains rejected DT_RPATH"
      else s!"startup ELF contains unlisted dynamic tag {hexadecimal tag}"))

/-- `DF_BIND_NOW | DF_ORIGIN | DF_STATIC_TLS`. -/
def allowedDtFlagsMask : UInt64 := 0x8 ||| 0x1 ||| 0x10

/-- `DF_1_NOW | DF_1_NODELETE | DF_1_INITFIRST | DF_1_NOOPEN | DF_1_ORIGIN | DF_1_NODUMP | DF_1_PIE`. -/
def allowedDtFlags1Mask : UInt64 := 0x1 ||| 0x8 ||| 0x20 ||| 0x40 ||| 0x80 ||| 0x1000 ||| 0x8000000

def validateStartupDynamicFlags (tag : Int64) (value : UInt64) : Result Unit :=
  if tag = dtFlags then
    check (value &&& ~~~allowedDtFlagsMask = 0) "startup ELF DT_FLAGS contains a rejected flag bit"
  else if tag = dtFlags1 then
    check (value &&& ~~~allowedDtFlags1Mask = 0) "startup ELF DT_FLAGS_1 contains a rejected flag bit"
  else pure ()

end Tags

section Records

structure DynamicRecord where
  dTag : Int64
  dUn : UInt64
  deriving DecidableEq

structure ParsedStartupDynamicRecords where
  acceptedRecords : List DynamicRecord
  acceptedTags : List AcceptedDynamicTag
  neededOffsets : List (ℕ × UInt64)
  sonameOffset : Option (ℕ × UInt64)
  runpathOffset : Option (ℕ × UInt64)
  stringTableAddress : Option UInt64
  stringTableSize : Option UInt64
  neededLibraryCount : ℕ

def ParsedStartupDynamicRecords.start : ParsedStartupDynamicRecords :=
  ⟨[], [], [], none, none, none, none, 0⟩

/-- The record at an index of a dynamic array. -/
def dynamicRecordAt (dynamicBytes : Bytes) (index : ℕ) : DynamicRecord where
  dTag := (ofLe64 (slice dynamicBytes (index * 16) 8)).toInt64
  dUn := ofLe64 (slice dynamicBytes (index * 16 + 8) 8)

def retainStartupDynamicRecord (parsed : ParsedStartupDynamicRecords) (record : DynamicRecord)
    (dynamicOrdinal : ℕ) (acceptedTag : AcceptedDynamicTag) :
    Result (ParsedStartupDynamicRecords × Bool) := do
  validateStartupDynamicFlags record.dTag record.dUn
  let parsed := { parsed with
    acceptedRecords := parsed.acceptedRecords ++ [record]
    acceptedTags := parsed.acceptedTags ++ [acceptedTag] }
  if record.dTag = dtNull then pure (parsed, true)
  else if record.dTag = dtStrtab then do
    check (parsed.stringTableAddress.isNone = true) "runtime ELF dynamic array repeats DT_STRTAB"
    pure ({ parsed with stringTableAddress := some record.dUn }, false)
  else if record.dTag = dtStrsz then do
    check (parsed.stringTableSize.isNone = true) "runtime ELF dynamic array repeats DT_STRSZ"
    pure ({ parsed with stringTableSize := some record.dUn }, false)
  else if record.dTag = dtNeeded then do
    let neededLibraryCount ← require (checkedAdd parsed.neededLibraryCount 1)
      "runtime ELF DT_NEEDED count overflowed"
    validateNeededLibraryCount neededLibraryCount "runtime ELF"
    pure ({ parsed with
      neededLibraryCount
      neededOffsets := parsed.neededOffsets ++ [(dynamicOrdinal, record.dUn)] }, false)
  else if record.dTag = dtSoname then do
    check (parsed.sonameOffset.isNone = true) "startup ELF dynamic array repeats DT_SONAME"
    pure ({ parsed with sonameOffset := some (dynamicOrdinal, record.dUn) }, false)
  else if record.dTag = dtRunpath then do
    check (parsed.runpathOffset.isNone = true) "startup ELF dynamic array repeats DT_RUNPATH"
    pure ({ parsed with runpathOffset := some (dynamicOrdinal, record.dUn) }, false)
  else pure (parsed, false)

/-- The records at the given indices up to the first `DT_NULL`, and whether there is one. -/
def retainRecords (dynamicBytes : Bytes) :
    ParsedStartupDynamicRecords → List ℕ → Result (ParsedStartupDynamicRecords × Bool)
  | parsed, [] => .ok (parsed, false)
  | parsed, index :: indices => do
    let record := dynamicRecordAt dynamicBytes index
    let acceptedTag ← classifyStartupDynamicTag record.dTag
    let retained ← retainStartupDynamicRecord parsed record index acceptedTag
    if retained.2 then pure retained else retainRecords dynamicBytes retained.1 indices

def parseStartupDynamicRecords (dynamicBytes : Bytes) : Result ParsedStartupDynamicRecords := do
  let declaredEntries := dynamicBytes.length / 16
  let retained ← retainRecords dynamicBytes .start
    (List.range (min declaredEntries maximumDynamicEntries))
  check (retained.2 = true) "runtime ELF dynamic array has no bounded DT_NULL"
  validateDynamicEntryCount retained.1.acceptedRecords.length "runtime ELF"
  pure retained.1

end Records

section Strings

/-- `std::str::from_utf8`, for a text that stays bytes. -/
def fromUtf8 (bytes : Bytes) : Option Bytes :=
  if (⟨bytes.toArray⟩ : ByteArray).validateUTF8 then some bytes else none

def printable (byte : UInt8) : Bool := 0x20 ≤ byte && byte ≤ 0x7e

def slash : UInt8 := 0x2f
def backslash : UInt8 := 0x5c
def dollar : UInt8 := 0x24

/-- `value.strip_prefix(start)`. -/
def stripStart (value start : Bytes) : Option Bytes :=
  if start.isPrefixOf value then some (value.drop start.length) else none

def dynamicStringAt (stringTable : Bytes) (offset : UInt64) (label : String) : Result Bytes := do
  check (offset.toNat ≤ stringTable.length) s!"startup ELF {label} string offset is outside DT_STRSZ"
  let tail := stringTable.drop offset.toNat
  check (0 ∈ tail) s!"startup ELF {label} string is not NUL-terminated"
  require (fromUtf8 (tail.takeWhile (· ≠ 0))) s!"startup ELF {label} string is not ASCII"

def validateDynamicBasename (value : Bytes) (label : String) : Result Unit := do
  validateDynamicBasenameBytes value.length label
  check (value.all fun byte => printable byte && byte ≠ slash && byte ≠ backslash)
    s!"{label} is not one printable-ASCII basename"

structure NeededLibrary where
  dynamicOrdinal : ℕ
  requestedName : Bytes

inductive RunpathComponent
  | absolute (raw : Bytes)
  | originRelative (raw suffix : Bytes)

structure ValidatedRunpath where
  raw : Bytes
  components : List RunpathComponent

def validateAbsoluteRunpathComponent (component : Bytes) : Result Unit := do
  check (dollar ∉ component)
    "startup ELF DT_RUNPATH absolute component contains an expansion token"
  ((component.drop 1).splitOn slash).forM fun segment =>
    check (segment ≠ [] ∧ segment ≠ utf8 "." ∧ segment ≠ utf8 ".." ∧
        segment.all fun byte => printable byte && byte ≠ slash)
      "startup ELF DT_RUNPATH absolute component is noncanonical"

def validateRunpathComponent (component : Bytes) : Result RunpathComponent := do
  validateRunpathComponentBytes component.length "startup ELF DT_RUNPATH"
  if component.head? = some slash then
    validateAbsoluteRunpathComponent component
    pure (.absolute component)
  else
    let suffix ← require
      ((stripStart component (utf8 "$ORIGIN")).or
        (stripStart component (utf8 "$" ++ [0x7b] ++ utf8 "ORIGIN" ++ [0x7d])))
      "startup ELF DT_RUNPATH component has an unrecognized form"
    check (suffix = [] ∨ suffix.head? = some slash) "startup ELF DT_RUNPATH embeds its ORIGIN token"
    check (dollar ∉ suffix) "startup ELF DT_RUNPATH repeats or combines an expansion token"
    if suffix.head? = some slash then
      ((suffix.drop 1).splitOn slash).forM fun segment =>
        check (segment ≠ [] ∧ segment ≠ utf8 "." ∧
            segment.all fun byte => printable byte && byte ≠ slash && byte ≠ backslash && byte ≠ dollar)
          "startup ELF DT_RUNPATH ORIGIN suffix is noncanonical"
    pure (.originRelative component suffix)

def validateRunpath (raw : Bytes) : Result ValidatedRunpath := do
  check (raw.all printable ∧ 0x3b ∉ raw ∧ backslash ∉ raw)
    "startup ELF DT_RUNPATH is not closed printable ASCII"
  let parts := raw.splitOn 0x3a
  validateRunpathComponentCount parts.length "startup ELF DT_RUNPATH"
  let components ← parts.mapM validateRunpathComponent
  pure { raw, components }

end Strings

section StringTable

/-- The file offset through the loads, none or one of which has the whole range in its file part. -/
def mapThroughLoad (virtualAddress virtualEnd : ℕ) (label : String) (mapped : Option ℕ)
    (load : ProgramHeader) : Result (Option ℕ) := do
  let loadFileVirtualEnd ← require (checkedAdd load.pVaddr.toNat load.pFilesz.toNat)
    s!"{label} PT_LOAD virtual range overflowed"
  if load.pVaddr.toNat ≤ virtualAddress ∧ virtualEnd ≤ loadFileVirtualEnd then
    let fileOffset ← require
      (checkedAdd load.pOffset.toNat (virtualAddress - load.pVaddr.toNat))
      s!"{label} file offset overflowed"
    check (mapped.isNone = true) s!"{label} maps through more than one file-backed PT_LOAD"
    pure (some fileOffset)
  else pure mapped

def mapVirtualFileRange (bytes : Bytes) (programHeaders : List ProgramHeader)
    (virtualAddress byteLength : ℕ) (label : String) : Result Bytes := do
  let virtualEnd ← require (checkedAdd virtualAddress byteLength) s!"{label} virtual range overflowed"
  let mapped ← (programHeaders.filter (·.pType = ptLoad)).foldlM
    (mapThroughLoad virtualAddress virtualEnd label) none
  let fileOffset ← require mapped s!"{label} does not map through exactly one file-backed PT_LOAD"
  checkedFileRange bytes fileOffset byteLength label

def resolveStartupDynamicStringTable (bytes : Bytes) (analysis : CommonElfAnalysis)
    (parsed : ParsedStartupDynamicRecords) : Result (Option Bytes) := do
  if parsed.neededOffsets ≠ [] ∨ parsed.sonameOffset.isSome = true ∨
      parsed.runpathOffset.isSome = true then
    let address ← require parsed.stringTableAddress
      "runtime ELF dynamic strings are referenced without one DT_STRTAB"
    let size ← require parsed.stringTableSize
      "runtime ELF dynamic strings are referenced without one DT_STRSZ"
    let stringTable ← mapVirtualFileRange bytes analysis.programHeaders address.toNat size.toNat
      "runtime dynamic string table"
    check (0 ∈ stringTable) "runtime ELF dynamic string table contains no NUL terminator"
    pure (some stringTable)
  else pure none

/-- A reference to a dynamic string where none of the tables is there stops outside its range. -/
def expectTable (stringTable : Option Bytes) : Result Bytes := item stringTable.toList 0

def resolveNeededLibrary (stringTable : Option Bytes) (offset : ℕ × UInt64) : Result NeededLibrary := do
  let requestedName ← dynamicStringAt (← expectTable stringTable) offset.2 "DT_NEEDED"
  validateDynamicBasename requestedName "startup ELF DT_NEEDED"
  pure { dynamicOrdinal := offset.1, requestedName }

def resolveNeededLibraries (neededOffsets : List (ℕ × UInt64)) (stringTable : Option Bytes) :
    Result (List NeededLibrary) := do
  let neededLibraries ← neededOffsets.mapM (resolveNeededLibrary stringTable)
  let sortedNeeded := (neededLibraries.map NeededLibrary.requestedName).insertionSort (· ≤ ·)
  check (sortedNeeded.IsChain (· ≠ ·)) "startup ELF repeats a DT_NEEDED basename"
  pure neededLibraries

end StringTable

end Eip0045.Amd64Elf
