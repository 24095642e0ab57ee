import Mathlib
import Eip0045.Elf.Dynamic

/-! The two inspections of AMD64 ELF bodies, and the memory image that their loads describe. -/

namespace Eip0045.Amd64Elf

open Bytes Checked

section Inspections

structure StartupDynamicInspection where
  acceptedRecords : List DynamicRecord
  acceptedTags : List AcceptedDynamicTag
  neededLibraries : List NeededLibrary
  soname : Option Bytes
  runpath : Option ValidatedRunpath

def resolveSoname (stringTable : Option Bytes) (offset : ℕ × UInt64) : Result Bytes := do
  let soname ← dynamicStringAt (← expectTable stringTable) offset.2 "DT_SONAME"
  validateDynamicBasename soname "startup ELF DT_SONAME"
  pure soname

def resolveRunpath (stringTable : Option Bytes) (offset : ℕ × UInt64) : Result ValidatedRunpath := do
  let runpath ← dynamicStringAt (← expectTable stringTable) offset.2 "DT_RUNPATH"
  validateRunpath runpath

def inspectStartupDynamicLinkage (bytes : Bytes) (analysis : CommonElfAnalysis) :
    Result StartupDynamicInspection := do
  let dynamic ← require analysis.dynamic
    "dynamic startup ELF does not contain exactly one dynamic segment"
  let dynamicBytes ← checkedFileRange bytes dynamic.pOffset.toNat dynamic.pFilesz.toNat
    "runtime dynamic array"
  check (dynamicBytes ≠ [] ∧ dynamicBytes.length % 16 = 0)
    "runtime ELF dynamic array is not composed of complete 16-byte entries"
  let parsed ← parseStartupDynamicRecords dynamicBytes
  let stringTable ← resolveStartupDynamicStringTable bytes analysis parsed
  let neededLibraries ← resolveNeededLibraries parsed.neededOffsets stringTable
  let soname ← parsed.sonameOffset.mapM (resolveSoname stringTable)
  let runpath ← parsed.runpathOffset.mapM (resolveRunpath stringTable)
  pure {
    acceptedRecords := parsed.acceptedRecords
    acceptedTags := parsed.acceptedTags
    neededLibraries
    soname
    runpath }

structure RuntimeInspection where
  interpreterPath : Bytes
  dynamicEntryCount : ℕ
  neededLibraryCount : ℕ
  startupDynamic : StartupDynamicInspection

def validateInterpreterPath (path : Bytes) : Result Unit := do
  check (2 ≤ path.length ∧ path.length ≤ 240 ∧ path.head? = some slash)
    "runtime ELF interpreter path is not canonical absolute ASCII"
  ((path.drop 1).splitOn slash).forM fun component =>
    check (component ≠ [] ∧ component ≠ utf8 "." ∧ component ≠ utf8 ".." ∧
        component.all fun byte => printable byte && byte ≠ slash)
      "runtime ELF interpreter path contains a noncanonical component"

def inspectRuntimeLinkage (bytes : Bytes) (analysis : CommonElfAnalysis) : Result RuntimeInspection := do
  let interpreter ← require analysis.interpreter
    "runtime ELF does not contain exactly one interpreter segment"
  let _ ← require analysis.dynamic "runtime ELF does not contain exactly one dynamic segment"
  let interpreterBytes ← checkedFileRange bytes interpreter.pOffset.toNat interpreter.pFilesz.toNat
    "runtime interpreter payload"
  check (2 ≤ interpreterBytes.length ∧ interpreterBytes.length ≤ 241 ∧
      interpreterBytes.getLast? = some 0 ∧ 0 ∉ interpreterBytes.dropLast)
    "runtime ELF interpreter path is not one exact NUL-terminated payload"
  let interpreterPath ← require (fromUtf8 interpreterBytes.dropLast)
    "runtime ELF interpreter path is not ASCII"
  validateInterpreterPath interpreterPath
  let startupDynamic ← inspectStartupDynamicLinkage bytes analysis
  check (startupDynamic.soname.isNone = true) "runtime executable carries a rejected DT_SONAME"
  pure {
    interpreterPath
    dynamicEntryCount := startupDynamic.acceptedRecords.length
    neededLibraryCount := startupDynamic.neededLibraries.length
    startupDynamic }

structure InspectedAmd64Elf where
  byteLength : ℕ
  common : CommonInspection
  runtime : RuntimeInspection

def inspectRuntimeAmd64Elf (crate : ElfCrate) (bytes : Bytes) : Result InspectedAmd64Elf := do
  validateEncodedLength bytes.length "AMD64 ELF"
  let header ← parseClosedElf64Header crate bytes
  let analysis ← inspectCommonStructure crate bytes header
  check (analysis.common.entryPointInExecutableLoad = true)
    "AMD64 ELF entry point is not in an executable PT_LOAD"
  let runtime ← inspectRuntimeLinkage bytes analysis
  pure { byteLength := bytes.length, common := analysis.common, runtime }

structure StartupDependencyInspection where
  byteLength : ℕ
  common : CommonInspection
  dynamic : StartupDynamicInspection

def inspectStartupDependencyAmd64Dso (crate : ElfCrate) (bytes : Bytes) :
    Result StartupDependencyInspection := do
  validateEncodedLength bytes.length "startup DSO"
  let header ← parseClosedElf64Header crate bytes
  check (header.eType = etDyn) "startup DSO is not ET_DYN"
  let analysis ← inspectCommonStructure crate bytes header
  check (analysis.interpreter.isNone = true ∧ analysis.dynamic.isSome = true)
    "startup DSO must omit PT_INTERP and contain exactly one PT_DYNAMIC"
  check (header.eEntry = 0 ∨ analysis.common.entryPointInExecutableLoad = true)
    "startup DSO nonzero entry point is not in an executable PT_LOAD"
  let dynamic ← inspectStartupDynamicLinkage bytes analysis
  check (dynamic.soname.isSome = true) "startup DSO does not contain exactly one DT_SONAME"
  pure { byteLength := bytes.length, common := analysis.common, dynamic }

end Inspections

section Image

/-- The addresses that a segment occupies in memory. -/
def ProgramHeader.Covers (load : ProgramHeader) (address : ℕ) : Prop :=
  load.pVaddr.toNat ≤ address ∧ address < load.pVaddr.toNat + load.pMemsz.toNat

instance (load : ProgramHeader) (address : ℕ) : Decidable (load.Covers address) := by
  unfold ProgramHeader.Covers
  infer_instance

/-- The byte that a load puts at one of its addresses: of the file, and zero behind it. -/
def ProgramHeader.byteAt (bytes : Bytes) (load : ProgramHeader) (address : ℕ) : UInt8 :=
  if address - load.pVaddr.toNat < load.pFilesz.toNat then
    bytes.getD (load.pOffset.toNat + (address - load.pVaddr.toNat)) 0
  else 0

def loads (programHeaders : List ProgramHeader) : List ProgramHeader :=
  programHeaders.filter (·.pType = ptLoad)

/-- The byte of the memory image at an address that exactly one load covers. -/
def imageByte (bytes : Bytes) (programHeaders : List ProgramHeader) (address : ℕ) : Option UInt8 :=
  match (loads programHeaders).filter (·.Covers address) with
  | [load] => some (load.byteAt bytes address)
  | _ => none

/-- The data stand in the image at the address. -/
def Presents (bytes : Bytes) (programHeaders : List ProgramHeader) (address : ℕ) (data : Bytes) : Prop :=
  ∀ i, i < data.length → imageByte bytes programHeaders (address + i) = data[i]?

end Image

end Eip0045.Amd64Elf
