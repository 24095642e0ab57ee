import Mathlib
import Eip0045.Library.Bytes
import Eip0045.Library.Checked

/-! The headers of an AMD64 ELF body, and the structure that every accepted one has. -/

namespace Eip0045.Amd64Elf

open Bytes Checked

abbrev Result := Except (Fault String)

def check (c : Prop) [Decidable c] (message : String) : Result Unit := report (ensure c message)

def require {α : Type} (o : Option α) (message : String) : Result α := report (context message o)

lemma check_ok {c : Prop} [Decidable c] {message : String} : check c message = .ok () ↔ c := by
  rw [check, report_ok, ensure_ok]

lemma require_ok {α : Type} {o : Option α} {message : String} {a : α} :
    require o message = .ok a ↔ o = some a := by
  rw [require, report_ok, context_ok]

section Limits

def minimumEncodedBytes : ℕ := 64
def maximumEncodedBytes : ℕ := 1073741824
def maximumProgramHeaders : ℕ := 65534
def maximumSectionHeaders : ℕ := 65279
def maximumDynamicEntries : ℕ := 65534
def maximumNeededLibraries : ℕ := 4096
def dynamicBasenameBytes : ℕ := 240
def runpathComponents : ℕ := 16
def runpathComponentBytes : ℕ := 240

def validateEncodedLength (byteLength : ℕ) (label : String) : Result Unit :=
  check (minimumEncodedBytes ≤ byteLength ∧ byteLength ≤ maximumEncodedBytes)
    s!"{label} encoded byte length is outside its role-specific range"

def validateProgramHeaderCount (count : ℕ) (label : String) : Result Unit :=
  check (1 ≤ count ∧ count ≤ maximumProgramHeaders)
    s!"{label} program-header count is outside its role-specific range"

def validateSectionHeaderCount (count : ℕ) (label : String) : Result Unit :=
  check (count ≤ maximumSectionHeaders)
    s!"{label} section-header count exceeds its role-specific range"

def validateDynamicEntryCount (count : ℕ) (label : String) : Result Unit :=
  check (1 ≤ count ∧ count ≤ maximumDynamicEntries)
    s!"{label} dynamic-entry count is outside its role-specific range"

def validateNeededLibraryCount (count : ℕ) (label : String) : Result Unit :=
  check (count ≤ maximumNeededLibraries)
    s!"{label} DT_NEEDED count exceeds its role-specific range"

def validateDynamicBasenameBytes (byteLength : ℕ) (label : String) : Result Unit :=
  check (1 ≤ byteLength ∧ byteLength ≤ dynamicBasenameBytes)
    s!"{label} dynamic basename byte length is outside its closed range"

def validateRunpathComponentCount (count : ℕ) (label : String) : Result Unit :=
  check (1 ≤ count ∧ count ≤ runpathComponents)
    s!"{label} RUNPATH component count is outside its closed range"

def validateRunpathComponentBytes (byteLength : ℕ) (label : String) : Result Unit :=
  check (1 ≤ byteLength ∧ byteLength ≤ runpathComponentBytes)
    s!"{label} RUNPATH component byte length is outside its closed range"

end Limits

section Constants

def elf64HeaderBytes : ℕ := 64
def elf64ProgramHeaderBytes : UInt16 := 56
def elf64SectionHeaderBytes : UInt16 := 64
def elfShnLoreserve : UInt16 := 0xff00
def shnUndef : UInt16 := 0
def shnXindex : UInt16 := 0xffff
def etExec : UInt16 := 2
def etDyn : UInt16 := 3
def emX86_64 : UInt16 := 62
def ptLoad : UInt32 := 1
def ptDynamic : UInt32 := 2
def ptInterp : UInt32 := 3
def ptShlib : UInt32 := 5
def ptGnuStack : UInt32 := 0x6474e551
def pfX : UInt32 := 1
def pfW : UInt32 := 2
def pfR : UInt32 := 4
def shtNull : UInt32 := 0
def shtStrtab : UInt32 := 3
def shtRela : UInt32 := 4
def shtNobits : UInt32 := 8
def shtRel : UInt32 := 9
def shfInfoLink : UInt64 := 0x40
def shfLinkOrder : UInt64 := 0x80

/-- `SHT_SYMTAB`, `SHT_RELA`, `SHT_HASH`, `SHT_DYNAMIC`, `SHT_REL`, `SHT_DYNSYM`, `SHT_GROUP`,
`SHT_SYMTAB_SHNDX` and the five of GNU. -/
def sectionLinkTypes : List UInt32 :=
  [2, 4, 5, 6, 9, 11, 17, 18, 0x6ffffff6, 0x6ffffff7, 0x6ffffffd, 0x6ffffffe, 0x6fffffff]

end Constants

section Data

structure Ident where
  class64 : Bool
  osabi : UInt8

structure FileHeader where
  osabi : UInt8
  eType : UInt16
  eMachine : UInt16
  version : UInt32
  eEntry : UInt64
  ePhoff : UInt64
  eShoff : UInt64
  eEhsize : UInt16
  ePhentsize : UInt16
  ePhnum : UInt16
  eShentsize : UInt16
  eShnum : UInt16
  eShstrndx : UInt16
  deriving DecidableEq

structure ProgramHeader where
  pType : UInt32
  pFlags : UInt32
  pOffset : UInt64
  pVaddr : UInt64
  pFilesz : UInt64
  pMemsz : UInt64
  pAlign : UInt64
  deriving DecidableEq

structure SectionHeader where
  shName : UInt32
  shType : UInt32
  shFlags : UInt64
  shAddr : UInt64
  shOffset : UInt64
  shSize : UInt64
  shLink : UInt32
  shInfo : UInt32
  shAddralign : UInt64
  shEntsize : UInt64

/-- The parsers of the `elf` crate for the little-endian headers. -/
structure ElfCrate where
  parseIdent : Bytes → Option Ident
  parseTail : Ident → Bytes → Option FileHeader
  segmentTable : Bytes → List ProgramHeader
  sectionHeaderTable : Bytes → List SectionHeader

inductive Amd64ElfType
  | executable
  | sharedObject
  deriving DecidableEq

inductive Amd64ElfOsAbi
  | systemV
  | linux
  deriving DecidableEq

structure CommonInspection where
  elfType : Amd64ElfType
  osAbi : Amd64ElfOsAbi
  programHeaderCount : ℕ
  sectionHeaderCount : ℕ
  loadSegmentCount : ℕ
  executableLoadSegmentCount : ℕ
  entryPointIsZero : Bool
  entryPointInExecutableLoad : Bool
  interpreterSegmentCount : ℕ
  dynamicSegmentCount : ℕ
  gnuStackSegmentCount : ℕ

structure CommonElfAnalysis where
  common : CommonInspection
  programHeaders : List ProgramHeader
  interpreter : Option ProgramHeader
  dynamic : Option ProgramHeader

end Data

section Ranges

def checkedFileEnd (bytes : Bytes) (offset size : ℕ) (label : String) : Result ℕ := do
  let fileEnd ← require (checkedAdd offset size) s!"AMD64 ELF {label} overflowed"
  check (fileEnd ≤ bytes.length) s!"AMD64 ELF {label} is outside the file"
  pure fileEnd

def checkedFileRange (bytes : Bytes) (offset size : ℕ) (label : String) : Result Bytes := do
  let _ ← checkedFileEnd bytes offset size label
  pure (slice bytes offset size)

lemma checkedFileEnd_ok {bytes : Bytes} {offset size fileEnd : ℕ} {label : String}
    (h : checkedFileEnd bytes offset size label = .ok fileEnd) :
    fileEnd = offset + size ∧ offset + size ≤ bytes.length := by
  obtain ⟨total, htotal, h⟩ := bind_ok.mp h
  obtain ⟨_, hle, h⟩ := bind_ok.mp h
  obtain ⟨-, rfl⟩ := checkedAdd_eq_some.mp (require_ok.mp htotal)
  exact ⟨(pure_ok.mp h).symm, check_ok.mp hle⟩

lemma checkedFileRange_ok {bytes data : Bytes} {offset size : ℕ} {label : String}
    (h : checkedFileRange bytes offset size label = .ok data) :
    data = slice bytes offset size ∧ offset + size ≤ bytes.length := by
  obtain ⟨_, hend, h⟩ := bind_ok.mp h
  exact ⟨(pure_ok.mp h).symm, (checkedFileEnd_ok hend).2⟩

end Ranges

section FileHeader

/-- `bytes` has at least the 64 bytes of a header. -/
def parseClosedElf64Header (crate : ElfCrate) (bytes : Bytes) : Result FileHeader := do
  check (slice bytes 0 4 = [0x7f, 0x45, 0x4c, 0x46]) "AMD64 ELF magic is invalid"
  check (slice bytes 4 1 = [2]) "AMD64 ELF is not ELF64"
  check (slice bytes 5 1 = [1]) "AMD64 ELF is not little-endian"
  check (slice bytes 6 1 = [1]) "AMD64 ELF ident version is not current"
  check (slice bytes 7 1 = [0] ∨ slice bytes 7 1 = [3]) "AMD64 ELF OS ABI is not System V or Linux"
  check (slice bytes 8 1 = [0]) "AMD64 ELF ABI version is not zero"
  check (∀ byte ∈ slice bytes 9 7, byte = 0) "AMD64 ELF ident padding is not all zero"
  let ident ← require (crate.parseIdent (slice bytes 0 16)) "cannot parse AMD64 ELF ident"
  check (ident.class64 = true) "AMD64 ELF is not ELF64"
  let header ← require (crate.parseTail ident (slice bytes 16 48)) "cannot parse AMD64 ELF header"
  check (header.eType = etExec ∨ header.eType = etDyn) "AMD64 ELF type is not ET_EXEC or ET_DYN"
  check (header.eMachine = emX86_64) "ELF machine is not AMD64"
  check (header.version = 1) "AMD64 ELF header version is not current"
  check (header.eEhsize.toNat = elf64HeaderBytes) "AMD64 ELF header size is not 64"
  pure header

end FileHeader

section Sections

def sectionLinkIsSectionIndex (sectionType : UInt32) : Bool := sectionType ∈ sectionLinkTypes

def SectionHeader.isNull (s : SectionHeader) : Prop :=
  s.shName = 0 ∧ s.shType = shtNull ∧ s.shFlags = 0 ∧ s.shAddr = 0 ∧ s.shOffset = 0 ∧
    s.shSize = 0 ∧ s.shLink = 0 ∧ s.shInfo = 0 ∧ s.shAddralign = 0 ∧ s.shEntsize = 0

instance (s : SectionHeader) : Decidable s.isNull := by
  unfold SectionHeader.isNull
  infer_instance

def validateSection (bytes : Bytes) (sectionHeaderCount : ℕ) (s : SectionHeader) : Result Unit := do
  if s.shType ≠ shtNobits then
    let _ ← checkedFileEnd bytes s.shOffset.toNat s.shSize.toNat "section file range"
    pure ()
  if sectionLinkIsSectionIndex s.shType = true ∨ s.shFlags &&& shfLinkOrder ≠ 0 then
    check (s.shLink.toNat < sectionHeaderCount)
      "AMD64 ELF section sh_link index is outside the section table"
  if s.shType = shtRel ∨ s.shType = shtRela ∨ s.shFlags &&& shfInfoLink ≠ 0 then
    check (s.shInfo.toNat < sectionHeaderCount)
      "AMD64 ELF section sh_info index is outside the section table"

def validateSectionNames (bytes : Bytes) (sections : List SectionHeader) (index : ℕ) : Result Unit := do
  let stringHeader ← item sections index
  check (stringHeader.shType = shtStrtab) "AMD64 ELF selected section-name table is not SHT_STRTAB"
  let stringTable ← checkedFileRange bytes stringHeader.shOffset.toNat stringHeader.shSize.toNat
    "section-name string table"
  check (stringTable.head? = some 0 ∧ stringTable.getLast? = some 0)
    "AMD64 ELF section-name string table is not NUL-bounded through its declared end"
  sections.forM fun s => check (s.shName.toNat < stringTable.length)
    "AMD64 ELF section name offset is outside the selected string table"

def parseAndValidateSectionHeaders (crate : ElfCrate) (bytes : Bytes) (header : FileHeader) :
    Result (List SectionHeader) := do
  if header.eShoff = 0 then
    check (header.eShentsize = 0 ∧ header.eShnum = 0 ∧ header.eShstrndx = 0)
      "absent AMD64 ELF section table does not use the exact zero tuple"
    pure []
  else
    check (header.eShnum ≠ 0 ∧ header.eShnum < elfShnLoreserve ∧ header.eShstrndx ≠ shnXindex)
      "AMD64 ELF extended section numbering is rejected"
    let sectionHeaderCount := header.eShnum.toNat
    validateSectionHeaderCount sectionHeaderCount "AMD64 ELF"
    check (header.eShentsize = elf64SectionHeaderBytes)
      "AMD64 ELF section-header entry size is not 64"
    check (header.eShstrndx = shnUndef ∨
        (header.eShstrndx < elfShnLoreserve ∧ header.eShstrndx < header.eShnum))
      "AMD64 ELF section-name string-table index is outside the section table"
    let sectionTable ← checkedFileRange bytes header.eShoff.toNat
      (sectionHeaderCount * elf64SectionHeaderBytes.toNat) "section-header table"
    let sections := (crate.sectionHeaderTable sectionTable).take sectionHeaderCount
    check (sections.length = sectionHeaderCount)
      "AMD64 ELF section-header table did not parse completely"
    let sectionZero ← item sections 0
    check sectionZero.isNull "AMD64 ELF section zero is not the exact null header"
    sections.forM (validateSection bytes sectionHeaderCount)
    if header.eShstrndx ≠ shnUndef then
      validateSectionNames bytes sections header.eShstrndx.toNat
    pure sections

end Sections

section Segments

/-- What the loop over the segments has seen. -/
structure SegmentScan where
  loadSegmentCount : ℕ
  executableLoadSegmentCount : ℕ
  readableLoadExists : Bool
  entryPointInExecutableLoad : Bool
  loadFileRanges : List (ℕ × ℕ)
  interpreter : Option ProgramHeader
  dynamic : Option ProgramHeader
  gnuStackSegmentCount : ℕ

def SegmentScan.start : SegmentScan := ⟨0, 0, false, false, [], none, none, 0⟩

def isPowerOfTwo (value : ℕ) : Prop := value = 2 ^ Nat.log2 value

instance (value : ℕ) : Decidable (isPowerOfTwo value) := by
  unfold isPowerOfTwo
  infer_instance

def checkCongruence (segment : ProgramHeader) : Result Unit :=
  if segment.pAlign > 1 then
    check (segment.pVaddr % segment.pAlign = segment.pOffset % segment.pAlign)
      "AMD64 ELF PT_LOAD virtual address and file offset are incongruent"
  else pure ()

def scanLoad (header : FileHeader) (scan : SegmentScan) (segment : ProgramHeader) (fileEnd : ℕ) :
    Result SegmentScan := do
  check (segment.pFilesz ≤ segment.pMemsz) "AMD64 ELF PT_LOAD file size exceeds memory size"
  check (segment.pAlign ≤ 1 ∨ isPowerOfTwo segment.pAlign.toNat)
    "AMD64 ELF PT_LOAD alignment is not zero, one, or a power of two"
  checkCongruence segment
  let memoryEnd ← require (checkedAdd segment.pVaddr.toNat segment.pMemsz.toNat)
    "AMD64 ELF PT_LOAD memory range overflowed"
  let readable := segment.pFlags &&& pfR != 0
  let writable := segment.pFlags &&& pfW != 0
  let executable := segment.pFlags &&& pfX != 0
  check (!(writable && executable)) "AMD64 ELF PT_LOAD is both writable and executable"
  pure { scan with
    loadSegmentCount := scan.loadSegmentCount + 1
    readableLoadExists := scan.readableLoadExists || readable
    executableLoadSegmentCount := scan.executableLoadSegmentCount + if executable then 1 else 0
    entryPointInExecutableLoad := scan.entryPointInExecutableLoad ||
      (executable && segment.pVaddr ≤ header.eEntry && header.eEntry.toNat < memoryEnd)
    loadFileRanges := scan.loadFileRanges ++
      if segment.pFilesz ≠ 0 then [(segment.pOffset.toNat, fileEnd)] else [] }

def scanSegment (bytes : Bytes) (header : FileHeader) (scan : SegmentScan) (segment : ProgramHeader) :
    Result SegmentScan := do
  let fileEnd ← checkedFileEnd bytes segment.pOffset.toNat segment.pFilesz.toNat
    "program-header file range"
  if segment.pType = ptLoad then scanLoad header scan segment fileEnd
  else if segment.pType = ptInterp then do
    check (scan.interpreter.isNone = true) "AMD64 ELF contains more than one interpreter segment"
    pure { scan with interpreter := some segment }
  else if segment.pType = ptDynamic then do
    check (scan.dynamic.isNone = true) "AMD64 ELF contains more than one dynamic segment"
    pure { scan with dynamic := some segment }
  else if segment.pType = ptGnuStack then do
    check (scan.gnuStackSegmentCount + 1 = 1 ∧ segment.pFlags &&& pfX = 0)
      "AMD64 ELF GNU stack is duplicated or executable"
    pure { scan with gnuStackSegmentCount := scan.gnuStackSegmentCount + 1 }
  else do
    check (segment.pType ≠ ptShlib) "AMD64 ELF contains a rejected PT_SHLIB segment"
    pure scan

def rangeLe (left right : ℕ × ℕ) : Prop :=
  left.1 < right.1 ∨ (left.1 = right.1 ∧ left.2 ≤ right.2)

instance : DecidableRel rangeLe := by
  unfold rangeLe
  infer_instance

def checkDisjoint : Option ℕ → List (ℕ × ℕ) → Result Unit
  | _, [] => .ok ()
  | previousEnd, (start, rangeEnd) :: ranges => do
    check (∀ last ∈ previousEnd, last ≤ start) "AMD64 ELF PT_LOAD file ranges overlap"
    checkDisjoint (some (max (previousEnd.getD 0) rangeEnd)) ranges

def inspectCommonStructure (crate : ElfCrate) (bytes : Bytes) (header : FileHeader) :
    Result CommonElfAnalysis := do
  let programHeaderCount := header.ePhnum.toNat
  validateProgramHeaderCount programHeaderCount "AMD64 ELF"
  check (header.ePhentsize = elf64ProgramHeaderBytes)
    "AMD64 ELF program-header entry size is not 56"
  let programTable ← checkedFileRange bytes header.ePhoff.toNat
    (programHeaderCount * elf64ProgramHeaderBytes.toNat) "program-header table"
  let programHeaders := (crate.segmentTable programTable).take programHeaderCount
  check (programHeaders.length = programHeaderCount)
    "AMD64 ELF program-header table did not parse completely"
  let sectionHeaders ← parseAndValidateSectionHeaders crate bytes header
  let scan ← programHeaders.foldlM (scanSegment bytes header) SegmentScan.start
  check (scan.loadSegmentCount ≠ 0) "AMD64 ELF has no PT_LOAD segment"
  check (scan.readableLoadExists = true) "AMD64 ELF has no readable PT_LOAD segment"
  check (scan.gnuStackSegmentCount = 1)
    "AMD64 ELF does not contain exactly one non-executable GNU stack"
  checkDisjoint none (scan.loadFileRanges.insertionSort rangeLe)
  pure {
    common := {
      elfType := if header.eType = etExec then .executable else .sharedObject
      osAbi := if header.osabi = 0 then .systemV else .linux
      programHeaderCount
      sectionHeaderCount := sectionHeaders.length
      loadSegmentCount := scan.loadSegmentCount
      executableLoadSegmentCount := scan.executableLoadSegmentCount
      entryPointIsZero := header.eEntry == 0
      entryPointInExecutableLoad := scan.entryPointInExecutableLoad
      interpreterSegmentCount := if scan.interpreter.isSome then 1 else 0
      dynamicSegmentCount := if scan.dynamic.isSome then 1 else 0
      gnuStackSegmentCount := scan.gnuStackSegmentCount }
    programHeaders
    interpreter := scan.interpreter
    dynamic := scan.dynamic }

end Segments

end Eip0045.Amd64Elf
