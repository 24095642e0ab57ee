import Mathlib
import Eip0045.Elf.Indexed

/-! The appliance's inspection of retained static images, beside the generator's. -/

namespace Eip0045.Amd64Elf

open Bytes Checked
open Statement (checkedMul)

namespace Appliance

open Indexed (range remainder increment)

section Limits

def retainedStaticAmd64ElfMinBytesV2 : ℕ := 64
def retainedStaticAmd64ElfMaxBytesV2 : ℕ := 1073741824
def retainedStaticAmd64ElfMaxProgramHeadersV2 : ℕ := 65534
def retainedStaticAmd64ElfMaxSectionHeadersV2 : ℕ := 65279

end Limits

section Headers

/-- The crate's own errors are left out of the two messages that carry them. -/
def parseClosedElf64Header (crate : ElfCrate) (bytes : Bytes) : Result FileHeader := do
  let magic ← range bytes 0 4
  check (magic = [0x7f, 0x45, 0x4c, 0x46]) "AMD64 ELF magic is invalid"
  let fileClass ← item bytes 4
  check (fileClass = 2) "AMD64 ELF is not ELF64"
  let dataEncoding ← item bytes 5
  check (dataEncoding = 1) "AMD64 ELF is not little-endian"
  let identVersion ← item bytes 6
  check (identVersion = 1) "AMD64 ELF ident version is not current"
  let osAbi ← item bytes 7
  check (osAbi = 0 ∨ osAbi = 3) "AMD64 ELF OS ABI is not System V or Linux"
  let abiVersion ← item bytes 8
  check (abiVersion = 0) "AMD64 ELF ABI version is not zero"
  let padding ← range bytes 9 16
  check (∀ byte ∈ padding, byte = 0) "AMD64 ELF ident padding is not all zero"
  let identBytes ← range bytes 0 16
  let ident ← require (crate.parseIdent identBytes) "cannot parse AMD64 ELF ident"
  check (ident.class64 = true) "AMD64 ELF is not ELF64"
  let tail ← range bytes 16 elf64HeaderBytes
  let header ← require (crate.parseTail ident tail) "cannot parse AMD64 ELF header"
  check (header.eType = etExec ∨ header.eType = etDyn) "AMD64 ELF type is not ET_EXEC or ET_DYN"
  check (header.eMachine = emX86_64) "ELF machine is not AMD64"
  check (header.version = 1) "AMD64 ELF header version is not current"
  check (header.eEhsize.toNat = elf64HeaderBytes) "AMD64 ELF header size is not 64"
  pure header

def checkedFileEnd (bytes : Bytes) (offset size : ℕ) (label : String) : Result ℕ := do
  let fileEnd ← require (checkedAdd offset size) s!"AMD64 ELF {label} overflowed"
  check (fileEnd ≤ bytes.length) s!"AMD64 ELF {label} is outside the file"
  pure fileEnd

def checkedFileRange (bytes : Bytes) (offset size : ℕ) (label : String) : Result Bytes := do
  let fileEnd ← checkedFileEnd bytes offset size label
  range bytes offset fileEnd

end Headers

section Sections

def validateSectionNameTable (bytes : Bytes) (header : FileHeader) (sections : List SectionHeader) :
    Result Unit := do
  let stringHeader ← item sections header.eShstrndx.toNat
  check (stringHeader.shType = shtStrtab) "AMD64 ELF selected section-name table is not SHT_STRTAB"
  let stringTable ← checkedFileRange bytes stringHeader.shOffset.toNat stringHeader.shSize.toNat
    "section-name string table"
  check (stringTable.head? = some 0 ∧ stringTable.getLast? = some 0)
    "AMD64 ELF section-name string table is not NUL-bounded through its declared end"
  sections.forM fun s => check (s.shName.toNat < stringTable.length)
    "AMD64 ELF section name offset is outside the selected string table"

def checkSection (bytes : Bytes) (sectionHeaderCount : ℕ) (s : SectionHeader) : Result Unit := do
  if s.shType ≠ shtNobits then
    let _ ← checkedFileEnd bytes s.shOffset.toNat s.shSize.toNat "section file range"
    pure ()
  if sectionLinkIsSectionIndex s.shType = true ∨ s.shFlags &&& shfLinkOrder ≠ 0 then
    check (s.shLink.toNat < sectionHeaderCount)
      "AMD64 ELF section sh_link index is outside the section table"
  if s.shType = shtRel ∨ s.shType = shtRela ∨ s.shFlags &&& shfInfoLink ≠ 0 then
    check (s.shInfo.toNat < sectionHeaderCount)
      "AMD64 ELF section sh_info index is outside the section table"

def validateSections (bytes : Bytes) (header : FileHeader) (sections : List SectionHeader) :
    Result Unit := do
  let sectionZero ← item sections 0
  check sectionZero.isNull "AMD64 ELF section zero is not the exact null header"
  sections.forM (checkSection bytes sections.length)
  if header.eShstrndx ≠ shnUndef then validateSectionNameTable bytes header sections else pure ()

def parseAndValidateSectionHeaders (crate : ElfCrate) (bytes : Bytes) (header : FileHeader) :
    Result Unit := do
  if header.eShoff = 0 then
    check (header.eShentsize = 0 ∧ header.eShnum = 0 ∧ header.eShstrndx = 0)
      "absent AMD64 ELF section table does not use the exact zero tuple"
    pure ()
  else
    check (header.eShnum ≠ 0 ∧ header.eShnum < elfShnLoreserve ∧ header.eShstrndx ≠ shnXindex)
      "AMD64 ELF extended section numbering is rejected"
    let sectionHeaderCount := header.eShnum.toNat
    check (sectionHeaderCount ≤ retainedStaticAmd64ElfMaxSectionHeadersV2)
      "AMD64 ELF section-header count exceeds its role-specific range"
    check (header.eShentsize = elf64SectionHeaderBytes)
      "AMD64 ELF section-header entry size is not 64"
    check (header.eShstrndx = shnUndef ∨
        (header.eShstrndx < elfShnLoreserve ∧ header.eShstrndx < header.eShnum))
      "AMD64 ELF section-name string-table index is outside the section table"
    let sectionTableBytes ← require (checkedMul sectionHeaderCount elf64SectionHeaderBytes.toNat)
      "AMD64 ELF section-header table size overflowed"
    let sectionTable ← checkedFileRange bytes header.eShoff.toNat sectionTableBytes
      "section-header table"
    let sections := (crate.sectionHeaderTable sectionTable).take sectionHeaderCount
    check (sections.length = sectionHeaderCount)
      "AMD64 ELF section-header table did not parse completely"
    validateSections bytes header sections

end Sections

section Segments

structure CommonElfAnalysis where
  entryPointInExecutableLoad : Bool
  interpreter : Option ProgramHeader
  dynamic : Option ProgramHeader

/-- What the loop over the segments has seen. -/
structure SegmentScan where
  loadSegmentCount : ℕ
  readableLoadExists : Bool
  entryPointInExecutableLoad : Bool
  loadFileRanges : List (ℕ × ℕ)
  interpreter : Option ProgramHeader
  dynamic : Option ProgramHeader
  gnuStackSegmentCount : ℕ

def SegmentScan.start : SegmentScan := ⟨0, false, false, [], none, none, 0⟩

def checkCongruence (segment : ProgramHeader) : Result Unit :=
  if segment.pAlign > 1 then do
    let address ← remainder segment.pVaddr segment.pAlign
    let offset ← remainder segment.pOffset segment.pAlign
    check (address = offset)
      "AMD64 ELF PT_LOAD virtual address and file offset are incongruent"
  else pure ()

def scanLoad (header : FileHeader) (scan : SegmentScan) (segment : ProgramHeader) (fileEnd : ℕ) :
    Result SegmentScan := do
  check (segment.pFilesz ≤ segment.pMemsz) "AMD64 ELF PT_LOAD file size exceeds memory size"
  check (segment.pAlign ≤ 1 ∨ isPowerOfTwo segment.pAlign.toNat)
    "AMD64 ELF PT_LOAD alignment is not zero, one, or a power of two"
  checkCongruence segment
  let memoryEnd ← require (checkedAdd segment.pVaddr.toNat segment.pMemsz.toNat)
    "AMD64 ELF PT_LOAD memory range overflowed"
  let readable := segment.pFlags &&& pfR != 0
  let writable := segment.pFlags &&& pfW != 0
  let executable := segment.pFlags &&& pfX != 0
  check (!(writable && executable)) "AMD64 ELF PT_LOAD is both writable and executable"
  let loadSegmentCount ← increment scan.loadSegmentCount
  pure { scan with
    loadSegmentCount
    readableLoadExists := scan.readableLoadExists || readable
    entryPointInExecutableLoad := scan.entryPointInExecutableLoad ||
      (executable && segment.pVaddr ≤ header.eEntry && header.eEntry.toNat < memoryEnd)
    loadFileRanges := scan.loadFileRanges ++
      if segment.pFilesz ≠ 0 then [(segment.pOffset.toNat, fileEnd)] else [] }

def scanSegment (bytes : Bytes) (header : FileHeader) (scan : SegmentScan) (segment : ProgramHeader) :
    Result SegmentScan := do
  let fileEnd ← checkedFileEnd bytes segment.pOffset.toNat segment.pFilesz.toNat
    "program-header file range"
  if segment.pType = ptLoad then scanLoad header scan segment fileEnd
  else if segment.pType = ptInterp then do
    check (scan.interpreter.isNone = true) "AMD64 ELF contains more than one interpreter segment"
    pure { scan with interpreter := some segment }
  else if segment.pType = ptDynamic then do
    check (scan.dynamic.isNone = true) "AMD64 ELF contains more than one dynamic segment"
    pure { scan with dynamic := some segment }
  else if segment.pType = ptGnuStack then do
    let gnuStackSegmentCount ← increment scan.gnuStackSegmentCount
    check (gnuStackSegmentCount = 1 ∧ segment.pFlags &&& pfX = 0)
      "AMD64 ELF GNU stack is duplicated or executable"
    pure { scan with gnuStackSegmentCount }
  else do
    check (segment.pType ≠ ptShlib) "AMD64 ELF contains a rejected PT_SHLIB segment"
    pure scan

def inspectLoadAndLinkageSegments (bytes : Bytes) (header : FileHeader)
    (programHeaders : List ProgramHeader) : Result CommonElfAnalysis := do
  let scan ← programHeaders.foldlM (scanSegment bytes header) SegmentScan.start
  check (scan.loadSegmentCount ≠ 0) "AMD64 ELF has no PT_LOAD segment"
  check (scan.readableLoadExists = true) "AMD64 ELF has no readable PT_LOAD segment"
  check (scan.gnuStackSegmentCount = 1)
    "AMD64 ELF does not contain exactly one non-executable GNU stack"
  checkDisjoint none (scan.loadFileRanges.insertionSort rangeLe)
  pure {
    entryPointInExecutableLoad := scan.entryPointInExecutableLoad
    interpreter := scan.interpreter
    dynamic := scan.dynamic }

def inspectCommonStructure (crate : ElfCrate) (bytes : Bytes) (header : FileHeader) :
    Result CommonElfAnalysis := do
  let programHeaderCount := header.ePhnum.toNat
  check (1 ≤ programHeaderCount ∧ programHeaderCount ≤ retainedStaticAmd64ElfMaxProgramHeadersV2)
    "AMD64 ELF program-header count is outside its role-specific range"
  check (header.ePhentsize = elf64ProgramHeaderBytes)
    "AMD64 ELF program-header entry size is not 56"
  let programTableBytes ← require (checkedMul programHeaderCount elf64ProgramHeaderBytes.toNat)
    "AMD64 ELF program-header table size overflowed"
  let programTable ← checkedFileRange bytes header.ePhoff.toNat programTableBytes
    "program-header table"
  let programHeaders := (crate.segmentTable programTable).take programHeaderCount
  check (programHeaders.length = programHeaderCount)
    "AMD64 ELF program-header table did not parse completely"
  parseAndValidateSectionHeaders crate bytes header
  inspectLoadAndLinkageSegments bytes header programHeaders

def validateStaticAmd64ElfV2 (crate : ElfCrate) (bytes : Bytes) : Result Unit := do
  let header ← parseClosedElf64Header crate bytes
  let analysis ← inspectCommonStructure crate bytes header
  check (analysis.entryPointInExecutableLoad = true)
    "AMD64 ELF entry point is not in an executable PT_LOAD"
  check (analysis.interpreter.isNone = true ∧ analysis.dynamic.isNone = true)
    "static ELF contains an interpreter or dynamic segment"

end Segments

section Agreement

variable {crate : ElfCrate} {bytes : Bytes} {header : FileHeader} {n : ℕ} {scan : Amd64Elf.SegmentScan}

def kept (scan : Amd64Elf.SegmentScan) : SegmentScan :=
  ⟨scan.loadSegmentCount, scan.readableLoadExists, scan.entryPointInExecutableLoad, scan.loadFileRanges,
    scan.interpreter, scan.dynamic, scan.gnuStackSegmentCount⟩

lemma scanLoad_kept (h : Indexed.Counted n scan) (hn : n + 1 < 2 ^ 64) (segment : ProgramHeader)
    (fileEnd : ℕ) : scanLoad header (kept scan) segment fileEnd =
      kept <$> Amd64Elf.scanLoad header scan segment fileEnd := by
  have hincrement : increment (kept scan).loadSegmentCount = .ok (scan.loadSegmentCount + 1) :=
    Indexed.increment_below h.loads hn
  have hcongruence : checkCongruence segment = Amd64Elf.checkCongruence segment :=
    Indexed.checkCongruence_eq segment
  simp only [scanLoad, Amd64Elf.scanLoad, hcongruence, hincrement, ok_bind, map_bind, map_pure]
  rfl

lemma map_ite {α β : Type} {c : Prop} [Decidable c] (f : α → β) (x y : Result α) :
    f <$> (if c then x else y) = if c then f <$> x else f <$> y := by
  split <;> rfl

lemma scanSegment_kept (h : Indexed.Counted n scan) (hn : n + 1 < 2 ^ 64) (segment : ProgramHeader) :
    scanSegment bytes header (kept scan) segment =
      kept <$> Amd64Elf.scanSegment bytes header scan segment := by
  have hincrement : increment (kept scan).gnuStackSegmentCount = .ok (scan.gnuStackSegmentCount + 1) :=
    Indexed.increment_below h.gnuStacks hn
  simp only [scanSegment, Amd64Elf.scanSegment, scanLoad_kept h hn, hincrement, ok_bind, map_bind, map_ite,
    map_pure]
  rfl

lemma map_bind_ok {α β γ : Type} (f : α → β) (x : Result α) (g : β → Result γ) :
    ((f <$> x) >>= g) = x >>= fun a => g (f a) := by
  cases x <;> rfl

lemma scanSegments_kept {segments : List ProgramHeader} (h : Indexed.Counted n scan)
    (hn : n + segments.length < 2 ^ 64) :
    segments.foldlM (scanSegment bytes header) (kept scan) =
      kept <$> segments.foldlM (Amd64Elf.scanSegment bytes header) scan := by
  induction segments generalizing scan n with
  | nil => rfl
  | cons segment segments ih =>
    rw [List.length_cons] at hn
    rw [List.foldlM_cons, List.foldlM_cons, scanSegment_kept h (by omega), map_bind_ok, map_bind]
    apply Indexed.bind_congr_ok
    intro next hnext
    exact ih (Indexed.counted_scanSegment h hnext) (by omega)

lemma checkedFileRange_eq (bytes : Bytes) (offset size : ℕ) (label : String) :
    checkedFileRange bytes offset size label = Amd64Elf.checkedFileRange bytes offset size label :=
  Indexed.checkedFileRange_eq bytes offset size label

lemma validateSectionNameTable_eq (bytes : Bytes) (header : FileHeader) (sections : List SectionHeader) :
    validateSectionNameTable bytes header sections =
      Amd64Elf.validateSectionNames bytes sections header.eShstrndx.toNat :=
  Indexed.validateSectionNames_eq bytes sections header.eShstrndx.toNat

lemma parseAndValidateSectionHeaders_kept (crate : ElfCrate) (bytes : Bytes) (header : FileHeader) :
    parseAndValidateSectionHeaders crate bytes header =
      (fun _ => ()) <$> Amd64Elf.parseAndValidateSectionHeaders crate bytes header := by
  simp only [parseAndValidateSectionHeaders, Amd64Elf.parseAndValidateSectionHeaders,
    Indexed.checkedMul_half header.eShnum elf64SectionHeaderBytes.toNat (by decide),
    Indexed.require_some, ok_bind, checkedFileRange_eq, map_ite, map_bind, map_pure]
  split
  · rfl
  · apply Indexed.bind_congr_ok
    intro _ _
    apply Indexed.bind_congr_ok
    intro _ _
    apply Indexed.bind_congr_ok
    intro _ _
    apply Indexed.bind_congr_ok
    intro _ _
    apply Indexed.bind_congr_ok
    intro sectionTable _
    apply Indexed.bind_congr_ok
    intro _ hcount
    simp only [validateSections, validateSectionNameTable_eq, check_ok.mp hcount]
    apply Indexed.bind_congr_ok
    intro sectionZero _
    apply Indexed.bind_congr_ok
    intro _ _
    apply Indexed.bind_congr_ok
    intro _ _
    split
    · cases Amd64Elf.validateSectionNames bytes _ header.eShstrndx.toNat <;> rfl
    · rfl

def keptAnalysis (analysis : Amd64Elf.CommonElfAnalysis) : CommonElfAnalysis :=
  ⟨analysis.common.entryPointInExecutableLoad, analysis.interpreter, analysis.dynamic⟩

lemma inspectCommonStructure_kept (crate : ElfCrate) (bytes : Bytes) (header : FileHeader) :
    inspectCommonStructure crate bytes header =
      keptAnalysis <$> Indexed.inspectCommonStructure crate bytes header := by
  have hscan : ∀ table, ((crate.segmentTable table).take header.ePhnum.toNat).foldlM
      (scanSegment bytes header) SegmentScan.start =
        kept <$> ((crate.segmentTable table).take header.ePhnum.toNat).foldlM
          (Amd64Elf.scanSegment bytes header) Amd64Elf.SegmentScan.start := by
    intro table
    have hcount := header.ePhnum.toNat_lt
    have hlength := List.length_take_le header.ePhnum.toNat (crate.segmentTable table)
    have hstart : Indexed.Counted 0 Amd64Elf.SegmentScan.start := ⟨le_rfl, le_rfl, le_rfl⟩
    exact @scanSegments_kept bytes header 0 _ _ hstart (by omega)
  rw [Indexed.inspectCommonStructure_eq]
  simp only [inspectCommonStructure, Amd64Elf.inspectCommonStructure, inspectLoadAndLinkageSegments,
    Indexed.checkedMul_half header.ePhnum elf64ProgramHeaderBytes.toNat (by decide),
    Indexed.require_some, ok_bind, checkedFileRange_eq, parseAndValidateSectionHeaders_kept, hscan,
    map_bind_ok, map_bind, map_pure]
  rfl

lemma kept_ok {analysis : CommonElfAnalysis} :
    inspectCommonStructure crate bytes header = .ok analysis ↔
      ∃ common, Indexed.inspectCommonStructure crate bytes header = .ok common ∧
        keptAnalysis common = analysis := by
  rw [inspectCommonStructure_kept]
  cases Indexed.inspectCommonStructure crate bytes header with
  | ok common => simp [Functor.map, Except.map]
  | error e => simp [Functor.map, Except.map]

lemma validateStaticAmd64ElfV2_ok : validateStaticAmd64ElfV2 crate bytes = .ok () ↔
    ∃ header analysis, Indexed.parseClosedElf64Header crate bytes = .ok header ∧
      Indexed.inspectCommonStructure crate bytes header = .ok analysis ∧
      analysis.common.entryPointInExecutableLoad = true ∧ analysis.interpreter = none ∧
      analysis.dynamic = none := by
  have hheader : parseClosedElf64Header crate bytes = Indexed.parseClosedElf64Header crate bytes := rfl
  simp only [validateStaticAmd64ElfV2, hheader, bind_ok, exists_unit, check_ok, kept_ok,
    Option.isNone_iff_eq_none]
  constructor
  · intro h
    obtain ⟨header, hparse, _, ⟨common, hinspect, rfl⟩, hentry, hinterpreter, hdynamic⟩ := h
    exact ⟨header, common, hparse, hinspect, hentry, hinterpreter, hdynamic⟩
  · intro h
    obtain ⟨header, common, hparse, hinspect, hentry, hinterpreter, hdynamic⟩ := h
    exact ⟨header, hparse, _, ⟨common, hinspect, rfl⟩, hentry, hinterpreter, hdynamic⟩

lemma parseClosedElf64Header_inside (h : elf64HeaderBytes ≤ bytes.length) :
    Indexed.parseClosedElf64Header crate bytes ≠ .error .outOfRange := by
  rw [Indexed.parseClosedElf64Header_eq h]
  exact Indexed.parseClosedElf64Header_inside crate bytes

lemma inspectCommonStructure_inside (crate : ElfCrate) (bytes : Bytes) (header : FileHeader) :
    Indexed.inspectCommonStructure crate bytes header ≠ .error .outOfRange := by
  rw [Indexed.inspectCommonStructure_eq]
  exact Indexed.inspectCommonStructure_inside crate bytes header

lemma validateStaticAmd64ElfV2_inside (h : elf64HeaderBytes ≤ bytes.length) :
    validateStaticAmd64ElfV2 crate bytes ≠ .error .outOfRange := by
  apply bind_ne_error (parseClosedElf64Header_inside h)
  intro header _
  apply bind_ne_error
  · rw [inspectCommonStructure_kept]
    intro hfault
    apply inspectCommonStructure_inside crate bytes header
    cases hinspect : Indexed.inspectCommonStructure crate bytes header with
    | ok common =>
      rw [hinspect] at hfault
      cases hfault
    | error e =>
      rw [hinspect] at hfault
      cases hfault
      rfl
  · intro analysis _
    apply bind_ne_error (Indexed.check_inside _ _)
    intro _ _
    exact Indexed.check_inside _ _

end Agreement

section Main

variable (crate : ElfCrate)

/-- The appliance accepts what the generator accepts with an entry point in an executable load and no
linkage segment. On a body with the bytes of a header no index, slice, sum or remainder of either fails. -/
theorem elf_inspectors_agree :
    (∀ bytes : Bytes, minimumEncodedBytes ≤ bytes.length → bytes.length ≤ maximumEncodedBytes →
      (validateStaticAmd64ElfV2 crate bytes = .ok () ↔
        ∃ header analysis, Indexed.parseClosedElf64Header crate bytes = .ok header ∧
          Indexed.inspectCommonStructure crate bytes header = .ok analysis ∧
          analysis.common.entryPointInExecutableLoad = true ∧ analysis.interpreter = none ∧
          analysis.dynamic = none)) ∧
    ∀ bytes : Bytes, minimumEncodedBytes ≤ bytes.length → bytes.length ≤ maximumEncodedBytes →
      validateStaticAmd64ElfV2 crate bytes ≠ .error .outOfRange ∧
      Indexed.parseClosedElf64Header crate bytes ≠ .error .outOfRange ∧
      ∀ header, Indexed.inspectCommonStructure crate bytes header ≠ .error .outOfRange :=
  ⟨fun _ _ _ => validateStaticAmd64ElfV2_ok, fun bytes h _ => ⟨validateStaticAmd64ElfV2_inside h,
    parseClosedElf64Header_inside h, fun header => inspectCommonStructure_inside crate bytes header⟩⟩

end Main

end Appliance

end Eip0045.Amd64Elf
