import Mathlib
import Eip0045.Elf.Headers
import Eip0045.Statement.ErgoStatement

/-! The structure inspection with every index, slice, sum and remainder as one that may stop. -/

namespace Eip0045.Amd64Elf

open Bytes Checked
open Statement (checkedMul checkedMul_eq_some)

namespace Indexed

section Operations

def range (bytes : Bytes) (start stop : ℕ) : Result Bytes := context .outOfRange (getRange bytes start stop)

def remainder (a b : UInt64) : Result UInt64 := do
  ensure (b ≠ 0) .outOfRange
  pure (a % b)

/-- `count += 1` on a word of 64 bits. -/
def increment (count : ℕ) : Result ℕ := context .outOfRange (checkedAdd count 1)

end Operations

section Inspection

def parseClosedElf64Header (crate : ElfCrate) (bytes : Bytes) : Result FileHeader := do
  let magic ← range bytes 0 4
  check (magic = [0x7f, 0x45, 0x4c, 0x46]) "AMD64 ELF magic is invalid"
  let fileClass ← item bytes 4
  check (fileClass = 2) "AMD64 ELF is not ELF64"
  let dataEncoding ← item bytes 5
  check (dataEncoding = 1) "AMD64 ELF is not little-endian"
  let identVersion ← item bytes 6
  check (identVersion = 1) "AMD64 ELF ident version is not current"
  let osAbi ← item bytes 7
  check (osAbi = 0 ∨ osAbi = 3) "AMD64 ELF OS ABI is not System V or Linux"
  let abiVersion ← item bytes 8
  check (abiVersion = 0) "AMD64 ELF ABI version is not zero"
  let padding ← range bytes 9 16
  check (∀ byte ∈ padding, byte = 0) "AMD64 ELF ident padding is not all zero"
  let identBytes ← range bytes 0 16
  let ident ← require (crate.parseIdent identBytes) "cannot parse AMD64 ELF ident"
  check (ident.class64 = true) "AMD64 ELF is not ELF64"
  let tail ← range bytes 16 elf64HeaderBytes
  let header ← require (crate.parseTail ident tail) "cannot parse AMD64 ELF header"
  check (header.eType = etExec ∨ header.eType = etDyn) "AMD64 ELF type is not ET_EXEC or ET_DYN"
  check (header.eMachine = emX86_64) "ELF machine is not AMD64"
  check (header.version = 1) "AMD64 ELF header version is not current"
  check (header.eEhsize.toNat = elf64HeaderBytes) "AMD64 ELF header size is not 64"
  pure header

def checkedFileRange (bytes : Bytes) (offset size : ℕ) (label : String) : Result Bytes := do
  let fileEnd ← checkedFileEnd bytes offset size label
  range bytes offset fileEnd

def validateSectionNames (bytes : Bytes) (sections : List SectionHeader) (index : ℕ) : Result Unit := do
  let stringHeader ← item sections index
  check (stringHeader.shType = shtStrtab) "AMD64 ELF selected section-name table is not SHT_STRTAB"
  let stringTable ← checkedFileRange bytes stringHeader.shOffset.toNat stringHeader.shSize.toNat
    "section-name string table"
  check (stringTable.head? = some 0 ∧ stringTable.getLast? = some 0)
    "AMD64 ELF section-name string table is not NUL-bounded through its declared end"
  sections.forM fun s => check (s.shName.toNat < stringTable.length)
    "AMD64 ELF section name offset is outside the selected string table"

def parseAndValidateSectionHeaders (crate : ElfCrate) (bytes : Bytes) (header : FileHeader) :
    Result (List SectionHeader) := do
  if header.eShoff = 0 then
    check (header.eShentsize = 0 ∧ header.eShnum = 0 ∧ header.eShstrndx = 0)
      "absent AMD64 ELF section table does not use the exact zero tuple"
    pure []
  else
    check (header.eShnum ≠ 0 ∧ header.eShnum < elfShnLoreserve ∧ header.eShstrndx ≠ shnXindex)
      "AMD64 ELF extended section numbering is rejected"
    let sectionHeaderCount := header.eShnum.toNat
    validateSectionHeaderCount sectionHeaderCount "AMD64 ELF"
    check (header.eShentsize = elf64SectionHeaderBytes)
      "AMD64 ELF section-header entry size is not 64"
    check (header.eShstrndx = shnUndef ∨
        (header.eShstrndx < elfShnLoreserve ∧ header.eShstrndx < header.eShnum))
      "AMD64 ELF section-name string-table index is outside the section table"
    let sectionTableBytes ← require (checkedMul sectionHeaderCount elf64SectionHeaderBytes.toNat)
      "AMD64 ELF section-header table size overflowed"
    let sectionTable ← checkedFileRange bytes header.eShoff.toNat sectionTableBytes
      "section-header table"
    let sections := (crate.sectionHeaderTable sectionTable).take sectionHeaderCount
    check (sections.length = sectionHeaderCount)
      "AMD64 ELF section-header table did not parse completely"
    let sectionZero ← item sections 0
    check sectionZero.isNull "AMD64 ELF section zero is not the exact null header"
    sections.forM (validateSection bytes sectionHeaderCount)
    if header.eShstrndx ≠ shnUndef then
      validateSectionNames bytes sections header.eShstrndx.toNat
    pure sections

def checkCongruence (segment : ProgramHeader) : Result Unit :=
  if segment.pAlign > 1 then do
    let address ← remainder segment.pVaddr segment.pAlign
    let offset ← remainder segment.pOffset segment.pAlign
    check (address = offset)
      "AMD64 ELF PT_LOAD virtual address and file offset are incongruent"
  else pure ()

/-- The count of executable loads, after one more load. -/
def countExecutable (executable : Bool) (count : ℕ) : Result ℕ :=
  if executable then increment count else pure count

def scanLoad (header : FileHeader) (scan : SegmentScan) (segment : ProgramHeader) (fileEnd : ℕ) :
    Result SegmentScan := do
  check (segment.pFilesz ≤ segment.pMemsz) "AMD64 ELF PT_LOAD file size exceeds memory size"
  check (segment.pAlign ≤ 1 ∨ isPowerOfTwo segment.pAlign.toNat)
    "AMD64 ELF PT_LOAD alignment is not zero, one, or a power of two"
  checkCongruence segment
  let memoryEnd ← require (checkedAdd segment.pVaddr.toNat segment.pMemsz.toNat)
    "AMD64 ELF PT_LOAD memory range overflowed"
  let readable := segment.pFlags &&& pfR != 0
  let writable := segment.pFlags &&& pfW != 0
  let executable := segment.pFlags &&& pfX != 0
  check (!(writable && executable)) "AMD64 ELF PT_LOAD is both writable and executable"
  let loadSegmentCount ← increment scan.loadSegmentCount
  let executableLoadSegmentCount ← countExecutable executable scan.executableLoadSegmentCount
  pure { scan with
    loadSegmentCount
    readableLoadExists := scan.readableLoadExists || readable
    executableLoadSegmentCount
    entryPointInExecutableLoad := scan.entryPointInExecutableLoad ||
      (executable && segment.pVaddr ≤ header.eEntry && header.eEntry.toNat < memoryEnd)
    loadFileRanges := scan.loadFileRanges ++
      if segment.pFilesz ≠ 0 then [(segment.pOffset.toNat, fileEnd)] else [] }

def scanSegment (bytes : Bytes) (header : FileHeader) (scan : SegmentScan) (segment : ProgramHeader) :
    Result SegmentScan := do
  let fileEnd ← checkedFileEnd bytes segment.pOffset.toNat segment.pFilesz.toNat
    "program-header file range"
  if segment.pType = ptLoad then scanLoad header scan segment fileEnd
  else if segment.pType = ptInterp then do
    check (scan.interpreter.isNone = true) "AMD64 ELF contains more than one interpreter segment"
    pure { scan with interpreter := some segment }
  else if segment.pType = ptDynamic then do
    check (scan.dynamic.isNone = true) "AMD64 ELF contains more than one dynamic segment"
    pure { scan with dynamic := some segment }
  else if segment.pType = ptGnuStack then do
    let gnuStackSegmentCount ← increment scan.gnuStackSegmentCount
    check (gnuStackSegmentCount = 1 ∧ segment.pFlags &&& pfX = 0)
      "AMD64 ELF GNU stack is duplicated or executable"
    pure { scan with gnuStackSegmentCount }
  else do
    check (segment.pType ≠ ptShlib) "AMD64 ELF contains a rejected PT_SHLIB segment"
    pure scan

def inspectCommonStructure (crate : ElfCrate) (bytes : Bytes) (header : FileHeader) :
    Result CommonElfAnalysis := do
  let programHeaderCount := header.ePhnum.toNat
  validateProgramHeaderCount programHeaderCount "AMD64 ELF"
  check (header.ePhentsize = elf64ProgramHeaderBytes)
    "AMD64 ELF program-header entry size is not 56"
  let programTableBytes ← require (checkedMul programHeaderCount elf64ProgramHeaderBytes.toNat)
    "AMD64 ELF program-header table size overflowed"
  let programTable ← checkedFileRange bytes header.ePhoff.toNat programTableBytes
    "program-header table"
  let programHeaders := (crate.segmentTable programTable).take programHeaderCount
  check (programHeaders.length = programHeaderCount)
    "AMD64 ELF program-header table did not parse completely"
  let sectionHeaders ← parseAndValidateSectionHeaders crate bytes header
  let scan ← programHeaders.foldlM (scanSegment bytes header) SegmentScan.start
  check (scan.loadSegmentCount ≠ 0) "AMD64 ELF has no PT_LOAD segment"
  check (scan.readableLoadExists = true) "AMD64 ELF has no readable PT_LOAD segment"
  check (scan.gnuStackSegmentCount = 1)
    "AMD64 ELF does not contain exactly one non-executable GNU stack"
  checkDisjoint none (scan.loadFileRanges.insertionSort rangeLe)
  pure {
    common := {
      elfType := if header.eType = etExec then .executable else .sharedObject
      osAbi := if header.osabi = 0 then .systemV else .linux
      programHeaderCount
      sectionHeaderCount := sectionHeaders.length
      loadSegmentCount := scan.loadSegmentCount
      executableLoadSegmentCount := scan.executableLoadSegmentCount
      entryPointIsZero := header.eEntry == 0
      entryPointInExecutableLoad := scan.entryPointInExecutableLoad
      interpreterSegmentCount := if scan.interpreter.isSome then 1 else 0
      dynamicSegmentCount := if scan.dynamic.isSome then 1 else 0
      gnuStackSegmentCount := scan.gnuStackSegmentCount }
    programHeaders
    interpreter := scan.interpreter
    dynamic := scan.dynamic }

end Inspection

section Agreement

variable {crate : ElfCrate} {bytes : Bytes} {header : FileHeader} {start stop : ℕ}

lemma range_inside (h : start ≤ stop) (hstop : stop ≤ bytes.length) :
    range bytes start stop = .ok (slice bytes start (stop - start)) := by
  rw [range, context_ok, getRange_eq_some]
  exact ⟨h, hstop, rfl⟩

lemma item_inside {index : ℕ} (h : index < bytes.length) :
    (item bytes index : Result UInt8) = .ok (bytes.getD index 0) := by
  rw [item_ok, List.getD_eq_getElem?_getD, List.getElem?_eq_getElem h]
  rfl

lemma parseClosedElf64Header_eq (h : elf64HeaderBytes ≤ bytes.length) :
    parseClosedElf64Header crate bytes = Amd64Elf.parseClosedElf64Header crate bytes := by
  have hlength : 64 ≤ bytes.length := h
  have hbyte : ∀ index, index < 64 → slice bytes index 1 = [bytes.getD index 0] := by
    intro index hindex
    exact slice_one (by omega)
  rw [parseClosedElf64Header, Amd64Elf.parseClosedElf64Header, range_inside (by omega) (by omega),
    item_inside (by omega), item_inside (by omega), item_inside (by omega), item_inside (by omega),
    item_inside (by omega), range_inside (by omega) (by omega), range_inside (by omega) (by omega),
    range_inside (by decide) h, hbyte 4 (by decide), hbyte 5 (by decide), hbyte 6 (by decide),
    hbyte 7 (by decide), hbyte 8 (by decide)]
  simp only [ok_bind]
  simp only [List.cons.injEq, and_true]
  rfl

lemma bind_congr_ok {α β : Type} {x : Result α} {f g : α → Result β} (h : ∀ a, x = .ok a → f a = g a) :
    (x >>= f) = (x >>= g) := by
  cases x with
  | ok a => exact h a rfl
  | error e => rfl

lemma checkedFileRange_eq (bytes : Bytes) (offset size : ℕ) (label : String) :
    checkedFileRange bytes offset size label = Amd64Elf.checkedFileRange bytes offset size label := by
  apply bind_congr_ok
  intro fileEnd h
  obtain ⟨rfl, hle⟩ := checkedFileEnd_ok h
  rw [range_inside (Nat.le_add_right offset size) hle, Nat.add_sub_cancel_left]
  rfl

lemma validateSectionNames_eq (bytes : Bytes) (sections : List SectionHeader) (index : ℕ) :
    validateSectionNames bytes sections index = Amd64Elf.validateSectionNames bytes sections index := by
  simp only [validateSectionNames, Amd64Elf.validateSectionNames, checkedFileRange_eq]

lemma checkedMul_half (count : UInt16) (width : ℕ) (h : width ≤ 64) :
    checkedMul count.toNat width = some (count.toNat * width) := by
  have hcount := count.toNat_lt
  rw [checkedMul_eq_some]
  refine ⟨?_, rfl⟩
  calc count.toNat * width ≤ 2 ^ 16 * 64 := Nat.mul_le_mul hcount.le h
    _ < 2 ^ 64 := by decide

lemma require_some {α : Type} (a : α) (message : String) : require (some a) message = .ok a := rfl

lemma parseAndValidateSectionHeaders_eq (crate : ElfCrate) (bytes : Bytes) (header : FileHeader) :
    parseAndValidateSectionHeaders crate bytes header =
      Amd64Elf.parseAndValidateSectionHeaders crate bytes header := by
  simp only [parseAndValidateSectionHeaders, Amd64Elf.parseAndValidateSectionHeaders,
    checkedMul_half header.eShnum elf64SectionHeaderBytes.toNat (by decide), require_some, ok_bind,
    checkedFileRange_eq, validateSectionNames_eq]

lemma checkCongruence_eq (segment : ProgramHeader) :
    checkCongruence segment = Amd64Elf.checkCongruence segment := by
  rw [checkCongruence, Amd64Elf.checkCongruence]
  split
  case isTrue h =>
    have hne : segment.pAlign ≠ 0 := by
      intro hzero
      rw [hzero] at h
      exact absurd h (by decide)
    rw [remainder, ensure_pass hne, remainder, ensure_pass hne]
    rfl
  case isFalse => rfl

structure Counted (n : ℕ) (scan : SegmentScan) : Prop where
  loads : scan.loadSegmentCount ≤ n
  executable : scan.executableLoadSegmentCount ≤ n
  gnuStacks : scan.gnuStackSegmentCount ≤ n

lemma increment_below {count n : ℕ} (h : count ≤ n) (hn : n + 1 < 2 ^ 64) :
    increment count = .ok (count + 1) := by
  rw [increment, context_ok, checkedAdd_eq_some]
  exact ⟨by omega, rfl⟩

variable {n : ℕ} {scan : SegmentScan}

lemma scanLoad_eq (h : Counted n scan) (hn : n + 1 < 2 ^ 64) (segment : ProgramHeader) (fileEnd : ℕ) :
    scanLoad header scan segment fileEnd = Amd64Elf.scanLoad header scan segment fileEnd := by
  have hcount : ∀ executable, countExecutable executable scan.executableLoadSegmentCount =
      .ok (scan.executableLoadSegmentCount + if executable then 1 else 0) := by
    intro executable
    cases executable with
    | true => exact increment_below h.executable hn
    | false => rfl
  simp only [scanLoad, Amd64Elf.scanLoad, checkCongruence_eq, increment_below h.loads hn, hcount, ok_bind]

lemma scanSegment_eq (h : Counted n scan) (hn : n + 1 < 2 ^ 64) (segment : ProgramHeader) :
    scanSegment bytes header scan segment = Amd64Elf.scanSegment bytes header scan segment := by
  simp only [scanSegment, Amd64Elf.scanSegment, scanLoad_eq h hn, increment_below h.gnuStacks hn, ok_bind]

lemma counted_scanLoad {scan' : SegmentScan} {segment : ProgramHeader} {fileEnd : ℕ}
    (h : Counted n scan) (hscan : Amd64Elf.scanLoad header scan segment fileEnd = .ok scan') :
    Counted (n + 1) scan' := by
  simp only [Amd64Elf.scanLoad, bind_ok, pure_ok] at hscan
  obtain ⟨_, -, _, -, _, -, _, -, _, -, rfl⟩ := hscan
  refine ⟨Nat.succ_le_succ h.loads, ?_, h.gnuStacks.trans (Nat.le_succ n)⟩
  have hexecutable := h.executable
  simp only
  split <;> omega

lemma counted_scanSegment {scan' : SegmentScan} {segment : ProgramHeader} (h : Counted n scan)
    (hscan : Amd64Elf.scanSegment bytes header scan segment = .ok scan') : Counted (n + 1) scan' := by
  have hloads := h.loads.trans (Nat.le_succ n)
  have hexecutable := h.executable.trans (Nat.le_succ n)
  have hstacks := h.gnuStacks.trans (Nat.le_succ n)
  obtain ⟨fileEnd, -, hscan⟩ := bind_ok.mp hscan
  split at hscan
  · exact counted_scanLoad h hscan
  · split at hscan
    · obtain ⟨_, -, hscan⟩ := bind_ok.mp hscan
      rw [← pure_ok.mp hscan]
      exact ⟨hloads, hexecutable, hstacks⟩
    · split at hscan
      · obtain ⟨_, -, hscan⟩ := bind_ok.mp hscan
        rw [← pure_ok.mp hscan]
        exact ⟨hloads, hexecutable, hstacks⟩
      · split at hscan
        · obtain ⟨_, -, hscan⟩ := bind_ok.mp hscan
          rw [← pure_ok.mp hscan]
          exact ⟨hloads, hexecutable, Nat.succ_le_succ h.gnuStacks⟩
        · obtain ⟨_, -, hscan⟩ := bind_ok.mp hscan
          rw [← pure_ok.mp hscan]
          exact ⟨hloads, hexecutable, hstacks⟩

lemma scanSegments_eq {segments : List ProgramHeader} (h : Counted n scan)
    (hn : n + segments.length < 2 ^ 64) :
    segments.foldlM (scanSegment bytes header) scan =
      segments.foldlM (Amd64Elf.scanSegment bytes header) scan := by
  induction segments generalizing scan n with
  | nil => rfl
  | cons segment segments ih =>
    rw [List.length_cons] at hn
    rw [List.foldlM_cons, List.foldlM_cons, scanSegment_eq h (by omega)]
    apply bind_congr_ok
    intro next hnext
    exact ih (counted_scanSegment h hnext) (by omega)

lemma inspectCommonStructure_eq (crate : ElfCrate) (bytes : Bytes) (header : FileHeader) :
    inspectCommonStructure crate bytes header = Amd64Elf.inspectCommonStructure crate bytes header := by
  have hscan : ∀ table, ((crate.segmentTable table).take header.ePhnum.toNat).foldlM
      (scanSegment bytes header) SegmentScan.start =
        ((crate.segmentTable table).take header.ePhnum.toNat).foldlM
          (Amd64Elf.scanSegment bytes header) SegmentScan.start := by
    intro table
    have hcount := header.ePhnum.toNat_lt
    have hlength := List.length_take_le header.ePhnum.toNat (crate.segmentTable table)
    exact scanSegments_eq (n := 0) ⟨le_rfl, le_rfl, le_rfl⟩ (by omega)
  simp only [inspectCommonStructure, Amd64Elf.inspectCommonStructure,
    checkedMul_half header.ePhnum elf64ProgramHeaderBytes.toNat (by decide), require_some, ok_bind,
    checkedFileRange_eq, parseAndValidateSectionHeaders_eq, hscan]

end Agreement

section Indices

variable {crate : ElfCrate} {bytes : Bytes} {header : FileHeader}

lemma check_inside (c : Prop) [Decidable c] (message : String) : check c message ≠ .error .outOfRange :=
  report_ne_outOfRange _

lemma require_inside {α : Type} (o : Option α) (message : String) :
    require o message ≠ .error .outOfRange := report_ne_outOfRange _

lemma pure_inside {α : Type} (a : α) : (pure a : Result α) ≠ .error .outOfRange := by
  intro h
  cases h

lemma checkedFileEnd_inside (bytes : Bytes) (offset size : ℕ) (label : String) :
    checkedFileEnd bytes offset size label ≠ .error .outOfRange := by
  apply bind_ne_error (require_inside _ _)
  intro fileEnd _
  apply bind_ne_error (check_inside _ _)
  intro _ _
  exact pure_inside _

lemma checkedFileRange_inside (bytes : Bytes) (offset size : ℕ) (label : String) :
    Amd64Elf.checkedFileRange bytes offset size label ≠ .error .outOfRange := by
  apply bind_ne_error (checkedFileEnd_inside _ _ _ _)
  intro _ _
  exact pure_inside _

lemma foldlM_inside {α β : Type} {f : β → α → Result β} {xs : List α} {b : β}
    (h : ∀ b x, f b x ≠ .error .outOfRange) : xs.foldlM f b ≠ .error .outOfRange := by
  induction xs generalizing b with
  | nil => exact pure_inside b
  | cons x xs ih =>
    rw [List.foldlM_cons]
    exact bind_ne_error (h b x) fun next _ => ih

lemma parseClosedElf64Header_inside (crate : ElfCrate) (bytes : Bytes) :
    Amd64Elf.parseClosedElf64Header crate bytes ≠ .error .outOfRange := by
  rw [Amd64Elf.parseClosedElf64Header]
  repeat
    apply bind_ne_error (check_inside _ _)
    intro _ _
  apply bind_ne_error (require_inside _ _)
  intro ident _
  apply bind_ne_error (check_inside _ _)
  intro _ _
  apply bind_ne_error (require_inside _ _)
  intro header _
  repeat
    apply bind_ne_error (check_inside _ _)
    intro _ _
  exact pure_inside header

lemma validateSection_inside (bytes : Bytes) (count : ℕ) (s : SectionHeader) :
    validateSection bytes count s ≠ .error .outOfRange := by
  have hif : ∀ (c d : Prop) [Decidable c] [Decidable d] (message : String),
      (if c then check d message else pure ()) ≠ .error .outOfRange := by
    intro c d _ _ message
    split
    · exact check_inside _ _
    · exact pure_inside ()
  rw [validateSection]
  dsimp only
  split
  · apply bind_ne_error (checkedFileEnd_inside _ _ _ _)
    intro _ _
    split
    · exact bind_ne_error (check_inside _ _) fun _ _ => hif _ _ _
    · exact hif _ _ _
  · split
    · exact bind_ne_error (check_inside _ _) fun _ _ => hif _ _ _
    · exact hif _ _ _

lemma validateSectionNames_inside {sections : List SectionHeader} {index : ℕ} (h : index < sections.length)
    (bytes : Bytes) : Amd64Elf.validateSectionNames bytes sections index ≠ .error .outOfRange := by
  apply bind_ne_error (item_ne_outOfRange h)
  intro stringHeader _
  apply bind_ne_error (check_inside _ _)
  intro _ _
  apply bind_ne_error (checkedFileRange_inside _ _ _ _)
  intro stringTable _
  apply bind_ne_error (check_inside _ _)
  intro _ _
  exact forM_ne_error fun s _ => check_inside _ _

lemma parseAndValidateSectionHeaders_inside (crate : ElfCrate) (bytes : Bytes) (header : FileHeader) :
    Amd64Elf.parseAndValidateSectionHeaders crate bytes header ≠ .error .outOfRange := by
  rw [Amd64Elf.parseAndValidateSectionHeaders]
  split
  · apply bind_ne_error (check_inside _ _)
    intro _ _
    exact pure_inside _
  · apply bind_ne_error (check_inside _ _)
    intro _ hnumbering
    have hnonzero := (check_ok.mp hnumbering).1
    apply bind_ne_error (check_inside _ _)
    intro _ _
    apply bind_ne_error (check_inside _ _)
    intro _ _
    apply bind_ne_error (check_inside _ _)
    intro _ hindex
    apply bind_ne_error (checkedFileRange_inside _ _ _ _)
    intro sectionTable _
    apply bind_ne_error (check_inside _ _)
    intro _ hcount
    have hcount := check_ok.mp hcount
    have hpos : 0 < header.eShnum.toNat := by
      rw [Nat.pos_iff_ne_zero]
      intro hzero
      exact hnonzero (UInt16.toNat_inj.mp hzero)
    apply bind_ne_error (item_ne_outOfRange (by omega))
    intro sectionZero _
    apply bind_ne_error (check_inside _ _)
    intro _ _
    apply bind_ne_error (forM_ne_error fun s _ => validateSection_inside _ _ s)
    intro _ _
    split
    case isTrue hselected =>
      have hlt : header.eShstrndx.toNat < header.eShnum.toNat := by
        obtain hundef | ⟨-, hlt⟩ := check_ok.mp hindex
        · exact absurd hundef hselected
        · exact UInt16.lt_iff_toNat_lt.mp hlt
      apply bind_ne_error (validateSectionNames_inside (by omega) _)
      intro _ _
      exact pure_inside _
    case isFalse => exact pure_inside _

lemma scanLoad_inside (header : FileHeader) (scan : SegmentScan) (segment : ProgramHeader) (fileEnd : ℕ) :
    Amd64Elf.scanLoad header scan segment fileEnd ≠ .error .outOfRange := by
  have hcongruence : Amd64Elf.checkCongruence segment ≠ .error .outOfRange := by
    rw [Amd64Elf.checkCongruence]
    split
    · exact check_inside _ _
    · exact pure_inside ()
  apply bind_ne_error (check_inside _ _)
  intro _ _
  apply bind_ne_error (check_inside _ _)
  intro _ _
  apply bind_ne_error hcongruence
  intro _ _
  apply bind_ne_error (require_inside _ _)
  intro memoryEnd _
  apply bind_ne_error (check_inside _ _)
  intro _ _
  exact pure_inside _

lemma scanSegment_inside (bytes : Bytes) (header : FileHeader) (scan : SegmentScan)
    (segment : ProgramHeader) : Amd64Elf.scanSegment bytes header scan segment ≠ .error .outOfRange := by
  have hchecked : ∀ (c : Prop) [Decidable c] (message : String) (next : SegmentScan),
      (do
        check c message
        pure next : Result SegmentScan) ≠ .error .outOfRange := by
    intro c _ message next
    apply bind_ne_error (check_inside _ _)
    intro _ _
    exact pure_inside _
  apply bind_ne_error (checkedFileEnd_inside _ _ _ _)
  intro fileEnd _
  split
  · exact scanLoad_inside _ _ _ _
  · split
    · exact hchecked _ _ _
    · split
      · exact hchecked _ _ _
      · split
        · exact hchecked _ _ _
        · exact hchecked _ _ _

lemma checkDisjoint_inside (previousEnd : Option ℕ) (ranges : List (ℕ × ℕ)) :
    checkDisjoint previousEnd ranges ≠ .error .outOfRange := by
  induction ranges generalizing previousEnd with
  | nil => exact pure_inside ()
  | cons range ranges ih => exact bind_ne_error (check_inside _ _) fun _ _ => ih _

lemma inspectCommonStructure_inside (crate : ElfCrate) (bytes : Bytes) (header : FileHeader) :
    Amd64Elf.inspectCommonStructure crate bytes header ≠ .error .outOfRange := by
  apply bind_ne_error (check_inside _ _)
  intro _ _
  apply bind_ne_error (check_inside _ _)
  intro _ _
  apply bind_ne_error (checkedFileRange_inside _ _ _ _)
  intro programTable _
  apply bind_ne_error (check_inside _ _)
  intro _ _
  apply bind_ne_error (parseAndValidateSectionHeaders_inside _ _ _)
  intro sectionHeaders _
  apply bind_ne_error (foldlM_inside fun scan segment => scanSegment_inside _ _ scan segment)
  intro scan _
  apply bind_ne_error (check_inside _ _)
  intro _ _
  apply bind_ne_error (check_inside _ _)
  intro _ _
  apply bind_ne_error (check_inside _ _)
  intro _ _
  apply bind_ne_error (checkDisjoint_inside _ _)
  intro _ _
  exact pure_inside _

end Indices

end Indexed

end Eip0045.Amd64Elf
