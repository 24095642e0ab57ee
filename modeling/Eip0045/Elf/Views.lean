import Mathlib
import Eip0045.Elf.LoaderView

/-! The dynamic data of an accepted body as the inspections record them and as its loads map them. -/

namespace Eip0045.Amd64Elf

open Bytes Checked

section Strings

/-- The text at an offset of a table, up to the first zero. -/
def StringAt (table : Bytes) (offset : UInt64) (value : Bytes) : Prop :=
  ∃ rest, table.drop offset.toNat = value ++ 0 :: rest ∧ 0 ∉ value

lemma fromUtf8_eq {bytes value : Bytes} (h : fromUtf8 bytes = some value) : value = bytes := by
  rw [fromUtf8] at h
  split at h
  · exact (Option.some.inj h).symm
  · cases h

lemma takeWhile_ne_zero {tail : Bytes} (h : 0 ∈ tail) :
    ∃ rest, tail = tail.takeWhile (· ≠ 0) ++ 0 :: rest ∧ 0 ∉ tail.takeWhile (· ≠ 0) := by
  induction tail with
  | nil => exact absurd h List.not_mem_nil
  | cons byte tail ih =>
    by_cases hbyte : byte = 0
    · refine ⟨tail, ?_, ?_⟩
      · simp [hbyte]
      · simp [hbyte]
    · have hmem : 0 ∈ tail := (List.mem_cons.mp h).resolve_left fun h => hbyte h.symm
      obtain ⟨rest, htail, hzero⟩ := ih hmem
      rw [List.takeWhile_cons_of_pos (by simpa using hbyte)]
      refine ⟨rest, ?_, ?_⟩
      · rw [List.cons_append, ← htail]
      · rw [List.mem_cons, not_or]
        exact ⟨fun h => hbyte h.symm, hzero⟩

lemma dynamicStringAt_ok {table value : Bytes} {offset : UInt64} {label : String}
    (h : dynamicStringAt table offset label = .ok value) : StringAt table offset value := by
  obtain ⟨_, _, h⟩ := bind_ok.mp h
  obtain ⟨_, hzero, h⟩ := bind_ok.mp h
  rw [fromUtf8_eq (require_ok.mp h)]
  exact takeWhile_ne_zero (check_ok.mp hzero)

lemma expectTable_ok {stringTable : Option Bytes} {table : Bytes}
    (h : expectTable stringTable = .ok table) : stringTable = some table := by
  have h := item_ok.mp h
  cases stringTable with
  | none => cases h
  | some found => exact h

lemma resolveNeededLibrary_ok {stringTable : Option Bytes} {offset : ℕ × UInt64} {library : NeededLibrary}
    (h : resolveNeededLibrary stringTable offset = .ok library) : library.dynamicOrdinal = offset.1 ∧
      ∃ table, stringTable = some table ∧ StringAt table offset.2 library.requestedName := by
  obtain ⟨table, htable, h⟩ := bind_ok.mp h
  obtain ⟨name, hname, h⟩ := bind_ok.mp h
  obtain ⟨_, _, h⟩ := bind_ok.mp h
  rw [← pure_ok.mp h]
  exact ⟨rfl, table, expectTable_ok htable, dynamicStringAt_ok hname⟩

lemma resolveSoname_ok {stringTable : Option Bytes} {offset : ℕ × UInt64} {soname : Bytes}
    (h : resolveSoname stringTable offset = .ok soname) :
    ∃ table, stringTable = some table ∧ StringAt table offset.2 soname := by
  obtain ⟨table, htable, h⟩ := bind_ok.mp h
  obtain ⟨name, hname, h⟩ := bind_ok.mp h
  obtain ⟨_, _, h⟩ := bind_ok.mp h
  rw [← pure_ok.mp h]
  exact ⟨table, expectTable_ok htable, dynamicStringAt_ok hname⟩

lemma resolveRunpath_ok {stringTable : Option Bytes} {offset : ℕ × UInt64} {runpath : ValidatedRunpath}
    (h : resolveRunpath stringTable offset = .ok runpath) :
    ∃ table, stringTable = some table ∧ StringAt table offset.2 runpath.raw := by
  obtain ⟨table, htable, h⟩ := bind_ok.mp h
  obtain ⟨raw, hraw, h⟩ := bind_ok.mp h
  obtain ⟨_, _, h⟩ := bind_ok.mp h
  obtain ⟨_, _, h⟩ := bind_ok.mp h
  obtain ⟨components, _, h⟩ := bind_ok.mp h
  rw [← pure_ok.mp h]
  exact ⟨table, expectTable_ok htable, dynamicStringAt_ok hraw⟩

lemma mapM_option_ok {α β : Type} {f : α → Result β} {o : Option α} {r : Option β}
    (h : o.mapM f = .ok r) : List.Forall₂ (fun a b => f a = .ok b) o.toList r.toList := by
  cases o with
  | none =>
    obtain rfl : none = r := pure_ok.mp h
    exact List.Forall₂.nil
  | some a =>
    have h : (some <$> f a : Result (Option β)) = .ok r := h
    rcases hf : f a with e | b
    · rw [hf] at h
      cases h
    · rw [hf] at h
      cases h
      exact List.Forall₂.cons hf List.Forall₂.nil

end Strings

section Views

variable {crate : ElfCrate} {bytes : Bytes}

/-- What the inspections record of a body, in terms of its file and of its memory image. -/
structure Views (crate : ElfCrate) (bytes : Bytes) (linkage : StartupDynamicInspection)
    (programHeaders : List ProgramHeader) (dynamic : ProgramHeader) (dynamicBytes : Bytes) : Prop where
  parsed : ProgramHeadersOf crate bytes programHeaders
  only : programHeaders.filter (·.pType = ptDynamic) = [dynamic]
  array : dynamicBytes = slice bytes dynamic.pOffset.toNat dynamic.pFilesz.toNat
  length : dynamicBytes.length = dynamic.pFilesz.toNat
  complete : linkage.acceptedRecords.length * 16 ≤ dynamicBytes.length
  records : linkage.acceptedRecords =
    (List.range linkage.acceptedRecords.length).map (dynamicRecordAt dynamicBytes)
  image : ∀ load ∈ loads programHeaders,
    load.HoldsRange dynamic.pVaddr.toNat dynamic.pFilesz.toNat →
    load.fileOffset dynamic.pVaddr.toNat = dynamic.pOffset.toNat →
    ∀ i < dynamic.pFilesz.toNat, load.Covers (dynamic.pVaddr.toNat + i) ∧
      (SinglyCovered programHeaders (dynamic.pVaddr.toNat + i) →
        imageByte bytes programHeaders (dynamic.pVaddr.toNat + i) = dynamicBytes[i]?)
  strings : linkage.neededLibraries ≠ [] ∨ linkage.soname ≠ none ∨ linkage.runpath ≠ none →
    ∃ (address size : UInt64) (load : ProgramHeader) (table : Bytes),
      taggedValues linkage.acceptedRecords dtStrtab = [address] ∧
      taggedValues linkage.acceptedRecords dtStrsz = [size] ∧
      (loads programHeaders).filter (·.HoldsRange address.toNat size.toNat) = [load] ∧
      table = slice bytes (load.fileOffset address.toNat) size.toNat ∧
      table.length = size.toNat ∧
      (∀ i < size.toNat, load.Covers (address.toNat + i) ∧
        (SinglyCovered programHeaders (address.toNat + i) →
          imageByte bytes programHeaders (address.toNat + i) = table[i]?)) ∧
      List.Forall₂ (fun entry library => library.dynamicOrdinal = entry.1 ∧
          StringAt table entry.2 library.requestedName)
        (taggedEntries linkage.acceptedRecords dtNeeded) linkage.neededLibraries ∧
      List.Forall₂ (fun entry soname => StringAt table entry.2 soname)
        (taggedEntries linkage.acceptedRecords dtSoname) linkage.soname.toList ∧
      List.Forall₂ (fun entry runpath => StringAt table entry.2 runpath.raw)
        (taggedEntries linkage.acceptedRecords dtRunpath) linkage.runpath.toList

lemma referred_table {analysis : CommonElfAnalysis} {parsed : ParsedStartupDynamicRecords}
    {stringTable : Option Bytes} {neededLibraries : List NeededLibrary} {soname : Option Bytes}
    {runpath : Option ValidatedRunpath}
    (hreferred : neededLibraries ≠ [] ∨ soname ≠ none ∨ runpath ≠ none)
    (hneeded : List.Forall₂ (fun offset library => resolveNeededLibrary stringTable offset = .ok library)
      parsed.neededOffsets neededLibraries)
    (hsoname : List.Forall₂ (fun offset soname => resolveSoname stringTable offset = .ok soname)
      parsed.sonameOffset.toList soname.toList)
    (hrunpath : List.Forall₂ (fun offset runpath => resolveRunpath stringTable offset = .ok runpath)
      parsed.runpathOffset.toList runpath.toList)
    (h : resolveStartupDynamicStringTable bytes analysis parsed = .ok stringTable) :
    ∃ (address size : UInt64) (load : ProgramHeader) (table : Bytes), stringTable = some table ∧
      parsed.stringTableAddress = some address ∧ parsed.stringTableSize = some size ∧
      (loads analysis.programHeaders).filter (·.HoldsRange address.toNat size.toNat) = [load] ∧
      table = slice bytes (load.fileOffset address.toNat) size.toNat ∧
      load.fileOffset address.toNat + size.toNat ≤ bytes.length := by
  have hstrings : parsed.neededOffsets ≠ [] ∨ parsed.sonameOffset.isSome = true ∨
      parsed.runpathOffset.isSome = true := by
    obtain hne | hne | hne := hreferred
    · refine Or.inl fun hnil => hne ?_
      rw [hnil] at hneeded
      exact List.forall₂_nil_left_iff.mp hneeded
    · refine Or.inr (Or.inl ?_)
      by_contra hnone
      rw [Option.not_isSome_iff_eq_none.mp hnone] at hsoname
      exact hne (Option.toList_eq_nil_iff.mp (List.forall₂_nil_left_iff.mp hsoname))
    · refine Or.inr (Or.inr ?_)
      by_contra hnone
      rw [Option.not_isSome_iff_eq_none.mp hnone] at hrunpath
      exact hne (Option.toList_eq_nil_iff.mp (List.forall₂_nil_left_iff.mp hrunpath))
  rw [resolveStartupDynamicStringTable, if_pos hstrings] at h
  obtain ⟨address, haddress, h⟩ := bind_ok.mp h
  obtain ⟨size, hsize, h⟩ := bind_ok.mp h
  obtain ⟨table, htable, h⟩ := bind_ok.mp h
  obtain ⟨_, _, h⟩ := bind_ok.mp h
  obtain ⟨load, hload, hdata, hbound⟩ := mapVirtualFileRange_ok htable
  exact ⟨address, size, load, table, (pure_ok.mp h).symm, require_ok.mp haddress, require_ok.mp hsize,
    hload, hdata, hbound⟩

lemma inspectStartupDynamicLinkage_views {analysis : CommonElfAnalysis}
    {linkage : StartupDynamicInspection}
    (hparsed : ProgramHeadersOf crate bytes analysis.programHeaders)
    (hsound : ∀ segment ∈ analysis.programHeaders, segment.Sound bytes)
    (hdynamic : analysis.dynamic.toList = analysis.programHeaders.filter (·.pType = ptDynamic))
    (h : inspectStartupDynamicLinkage bytes analysis = .ok linkage) :
    ∃ dynamic dynamicBytes, Views crate bytes linkage analysis.programHeaders dynamic dynamicBytes := by
  obtain ⟨dynamic, hsome, h⟩ := bind_ok.mp h
  obtain ⟨dynamicBytes, harray, h⟩ := bind_ok.mp h
  obtain ⟨_, _, h⟩ := bind_ok.mp h
  obtain ⟨parsed, hrecords, h⟩ := bind_ok.mp h
  obtain ⟨stringTable, htable, h⟩ := bind_ok.mp h
  obtain ⟨neededLibraries, hneeded, h⟩ := bind_ok.mp h
  obtain ⟨soname, hsoname, h⟩ := bind_ok.mp h
  obtain ⟨runpath, hrunpath, h⟩ := bind_ok.mp h
  obtain rfl := pure_ok.mp h
  obtain ⟨harray, hinside⟩ := checkedFileRange_ok harray
  obtain ⟨hconsistent, hcomplete, hall⟩ := parseStartupDynamicRecords_ok hrecords
  rw [require_ok.mp hsome] at hdynamic
  have hlength : dynamicBytes.length = dynamic.pFilesz.toNat := by
    rw [harray, slice, List.length_take, List.length_drop]
    omega
  refine ⟨dynamic, dynamicBytes, hparsed, hdynamic.symm, harray, hlength, hcomplete, hall, ?_, ?_⟩
  · intro load hload hholds hoffset i hi
    have himage := imageByte_of_holds hload (hsound load (mem_loads.mp hload).1) hholds hi
    rw [hoffset, ← harray] at himage
    exact himage
  · intro hreferred
    obtain ⟨libraries, hlibraries, hneeded⟩ := bind_ok.mp hneeded
    obtain ⟨_, _, hneeded⟩ := bind_ok.mp hneeded
    obtain rfl := pure_ok.mp hneeded
    have hneeded := mapM_forall₂.mp hlibraries
    have hsoname := mapM_option_ok hsoname
    have hrunpath := mapM_option_ok hrunpath
    obtain ⟨address, size, load, table, rfl, haddress, hsize, hload, hdata, hbound⟩ :=
      referred_table hreferred hneeded hsoname hrunpath htable
    have hmem : load ∈ (loads analysis.programHeaders).filter
        (·.HoldsRange address.toNat size.toNat) := by
      rw [hload]
      exact List.mem_singleton_self load
    obtain ⟨hmem, hholds⟩ := List.mem_filter.mp hmem
    refine ⟨address, size, load, table, ?_, ?_, hload, hdata, ?_, ?_, ?_, ?_, ?_⟩
    · rw [← hconsistent.address, haddress]
      rfl
    · rw [← hconsistent.size, hsize]
      rfl
    · rw [hdata, slice, List.length_take, List.length_drop]
      omega
    · intro i hi
      rw [hdata]
      exact imageByte_of_holds hmem (hsound load (mem_loads.mp hmem).1) (of_decide_eq_true hholds) hi
    · rw [← hconsistent.needed]
      refine hneeded.imp ?_
      intro entry library h
      obtain ⟨hordinal, found, hfound, hat⟩ := resolveNeededLibrary_ok h
      obtain rfl := Option.some.inj hfound
      exact ⟨hordinal, hat⟩
    · rw [← hconsistent.soname]
      refine hsoname.imp ?_
      intro entry soname h
      obtain ⟨found, hfound, hat⟩ := resolveSoname_ok h
      obtain rfl := Option.some.inj hfound
      exact hat
    · rw [← hconsistent.runpath]
      refine hrunpath.imp ?_
      intro entry runpath h
      obtain ⟨found, hfound, hat⟩ := resolveRunpath_ok h
      obtain rfl := Option.some.inj hfound
      exact hat

end Views

section Claims

variable {crate : ElfCrate} {bytes : Bytes}

lemma inspectRuntimeAmd64Elf_views {inspected : InspectedAmd64Elf}
    (h : inspectRuntimeAmd64Elf crate bytes = .ok inspected) : ∃ programHeaders dynamic dynamicBytes,
      Views crate bytes inspected.runtime.startupDynamic programHeaders dynamic dynamicBytes := by
  obtain ⟨_, _, h⟩ := bind_ok.mp h
  obtain ⟨header, hheader, h⟩ := bind_ok.mp h
  obtain ⟨analysis, hanalysis, h⟩ := bind_ok.mp h
  obtain ⟨_, _, h⟩ := bind_ok.mp h
  obtain ⟨runtime, hruntime, h⟩ := bind_ok.mp h
  obtain rfl := pure_ok.mp h
  obtain ⟨_, _, h⟩ := bind_ok.mp hruntime
  obtain ⟨_, _, h⟩ := bind_ok.mp h
  obtain ⟨_, _, h⟩ := bind_ok.mp h
  obtain ⟨_, _, h⟩ := bind_ok.mp h
  obtain ⟨_, _, h⟩ := bind_ok.mp h
  obtain ⟨_, _, h⟩ := bind_ok.mp h
  obtain ⟨linkage, hlinkage, h⟩ := bind_ok.mp h
  obtain ⟨_, _, h⟩ := bind_ok.mp h
  obtain rfl := pure_ok.mp h
  obtain ⟨hparsed, hsound, hdynamic⟩ := inspectCommonStructure_ok hheader hanalysis
  exact ⟨analysis.programHeaders, inspectStartupDynamicLinkage_views hparsed hsound hdynamic hlinkage⟩

lemma inspectStartupDependencyAmd64Dso_views {inspected : StartupDependencyInspection}
    (h : inspectStartupDependencyAmd64Dso crate bytes = .ok inspected) :
    ∃ programHeaders dynamic dynamicBytes,
      Views crate bytes inspected.dynamic programHeaders dynamic dynamicBytes := by
  obtain ⟨_, _, h⟩ := bind_ok.mp h
  obtain ⟨header, hheader, h⟩ := bind_ok.mp h
  obtain ⟨_, _, h⟩ := bind_ok.mp h
  obtain ⟨analysis, hanalysis, h⟩ := bind_ok.mp h
  obtain ⟨_, _, h⟩ := bind_ok.mp h
  obtain ⟨_, _, h⟩ := bind_ok.mp h
  obtain ⟨linkage, hlinkage, h⟩ := bind_ok.mp h
  obtain ⟨_, _, h⟩ := bind_ok.mp h
  obtain rfl := pure_ok.mp h
  obtain ⟨hparsed, hsound, hdynamic⟩ := inspectCommonStructure_ok hheader hanalysis
  exact ⟨analysis.programHeaders, inspectStartupDynamicLinkage_views hparsed hsound hdynamic hlinkage⟩

/-- Both inspections record the dynamic data that the file has in the one dynamic segment and in the
one load that holds the string table, and a loader finds the same bytes wherever it maps one load. -/
theorem inspected_dynamic_views :
    (∀ (crate : ElfCrate) (bytes : Bytes) (inspected : InspectedAmd64Elf),
      inspectRuntimeAmd64Elf crate bytes = .ok inspected →
      ∃ programHeaders dynamic dynamicBytes,
        Views crate bytes inspected.runtime.startupDynamic programHeaders dynamic dynamicBytes) ∧
    ∀ (crate : ElfCrate) (bytes : Bytes) (inspected : StartupDependencyInspection),
      inspectStartupDependencyAmd64Dso crate bytes = .ok inspected →
      ∃ programHeaders dynamic dynamicBytes,
        Views crate bytes inspected.dynamic programHeaders dynamic dynamicBytes :=
  ⟨fun _ _ _ h => inspectRuntimeAmd64Elf_views h, fun _ _ _ h => inspectStartupDependencyAmd64Dso_views h⟩

end Claims

section Unmapped

/-- The headers of the little-endian format as the crate reads them. -/
def elf64Crate : ElfCrate where
  parseIdent bytes := some ⟨slice bytes 4 1 == [2], (slice bytes 7 1).headD 0⟩
  parseTail ident bytes := some {
    osabi := ident.osabi
    eType := ofLe16 (slice bytes 0 2)
    eMachine := ofLe16 (slice bytes 2 2)
    version := ofLe32 (slice bytes 4 4)
    eEntry := ofLe64 (slice bytes 8 8)
    ePhoff := ofLe64 (slice bytes 16 8)
    eShoff := ofLe64 (slice bytes 24 8)
    eEhsize := ofLe16 (slice bytes 36 2)
    ePhentsize := ofLe16 (slice bytes 38 2)
    ePhnum := ofLe16 (slice bytes 40 2)
    eShentsize := ofLe16 (slice bytes 42 2)
    eShnum := ofLe16 (slice bytes 44 2)
    eShstrndx := ofLe16 (slice bytes 46 2) }
  segmentTable table := (List.range (table.length / 56)).map fun index => {
    pType := ofLe32 (slice table (index * 56) 4)
    pFlags := ofLe32 (slice table (index * 56 + 4) 4)
    pOffset := ofLe64 (slice table (index * 56 + 8) 8)
    pVaddr := ofLe64 (slice table (index * 56 + 16) 8)
    pFilesz := ofLe64 (slice table (index * 56 + 32) 8)
    pMemsz := ofLe64 (slice table (index * 56 + 40) 8)
    pAlign := ofLe64 (slice table (index * 56 + 48) 8) }
  sectionHeaderTable table := (List.range (table.length / 64)).map fun index => {
    shName := ofLe32 (slice table (index * 64) 4)
    shType := ofLe32 (slice table (index * 64 + 4) 4)
    shFlags := ofLe64 (slice table (index * 64 + 8) 8)
    shAddr := ofLe64 (slice table (index * 64 + 16) 8)
    shOffset := ofLe64 (slice table (index * 64 + 24) 8)
    shSize := ofLe64 (slice table (index * 64 + 32) 8)
    shLink := ofLe32 (slice table (index * 64 + 40) 4)
    shInfo := ofLe32 (slice table (index * 64 + 44) 4)
    shAddralign := ofLe64 (slice table (index * 64 + 48) 8)
    shEntsize := ofLe64 (slice table (index * 64 + 56) 8) }

def ProgramHeader.encoded (segment : ProgramHeader) : Bytes :=
  le32 segment.pType ++ le32 segment.pFlags ++ le64 segment.pOffset ++ le64 segment.pVaddr ++
    le64 segment.pVaddr ++ le64 segment.pFilesz ++ le64 segment.pMemsz ++ le64 segment.pAlign

/-- A load of the whole file, a load without file part over its string table, and a dynamic segment at
an address that no load covers. -/
def unmappedHeaders : List ProgramHeader :=
  [⟨ptLoad, pfR, 0, 0x1000, 355, 355, 1⟩, ⟨ptLoad, pfR ||| pfW, 0, 0x1160, 0, 16, 1⟩,
    ⟨ptDynamic, pfR, 288, 0x9000, 64, 64, 8⟩, ⟨ptGnuStack, pfR ||| pfW, 0, 0, 0, 0, 16⟩]

/-- A shared object of 355 bytes: its headers, the records `DT_SONAME`, `DT_STRTAB`, `DT_STRSZ` and
`DT_NULL`, and the string table. -/
def unmappedDso : Bytes :=
  [0x7f, 0x45, 0x4c, 0x46, 2, 1, 1, 0, 0, 0, 0, 0, 0, 0, 0, 0] ++ le16 etDyn ++ le16 emX86_64 ++
    le32 1 ++ le64 0 ++ le64 64 ++ le64 0 ++ le32 0 ++ le16 64 ++ le16 56 ++ le16 4 ++ le16 0 ++
    le16 0 ++ le16 0 ++ (unmappedHeaders.map ProgramHeader.encoded).flatten ++
    le64 14 ++ le64 1 ++ le64 5 ++ le64 0x1160 ++ le64 10 ++ le64 3 ++ le64 0 ++ le64 0 ++
    [0, 0x61, 0]

/-- The shared object is accepted with a name. Its image has no byte of the array at the address of the
dynamic segment, and none of the string table at `DT_STRTAB`, which two loads cover. -/
theorem unmappedDso_not_presented :
    (inspectStartupDependencyAmd64Dso elf64Crate unmappedDso).toOption.map
        (fun inspected => inspected.dynamic.soname) = some (some [0x61]) ∧
      ProgramHeadersOf elf64Crate unmappedDso unmappedHeaders ∧
      ¬Presents unmappedDso unmappedHeaders 0x9000 (slice unmappedDso 288 64) ∧
      ¬Presents unmappedDso unmappedHeaders 0x1160 (slice unmappedDso 352 3) := by
  refine ⟨by decide +kernel, ⟨⟨0, etDyn, emX86_64, 1, 0, 64, 0, 64, 56, 4, 0, 0, 0⟩, ?_, ?_⟩, ?_, ?_⟩
  · decide +kernel
  · decide +kernel
  · intro h
    exact absurd (h 0 (by decide)) (by decide)
  · intro h
    exact absurd (h 0 (by decide)) (by decide)

end Unmapped

end Eip0045.Amd64Elf
