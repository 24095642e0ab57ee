import Mathlib
import Eip0045.Elf.Inspection

/-! What the inspections read, beside what a loader maps. -/

namespace Eip0045.Amd64Elf

open Bytes Checked

section Segments

variable {bytes : Bytes} {header : FileHeader} {crate : ElfCrate}

lemma scanLoad_ok {scan scan' : SegmentScan} {segment : ProgramHeader} {fileEnd : ℕ}
    (h : scanLoad header scan segment fileEnd = .ok scan') :
    segment.pFilesz ≤ segment.pMemsz ∧ scan'.dynamic = scan.dynamic := by
  obtain ⟨_, hsize, h⟩ := bind_ok.mp h
  obtain ⟨_, _, h⟩ := bind_ok.mp h
  obtain ⟨_, _, h⟩ := bind_ok.mp h
  obtain ⟨_, _, h⟩ := bind_ok.mp h
  obtain ⟨_, _, h⟩ := bind_ok.mp h
  rw [← pure_ok.mp h]
  exact ⟨check_ok.mp hsize, rfl⟩

/-- A segment lies in the file, and a load has its file part in memory. -/
def ProgramHeader.Sound (bytes : Bytes) (segment : ProgramHeader) : Prop :=
  segment.pOffset.toNat + segment.pFilesz.toNat ≤ bytes.length ∧
    (segment.pType = ptLoad → segment.pFilesz.toNat ≤ segment.pMemsz.toNat)

lemma scanSegment_ok {scan scan' : SegmentScan} {segment : ProgramHeader}
    (h : scanSegment bytes header scan segment = .ok scan') : segment.Sound bytes ∧
      scan'.dynamic.toList = scan.dynamic.toList ++ [segment].filter (·.pType = ptDynamic) := by
  obtain ⟨fileEnd, hend, h⟩ := bind_ok.mp h
  have hinside := (checkedFileEnd_ok hend).2
  by_cases hload : segment.pType = ptLoad
  · rw [if_pos hload] at h
    obtain ⟨hsize, hdynamic⟩ := scanLoad_ok h
    refine ⟨⟨hinside, fun _ => UInt64.le_iff_toNat_le.mp hsize⟩, ?_⟩
    simp +decide [hdynamic, hload]
  · rw [if_neg hload] at h
    refine ⟨⟨hinside, fun h => absurd h hload⟩, ?_⟩
    by_cases hinterp : segment.pType = ptInterp
    · rw [if_pos hinterp] at h
      obtain ⟨_, _, h⟩ := bind_ok.mp h
      rw [← pure_ok.mp h]
      simp +decide [hinterp]
    · rw [if_neg hinterp] at h
      by_cases hdynamic : segment.pType = ptDynamic
      · rw [if_pos hdynamic] at h
        obtain ⟨_, hnone, h⟩ := bind_ok.mp h
        rw [← pure_ok.mp h, Option.isNone_iff_eq_none.mp (check_ok.mp hnone)]
        simp [hdynamic]
      · rw [if_neg hdynamic] at h
        have hfilter : [segment].filter (·.pType = ptDynamic) = [] := by simp [hdynamic]
        rw [hfilter, List.append_nil]
        split at h
        · obtain ⟨_, _, h⟩ := bind_ok.mp h
          rw [← pure_ok.mp h]
        · obtain ⟨_, _, h⟩ := bind_ok.mp h
          rw [← pure_ok.mp h]

lemma scanSegments_ok {scan scan' : SegmentScan} {segments : List ProgramHeader}
    (h : segments.foldlM (scanSegment bytes header) scan = .ok scan') :
    (∀ segment ∈ segments, segment.Sound bytes) ∧
      scan'.dynamic.toList = scan.dynamic.toList ++ segments.filter (·.pType = ptDynamic) := by
  induction segments generalizing scan with
  | nil =>
    rw [← pure_ok.mp h]
    simp
  | cons segment segments ih =>
    rw [List.foldlM_cons] at h
    obtain ⟨next, hnext, h⟩ := bind_ok.mp h
    obtain ⟨hsound, hdynamic⟩ := scanSegment_ok hnext
    obtain ⟨hrest, hall⟩ := ih h
    refine ⟨List.forall_mem_cons.mpr ⟨hsound, hrest⟩, ?_⟩
    rw [hall, hdynamic, List.append_assoc, ← List.filter_append, List.singleton_append]

/-- The program headers that the parser finds in a body. -/
def ProgramHeadersOf (crate : ElfCrate) (bytes : Bytes) (programHeaders : List ProgramHeader) : Prop :=
  ∃ header, parseClosedElf64Header crate bytes = .ok header ∧
    programHeaders = (crate.segmentTable (slice bytes header.ePhoff.toNat (header.ePhnum.toNat * 56))).take
      header.ePhnum.toNat

lemma inspectCommonStructure_ok {analysis : CommonElfAnalysis}
    (hheader : parseClosedElf64Header crate bytes = .ok header)
    (h : inspectCommonStructure crate bytes header = .ok analysis) :
    ProgramHeadersOf crate bytes analysis.programHeaders ∧
      (∀ segment ∈ analysis.programHeaders, segment.Sound bytes) ∧
      analysis.dynamic.toList = analysis.programHeaders.filter (·.pType = ptDynamic) := by
  obtain ⟨_, _, h⟩ := bind_ok.mp h
  obtain ⟨_, _, h⟩ := bind_ok.mp h
  obtain ⟨table, htable, h⟩ := bind_ok.mp h
  obtain ⟨_, _, h⟩ := bind_ok.mp h
  obtain ⟨_, _, h⟩ := bind_ok.mp h
  obtain ⟨scan, hscan, h⟩ := bind_ok.mp h
  obtain ⟨_, _, h⟩ := bind_ok.mp h
  obtain ⟨_, _, h⟩ := bind_ok.mp h
  obtain ⟨_, _, h⟩ := bind_ok.mp h
  obtain ⟨_, _, h⟩ := bind_ok.mp h
  rw [← pure_ok.mp h]
  obtain ⟨hsound, hdynamic⟩ := scanSegments_ok hscan
  refine ⟨⟨header, hheader, ?_⟩, hsound, hdynamic⟩
  rw [(checkedFileRange_ok htable).1]
  rfl

end Segments

section Ranges

variable {bytes : Bytes} {programHeaders : List ProgramHeader}

/-- The file part of a load holds the whole range. -/
def ProgramHeader.HoldsRange (load : ProgramHeader) (address size : ℕ) : Prop :=
  load.pVaddr.toNat ≤ address ∧ address + size ≤ load.pVaddr.toNat + load.pFilesz.toNat

instance (load : ProgramHeader) (address size : ℕ) : Decidable (load.HoldsRange address size) := by
  unfold ProgramHeader.HoldsRange
  infer_instance

def ProgramHeader.fileOffset (load : ProgramHeader) (address : ℕ) : ℕ :=
  load.pOffset.toNat + (address - load.pVaddr.toNat)

def SinglyCovered (programHeaders : List ProgramHeader) (address : ℕ) : Prop :=
  ((loads programHeaders).filter (·.Covers address)).length = 1

lemma mapThroughLoad_ok {address size : ℕ} {label : String} {mapped mapped' : Option ℕ}
    {load : ProgramHeader} (h : mapThroughLoad address (address + size) label mapped load = .ok mapped') :
    mapped'.toList = mapped.toList ++
      ([load].filter (·.HoldsRange address size)).map (·.fileOffset address) := by
  obtain ⟨loadEnd, hloadEnd, h⟩ := bind_ok.mp h
  obtain ⟨-, rfl⟩ := checkedAdd_eq_some.mp (require_ok.mp hloadEnd)
  split at h
  case isTrue hrange =>
    have hholds : load.HoldsRange address size := hrange
    obtain ⟨fileOffset, hoffset, h⟩ := bind_ok.mp h
    obtain ⟨-, rfl⟩ := checkedAdd_eq_some.mp (require_ok.mp hoffset)
    obtain ⟨_, hnone, h⟩ := bind_ok.mp h
    rw [← pure_ok.mp h, Option.isNone_iff_eq_none.mp (check_ok.mp hnone)]
    simp [hholds, ProgramHeader.fileOffset]
  case isFalse hrange =>
    have hholds : ¬load.HoldsRange address size := hrange
    rw [← pure_ok.mp h]
    simp [hholds]

lemma mapThroughLoads_ok {address size : ℕ} {label : String} {mapped mapped' : Option ℕ}
    {segments : List ProgramHeader}
    (h : segments.foldlM (mapThroughLoad address (address + size) label) mapped = .ok mapped') :
    mapped'.toList = mapped.toList ++
      (segments.filter (·.HoldsRange address size)).map (·.fileOffset address) := by
  induction segments generalizing mapped with
  | nil =>
    rw [← pure_ok.mp h]
    simp
  | cons segment segments ih =>
    rw [List.foldlM_cons] at h
    obtain ⟨next, hnext, h⟩ := bind_ok.mp h
    rw [ih h, mapThroughLoad_ok hnext, List.append_assoc, ← List.map_append, ← List.filter_append,
      List.singleton_append]

lemma mapVirtualFileRange_ok {address size : ℕ} {label : String} {data : Bytes}
    (h : mapVirtualFileRange bytes programHeaders address size label = .ok data) :
    ∃ load, (loads programHeaders).filter (·.HoldsRange address size) = [load] ∧
      data = slice bytes (load.fileOffset address) size ∧
      load.fileOffset address + size ≤ bytes.length := by
  obtain ⟨virtualEnd, hend, h⟩ := bind_ok.mp h
  obtain ⟨-, rfl⟩ := checkedAdd_eq_some.mp (require_ok.mp hend)
  obtain ⟨mapped, hmapped, h⟩ := bind_ok.mp h
  obtain ⟨fileOffset, hoffset, h⟩ := bind_ok.mp h
  obtain rfl := require_ok.mp hoffset
  have hlist := mapThroughLoads_ok hmapped
  obtain ⟨load, hfilter, hload⟩ := List.map_eq_singleton_iff.mp hlist.symm
  obtain ⟨hdata, hinside⟩ := checkedFileRange_ok h
  rw [← hload] at hdata hinside
  exact ⟨load, hfilter, hdata, hinside⟩

lemma mem_loads {load : ProgramHeader} : load ∈ loads programHeaders ↔
    load ∈ programHeaders ∧ load.pType = ptLoad := by
  rw [loads, List.mem_filter, decide_eq_true_eq]

lemma imageByte_of_holds {load : ProgramHeader} {address size i : ℕ} (hload : load ∈ loads programHeaders)
    (hsound : load.Sound bytes) (hholds : load.HoldsRange address size) (hi : i < size) :
    load.Covers (address + i) ∧ (SinglyCovered programHeaders (address + i) →
      imageByte bytes programHeaders (address + i) = (slice bytes (load.fileOffset address) size)[i]?) := by
  have hsize := hsound.2 (mem_loads.mp hload).2
  have hcovers : load.Covers (address + i) := by
    constructor
    · have := hholds.1
      omega
    · have := hholds.2
      omega
  refine ⟨hcovers, fun hsingle => ?_⟩
  obtain ⟨only, honly⟩ := List.length_eq_one_iff.mp hsingle
  have hmem : load ∈ (loads programHeaders).filter (·.Covers (address + i)) :=
    List.mem_filter.mpr ⟨hload, decide_eq_true hcovers⟩
  rw [honly, List.mem_singleton] at hmem
  rw [imageByte, honly, ← hmem]
  have hrelative : address + i - load.pVaddr.toNat = address - load.pVaddr.toNat + i := by
    have := hholds.1
    omega
  have hfile : address - load.pVaddr.toNat + i < load.pFilesz.toNat := by
    have := hholds.1
    have := hholds.2
    omega
  have hbound : load.pOffset.toNat + (address - load.pVaddr.toNat + i) < bytes.length := by
    have := hsound.1
    omega
  simp only [ProgramHeader.byteAt, hrelative, hfile, if_true]
  rw [slice, List.getElem?_take_of_lt hi, List.getElem?_drop, ProgramHeader.fileOffset, ← Nat.add_assoc,
    List.getElem?_eq_getElem (by omega), List.getD_eq_getElem _ _ (by omega)]

end Ranges

section Records

variable {dynamicBytes : Bytes}

def taggedValues (records : List DynamicRecord) (tag : Int64) : List UInt64 :=
  (records.filter (·.dTag = tag)).map DynamicRecord.dUn

/-- The ordinals and the values of the records with a tag. -/
def taggedEntries (records : List DynamicRecord) (tag : Int64) : List (ℕ × UInt64) :=
  (records.zipIdx.filter (·.1.dTag = tag)).map fun entry => (entry.2, entry.1.dUn)

lemma taggedValues_append (records : List DynamicRecord) (record : DynamicRecord) (tag : Int64) :
    taggedValues (records ++ [record]) tag = taggedValues records tag ++
      if record.dTag = tag then [record.dUn] else [] := by
  rw [taggedValues, List.filter_append, List.map_append]
  by_cases h : record.dTag = tag
  · simp [h, taggedValues]
  · simp [h, taggedValues]

lemma taggedEntries_append (records : List DynamicRecord) (record : DynamicRecord) (tag : Int64) :
    taggedEntries (records ++ [record]) tag = taggedEntries records tag ++
      if record.dTag = tag then [(records.length, record.dUn)] else [] := by
  rw [taggedEntries, List.zipIdx_append, List.filter_append, List.map_append]
  by_cases h : record.dTag = tag
  · simp [h, taggedEntries]
  · simp [h, taggedEntries]

/-- The parsed data are what the retained records say. -/
structure Consistent (parsed : ParsedStartupDynamicRecords) : Prop where
  address : parsed.stringTableAddress.toList = taggedValues parsed.acceptedRecords dtStrtab
  size : parsed.stringTableSize.toList = taggedValues parsed.acceptedRecords dtStrsz
  needed : parsed.neededOffsets = taggedEntries parsed.acceptedRecords dtNeeded
  soname : parsed.sonameOffset.toList = taggedEntries parsed.acceptedRecords dtSoname
  runpath : parsed.runpathOffset.toList = taggedEntries parsed.acceptedRecords dtRunpath

lemma retainStartupDynamicRecord_ok {parsed : ParsedStartupDynamicRecords} {record : DynamicRecord}
    {acceptedTag : AcceptedDynamicTag} {retained : ParsedStartupDynamicRecords × Bool}
    (hconsistent : Consistent parsed)
    (h : retainStartupDynamicRecord parsed record parsed.acceptedRecords.length acceptedTag =
      .ok retained) :
    Consistent retained.1 ∧ retained.1.acceptedRecords = parsed.acceptedRecords ++ [record] := by
  obtain ⟨_, _, h⟩ := bind_ok.mp h
  obtain ⟨haddress, hsize, hneeded, hsoname, hrunpath⟩ := hconsistent
  by_cases hnull : record.dTag = dtNull
  · rw [if_pos hnull] at h
    rw [← pure_ok.mp h]
    refine ⟨⟨?_, ?_, ?_, ?_, ?_⟩, rfl⟩ <;>
      simp +decide [taggedValues_append, taggedEntries_append, *]
  rw [if_neg hnull] at h
  by_cases hstrtab : record.dTag = dtStrtab
  · rw [if_pos hstrtab] at h
    obtain ⟨_, hnone, h⟩ := bind_ok.mp h
    rw [Option.isNone_iff_eq_none.mp (check_ok.mp hnone)] at haddress
    replace haddress := haddress.symm
    rw [← pure_ok.mp h]
    refine ⟨⟨?_, ?_, ?_, ?_, ?_⟩, rfl⟩ <;>
      simp +decide [taggedValues_append, taggedEntries_append, *]
  rw [if_neg hstrtab] at h
  by_cases hstrsz : record.dTag = dtStrsz
  · rw [if_pos hstrsz] at h
    obtain ⟨_, hnone, h⟩ := bind_ok.mp h
    rw [Option.isNone_iff_eq_none.mp (check_ok.mp hnone)] at hsize
    replace hsize := hsize.symm
    rw [← pure_ok.mp h]
    refine ⟨⟨?_, ?_, ?_, ?_, ?_⟩, rfl⟩ <;>
      simp +decide [taggedValues_append, taggedEntries_append, *]
  rw [if_neg hstrsz] at h
  by_cases hneeds : record.dTag = dtNeeded
  · rw [if_pos hneeds] at h
    obtain ⟨_, _, h⟩ := bind_ok.mp h
    obtain ⟨_, _, h⟩ := bind_ok.mp h
    rw [← pure_ok.mp h]
    refine ⟨⟨?_, ?_, ?_, ?_, ?_⟩, rfl⟩ <;>
      simp +decide [taggedValues_append, taggedEntries_append, *]
  rw [if_neg hneeds] at h
  by_cases hname : record.dTag = dtSoname
  · rw [if_pos hname] at h
    obtain ⟨_, hnone, h⟩ := bind_ok.mp h
    rw [Option.isNone_iff_eq_none.mp (check_ok.mp hnone)] at hsoname
    replace hsoname := hsoname.symm
    rw [← pure_ok.mp h]
    refine ⟨⟨?_, ?_, ?_, ?_, ?_⟩, rfl⟩ <;>
      simp +decide [taggedValues_append, taggedEntries_append, *]
  rw [if_neg hname] at h
  by_cases hpath : record.dTag = dtRunpath
  · rw [if_pos hpath] at h
    obtain ⟨_, hnone, h⟩ := bind_ok.mp h
    rw [Option.isNone_iff_eq_none.mp (check_ok.mp hnone)] at hrunpath
    replace hrunpath := hrunpath.symm
    rw [← pure_ok.mp h]
    refine ⟨⟨?_, ?_, ?_, ?_, ?_⟩, rfl⟩ <;>
      simp +decide [taggedValues_append, taggedEntries_append, *]
  · rw [if_neg hpath] at h
    rw [← pure_ok.mp h]
    refine ⟨⟨?_, ?_, ?_, ?_, ?_⟩, rfl⟩ <;>
      simp [taggedValues_append, taggedEntries_append, *]

lemma retainRecords_ok {count first : ℕ} {parsed : ParsedStartupDynamicRecords}
    {retained : ParsedStartupDynamicRecords × Bool} (hconsistent : Consistent parsed)
    (hrecords : parsed.acceptedRecords = (List.range first).map (dynamicRecordAt dynamicBytes))
    (h : retainRecords dynamicBytes parsed (List.range' first count) = .ok retained) :
    Consistent retained.1 ∧ ∃ last ≤ first + count,
      retained.1.acceptedRecords = (List.range last).map (dynamicRecordAt dynamicBytes) := by
  induction count generalizing first parsed with
  | zero =>
    rw [← Except.ok.inj h]
    exact ⟨hconsistent, first, le_rfl, hrecords⟩
  | succ count ih =>
    rw [List.range'_succ, retainRecords] at h
    obtain ⟨acceptedTag, _, h⟩ := bind_ok.mp h
    obtain ⟨next, hnext, h⟩ := bind_ok.mp h
    have hlength : first = parsed.acceptedRecords.length := by
      rw [hrecords, List.length_map, List.length_range]
    rw [hlength] at hnext
    obtain ⟨hnext, happend⟩ := retainStartupDynamicRecord_ok hconsistent hnext
    rw [← hlength] at happend
    have hall : next.1.acceptedRecords = (List.range (first + 1)).map (dynamicRecordAt dynamicBytes) := by
      rw [happend, hrecords, List.range_succ, List.map_append, List.map_singleton]
    split at h
    case isTrue hstop =>
      rw [← pure_ok.mp h]
      exact ⟨hnext, first + 1, by omega, hall⟩
    case isFalse hgo =>
      obtain ⟨hlast, last, hle, hlastRecords⟩ := ih hnext hall h
      exact ⟨hlast, last, by omega, hlastRecords⟩

lemma parseStartupDynamicRecords_ok {parsed : ParsedStartupDynamicRecords}
    (h : parseStartupDynamicRecords dynamicBytes = .ok parsed) : Consistent parsed ∧
      parsed.acceptedRecords.length * 16 ≤ dynamicBytes.length ∧
      parsed.acceptedRecords =
        (List.range parsed.acceptedRecords.length).map (dynamicRecordAt dynamicBytes) := by
  obtain ⟨retained, hretained, h⟩ := bind_ok.mp h
  obtain ⟨_, _, h⟩ := bind_ok.mp h
  obtain ⟨_, _, h⟩ := bind_ok.mp h
  obtain rfl := pure_ok.mp h
  have hstart : Consistent .start := ⟨rfl, rfl, rfl, rfl, rfl⟩
  rw [List.range_eq_range'] at hretained
  obtain ⟨hconsistent, last, hle, hrecords⟩ := retainRecords_ok hstart rfl hretained
  have hlength : retained.1.acceptedRecords.length = last := by
    rw [hrecords, List.length_map, List.length_range]
  rw [hlength]
  exact ⟨hconsistent, by omega, hrecords⟩

end Records

end Eip0045.Amd64Elf
