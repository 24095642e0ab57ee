import Eip0045.Zip.Writer

/-! What the writer has checked and emitted when it reports. -/

namespace Eip0045.CanonicalZip

open Bytes Checked Packed

variable {L : Library} {S : Stream} {α β : Type}

section Sinks

/-- The stream and the digest have taken these bytes. -/
structure Took (sink next : Sink S) (bytes : Bytes) : Prop where
  delivered : next.delivered = sink.delivered ++ bytes
  digest : next.digest = sink.digest ++ bytes

lemma Took.refl (sink : Sink S) : Took sink sink [] := ⟨by simp, by simp⟩

lemma Took.trans {a b c : Sink S} {x y : Bytes} (h : Took a b x) (h' : Took b c y) :
    Took a c (x ++ y) := by
  refine ⟨?_, ?_⟩
  · rw [h'.delivered, h.delivered, List.append_assoc]
  · rw [h'.digest, h.digest, List.append_assoc]

lemma bind_run_ok {w : Writer S α} {f : α → Writer S β} {sink next : Sink S} {b : β} :
    (w >>= f) sink = (.ok b, next) ↔
      ∃ a middle, w sink = (.ok a, middle) ∧ f a middle = (.ok b, next) := by
  change Writer.bind w f sink = (.ok b, next) ↔ _
  rw [Writer.bind]
  cases hw : w sink with
  | mk result middle =>
    cases result with
    | error raised => simp
    | ok a => simp

lemma pure_run_ok {a b : α} {sink next : Sink S} :
    (pure a : Writer S α) sink = (.ok b, next) ↔ a = b ∧ sink = next := by
  change (Except.ok a, sink) = (Except.ok b, next) ↔ _
  simp

lemma lift_run_ok {x : Result α} {b : α} {sink next : Sink S} :
    Writer.lift x sink = (.ok b, next) ↔ x = .ok b ∧ sink = next := by
  rw [Writer.lift, Prod.mk.injEq]

lemma writeExact_ok {view : Bytes} {sink next : Sink S}
    (h : writeExact S view sink = (.ok (), next)) : Took sink next view := by
  fun_induction writeExact S view sink with
  | case1 =>
    cases h
    exact Took.refl _
  | case2 => exact absurd (Prod.mk.inj h).1 (by simp)
  | case3 => exact absurd (Prod.mk.inj h).1 (by simp)
  | case4 => exact absurd (Prod.mk.inj h).1 (by simp)
  | case5 view sink hview written state hwrite hwritten taken ih =>
    have htaken : Took sink ⟨state, sink.delivered ++ taken, sink.digest ++ taken⟩ taken :=
      ⟨rfl, rfl⟩
    have htook := htaken.trans (ih h)
    rwa [List.take_append_drop] at htook
  | case6 => exact absurd (Prod.mk.inj h).1 (by simp)

lemma writeAll_ok {views : List Bytes} {sink next : Sink S}
    (h : writeAll S views sink = (.ok (), next)) : Took sink next views.flatten := by
  induction views generalizing sink with
  | nil =>
    obtain ⟨-, rfl⟩ := pure_run_ok.mp h
    exact Took.refl _
  | cons view rest ih =>
    obtain ⟨⟨⟩, middle, hview, hrest⟩ := bind_run_ok.mp h
    exact (writeExact_ok hview).trans (ih hrest)

lemma dataChunks_flatten (data : Bytes) : (dataChunks data).flatten = data := by
  have hcover : data.length ≤
      maxChunkBytes * ((data.length + maxChunkBytes - 1) / maxChunkBytes) := by
    simp only [maxChunkBytes]
    omega
  have hrecords := slice_records data 0 maxChunkBytes
    ((data.length + maxChunkBytes - 1) / maxChunkBytes)
  simp only [Nat.zero_add, Nat.mul_comm maxChunkBytes] at hrecords
  rw [dataChunks, ← List.flatMap_def, hrecords, slice, List.drop_zero, Nat.mul_comm]
  exact List.take_of_length_le hcover

end Sinks

section Records

/-- The bytes are a header of these fields and then the rest. -/
def Headed (format : Format) (fields : List ℕ) (rest bytes : Bytes) : Prop :=
  ∃ header, pack format fields = some header ∧ bytes = header ++ rest

def LocalsWritten : List WriteEntry → Bytes → Prop
  | [], bytes => bytes = []
  | entry :: entries, bytes => ∃ rest, LocalsWritten entries rest ∧
      Headed localFormat (localFields entry) (entry.rawName ++ (entry.data ++ rest)) bytes

def CentralsWritten : List WriteEntry → Bytes → Prop
  | [], bytes => bytes = []
  | entry :: entries, bytes => ∃ rest, CentralsWritten entries rest ∧
      Headed centralFormat (centralFields entry) (entry.rawName ++ rest) bytes

lemma writeHeader_ok {format : Format} {fields : List ℕ} {sink next : Sink S}
    (h : writeHeader S format fields sink = (.ok (), next)) :
    ∃ header, pack format fields = some header ∧ Took sink next header := by
  obtain ⟨header, middle, hpack, hwrite⟩ := bind_run_ok.mp h
  obtain ⟨hheader, rfl⟩ := lift_run_ok.mp hpack
  exact ⟨header, context_ok.mp hheader, writeExact_ok hwrite⟩

lemma writeLocals_ok {entries : List WriteEntry} {sink next : Sink S}
    (h : writeLocals S entries sink = (.ok (), next)) :
    ∃ bytes, LocalsWritten entries bytes ∧ Took sink next bytes := by
  induction entries generalizing sink with
  | nil =>
    obtain ⟨-, rfl⟩ := pure_run_ok.mp h
    exact ⟨[], rfl, Took.refl _⟩
  | cons entry entries ih =>
    rw [writeLocals] at h
    obtain ⟨⟨⟩, afterHeader, hheader, h⟩ := bind_run_ok.mp h
    obtain ⟨⟨⟩, afterName, hname, h⟩ := bind_run_ok.mp h
    obtain ⟨⟨⟩, afterData, hdata, hrest⟩ := bind_run_ok.mp h
    obtain ⟨header, hpack, htook⟩ := writeHeader_ok hheader
    obtain ⟨rest, hwritten, hlast⟩ := ih hrest
    have hchunks := writeAll_ok hdata
    rw [dataChunks_flatten] at hchunks
    exact ⟨_, ⟨rest, hwritten, header, hpack, rfl⟩,
      htook.trans ((writeExact_ok hname).trans (hchunks.trans hlast))⟩

lemma writeCentrals_ok {entries : List WriteEntry} {sink next : Sink S}
    (h : writeCentrals S entries sink = (.ok (), next)) :
    ∃ bytes, CentralsWritten entries bytes ∧ Took sink next bytes := by
  induction entries generalizing sink with
  | nil =>
    obtain ⟨-, rfl⟩ := pure_run_ok.mp h
    exact ⟨[], rfl, Took.refl _⟩
  | cons entry entries ih =>
    rw [writeCentrals] at h
    obtain ⟨⟨⟩, afterHeader, hheader, h⟩ := bind_run_ok.mp h
    obtain ⟨⟨⟩, afterName, hname, hrest⟩ := bind_run_ok.mp h
    obtain ⟨header, hpack, htook⟩ := writeHeader_ok hheader
    obtain ⟨rest, hwritten, hlast⟩ := ih hrest
    exact ⟨_, ⟨rest, hwritten, header, hpack, rfl⟩,
      htook.trans ((writeExact_ok hname).trans hlast)⟩

/-- The canonical bytes of a prepared archive. -/
structure ArchiveWritten (prepared : Prepared) (raw : Bytes) : Prop where
  parts : ∃ locals centrals eocd, LocalsWritten prepared.entries locals ∧
    CentralsWritten prepared.entries centrals ∧
    pack eocdFormat (eocdFields prepared) = some eocd ∧ raw = locals ++ (centrals ++ eocd)

structure Reported (L : Library) (prepared : Prepared) (raw : Bytes) (report : WriteReport) :
    Prop where
  artifactSha256 : report.artifactSha256 = L.sha256 raw
  byteSize : report.byteSize = prepared.outputSize
  entryCount : report.entryCount = prepared.entries.length
  total : report.totalUncompressedSize =
    (prepared.entries.map fun entry => entry.data.length).sum
  aggregate : entriesAggregate L prepared.entries = .ok report.entriesAggregateSha256

lemma writePrepared_ok {prepared : Prepared} {sink next : Sink S} {report : WriteReport}
    (h : writePrepared L S prepared sink = (.ok report, next)) :
    ∃ raw, ArchiveWritten prepared raw ∧ Took sink next raw ∧
      (sink.digest = [] → Reported L prepared raw report) := by
  rw [writePrepared] at h
  obtain ⟨⟨⟩, afterLocals, hlocals, h⟩ := bind_run_ok.mp h
  obtain ⟨⟨⟩, afterCentrals, hcentrals, h⟩ := bind_run_ok.mp h
  obtain ⟨⟨⟩, afterEnd, heocd, h⟩ := bind_run_ok.mp h
  obtain ⟨artifactSha256, middle, hdigest, h⟩ := bind_run_ok.mp h
  obtain ⟨aggregate, last, haggregate, h⟩ := bind_run_ok.mp h
  obtain ⟨rfl, rfl⟩ := pure_run_ok.mp h
  obtain ⟨hsum, rfl⟩ := lift_run_ok.mp haggregate
  obtain ⟨hsha, rfl⟩ := Prod.mk.inj hdigest
  obtain ⟨locals, hlocalsWritten, htookLocals⟩ := writeLocals_ok hlocals
  obtain ⟨centrals, hcentralsWritten, htookCentrals⟩ := writeCentrals_ok hcentrals
  obtain ⟨eocd, hpack, htookEnd⟩ := writeHeader_ok heocd
  have htook := htookLocals.trans (htookCentrals.trans htookEnd)
  refine ⟨_, ⟨locals, centrals, eocd, hlocalsWritten, hcentralsWritten, hpack, rfl⟩, htook, ?_⟩
  intro hempty
  refine ⟨?_, rfl, rfl, rfl, hsum⟩
  rw [← Except.ok.inj hsha, htook.digest, hempty]
  rfl

end Records

section Prepared

/-- What the writer has checked of a prepared entry. -/
structure Writable (L : Library) (entry : WriteEntry) : Prop where
  name : validateName entry.rawName = .ok (entry.name, false)
  crc : entry.crc32 = (L.crc32 entry.data 0).toNat
  crc_ne : entry.crc32 ≠ 0xFFFFFFFF
  size_le : entry.data.length ≤ maxArchiveBytes
  offset_ne : entry.localHeaderOffset ≠ 0xFFFFFFFF

/-- The entry carries the source's name and content. -/
structure Carries (source : SourceEntry) (entry : WriteEntry) : Prop where
  name : coerceWriteName source.name = .ok (entry.rawName, entry.name)
  data : entry.data = source.data

/-- Each entry starts where the one before it ends. -/
def Placed : ℕ → List WriteEntry → ℕ → Prop
  | cursor, [], last => cursor = last
  | cursor, entry :: entries, last =>
    entry.localHeaderOffset = cursor ∧ Placed (cursor + entry.localSize) entries last

structure WellPrepared (L : Library) (sources : List SourceEntry) (prepared : Prepared) :
    Prop where
  carries : List.Forall₂ Carries sources prepared.entries
  writable : ∀ entry ∈ prepared.entries, Writable L entry
  total : (prepared.entries.map fun entry => entry.data.length).sum ≤ maxArchiveBytes
  folded : (prepared.entries.map fun entry => asciiFold entry.rawName).Nodup
  count : 1 ≤ prepared.entries.length ∧ prepared.entries.length ≤ maxWriteEntryCount
  first : prepared.entries.head?.map WriteEntry.rawName = some manifestName
  ordered : orderedAfter none ((prepared.entries.drop 1).map WriteEntry.rawName)
  placed : Placed 0 prepared.entries prepared.cdOffset
  cdSize : prepared.cdSize = (prepared.entries.map WriteEntry.centralSize).sum
  sentinels : prepared.cdOffset ≠ 0xFFFFFFFF ∧ prepared.cdSize ≠ 0xFFFFFFFF
  outputSize : prepared.outputSize = prepared.cdOffset + prepared.cdSize + size eocdFormat ∧
    prepared.outputSize ≤ maxArchiveBytes

/-- A collected entry, checked but for its offset. -/
structure Collects (L : Library) (source : SourceEntry) (entry : Collected) : Prop where
  name : coerceWriteName source.name = .ok (entry.rawName, entry.name)
  data : entry.data = source.data
  valid : validateName entry.rawName = .ok (entry.name, false)
  crc : entry.crc32 = (L.crc32 entry.data 0).toNat
  crc_ne : entry.crc32 ≠ 0xFFFFFFFF
  size_le : entry.data.length ≤ maxArchiveBytes

lemma coerceWriteName_ok {name : WriteName} {rawName : Bytes} {decoded : String}
    (h : coerceWriteName name = .ok (rawName, decoded)) :
    encodeName name = .ok rawName ∧ validateName rawName = .ok (decoded, false) := by
  simp only [coerceWriteName, require, bind_ok, exists_unit, ensure_ok, pure_ok] at h
  obtain ⟨raw, hencode, ⟨decoded', isDirectory⟩, hvalid, hdirectory, heq⟩ := h
  obtain ⟨rfl, rfl⟩ := Prod.mk.inj heq
  have hfalse : isDirectory = false := hdirectory
  rw [hfalse] at hvalid
  exact ⟨hencode, hvalid⟩

lemma collectEntry_ok {exactNames foldedNames : List Bytes} {total next : ℕ} {source : SourceEntry}
    {entry : Collected}
    (h : collectEntry L exactNames foldedNames total source = .ok (entry, next)) :
    Collects L source entry ∧ asciiFold entry.rawName ∉ foldedNames ∧
      next = total + entry.data.length ∧ next ≤ maxArchiveBytes := by
  simp only [collectEntry, require, bind_ok, exists_unit, ensure_ok, pure_ok] at h
  obtain ⟨⟨rawName, name⟩, hname, -, hfolded, hsize, htotal, hcrc, heq⟩ := h
  obtain ⟨rfl, rfl⟩ := Prod.mk.inj heq
  exact ⟨⟨hname, rfl, (coerceWriteName_ok hname).2, rfl, hcrc, hsize⟩, hfolded, rfl, htotal⟩

structure CollectRun (L : Library) (sources : List SourceEntry) (foldedNames : List Bytes)
    (total : ℕ) (entries : List Collected) : Prop where
  collects : List.Forall₂ (Collects L) sources entries
  fresh : ∀ entry ∈ entries, asciiFold entry.rawName ∉ foldedNames
  nodup : (entries.map fun entry => asciiFold entry.rawName).Nodup
  total : total ≤ maxArchiveBytes →
    total + (entries.map fun entry => entry.data.length).sum ≤ maxArchiveBytes

lemma collectEntries_ok {sources : List SourceEntry} {exactNames foldedNames : List Bytes}
    {total count : ℕ} {entries : List Collected}
    (h : collectEntries L sources exactNames foldedNames total count = .ok entries) :
    CollectRun L sources foldedNames total entries := by
  induction sources generalizing exactNames foldedNames total count entries with
  | nil =>
    cases Except.ok.inj h
    exact ⟨.nil, by simp, List.nodup_nil, fun htotal => htotal⟩
  | cons source sources ih =>
    simp only [collectEntries, require, bind_ok, exists_unit, ensure_ok, pure_ok] at h
    obtain ⟨⟨entry, next⟩, hentry, -, rest, hrest, rfl⟩ := h
    obtain ⟨hcollects, hfolded, hnext, hbound⟩ := collectEntry_ok hentry
    have hrun := ih hrest
    have hfresh : ∀ e ∈ rest, asciiFold e.rawName ≠ asciiFold entry.rawName ∧
        asciiFold e.rawName ∉ foldedNames := by
      intro e he
      simpa using hrun.fresh e he
    exact {
      collects := .cons hcollects hrun.collects
      fresh := List.forall_mem_cons.mpr ⟨hfolded, fun e he => (hfresh e he).2⟩
      nodup := by
        rw [List.map_cons, List.nodup_cons]
        refine ⟨?_, hrun.nodup⟩
        intro hmem
        obtain ⟨e, he, heq⟩ := List.mem_map.mp hmem
        exact (hfresh e he).1 heq
      total := by
        intro _
        have htotal : next + (rest.map fun entry => entry.data.length).sum ≤ maxArchiveBytes :=
          hrun.total hbound
        rw [hnext] at htotal
        rwa [List.map_cons, List.sum_cons, ← Nat.add_assoc] }

lemma placeEntries_ok {collected : List Collected} {cursor last : ℕ} {entries : List WriteEntry}
    (h : placeEntries collected cursor = .ok (entries, last)) :
    Placed cursor entries last ∧ (∀ entry ∈ entries, entry.localHeaderOffset ≠ 0xFFFFFFFF) ∧
      entries.map (fun e => (⟨e.rawName, e.name, e.data, e.crc32⟩ : Collected)) = collected := by
  induction collected generalizing cursor entries with
  | nil =>
    obtain ⟨rfl, rfl⟩ := Prod.mk.inj (Except.ok.inj h)
    exact ⟨rfl, by simp, rfl⟩
  | cons c collected ih =>
    simp only [placeEntries, require, bind_ok, exists_unit, ensure_ok, pure_ok] at h
    obtain ⟨⟨hcursor, -⟩, ⟨rest, last'⟩, hrest, heq⟩ := h
    obtain ⟨rfl, rfl⟩ := Prod.mk.inj heq
    obtain ⟨hplaced, hoffsets, hmap⟩ := ih hrest
    exact ⟨⟨rfl, hplaced⟩, List.forall_mem_cons.mpr ⟨hcursor, hoffsets⟩, by rw [List.map_cons, hmap]⟩

lemma prepare_ok {sources : List SourceEntry} {prepared : Prepared}
    (h : prepareWriteEntries L sources = .ok prepared) : WellPrepared L sources prepared := by
  simp only [prepareWriteEntries, require, bind_ok, exists_unit, ensure_ok, pure_ok] at h
  obtain ⟨collected, hcollected, horder, ⟨entries, cdOffset⟩, hplace, hsize, rfl⟩ := h
  have hrun := collectEntries_ok hcollected
  obtain ⟨hplaced, hoffsets, hmap⟩ := placeEntries_ok hplace
  simp only [validateWriteOrder, require, bind_ok, exists_unit, ensure_ok, context_ok] at horder
  obtain ⟨hcount, first, hfirst, hmanifest, hordered⟩ := horder
  have hcollects := hrun.collects
  rw [← hmap] at hcollects hcount hfirst hordered
  rw [List.forall₂_map_right_iff] at hcollects
  have hfolded := hrun.nodup
  have htotal := hrun.total (Nat.zero_le _)
  rw [← hmap, List.map_map] at hfolded htotal
  have hsentinels : cdOffset ≠ 0xFFFFFFFF ∧
      (entries.map WriteEntry.centralSize).sum ≠ 0xFFFFFFFF := by
    simpa [eq_comm] using hsize.1
  rw [← List.map_drop, List.map_map] at hordered
  rw [List.length_map] at hcount
  rw [List.head?_map, Option.map_eq_some_iff] at hfirst
  obtain ⟨head, hhead, rfl⟩ := hfirst
  exact {
    carries := hcollects.imp fun source entry hc => ⟨hc.name, hc.data⟩
    writable := by
      intro entry hentry
      obtain ⟨i, hi, rfl⟩ := List.mem_iff_getElem.mp hentry
      have hlt : i < sources.length := hcollects.length_eq ▸ hi
      have hc := (List.forall₂_iff_get.mp hcollects).2 i hlt hi
      exact ⟨hc.valid, hc.crc, hc.crc_ne, hc.size_le, hoffsets _ hentry⟩
    total := by
      rw [Nat.zero_add] at htotal
      exact htotal
    folded := hfolded
    count := hcount
    first := by
      rw [hhead]
      exact congrArg some hmanifest
    ordered := hordered
    placed := hplaced
    cdSize := rfl
    sentinels := hsentinels
    outputSize := ⟨rfl, hsize.2⟩ }

end Prepared

end Eip0045.CanonicalZip
