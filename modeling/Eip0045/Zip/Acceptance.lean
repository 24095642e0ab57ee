import Eip0045.Zip.RoundTrip

/-! On a stream that always makes progress the writer reports every source that it has prepared. -/

namespace Eip0045.CanonicalZip

open Bytes Checked Packed

variable {L : Library} {S : Stream} {α β : Type}

section Streams

/-- Every write takes at least one byte and no more than it is given. -/
structure Healthy (S : Stream) : Prop where
  write : ∀ state view, view ≠ [] → ∃ (n : ℤ) (next : S.State),
    S.write state view = (.ok (some n), next) ∧ 0 < n ∧ n ≤ view.length

def Returns (w : Writer S α) (sink : Sink S) : Prop := ∃ a next, w sink = (.ok a, next)

lemma returns_bind {w : Writer S α} {f : α → Writer S β} {sink : Sink S} (hw : Returns w sink)
    (hf : ∀ a next, w sink = (.ok a, next) → Returns (f a) next) : Returns (w >>= f) sink := by
  obtain ⟨a, middle, hrun⟩ := hw
  obtain ⟨b, next, hnext⟩ := hf a middle hrun
  exact ⟨b, next, bind_run_ok.mpr ⟨a, middle, hrun, hnext⟩⟩

lemma returns_pure (a : α) (sink : Sink S) : Returns (pure a : Writer S α) sink := ⟨a, sink, rfl⟩

lemma returns_lift {x : Result α} {a : α} (h : x = .ok a) (sink : Sink S) :
    Returns (Writer.lift x) sink := ⟨a, sink, by rw [Writer.lift, h]⟩

lemma writeExact_returns (hS : Healthy S) (view : Bytes) (sink : Sink S) :
    Returns (writeExact S view) sink := by
  induction hn : view.length using Nat.strong_induction_on generalizing view sink with
  | h n ih =>
    by_cases hview : view = []
    · exact ⟨(), sink, by rw [writeExact, if_pos hview]⟩
    · obtain ⟨k, state, hwrite, hpos, hle⟩ := hS.write sink.state view hview
      have hshorter : (view.drop k.toNat).length < n := by
        rw [List.length_drop]
        omega
      obtain ⟨a, next, hrest⟩ := ih _ hshorter (view.drop k.toNat)
        ⟨state, sink.delivered ++ view.take k.toNat, sink.digest ++ view.take k.toNat⟩ rfl
      refine ⟨a, next, ?_⟩
      rw [writeExact, if_neg hview, hwrite]
      simp only [hpos, hle, and_self, dif_pos, hrest]

lemma writeAll_returns (hS : Healthy S) (views : List Bytes) (sink : Sink S) :
    Returns (writeAll S views) sink := by
  induction views generalizing sink with
  | nil => exact returns_pure _ _
  | cons view rest ih => exact returns_bind (writeExact_returns hS view sink) fun _ next _ => ih next

lemma writeHeader_returns (hS : Healthy S) {format : Format} {fields : List ℕ}
    (h : (pack format fields).isSome) (sink : Sink S) :
    Returns (writeHeader S format fields) sink := by
  obtain ⟨header, hpack⟩ := Option.isSome_iff_exists.mp h
  apply returns_bind (returns_lift (context_ok.mpr hpack) sink)
  intro bytes next _
  exact writeExact_returns hS bytes next

end Streams

section Packs

lemma local_packs {entry : WriteEntry} (h : Writable L entry) :
    (pack localFormat (localFields entry)).isSome := by
  have hname := h.name_length
  have hsize := h.size_le
  have hcrc : entry.crc32 < 2 ^ 32 := h.crc ▸ UInt32.toNat_lt _
  simp only [maxNameBytes, maxArchiveBytes] at hname hsize
  apply pack_isSome
  simp only [localFormat, localFields, localSignature, List.forall₂_cons, List.forall₂_nil_left_iff,
    and_true]
  omega

lemma central_packs {entry : WriteEntry} (h : Writable L entry)
    (hoffset : entry.localHeaderOffset ≤ maxArchiveBytes) :
    (pack centralFormat (centralFields entry)).isSome := by
  have hname := h.name_length
  have hsize := h.size_le
  have hcrc : entry.crc32 < 2 ^ 32 := h.crc ▸ UInt32.toNat_lt _
  simp only [maxNameBytes, maxArchiveBytes] at hname hsize hoffset
  apply pack_isSome
  simp only [centralFormat, centralFields, centralSignature, List.forall₂_cons,
    List.forall₂_nil_left_iff,
    and_true]
  omega

lemma aggregate_packs {entry : WriteEntry} (h : Writable L entry) :
    ∃ record, entry.aggregateRecord = .ok record := by
  have hname := h.name_length
  have hsize := h.size_le
  have hcrc : entry.crc32 < 2 ^ 32 := h.crc ▸ UInt32.toNat_lt _
  simp only [maxNameBytes, maxArchiveBytes] at hname hsize
  have hlength : (pack [2] [entry.rawName.length]).isSome := by
    apply pack_isSome
    simp only [List.forall₂_cons, List.forall₂_nil_left_iff,
    and_true]
    omega
  have hnumbers : (pack [4, 4, 4] [entry.data.length, entry.data.length, entry.crc32]).isSome := by
    apply pack_isSome
    simp only [List.forall₂_cons, List.forall₂_nil_left_iff,
    and_true]
    omega
  obtain ⟨length, hlength⟩ := Option.isSome_iff_exists.mp hlength
  obtain ⟨numbers, hnumbers⟩ := Option.isSome_iff_exists.mp hnumbers
  simp only [WriteEntry.aggregateRecord, aggregateRecord, bind_ok, context_ok, pure_ok]
  exact ⟨_, length, hlength, numbers, hnumbers, rfl⟩

lemma Placed.offset_le {cursor last : ℕ} {entries : List WriteEntry}
    (h : Placed cursor entries last) :
    cursor ≤ last ∧ ∀ entry ∈ entries, entry.localHeaderOffset ≤ last := by
  induction entries generalizing cursor with
  | nil => exact ⟨le_of_eq h, by simp⟩
  | cons entry entries ih =>
    obtain ⟨hoffset, hrest⟩ := h
    obtain ⟨hle, hall⟩ := ih hrest
    have hcursor := (Nat.le_add_right cursor entry.localSize).trans hle
    exact ⟨hcursor, List.forall_mem_cons.mpr ⟨hoffset ▸ hcursor, hall⟩⟩

lemma eocd_packs {sources : List SourceEntry} {prepared : Prepared}
    (h : WellPrepared L sources prepared) :
    (pack eocdFormat (eocdFields prepared)).isSome := by
  obtain ⟨-, hcount⟩ := h.count
  obtain ⟨houtput, hmax⟩ := h.outputSize
  simp only [maxWriteEntryCount, maxArchiveBytes] at hcount hmax
  apply pack_isSome
  simp only [eocdFormat, eocdFields, eocdSignature, List.forall₂_cons, List.forall₂_nil_left_iff,
    and_true]
  omega

end Packs

section Writes

lemma writeLocals_returns (hS : Healthy S) {entries : List WriteEntry}
    (h : ∀ entry ∈ entries, Writable L entry) (sink : Sink S) :
    Returns (writeLocals S entries) sink := by
  induction entries generalizing sink with
  | nil => exact returns_pure _ _
  | cons entry entries ih =>
    obtain ⟨hentry, hentries⟩ := List.forall_mem_cons.mp h
    apply returns_bind (writeHeader_returns hS (local_packs hentry) sink)
    intro _ afterHeader _
    apply returns_bind (writeExact_returns hS entry.rawName afterHeader)
    intro _ afterName _
    apply returns_bind (writeAll_returns hS (dataChunks entry.data) afterName)
    intro _ afterData _
    exact ih hentries afterData

lemma writeCentrals_returns (hS : Healthy S) {entries : List WriteEntry}
    (h : ∀ entry ∈ entries, Writable L entry ∧ entry.localHeaderOffset ≤ maxArchiveBytes)
    (sink : Sink S) : Returns (writeCentrals S entries) sink := by
  induction entries generalizing sink with
  | nil => exact returns_pure _ _
  | cons entry entries ih =>
    obtain ⟨hentry, hentries⟩ := List.forall_mem_cons.mp h
    apply returns_bind (writeHeader_returns hS (central_packs hentry.1 hentry.2) sink)
    intro _ afterHeader _
    apply returns_bind (writeExact_returns hS entry.rawName afterHeader)
    intro _ afterName _
    exact ih hentries afterName

lemma aggregate_returns {entries : List WriteEntry} (h : ∀ entry ∈ entries, Writable L entry) :
    ∃ aggregate, entriesAggregate L entries = .ok aggregate := by
  have hrecords : ∃ records, entries.mapM WriteEntry.aggregateRecord = .ok records := by
    induction entries with
    | nil => exact ⟨[], rfl⟩
    | cons entry entries ih =>
      obtain ⟨hentry, hentries⟩ := List.forall_mem_cons.mp h
      obtain ⟨record, hrecord⟩ := aggregate_packs hentry
      obtain ⟨records, hrecords⟩ := ih hentries
      refine ⟨record :: records, ?_⟩
      rw [List.mapM_cons, hrecord, ok_bind, hrecords]
      rfl
  obtain ⟨records, hrecords⟩ := hrecords
  exact ⟨L.sha256 records.flatten, by rw [entriesAggregate, hrecords]; rfl⟩

/-- After the preparation nothing but the stream can stop the writer. -/
theorem writeCanonical_returns (hS : Healthy S) {sources : List SourceEntry} {prepared : Prepared}
    {state : S.State} (hstart : S.tell state = some 0)
    (hprepare : prepareWriteEntries L sources = .ok prepared) :
    ∃ report sink, writeCanonical L S sources state = (.ok report, sink) := by
  have h := prepare_ok hprepare
  obtain ⟨houtput, hmax⟩ := h.outputSize
  have hoffsets : ∀ entry ∈ prepared.entries,
      Writable L entry ∧ entry.localHeaderOffset ≤ maxArchiveBytes := by
    intro entry hentry
    have hle := h.placed.offset_le.2 entry hentry
    exact ⟨h.writable entry hentry, by omega⟩
  obtain ⟨aggregate, haggregate⟩ := aggregate_returns h.writable
  apply returns_bind (returns_lift hprepare _)
  intro prepared' afterPrepare hprepared
  obtain ⟨hsame, rfl⟩ := lift_run_ok.mp hprepared
  cases Except.ok.inj (hprepare.symm.trans hsame)
  apply returns_bind
  · refine ⟨(), ⟨state, [], []⟩, ?_⟩
    rw [requireStart, hstart]
    rfl
  · intro _ afterStart _
    apply returns_bind (writeLocals_returns hS h.writable afterStart)
    intro _ afterLocals _
    apply returns_bind (writeCentrals_returns hS hoffsets afterLocals)
    intro _ afterCentrals _
    apply returns_bind (writeHeader_returns hS (eocd_packs h) afterCentrals)
    intro _ afterEnd _
    have hdigest : Returns (reportDigest L S) afterEnd := ⟨_, afterEnd, rfl⟩
    apply returns_bind hdigest
    intro artifactSha256 afterDigest _
    apply returns_bind (returns_lift haggregate afterDigest)
    intro entriesAggregateSha256 last _
    exact returns_pure _ last

end Writes

section Manifest

def crc32Bit (crc : UInt32) : UInt32 :=
  if crc &&& 1 = 1 then (crc >>> 1) ^^^ 0xEDB88320 else crc >>> 1

def crc32Byte (crc : UInt32) (byte : UInt8) : UInt32 := crc32Bit^[8] (crc ^^^ byte.toUInt32)

def crc32 (bytes : Bytes) (crc : UInt32) : UInt32 := ~~~(bytes.foldl crc32Byte (~~~crc))

example : crc32 (utf8 "123456789") 0 = 0xCBF43926 := by decide +kernel

/-- The archive of an empty manifest, and the record that its aggregate hashes. -/
def manifestArchive : Bytes :=
  [0x50, 0x4b, 3, 4, 10, 0, 0, 8, 0, 0, 0, 0, 0x21, 0] ++ List.replicate 12 0 ++ [20, 0, 0, 0] ++
    manifestName ++ [0x50, 0x4b, 1, 2, 10, 0, 10, 0, 0, 8, 0, 0, 0, 0, 0x21, 0] ++
    List.replicate 12 0 ++ [20, 0] ++ List.replicate 16 0 ++ manifestName ++
    [0x50, 0x4b, 5, 6, 0, 0, 0, 0, 1, 0, 1, 0, 0x42, 0, 0, 0, 0x32, 0, 0, 0, 0, 0]

def manifestRecord : Bytes := [20, 0] ++ manifestName ++ List.replicate 12 0

/-- The real CRC-32, SHA-256 on the two strings that are hashed here, and no inflater. -/
def manifestLibrary : Library where
  crc32 := crc32
  sha256 bytes :=
    if bytes = manifestArchive then
      utf8 "3cdf1cfe7b8bfcbe5bbcd3ae774acb53388596b3153fcedaa0653a87fbdfc869"
    else if bytes = manifestRecord then
      utf8 "7af167f83d58dcfe94d4179e21c65df348f1040f4b16b47386ae015dda574f96"
    else []
  Inflater := Unit
  decompressobj := ()
  decompress _ _ _ := .error "no stream"
  unconsumedTail _ := []
  unusedData _ := []
  eof _ := false

lemma manifestLibrary_streaming : Streaming manifestLibrary where
  nil crc := UInt32.not_not
  append a b crc := by
    change crc32 (a ++ b) crc = crc32 b (crc32 a crc)
    rw [crc32, crc32, crc32, List.foldl_append, UInt32.not_not]

/-- A growing buffer that takes every write whole. -/
def memory : Stream where
  State := Bytes
  tell buffer := some buffer.length
  write buffer view := (.ok (some view.length), buffer ++ view)

def emptyMemory : memory.State := ([] : Bytes)

lemma memory_healthy : Healthy memory where
  write buffer view hview := by
    refine ⟨view.length, List.append buffer view, rfl, ?_, le_refl _⟩
    exact Int.natCast_pos.mpr (List.length_pos_iff.mpr hview)

lemma memory_returns {L : Library} {sources : List SourceEntry} {prepared : Prepared}
    (h : prepareWriteEntries L sources = .ok prepared) :
    ∃ report sink, writeCanonical L memory sources emptyMemory = (.ok report, sink) :=
  writeCanonical_returns memory_healthy rfl h

lemma writeCanonical_congr {L : Library} {S : Stream} {sources others : List SourceEntry}
    {state : S.State} (h : prepareWriteEntries L sources = prepareWriteEntries L others) :
    writeCanonical L S sources state = writeCanonical L S others state := by
  simp only [writeCanonical, writeCanonicalTo, h]

def textSource : List SourceEntry := [⟨.str "META-INF/MANIFEST.MF", []⟩]

def byteSource : List SourceEntry := [⟨.bytes manifestName, []⟩]

def manifestPrepared : Prepared where
  entries := [⟨manifestName, "META-INF/MANIFEST.MF", [], 0, 0⟩]
  cdOffset := 50
  cdSize := 66
  outputSize := 138

lemma sources_prepared :
    prepareWriteEntries manifestLibrary textSource = .ok manifestPrepared ∧
      prepareWriteEntries manifestLibrary byteSource = .ok manifestPrepared := by
  decide

/-- The writer emits the same archive for a name given as text and as bytes. -/
theorem text_and_bytes_emit_alike : ∃ report sink,
    writeCanonical manifestLibrary memory textSource emptyMemory = (.ok report, sink) ∧
      writeCanonical manifestLibrary memory byteSource emptyMemory = (.ok report, sink) ∧
      textSource ≠ byteSource := by
  obtain ⟨htext, hbytes⟩ := sources_prepared
  obtain ⟨report, sink, hrun⟩ := memory_returns htext
  refine ⟨report, sink, hrun, ?_, by decide⟩
  exact (writeCanonical_congr (hbytes.trans htext.symm)).trans hrun

/-- The empty manifest's archive is written and read back. -/
theorem zip_round_trip_manifest : ∃ report sink,
    writeCanonical manifestLibrary memory textSource emptyMemory = (.ok report, sink) ∧
      ∃ archive read, inspectArchive manifestLibrary sink.delivered true = .ok archive ∧
        List.Forall₂ (ReadsBack manifestLibrary sink.delivered) textSource archive.entries ∧
        archive.report manifestLibrary = .ok read ∧ SameReport sink.delivered report read := by
  obtain ⟨report, sink, hrun⟩ := memory_returns sources_prepared.1
  have hround := zip_round_trip manifestLibrary manifestLibrary_streaming memory
  exact ⟨report, sink, hrun, hround.1 textSource emptyMemory report sink hrun⟩

end Manifest

end Eip0045.CanonicalZip
