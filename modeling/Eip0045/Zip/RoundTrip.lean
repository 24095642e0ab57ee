import Eip0045.Zip.Written

/-! The reader accepts what the writer emits, and reads the written entries back. -/

namespace Eip0045.CanonicalZip

open Bytes Checked Packed

variable {L : Library} {S : Stream} {raw : Bytes}

/-- `zlib.crc32` continues a running checksum. -/
structure Streaming (L : Library) : Prop where
  nil : ∀ crc, L.crc32 [] crc = crc
  append : ∀ a b crc, L.crc32 (a ++ b) crc = L.crc32 b (L.crc32 a crc)

section Reads

lemma readRange_at {p v t : Bytes} {start stop : ℕ} (hraw : raw = p ++ (v ++ t))
    (hstart : start = p.length) (hstop : stop = start + v.length) :
    readRange raw start stop = .ok v := by
  rw [readRange, context_ok, getRange_eq_some, hstop, hstart, hraw]
  refine ⟨Nat.le_add_right _ _, by simp, ?_⟩
  rw [Nat.add_sub_cancel_left, ← List.append_assoc]
  exact slice_between p v t

lemma unpackFrom_at {p header t : Bytes} {format : Format} {fields : List ℕ}
    (hraw : raw = p ++ (header ++ t)) (hpack : pack format fields = some header) :
    unpackFrom format raw p.length = .ok fields := by
  have hread := readRange_at hraw rfl (congrArg (p.length + ·) (pack_length hpack)).symm
  rw [unpackFrom, hread, ok_bind, unpack_pack hpack]
  rfl

end Reads

section Entries

/-- The directory entry that the reader makes of a written one. -/
def WriteEntry.toCentral (entry : WriteEntry) (index : ℕ) : CentralEntry where
  index := index
  madeBy := 0x000A
  needed := 10
  flags := 0x0800
  method := 0
  dosTime := 0x0000
  dosDate := 0x0021
  crc32 := entry.crc32
  compressedSize := entry.data.length
  uncompressedSize := entry.data.length
  rawName := entry.rawName
  extra := []
  localHeaderOffset := entry.localHeaderOffset
  isDirectory := false

/-- The archive entry that the reader makes of a written one. -/
def WriteEntry.toEntry (entry : WriteEntry) (index : ℕ) : Entry where
  index := index
  name := entry.name
  rawName := entry.rawName
  method := 0
  flags := 0x0800
  crc32 := entry.crc32
  compressedSize := entry.data.length
  uncompressedSize := entry.data.length
  dosTime := 0x0000
  dosDate := 0x0021
  localHeaderOffset := entry.localHeaderOffset
  dataOffset := entry.localHeaderOffset + (size localFormat + entry.rawName.length)
  dataDescriptorOffset := none
  isDirectory := false
  extra := []

def toCentrals : ℕ → List WriteEntry → List CentralEntry
  | _, [] => []
  | index, entry :: entries => entry.toCentral index :: toCentrals (index + 1) entries

def toEntries : ℕ → List WriteEntry → List Entry
  | _, [] => []
  | index, entry :: entries => entry.toEntry index :: toEntries (index + 1) entries

lemma Writable.name_length {entry : WriteEntry} (h : Writable L entry) :
    entry.rawName.length ≤ maxNameBytes := by
  have hname := h.name
  simp only [validateName, require, bind_ok, exists_unit, ensure_ok] at hname
  exact hname.1.2

lemma Writable.decoded {entry : WriteEntry} (h : Writable L entry) :
    decodeAscii entry.rawName = .ok entry.name := by
  have hname := h.name
  simp only [validateName, require, bind_ok, exists_unit, ensure_ok, pure_ok] at hname
  obtain ⟨-, -, -, -, -, name, hdecode, heq⟩ := hname
  rw [hdecode, (Prod.mk.inj heq).1]

lemma centralHeader_written {entry : WriteEntry} (h : Writable L entry) :
    validateCentralHeader (CentralHeader.ofFields (centralFields entry)) = .ok () := by
  have hname := h.name_length
  have hsize := h.size_le
  have hcrc := h.crc_ne
  have hoffset := h.offset_ne
  simp only [maxNameBytes, maxArchiveBytes] at hname hsize
  simp only [validateCentralHeader, require, bind_ok, exists_unit, ensure_ok]
  refine ⟨rfl, ?_, ?_, hcrc, (0x000A, 10, 0x0800), rfl, ⟨rfl, rfl⟩, rfl, rfl, ⟨rfl, rfl⟩, rfl⟩
  · change 0xFFFF ∉ [0, entry.rawName.length, 0, 0]
    simp only [List.mem_cons, List.not_mem_nil, or_false]
    omega
  · change 0xFFFFFFFF ∉ [entry.data.length, entry.data.length, entry.localHeaderOffset]
    simp only [List.mem_cons, List.not_mem_nil, or_false]
    omega

lemma centralEntry_written {entry : WriteEntry} {cdEnd index : ℕ}
    {exactNames foldedNames : List Bytes} {p header t : Bytes} (h : Writable L entry)
    (hpack : pack centralFormat (centralFields entry) = some header)
    (hraw : raw = p ++ (header ++ (entry.rawName ++ t)))
    (hend : p.length + entry.centralSize ≤ cdEnd) (hexact : entry.rawName ∉ exactNames)
    (hfolded : asciiFold entry.rawName ∉ foldedNames) :
    centralEntry raw cdEnd index p.length exactNames foldedNames =
      .ok (entry.toCentral index, p.length + entry.centralSize) := by
  have hheader := pack_length hpack
  have hname : readRange raw (p.length + size centralFormat)
      (p.length + size centralFormat + entry.rawName.length) = .ok entry.rawName := by
    apply readRange_at (p := p ++ header) (t := t)
    · rw [hraw, List.append_assoc]
    · rw [List.length_append, hheader]
    · rfl
  have hextra : readRange raw (p.length + size centralFormat + entry.rawName.length)
      (p.length + (size centralFormat + entry.rawName.length + 0)) = .ok [] := by
    apply readRange_at (p := p ++ (header ++ entry.rawName)) (t := t)
    · rw [hraw, List.append_assoc, List.append_assoc, List.nil_append]
    · rw [List.length_append, List.length_append, hheader]
      omega
    · rw [List.length_nil]
      omega
  have hvalid : validateExtra [] index = .ok () := by
    rw [validateExtra, require]
    exact ensure_pass (Or.inl rfl)
  simp only [WriteEntry.centralSize] at hend
  simp only [centralEntry, requireRange, require, bind_ok, exists_unit, ensure_ok, pure_ok]
  refine ⟨by omega, centralFields entry, unpackFrom_at hraw hpack, centralHeader_written h, hend,
    entry.rawName, hname, [], hextra, (entry.name, false), h.name, hvalid, hexact, hfolded,
    ?_, rfl⟩
  simp only [validateCentralSizes, require, bind_ok, exists_unit, ensure_ok]
  refine ⟨?_, ?_, by simp⟩
  · rintro ⟨h0, hne⟩
    exact hne h0
  · rintro ⟨-, hne⟩
    exact hne rfl

lemma centrals_length {entries : List WriteEntry} {bytes : Bytes}
    (h : CentralsWritten entries bytes) :
    bytes.length = (entries.map WriteEntry.centralSize).sum := by
  induction entries generalizing bytes with
  | nil =>
    rw [show bytes = [] from h]
    rfl
  | cons entry entries ih =>
    obtain ⟨rest, hrest, header, hpack, rfl⟩ := h
    rw [List.length_append, List.length_append, pack_length hpack, ih hrest, List.map_cons,
      List.sum_cons, WriteEntry.centralSize, Nat.add_assoc]

lemma centralEntries_written {entries : List WriteEntry} {cdEnd index : ℕ}
    {exactNames foldedNames : List Bytes} {p bytes t : Bytes}
    (hwritten : CentralsWritten entries bytes) (hraw : raw = p ++ (bytes ++ t))
    (hend : p.length + bytes.length ≤ cdEnd) (h : ∀ entry ∈ entries, Writable L entry)
    (hexact : ∀ entry ∈ entries, entry.rawName ∉ exactNames)
    (hfolded : ∀ entry ∈ entries, asciiFold entry.rawName ∉ foldedNames)
    (hnodup : (entries.map fun entry => asciiFold entry.rawName).Nodup) :
    centralEntries raw cdEnd entries.length index p.length exactNames foldedNames =
      .ok (toCentrals index entries, p.length + bytes.length) := by
  induction entries generalizing index exactNames foldedNames p bytes with
  | nil =>
    rw [show bytes = [] from hwritten]
    rfl
  | cons entry entries ih =>
    obtain ⟨rest, hrest, header, hpack, rfl⟩ := hwritten
    obtain ⟨hentry, hentries⟩ := List.forall_mem_cons.mp h
    obtain ⟨hexact, hexacts⟩ := List.forall_mem_cons.mp hexact
    obtain ⟨hfolded, hfoldeds⟩ := List.forall_mem_cons.mp hfolded
    rw [List.map_cons, List.nodup_cons] at hnodup
    have hfresh : ∀ e ∈ entries, asciiFold e.rawName ≠ asciiFold entry.rawName := by
      intro e he heq
      exact hnodup.1 (heq ▸ List.mem_map_of_mem he)
    have hlength := pack_length hpack
    simp only [List.length_append, hlength] at hend
    have hnext : (p ++ (header ++ entry.rawName)).length = p.length + entry.centralSize := by
      rw [List.length_append, List.length_append, hlength, WriteEntry.centralSize]
    have hturn : centralEntry raw cdEnd index p.length exactNames foldedNames =
        .ok (entry.toCentral index, p.length + entry.centralSize) := by
      apply centralEntry_written (t := rest ++ t) hentry hpack ?_ ?_ hexact hfolded
      · rw [hraw, List.append_assoc, List.append_assoc]
      · rw [WriteEntry.centralSize]
        omega
    have hrun : centralEntries raw cdEnd entries.length (index + 1)
        (p ++ (header ++ entry.rawName)).length (entry.rawName :: exactNames)
        (asciiFold entry.rawName :: foldedNames) = .ok (toCentrals (index + 1) entries,
          (p ++ (header ++ entry.rawName)).length + rest.length) := by
      apply ih hrest ?_ ?_ hentries ?_ ?_ hnodup.2
      · rw [hraw]
        simp only [List.append_assoc]
      · rw [hnext, WriteEntry.centralSize]
        omega
      · intro e he
        rw [List.mem_cons, not_or]
        exact ⟨fun heq => hfresh e he (congrArg asciiFold heq), hexacts e he⟩
      · intro e he
        rw [List.mem_cons, not_or]
        exact ⟨hfresh e he, hfoldeds e he⟩
    rw [hnext] at hrun
    rw [List.length_cons, centralEntries, hturn, ok_bind]
    simp only
    rw [show (entry.toCentral index).rawName = entry.rawName from rfl, hrun, ok_bind]
    simp only [toCentrals, List.length_append, hlength, WriteEntry.centralSize]
    rw [pure_ok, Prod.mk.injEq]
    exact ⟨rfl, by omega⟩

lemma localEntry_written {entry : WriteEntry} {cdOffset index : ℕ} {p header t : Bytes}
    (h : Writable L entry) (hpack : pack localFormat (localFields entry) = some header)
    (hraw : raw = p ++ (header ++ (entry.rawName ++ (entry.data ++ t))))
    (hoffset : entry.localHeaderOffset = p.length)
    (hend : p.length + entry.localSize ≤ cdOffset) :
    localEntry raw cdOffset true p.length (entry.toCentral index) =
      .ok (entry.toEntry index, p.length + entry.localSize) := by
  have hheader := pack_length hpack
  have hname : readRange raw (p.length + size localFormat)
      (p.length + size localFormat + entry.rawName.length) = .ok entry.rawName := by
    apply readRange_at (p := p ++ header) (t := entry.data ++ t)
    · rw [hraw, List.append_assoc]
    · rw [List.length_append, hheader]
    · rfl
  have hextra : readRange raw (p.length + size localFormat + entry.rawName.length)
      (p.length + (size localFormat + entry.rawName.length + 0)) = .ok [] := by
    apply readRange_at (p := p ++ (header ++ entry.rawName)) (t := entry.data ++ t)
    · rw [hraw, List.append_assoc, List.append_assoc, List.nil_append]
    · rw [List.length_append, List.length_append, hheader]
      omega
    · rw [List.length_nil]
      omega
  have hvalid : validateLocalHeader (LocalHeader.ofFields (localFields entry)) = .ok () := by
    have hname := h.name_length
    have hsize := h.size_le
    simp only [maxNameBytes, maxArchiveBytes] at hname hsize
    simp only [validateLocalHeader, require, bind_ok, exists_unit, ensure_ok]
    refine ⟨rfl, ?_, ?_⟩
    · change 0xFFFF ∉ [entry.rawName.length, 0]
      simp only [List.mem_cons, List.not_mem_nil, or_false]
      omega
    · change 0xFFFFFFFF ∉ [entry.data.length, entry.data.length]
      simp only [List.mem_cons, List.not_mem_nil, or_false]
      omega
  have hdescriptor (dataEnd : ℕ) : localDescriptor raw cdOffset
      (LocalHeader.ofFields (localFields entry)) (entry.toCentral index) dataEnd = .ok none := by
    have hmethod : (LocalHeader.ofFields (localFields entry)).method = 0 := rfl
    rw [localDescriptor, if_pos hmethod, require]
    exact congrArg (· >>= fun _ => pure none) (ensure_pass ⟨rfl, rfl, rfl⟩)
  have hcanonical : ¬(True ∧ ((LocalHeader.ofFields (localFields entry)).dosTime ≠ 0x0000 ∨
      (LocalHeader.ofFields (localFields entry)).dosDate ≠ 0x0021)) := by
    rintro ⟨-, hne | hne⟩
    · exact hne rfl
    · exact hne rfl
  simp only [WriteEntry.localSize] at hend
  simp only [localEntry, requireRange, require, bind_ok, exists_unit, ensure_ok, pure_ok]
  refine ⟨hoffset, by omega, localFields entry, unpackFrom_at hraw hpack, hvalid, ?_,
    entry.rawName, hname, [], hextra, ⟨rfl, rfl, rfl, rfl, rfl, rfl, rfl⟩, hcanonical, ?_, none,
    hdescriptor _, entry.name, h.decoded, ?_⟩
  · change p.length + (size localFormat + entry.rawName.length) ≤ cdOffset
    omega
  · change p.length + (size localFormat + entry.rawName.length) + entry.data.length ≤ cdOffset
    omega
  · rw [Prod.mk.injEq]
    refine ⟨?_, ?_⟩
    · rw [← hoffset]
      rfl
    · change p.length + (size localFormat + entry.rawName.length) + entry.data.length = _
      rw [WriteEntry.localSize]
      omega

end Entries

section Contents

/-- In chunks of any size, the entry yields these bytes. -/
def Yields (L : Library) (raw : Bytes) (entry : Entry) (data : Bytes) : Prop :=
  ∀ chunkSize, ∃ chunks, iterValidatedEntry L raw entry chunkSize = .ok chunks ∧
    chunks.flatten = data

lemma iterStored_written (hcrc : Streaming L) {entry : Entry} {c : ChunkSize} {p rest t : Bytes}
    {out : Yielded} (hraw : raw = p ++ (rest ++ t))
    (hsize : out.produced + rest.length ≤ entry.uncompressedSize)
    (hmax : entry.uncompressedSize ≤ maxArchiveBytes) :
    ∃ chunks, chunks.flatten = rest ∧
      iterStored L raw entry c (p.length + rest.length) p.length out =
        .ok ⟨out.chunks ++ chunks, out.produced + rest.length, L.crc32 rest out.crc⟩ := by
  induction hn : rest.length using Nat.strong_induction_on generalizing p rest out with
  | h n ih =>
    subst hn
    rw [iterStored]
    cases rest with
    | nil =>
      refine ⟨[], rfl, ?_⟩
      rw [if_neg (by simp), hcrc.nil, List.append_nil]
      rfl
    | cons byte bytes =>
      obtain ⟨rest, hrest⟩ : ∃ rest, rest = byte :: bytes := ⟨_, rfl⟩
      rw [← hrest] at hraw hsize ih ⊢
      have hpos : 0 < rest.length := by simp [hrest]
      have hchunk := c.2.1
      obtain ⟨k, hk⟩ : ∃ k, k = min c.1 rest.length := ⟨_, rfl⟩
      have hnext : min (p.length + c.1) (p.length + rest.length) = p.length + k := by omega
      have htake : (rest.take k).length = k := by
        rw [List.length_take]
        omega
      have hdrop : (rest.drop k).length = rest.length - k := List.length_drop
      have hread : readRange raw p.length (p.length + k) = .ok (rest.take k) := by
        apply readRange_at (p := p) (t := rest.drop k ++ t)
        · rw [hraw, ← List.append_assoc (rest.take k), List.take_append_drop]
        · rfl
        · rw [htake]
      have hyield : yieldChunk L entry (rest.take k) out = .ok ⟨out.chunks ++ [rest.take k],
          out.produced + (rest.take k).length, L.crc32 (rest.take k) out.crc⟩ := by
        rw [yieldChunk, require, ensure_pass ⟨by omega, by omega⟩]
        rfl
      obtain ⟨next, hnextOut⟩ : ∃ next : Yielded, next = ⟨out.chunks ++ [rest.take k],
        out.produced + (rest.take k).length, L.crc32 (rest.take k) out.crc⟩ := ⟨_, rfl⟩
      have hraw' : raw = (p ++ rest.take k) ++ (rest.drop k ++ t) := by
        rw [hraw, List.append_assoc, ← List.append_assoc (rest.take k), List.take_append_drop]
      have hsize' : next.produced + (rest.drop k).length ≤ entry.uncompressedSize := by
        rw [hnextOut]
        simp only [htake]
        omega
      obtain ⟨chunks, hflatten, hrun⟩ := ih (rest.drop k).length (by omega) hraw' hsize' rfl
      rw [hnextOut] at hrun
      refine ⟨rest.take k :: chunks, ?_, ?_⟩
      · rw [List.flatten_cons, hflatten, List.take_append_drop]
      · have hstop : (p ++ rest.take k).length + (rest.drop k).length = p.length + rest.length := by
          rw [List.length_append]
          omega
        rw [hstop, List.length_append, htake] at hrun
        have hcrcs : L.crc32 (rest.drop k) (L.crc32 (rest.take k) out.crc) =
            L.crc32 rest out.crc := by
          rw [← hcrc.append, List.take_append_drop]
        have hproduced : out.produced + k + (rest.drop k).length = out.produced + rest.length := by
          omega
        rw [if_pos (by omega)]
        simp only [hnext, hread, ok_bind, hyield, htake, hrun, hcrcs, hproduced, List.append_assoc,
          List.singleton_append]

lemma entry_yields (hcrc : Streaming L) {entry : WriteEntry} {index : ℕ} {p t : Bytes}
    (h : Writable L entry) (hraw : raw = p ++ (entry.data ++ t))
    (hoffset : (entry.toEntry index).dataOffset = p.length) :
    Yields L raw (entry.toEntry index) entry.data := by
  intro chunkSize
  have hsize : (⟨[], 0, 0⟩ : Yielded).produced + entry.data.length ≤
      (entry.toEntry index).uncompressedSize := (Nat.zero_add _).le
  obtain ⟨chunks, hflatten, hrun⟩ := iterStored_written (c := chunkSize) hcrc hraw hsize h.size_le
  refine ⟨chunks, ?_, hflatten⟩
  rw [← hoffset] at hrun
  have hcontents : iterContents L raw (entry.toEntry index) chunkSize =
      .ok ⟨[] ++ chunks, 0 + entry.data.length, L.crc32 entry.data 0⟩ := by
    have hmethod : (entry.toEntry index).method = 0 := rfl
    rw [iterContents, if_pos hmethod]
    exact hrun
  simp only [iterValidatedEntry, require, bind_ok, exists_unit, ensure_ok, pure_ok]
  exact ⟨_, hcontents, Nat.zero_add _, h.crc.symm, by simp [WriteEntry.toEntry], rfl⟩

lemma locals_length {entries : List WriteEntry} {bytes : Bytes} {cursor last : ℕ}
    (hplaced : Placed cursor entries last) (h : LocalsWritten entries bytes) :
    last = cursor + bytes.length := by
  induction entries generalizing cursor bytes with
  | nil =>
    rw [show bytes = [] from h]
    exact hplaced.symm
  | cons entry entries ih =>
    obtain ⟨rest, hrest, header, hpack, rfl⟩ := h
    rw [ih hplaced.2 hrest, WriteEntry.localSize]
    simp only [List.length_append, pack_length hpack]
    omega

lemma localEntries_written (hcrc : Streaming L) {entries : List WriteEntry}
    {cdOffset i : ℕ} {p bytes t : Bytes} (hwritten : LocalsWritten entries bytes)
    (hraw : raw = p ++ (bytes ++ t)) (hplaced : Placed p.length entries cdOffset)
    (h : ∀ entry ∈ entries, Writable L entry) :
    localEntries raw cdOffset true (toCentrals i entries) p.length =
        .ok (toEntries i entries, cdOffset) ∧
      List.Forall₂ (fun entry read => Yields L raw read entry.data) entries
        (toEntries i entries) := by
  induction entries generalizing i p bytes with
  | nil =>
    rw [show p.length = cdOffset from hplaced]
    exact ⟨rfl, .nil⟩
  | cons entry entries ih =>
    have hlast := locals_length hplaced hwritten
    obtain ⟨rest, hrest, header, hpack, rfl⟩ := hwritten
    obtain ⟨hentry, hentries⟩ := List.forall_mem_cons.mp h
    obtain ⟨hoffset, hplaced⟩ := hplaced
    have hlength := pack_length hpack
    have hnext : (p ++ (header ++ (entry.rawName ++ entry.data))).length =
        p.length + entry.localSize := by
      simp only [List.length_append, hlength, WriteEntry.localSize]
      omega
    have hturn : localEntry raw cdOffset true p.length (entry.toCentral i) =
        .ok (entry.toEntry i, p.length + entry.localSize) := by
      apply localEntry_written (t := rest ++ t) hentry hpack ?_ hoffset ?_
      · rw [hraw]
        simp only [List.append_assoc]
      · simp only [List.length_append, hlength] at hlast
        rw [WriteEntry.localSize]
        omega
    have hraw' : raw = (p ++ (header ++ (entry.rawName ++ entry.data))) ++ (rest ++ t) := by
      rw [hraw]
      simp only [List.append_assoc]
    obtain ⟨hrun, hyields⟩ := @ih (i + 1) _ rest hrest hraw' (hnext ▸ hplaced) hentries
    refine ⟨?_, .cons ?_ hyields⟩
    · rw [hnext] at hrun
      rw [toCentrals, localEntries, hturn, ok_bind]
      simp only [hrun, ok_bind]
      rfl
    · apply entry_yields hcrc (p := p ++ (header ++ entry.rawName)) (t := rest ++ t) hentry
      · rw [hraw]
        simp only [List.append_assoc]
      · simp only [List.length_append, hlength]
        rw [WriteEntry.toEntry, hoffset]

end Contents

section Archives

lemma orderedAfter_zip (names : List Bytes) : orderedAfter none names =
    (names.zip (names.drop 1)).all fun (previous, current) => previous < current := by
  have hsome (previous : Bytes) (names : List Bytes) : orderedAfter (some previous) names =
      ((previous :: names).zip names).all fun (previous, current) => previous < current := by
    induction names generalizing previous with
    | nil => rfl
    | cons name names ih =>
      rw [orderedAfter, ih, List.zip_cons_cons, List.all_cons]
  cases names with
  | nil => rfl
  | cons name names => exact hsome name names

lemma toEntries_rawName (index : ℕ) (entries : List WriteEntry) :
    (toEntries index entries).map Entry.rawName = entries.map WriteEntry.rawName := by
  induction entries generalizing index with
  | nil => rfl
  | cons entry entries ih =>
    rw [toEntries, List.map_cons, List.map_cons, ih]
    rfl

lemma order_written {entries : List WriteEntry} {index : ℕ}
    (hfirst : entries.head?.map WriteEntry.rawName = some manifestName)
    (hordered : orderedAfter none ((entries.drop 1).map WriteEntry.rawName)) :
    validateOrder (toEntries index entries) = .ok () := by
  have hnames := toEntries_rawName index entries
  obtain ⟨read, hread⟩ : ∃ read, read = toEntries index entries := ⟨_, rfl⟩
  rw [← hread] at hnames ⊢
  rw [← List.head?_map, ← hnames, List.head?_map, Option.map_eq_some_iff] at hfirst
  obtain ⟨first, hhead, hmanifest⟩ := hfirst
  rw [List.map_drop, ← hnames, orderedAfter_zip, List.drop_drop, ← List.map_drop, ← List.map_drop,
    List.zip_map, List.all_map] at hordered
  simp only [validateOrder, require, bind_ok, exists_unit, ensure_ok, context_ok]
  exact ⟨first, hhead, hmanifest, hordered⟩

lemma totals_written {entries : List WriteEntry} {index n : ℕ}
    (h : ∀ entry ∈ entries, Writable L entry)
    (hyields : List.Forall₂ (fun entry read => Yields L raw read entry.data) entries
      (toEntries index entries))
    (htotal : n + (entries.map fun entry => entry.data.length).sum ≤ maxArchiveBytes) :
    (toEntries index entries).foldlM (validateEntry L raw) n =
      .ok (n + (entries.map fun entry => entry.data.length).sum) := by
  induction entries generalizing index n with
  | nil => rfl
  | cons entry entries ih =>
    obtain ⟨hentry, hentries⟩ := List.forall_mem_cons.mp h
    obtain ⟨hyield, hyields⟩ := List.forall₂_cons.mp hyields
    rw [List.map_cons, List.sum_cons, ← Nat.add_assoc] at htotal ⊢
    obtain ⟨chunks, hchunks, -⟩ := hyield defaultChunk
    have hturn : validateEntry L raw n (entry.toEntry index) =
        .ok (n + entry.data.length) := by
      simp only [validateEntry, require, bind_ok, exists_unit, ensure_ok, pure_ok]
      refine ⟨hentry.size_le, Or.inr ?_, chunks, hchunks, rfl⟩
      change n + entry.data.length ≤ maxArchiveBytes
      omega
    rw [toEntries, List.foldlM_cons, hturn, ok_bind]
    exact ih hentries hyields htotal

/-- The archive that the reader makes of a prepared one. -/
def Prepared.toArchive (L : Library) (prepared : Prepared) (raw : Bytes) : Archive where
  raw := raw
  entries := toEntries 0 prepared.entries
  canonical := true
  artifactSha256 := L.sha256 raw
  totalUncompressedSize := (prepared.entries.map fun entry => entry.data.length).sum

lemma written_length {sources : List SourceEntry} {prepared : Prepared}
    (h : WellPrepared L sources prepared) (hwritten : ArchiveWritten prepared raw) :
    raw.length = prepared.outputSize := by
  obtain ⟨locals, centrals, eocd, hlocals, hcentrals, heocd, rfl⟩ := hwritten.parts
  have hcd := locals_length h.placed hlocals
  have hsize := centrals_length hcentrals
  have hend := pack_length heocd
  rw [← h.cdSize] at hsize
  rw [h.outputSize.1, hcd, ← hsize, ← hend]
  simp only [List.length_append]
  omega

lemma endRecord_written {sources : List SourceEntry} {prepared : Prepared}
    (h : WellPrepared L sources prepared) (hwritten : ArchiveWritten prepared raw) :
    readEndRecord raw = .ok (EndRecord.ofFields (eocdFields prepared)) := by
  have hlength := written_length h hwritten
  obtain ⟨locals, centrals, eocd, hlocals, hcentrals, heocd, hraw⟩ := hwritten.parts
  have hcd := locals_length h.placed hlocals
  have hsize := centrals_length hcentrals
  rw [← h.cdSize] at hsize
  obtain ⟨houtput, hmax⟩ := h.outputSize
  have hoffset : raw.length - size eocdFormat = (locals ++ centrals).length := by
    rw [hlength, houtput, List.length_append]
    omega
  have hraw' : raw = (locals ++ centrals) ++ (eocd ++ []) := by
    rw [hraw, List.append_nil, List.append_assoc]
  obtain ⟨hcount, hbound⟩ := h.count
  simp only [maxWriteEntryCount] at hbound
  simp only [readEndRecord, validateEndRecord, require, bind_ok, exists_unit, ensure_ok, pure_ok]
  refine ⟨hlength ▸ hmax, by omega, eocdFields prepared, ?_, ⟨rfl, ⟨rfl, rfl⟩, ?_, ?_, ?_, rfl, ?_⟩,
    rfl⟩
  · rw [hoffset]
    exact unpackFrom_at hraw' heocd
  · change prepared.entries.length ≠ 0xFFFF ∧ prepared.entries.length ≠ 0xFFFF
    omega
  · exact ⟨rfl, hcount, hbound.trans (by decide)⟩
  · exact ⟨h.sentinels.2, h.sentinels.1⟩
  · change prepared.cdOffset + prepared.cdSize = raw.length - size eocdFormat
    rw [hlength, houtput]
    omega

lemma inspect_written (hcrc : Streaming L) {sources : List SourceEntry} {prepared : Prepared}
    (h : WellPrepared L sources prepared) (hwritten : ArchiveWritten prepared raw) :
    inspectArchive L raw true = .ok (prepared.toArchive L raw) ∧
      List.Forall₂ (fun entry read => Yields L raw read entry.data) prepared.entries
        (toEntries 0 prepared.entries) := by
  have hend := endRecord_written h hwritten
  obtain ⟨locals, centrals, eocd, hlocals, hcentrals, heocd, hraw⟩ := hwritten.parts
  have hcd : prepared.cdOffset = locals.length := by
    rw [locals_length h.placed hlocals, Nat.zero_add]
  have hsize := centrals_length hcentrals
  rw [← h.cdSize] at hsize
  have hcentral : parseCentral raw prepared.cdOffset prepared.cdSize prepared.entries.length =
      .ok (toCentrals 0 prepared.entries) := by
    have hrun : centralEntries raw (prepared.cdOffset + prepared.cdSize) prepared.entries.length 0
        locals.length [] [] = .ok (toCentrals 0 prepared.entries, locals.length + centrals.length) :=
      centralEntries_written hcentrals hraw (by rw [hcd, hsize]) h.writable (by simp) (by simp)
        h.folded
    rw [← hcd, hsize] at hrun
    simp only [parseCentral, require, bind_ok, exists_unit, ensure_ok, pure_ok]
    exact ⟨_, hrun, rfl, rfl⟩
  obtain ⟨hrun, hyields⟩ := localEntries_written (p := []) (i := 0) hcrc hlocals
    (hraw.trans (List.nil_append _).symm) h.placed h.writable
  have hlocal : parseLocals raw (toCentrals 0 prepared.entries) prepared.cdOffset true =
      .ok (toEntries 0 prepared.entries) := by
    simp only [parseLocals, require, bind_ok, exists_unit, ensure_ok, pure_ok]
    exact ⟨_, hrun, rfl, rfl⟩
  have htotal := totals_written (n := 0) h.writable hyields (by rw [Nat.zero_add]; exact h.total)
  rw [Nat.zero_add] at htotal
  refine ⟨?_, hyields⟩
  simp only [inspectArchive, if_true, bind_ok, exists_unit, pure_ok]
  exact ⟨_, hend, _, hcentral, _, hlocal, order_written h.first h.ordered, _, htotal, rfl⟩

end Archives

section RoundTrip

/-- What the reader returns for a source entry. -/
structure ReadsBack (L : Library) (raw : Bytes) (source : SourceEntry) (read : Entry) : Prop where
  name : coerceWriteName source.name = .ok (read.rawName, read.name)
  text : ∀ name, source.name = .str name → read.name = name
  sizes : read.compressedSize = source.data.length ∧ read.uncompressedSize = source.data.length
  crc : read.crc32 = (L.crc32 source.data 0).toNat
  content : Yields L raw read source.data

structure SameReport (raw : Bytes) (written : WriteReport) (read : ArchiveReport) : Prop where
  byteSize : written.byteSize = raw.length
  artifactSha256 : written.artifactSha256 = read.artifactSha256
  entryCount : written.entryCount = read.entryCount
  total : written.totalUncompressedSize = read.totalUncompressedSize
  aggregate : written.entriesAggregateSha256 = read.entriesAggregateSha256

/-- A source entry with its name as the bytes it stands for. -/
def SourceEntry.encoded (source : SourceEntry) : Result Bytes × Bytes :=
  (encodeName source.name, source.data)

lemma decode_encode {name : String} {rawName : Bytes} (h : encodeAscii name = some rawName) :
    decodeAscii rawName = .ok name := by
  rw [encodeAscii] at h
  split_ifs at h with hascii
  cases Option.some.inj h
  rw [List.all_eq_true] at hascii
  have hbyte : ∀ c ∈ name.toList, (UInt8.ofNat c.toNat).toNat = c.toNat := by
    intro c hc
    have hlt : c.toNat < 128 := of_decide_eq_true (hascii c hc)
    exact UInt8.toNat_ofNat_of_lt' (hlt.trans (by decide))
  have hall : (name.toList.map fun c => UInt8.ofNat c.toNat).all fun value => value < 128 := by
    rw [List.all_map, List.all_eq_true]
    intro c hc
    apply decide_eq_true
    rw [UInt8.lt_iff_toNat_lt, hbyte c hc]
    exact of_decide_eq_true (hascii c hc)
  have hchars : (name.toList.map fun c => UInt8.ofNat c.toNat).map
      (fun value => Char.ofNat value.toNat) = name.toList := by
    rw [List.map_map, List.map_congr_left (g := id), List.map_id]
    intro c hc
    rw [Function.comp_apply, hbyte c hc, Char.ofNat_toNat, id]
  rw [decodeAscii, ensure_pass hall, ok_bind, hchars, String.ofList_toList]
  rfl

lemma coerce_str {name decoded : String} {rawName : Bytes}
    (h : coerceWriteName (.str name) = .ok (rawName, decoded)) : decoded = name := by
  obtain ⟨hencode, hvalid⟩ := coerceWriteName_ok h
  have hdecode := decode_encode (context_ok.mp hencode)
  simp only [validateName, require, bind_ok, exists_unit, ensure_ok, pure_ok] at hvalid
  obtain ⟨-, -, -, -, -, read, hread, heq⟩ := hvalid
  rw [hdecode] at hread
  rw [← (Prod.mk.inj heq).1]
  exact (Except.ok.inj hread).symm

lemma reads_back {sources : List SourceEntry} {entries : List WriteEntry} {index : ℕ}
    (hcarries : List.Forall₂ Carries sources entries) (h : ∀ entry ∈ entries, Writable L entry)
    (hyields : List.Forall₂ (fun entry read => Yields L raw read entry.data) entries
      (toEntries index entries)) :
    List.Forall₂ (ReadsBack L raw) sources (toEntries index entries) := by
  induction hcarries generalizing index with
  | nil => exact .nil
  | cons hcarry _ ih =>
    obtain ⟨hentry, hentries⟩ := List.forall_mem_cons.mp h
    obtain ⟨hyield, hyields⟩ := List.forall₂_cons.mp hyields
    refine .cons ?_ (ih hentries hyields)
    rw [hcarry.data] at hyield
    exact {
      name := hcarry.name
      text := by
        intro name hstr
        have hname := hcarry.name
        rw [hstr] at hname
        exact coerce_str hname
      sizes := ⟨congrArg List.length hcarry.data, congrArg List.length hcarry.data⟩
      crc := by
        rw [← hcarry.data]
        exact hentry.crc
      content := hyield }

lemma aggregate_written (index : ℕ) (entries : List WriteEntry) :
    (toEntries index entries).mapM Entry.aggregateRecord =
      entries.mapM WriteEntry.aggregateRecord := by
  induction entries generalizing index with
  | nil => rfl
  | cons entry entries ih =>
    rw [toEntries, List.mapM_cons, List.mapM_cons, ih]
    rfl

lemma report_written {prepared : Prepared} {report : WriteReport} {sources : List SourceEntry}
    (h : WellPrepared L sources prepared) (hwritten : ArchiveWritten prepared raw)
    (hreport : Reported L prepared raw report) :
    ∃ read, (prepared.toArchive L raw).report L = .ok read ∧ SameReport raw report read := by
  have haggregate := hreport.aggregate
  simp only [entriesAggregate, bind_ok, pure_ok] at haggregate
  obtain ⟨records, hrecords, hsum⟩ := haggregate
  rw [← aggregate_written 0] at hrecords
  have hlength : (toEntries 0 prepared.entries).length = prepared.entries.length := by
    have hnames := congrArg List.length (toEntries_rawName 0 prepared.entries)
    simpa using hnames
  have hread : (prepared.toArchive L raw).report L = .ok {
      artifactSha256 := L.sha256 raw
      entryCount := (toEntries 0 prepared.entries).length
      totalUncompressedSize := (prepared.entries.map fun entry => entry.data.length).sum
      entriesAggregateSha256 := L.sha256 records.flatten
      entries := (toEntries 0 prepared.entries).map fun entry =>
        ⟨entry.name, entry.compressedSize, entry.uncompressedSize, entry.crc32⟩ } := by
    simp only [Archive.report, bind_ok, pure_ok]
    exact ⟨records, hrecords, rfl⟩
  refine ⟨_, hread, ?_⟩
  exact {
    byteSize := by rw [hreport.byteSize, written_length h hwritten]
    artifactSha256 := hreport.artifactSha256
    entryCount := by rw [hreport.entryCount, hlength]
    total := hreport.total
    aggregate := hsum.symm }

lemma writeCanonical_ok {sources : List SourceEntry} {state : S.State} {report : WriteReport}
    {sink : Sink S} (h : writeCanonical L S sources state = (.ok report, sink)) :
    ∃ prepared, WellPrepared L sources prepared ∧ ArchiveWritten prepared sink.delivered ∧
      Reported L prepared sink.delivered report := by
  rw [writeCanonical, writeCanonicalTo] at h
  obtain ⟨prepared, middle, hprepare, h⟩ := bind_run_ok.mp h
  obtain ⟨hprepared, rfl⟩ := lift_run_ok.mp hprepare
  obtain ⟨⟨⟩, afterStart, hstart, h⟩ := bind_run_ok.mp h
  have hsame : (⟨state, [], []⟩ : Sink S) = afterStart := by
    rw [requireStart] at hstart
    split at hstart
    · exact absurd (Prod.mk.inj hstart).1 (by simp)
    · exact (Prod.mk.inj hstart).2
  subst hsame
  obtain ⟨raw, hwritten, htook, hreport⟩ := writePrepared_ok h
  have hdelivered : sink.delivered = raw := htook.delivered
  rw [hdelivered]
  exact ⟨prepared, prepare_ok hprepared, hwritten, hreport rfl⟩

lemma written_read (hcrc : Streaming L) {sources : List SourceEntry} {state : S.State}
    {report : WriteReport} {sink : Sink S}
    (h : writeCanonical L S sources state = (.ok report, sink)) :
    ∃ archive read, inspectArchive L sink.delivered true = .ok archive ∧
      List.Forall₂ (ReadsBack L sink.delivered) sources archive.entries ∧
      archive.report L = .ok read ∧ SameReport sink.delivered report read := by
  obtain ⟨prepared, hprepared, hwritten, hreport⟩ := writeCanonical_ok h
  obtain ⟨hinspect, hyields⟩ := inspect_written hcrc hprepared hwritten
  obtain ⟨read, hread, hsame⟩ := report_written hprepared hwritten hreport
  exact ⟨_, read, hinspect, reads_back hprepared.carries hprepared.writable hyields, hread, hsame⟩

lemma reads_back_unique {sources others : List SourceEntry} {entries : List Entry}
    (h : List.Forall₂ (ReadsBack L raw) sources entries)
    (h' : List.Forall₂ (ReadsBack L raw) others entries) :
    sources.map SourceEntry.encoded = others.map SourceEntry.encoded := by
  induction h generalizing others with
  | nil =>
    cases h'
    rfl
  | cons hread _ ih =>
    cases h' with
    | cons hread' hrest =>
      obtain ⟨chunks, hchunks, hflatten⟩ := hread.content defaultChunk
      obtain ⟨chunks', hchunks', hflatten'⟩ := hread'.content defaultChunk
      rw [hchunks] at hchunks'
      rw [List.map_cons, List.map_cons, ih hrest, SourceEntry.encoded, SourceEntry.encoded,
        (coerceWriteName_ok hread.name).1, (coerceWriteName_ok hread'.name).1, ← hflatten,
        ← hflatten', Except.ok.inj hchunks']

/-- The reader accepts every archive that the writer reports, returns the written entries and the
written report, and tells apart the sources up to the bytes of their names. -/
theorem zip_round_trip (L : Library) (hcrc : Streaming L) (S : Stream) :
    (∀ sources state report sink, writeCanonical L S sources state = (.ok report, sink) →
      ∃ archive read, inspectArchive L sink.delivered true = .ok archive ∧
        List.Forall₂ (ReadsBack L sink.delivered) sources archive.entries ∧
        archive.report L = .ok read ∧ SameReport sink.delivered report read) ∧
    ∀ sources others state state' report report' sink sink',
      writeCanonical L S sources state = (.ok report, sink) →
      writeCanonical L S others state' = (.ok report', sink') →
      sink.delivered = sink'.delivered →
      sources.map SourceEntry.encoded = others.map SourceEntry.encoded := by
  refine ⟨fun _ _ _ _ h => written_read hcrc h, ?_⟩
  intro sources others state state' report report' sink sink' h h' hsame
  obtain ⟨archive, -, hinspect, hread, -⟩ := written_read hcrc h
  obtain ⟨archive', -, hinspect', hread', -⟩ := written_read hcrc h'
  rw [hsame] at hinspect hread
  rw [hinspect] at hinspect'
  rw [← Except.ok.inj hinspect'] at hread'
  exact reads_back_unique hread hread'

end RoundTrip

end Eip0045.CanonicalZip
