import Eip0045.Library.Tiling
import Eip0045.Zip.Reader

/-! Every byte of an accepted archive belongs to one record, and the reader never leaves its
buffer. -/

namespace Eip0045.CanonicalZip

open Bytes Checked Packed Tiling

variable {L : Library} {raw rawName extra : Bytes}

section Closed

/-- The only exception is a rejection: no read outside the buffer, no decoding failure. -/
def Closed {α : Type} (x : Result α) : Prop :=
  ∀ raised, x = .error raised → ∃ code detail, raised = .zipRejection code detail

lemma closed_ok {α : Type} (a : α) : Closed (.ok a) := fun _ h => absurd h (by simp)

lemma closed_pure {α : Type} (a : α) : Closed (pure a) := closed_ok a

lemma closed_reject {α : Type} (code : String) : Closed (reject code : Result α) := by
  intro raised h
  exact ⟨code, "", (Except.error.inj h).symm⟩

lemma closed_require {c : Prop} [Decidable c] {code : String} : Closed (require c code) := by
  intro raised h
  rw [require, ensure] at h
  split_ifs at h
  exact ⟨code, "", (Except.error.inj h).symm⟩

lemma closed_bind {α β : Type} {x : Result α} {f : α → Result β} (hx : Closed x)
    (hf : ∀ a, x = .ok a → Closed (f a)) : Closed (x >>= f) := by
  cases hcase : x with
  | error raised =>
    intro raised' h
    rw [error_bind] at h
    cases Except.error.inj h
    exact hx raised hcase
  | ok a => exact hf a hcase

lemma closed_require_bind {c : Prop} [Decidable c] {code : String} {α : Type}
    {f : Unit → Result α} (hf : c → Closed (f ())) : Closed (require c code >>= f) := by
  apply closed_bind closed_require
  intro u h
  exact hf (ensure_ok.mp h)

lemma closed_readRange {start stop : ℕ} (h : start ≤ stop) (hstop : stop ≤ raw.length) :
    Closed (readRange raw start stop) := by
  have hget := getRange_eq_some.mpr ⟨h, hstop, rfl⟩
  rw [readRange, hget]
  exact closed_ok _

lemma closed_unpackFrom {format : Format} {offset : ℕ} (h : offset + size format ≤ raw.length) :
    Closed (unpackFrom format raw offset) :=
  closed_bind (closed_readRange (Nat.le_add_right _ _) h) fun _ _ => closed_pure _

lemma closed_ite {α : Type} {c : Prop} [Decidable c] {x y : Result α} (hx : c → Closed x)
    (hy : ¬c → Closed y) : Closed (if c then x else y) := by
  split_ifs with hc
  · exact hx hc
  · exact hy hc

end Closed

section Reads

lemma readRange_ok {bytes : Bytes} {start stop : ℕ} (h : readRange raw start stop = .ok bytes) :
    start ≤ stop ∧ stop ≤ raw.length ∧ bytes.length = stop - start := by
  obtain ⟨hle, hstop, rfl⟩ := getRange_eq_some.mp (context_ok.mp h)
  exact ⟨hle, hstop, slice_length (by omega)⟩

lemma decodeAscii_closed (h : rawName.all fun value => value < 128) :
    Closed (decodeAscii rawName) := by
  rw [decodeAscii, ensure_pass h]
  exact closed_ok _

lemma printable_ascii (h : rawName.all fun value => 0x20 ≤ value ∧ value ≤ 0x7e) :
    rawName.all fun value => value < 128 := by
  rw [List.all_eq_true] at h ⊢
  intro value hvalue
  have hrange := of_decide_eq_true (h value hvalue)
  have hbound : (0x7e : UInt8) < 128 := by decide
  exact decide_eq_true (UInt8.lt_of_le_of_lt hrange.2 hbound)

lemma validateName_closed (rawName : Bytes) : Closed (validateName rawName) := by
  apply closed_require_bind
  intro _
  apply closed_require_bind
  intro hprintable
  apply closed_require_bind
  intro _
  apply closed_require_bind
  intro _
  apply closed_require_bind
  intro _
  exact closed_bind (decodeAscii_closed (printable_ascii hprintable)) fun _ _ => closed_pure _

lemma validateName_ascii {result : String × Bool} (h : validateName rawName = .ok result) :
    rawName.all fun value => value < 128 := by
  simp only [validateName, require, bind_ok, exists_unit, ensure_ok] at h
  exact printable_ascii h.2.1

end Reads

section Central

/-- The name and the extra field that follow a header. -/
structure Named (format : Format) (raw : Bytes) (start : ℕ) (rawName extra : Bytes) : Prop where
  name : readRange raw (start + size format) (start + size format + rawName.length) = .ok rawName
  extra : readRange raw (start + size format + rawName.length)
    (start + size format + rawName.length + extra.length) = .ok extra

/-- The central record at `start`. -/
structure CentralRecord (raw : Bytes) (start : ℕ) (rawName extra : Bytes)
    (localHeaderOffset : ℕ) : Prop where
  header : ∃ fields, unpackFrom centralFormat raw start = .ok fields ∧
    (CentralHeader.ofFields fields).signature = centralSignature ∧
    (CentralHeader.ofFields fields).nameLength = rawName.length ∧
    (CentralHeader.ofFields fields).extraLength = extra.length ∧
    (CentralHeader.ofFields fields).localHeaderOffset = localHeaderOffset
  named : Named centralFormat raw start rawName extra

def centralSize (rawName extra : Bytes) : ℕ := size centralFormat + rawName.length + extra.length

lemma named_ok {format : Format} {start nameLength extraLength : ℕ}
    (hname : readRange raw (start + size format) (start + size format + nameLength) = .ok rawName)
    (hextra : readRange raw (start + size format + nameLength)
      (start + (size format + nameLength + extraLength)) = .ok extra) :
    nameLength = rawName.length ∧ extraLength = extra.length ∧
      Named format raw start rawName extra := by
  have hn := (readRange_ok hname).2.2
  have he := (readRange_ok hextra).2.2
  have hnl : nameLength = rawName.length := by omega
  have hel : extraLength = extra.length := by omega
  subst hnl hel
  refine ⟨rfl, rfl, hname, ?_⟩
  rw [← hextra]
  congr 1
  omega

structure CentralTurn (raw : Bytes) (cdEnd index cursor : ℕ) (exactNames foldedNames : List Bytes)
    (entry : CentralEntry) (next : ℕ) : Prop where
  record : CentralRecord raw cursor entry.rawName entry.extra entry.localHeaderOffset
  next_eq : next = cursor + centralSize entry.rawName entry.extra
  inside : next ≤ cdEnd
  index_eq : entry.index = index
  ascii : entry.rawName.all fun value => value < 128
  exact : entry.rawName ∉ exactNames
  folded : asciiFold entry.rawName ∉ foldedNames
  method : entry.method = 0 ∨ entry.method = 8

lemma validateCentralHeader_ok {h : CentralHeader} (hok : validateCentralHeader h = .ok ()) :
    h.signature = centralSignature ∧ (h.method = 0 ∨ h.method = 8) := by
  simp only [validateCentralHeader, require, bind_ok, exists_unit, ensure_ok] at hok
  obtain ⟨hsignature, -, -, -, tuple, htuple, -⟩ := hok
  refine ⟨hsignature, ?_⟩
  rw [expectedTuple] at htuple
  split_ifs at htuple with h0 h8
  · exact Or.inl h0
  · exact Or.inr h8
  · exact absurd htuple (by simp [reject])

lemma centralEntry_ok {cdEnd index cursor next : ℕ} {exactNames foldedNames : List Bytes}
    {entry : CentralEntry}
    (h : centralEntry raw cdEnd index cursor exactNames foldedNames = .ok (entry, next)) :
    CentralTurn raw cdEnd index cursor exactNames foldedNames entry next := by
  simp only [centralEntry, requireRange, require, bind_ok, exists_unit, ensure_ok, pure_ok] at h
  obtain ⟨-, fields, hfields, hheader, hrecord, name, hname, extra, hextra, result, hvalid, -,
    hexact, hfolded, -, hentry⟩ := h
  obtain ⟨rfl, rfl⟩ := Prod.mk.inj hentry
  obtain ⟨hsignature, hmethod⟩ := validateCentralHeader_ok hheader
  obtain ⟨hnameLength, hextraLength, hnamed⟩ := named_ok hname hextra
  exact {
    record := ⟨⟨fields, hfields, hsignature, hnameLength, hextraLength, rfl⟩, hnamed⟩
    next_eq := by rw [centralSize, hnameLength, hextraLength]
    inside := hrecord
    index_eq := rfl
    ascii := validateName_ascii hvalid
    exact := hexact
    folded := hfolded
    method := hmethod }

lemma centralEntry_closed {cdEnd index cursor : ℕ} {exactNames foldedNames : List Bytes}
    (hend : cdEnd ≤ raw.length) :
    Closed (centralEntry raw cdEnd index cursor exactNames foldedNames) := by
  apply closed_require_bind
  intro hheader
  apply closed_bind (closed_unpackFrom (hheader.trans hend))
  intro fields _
  apply closed_bind
  · apply closed_require_bind
    intro _
    apply closed_require_bind
    intro _
    apply closed_require_bind
    intro _
    apply closed_require_bind
    intro _
    apply closed_bind
    · apply closed_ite (fun _ => closed_pure _)
      intro _
      exact closed_ite (fun _ => closed_pure _) fun _ => closed_reject _
    · intro _ _
      apply closed_require_bind
      intro _
      apply closed_require_bind
      intro _
      apply closed_require_bind
      intro _
      apply closed_require_bind
      intro _
      exact closed_require
  · intro _ _
    apply closed_require_bind
    intro hrecord
    apply closed_bind (closed_readRange (by omega) (by omega))
    intro rawName _
    apply closed_bind (closed_readRange (by omega) (by omega))
    intro extra _
    apply closed_bind (validateName_closed rawName)
    intro _ _
    apply closed_bind closed_require
    intro _ _
    apply closed_require_bind
    intro _
    apply closed_require_bind
    intro _
    apply closed_bind
    · apply closed_require_bind
      intro _
      apply closed_require_bind
      intro _
      exact closed_require
    · intro _ _
      exact closed_pure _

/-- The records follow one another from `start`. -/
def CentralRecords (raw : Bytes) : ℕ → List CentralEntry → ℕ → Prop
  | start, [], stop => start = stop
  | start, entry :: rest, stop =>
    CentralRecord raw start entry.rawName entry.extra entry.localHeaderOffset ∧
      CentralRecords raw (start + centralSize entry.rawName entry.extra) rest stop

structure CentralRun (raw : Bytes) (n index cursor : ℕ) (exactNames foldedNames : List Bytes)
    (entries : List CentralEntry) (last : ℕ) : Prop where
  records : CentralRecords raw cursor entries last
  length_eq : entries.length = n
  indices : entries.map CentralEntry.index = List.range' index n
  ascii : ∀ entry ∈ entries, entry.rawName.all fun value => value < 128
  methods : ∀ entry ∈ entries, entry.method = 0 ∨ entry.method = 8
  fresh : ∀ entry ∈ entries, asciiFold entry.rawName ∉ foldedNames
  nodup : (entries.map fun entry => asciiFold entry.rawName).Nodup

lemma centralEntries_ok {cdEnd n index cursor last : ℕ} {exactNames foldedNames : List Bytes}
    {entries : List CentralEntry}
    (h : centralEntries raw cdEnd n index cursor exactNames foldedNames = .ok (entries, last)) :
    CentralRun raw n index cursor exactNames foldedNames entries last := by
  induction n generalizing index cursor exactNames foldedNames entries with
  | zero =>
    obtain ⟨rfl, rfl⟩ := Prod.mk.inj (Except.ok.inj h)
    exact ⟨rfl, rfl, rfl, by simp, by simp, by simp, List.nodup_nil⟩
  | succ n ih =>
    simp only [centralEntries, bind_ok, pure_ok] at h
    obtain ⟨⟨entry, next⟩, hentry, ⟨rest, last'⟩, hrest, heq⟩ := h
    obtain ⟨rfl, rfl⟩ := Prod.mk.inj heq
    have hturn := centralEntry_ok hentry
    have hrun := ih hrest
    have hfresh : ∀ e ∈ rest, asciiFold e.rawName ≠ asciiFold entry.rawName ∧
        asciiFold e.rawName ∉ foldedNames := by
      intro e he
      simpa using hrun.fresh e he
    exact {
      records := ⟨hturn.record, hturn.next_eq ▸ hrun.records⟩
      length_eq := by rw [List.length_cons, hrun.length_eq]
      indices := by rw [List.map_cons, hturn.index_eq, hrun.indices, List.range'_succ]
      ascii := List.forall_mem_cons.mpr ⟨hturn.ascii, hrun.ascii⟩
      methods := List.forall_mem_cons.mpr ⟨hturn.method, hrun.methods⟩
      fresh := List.forall_mem_cons.mpr ⟨hturn.folded, fun e he => (hfresh e he).2⟩
      nodup := by
        rw [List.map_cons, List.nodup_cons]
        refine ⟨?_, hrun.nodup⟩
        intro hmem
        obtain ⟨e, he, heq⟩ := List.mem_map.mp hmem
        exact (hfresh e he).1 heq }

lemma centralEntries_closed {cdEnd n index cursor : ℕ} {exactNames foldedNames : List Bytes}
    (hend : cdEnd ≤ raw.length) :
    Closed (centralEntries raw cdEnd n index cursor exactNames foldedNames) := by
  induction n generalizing index cursor exactNames foldedNames with
  | zero => exact closed_pure _
  | succ n ih =>
    apply closed_bind (centralEntry_closed hend)
    intro turn _
    exact closed_bind ih fun _ _ => closed_pure _

end Central

section Locals

def Entry.dataEnd (entry : Entry) : ℕ := entry.dataOffset + entry.compressedSize

def Entry.recordEnd (entry : Entry) : ℕ :=
  match entry.dataDescriptorOffset with
  | none => entry.dataEnd
  | some offset => offset + size descriptorFormat

/-- The local header at the entry's offset, its payload, and its descriptor when it is deflated. -/
structure LocalRecord (raw : Bytes) (entry : Entry) : Prop where
  header : ∃ fields, unpackFrom localFormat raw entry.localHeaderOffset = .ok fields ∧
    (LocalHeader.ofFields fields).signature = localSignature ∧
    (LocalHeader.ofFields fields).nameLength = entry.rawName.length ∧
    (LocalHeader.ofFields fields).extraLength = entry.extra.length ∧
    (LocalHeader.ofFields fields).method = entry.method
  named : Named localFormat raw entry.localHeaderOffset entry.rawName entry.extra
  dataOffset : entry.dataOffset =
    entry.localHeaderOffset + size localFormat + entry.rawName.length + entry.extra.length
  stored : entry.method = 0 → entry.dataDescriptorOffset = none
  deflated : entry.method ≠ 0 → entry.dataDescriptorOffset = some entry.dataEnd ∧
    unpackFrom descriptorFormat raw entry.dataEnd =
      .ok [descriptorSignature, entry.crc32, entry.compressedSize, entry.uncompressedSize]

/-- The entry takes these fields from its central record. -/
structure Describes (central : CentralEntry) (entry : Entry) : Prop where
  index : entry.index = central.index
  rawName : entry.rawName = central.rawName
  extra : entry.extra = central.extra
  method : entry.method = central.method
  localHeaderOffset : entry.localHeaderOffset = central.localHeaderOffset

lemma localDescriptor_ok {cdOffset dataEnd : ℕ} {h : LocalHeader} {central : CentralEntry}
    {descriptorOffset : Option ℕ}
    (hok : localDescriptor raw cdOffset h central dataEnd = .ok descriptorOffset) :
    (h.method = 0 → descriptorOffset = none) ∧
      (h.method ≠ 0 → descriptorOffset = some dataEnd ∧ dataEnd + size descriptorFormat ≤ cdOffset ∧
        unpackFrom descriptorFormat raw dataEnd =
          .ok [descriptorSignature, central.crc32, central.compressedSize,
            central.uncompressedSize]) := by
  rw [localDescriptor] at hok
  split_ifs at hok with hmethod
  · simp only [bind_ok, pure_ok] at hok
    obtain ⟨-, -, rfl⟩ := hok
    exact ⟨fun _ => rfl, fun hne => absurd hmethod hne⟩
  · simp only [requireRange, require, bind_ok, exists_unit, ensure_ok, pure_ok] at hok
    obtain ⟨-, hrange, descriptor, hunpack, hsignature, htail, rfl⟩ := hok
    refine ⟨fun h0 => absurd h0 hmethod, fun _ => ⟨rfl, hrange, ?_⟩⟩
    cases descriptor with
    | nil => exact absurd htail (by simp)
    | cons head tail =>
      rw [hunpack, ← hsignature, ← htail]
      rfl

structure LocalTurn (raw : Bytes) (cdOffset cursor : ℕ) (central : CentralEntry) (entry : Entry)
    (next : ℕ) : Prop where
  record : LocalRecord raw entry
  describes : Describes central entry
  starts : entry.localHeaderOffset = cursor
  next_eq : next = entry.recordEnd
  inside : entry.dataEnd ≤ cdOffset ∧ next ≤ cdOffset

lemma localEntry_ok {cdOffset cursor next : ℕ} {canonical : Bool} {central : CentralEntry}
    {entry : Entry} (h : localEntry raw cdOffset canonical cursor central = .ok (entry, next)) :
    LocalTurn raw cdOffset cursor central entry next := by
  simp only [localEntry, requireRange, require, bind_ok, exists_unit, ensure_ok, pure_ok] at h
  obtain ⟨hcursor, -, fields, hfields, hheader, -, rawName, hname, extra, hextra, hsame, -, hpayload,
    descriptorOffset, hdescriptor, name, -, hentry⟩ := h
  obtain ⟨rfl, rfl⟩ := Prod.mk.inj hentry
  obtain ⟨-, -, hmethod, -, -, rfl, rfl⟩ := hsame
  obtain ⟨hnameLength, hextraLength, hnamed⟩ := named_ok hname hextra
  obtain ⟨hstored, hdeflated⟩ := localDescriptor_ok hdescriptor
  have hsignature : (LocalHeader.ofFields fields).signature = localSignature := by
    simp only [validateLocalHeader, require, bind_ok, exists_unit, ensure_ok] at hheader
    exact hheader.1
  subst hcursor
  rw [hmethod] at hstored hdeflated
  exact {
    record := {
      header := ⟨fields, hfields, hsignature, hnameLength, hextraLength, hmethod⟩
      named := hnamed
      dataOffset := by
        simp only [hnameLength, hextraLength]
        omega
      stored := hstored
      deflated := fun hne => ⟨(hdeflated hne).1, (hdeflated hne).2.2⟩ }
    describes := ⟨rfl, rfl, rfl, rfl, rfl⟩
    starts := rfl
    next_eq := rfl
    inside := by
      refine ⟨hpayload, ?_⟩
      by_cases h0 : central.method = 0
      · rw [hstored h0]
        exact hpayload
      · rw [(hdeflated h0).1]
        exact (hdeflated h0).2.1 }

lemma localEntry_closed {cdOffset cursor : ℕ} {canonical : Bool} {central : CentralEntry}
    (hend : cdOffset ≤ raw.length) (hascii : central.rawName.all fun value => value < 128) :
    Closed (localEntry raw cdOffset canonical cursor central) := by
  apply closed_require_bind
  intro _
  apply closed_require_bind
  intro hheader
  apply closed_bind (closed_unpackFrom (hheader.trans hend))
  intro fields _
  apply closed_bind
  · apply closed_require_bind
    intro _
    apply closed_require_bind
    intro _
    exact closed_require
  · intro _ _
    apply closed_require_bind
    intro hrecord
    apply closed_bind (closed_readRange (by omega) (by omega))
    intro rawName _
    apply closed_bind (closed_readRange (by omega) (by omega))
    intro extra _
    apply closed_require_bind
    intro _
    apply closed_require_bind
    intro _
    apply closed_require_bind
    intro hpayload
    apply closed_bind
    · apply closed_ite
      · intro _
        apply closed_require_bind
        intro _
        exact closed_pure _
      · intro _
        apply closed_require_bind
        intro _
        apply closed_require_bind
        intro hrange
        apply closed_bind (closed_unpackFrom (hrange.trans hend))
        intro _ _
        apply closed_require_bind
        intro _
        apply closed_require_bind
        intro _
        exact closed_pure _
    · intro _ _
      exact closed_bind (decodeAscii_closed hascii) fun _ _ => closed_pure _

/-- The records follow one another from `start`. -/
def LocalRecords (raw : Bytes) : ℕ → List Entry → ℕ → Prop
  | start, [], stop => start = stop
  | start, entry :: rest, stop => LocalRecord raw entry ∧ entry.localHeaderOffset = start ∧
      LocalRecords raw entry.recordEnd rest stop

structure LocalRun (raw : Bytes) (cdOffset cursor : ℕ) (central : List CentralEntry)
    (entries : List Entry) (last : ℕ) : Prop where
  records : LocalRecords raw cursor entries last
  describes : List.Forall₂ Describes central entries
  inside : ∀ entry ∈ entries, entry.dataEnd ≤ cdOffset

lemma localEntries_ok {cdOffset cursor last : ℕ} {canonical : Bool} {central : List CentralEntry}
    {entries : List Entry}
    (h : localEntries raw cdOffset canonical central cursor = .ok (entries, last)) :
    LocalRun raw cdOffset cursor central entries last := by
  induction central generalizing cursor entries with
  | nil =>
    obtain ⟨rfl, rfl⟩ := Prod.mk.inj (Except.ok.inj h)
    exact ⟨rfl, .nil, by simp⟩
  | cons c central ih =>
    simp only [localEntries, bind_ok, pure_ok] at h
    obtain ⟨⟨entry, next⟩, hentry, ⟨rest, last'⟩, hrest, heq⟩ := h
    obtain ⟨rfl, rfl⟩ := Prod.mk.inj heq
    have hturn := localEntry_ok hentry
    have hrun := ih hrest
    exact {
      records := ⟨hturn.record, hturn.starts, hturn.next_eq ▸ hrun.records⟩
      describes := .cons hturn.describes hrun.describes
      inside := List.forall_mem_cons.mpr ⟨hturn.inside.1, hrun.inside⟩ }

lemma localEntries_closed {cdOffset cursor : ℕ} {canonical : Bool} {central : List CentralEntry}
    (hend : cdOffset ≤ raw.length)
    (hascii : ∀ entry ∈ central, entry.rawName.all fun value => value < 128) :
    Closed (localEntries raw cdOffset canonical central cursor) := by
  induction central generalizing cursor with
  | nil => exact closed_pure _
  | cons c central ih =>
    obtain ⟨hc, hcs⟩ := List.forall_mem_cons.mp hascii
    apply closed_bind (localEntry_closed hend hc)
    intro turn _
    exact closed_bind (ih hcs) fun _ _ => closed_pure _

end Locals

section Contents

lemma yieldChunk_closed {entry : Entry} {chunk : Bytes} {out : Yielded} :
    Closed (yieldChunk L entry chunk out) := by
  apply closed_require_bind
  intro _
  exact closed_pure _

lemma iterStored_closed {entry : Entry} {chunkSize : ChunkSize} {stop cursor : ℕ} {out : Yielded}
    (hstop : stop ≤ raw.length) : Closed (iterStored L raw entry chunkSize stop cursor out) := by
  fun_induction iterStored L raw entry chunkSize stop cursor out with
  | case1 cursor out hcursor nextCursor ih =>
    apply closed_bind (closed_readRange (by omega) (by omega))
    intro chunk _
    exact closed_bind yieldChunk_closed fun next _ => ih next
  | case2 cursor out hcursor => exact closed_pure _

lemma iterPending_closed {entry : Entry} {chunkSize : ChunkSize} {pending : Bytes}
    {inflater : L.Inflater} {out : Yielded} :
    Closed (iterPending L entry chunkSize pending inflater out) := by
  fun_induction iterPending L entry chunkSize pending inflater out with
  | case1 => exact closed_pure _
  | case2 _ _ _ _ message => exact fun _ h => ⟨_, message, (Except.error.inj h).symm⟩
  | case3 => exact closed_reject _
  | case4 => exact closed_reject _
  | case5 => exact closed_pure _
  | case6 _ _ _ _ _ _ _ _ _ raised hyield =>
    intro raised' h
    cases Except.error.inj h
    exact yieldChunk_closed raised hyield
  | case7 _ _ _ _ _ _ _ _ _ _ _ ih => exact ih

lemma iterCompressed_closed {entry : Entry} {chunkSize : ChunkSize} {stop cursor : ℕ}
    {inflater : L.Inflater} {out : Yielded} (hstop : stop ≤ raw.length) :
    Closed (iterCompressed L raw entry chunkSize stop cursor inflater out) := by
  fun_induction iterCompressed L raw entry chunkSize stop cursor inflater out with
  | case1 cursor inflater out hcursor nextCursor ih =>
    apply closed_bind (closed_readRange (by omega) (by omega))
    intro pending _
    exact closed_bind iterPending_closed fun state _ => ih state.1 state.2
  | case2 => exact closed_pure _

lemma iterFlushed_closed {entry : Entry} {chunkSize : ChunkSize} {inflater : L.Inflater}
    {out : Yielded} : Closed (iterFlushed L entry chunkSize inflater out) := by
  fun_induction iterFlushed L entry chunkSize inflater out with
  | case1 _ _ message => exact fun _ h => ⟨_, message, (Except.error.inj h).symm⟩
  | case2 => exact closed_pure _
  | case3 _ _ _ _ _ _ raised hyield =>
    intro raised' h
    cases Except.error.inj h
    exact yieldChunk_closed raised hyield
  | case4 _ _ _ _ _ _ _ _ ih => exact ih

lemma iterValidatedEntry_closed {entry : Entry} {chunkSize : ChunkSize}
    (hstop : entry.dataEnd ≤ raw.length) :
    Closed (iterValidatedEntry L raw entry chunkSize) := by
  apply closed_bind
  · apply closed_ite (fun _ => iterStored_closed hstop)
    intro _
    apply closed_bind (iterCompressed_closed hstop)
    intro compressed _
    apply closed_bind iterFlushed_closed
    intro flushed _
    apply closed_require_bind
    intro _
    apply closed_require_bind
    intro _
    exact closed_pure _
  · intro out _
    apply closed_require_bind
    intro _
    apply closed_require_bind
    intro _
    apply closed_require_bind
    intro _
    exact closed_pure _

lemma validateEntries_closed {entries : List Entry} {total : ℕ}
    (h : ∀ entry ∈ entries, entry.dataEnd ≤ raw.length) :
    Closed (entries.foldlM (validateEntry L raw) total) := by
  induction entries generalizing total with
  | nil => exact closed_pure _
  | cons entry entries ih =>
    obtain ⟨hentry, hentries⟩ := List.forall_mem_cons.mp h
    rw [List.foldlM_cons]
    apply closed_bind
    · apply closed_require_bind
      intro _
      apply closed_require_bind
      intro _
      exact closed_bind (iterValidatedEntry_closed hentry) fun _ _ => closed_pure _
    · intro next _
      exact ih hentries

end Contents

section Records

/-- What a byte of an archive can belong to, for the `i`-th entry or the end of the file. -/
inductive Region
  | localHeader (i : ℕ)
  | payload (i : ℕ)
  | descriptor (i : ℕ)
  | central (i : ℕ)
  | endRecord
  deriving DecidableEq

def Entry.descriptorSize (entry : Entry) : ℕ :=
  match entry.dataDescriptorOffset with
  | none => 0
  | some _ => size descriptorFormat

def Entry.centralSize (entry : Entry) : ℕ := CanonicalZip.centralSize entry.rawName entry.extra

/-- Where the `i`-th central record starts. -/
def centralOffset (entries : List Entry) (cdOffset i : ℕ) : ℕ :=
  cdOffset + ((entries.take i).map Entry.centralSize).sum

def noBytes : Span := ⟨0, 0⟩

/-- The bytes of a region; a region that the archive does not have is empty. -/
def regionSpan (entries : List Entry) (e : EndRecord) : Region → Span
  | .localHeader i => match entries[i]? with
    | some entry => ⟨entry.localHeaderOffset, entry.dataOffset⟩
    | none => noBytes
  | .payload i => match entries[i]? with
    | some entry => ⟨entry.dataOffset, entry.dataEnd⟩
    | none => noBytes
  | .descriptor i => match entries[i]? with
    | some entry => ⟨entry.dataEnd, entry.dataEnd + entry.descriptorSize⟩
    | none => noBytes
  | .central i => ⟨centralOffset entries e.cdOffset i, centralOffset entries e.cdOffset (i + 1)⟩
  | .endRecord => ⟨e.cdOffset + e.cdSize, e.cdOffset + e.cdSize + size eocdFormat⟩

def localRegions (i : ℕ) : List Region := [.localHeader i, .payload i, .descriptor i]

def localLabels (n : ℕ) : List Region := (List.range n).flatMap localRegions

def centralLabels (n : ℕ) : List Region := (List.range n).map .central

/-- Where the `i`-th local record starts; the directory starts after the last. -/
def localOffset (entries : List Entry) (cdOffset i : ℕ) : ℕ :=
  (entries[i]?.map Entry.localHeaderOffset).getD cdOffset

lemma recordEnd_eq (entry : Entry) (h : LocalRecord raw entry) :
    entry.recordEnd = entry.dataEnd + entry.descriptorSize := by
  rw [Entry.recordEnd, Entry.descriptorSize]
  by_cases h0 : entry.method = 0
  · rw [h.stored h0]
    rfl
  · rw [(h.deflated h0).1]

lemma LocalRecords.offset {start stop : ℕ} {entries : List Entry}
    (h : LocalRecords raw start entries stop) : localOffset entries stop 0 = start := by
  cases entries with
  | nil => exact h.symm
  | cons entry rest => exact h.2.1

lemma LocalRecords.step {start stop i : ℕ} {entries : List Entry} {entry : Entry}
    (h : LocalRecords raw start entries stop) (hi : entries[i]? = some entry) :
    LocalRecord raw entry ∧ localOffset entries stop i = entry.localHeaderOffset ∧
      localOffset entries stop (i + 1) = entry.recordEnd := by
  induction entries generalizing start i with
  | nil => exact absurd hi (by simp)
  | cons first rest ih =>
    obtain ⟨hrecord, hstart, hrest⟩ := h
    cases i with
    | zero =>
      cases Option.some.inj hi
      exact ⟨hrecord, rfl, hrest.offset⟩
    | succ i => exact ih hrest hi

lemma CentralRecords.step {start stop i : ℕ} {central : List CentralEntry} {c : CentralEntry}
    (h : CentralRecords raw start central stop) (hi : central[i]? = some c) :
    CentralRecord raw (start + ((central.take i).map fun c => centralSize c.rawName c.extra).sum)
      c.rawName c.extra c.localHeaderOffset := by
  induction central generalizing start i with
  | nil => exact absurd hi (by simp)
  | cons first rest ih =>
    obtain ⟨hrecord, hrest⟩ := h
    cases i with
    | zero =>
      cases Option.some.inj hi
      exact hrecord
    | succ i =>
      have hstep := ih hrest hi
      rwa [Nat.add_assoc] at hstep

lemma CentralRecords.stop_eq {start stop : ℕ} {central : List CentralEntry}
    (h : CentralRecords raw start central stop) :
    stop = start + (central.map fun c => centralSize c.rawName c.extra).sum := by
  induction central generalizing start with
  | nil => exact h.symm
  | cons first rest ih =>
    rw [ih h.2, List.map_cons, List.sum_cons, Nat.add_assoc]

lemma described_sizes {central : List CentralEntry} {entries : List Entry}
    (h : List.Forall₂ Describes central entries) :
    central.map (fun c => centralSize c.rawName c.extra) = entries.map Entry.centralSize := by
  induction h with
  | nil => rfl
  | cons hd _ ih =>
    rw [List.map_cons, List.map_cons, ih, Entry.centralSize, hd.rawName, hd.extra]

end Records

section Coverage

/-- How the entries and the end record account for every byte of the archive. -/
structure Covered (raw : Bytes) (entries : List Entry) (e : EndRecord) : Prop where
  unique : ∀ p < raw.length, ∃! region, (regionSpan entries e region).Contains p
  inside : ∀ region p, (regionSpan entries e region).Contains p → p < raw.length
  locals : Tiles 0 e.cdOffset ((localLabels entries.length).map (regionSpan entries e))
  centrals : Tiles e.cdOffset (e.cdOffset + e.cdSize)
    ((centralLabels entries.length).map (regionSpan entries e))
  ends : e.cdOffset + e.cdSize + size eocdFormat = raw.length ∧ e.signature = eocdSignature
  count : entries.length = e.entryCount ∧ entries.map Entry.index = List.range e.entryCount
  records : ∀ i entry, entries[i]? = some entry → LocalRecord raw entry ∧
    CentralRecord raw (centralOffset entries e.cdOffset i) entry.rawName entry.extra
      entry.localHeaderOffset
  methods : ∀ entry ∈ entries, entry.method = 0 ∨ entry.method = 8
  names : (entries.map fun entry => asciiFold entry.rawName).Nodup ∧
    (entries.map Entry.rawName).Nodup

lemma tiles_locals {entries : List Entry} {e : EndRecord}
    (h : LocalRecords raw 0 entries e.cdOffset) :
    Tiles 0 e.cdOffset ((localLabels entries.length).map (regionSpan entries e)) := by
  have hcut : ∀ i < entries.length, Tiles (localOffset entries e.cdOffset i)
      (localOffset entries e.cdOffset (i + 1)) ((localRegions i).map (regionSpan entries e)) := by
    intro i hi
    have hentry := List.getElem?_eq_getElem hi
    obtain ⟨hrecord, hstart, hnext⟩ := h.step hentry
    rw [hstart, hnext, recordEnd_eq _ hrecord]
    have hdata := hrecord.dataOffset
    simp only [localRegions, List.map_cons, List.map_nil, regionSpan, hentry, Tiles, Entry.dataEnd,
      true_and, and_true]
    omega
  have htiles := tiles_range hcut
  rw [h.offset] at htiles
  have hlast : localOffset entries e.cdOffset entries.length = e.cdOffset := by
    rw [localOffset, List.getElem?_eq_none (le_refl _)]
    rfl
  rw [hlast] at htiles
  rwa [localLabels, List.map_flatMap]

lemma tiles_centrals {entries : List Entry} {e : EndRecord}
    (h : e.cdOffset + e.cdSize = e.cdOffset + (entries.map Entry.centralSize).sum) :
    Tiles e.cdOffset (e.cdOffset + e.cdSize)
      ((centralLabels entries.length).map (regionSpan entries e)) := by
  have hcut : ∀ i < entries.length, Tiles (centralOffset entries e.cdOffset i)
      (centralOffset entries e.cdOffset (i + 1)) [regionSpan entries e (.central i)] := by
    intro i hi
    refine ⟨rfl, ?_, rfl⟩
    simp only [regionSpan, centralOffset, List.map_take]
    rw [List.sum_take_succ _ _ (by simpa using hi)]
    omega
  have htiles := tiles_range hcut
  have hlast : centralOffset entries e.cdOffset entries.length = e.cdOffset + e.cdSize := by
    rw [centralOffset, List.take_length, h]
  have hfirst : centralOffset entries e.cdOffset 0 = e.cdOffset := by simp [centralOffset]
  rw [hlast, hfirst] at htiles
  rw [centralLabels, List.map_map, List.map_eq_flatMap]
  exact htiles

lemma tiles_regions {entries : List Entry} {e : EndRecord}
    (hlocals : Tiles 0 e.cdOffset ((localLabels entries.length).map (regionSpan entries e)))
    (hcentrals : Tiles e.cdOffset (e.cdOffset + e.cdSize)
      ((centralLabels entries.length).map (regionSpan entries e))) :
    Tiles 0 (e.cdOffset + e.cdSize + size eocdFormat)
      ((localLabels entries.length ++ centralLabels entries.length ++ [Region.endRecord]).map
        (regionSpan entries e)) := by
  rw [List.map_append, List.map_append]
  apply tiles_append.mpr
  refine ⟨_, tiles_append.mpr ⟨_, hlocals, hcentrals⟩, ?_⟩
  exact ⟨rfl, Nat.le_add_right _ _, rfl⟩

lemma region_outside {entries : List Entry} {e : EndRecord} {region : Region}
    (h : region ∉ localLabels entries.length ++ centralLabels entries.length ++ [Region.endRecord])
    (p : ℕ) : ¬(regionSpan entries e region).Contains p := by
  have hempty : ¬noBytes.Contains p := fun hp => absurd hp.2 (Nat.not_lt_zero p)
  simp only [localLabels, localRegions, centralLabels, List.mem_append, List.mem_flatMap,
    List.mem_map, List.mem_range, List.mem_cons, List.not_mem_nil, or_false, not_or] at h
  obtain ⟨⟨hlocal, hcentral⟩, hend⟩ := h
  cases region with
  | localHeader i | payload i | descriptor i =>
    have hi : entries.length ≤ i := by
      by_contra hlt
      exact hlocal ⟨i, not_le.mp hlt, by simp⟩
    rw [regionSpan, List.getElem?_eq_none hi]
    exact hempty
  | central i =>
    have hi : entries.length ≤ i := by
      by_contra hlt
      exact hcentral ⟨i, not_le.mp hlt, rfl⟩
    intro hp
    rw [Span.Contains, regionSpan, centralOffset, centralOffset, List.take_of_length_le hi,
      List.take_of_length_le (hi.trans (Nat.le_succ i))] at hp
    exact absurd hp.2 (not_lt.mpr hp.1)
  | endRecord => exact absurd rfl hend

lemma readEndRecord_ok {e : EndRecord} (h : readEndRecord raw = .ok e) :
    e.cdOffset + e.cdSize + size eocdFormat = raw.length ∧ e.signature = eocdSignature ∧
      1 ≤ e.entryCount := by
  simp only [readEndRecord, validateEndRecord, require, bind_ok, exists_unit, ensure_ok,
    pure_ok] at h
  obtain ⟨-, hsize, fields, -, ⟨hsignature, -, -, hcount, -, -, hcoverage⟩, rfl⟩ := h
  refine ⟨?_, hsignature, hcount.2.1⟩
  rw [hcoverage]
  omega

lemma readEndRecord_closed : Closed (readEndRecord raw) := by
  apply closed_require_bind
  intro _
  apply closed_require_bind
  intro hsize
  apply closed_bind (closed_unpackFrom (by omega))
  intro fields _
  apply closed_bind
  · apply closed_require_bind
    intro _
    apply closed_require_bind
    intro _
    apply closed_require_bind
    intro _
    apply closed_require_bind
    intro _
    apply closed_require_bind
    intro _
    apply closed_require_bind
    intro _
    exact closed_require
  · intro _ _
    exact closed_pure _

/-- The parsed directory and records of an archive, before its contents are read. -/
structure Parsed (raw : Bytes) (e : EndRecord) (central : List CentralEntry)
    (entries : List Entry) : Prop where
  centralRun : CentralRun raw e.entryCount 0 e.cdOffset [] [] central (e.cdOffset + e.cdSize)
  localRun : LocalRun raw e.cdOffset 0 central entries e.cdOffset

lemma parseCentral_ok {e : EndRecord} {central : List CentralEntry}
    (h : parseCentral raw e.cdOffset e.cdSize e.entryCount = .ok central) :
    CentralRun raw e.entryCount 0 e.cdOffset [] [] central (e.cdOffset + e.cdSize) := by
  simp only [parseCentral, require, bind_ok, exists_unit, ensure_ok, pure_ok] at h
  obtain ⟨⟨entries, cursor⟩, hentries, hcursor, rfl⟩ := h
  exact hcursor ▸ centralEntries_ok hentries

lemma parseLocals_ok {cdOffset : ℕ} {canonical : Bool} {central : List CentralEntry}
    {entries : List Entry} (h : parseLocals raw central cdOffset canonical = .ok entries) :
    LocalRun raw cdOffset 0 central entries cdOffset := by
  simp only [parseLocals, require, bind_ok, exists_unit, ensure_ok, pure_ok] at h
  obtain ⟨⟨entries, cursor⟩, hentries, hcursor, rfl⟩ := h
  have hrun := localEntries_ok hentries
  rwa [show cursor = cdOffset from hcursor] at hrun

lemma Parsed.record {e : EndRecord} {central : List CentralEntry} {entries : List Entry}
    (h : Parsed raw e central entries) {i : ℕ} {entry : Entry} (hi : entries[i]? = some entry) :
    LocalRecord raw entry ∧ CentralRecord raw (centralOffset entries e.cdOffset i) entry.rawName
      entry.extra entry.localHeaderOffset := by
  refine ⟨(h.localRun.records.step hi).1, ?_⟩
  have hlength := h.localRun.describes.length_eq
  have hlt : i < central.length := by
    rw [hlength]
    exact (List.getElem?_eq_some_iff.mp hi).1
  have hc := List.getElem?_eq_getElem hlt
  have hdescribes := (List.forall₂_iff_get.mp h.localRun.describes).2 i hlt (hlength ▸ hlt)
  have hentry : entries.get ⟨i, hlength ▸ hlt⟩ = entry := (List.getElem?_eq_some_iff.mp hi).2
  rw [hentry] at hdescribes
  have hrecord := h.centralRun.records.step hc
  have hsizes := described_sizes h.localRun.describes
  rw [List.map_take, hsizes, ← List.map_take] at hrecord
  rw [hdescribes.rawName, hdescribes.extra, hdescribes.localHeaderOffset]
  exact hrecord

lemma Describes.map_eq {α : Type} {f : CentralEntry → α} {g : Entry → α}
    {central : List CentralEntry} {entries : List Entry}
    (h : List.Forall₂ Describes central entries) (hfg : ∀ c e, Describes c e → g e = f c) :
    entries.map g = central.map f := by
  induction h with
  | nil => rfl
  | cons hd _ ih => rw [List.map_cons, List.map_cons, hfg _ _ hd, ih]

lemma Parsed.covered {e : EndRecord} {central : List CentralEntry} {entries : List Entry}
    (hend : readEndRecord raw = .ok e) (h : Parsed raw e central entries) :
    Covered raw entries e := by
  obtain ⟨hends, hsignature, -⟩ := readEndRecord_ok hend
  have hsizes := h.centralRun.records.stop_eq
  rw [described_sizes h.localRun.describes] at hsizes
  have hlocals := tiles_locals (e := e) h.localRun.records
  have hcentrals := tiles_centrals hsizes
  have htiles := tiles_regions hlocals hcentrals
  have hlength : entries.length = e.entryCount := by
    rw [← h.localRun.describes.length_eq, h.centralRun.length_eq]
  have hfolded : (entries.map fun entry => asciiFold entry.rawName).Nodup := by
    rw [Describes.map_eq h.localRun.describes fun c e hd => congrArg asciiFold hd.rawName]
    exact h.centralRun.nodup
  exact {
    unique := by
      intro p hp
      exact htiles.existsUnique_label (fun _ hregion => region_outside hregion) (Nat.zero_le p)
        (hends ▸ hp)
    inside := by
      intro region p hp
      by_cases hregion : region ∈
          localLabels entries.length ++ centralLabels entries.length ++ [Region.endRecord]
      · have hbounds := htiles.bounds (List.mem_map_of_mem hregion)
        rw [hends] at hbounds
        exact hp.2.trans_le hbounds.2.2
      · exact absurd hp (region_outside hregion p)
    locals := hlocals
    centrals := hcentrals
    ends := ⟨hends, hsignature⟩
    count := by
      refine ⟨hlength, ?_⟩
      rw [Describes.map_eq h.localRun.describes fun c e hd => hd.index, h.centralRun.indices,
        List.range_eq_range']
    records := fun i entry hi => h.record hi
    methods := by
      intro entry hentry
      have hmem : entry.method ∈ entries.map Entry.method := List.mem_map_of_mem hentry
      rw [Describes.map_eq h.localRun.describes fun c e hd => hd.method] at hmem
      obtain ⟨c, hc, hmethod⟩ := List.mem_map.mp hmem
      rw [← hmethod]
      exact h.centralRun.methods c hc
    names := by
      refine ⟨hfolded, ?_⟩
      have hcompose : (fun entry : Entry => asciiFold entry.rawName) =
          asciiFold ∘ Entry.rawName := rfl
      rw [hcompose, ← List.map_map] at hfolded
      exact hfolded.of_map asciiFold }

lemma inspectArchive_ok {canonical : Bool} {archive : Archive}
    (h : inspectArchive L raw canonical = .ok archive) :
    ∃ e central, readEndRecord raw = .ok e ∧ Parsed raw e central archive.entries := by
  simp only [inspectArchive, bind_ok] at h
  obtain ⟨e, hend, central, hcentral, entries, hentries, h⟩ := h
  have hparsed : Parsed raw e central entries :=
    ⟨parseCentral_ok hcentral, parseLocals_ok hentries⟩
  split_ifs at h
  · simp only [bind_ok, exists_unit, pure_ok] at h
    obtain ⟨-, total, -, rfl⟩ := h
    exact ⟨e, central, hend, hparsed⟩
  · simp only [bind_ok, pure_ok] at h
    obtain ⟨total, -, rfl⟩ := h
    exact ⟨e, central, hend, hparsed⟩

lemma inspectArchive_closed (L : Library) (raw : Bytes) (canonical : Bool) :
    Closed (inspectArchive L raw canonical) := by
  apply closed_bind readEndRecord_closed
  intro e hend
  obtain ⟨hends, -, hcount⟩ := readEndRecord_ok hend
  apply closed_bind
  · apply closed_bind (centralEntries_closed (by omega))
    intro entries _
    apply closed_require_bind
    intro _
    exact closed_pure _
  · intro central hcentral
    have hrun := parseCentral_ok hcentral
    apply closed_bind
    · apply closed_bind (localEntries_closed (by omega) hrun.ascii)
      intro entries _
      apply closed_require_bind
      intro _
      exact closed_pure _
    · intro entries hentries
      have hlocal := parseLocals_ok hentries
      have hinside : ∀ entry ∈ entries, entry.dataEnd ≤ raw.length := by
        intro entry hentry
        have := hlocal.inside entry hentry
        omega
      have hcontents : Closed (do
          let total ← entries.foldlM (validateEntry L raw) 0
          pure ({ raw, entries, canonical, artifactSha256 := L.sha256 raw,
                  totalUncompressedSize := total } : Archive)) :=
        closed_bind (validateEntries_closed hinside) fun _ _ => closed_pure _
      apply closed_ite
      · intro _
        refine closed_bind ?_ fun _ _ => hcontents
        cases entries with
        | nil =>
          have hlength := hlocal.describes.length_eq
          rw [hrun.length_eq, List.length_nil] at hlength
          omega
        | cons first rest =>
          apply closed_require_bind
          intro _
          exact closed_require
      · intro _
        exact hcontents

/-- Every byte of an accepted archive belongs to exactly one record, the records tile the file in
directory order, and the reader fails by rejections only: it never reads outside its buffer. -/
theorem zip_record_coverage (L : Library) (raw : Bytes) (canonical : Bool) :
    (∀ archive, inspectArchive L raw canonical = .ok archive →
      ∃ e, readEndRecord raw = .ok e ∧ Covered raw archive.entries e) ∧
    ∀ raised, inspectArchive L raw canonical = .error raised →
      ∃ code detail, raised = .zipRejection code detail := by
  refine ⟨?_, inspectArchive_closed L raw canonical⟩
  intro archive h
  obtain ⟨e, central, hend, hparsed⟩ := inspectArchive_ok h
  exact ⟨e, hend, hparsed.covered hend⟩

end Coverage

end Eip0045.CanonicalZip
