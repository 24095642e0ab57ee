import Mathlib
import Eip0045.Framing.ByteMap
import Eip0045.Library.Frames
import Eip0045.Library.Keyed

/-! The encoder of byte maps, and that the decoder accepts exactly what it writes. -/

namespace Eip0045.ByteMap

open Bytes Checked Frames

/-- The first loop of the encoder, which checks the entries and adds up their lengths. -/
def encodedLength (maximumEncodedBytes : ℕ) : ℕ → ℕ → List (Entry × PayloadBounds) → Result ℕ
  | _, encodedLength, [] => pure encodedLength
  | index, length, (entry, bounds) :: rest => do
    ensure (1 ≤ entry.path.length ∧ entry.path.length ≤ maxPathBytes)
      (.reported (.pathLengthOutOfBounds index entry.path.length))
    ensure (bounds.minimum ≤ entry.payload.length ∧ entry.payload.length ≤ bounds.maximum)
      (.reported (.payloadLengthOutOfBounds index entry.payload.length bounds.minimum bounds.maximum))
    let length ← checkedEnd maximumEncodedBytes length pathLengthBytes index .pathLength
    let length ← checkedEnd maximumEncodedBytes length entry.path.length index .path
    let length ← checkedEnd maximumEncodedBytes length payloadLengthBytes index .payloadLength
    let length ← checkedEnd maximumEncodedBytes length entry.payload.length index .payload
    encodedLength maximumEncodedBytes (index + 1) length rest

/-- The second loop, which writes each entry after its lengths. -/
def encodeEntries : ℕ → List Entry → Result Bytes
  | _, [] => pure []
  | index, entry :: rest => do
    let pathLength ← context (.reported (.pathLengthOutOfBounds index entry.path.length))
      (if entry.path.length < 2 ^ 16 then some (UInt16.ofNat entry.path.length) else none)
    let payloadLength ← context (.reported (.lengthArithmeticOverflow index .payload))
      (if entry.payload.length < 2 ^ 32 then some (UInt32.ofNat entry.payload.length) else none)
    let encoded ← encodeEntries (index + 1) rest
    pure (le16 pathLength ++ entry.path ++ le32 payloadLength ++ entry.payload ++ encoded)

def encodeByteMap (contract : Contract) (entries : List Entry) : Result Bytes := do
  validateContract contract
  ensure (entries.length = contract.shape.entryCount) (.reported (.countNotAllowed entries.length))
  let _ ← encodedLength contract.maximumEncodedBytes 0 countBytes
    (entries.zip contract.shape.payloadBounds)
  let entryCount ← context (.reported (.countNotAllowed entries.length))
    (if entries.length < 2 ^ 16 then some (UInt16.ofNat entries.length) else none)
  let encoded ← encodeEntries 0 entries
  let _ ← decodeByteMap (le16 entryCount ++ encoded) contract
  pure (le16 entryCount ++ encoded)

section Contracts

variable {contract : Contract}

def Within (bounds : PayloadBounds) (entry : Entry) : Prop :=
  bounds.minimum ≤ entry.payload.length ∧ entry.payload.length ≤ bounds.maximum

def entryBytes (entry : Entry) : Bytes := sized 2 entry.path ++ sized 4 entry.payload

def byteMap (entries : List Entry) : Bytes :=
  leBytes 2 entries.length ++ entries.flatMap entryBytes

structure Fits (contract : Contract) (entries : List Entry) : Prop where
  paths : entries.map Entry.path = contract.shape.expectedPaths
  payloads : List.Forall₂ Within contract.shape.payloadBounds entries
  total : (byteMap entries).length ≤ contract.maximumEncodedBytes

/-- A path of a contract, above those before it. -/
def ValidPath (path : Bytes) : Prop := path.length ≤ maxPathBytes ∧ validatePath path = .ok ()

structure ValidContract (contract : Contract) : Prop where
  count : contract.shape.payloadBounds.length < 2 ^ 16
  length : contract.shape.expectedPaths.length = contract.shape.payloadBounds.length
  paths : ∀ path ∈ contract.shape.expectedPaths, ValidPath path
  sorted : contract.shape.expectedPaths.Pairwise fun a b => compare a b = .lt
  bounds : ∀ b ∈ contract.shape.payloadBounds, b.maximum < 2 ^ 32
  maximum : contract.maximumEncodedBytes ≤ maxEncodedBytes
  minimum : countBytes ≤ contract.maximumEncodedBytes

lemma validateExpectedPaths_ok {previous : Option Bytes} {paths : List Bytes}
    (h : validateExpectedPaths previous paths = .ok ()) :
    (∀ path ∈ paths, ValidPath path) ∧
      (previous.toList ++ paths).Pairwise fun a b => compare a b = .lt := by
  induction paths generalizing previous with
  | nil =>
    refine ⟨fun path hpath => absurd hpath List.not_mem_nil, ?_⟩
    cases previous <;> simp
  | cons path rest ih =>
    simp only [validateExpectedPaths, bind_ok, exists_unit, ensure_ok, not_or, not_not, not_lt] at h
    obtain ⟨hpath, habove, hrest⟩ := h
    obtain ⟨hpaths, hsorted⟩ := ih hrest
    refine ⟨List.forall_mem_cons.mpr ⟨hpath, hpaths⟩, ?_⟩
    cases previous with
    | none => exact hsorted
    | some prior =>
      have hgt : compare path prior = .gt := by simpa using habove
      have hlt : compare prior path = .lt := Std.OrientedCmp.gt_iff_lt.mp hgt
      refine List.pairwise_cons.mpr ⟨?_, hsorted⟩
      have hbefore := (List.pairwise_cons.mp hsorted).1
      intro q hq
      obtain rfl | hq := List.mem_cons.mp hq
      · exact hlt
      · exact Std.TransCmp.lt_trans hlt (hbefore q hq)

lemma encodedRange_ok {paths : List Bytes} {index minimum maximum : ℕ} {bounds : List PayloadBounds}
    {range : ℕ × ℕ} (h : encodedRange paths index minimum maximum bounds = .ok range) :
    ∀ b ∈ bounds, b.maximum < 2 ^ 32 := by
  induction bounds generalizing index minimum maximum with
  | nil => exact fun b hb => absurd hb List.not_mem_nil
  | cons b bounds ih =>
    simp only [encodedRange, bind_ok, exists_unit, ensure_ok] at h
    obtain ⟨hb, _, -, _, -, _, -, hrest⟩ := h
    exact List.forall_mem_cons.mpr ⟨by omega, ih hrest⟩

lemma validContract_of_ok (h : validateContract contract = .ok ()) : ValidContract contract := by
  simp only [validateContract, validateShape, bind_ok, exists_unit, ensure_ok] at h
  obtain ⟨hmaximum, hcount, hlength, hpaths, range, hrange, -⟩ := h
  obtain ⟨hvalid, hsorted⟩ := validateExpectedPaths_ok hpaths
  have hcount' : ¬contract.shape.payloadBounds.length > 2 ^ 16 - 1 := hcount
  exact ⟨by omega, hlength, hvalid, hsorted, encodedRange_ok hrange, hmaximum.2, hmaximum.1⟩

lemma path_length_pos {path : Bytes} (h : ValidPath path) : 1 ≤ path.length := by
  have hvalid := h.2
  simp only [validatePath, bind_ok, exists_unit, ensure_ok] at hvalid
  exact List.length_pos_iff.mpr hvalid.1

end Contracts

section Decoder

variable {source : Bytes} {maximum cursor index : ℕ}

lemma checkedEnd_ok {length stop : ℕ} {field : Field} (h : maximum < 2 ^ 64) :
    checkedEnd maximum cursor length index field = .ok stop ↔
      stop = cursor + length ∧ stop ≤ maximum := by
  simp only [checkedEnd, bind_ok, exists_unit, context_ok, ensure_ok, checkedAdd_eq_some, pure_ok,
    not_lt]
  constructor
  · intro h
    obtain ⟨_, ⟨-, rfl⟩, hle, rfl⟩ := h
    exact ⟨rfl, hle⟩
  · intro hstop
    obtain ⟨rfl, hle⟩ := hstop
    exact ⟨_, ⟨by omega, rfl⟩, hle, rfl⟩

lemma checkPath_ok {path : Bytes} : checkPath index path = .ok () ↔ validatePath path = .ok () := by
  rw [checkPath]
  split <;> simp_all [pure, Except.pure]

lemma checkPathOrder_ok {path : Bytes} {previous : Option Bytes} :
    checkPathOrder index path previous = .ok () ↔ ∀ p ∈ previous, compare p path = .lt := by
  cases previous with
  | none => simp [checkPathOrder, pure, Except.pure]
  | some p =>
    have hmem : (∀ q ∈ some p, compare q path = .lt) ↔ compare p path = .lt := by simp
    rw [checkPathOrder, hmem, ← Std.OrientedCmp.gt_iff_lt]
    cases compare path p <;> simp [pure, Except.pure]

lemma decodePath_iff (hmaximum : maximum < 2 ^ 64) (hcursor : cursor ≤ source.length)
    {previous : Option Bytes} {expected path : Bytes} {pathEnd : ℕ} (hvalid : ValidPath expected)
    (habove : ∀ p ∈ previous, compare p expected = .lt) :
    decodePath source maximum cursor index previous expected = .ok (path, pathEnd) ↔
      path = expected ∧ sized 2 path <+: source.drop cursor ∧
        pathEnd = cursor + (sized 2 path).length ∧ pathEnd ≤ maximum := by
  have hpos := path_length_pos hvalid
  have hlong : expected.length ≤ 512 := hvalid.1
  simp only [decodePath, bind_ok, exists_unit, ensure_ok, context_ok, pure_ok, checkedEnd_ok hmaximum,
    ByteArr.ofBytes_eq_some, checkPath_ok, checkPathOrder_ok, Prod.mk.injEq, sized_length]
  constructor
  · intro h
    obtain ⟨_, ⟨rfl, hend⟩, _, hlength, lengthArray, rfl, hbounds, _, ⟨rfl, hend'⟩, p, hpath, -, -,
      rfl, rfl, rfl⟩ := h
    rw [ofLe16_toNat (ByteArr.val_length _)] at hpath hend' ⊢
    obtain ⟨hlt, hbytes, hinitial⟩ := (sized_iff hcursor).mp ⟨hlength, hpath⟩
    have hvalue : leValue lengthArray.val = p.length := by
      rw [hbytes, leValue_leBytes hlt]
    exact ⟨rfl, hinitial, by rw [hvalue, pathLengthBytes]; omega, hend'⟩
  · intro h
    obtain ⟨rfl, hinitial, rfl, hend⟩ := h
    have hlt : path.length < 256 ^ 2 := by omega
    obtain ⟨hlength, hpath⟩ := (sized_iff hcursor).mpr ⟨hlt, rfl, hinitial⟩
    have hvalue : (ofLe16 (leBytes 2 path.length)).toNat = path.length := by
      rw [ofLe16_toNat (leBytes_length _ _), leValue_leBytes hlt]
    rw [leValue_leBytes hlt] at hpath
    refine ⟨cursor + pathLengthBytes, ⟨rfl, by rw [pathLengthBytes]; omega⟩, _, hlength,
      ⟨_, leBytes_length _ _⟩, rfl, ?_⟩
    change (1 ≤ (ofLe16 (leBytes 2 path.length)).toNat ∧ _) ∧ _
    rw [hvalue]
    refine ⟨⟨hpos, hlong⟩, _, ⟨rfl, by rw [pathLengthBytes]; omega⟩, path, hpath, hvalid.2, habove, rfl,
      rfl, by rw [pathLengthBytes]; omega⟩

lemma decodePayload_iff (hmaximum : maximum < 2 ^ 64) (hcursor : cursor ≤ source.length)
    {bounds : PayloadBounds} (hbounds : bounds.maximum < 2 ^ 32) {payload : Bytes} {payloadEnd : ℕ} :
    decodePayload source maximum cursor index bounds = .ok (payload, payloadEnd) ↔
      (bounds.minimum ≤ payload.length ∧ payload.length ≤ bounds.maximum) ∧
        sized 4 payload <+: source.drop cursor ∧
          payloadEnd = cursor + (sized 4 payload).length ∧ payloadEnd ≤ maximum := by
  simp only [decodePayload, bind_ok, exists_unit, ensure_ok, context_ok, pure_ok,
    checkedEnd_ok hmaximum, ByteArr.ofBytes_eq_some, Prod.mk.injEq, sized_length]
  constructor
  · intro h
    obtain ⟨_, ⟨rfl, hend⟩, _, hlength, lengthArray, rfl, hwithin, _, ⟨rfl, hend'⟩, p, hpayload, rfl,
      rfl⟩ := h
    rw [ofLe32_toNat (ByteArr.val_length _)] at hpayload hend' hwithin ⊢
    obtain ⟨hlt, hbytes, hinitial⟩ := (sized_iff hcursor).mp ⟨hlength, hpayload⟩
    have hvalue : leValue lengthArray.val = p.length := by rw [hbytes, leValue_leBytes hlt]
    rw [hvalue] at hwithin
    exact ⟨hwithin, hinitial, by rw [hvalue, payloadLengthBytes]; omega, hend'⟩
  · intro h
    obtain ⟨hwithin, hinitial, rfl, hend⟩ := h
    have hlt : payload.length < 256 ^ 4 := by omega
    obtain ⟨hlength, hpayload⟩ := (sized_iff hcursor).mpr ⟨hlt, rfl, hinitial⟩
    have hvalue : (ofLe32 (leBytes 4 payload.length)).toNat = payload.length := by
      rw [ofLe32_toNat (leBytes_length _ _), leValue_leBytes hlt]
    rw [leValue_leBytes hlt] at hpayload
    refine ⟨cursor + payloadLengthBytes, ⟨rfl, by rw [payloadLengthBytes]; omega⟩, _, hlength,
      ⟨_, leBytes_length _ _⟩, rfl, ?_⟩
    change (bounds.minimum ≤ (ofLe32 (leBytes 4 payload.length)).toNat ∧ _) ∧ _
    rw [hvalue]
    exact ⟨hwithin, _, ⟨rfl, by rw [payloadLengthBytes]; omega⟩, payload, hpayload, rfl,
      by rw [payloadLengthBytes]; omega⟩

/-- The rest of the paths of a contract, above the ones already decoded. -/
structure Ahead (previous : Option Bytes) (paths : List Bytes) : Prop where
  valid : ∀ path ∈ paths, ValidPath path
  sorted : (previous.toList ++ paths).Pairwise fun a b => compare a b = .lt

lemma Ahead.next {previous : Option Bytes} {path : Bytes} {paths : List Bytes}
    (h : Ahead previous (path :: paths)) : Ahead (some path) paths := by
  refine ⟨fun p hp => h.valid p (List.mem_cons_of_mem path hp), ?_⟩
  exact (List.pairwise_append.mp h.sorted).2.1

lemma Ahead.above {previous : Option Bytes} {path : Bytes} {paths : List Bytes}
    (h : Ahead previous (path :: paths)) : ∀ p ∈ previous, compare p path = .lt := by
  intro p hp
  exact (List.pairwise_append.mp h.sorted).2.2 p (by simpa using hp) path List.mem_cons_self

lemma entryBytes_length (path payload : Bytes) :
    (entryBytes ⟨path, payload⟩).length = 2 + path.length + (4 + payload.length) := by
  rw [entryBytes, List.length_append, sized_length, sized_length]

lemma entryBytes_initial {path payload bytes : Bytes} : entryBytes ⟨path, payload⟩ <+: bytes ↔
    sized 2 path <+: bytes ∧ sized 4 payload <+: bytes.drop (2 + path.length) := by
  rw [entryBytes, Reading.append_prefix_iff, sized_length]

lemma decodeEntries_iff (hmaximum : maximum < 2 ^ 64) {paths rest : List Bytes}
    {previous : Option Bytes} {bounds : List PayloadBounds} {entries : List Entry} {stop : ℕ}
    (hcursor : cursor ≤ source.length) (hle : cursor ≤ maximum) (hrest : paths.drop index = rest)
    (hlength : rest.length = bounds.length) (hahead : Ahead previous rest)
    (hbounds : ∀ b ∈ bounds, b.maximum < 2 ^ 32) :
    decodeEntries source maximum paths index cursor previous bounds = .ok (entries, stop) ↔
      entries.map Entry.path = rest ∧ List.Forall₂ Within bounds entries ∧
        entries.flatMap entryBytes <+: source.drop cursor ∧
          stop = cursor + (entries.flatMap entryBytes).length ∧ stop ≤ maximum := by
  induction bounds generalizing index cursor previous rest entries with
  | nil =>
    rw [decodeEntries, pure_ok, Prod.mk.injEq, List.length_eq_zero_iff.mp hlength]
    constructor
    · intro h
      obtain ⟨rfl, rfl⟩ := h
      exact ⟨rfl, .nil, List.nil_prefix, rfl, hle⟩
    · intro h
      obtain ⟨hentries, -, -, hstop, -⟩ := h
      obtain rfl := List.map_eq_nil_iff.mp hentries
      exact ⟨rfl, hstop.symm⟩
  | cons b bounds ih =>
    obtain ⟨path, others, rfl⟩ := List.exists_cons_of_length_eq_add_one hlength
    have hpath : paths[index]? = some path := by
      rw [← List.head?_drop, hrest]
      rfl
    have hothers : paths.drop (index + 1) = others := by
      rw [← List.drop_drop, hrest]
      rfl
    have hvalid := hahead.valid path List.mem_cons_self
    obtain ⟨hb, hbounds⟩ := List.forall_mem_cons.mp hbounds
    have hcount : others.length = bounds.length := Nat.succ.inj hlength
    simp only [decodeEntries, bind_ok, item_ok, hpath, Option.some.injEq, exists_eq_left', Prod.exists,
      decodePath_iff hmaximum hcursor hvalid hahead.above, pure_ok, Prod.mk.injEq]
    constructor
    · intro h
      obtain ⟨p, _, ⟨rfl, hfirst, rfl, -⟩, payload, payloadEnd, hpayload, decoded, last, hdecoded, rfl,
        rfl⟩ := h
      have hin := hfirst.length_le
      rw [List.length_drop, sized_length] at hin
      rw [sized_length] at hpayload
      obtain ⟨hwithin, hsecond, rfl, hend⟩ := (decodePayload_iff hmaximum (by omega) hb).mp hpayload
      have hin' := hsecond.length_le
      rw [List.length_drop, sized_length] at hin'
      rw [sized_length] at hdecoded hend
      obtain ⟨hpaths, hpayloads, hinitial, rfl, hstop⟩ := (ih (by omega) hend hothers hcount hahead.next
        hbounds).mp hdecoded
      refine ⟨by rw [List.map_cons, hpaths], .cons hwithin hpayloads, ?_, ?_, hstop⟩
      · rw [List.flatMap_cons, Reading.append_prefix_iff, entryBytes_initial, entryBytes_length,
          List.drop_drop, List.drop_drop, ← Nat.add_assoc cursor (2 + p.length)]
        exact ⟨⟨hfirst, hsecond⟩, hinitial⟩
      · rw [List.flatMap_cons, List.length_append, entryBytes_length]
        omega
    · intro h
      obtain ⟨hpaths, hpayloads, hinitial, rfl, hstop⟩ := h
      cases hpayloads with
      | @cons _ entry _ entries hwithin hpayloads =>
        obtain ⟨p, payload⟩ := entry
        rw [List.map_cons, List.cons.injEq] at hpaths
        obtain ⟨rfl, hpaths⟩ := hpaths
        rw [List.flatMap_cons, List.length_append, entryBytes_length] at hstop
        rw [List.flatMap_cons, Reading.append_prefix_iff, entryBytes_initial, entryBytes_length,
          List.drop_drop, List.drop_drop, ← Nat.add_assoc cursor (2 + p.length)] at hinitial
        obtain ⟨⟨hfirst, hsecond⟩, hinitial⟩ := hinitial
        have hin := hfirst.length_le
        have hin' := hsecond.length_le
        rw [List.length_drop, sized_length] at hin hin'
        refine ⟨p, _, ⟨rfl, hfirst, rfl, by rw [sized_length]; omega⟩, payload, _,
          (decodePayload_iff hmaximum (by rw [sized_length]; omega) hb).mpr
            ⟨hwithin, by rw [sized_length]; exact hsecond, rfl, by
              rw [sized_length, sized_length]; omega⟩, entries, _, ?_, rfl, rfl⟩
        rw [sized_length, sized_length]
        apply (ih (by omega) (by omega) hothers hcount hahead.next hbounds).mpr
        refine ⟨hpaths, hpayloads, hinitial, ?_, ?_⟩
        · rw [List.flatMap_cons, List.length_append, entryBytes_length]
          omega
        · rw [List.flatMap_cons, List.length_append, entryBytes_length]
          omega

end Decoder

section Codec

variable {contract : Contract} {source : Bytes} {entries : List Entry}

lemma decodeByteMap_iff (h : validateContract contract = .ok ()) :
    decodeByteMap source contract = .ok entries ↔
      Fits contract entries ∧ source = byteMap entries := by
  have hvalid := validContract_of_ok h
  have hmaximum : contract.maximumEncodedBytes < 2 ^ 64 :=
    lt_of_le_of_lt hvalid.maximum (by decide)
  have hahead : Ahead none contract.shape.expectedPaths := ⟨hvalid.paths, hvalid.sorted⟩
  have hminimum : 2 ≤ contract.maximumEncodedBytes := hvalid.minimum
  have hentries : ∀ {decoded : List Entry} {stop : ℕ}, 2 ≤ source.length →
      (decodeEntries source contract.maximumEncodedBytes contract.shape.expectedPaths 0 countBytes none
          contract.shape.payloadBounds = .ok (decoded, stop) ↔
        decoded.map Entry.path = contract.shape.expectedPaths ∧
          List.Forall₂ Within contract.shape.payloadBounds decoded ∧
            decoded.flatMap entryBytes <+: source.drop countBytes ∧
              stop = countBytes + (decoded.flatMap entryBytes).length ∧
                stop ≤ contract.maximumEncodedBytes) := by
    intro decoded stop hsource
    exact decodeEntries_iff hmaximum hsource hminimum rfl hvalid.length hahead hvalid.bounds
  simp only [decodeByteMap, h, bind_ok, exists_unit, ensure_ok, context_ok, pure_ok, Prod.exists,
    ByteArr.ofBytes_eq_some, true_and, not_lt]
  constructor
  · intro h
    obtain ⟨hlarge, _, hhead, headArray, rfl, hcount, decoded, stop, hdecoded, rfl, rfl⟩ := h
    obtain ⟨hwidth, hinitial⟩ := getInitial_iff.mp hhead
    have hsource : countBytes ≤ source.length := hwidth ▸ hinitial.length_le
    obtain ⟨hpaths, hpayloads, hrest, hstop, -⟩ := (hentries hsource).mp hdecoded
    have hnumber : decoded.length = leValue headArray.val := by
      rw [← ofLe16_toNat (ByteArr.val_length _), ← hcount]
      exact hpayloads.length_eq.symm
    have hbytes : leBytes 2 decoded.length = headArray.val := by
      have hhead := leBytes_leValue headArray.val
      rwa [hwidth, ← hnumber] at hhead
    have hmap : byteMap decoded = source := by
      have hstart : byteMap decoded <+: source := by
        rw [byteMap, Reading.append_prefix_iff, leBytes_length, hbytes]
        exact ⟨hinitial, hrest⟩
      apply hstart.eq_of_length
      rw [byteMap, List.length_append, leBytes_length, hstop]
      rfl
    exact ⟨⟨hpaths, hpayloads, hmap ▸ hlarge⟩, hmap.symm⟩
  · intro h
    obtain ⟨hfits, rfl⟩ := h
    have hcount := hfits.payloads.length_eq
    have hshort : entries.length < 2 ^ 16 := hcount ▸ hvalid.count
    have hlength : (byteMap entries).length = 2 + (entries.flatMap entryBytes).length := by
      rw [byteMap, List.length_append, leBytes_length]
    obtain ⟨hinitial, hrest⟩ : leBytes 2 entries.length <+: byteMap entries ∧
        entries.flatMap entryBytes <+: (byteMap entries).drop 2 := by
      have hsplit := Reading.append_prefix_iff.mp (List.prefix_refl (byteMap entries))
      rwa [leBytes_length] at hsplit
    refine ⟨hfits.total, _, getInitial_iff.mpr ⟨leBytes_length 2 entries.length, hinitial⟩,
      ⟨_, leBytes_length _ _⟩, rfl, ?_, entries, _,
      (hentries (by omega)).mpr ⟨hfits.paths, hfits.payloads, hrest, rfl, ?_⟩, ?_, rfl⟩
    · change _ = (ofLe16 (leBytes 2 entries.length)).toNat
      rw [ofLe16_toNat (leBytes_length _ _), leValue_leBytes hshort]
      exact hcount
    · exact hlength ▸ hfits.total
    · exact hlength.symm

lemma encodedLength_ok (hmaximum : contract.maximumEncodedBytes < 2 ^ 64) {index length stop : ℕ}
    {bounds : List PayloadBounds} (hle : length ≤ contract.maximumEncodedBytes)
    (hcount : entries.length = bounds.length) :
    encodedLength contract.maximumEncodedBytes index length (entries.zip bounds) = .ok stop ↔
      (∀ entry ∈ entries, 1 ≤ entry.path.length ∧ entry.path.length ≤ maxPathBytes) ∧
        List.Forall₂ Within bounds entries ∧ stop = length + (entries.flatMap entryBytes).length ∧
          stop ≤ contract.maximumEncodedBytes := by
  induction entries generalizing index length bounds with
  | nil =>
    rw [List.length_eq_zero_iff.mp hcount.symm, List.zip_nil_left, encodedLength, pure_ok]
    constructor
    · intro h
      subst h
      exact ⟨fun e he => absurd he List.not_mem_nil, .nil, rfl, hle⟩
    · intro h
      exact h.2.2.1.symm
  | cons entry entries ih =>
    obtain ⟨b, bounds, rfl⟩ := List.exists_cons_of_length_eq_add_one hcount.symm
    have hrest : entries.length = bounds.length := Nat.succ.inj hcount
    obtain ⟨path, payload⟩ := entry
    simp only [List.zip_cons_cons, encodedLength, bind_ok, exists_unit, ensure_ok,
      checkedEnd_ok hmaximum, List.forall_mem_cons, List.forall₂_cons, List.flatMap_cons,
      List.length_append, entryBytes_length, pathLengthBytes, payloadLengthBytes]
    constructor
    · intro h
      obtain ⟨hpath, hpayload, _, ⟨rfl, -⟩, _, ⟨rfl, -⟩, _, ⟨rfl, -⟩, _, ⟨rfl, hend⟩, htail⟩ := h
      obtain ⟨hpaths, hpayloads, rfl, hstop⟩ := (ih hend hrest).mp htail
      exact ⟨⟨hpath, hpaths⟩, ⟨hpayload, hpayloads⟩, by omega, hstop⟩
    · intro h
      obtain ⟨⟨hpath, hpaths⟩, ⟨hpayload, hpayloads⟩, rfl, hstop⟩ := h
      refine ⟨hpath, hpayload, _, ⟨rfl, by omega⟩, _, ⟨rfl, by omega⟩, _, ⟨rfl, by omega⟩, _,
        ⟨rfl, by omega⟩, (ih (by omega) hrest).mpr ⟨hpaths, hpayloads, by omega, hstop⟩⟩

lemma encodeEntries_ok {index : ℕ} {encoded : Bytes} : encodeEntries index entries = .ok encoded ↔
    (∀ entry ∈ entries, entry.path.length < 2 ^ 16 ∧ entry.payload.length < 2 ^ 32) ∧
      encoded = entries.flatMap entryBytes := by
  induction entries generalizing index encoded with
  | nil =>
    rw [encodeEntries, pure_ok]
    simp [eq_comm]
  | cons entry entries ih =>
    simp only [encodeEntries, bind_ok, context_ok, Option.ite_none_right_eq_some, Option.some.injEq,
      ih, pure_ok, List.forall_mem_cons, List.flatMap_cons, entryBytes, sized]
    constructor
    · intro h
      obtain ⟨_, ⟨hpath, rfl⟩, _, ⟨hpayload, rfl⟩, _, ⟨hrest, rfl⟩, rfl⟩ := h
      rw [le16_ofNat hpath, le32_ofNat hpayload]
      exact ⟨⟨⟨hpath, hpayload⟩, hrest⟩, by simp only [List.append_assoc]⟩
    · intro h
      obtain ⟨⟨⟨hpath, hpayload⟩, hrest⟩, rfl⟩ := h
      refine ⟨_, ⟨hpath, rfl⟩, _, ⟨hpayload, rfl⟩, _, ⟨hrest, rfl⟩, ?_⟩
      rw [le16_ofNat hpath, le32_ofNat hpayload]
      simp only [List.append_assoc]

lemma flatMap_entryBytes_injective {entries' : List Entry} (hcount : entries.length = entries'.length)
    (h : ∀ entry ∈ entries, entry.path.length < 2 ^ 16 ∧ entry.payload.length < 2 ^ 32)
    (h' : ∀ entry ∈ entries', entry.path.length < 2 ^ 16 ∧ entry.payload.length < 2 ^ 32)
    (heq : entries.flatMap entryBytes = entries'.flatMap entryBytes) : entries = entries' := by
  induction entries generalizing entries' with
  | nil => exact (List.length_eq_zero_iff.mp hcount.symm).symm
  | cons entry entries ih =>
    obtain ⟨entry', entries', rfl⟩ := List.exists_cons_of_length_eq_add_one hcount.symm
    obtain ⟨hentry, hentries⟩ := List.forall_mem_cons.mp h
    obtain ⟨hentry', hentries'⟩ := List.forall_mem_cons.mp h'
    rw [List.flatMap_cons, List.flatMap_cons, entryBytes, entryBytes, List.append_assoc,
      List.append_assoc] at heq
    obtain ⟨hpath, heq⟩ := sized_cancel hentry.1 hentry'.1 heq
    obtain ⟨hpayload, heq⟩ := sized_cancel hentry.2 hentry'.2 heq
    rw [ih (Nat.succ.inj hcount) hentries hentries' heq]
    obtain ⟨path, payload⟩ := entry
    obtain ⟨path', payload'⟩ := entry'
    dsimp only at hpath hpayload
    rw [hpath, hpayload]

lemma lengths_of_fits (h : ValidContract contract) (hfits : Fits contract entries) :
    ∀ entry ∈ entries, (1 ≤ entry.path.length ∧ entry.path.length ≤ maxPathBytes) ∧
      entry.payload.length < 2 ^ 32 := by
  intro entry hentry
  have hpath := h.paths entry.path (hfits.paths ▸ List.mem_map_of_mem hentry)
  obtain ⟨b, hb, hwithin⟩ := Keyed.forall₂_mem_left hfits.payloads.flip hentry
  exact ⟨⟨path_length_pos hpath, hpath.1⟩, hwithin.2.trans_lt (h.bounds b hb)⟩

lemma encodeByteMap_iff (h : validateContract contract = .ok ()) :
    encodeByteMap contract entries = .ok source ↔ Fits contract entries ∧ source = byteMap entries := by
  have hvalid := validContract_of_ok h
  have hmaximum : contract.maximumEncodedBytes < 2 ^ 64 :=
    lt_of_le_of_lt hvalid.maximum (by decide)
  have hlong : maxPathBytes < 2 ^ 16 := by decide
  simp only [encodeByteMap, h, bind_ok, exists_unit, ensure_ok, context_ok, pure_ok, true_and,
    Option.ite_none_right_eq_some, Option.some.injEq, encodeEntries_ok]
  constructor
  · intro h'
    obtain ⟨hcount, _, hlength, _, ⟨hshort, rfl⟩, _, ⟨hwords, rfl⟩, decoded, hdecoded, rfl⟩ := h'
    rw [le16_ofNat hshort] at hdecoded ⊢
    obtain ⟨hfits, heq⟩ := (decodeByteMap_iff h).mp hdecoded
    have hsame : decoded.length = entries.length := hfits.payloads.length_eq.symm.trans hcount.symm
    have hwords' : ∀ entry ∈ decoded, entry.path.length < 2 ^ 16 ∧ entry.payload.length < 2 ^ 32 := by
      intro entry hentry
      have hlengths := lengths_of_fits hvalid hfits entry hentry
      exact ⟨hlengths.1.2.trans_lt hlong, hlengths.2⟩
    obtain rfl : entries = decoded := by
      apply flatMap_entryBytes_injective hsame.symm hwords hwords'
      rw [byteMap, hsame] at heq
      exact List.append_cancel_left heq
    exact ⟨hfits, rfl⟩
  · intro h'
    obtain ⟨hfits, rfl⟩ := h'
    have hcount : entries.length = contract.shape.payloadBounds.length :=
      hfits.payloads.length_eq.symm
    have hshort : entries.length < 2 ^ 16 := hcount ▸ hvalid.count
    have hlengths := lengths_of_fits hvalid hfits
    have htotal : countBytes + (entries.flatMap entryBytes).length ≤ contract.maximumEncodedBytes := by
      have hbytes := hfits.total
      rwa [byteMap, List.length_append, leBytes_length] at hbytes
    refine ⟨hcount, _, (encodedLength_ok hmaximum hvalid.minimum hcount).mpr
      ⟨fun e he => (hlengths e he).1, hfits.payloads, rfl, htotal⟩, _, ⟨hshort, rfl⟩, _,
      ⟨fun e he => ⟨(hlengths e he).1.2.trans_lt hlong, (hlengths e he).2⟩, rfl⟩, entries, ?_, ?_⟩
    · rw [le16_ofNat hshort]
      exact (decodeByteMap_iff h).mpr ⟨hfits, rfl⟩
    · rw [le16_ofNat hshort]
      rfl

lemma validateContract_of_decoded (h : decodeByteMap source contract = .ok entries) :
    validateContract contract = .ok () := by
  simp only [decodeByteMap, bind_ok, exists_unit] at h
  exact h.1

/-- Byte maps round-trip, and the encoder hands out no bytes that its handler rejects. -/
theorem byte_maps_round_trip :
    (∀ contract, validateContract contract = .ok () →
      (∀ entries, (∃ source, encodeByteMap contract entries = .ok source) ↔
        entries.map Entry.path = contract.shape.expectedPaths ∧
          List.Forall₂ Within contract.shape.payloadBounds entries ∧
            (byteMap entries).length ≤ contract.maximumEncodedBytes) ∧
      ∀ entries source, encodeByteMap contract entries = .ok source →
        decodeByteMap source contract = .ok entries) ∧
    ∀ contract entries source, decodeByteMap source contract = .ok entries →
      encodeByteMap contract entries = .ok source := by
  refine ⟨?_, ?_⟩
  · intro contract h
    refine ⟨?_, ?_⟩
    · intro entries
      constructor
      · intro hencode
        obtain ⟨source, hsource⟩ := hencode
        have hfits := ((encodeByteMap_iff h).mp hsource).1
        exact ⟨hfits.paths, hfits.payloads, hfits.total⟩
      · intro hfits
        exact ⟨_, (encodeByteMap_iff h).mpr ⟨⟨hfits.1, hfits.2.1, hfits.2.2⟩, rfl⟩⟩
    · intro entries source hencode
      exact (decodeByteMap_iff h).mpr ((encodeByteMap_iff h).mp hencode)
  · intro contract entries source hdecode
    have h := validateContract_of_decoded hdecode
    exact (encodeByteMap_iff h).mpr ((decodeByteMap_iff h).mp hdecode)

end Codec

end Eip0045.ByteMap
