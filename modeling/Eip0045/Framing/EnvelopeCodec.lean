import Mathlib
import Eip0045.Framing.SubjectEnvelope
import Eip0045.Library.Frames
import Eip0045.Library.Hex

/-! The encoder of subject envelopes, and that the decoder accepts exactly its output. -/

namespace Eip0045.SubjectEnvelope

open Bytes Checked Frames

def Kind.toByte : Kind → UInt8
  | .opcodeInputs => 0x01
  | .profilePackage => 0x02
  | .ancestryBundle => 0x03
  | .terminalCatalogBundle => 0x10
  | .sequenceCatalogBundle => 0x11
  | .terminalMetadataBundle => 0x12
  | .profileIdPreimageBundle => 0x13
  | .candidateRegistryBundle => 0x14
  | .negativeBindingIndexBundle => 0x15

def Kind.debug : Kind → String
  | .opcodeInputs => "OpcodeInputs"
  | .profilePackage => "ProfilePackage"
  | .ancestryBundle => "AncestryBundle"
  | .terminalCatalogBundle => "TerminalCatalogBundle"
  | .sequenceCatalogBundle => "SequenceCatalogBundle"
  | .terminalMetadataBundle => "TerminalMetadataBundle"
  | .profileIdPreimageBundle => "ProfileIdPreimageBundle"
  | .candidateRegistryBundle => "CandidateRegistryBundle"
  | .negativeBindingIndexBundle => "NegativeBindingIndexBundle"

def EnvelopeError.display : EnvelopeError → String
  | .invalidContract => "invalid subject-envelope contract"
  | .subjectTooLarge => "subject envelope exceeds its handler-owned byte bound"
  | .truncatedHeader => "truncated subject-envelope header"
  | .magicMismatch => "wrong subject-envelope magic"
  | .unsupportedVersion version => s!"unsupported subject-envelope version {version}"
  | .unsupportedKind kind => s!"unsupported subject-envelope kind 0x{text (Hex.encode [kind])}"
  | .unexpectedKind actual expected =>
    s!"subject-envelope kind {actual.debug} differs from handler contract {expected.debug}"
  | .partCountMismatch actual expected =>
    s!"subject-envelope part count {actual} differs from handler contract {expected}"
  | .truncatedPartLength index => s!"truncated subject-envelope part-{index} length"
  | .partLengthOutOfBounds index actual minimum maximum =>
    s!"subject-envelope part-{index} length {actual} is outside {minimum}..={maximum}"
  | .lengthArithmeticOverflow index => s!"subject-envelope part-{index} length overflows"
  | .truncatedPart index => s!"truncated subject-envelope part-{index}"
  | .trailingBytes => "trailing subject-envelope bytes"

/-- The first loop of the encoder, which checks and adds up the lengths of the parts. -/
def encodedLength : ℕ → ℕ → List (Bytes × PartBounds) → Result ℕ
  | _, encodedBytes, [] => pure encodedBytes
  | index, encodedBytes, (part, bounds) :: rest => do
    ensure (bounds.minimum ≤ part.length ∧ part.length ≤ bounds.maximum)
      (.reported (.partLengthOutOfBounds index part.length bounds.minimum bounds.maximum))
    let encodedBytes ← context (.reported (.lengthArithmeticOverflow index))
      ((checkedAdd encodedBytes partLengthBytes).bind fun length => checkedAdd length part.length)
    encodedLength (index + 1) encodedBytes rest

/-- The second loop, which writes each part after its length. -/
def encodeParts : ℕ → List Bytes → Result Bytes
  | _, [] => pure []
  | index, part :: rest => do
    let partLength ← context (.reported (.lengthArithmeticOverflow index))
      (if part.length < 2 ^ 32 then some (UInt32.ofNat part.length) else none)
    let encoded ← encodeParts (index + 1) rest
    pure (le32 partLength ++ part ++ encoded)

def encodeSubjectEnvelope (parts : List Bytes) (contract : Contract) : Result Bytes := do
  let _ ← validateContract contract
  ensure (parts.length = contract.partBounds.length)
    (.reported (.partCountMismatch parts.length contract.partBounds.length))
  let encodedBytes ← encodedLength 0 headerBytes (parts.zip contract.partBounds)
  ensure (¬encodedBytes > maxEncodedBytes) (.reported .subjectTooLarge)
  let partCount ← context (.reported .invalidContract)
    (if parts.length < 2 ^ 16 then some (UInt16.ofNat parts.length) else none)
  let encoded ← encodeParts 0 parts
  pure (magic ++ [version] ++ [contract.kind.toByte] ++ le16 partCount ++ encoded)

section Contracts

def Within (bounds : PartBounds) (part : Bytes) : Prop :=
  bounds.minimum ≤ part.length ∧ part.length ≤ bounds.maximum

/-- The largest length of an encoding under some bounds. -/
def maximumBytes (bounds : List PartBounds) : ℕ := (bounds.map fun b => 4 + b.maximum).sum

variable {contract : Contract} {bounds : List PartBounds} {parts : List Bytes}

lemma maximumBytes_cons (b : PartBounds) :
    maximumBytes (b :: bounds) = 4 + b.maximum + maximumBytes bounds := by
  rw [maximumBytes, List.map_cons, List.sum_cons, maximumBytes]

lemma maximumEncoded_ok {total maximum : ℕ} (ht : total < 2 ^ 64) :
    maximumEncoded total bounds = .ok maximum ↔
      (∀ b ∈ bounds, b.minimum ≤ b.maximum ∧ b.maximum < 2 ^ 32) ∧
        total + maximumBytes bounds < 2 ^ 64 ∧ maximum = total + maximumBytes bounds := by
  induction bounds generalizing total with
  | nil =>
    rw [maximumEncoded, pure_ok]
    constructor
    · rintro rfl
      exact ⟨fun b hb => absurd hb List.not_mem_nil, ht, rfl⟩
    · rintro ⟨-, -, rfl⟩
      rfl
  | cons b bounds ih =>
    simp only [maximumEncoded, bind_ok, exists_unit, ensure_ok, context_ok,
      Option.bind_eq_some_iff, checkedAdd_eq_some, partLengthBytes, maximumBytes_cons,
      List.forall_mem_cons]
    constructor
    · rintro ⟨hb, next, ⟨_, ⟨-, rfl⟩, hlt, rfl⟩, hrest⟩
      obtain ⟨hbounds, hsum, hmax⟩ := (ih hlt).mp hrest
      refine ⟨⟨⟨by omega, by omega⟩, hbounds⟩, by omega, by omega⟩
    · rintro ⟨⟨hb, hbounds⟩, hsum, hmax⟩
      have hlt : total + 4 + b.maximum < 2 ^ 64 := by omega
      refine ⟨by omega, _, ⟨_, ⟨by omega, rfl⟩, hlt, rfl⟩, (ih hlt).mpr ⟨hbounds, ?_, ?_⟩⟩ <;>
        omega

/-- A contract that both sides of the codec accept. -/
structure Valid (contract : Contract) : Prop where
  count : contract.partBounds.length ≤ maxParts
  bounds : ∀ b ∈ contract.partBounds, b.minimum ≤ b.maximum ∧ b.maximum < 2 ^ 32
  total : headerBytes + maximumBytes contract.partBounds ≤ maxEncodedBytes

lemma validateContract_ok {maximum : ℕ} : validateContract contract = .ok maximum ↔
    Valid contract ∧ maximum = headerBytes + maximumBytes contract.partBounds := by
  have hheader : headerBytes < 2 ^ 64 := by decide
  have hlimit : maxEncodedBytes < 2 ^ 64 := by decide
  simp only [validateContract, bind_ok, exists_unit, ensure_ok, maximumEncoded_ok hheader, pure_ok,
    not_lt]
  constructor
  · rintro ⟨hcount, _, ⟨hbounds, -, rfl⟩, htotal, rfl⟩
    exact ⟨⟨hcount, hbounds, htotal⟩, rfl⟩
  · rintro ⟨⟨hcount, hbounds, htotal⟩, rfl⟩
    exact ⟨hcount, _, ⟨hbounds, by omega, rfl⟩, htotal, rfl⟩

lemma maximumBytes_le (h : Valid contract) :
    headerBytes + maximumBytes contract.partBounds < 2 ^ 64 := by
  have hlimit : maxEncodedBytes < 2 ^ 64 := by decide
  exact h.total.trans_lt hlimit

lemma framed_le_maximum (h : List.Forall₂ Within bounds parts) :
    (parts.flatMap frame).length ≤ maximumBytes bounds := by
  induction h with
  | nil => exact le_rfl
  | @cons b part bounds parts hb _ ih =>
    have hpart := hb.2
    rw [List.flatMap_cons, List.length_append, frame_length, maximumBytes_cons]
    omega

lemma within_of_mem (h : List.Forall₂ Within bounds parts) {part : Bytes} (hpart : part ∈ parts) :
    ∃ b ∈ bounds, Within b part := by
  induction h with
  | nil => exact absurd hpart List.not_mem_nil
  | @cons b first _ _ hb _ ih =>
    obtain rfl | hpart := List.mem_cons.mp hpart
    · exact ⟨b, List.mem_cons_self, hb⟩
    · obtain ⟨b', hb', hle⟩ := ih hpart
      exact ⟨b', List.mem_cons_of_mem _ hb', hle⟩

end Contracts

section Parts

variable {ε : Type} {bounds : List PartBounds} {parts : List Bytes}

/-- The bounds that are left after the first, which the length of a part has met. -/
def nextBounds (outOfBounds : ℕ → PartBounds → ℕ → ε) (index : ℕ) :
    List PartBounds → ℕ → Except ε (List PartBounds)
  | [], _ => pure []
  | bounds :: rest, length => do
    ensure (bounds.minimum ≤ length ∧ length ≤ bounds.maximum) (outOfBounds index bounds length)
    pure rest

lemma accepts_bounds {outOfBounds : ℕ → PartBounds → ℕ → ε} {index : ℕ}
    (h : parts.length = bounds.length) :
    Accepts (nextBounds outOfBounds) index bounds parts ↔ List.Forall₂ Within bounds parts := by
  induction parts generalizing bounds index with
  | nil =>
    rw [List.length_eq_zero_iff.mp h.symm]
    exact ⟨fun _ => .nil, fun _ => trivial⟩
  | cons part parts ih =>
    obtain _ | ⟨b, rest⟩ := bounds
    · exact absurd h (by simp)
    rw [Accepts, List.forall₂_cons, ← @ih rest (index + 1) (Nat.succ.inj h)]
    simp only [nextBounds, bind_ok, exists_unit, ensure_ok, pure_ok]
    constructor
    · rintro ⟨_, ⟨hb, rfl⟩, hrest⟩
      exact ⟨hb, hrest⟩
    · rintro ⟨hb, hrest⟩
      exact ⟨_, ⟨hb, rfl⟩, hrest⟩

lemma readBounded_ok {errors : ℕ → FrameErrors ε} {outOfBounds : ℕ → PartBounds → ℕ → ε}
    {source : Bytes} {index cursor stop : ℕ} (hc : cursor ≤ source.length)
    (hmax : ∀ b ∈ bounds, b.maximum < 2 ^ 32) (hfits : cursor + maximumBytes bounds < 2 ^ 64) :
    readFrames errors (nextBounds outOfBounds) source bounds.length index bounds cursor =
        .ok (parts, stop) ↔
      List.Forall₂ Within bounds parts ∧ parts.flatMap frame <+: source.drop cursor ∧
        stop = cursor + (parts.flatMap frame).length := by
  rw [readFrames_ok hc (by omega)]
  constructor
  · rintro ⟨hlen, haccepts, -, hframes, hstop, -⟩
    exact ⟨(accepts_bounds hlen).mp haccepts, hframes, hstop⟩
  · rintro ⟨hwithin, hframes, rfl⟩
    have hlen := hwithin.length_eq
    refine ⟨hlen.symm, (accepts_bounds hlen.symm).mpr hwithin, ?_, hframes, rfl, ?_⟩
    · intro part hpart
      obtain ⟨b, hb, hle⟩ := within_of_mem hwithin hpart
      exact hle.2.trans_lt (hmax b hb)
    · have hle := framed_le_maximum hwithin
      omega

end Parts

section Decoder

variable {contract : Contract} {bounds : List PartBounds} {parts : List Bytes} {source : Bytes}

def partErrors (index : ℕ) : FrameErrors (Fault EnvelopeError) where
  lengthOverflow := .reported (.lengthArithmeticOverflow index)
  truncatedLength := .reported (.truncatedPartLength index)
  lengthWidth := .reported (.truncatedPartLength index)
  partOverflow := .reported (.lengthArithmeticOverflow index)
  truncatedPart := .reported (.truncatedPart index)

def lengthOutOfBounds (index : ℕ) (bounds : PartBounds) (length : ℕ) : Fault EnvelopeError :=
  .reported (.partLengthOutOfBounds index length bounds.minimum bounds.maximum)

lemma decodeParts_eq (index cursor : ℕ) : decodeParts source index cursor bounds =
    readFrames partErrors (nextBounds lengthOutOfBounds) source bounds.length index bounds
      cursor := by
  induction bounds generalizing index cursor with
  | nil => rfl
  | cons b bounds ih =>
    simp only [decodeParts, List.length_cons, readFrames, readFrame, nextBounds, bind_assoc,
      pure_bind, ih]
    rfl

end Decoder

section Header

def header (kind : Kind) (count : ℕ) : Bytes :=
  magic ++ [version] ++ [kind.toByte] ++ le16 (UInt16.ofNat count)

def envelope (kind : Kind) (parts : List Bytes) : Bytes :=
  header kind parts.length ++ parts.flatMap frame

lemma header_length (kind : Kind) (count : ℕ) : (header kind count).length = headerBytes := by
  simp only [header, List.length_append, le16_length, List.length_singleton]
  rfl

lemma fromByte_eq_some {value : UInt8} {kind : Kind} :
    Kind.fromByte value = some kind ↔ value = kind.toByte := by
  constructor
  · intro h
    unfold Kind.fromByte at h
    split_ifs at h <;> (cases Option.some.inj h; assumption)
  · rintro rfl
    cases kind <;> rfl

lemma count_iff {low high : UInt8} {count : ℕ} : (ofLe16 [low, high]).toNat = count ↔
    count < 2 ^ 16 ∧ [low, high] = le16 (UInt16.ofNat count) := by
  constructor
  · rintro rfl
    refine ⟨UInt16.toNat_lt _, ?_⟩
    rw [UInt16.ofNat_toNat, le16_ofLe16 rfl]
  · rintro ⟨hlt, hbytes⟩
    rw [hbytes, ofLe16_le16, UInt16.toNat_ofNat']
    exact Nat.mod_eq_of_lt hlt

lemma header_iff {source : Bytes} {kind : Kind} {count : ℕ} :
    header kind count <+: source ↔
      getRange source 0 magic.length = some magic ∧ source[magic.length]? = some version ∧
        source[magic.length + 1]? = some kind.toByte ∧
          le16 (UInt16.ofNat count) <+: source.drop (magic.length + 2) := by
  have hmagic : getRange source 0 magic.length = some magic ↔ magic <+: source := by
    rw [getInitial_iff]
    exact and_iff_right rfl
  rw [hmagic, getElem?_iff, getElem?_iff, header, Reading.append_prefix_iff,
    Reading.append_prefix_iff, Reading.append_prefix_iff]
  simp only [List.length_append, List.length_singleton, and_assoc]

lemma eq_envelope_iff {source : Bytes} {kind : Kind} {parts : List Bytes} :
    source = envelope kind parts ↔
      header kind parts.length <+: source ∧ parts.flatMap frame <+: source.drop headerBytes ∧
        source.length = headerBytes + (parts.flatMap frame).length := by
  rw [← and_assoc]
  constructor
  · rintro rfl
    rw [← header_length kind parts.length, ← Reading.append_prefix_iff]
    exact ⟨List.prefix_rfl, List.length_append⟩
  · rintro ⟨hinitial, hlength⟩
    rw [← header_length kind parts.length, ← Reading.append_prefix_iff] at hinitial
    refine (hinitial.eq_of_length ?_).symm
    rw [hlength, List.length_append, header_length]

end Header

section Codec

variable {contract : Contract} {parts : List Bytes} {source : Bytes}

lemma decodeSubjectEnvelope_ok : decodeSubjectEnvelope source contract = .ok parts ↔
    Valid contract ∧ List.Forall₂ Within contract.partBounds parts ∧
      source = envelope contract.kind parts := by
  simp only [decodeSubjectEnvelope, bind_ok, exists_unit, ensure_ok, context_ok, item_ok,
    validateContract_ok, decodeParts_eq, Prod.exists, pure_ok, fromByte_eq_some, count_iff]
  constructor
  · rintro ⟨_, ⟨hvalid, rfl⟩, hlarge, hsmall, _, hmagic, rfl, _, hversion, rfl, _, hkind, _, rfl,
      rfl, low, hlow, high, hhigh, ⟨-, hcount⟩, _, _, hparts, rfl, rfl⟩
    have hbytes := maximumBytes_le hvalid
    obtain ⟨hwithin, hframes, hstop⟩ := (readBounded_ok (not_lt.mp hsmall)
      (fun b hb => (hvalid.bounds b hb).2) hbytes).mp hparts
    refine ⟨hvalid, hwithin, eq_envelope_iff.mpr ⟨header_iff.mpr ⟨hmagic, hversion, hkind, ?_⟩,
      hframes, hstop⟩⟩
    rw [← hwithin.length_eq, ← hcount]
    exact getElem?_pair_iff.mp ⟨hlow, hhigh⟩
  · rintro ⟨hvalid, hwithin, henvelope⟩
    obtain ⟨hheader, hframes, hlength⟩ := eq_envelope_iff.mp henvelope
    obtain ⟨hmagic, hversion, hkind, hcount⟩ := header_iff.mp hheader
    have hle := framed_le_maximum hwithin
    have hbytes := maximumBytes_le hvalid
    have hparts := hwithin.length_eq
    have hmax : contract.partBounds.length ≤ 64 := hvalid.count
    obtain ⟨low, high, hpair⟩ : ∃ low high,
        le16 (UInt16.ofNat parts.length) = [low, high] := ⟨_, _, rfl⟩
    rw [hpair] at hcount
    obtain ⟨hlow, hhigh⟩ := getElem?_pair_iff.mpr hcount
    refine ⟨_, ⟨hvalid, rfl⟩, by omega, by omega, _, hmagic, rfl, _, hversion, rfl, _, hkind, _, rfl,
      rfl, low, hlow, high, hhigh, ⟨by omega, ?_⟩, _, _, (readBounded_ok (by omega)
      (fun b hb => (hvalid.bounds b hb).2) hbytes).mpr ⟨hwithin, hframes, rfl⟩, hlength.symm, rfl⟩
    rw [hparts, hpair]

lemma encodedLength_ok {index total encodedBytes : ℕ} {bounds : List PartBounds}
    (h : parts.length = bounds.length) (ht : total < 2 ^ 64) :
    encodedLength index total (parts.zip bounds) = .ok encodedBytes ↔
      List.Forall₂ Within bounds parts ∧ encodedBytes = total + (parts.flatMap frame).length ∧
        encodedBytes < 2 ^ 64 := by
  induction parts generalizing bounds index total with
  | nil =>
    rw [List.length_eq_zero_iff.mp h.symm, List.zip_nil_left, encodedLength, pure_ok]
    constructor
    · rintro rfl
      exact ⟨.nil, rfl, ht⟩
    · rintro ⟨-, rfl, -⟩
      rfl
  | cons part parts ih =>
    obtain _ | ⟨b, rest⟩ := bounds
    · exact absurd h (by simp)
    have hlen : parts.length = rest.length := Nat.succ.inj h
    have hframe := frame_length part
    simp only [List.zip_cons_cons, encodedLength, bind_ok, exists_unit, ensure_ok, context_ok,
      Option.bind_eq_some_iff, checkedAdd_eq_some, partLengthBytes, List.forall₂_cons,
      List.flatMap_cons, List.length_append]
    constructor
    · rintro ⟨hb, next, ⟨_, ⟨-, rfl⟩, hlt, rfl⟩, hrest⟩
      obtain ⟨hwithin, hsum, hend⟩ := (ih hlen hlt).mp hrest
      exact ⟨⟨hb, hwithin⟩, by omega, hend⟩
    · rintro ⟨⟨hb, hwithin⟩, hsum, hend⟩
      have hlt : total + 4 + part.length < 2 ^ 64 := by omega
      exact ⟨hb, _, ⟨_, ⟨by omega, rfl⟩, hlt, rfl⟩, (ih hlen hlt).mpr ⟨hwithin, by omega, hend⟩⟩

lemma encodeParts_ok {index : ℕ} {encoded : Bytes} : encodeParts index parts = .ok encoded ↔
    (∀ part ∈ parts, part.length < 2 ^ 32) ∧ encoded = parts.flatMap frame := by
  induction parts generalizing index encoded with
  | nil =>
    rw [encodeParts, pure_ok]
    simp [eq_comm]
  | cons part parts ih =>
    simp only [encodeParts, bind_ok, context_ok, Option.ite_none_right_eq_some, Option.some.injEq,
      ih, pure_ok, List.forall_mem_cons]
    constructor
    · rintro ⟨_, ⟨hlt, rfl⟩, _, ⟨hshort, rfl⟩, rfl⟩
      exact ⟨⟨hlt, hshort⟩, rfl⟩
    · rintro ⟨⟨hlt, hshort⟩, rfl⟩
      exact ⟨_, ⟨hlt, rfl⟩, _, ⟨hshort, rfl⟩, rfl⟩

lemma encodeSubjectEnvelope_ok : encodeSubjectEnvelope parts contract = .ok source ↔
    Valid contract ∧ List.Forall₂ Within contract.partBounds parts ∧
      source = envelope contract.kind parts := by
  have hheader : headerBytes < 2 ^ 64 := by decide
  simp only [encodeSubjectEnvelope, bind_ok, exists_unit, ensure_ok, context_ok,
    validateContract_ok, encodeParts_ok, Option.ite_none_right_eq_some, Option.some.injEq, pure_ok]
  constructor
  · rintro ⟨_, ⟨hvalid, rfl⟩, hcount, _, hlength, -, _, ⟨-, rfl⟩, _, ⟨-, rfl⟩, rfl⟩
    exact ⟨hvalid, ((encodedLength_ok hcount hheader).mp hlength).1, rfl⟩
  · rintro ⟨hvalid, hwithin, rfl⟩
    have hle := framed_le_maximum hwithin
    have htotal := hvalid.total
    have hbytes := maximumBytes_le hvalid
    have hcount := hwithin.length_eq
    have hparts : contract.partBounds.length ≤ 64 := hvalid.count
    refine ⟨_, ⟨hvalid, rfl⟩, hcount.symm, _, (encodedLength_ok hcount.symm hheader).mpr
      ⟨hwithin, rfl, by omega⟩, by omega, _, ⟨by omega, rfl⟩, _, ⟨?_, rfl⟩, rfl⟩
    intro part hpart
    obtain ⟨b, hb, hpart⟩ := within_of_mem hwithin hpart
    exact hpart.2.trans_lt (hvalid.bounds b hb).2

end Codec

end Eip0045.SubjectEnvelope
