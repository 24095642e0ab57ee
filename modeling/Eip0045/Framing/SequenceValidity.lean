import Mathlib
import Eip0045.Framing.SequenceSubject
import Eip0045.Library.Scans

/-! Valid sequence subjects, their payloads, and their canonical JSON: its size, and that it tells them apart. -/

namespace Eip0045.SequenceSubject

open Bytes Checked Constants Scans

section Elements

variable (sha256 : Bytes → Digest) (validateCanonicalJsonSource : Bytes → Except String Unit)
variable {element : B4SequenceSubjectElement} {target : B4SequenceTarget}

def B4SequenceSubjectElement.payload (element : B4SequenceSubjectElement) : Bytes :=
  (Hex.decode element.bytesHex).getD []

/-- An element of admitted texts whose digest is that of its payload. -/
structure Authentic (element : B4SequenceSubjectElement) : Prop where
  identifier : validateElementId element.elementId = .ok ()
  even : element.bytesHex.length % 2 = 0
  bounded : element.bytesHex.length ≤ maxSequenceElementBytes * 2
  lower : ∀ byte ∈ element.bytesHex, Hex.IsLower byte
  digest : sha256Hex sha256 element.payload = element.sha256

lemma sha256Hex_length (bytes : Bytes) : (sha256Hex sha256 bytes).length = 64 := by
  rw [sha256Hex, Hex.encode_length, ByteArr.val_length]

variable {sha256}

lemma payload_spells (heven : element.bytesHex.length % 2 = 0)
    (hlower : ∀ byte ∈ element.bytesHex, Hex.IsLower byte) :
    Hex.decode element.bytesHex = some element.payload ∧
      element.payload.length = element.bytesHex.length / 2 ∧
      Hex.encode element.payload = element.bytesHex := by
  obtain ⟨bytes, hbytes, hlength, hencode⟩ :=
    Hex.encode_decode hlower (n := element.bytesHex.length / 2) (by omega)
  rw [B4SequenceSubjectElement.payload, hbytes, Option.getD_some]
  exact ⟨rfl, hlength, hencode⟩

lemma decodedBytes_ok {bytes : Bytes} :
    element.decodedBytes sha256 = .ok bytes ↔ Authentic sha256 element ∧ bytes = element.payload := by
  simp only [B4SequenceSubjectElement.decodedBytes, B4SequenceSubjectElement.validateCommon,
    validateDigest, bind_ok, exists_unit, ensure_ok, context_ok, pure_ok]
  constructor
  · intro h
    obtain ⟨⟨hid, ⟨heven, hbound, hlower⟩, -⟩, _, hdecode, hsha, rfl⟩ := h
    obtain ⟨hspells, -⟩ := payload_spells heven hlower
    rw [hspells, Option.some.injEq] at hdecode
    subst hdecode
    exact ⟨⟨hid, heven, hbound, hlower, hsha⟩, rfl⟩
  · intro h
    obtain ⟨h, rfl⟩ := h
    refine ⟨⟨h.identifier, ⟨h.even, h.bounded, h.lower⟩, ?_⟩, _, (payload_spells h.even h.lower).1,
      h.digest, rfl⟩
    rw [← h.digest, sha256Hex_length, not_or, not_not, not_not]
    exact ⟨rfl, Hex.encode_isLower _⟩

variable (sha256)

/-- An authentic element, whose payload is canonical JSON unless the subject is of proof chunks. -/
structure Fits (target : B4SequenceTarget) (element : B4SequenceSubjectElement) : Prop where
  authentic : Authentic sha256 element
  canonical : target ≠ .proofChunks → validateCanonicalJsonSource element.payload = .ok ()

variable {sha256 validateCanonicalJsonSource}

lemma validateFor_ok : element.validateFor sha256 validateCanonicalJsonSource target = .ok () ↔
    Fits sha256 validateCanonicalJsonSource target element := by
  simp only [B4SequenceSubjectElement.validateFor, bind_ok, decodedBytes_ok]
  by_cases htarget : target = .proofChunks
  · simp only [htarget, ne_eq, not_true_eq_false, if_false]
    constructor
    · intro h
      obtain ⟨_, ⟨h, -⟩, -⟩ := h
      exact ⟨h, fun hne => absurd rfl hne⟩
    · intro h
      exact ⟨_, ⟨h.authentic, rfl⟩, rfl⟩
  · simp only [htarget, ne_eq, not_false_eq_true, if_true, mapError_ok]
    constructor
    · intro h
      obtain ⟨_, ⟨h, rfl⟩, hcanonical⟩ := h
      exact ⟨h, fun _ => hcanonical⟩
    · intro h
      exact ⟨_, ⟨h.authentic, rfl⟩, h.canonical htarget⟩

end Elements

section Subjects

variable (sha256 : Bytes → Digest) (validateCanonicalJsonSource : Bytes → Except String Unit)

def payloadTotal (elements : List B4SequenceSubjectElement) : ℕ :=
  (elements.map fun element => element.bytesHex.length / 2).sum

lemma payloadTotal_cons (element : B4SequenceSubjectElement) (rest : List B4SequenceSubjectElement) :
    payloadTotal (element :: rest) = element.bytesHex.length / 2 + payloadTotal rest := rfl

/-- A subject of fitting elements with identifiers of their own, within the bounds. -/
structure Valid (subject : Eip0045B4SequenceSubjectV1) : Prop where
  format : subject.format = b4SequenceSubjectFormat
  count : subject.elements.length ≤ maxSequenceElements
  fits : ∀ element ∈ subject.elements,
    Fits sha256 validateCanonicalJsonSource subject.target element
  identifiers : (subject.elements.map B4SequenceSubjectElement.elementId).Nodup
  bounded : payloadTotal subject.elements ≤ maxSequencePayloadBytes

variable {sha256 validateCanonicalJsonSource}
variable {target : B4SequenceTarget} {subject : Eip0045B4SequenceSubjectV1}

lemma validateElements_ok {elements : List B4SequenceSubjectElement} {index payloadBytes : ℕ}
    {ids : List Bytes} (hbytes : payloadBytes ≤ maxSequencePayloadBytes) :
    validateElements sha256 validateCanonicalJsonSource target index ids payloadBytes elements = .ok () ↔
      (∀ element ∈ elements, Fits sha256 validateCanonicalJsonSource target element) ∧
      Fresh ids (elements.map B4SequenceSubjectElement.elementId) ∧
      payloadBytes + payloadTotal elements ≤ maxSequencePayloadBytes := by
  have hsmall : maxSequencePayloadBytes < 2 ^ 64 := by decide
  induction elements generalizing index ids payloadBytes with
  | nil =>
    simp only [validateElements, pure_ok, List.map_nil]
    exact ⟨fun _ => ⟨fun _ h => (by cases h), fresh_nil ids, hbytes⟩, fun _ => trivial⟩
  | cons element rest ih =>
    simp only [validateElements, bind_ok, exists_unit, mapError_ok, validateFor_ok, ensure_ok,
      context_ok, checkedAdd_eq_some, List.forall_mem_cons, List.map_cons, fresh_cons,
      payloadTotal_cons]
    constructor
    · intro h
      obtain ⟨hfits, hfresh, _, ⟨-, rfl⟩, hle, h⟩ := h
      obtain ⟨hrest, hids, htotal⟩ := (ih hle).mp h
      exact ⟨⟨hfits, hrest⟩, ⟨hfresh, hids⟩, by omega⟩
    · intro h
      obtain ⟨⟨hfits, hrest⟩, ⟨hfresh, hids⟩, htotal⟩ := h
      have hle : payloadBytes + element.bytesHex.length / 2 ≤ maxSequencePayloadBytes := by omega
      exact ⟨hfits, hfresh, _, ⟨by omega, rfl⟩, hle, (ih hle).mpr ⟨hrest, hids, by omega⟩⟩

lemma validate_ok : subject.validate sha256 validateCanonicalJsonSource = .ok () ↔
    Valid sha256 validateCanonicalJsonSource subject := by
  simp only [Eip0045B4SequenceSubjectV1.validate, bind_ok, exists_unit, ensure_ok,
    validateElements_ok (Nat.zero_le _), fresh_start, Nat.zero_add]
  constructor
  · intro h
    obtain ⟨hformat, hcount, hfits, hids, htotal⟩ := h
    exact ⟨hformat, hcount, hfits, hids, htotal⟩
  · intro h
    exact ⟨h.format, h.count, h.fits, h.identifiers, h.bounded⟩

lemma Valid.authentic (h : Valid sha256 validateCanonicalJsonSource subject)
    {element : B4SequenceSubjectElement} (hmem : element ∈ subject.elements) :
    Authentic sha256 element := (h.fits element hmem).authentic

end Subjects

section Size

variable {sha256 : Bytes → Digest} {validateCanonicalJsonSource : Bytes → Except String Unit}
variable {element : B4SequenceSubjectElement} {subject : Eip0045B4SequenceSubjectV1}

lemma Authentic.identifier_length (h : Authentic sha256 element) : element.elementId.length ≤ 128 := by
  have hid := h.identifier
  simp only [validateElementId, bind_ok, exists_unit, ensure_ok] at hid
  exact hid.1.2

lemma quoted_length (text : Bytes) : (quoted text).length = text.length + 2 := by
  rw [quoted, List.length_append, List.length_append, List.length_singleton]
  omega

lemma member_length (name value : Bytes) :
    (member name value).length = name.length + value.length + 3 := by
  rw [member, List.length_append, List.length_append, quoted_length, List.length_singleton]
  omega

lemma Authentic.toCanonicalJson_length (h : Authentic sha256 element) :
    element.toCanonicalJson.length ≤ element.bytesHex.length / 2 * 2 + 234 := by
  have hid := h.identifier_length
  have heven := h.even
  have hsha : element.sha256.length = 64 := by rw [← h.digest, sha256Hex_length]
  have hlength : element.toCanonicalJson.length =
      element.bytesHex.length + element.elementId.length + element.sha256.length + 42 := by
    rw [B4SequenceSubjectElement.toCanonicalJson, object]
    simp only [List.intercalate, List.intersperse, List.flatten_cons, List.flatten_nil,
      List.length_append, List.length_cons, List.length_nil, member_length, quoted_length]
    rw [show (utf8 "bytesHex").length = 8 by decide, show (utf8 "elementId").length = 9 by decide,
      show (utf8 "sha256").length = 6 by decide]
    omega
  omega

lemma intercalate_length_le (separator : UInt8) (parts : List Bytes) :
    (List.intercalate [separator] parts).length ≤ (parts.map fun part => part.length + 1).sum := by
  induction parts with
  | nil => simp [List.intercalate]
  | cons part rest ih =>
    cases rest with
    | nil => simp [List.intercalate]
    | cons next rest =>
      rw [List.intercalate_cons_cons, List.length_append, List.length_append, List.length_singleton,
        List.map_cons, List.sum_cons]
      omega

lemma elements_length (elements : List B4SequenceSubjectElement)
    (h : ∀ element ∈ elements, Authentic sha256 element) :
    ((elements.map (·.toCanonicalJson)).map fun part => part.length + 1).sum ≤
      2 * payloadTotal elements + 235 * elements.length := by
  induction elements with
  | nil => simp [payloadTotal]
  | cons element rest ih =>
    have helement := (h element List.mem_cons_self).toCanonicalJson_length
    have hrest := ih fun other hmem => h other (List.mem_cons_of_mem element hmem)
    rw [List.map_cons, List.map_cons, List.sum_cons, payloadTotal_cons, List.length_cons]
    omega

lemma kind_length (target : B4SequenceTarget) : target.kind.length ≤ 26 := by
  cases target <;> decide

lemma Valid.toCanonicalJson_length (h : Valid sha256 validateCanonicalJsonSource subject) :
    subject.toCanonicalJson.length ≤ maxSequenceSubjectBytes := by
  have helements := elements_length subject.elements fun _ hmem => h.authentic hmem
  have hjoined := intercalate_length_le 44 (subject.elements.map (·.toCanonicalJson))
  have hkind := kind_length subject.target
  have hcount := h.count
  have htotal := h.bounded
  have hlength : subject.toCanonicalJson.length =
      (List.intercalate [44] (subject.elements.map (·.toCanonicalJson))).length +
        subject.format.length + subject.target.kind.length + 54 := by
    rw [Eip0045B4SequenceSubjectV1.toCanonicalJson]
    generalize List.intercalate [44] (subject.elements.map (·.toCanonicalJson)) = joined
    simp only [List.intercalate, object, List.intersperse, List.flatten_cons, List.flatten_nil,
      List.length_append, List.length_cons, List.length_nil, member_length, quoted_length]
    rw [show (utf8 "elements").length = 8 by decide, show (utf8 "format").length = 6 by decide,
      show (utf8 "target").length = 6 by decide, show (utf8 "targetKind").length = 10 by decide]
    omega
  have hformat : subject.format.length = 26 := by
    rw [h.format]
    decide
  rw [hlength]
  simp only [maxSequencePayloadBytes, maxSequenceElements, maxSequenceSubjectBytes] at *
  omega

lemma toCanonicalJcs_ok {bytes : Bytes} :
    subject.toCanonicalJcs sha256 validateCanonicalJsonSource = .ok bytes ↔
      Valid sha256 validateCanonicalJsonSource subject ∧ bytes = subject.toCanonicalJson := by
  simp only [Eip0045B4SequenceSubjectV1.toCanonicalJcs, bind_ok, exists_unit, validate_ok, ensure_ok,
    pure_ok]
  constructor
  · intro h
    exact ⟨h.1, h.2.2.symm⟩
  · intro h
    exact ⟨h.1, h.1.toCanonicalJson_length, h.2.symm⟩

end Size

section Delimited

variable {α : Type} {xs ys rest rest' : List α} {stop : α}

lemma delimited (hx : stop ∉ xs) (hy : stop ∉ ys) (h : xs ++ stop :: rest = ys ++ stop :: rest') :
    xs = ys ∧ rest = rest' := by
  induction xs generalizing ys with
  | nil =>
    cases ys with
    | nil => exact ⟨rfl, List.tail_eq_of_cons_eq h⟩
    | cons y ys =>
      rw [List.nil_append, List.cons_append, List.cons.injEq] at h
      exact absurd (h.1 ▸ List.mem_cons_self) hy
  | cons x xs ih =>
    cases ys with
    | nil =>
      rw [List.nil_append, List.cons_append, List.cons.injEq] at h
      exact absurd (h.1 ▸ List.mem_cons_self) hx
    | cons y ys =>
      rw [List.cons_append, List.cons_append, List.cons.injEq] at h
      obtain ⟨hrest, htail⟩ := ih (fun hmem => hx (List.mem_cons_of_mem x hmem))
        (fun hmem => hy (List.mem_cons_of_mem y hmem)) h.2
      exact ⟨by rw [h.1, hrest], htail⟩

end Delimited

section Elements

variable {sha256 : Bytes → Digest} {validateCanonicalJsonSource : Bytes → Except String Unit}
variable {element element' : B4SequenceSubjectElement} {rest rest' : Bytes}

lemma lower_ne_quote {text : Bytes} (h : ∀ byte ∈ text, Hex.IsLower byte) : (34 : UInt8) ∉ text := by
  intro hmem
  have hlower := h 34 hmem
  revert hlower
  decide

lemma Authentic.unquoted (h : Authentic sha256 element) :
    (34 : UInt8) ∉ element.bytesHex ∧ (34 : UInt8) ∉ element.elementId ∧ (34 : UInt8) ∉ element.sha256 := by
  refine ⟨lower_ne_quote h.lower, ?_, ?_⟩
  · intro hmem
    have hid := h.identifier
    simp only [validateElementId, bind_ok, exists_unit, ensure_ok] at hid
    have hquote := hid.2.1 34 hmem
    revert hquote
    decide
  · rw [← h.digest]
    exact lower_ne_quote (Hex.encode_isLower _)

def opening (name : Bytes) : Bytes := quoted name ++ [58, 34]

lemma element_text (element : B4SequenceSubjectElement) (rest : Bytes) : element.toCanonicalJson ++ rest =
    (123 :: opening (utf8 "bytesHex")) ++ (element.bytesHex ++ 34 :: ((44 :: opening (utf8 "elementId")) ++
      (element.elementId ++ 34 :: ((44 :: opening (utf8 "sha256")) ++
        (element.sha256 ++ 34 :: 125 :: rest))))) := by
  simp only [B4SequenceSubjectElement.toCanonicalJson, object, member, quoted, opening, List.intercalate,
    List.intersperse, List.flatten_cons, List.flatten_nil, List.append_assoc, List.cons_append,
    List.nil_append, List.append_nil]

lemma element_unique (h : Authentic sha256 element) (h' : Authentic sha256 element')
    (htext : element.toCanonicalJson ++ rest = element'.toCanonicalJson ++ rest') :
    element = element' ∧ rest = rest' := by
  obtain ⟨hhex, hid, hsha⟩ := h.unquoted
  obtain ⟨hhex', hid', hsha'⟩ := h'.unquoted
  rw [element_text, element_text] at htext
  obtain ⟨hfirst, htext⟩ := delimited hhex hhex' (List.append_cancel_left htext)
  obtain ⟨hsecond, htext⟩ := delimited hid hid' (List.append_cancel_left htext)
  obtain ⟨hthird, hrest⟩ := delimited hsha hsha' (List.append_cancel_left htext)
  refine ⟨?_, List.tail_eq_of_cons_eq hrest⟩
  cases element
  cases element'
  simp only at hfirst hsecond hthird
  rw [hfirst, hsecond, hthird]

/-- The elements of an array up to its closing bracket. -/
def arrayText (elements : List B4SequenceSubjectElement) (rest : Bytes) : Bytes :=
  List.intercalate [44] (elements.map (·.toCanonicalJson)) ++ 93 :: rest

lemma arrayText_cons (element : B4SequenceSubjectElement) (elements : List B4SequenceSubjectElement)
    (rest : Bytes) : arrayText (element :: elements) rest = element.toCanonicalJson ++
      if elements = [] then 93 :: rest else 44 :: arrayText elements rest := by
  cases elements with
  | nil => simp [arrayText, List.intercalate]
  | cons next elements =>
    rw [arrayText, List.map_cons, List.map_cons, List.intercalate_cons_cons, if_neg (by simp)]
    simp [arrayText]

lemma toCanonicalJson_cons (element : B4SequenceSubjectElement) :
    ∃ tail, element.toCanonicalJson = 123 :: tail := ⟨_, rfl⟩

lemma elements_unique {elements elements' : List B4SequenceSubjectElement}
    (h : ∀ element ∈ elements, Authentic sha256 element)
    (h' : ∀ element ∈ elements', Authentic sha256 element)
    (htext : arrayText elements rest = arrayText elements' rest') : elements = elements' ∧ rest = rest' := by
  induction elements generalizing elements' with
  | nil =>
    cases elements' with
    | nil => exact ⟨rfl, List.tail_eq_of_cons_eq htext⟩
    | cons element' elements' =>
      obtain ⟨tail, htail⟩ := toCanonicalJson_cons element'
      rw [arrayText_cons, htail] at htext
      cases htext
  | cons element elements ih =>
    cases elements' with
    | nil =>
      obtain ⟨tail, htail⟩ := toCanonicalJson_cons element
      rw [arrayText_cons, htail] at htext
      cases htext
    | cons element' elements' =>
      rw [arrayText_cons, arrayText_cons] at htext
      obtain ⟨hfirst, htail⟩ := element_unique (h element List.mem_cons_self)
        (h' element' List.mem_cons_self) htext
      by_cases hnil : elements = [] <;> by_cases hnil' : elements' = []
      · rw [if_pos hnil, if_pos hnil'] at htail
        rw [hfirst, hnil, hnil']
        exact ⟨rfl, List.tail_eq_of_cons_eq htail⟩
      · rw [if_pos hnil, if_neg hnil'] at htail
        cases htail
      · rw [if_neg hnil, if_pos hnil'] at htail
        cases htail
      · rw [if_neg hnil, if_neg hnil'] at htail
        obtain ⟨heq, hrest⟩ := ih (fun other hmem => h other (List.mem_cons_of_mem _ hmem))
          (fun other hmem => h' other (List.mem_cons_of_mem _ hmem)) (List.tail_eq_of_cons_eq htail)
        exact ⟨by rw [hfirst, heq], hrest⟩

end Elements

section Subjects

variable {sha256 : Bytes → Digest} {validateCanonicalJsonSource : Bytes → Except String Unit}
variable {subject subject' : Eip0045B4SequenceSubjectV1}

/-- What stands between the elements and the target kind of a subject. -/
def middle : Bytes := 44 :: opening (utf8 "format") ++ b4SequenceSubjectFormat ++
  34 :: 44 :: quoted (utf8 "target") ++ 58 :: 123 :: opening (utf8 "targetKind")

lemma subject_text (h : Valid sha256 validateCanonicalJsonSource subject) : subject.toCanonicalJson =
    (123 :: quoted (utf8 "elements") ++ [58, 91]) ++
      arrayText subject.elements (middle ++ (subject.target.kind ++ [34, 125, 125])) := by
  rw [Eip0045B4SequenceSubjectV1.toCanonicalJson, h.format, arrayText]
  generalize List.intercalate [44] (subject.elements.map (·.toCanonicalJson)) = joined
  simp only [object, member, middle, quoted, opening, List.intercalate,
    List.intersperse, List.flatten_cons, List.flatten_nil, List.append_assoc, List.cons_append,
    List.nil_append, List.append_nil]

lemma kind_injective : Function.Injective B4SequenceTarget.kind := by
  intro target target'
  cases target <;> cases target' <;> decide

/-- Valid subjects with one canonical text are one subject. -/
theorem subject_unique (h : Valid sha256 validateCanonicalJsonSource subject)
    (h' : Valid sha256 validateCanonicalJsonSource subject')
    (htext : subject.toCanonicalJson = subject'.toCanonicalJson) : subject = subject' := by
  rw [subject_text h, subject_text h'] at htext
  obtain ⟨helements, hrest⟩ := elements_unique (fun _ hmem => h.authentic hmem)
    (fun _ hmem => h'.authentic hmem) (List.append_cancel_left htext)
  have htarget := kind_injective (List.append_cancel_right (List.append_cancel_left hrest))
  have hformat := h.format.trans h'.format.symm
  cases subject
  cases subject'
  simp only at helements htarget hformat
  rw [helements, htarget, hformat]

end Subjects

end Eip0045.SequenceSubject
