import Mathlib
import Eip0045.Mutation.SequenceEdits

/-! What a replayed sequence edit changes, and what it keeps. -/

namespace Eip0045.Mutation

open Bytes Checked SequenceSubject

section Operations

variable {sha256 : Bytes → Digest} {validateCanonicalJsonSource : Bytes → Except String Unit}
variable {subject edited : Eip0045B4SequenceSubjectV1} {target : B4SequenceTarget}
variable {elements : List B4SequenceSubjectElement} {element : B4SequenceSubjectElement}

/-- The element that stands at an index carries the identifier and the digest of a witness. -/
def Stands (elements : List B4SequenceSubjectElement) (index : ℕ) (elementId elementSha256 : Bytes)
    (element : B4SequenceSubjectElement) : Prop :=
  elements[index]? = some element ∧ element.elementId = elementId ∧ element.sha256 = elementSha256

lemma checkedIndex_ok {value n : ℕ} {label : String} :
    checkedIndex value label = .ok n ↔ value < 2 ^ 64 ∧ n = value := by
  simp only [checkedIndex, bind_ok, exists_unit, ensure_ok, pure_ok]
  exact ⟨fun h => ⟨h.1, h.2.symm⟩, fun h => ⟨h.1, h.2.symm⟩⟩

lemma witnessedElement_ok {index : ℕ} {elementId elementSha256 : Bytes} {action : String} :
    witnessedElement sha256 elements index elementId elementSha256 action = .ok element ↔
      index < 2 ^ 64 ∧ Stands elements index elementId elementSha256 element ∧
        Authentic sha256 element := by
  simp only [witnessedElement, authenticateElement, bind_ok, exists_unit, checkedIndex_ok, context_ok,
    ensure_ok, decodedBytes_ok, pure_ok, Stands]
  constructor
  · intro h
    obtain ⟨_, ⟨hindex, rfl⟩, _, hat, ⟨hid, hsha, _, ⟨hauthentic, -⟩, -⟩, rfl⟩ := h
    exact ⟨hindex, ⟨hat, hid, hsha⟩, hauthentic⟩
  · intro h
    obtain ⟨hindex, ⟨hat, hid, hsha⟩, hauthentic⟩ := h
    exact ⟨_, ⟨hindex, rfl⟩, _, hat, ⟨hid, hsha, _, ⟨hauthentic, rfl⟩, trivial⟩, rfl⟩

lemma apply_insert_ok {inserted : B4SequenceSubjectElement} {index : ℕ} :
    applySequenceOperation sha256 validateCanonicalJsonSource subject target (.insert inserted index) =
        .ok edited ↔
      index < 2 ^ 64 ∧ index ≤ subject.elements.length ∧
        Fits sha256 validateCanonicalJsonSource target inserted ∧
        edited = { subject with elements := subject.elements.insertIdx index inserted } := by
  simp only [applySequenceOperation, bind_ok, exists_unit, checkedIndex_ok, ensure_ok, validateFor_ok,
    pure_ok]
  constructor
  · intro h
    obtain ⟨_, ⟨hindex, rfl⟩, hle, hfits, rfl⟩ := h
    exact ⟨hindex, hle, hfits, rfl⟩
  · intro h
    obtain ⟨hindex, hle, hfits, rfl⟩ := h
    exact ⟨_, ⟨hindex, rfl⟩, hle, hfits, rfl⟩

lemma apply_move_ok {id sha : Bytes} {fromIndex toIndex : ℕ} :
    applySequenceOperation sha256 validateCanonicalJsonSource subject target
        (.move id sha fromIndex toIndex) = .ok edited ↔
      fromIndex < 2 ^ 64 ∧ toIndex < 2 ^ 64 ∧ toIndex < subject.elements.length ∧
        ∃ element, Stands subject.elements fromIndex id sha element ∧ Authentic sha256 element ∧
          edited = { subject with
            elements := (subject.elements.eraseIdx fromIndex).insertIdx toIndex element } := by
  simp only [applySequenceOperation, bind_ok, exists_unit, checkedIndex_ok, ensure_ok,
    witnessedElement_ok, pure_ok]
  constructor
  · intro h
    obtain ⟨element, ⟨hfrom, hstands, hauthentic⟩, _, ⟨hto, rfl⟩, hle, rfl⟩ := h
    obtain ⟨hlt, -⟩ := List.getElem?_eq_some_iff.mp hstands.1
    rw [List.length_eraseIdx_of_lt hlt] at hle
    exact ⟨hfrom, hto, by omega, element, hstands, hauthentic, rfl⟩
  · intro h
    obtain ⟨hfrom, hto, hlt', element, hstands, hauthentic, rfl⟩ := h
    obtain ⟨hlt, -⟩ := List.getElem?_eq_some_iff.mp hstands.1
    refine ⟨element, ⟨hfrom, hstands, hauthentic⟩, _, ⟨hto, rfl⟩, ?_, rfl⟩
    rw [List.length_eraseIdx_of_lt hlt]
    omega

lemma apply_omit_ok {id sha : Bytes} {index : ℕ} :
    applySequenceOperation sha256 validateCanonicalJsonSource subject target (.omit id sha index) =
        .ok edited ↔
      index < 2 ^ 64 ∧ (∃ element, Stands subject.elements index id sha element ∧
        Authentic sha256 element) ∧
        edited = { subject with elements := subject.elements.eraseIdx index } := by
  simp only [applySequenceOperation, bind_ok, witnessedElement_ok, pure_ok]
  constructor
  · intro h
    obtain ⟨element, ⟨hindex, hstands⟩, rfl⟩ := h
    exact ⟨hindex, ⟨element, hstands⟩, rfl⟩
  · intro h
    obtain ⟨hindex, ⟨element, hstands⟩, rfl⟩ := h
    exact ⟨element, ⟨hindex, hstands⟩, rfl⟩

lemma apply_replace_ok {id sha : Bytes} {index : ℕ} {replacement : B4SequenceSubjectElement} :
    applySequenceOperation sha256 validateCanonicalJsonSource subject target
        (.replace id sha index replacement) = .ok edited ↔
      index < 2 ^ 64 ∧ (∃ element, Stands subject.elements index id sha element ∧
        Authentic sha256 element) ∧ Fits sha256 validateCanonicalJsonSource target replacement ∧
        edited = { subject with elements := subject.elements.set index replacement } := by
  simp only [applySequenceOperation, bind_ok, exists_unit, witnessedElement_ok, validateFor_ok, pure_ok]
  constructor
  · intro h
    obtain ⟨element, ⟨hindex, hstands⟩, hfits, rfl⟩ := h
    exact ⟨hindex, ⟨element, hstands⟩, hfits, rfl⟩
  · intro h
    obtain ⟨hindex, ⟨element, hstands⟩, hfits, rfl⟩ := h
    exact ⟨element, ⟨hindex, hstands⟩, hfits, rfl⟩

end Operations

section Payloads

variable {sha256 : Bytes → Digest} {validateCanonicalJsonSource : Bytes → Except String Unit}

def payloads (elements : List B4SequenceSubjectElement) : List Bytes :=
  elements.map B4SequenceSubjectElement.payload

lemma decodedElementPayloads_ok {elements : List B4SequenceSubjectElement} {decoded : List Bytes} :
    decodedElementPayloads sha256 elements = .ok decoded ↔
      (∀ element ∈ elements, Authentic sha256 element) ∧ decoded = payloads elements :=
  mapM_ok fun _ _ => decodedBytes_ok

lemma appendPayload_ok {output next : Bytes} {element : B4SequenceSubjectElement}
    (h : appendPayload sha256 output element = .ok next) : next = output ++ element.payload := by
  simp only [appendPayload, bind_ok, decodedBytes_ok, pure_ok] at h
  obtain ⟨_, ⟨-, rfl⟩, _, -, rfl⟩ := h
  rfl

lemma foldlM_appendPayload {elements : List B4SequenceSubjectElement} {output concat : Bytes}
    (h : elements.foldlM (appendPayload sha256) output = .ok concat) :
    concat = output ++ (payloads elements).flatten := by
  induction elements generalizing output with
  | nil =>
    rw [List.foldlM_nil, pure_ok] at h
    rw [← h, payloads, List.map_nil, List.flatten_nil, List.append_nil]
  | cons element rest ih =>
    rw [List.foldlM_cons, bind_ok] at h
    obtain ⟨next, hnext, h⟩ := h
    rw [ih h, appendPayload_ok hnext, List.append_assoc]
    rfl

lemma concatenatedPayload_ok {elements : List B4SequenceSubjectElement} {concat : Bytes}
    (h : concatenatedPayload sha256 elements = .ok concat) : concat = (payloads elements).flatten :=
  foldlM_appendPayload h

end Payloads

section Boundaries

variable {sha256 : Bytes → Digest} {validateCanonicalJsonSource : Bytes → Except String Unit}
variable {subject edited : Eip0045B4SequenceSubjectV1} {element next : B4SequenceSubjectElement}

/-- `n` bytes cross the boundary between two chunks, and the donor keeps some. -/
def Crossed (n : ℕ) (left right left' right' : Bytes) : B4BoundaryShiftDirection → Prop
  | .leftToRight =>
    left' ≠ [] ∧ ∃ moved, moved.length = n ∧ left = left' ++ moved ∧ right' = moved ++ right
  | .rightToLeft =>
    right' ≠ [] ∧ ∃ moved, moved.length = n ∧ right = moved ++ right' ∧ left' = left ++ moved

/-- Two neighbours exchange `n` bytes, and nothing else changes. -/
structure Shifted (base output : List B4SequenceSubjectElement) (left n : ℕ)
    (direction : B4BoundaryShiftDirection) : Prop where
  count : output.length = base.length
  identifiers : output.map B4SequenceSubjectElement.elementId =
    base.map B4SequenceSubjectElement.elementId
  others : ∀ i, i ≠ left → i ≠ left + 1 → output[i]? = base[i]?
  concatenation : (payloads output).flatten = (payloads base).flatten
  chunks : ∃ l r l' r', base[left]? = some l ∧ base[left + 1]? = some r ∧
    output[left]? = some l' ∧ output[left + 1]? = some r' ∧
    Crossed n l.payload r.payload l'.payload r'.payload direction

lemma withBytes_ok {target : B4SequenceTarget} {bytes : Bytes}
    (h : B4SequenceSubjectElement.withBytes sha256 validateCanonicalJsonSource element target bytes =
      .ok next) : next.elementId = element.elementId ∧ next.payload = bytes := by
  simp only [B4SequenceSubjectElement.withBytes, B4SequenceSubjectElement.fromBytes, bind_ok,
    exists_unit, pure_ok] at h
  obtain ⟨_, ⟨-, rfl⟩, -, rfl⟩ := h
  refine ⟨rfl, ?_⟩
  rw [B4SequenceSubjectElement.payload, Hex.decode_encode, Option.getD_some]

lemma shiftedChunks_ok {left right : Bytes} {count : ℕ} {direction : B4BoundaryShiftDirection}
    {shifted : Bytes × Bytes} (h : shiftedChunks left right count direction = .ok shifted) :
    Crossed count left right shifted.1 shifted.2 direction := by
  cases direction with
  | leftToRight =>
    simp only [shiftedChunks, bind_ok, exists_unit, ensure_ok, pure_ok] at h
    obtain ⟨hlt, rfl⟩ := h
    refine ⟨?_, left.drop (left.length - count), ?_, (List.take_append_drop _ _).symm, rfl⟩
    · rw [← List.length_pos_iff, List.length_take]
      omega
    · rw [List.length_drop]
      omega
  | rightToLeft =>
    simp only [shiftedChunks, bind_ok, exists_unit, ensure_ok, pure_ok] at h
    obtain ⟨hlt, rfl⟩ := h
    refine ⟨?_, right.take count, ?_, (List.take_append_drop _ _).symm, rfl⟩
    · rw [← List.length_pos_iff, List.length_drop]
      omega
    · rw [List.length_take]
      omega

lemma map_set_same {α β : Type} {f : α → β} {xs : List α} {i : ℕ} {x y : α} (h : xs[i]? = some x)
    (hf : f y = f x) : (xs.set i y).map f = xs.map f := by
  rw [List.map_set, hf]
  apply List.ext_getElem?
  intro j
  rw [List.getElem?_set]
  split
  · subst j
    rw [List.getElem?_map, h]
    obtain ⟨hlt, -⟩ := List.getElem?_eq_some_iff.mp h
    rw [List.length_map, if_pos hlt]
    rfl
  · rfl

lemma shiftBoundary_shifted {left n : ℕ} {direction : B4BoundaryShiftDirection}
    (h : shiftBoundary sha256 validateCanonicalJsonSource subject left n direction = .ok edited) :
    subject.target = .proofChunks ∧ edited.target = subject.target ∧
      Shifted subject.elements edited.elements left n direction := by
  simp only [shiftBoundary, bind_ok, exists_unit, ensure_ok, checkedIndex_ok, context_ok,
    checkedAdd_eq_some, decodedBytes_ok, pure_ok] at h
  obtain ⟨htarget, left, ⟨-, rfl⟩, _, ⟨-, rfl⟩, r, hr, l, hl, _, ⟨-, rfl⟩, original, horiginal, _,
    ⟨-, rfl⟩, _, ⟨-, rfl⟩, shifted, hshifted, l', hl', r', hr', hcount, concat, hconcat, hsame, rfl⟩ := h
  obtain ⟨hlid, hlpayload⟩ := withBytes_ok hl'
  obtain ⟨hrid, hrpayload⟩ := withBytes_ok hr'
  have hcrossed := shiftedChunks_ok hshifted
  obtain ⟨hllt, -⟩ := List.getElem?_eq_some_iff.mp hl
  obtain ⟨hrlt, -⟩ := List.getElem?_eq_some_iff.mp hr
  have hnext : (subject.elements.set left l')[left + 1]? = some r := by
    rw [List.getElem?_set_ne (by omega), hr]
  refine ⟨htarget, rfl, hcount, ?_, ?_, ?_, l, r, l', r', hl, hr, ?_, ?_, ?_⟩
  · rw [map_set_same hnext hrid, map_set_same hl hlid]
  · intro i hi hi'
    rw [List.getElem?_set_ne (Ne.symm hi'), List.getElem?_set_ne (Ne.symm hi)]
  · rw [← concatenatedPayload_ok hconcat, hsame, concatenatedPayload_ok horiginal]
  · rw [List.getElem?_set_ne (by omega), List.getElem?_set_self hllt]
  · rw [List.getElem?_set_self (by rwa [List.length_set])]
  · rwa [hlpayload, hrpayload]

end Boundaries

section Replay

variable {sha256 : Bytes → Digest} {validateCanonicalJsonSource : Bytes → Except String Unit}
variable {parser : SubjectParser sha256 validateCanonicalJsonSource}
variable {subject edited : Eip0045B4SequenceSubjectV1} {target : B4SequenceTarget}
variable {operation : B4SequenceOperation} {base out : Bytes}

lemma toCanonicalJson_injective (parser : SubjectParser sha256 validateCanonicalJsonSource)
    (hsubject : Valid sha256 validateCanonicalJsonSource subject)
    (hedited : Valid sha256 validateCanonicalJsonSource edited)
    (h : edited.toCanonicalJson = subject.toCanonicalJson) : edited = subject := by
  have hread := parser.reads subject (validate_ok.mpr hsubject)
  rw [← h, parser.reads edited (validate_ok.mpr hedited)] at hread
  exact Except.ok.inj hread

lemma fromCanonicalJcs_ok :
    fromCanonicalJcs sha256 validateCanonicalJsonSource parser base = .ok subject ↔
      Valid sha256 validateCanonicalJsonSource subject ∧ base = subject.toCanonicalJson := by
  simp only [fromCanonicalJcs, bind_ok, exists_unit, ensure_ok, validate_ok, toCanonicalJcs_ok, pure_ok]
  constructor
  · intro h
    obtain ⟨-, _, -, hvalid, _, ⟨-, rfl⟩, hsame, rfl⟩ := h
    exact ⟨hvalid, hsame.symm⟩
  · intro h
    obtain ⟨hvalid, rfl⟩ := h
    exact ⟨hvalid.toCanonicalJson_length, _, parser.reads _ (validate_ok.mpr hvalid), hvalid, _,
      ⟨hvalid, rfl⟩, rfl, rfl⟩

lemma reconstructSequenceEdit_ok :
    reconstructSequenceEdit sha256 validateCanonicalJsonSource parser base target operation = .ok out ↔
      validateSequenceOperation sha256 validateCanonicalJsonSource target operation = .ok () ∧
      ∃ subject edited, Valid sha256 validateCanonicalJsonSource subject ∧
        base = subject.toCanonicalJson ∧ subject.target = target ∧
        applySequenceOperation sha256 validateCanonicalJsonSource subject target operation =
          .ok edited ∧ Valid sha256 validateCanonicalJsonSource edited ∧
        payloads edited.elements ≠ payloads subject.elements ∧ out = edited.toCanonicalJson := by
  simp only [reconstructSequenceEdit, bind_ok, exists_unit, ensure_ok, fromCanonicalJcs_ok,
    decodedElementPayloads_ok, validate_ok, toCanonicalJcs_ok, pure_ok]
  constructor
  · intro h
    obtain ⟨hoperation, subject, ⟨hvalid, rfl⟩, htarget, _, ⟨-, rfl⟩, edited, happly, hedited, _,
      ⟨-, rfl⟩, hne, _, ⟨-, rfl⟩, -, rfl⟩ := h
    exact ⟨hoperation, subject, edited, hvalid, rfl, htarget, happly, hedited, hne, rfl⟩
  · intro h
    obtain ⟨hoperation, subject, edited, hvalid, rfl, htarget, happly, hedited, hne, rfl⟩ := h
    refine ⟨hoperation, subject, ⟨hvalid, rfl⟩, htarget, _, ⟨fun _ hmem => hvalid.authentic hmem, rfl⟩,
      edited, happly, hedited, _, ⟨fun _ hmem => hedited.authentic hmem, rfl⟩, hne, _, ⟨hedited, rfl⟩,
      ?_, rfl⟩
    intro hsame
    rw [toCanonicalJson_injective parser hvalid hedited hsame] at hne
    exact hne rfl

/-- What an operation makes of a list of elements. -/
def Edited (target : B4SequenceTarget) (base output : List B4SequenceSubjectElement) :
    B4SequenceOperation → Prop
  | .empty => target = .proofChunks ∧ base ≠ [] ∧ output = []
  | .insert insertedElement index =>
    index ≤ base.length ∧ output = base.take index ++ insertedElement :: base.drop index
  | .move beforeElementId beforeElementSha256 fromIndex toIndex =>
    ∃ element, Stands base fromIndex beforeElementId beforeElementSha256 element ∧
      output[toIndex]? = some element ∧ output.eraseIdx toIndex = base.eraseIdx fromIndex ∧
      output.Perm base
  | .omit beforeElementId beforeElementSha256 index =>
    (∃ element, Stands base index beforeElementId beforeElementSha256 element) ∧
      output = base.take index ++ base.drop (index + 1)
  | .replace beforeElementId beforeElementSha256 index replacementElement =>
    (∃ element, Stands base index beforeElementId beforeElementSha256 element) ∧
      output = base.take index ++ replacementElement :: base.drop (index + 1)
  | .shiftBoundary byteCount direction leftChunkIndex =>
    target = .proofChunks ∧ Shifted base output leftChunkIndex byteCount direction

lemma insertIdx_split {α : Type} (xs : List α) (x : α) {index : ℕ} (h : index ≤ xs.length) :
    xs.insertIdx index x = xs.take index ++ x :: xs.drop index := by
  induction xs generalizing index with
  | nil =>
    obtain rfl : index = 0 := by simpa using h
    rfl
  | cons y ys ih =>
    cases index with
    | zero => rfl
    | succ index =>
      rw [List.insertIdx_succ_cons, ih (by simpa using h)]
      rfl

lemma moved {α : Type} {xs : List α} {x : α} {fromIndex toIndex : ℕ} (h : xs[fromIndex]? = some x)
    (hto : toIndex < xs.length) :
    ((xs.eraseIdx fromIndex).insertIdx toIndex x)[toIndex]? = some x ∧
      ((xs.eraseIdx fromIndex).insertIdx toIndex x).eraseIdx toIndex = xs.eraseIdx fromIndex ∧
      ((xs.eraseIdx fromIndex).insertIdx toIndex x).Perm xs := by
  obtain ⟨hlt, hx⟩ := List.getElem?_eq_some_iff.mp h
  have hle : toIndex ≤ (xs.eraseIdx fromIndex).length := by
    rw [List.length_eraseIdx_of_lt hlt]
    omega
  refine ⟨?_, List.eraseIdx_insertIdx_self x, ?_⟩
  · rw [List.getElem?_insertIdx_self, if_pos hle]
  · apply (List.perm_insertIdx x _ hle).trans
    rw [← hx]
    exact List.getElem_cons_eraseIdx_perm hlt

lemma applySequenceOperation_edited (htarget : subject.target = target)
    (hoperation : validateSequenceOperation sha256 validateCanonicalJsonSource target operation = .ok ())
    (h : applySequenceOperation sha256 validateCanonicalJsonSource subject target operation =
      .ok edited) :
    edited.target = target ∧ Edited target subject.elements edited.elements operation := by
  cases operation with
  | empty =>
    simp only [applySequenceOperation, bind_ok, exists_unit, ensure_ok, pure_ok] at h
    obtain ⟨hne, rfl⟩ := h
    exact ⟨htarget, ensure_ok.mp hoperation, hne, rfl⟩
  | insert insertedElement index =>
    obtain ⟨-, hle, -, rfl⟩ := apply_insert_ok.mp h
    exact ⟨htarget, hle, insertIdx_split _ _ hle⟩
  | move beforeElementId beforeElementSha256 fromIndex toIndex =>
    obtain ⟨-, -, hto, element, hstands, -, rfl⟩ := apply_move_ok.mp h
    exact ⟨htarget, element, hstands, moved hstands.1 hto⟩
  | «omit» beforeElementId beforeElementSha256 index =>
    obtain ⟨-, ⟨element, hstands, -⟩, rfl⟩ := apply_omit_ok.mp h
    exact ⟨htarget, ⟨element, hstands⟩, List.eraseIdx_eq_take_drop_succ _ _⟩
  | replace beforeElementId beforeElementSha256 index replacementElement =>
    obtain ⟨-, ⟨element, hstands, -⟩, -, rfl⟩ := apply_replace_ok.mp h
    obtain ⟨hlt, -⟩ := List.getElem?_eq_some_iff.mp hstands.1
    exact ⟨htarget, ⟨element, hstands⟩, List.set_eq_take_append_cons_drop.trans (if_pos hlt)⟩
  | shiftBoundary byteCount direction leftChunkIndex =>
    obtain ⟨hchunks, hsame, hshifted⟩ := shiftBoundary_shifted h
    exact ⟨hsame.trans htarget, htarget.symm.trans hchunks, hshifted⟩

end Replay

section Undoing

variable {sha256 : Bytes → Digest} {validateCanonicalJsonSource : Bytes → Except String Unit}
variable {parser : SubjectParser sha256 validateCanonicalJsonSource}

lemma moved_back {α : Type} {xs : List α} {x : α} {fromIndex toIndex : ℕ}
    (h : xs[fromIndex]? = some x) :
    ((((xs.eraseIdx fromIndex).insertIdx toIndex x).eraseIdx toIndex).insertIdx fromIndex x) = xs := by
  obtain ⟨hlt, hx⟩ := List.getElem?_eq_some_iff.mp h
  rw [List.eraseIdx_insertIdx_self, ← hx, List.insertIdx_eraseIdx_getElem hlt]

lemma reverse_move {id sha : Bytes} {fromIndex toIndex : ℕ} {base out : Bytes}
    {target : B4SequenceTarget}
    (h : reconstructSequenceEdit sha256 validateCanonicalJsonSource parser base target
      (.move id sha fromIndex toIndex) = .ok out) :
    reconstructSequenceEdit sha256 validateCanonicalJsonSource parser out target
      (.move id sha toIndex fromIndex) = .ok base := by
  obtain ⟨hoperation, subject, edited, hvalid, rfl, htarget, happly, hedited, hne, rfl⟩ :=
    reconstructSequenceEdit_ok.mp h
  obtain ⟨hfrom, hto, hlt', element, hstands, hauthentic, rfl⟩ := apply_move_ok.mp happly
  obtain ⟨hat, -, hperm⟩ := moved hstands.1 hlt'
  obtain ⟨hlt, -⟩ := List.getElem?_eq_some_iff.mp hstands.1
  refine reconstructSequenceEdit_ok.mpr ⟨?_, _, subject, hedited, rfl, htarget,
    apply_move_ok.mpr ⟨hto, hfrom, ?_, element, ⟨hat, hstands.2⟩, hauthentic, ?_⟩, hvalid, hne.symm, rfl⟩
  · simp only [validateSequenceOperation, bind_ok, exists_unit, validateJcsSafeInteger, ensure_ok]
      at hoperation ⊢
    obtain ⟨hwitness, hfrom, hto, hne⟩ := hoperation
    exact ⟨hwitness, hto, hfrom, hne.symm⟩
  · rwa [hperm.length_eq]
  · rw [moved_back hstands.1]

end Undoing

section Exactness

variable (sha256 : Bytes → Digest) (validateCanonicalJsonSource : Bytes → Except String Unit)
variable (parser : SubjectParser sha256 validateCanonicalJsonSource)

/-- A replayed edit gives a valid subject with other payloads, changed exactly as its operation says.
The reverse of a move restores the base. -/
theorem sequence_edits_exact :
    (∀ base target operation out,
      reconstructSequenceEdit sha256 validateCanonicalJsonSource parser base target operation = .ok out →
      ∃ subject edited,
        fromCanonicalJcs sha256 validateCanonicalJsonSource parser base = .ok subject ∧
        fromCanonicalJcs sha256 validateCanonicalJsonSource parser out = .ok edited ∧
        subject.target = target ∧ edited.target = target ∧
        Valid sha256 validateCanonicalJsonSource edited ∧
        payloads edited.elements ≠ payloads subject.elements ∧
        Edited target subject.elements edited.elements operation) ∧
    ∀ base target id sha fromIndex toIndex out,
      reconstructSequenceEdit sha256 validateCanonicalJsonSource parser base target
        (.move id sha fromIndex toIndex) = .ok out →
      reconstructSequenceEdit sha256 validateCanonicalJsonSource parser out target
        (.move id sha toIndex fromIndex) = .ok base := by
  constructor
  · intro base target operation out h
    obtain ⟨hoperation, subject, edited, hvalid, rfl, htarget, happly, hedited, hne, rfl⟩ :=
      reconstructSequenceEdit_ok.mp h
    obtain ⟨hsame, hexact⟩ := applySequenceOperation_edited htarget hoperation happly
    exact ⟨subject, edited, fromCanonicalJcs_ok.mpr ⟨hvalid, rfl⟩, fromCanonicalJcs_ok.mpr ⟨hedited, rfl⟩,
      htarget, hsame, hedited, hne, hexact⟩
  · intro base target id sha fromIndex toIndex out h
    exact reverse_move h

end Exactness

end Eip0045.Mutation
