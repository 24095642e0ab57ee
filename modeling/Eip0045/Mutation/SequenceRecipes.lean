import Mathlib
import Eip0045.Mutation.SequenceExact

/-! The sequence edit that takes a base to an output, and its agreement with the replay. -/

namespace Eip0045.Mutation

open Bytes Checked SequenceSubject

section Derivation

inductive SequenceChangeKind
  | insert | move | omit | replace

variable (base output : List B4SequenceSubjectElement)

/-- The element at an index whose removal from the longer list leaves the shorter one. -/
def removedAt (longer shorter : List B4SequenceSubjectElement) (index : ℕ) :
    Option (ℕ × B4SequenceSubjectElement) :=
  longer[index]?.bind fun element =>
    if longer.eraseIdx index = shorter then some (index, element) else none

def deriveSequenceInsert : Except String B4SequenceOperation := do
  ensure (output.length = base.length + 1) "sequence insertion does not add exactly one element"
  let found ← context "sequence insertion cannot reconstruct the observed projection"
    ((List.range output.length).findSome? (removedAt output base))
  ensure (found.1 < 2 ^ 64) "sequence insertion index exceeds u64"
  pure (.insert found.2 found.1)

def deriveSequenceOmit : Except String B4SequenceOperation := do
  ensure (base.length = output.length + 1) "sequence omission does not remove exactly one element"
  let found ← context "sequence omission cannot reconstruct the observed projection"
    ((List.range base.length).findSome? (removedAt base output))
  ensure (found.1 < 2 ^ 64) "sequence omission index exceeds u64"
  pure (.omit found.2.elementId found.2.sha256 found.1)

/-- The element whose move between two indices gives the output. -/
def movedAt (indices : ℕ × ℕ) : Option ((ℕ × ℕ) × B4SequenceSubjectElement) :=
  if indices.1 = indices.2 then none
  else base[indices.1]?.bind fun element =>
    if (base.eraseIdx indices.1).insertIdx indices.2 element = output then some (indices, element)
    else none

def deriveSequenceMove : Except String B4SequenceOperation := do
  ensure (base.length = output.length) "sequence move changes the element count"
  let found ← context "sequence move cannot reconstruct the observed projection"
    ((List.range base.length ×ˢ List.range base.length).findSome? (movedAt base output))
  ensure (found.1.1 < 2 ^ 64) "sequence move source index exceeds u64"
  ensure (found.1.2 < 2 ^ 64) "sequence move target index exceeds u64"
  pure (.move found.2.elementId found.2.sha256 found.1.1 found.1.2)

/-- The positions, counted from `start`, at which the two lists differ, with both elements. -/
def changed (start : ℕ) : List ((B4SequenceSubjectElement × B4SequenceSubjectElement) × ℕ) :=
  ((base.zip output).zipIdx start).filter fun item => item.1.1 ≠ item.1.2

def onlyChange : List ((B4SequenceSubjectElement × B4SequenceSubjectElement) × ℕ) →
    Except String ((B4SequenceSubjectElement × B4SequenceSubjectElement) × ℕ)
  | [item] => .ok item
  | _ => .error "sequence replacement does not isolate exactly one element"

def deriveSequenceReplace : Except String B4SequenceOperation := do
  ensure (base.length = output.length) "sequence replacement changes the element count"
  let item ← onlyChange (changed base output 0)
  ensure (item.2 < 2 ^ 64) "sequence replacement index exceeds u64"
  pure (.replace item.1.1.elementId item.1.1.sha256 item.2 item.1.2)

def deriveSequenceOperation : SequenceChangeKind → Except String B4SequenceOperation
  | .insert => deriveSequenceInsert base output
  | .move => deriveSequenceMove base output
  | .omit => deriveSequenceOmit base output
  | .replace => deriveSequenceReplace base output

end Derivation

section Steps

variable {base output : List B4SequenceSubjectElement}

/-- One step of a kind, which its operation describes. -/
def Describes (base output : List B4SequenceSubjectElement) (operation : B4SequenceOperation) :
    SequenceChangeKind → Prop
  | .insert => ∃ index element, index ≤ base.length ∧ output = base.insertIdx index element ∧
    operation = .insert element index
  | .move => ∃ fromIndex toIndex element, fromIndex ≠ toIndex ∧ base[fromIndex]? = some element ∧
    toIndex < base.length ∧ output = (base.eraseIdx fromIndex).insertIdx toIndex element ∧
    operation = .move element.elementId element.sha256 fromIndex toIndex
  | .omit => ∃ index element, base[index]? = some element ∧ output = base.eraseIdx index ∧
    operation = .omit element.elementId element.sha256 index
  | .replace => ∃ index before after, base[index]? = some before ∧ before ≠ after ∧
    output = base.set index after ∧ operation = .replace before.elementId before.sha256 index after

/-- The output arises from the base by one step of the kind. -/
def Arises (base output : List B4SequenceSubjectElement) : SequenceChangeKind → Prop
  | .insert => ∃ index element, index ≤ base.length ∧ output = base.insertIdx index element
  | .move => ∃ fromIndex toIndex element, fromIndex ≠ toIndex ∧ base[fromIndex]? = some element ∧
    toIndex < base.length ∧ output = (base.eraseIdx fromIndex).insertIdx toIndex element
  | .omit => ∃ index, index < base.length ∧ output = base.eraseIdx index
  | .replace => ∃ index before after, base[index]? = some before ∧ before ≠ after ∧
    output = base.set index after

lemma findSome?_of_mem {α β : Type} {f : α → Option β} {xs : List α} {x : α} {b : β} (hx : x ∈ xs)
    (h : f x = some b) : ∃ found, xs.findSome? f = some found := by
  rw [← Option.isSome_iff_exists, List.findSome?_isSome_iff]
  exact ⟨x, hx, by rw [h]; rfl⟩

lemma removedAt_eq_some {longer shorter : List B4SequenceSubjectElement} {index : ℕ}
    {found : ℕ × B4SequenceSubjectElement} : removedAt longer shorter index = some found ↔
      longer[index]? = some found.2 ∧ longer.eraseIdx index = shorter ∧ found.1 = index := by
  rw [removedAt, Option.bind_eq_some_iff]
  constructor
  · intro h
    obtain ⟨element, hat, h⟩ := h
    rw [Option.ite_none_right_eq_some, Option.some.injEq] at h
    obtain ⟨herase, rfl⟩ := h
    exact ⟨hat, herase, rfl⟩
  · intro h
    obtain ⟨hat, herase, rfl⟩ := h
    exact ⟨found.2, hat, if_pos herase⟩

lemma movedAt_eq_some {indices : ℕ × ℕ} {found : (ℕ × ℕ) × B4SequenceSubjectElement} :
    movedAt base output indices = some found ↔ indices.1 ≠ indices.2 ∧
      base[indices.1]? = some found.2 ∧
      (base.eraseIdx indices.1).insertIdx indices.2 found.2 = output ∧ found.1 = indices := by
  rw [movedAt]
  split
  case isTrue h => exact ⟨fun h => (by cases h), fun h' => absurd h h'.1⟩
  case isFalse hne =>
    rw [Option.bind_eq_some_iff]
    constructor
    · intro h
      obtain ⟨element, hat, h⟩ := h
      rw [Option.ite_none_right_eq_some, Option.some.injEq] at h
      obtain ⟨hmoved, rfl⟩ := h
      exact ⟨hne, hat, hmoved, rfl⟩
    · intro h
      obtain ⟨-, hat, hmoved, rfl⟩ := h
      exact ⟨found.2, hat, if_pos hmoved⟩

lemma findSome?_removedAt {longer shorter : List B4SequenceSubjectElement}
    {found : ℕ × B4SequenceSubjectElement}
    (h : (List.range longer.length).findSome? (removedAt longer shorter) = some found) :
    longer[found.1]? = some found.2 ∧ longer.eraseIdx found.1 = shorter := by
  obtain ⟨index, -, h⟩ := List.exists_of_findSome?_eq_some h
  obtain ⟨hat, herase, rfl⟩ := removedAt_eq_some.mp h
  exact ⟨hat, herase⟩

lemma removal_found {longer : List B4SequenceSubjectElement} {index : ℕ} (h : index < longer.length) :
    ∃ found, (List.range longer.length).findSome? (removedAt longer (longer.eraseIdx index)) = some found :=
  findSome?_of_mem (List.mem_range.mpr h) (removedAt_eq_some.mpr
    (⟨List.getElem?_eq_getElem h, rfl, rfl⟩ :
      longer[index]? = some (index, longer[index]).2 ∧ _ ∧ (index, longer[index]).1 = index))

lemma index_small {elements : List B4SequenceSubjectElement} {element : B4SequenceSubjectElement}
    {index : ℕ} (hat : elements[index]? = some element) (hsmall : elements.length < 2 ^ 64) :
    index < 2 ^ 64 :=
  (List.getElem?_eq_some_iff.mp hat).1.trans hsmall

lemma deriveSequenceInsert_describes {operation : B4SequenceOperation}
    (h : deriveSequenceInsert base output = .ok operation) :
    Describes base output operation .insert := by
  simp only [deriveSequenceInsert, bind_ok, exists_unit, ensure_ok, context_ok, pure_ok] at h
  obtain ⟨hlength, found, hfound, -, rfl⟩ := h
  obtain ⟨hat, rfl⟩ := findSome?_removedAt hfound
  obtain ⟨hlt, hget⟩ := List.getElem?_eq_some_iff.mp hat
  refine ⟨found.1, found.2, ?_, ?_, rfl⟩
  · omega
  · rw [← hget, List.insertIdx_eraseIdx_getElem hlt]

lemma deriveSequenceOmit_describes {operation : B4SequenceOperation}
    (h : deriveSequenceOmit base output = .ok operation) : Describes base output operation .omit := by
  simp only [deriveSequenceOmit, bind_ok, exists_unit, ensure_ok, context_ok, pure_ok] at h
  obtain ⟨-, found, hfound, -, rfl⟩ := h
  obtain ⟨hat, rfl⟩ := findSome?_removedAt hfound
  exact ⟨found.1, found.2, hat, rfl, rfl⟩

lemma deriveSequenceMove_describes {operation : B4SequenceOperation}
    (h : deriveSequenceMove base output = .ok operation) : Describes base output operation .move := by
  simp only [deriveSequenceMove, bind_ok, exists_unit, ensure_ok, context_ok, pure_ok] at h
  obtain ⟨-, found, hfound, -, -, rfl⟩ := h
  obtain ⟨indices, hindices, h⟩ := List.exists_of_findSome?_eq_some hfound
  obtain ⟨hne, hat, hmoved, rfl⟩ := movedAt_eq_some.mp h
  rw [List.mem_product] at hindices
  exact ⟨found.1.1, found.1.2, found.2, hne, hat, List.mem_range.mp hindices.2, hmoved.symm, rfl⟩

lemma changed_cons (before after : B4SequenceSubjectElement) (base output : List B4SequenceSubjectElement)
    (start : ℕ) : changed (before :: base) (after :: output) start =
      if before ≠ after then ((before, after), start) :: changed base output (start + 1)
      else changed base output (start + 1) := by
  rw [changed, List.zip_cons_cons, List.zipIdx_cons, List.filter_cons]
  by_cases h : before = after <;> simp [h, changed]

lemma changed_eq_nil {start : ℕ} (hlength : base.length = output.length) :
    changed base output start = [] ↔ base = output := by
  induction base generalizing output start with
  | nil =>
    obtain rfl := List.length_eq_zero_iff.mp hlength.symm
    exact ⟨fun _ => rfl, fun _ => rfl⟩
  | cons before base ih =>
    cases output with
    | nil => cases hlength
    | cons after output =>
      rw [changed_cons, List.cons.injEq]
      by_cases h : before = after
      · rw [if_neg (not_not.mpr h), ih (Nat.succ.inj hlength)]
        exact ⟨fun hrest => ⟨h, hrest⟩, fun hboth => hboth.2⟩
      · rw [if_pos h]
        exact ⟨fun hnil => (by cases hnil), fun hboth => absurd hboth.1 h⟩

lemma changed_eq_singleton {start : ℕ} {before after : B4SequenceSubjectElement} {position : ℕ}
    (hlength : base.length = output.length) :
    changed base output start = [((before, after), position)] ↔
      ∃ index, position = start + index ∧ base[index]? = some before ∧ before ≠ after ∧
        output = base.set index after := by
  induction base generalizing output start with
  | nil =>
    obtain rfl := List.length_eq_zero_iff.mp hlength.symm
    constructor
    · intro h
      cases h
    · intro h
      obtain ⟨index, -, hat, -⟩ := h
      cases hat
  | cons first base ih =>
    cases output with
    | nil => cases hlength
    | cons second output =>
      have hlength := Nat.succ.inj hlength
      rw [changed_cons]
      by_cases hfirst : first = second
      · rw [if_neg (not_not.mpr hfirst), ih hlength]
        constructor
        · intro h
          obtain ⟨index, hposition, hat, hne, rfl⟩ := h
          exact ⟨index + 1, by omega, hat, hne, by rw [hfirst, List.set_cons_succ]⟩
        · intro h
          obtain ⟨index, hposition, hat, hne, hset⟩ := h
          cases index with
          | zero =>
            rw [List.set_cons_zero, List.cons.injEq] at hset
            rw [List.getElem?_cons_zero, Option.some.injEq] at hat
            exact absurd (hat.symm.trans (hfirst.trans hset.1)) hne
          | succ index =>
            rw [List.set_cons_succ, List.cons.injEq] at hset
            exact ⟨index, by omega, hat, hne, hset.2⟩
      · rw [if_pos hfirst, List.cons.injEq, changed_eq_nil hlength]
        constructor
        · intro h
          obtain ⟨h, rfl⟩ := h
          rw [Prod.mk.injEq, Prod.mk.injEq] at h
          obtain ⟨⟨rfl, rfl⟩, rfl⟩ := h
          exact ⟨0, rfl, rfl, hfirst, rfl⟩
        · intro h
          obtain ⟨index, hposition, hat, hne, hset⟩ := h
          cases index with
          | zero =>
            rw [List.set_cons_zero, List.cons.injEq] at hset
            rw [List.getElem?_cons_zero, Option.some.injEq] at hat
            exact ⟨by rw [hat, hset.1, hposition, Nat.add_zero], hset.2.symm⟩
          | succ index =>
            rw [List.set_cons_succ, List.cons.injEq] at hset
            exact absurd hset.1.symm hfirst

lemma onlyChange_ok {items : List ((B4SequenceSubjectElement × B4SequenceSubjectElement) × ℕ)}
    {item : (B4SequenceSubjectElement × B4SequenceSubjectElement) × ℕ} :
    onlyChange items = .ok item ↔ items = [item] := by
  cases items with
  | nil => exact ⟨fun h => (by cases h), fun h => (by cases h)⟩
  | cons first rest =>
    cases rest with
    | nil =>
      rw [onlyChange, Except.ok.injEq, List.cons.injEq]
      exact ⟨fun h => ⟨h, rfl⟩, fun h => h.1⟩
    | cons second rest => exact ⟨fun h => (by cases h), fun h => (by cases h)⟩

lemma deriveSequenceReplace_describes {operation : B4SequenceOperation}
    (h : deriveSequenceReplace base output = .ok operation) :
    Describes base output operation .replace := by
  simp only [deriveSequenceReplace, bind_ok, exists_unit, ensure_ok, onlyChange_ok, pure_ok] at h
  obtain ⟨hlength, item, hitem, -, rfl⟩ := h
  obtain ⟨index, hposition, hat, hne, hset⟩ := (changed_eq_singleton hlength).mp hitem
  rw [Nat.zero_add] at hposition
  rw [hposition]
  exact ⟨index, item.1.1, item.1.2, hat, hne, hset, rfl⟩

lemma deriveSequenceOperation_describes {kind : SequenceChangeKind} {operation : B4SequenceOperation}
    (h : deriveSequenceOperation base output kind = .ok operation) :
    Describes base output operation kind := by
  cases kind with
  | insert => exact deriveSequenceInsert_describes h
  | move => exact deriveSequenceMove_describes h
  | «omit» => exact deriveSequenceOmit_describes h
  | replace => exact deriveSequenceReplace_describes h

lemma deriveSequenceOperation_complete {kind : SequenceChangeKind} (hbase : base.length < 2 ^ 64)
    (houtput : output.length < 2 ^ 64) (h : Arises base output kind) :
    ∃ operation, deriveSequenceOperation base output kind = .ok operation := by
  cases kind with
  | insert =>
    obtain ⟨index, element, hle, rfl⟩ := h
    have hlength : (base.insertIdx index element).length = base.length + 1 :=
      List.length_insertIdx_of_le_length hle element
    have hfind := @removal_found (base.insertIdx index element) index (by omega)
    rw [List.eraseIdx_insertIdx_self] at hfind
    obtain ⟨found, hfound⟩ := hfind
    have hsmall := index_small (findSome?_removedAt hfound).1 houtput
    simp only [deriveSequenceOperation, deriveSequenceInsert, bind_ok, exists_unit, ensure_ok, context_ok,
      pure_ok]
    exact ⟨_, hlength, found, hfound, hsmall, rfl⟩
  | move =>
    obtain ⟨fromIndex, toIndex, element, hne, hat, hto, rfl⟩ := h
    obtain ⟨hlt, -⟩ := List.getElem?_eq_some_iff.mp hat
    have hmem : (fromIndex, toIndex) ∈ List.range base.length ×ˢ List.range base.length :=
      List.mem_product.mpr ⟨List.mem_range.mpr hlt, List.mem_range.mpr hto⟩
    obtain ⟨found, hfound⟩ := findSome?_of_mem hmem (movedAt_eq_some.mpr
      (⟨hne, hat, rfl, rfl⟩ : (fromIndex, toIndex).1 ≠ (fromIndex, toIndex).2 ∧
        base[(fromIndex, toIndex).1]? = some ((fromIndex, toIndex), element).2 ∧ _ ∧
        ((fromIndex, toIndex), element).1 = (fromIndex, toIndex)))
    obtain ⟨indices, hindices, h⟩ := List.exists_of_findSome?_eq_some hfound
    obtain ⟨-, hat', -, rfl⟩ := movedAt_eq_some.mp h
    rw [List.mem_product] at hindices
    have hsmall := index_small hat' hbase
    have hsmall' := (List.mem_range.mp hindices.2).trans hbase
    have hlength : base.length = ((base.eraseIdx fromIndex).insertIdx toIndex element).length :=
      (moved hat hto).2.2.length_eq.symm
    simp only [deriveSequenceOperation, deriveSequenceMove, bind_ok, exists_unit, ensure_ok, context_ok,
      pure_ok]
    exact ⟨_, hlength, found, hfound, hsmall, hsmall', rfl⟩
  | «omit» =>
    obtain ⟨index, hlt, rfl⟩ := h
    have hlength := List.length_eraseIdx_of_lt hlt
    obtain ⟨found, hfound⟩ := removal_found hlt
    have hsmall := index_small (findSome?_removedAt hfound).1 hbase
    simp only [deriveSequenceOperation, deriveSequenceOmit, bind_ok, exists_unit, ensure_ok, context_ok,
      pure_ok]
    exact ⟨_, by omega, found, hfound, hsmall, rfl⟩
  | replace =>
    obtain ⟨index, before, after, hat, hne, rfl⟩ := h
    have hlength : base.length = (base.set index after).length := List.length_set.symm
    have hchanged : changed base (base.set index after) 0 = [((before, after), index)] :=
      (changed_eq_singleton hlength).mpr ⟨index, (Nat.zero_add index).symm, hat, hne, rfl⟩
    simp only [deriveSequenceOperation, deriveSequenceReplace, bind_ok, exists_unit, ensure_ok,
      onlyChange_ok, pure_ok]
    exact ⟨_, hlength, _, hchanged, index_small hat hbase, rfl⟩

lemma Describes.arises {kind : SequenceChangeKind} {operation : B4SequenceOperation}
    (h : Describes base output operation kind) : Arises base output kind := by
  cases kind with
  | insert =>
    obtain ⟨index, element, hle, houtput, -⟩ := h
    exact ⟨index, element, hle, houtput⟩
  | move =>
    obtain ⟨fromIndex, toIndex, element, hne, hat, hto, houtput, -⟩ := h
    exact ⟨fromIndex, toIndex, element, hne, hat, hto, houtput⟩
  | «omit» =>
    obtain ⟨index, element, hat, houtput, -⟩ := h
    exact ⟨index, (List.getElem?_eq_some_iff.mp hat).1, houtput⟩
  | replace =>
    obtain ⟨index, before, after, hat, hne, houtput, -⟩ := h
    exact ⟨index, before, after, hat, hne, houtput⟩

end Steps

section Replay

variable {sha256 : Bytes → Digest} {validateCanonicalJsonSource : Bytes → Except String Unit}
variable {parser : SubjectParser sha256 validateCanonicalJsonSource}
variable {subject output : Eip0045B4SequenceSubjectV1} {element : B4SequenceSubjectElement}
variable {operation : B4SequenceOperation} {kind : SequenceChangeKind}

lemma validateWitness_pass (h : Authentic sha256 element) (action : String) :
    validateWitness element.elementId element.sha256 action = .ok () := by
  have hid := h.identifier
  simp only [validateElementId, bind_ok, exists_unit, ensure_ok] at hid
  obtain ⟨⟨hne, hlength⟩, hbytes, hkebab⟩ := hid
  simp only [validateWitness, validateSemanticId, validateSha256, bind_ok, exists_unit, ensure_ok]
  refine ⟨⟨hne, hlength, hbytes, hkebab⟩, ?_, ?_⟩
  · rw [← h.digest, sha256Hex_length]
  · rw [← h.digest]
    exact Hex.encode_isLower _

lemma element_eq {bytes : Set Bytes} (hinjective : Set.InjOn sha256 bytes)
    {first second : B4SequenceSubjectElement} (hfirst : Authentic sha256 first)
    (hsecond : Authentic sha256 second) (hmem : first.payload ∈ bytes) (hmem' : second.payload ∈ bytes)
    (hid : first.elementId = second.elementId) (hsha : first.sha256 = second.sha256) : first = second := by
  have hdigest : sha256 first.payload = sha256 second.payload := by
    apply Hex.encode_injective
    change sha256Hex sha256 first.payload = sha256Hex sha256 second.payload
    rw [hfirst.digest, hsecond.digest, hsha]
  have hpayload := hinjective hmem hmem' hdigest
  have hhex : first.bytesHex = second.bytesHex := by
    rw [← (payload_spells hfirst.even hfirst.lower).2.2, hpayload,
      (payload_spells hsecond.even hsecond.lower).2.2]
  cases first
  cases second
  simp only at hid hhex hsha
  rw [hid, hhex, hsha]

lemma index_exact (h : Valid sha256 validateCanonicalJsonSource subject) {index : ℕ}
    (hle : index ≤ subject.elements.length) : index ≤ b4MaxJcsSafeInteger := by
  have hcount := h.count
  have hmax : maxSequenceElements ≤ b4MaxJcsSafeInteger := by decide
  omega

lemma Describes.applies (hsubject : Valid sha256 validateCanonicalJsonSource subject)
    (houtput : Valid sha256 validateCanonicalJsonSource output) (htarget : output.target = subject.target)
    (hinjective : kind = .replace → Set.InjOn sha256
      {bytes | bytes ∈ payloads subject.elements ∨ bytes ∈ payloads output.elements})
    (h : Describes subject.elements output.elements operation kind) :
    validateSequenceOperation sha256 validateCanonicalJsonSource subject.target operation = .ok () ∧
      applySequenceOperation sha256 validateCanonicalJsonSource subject subject.target operation =
        .ok output := by
  have hsmall : b4MaxJcsSafeInteger < 2 ^ 64 := by decide
  have hresult : ∀ elements, output.elements = elements → output = { subject with elements } := by
    intro elements heq
    rw [← heq, ← htarget, hsubject.format.trans houtput.format.symm]
  cases kind with
  | insert =>
    obtain ⟨index, element, hle, heq, rfl⟩ := h
    have hindex := index_exact hsubject hle
    have hmem : element ∈ output.elements := by
      rw [heq, List.mem_insertIdx hle]
      exact .inl rfl
    have hfits := htarget ▸ houtput.fits element hmem
    constructor
    · simp only [validateSequenceOperation, validateJcsSafeInteger, bind_ok, exists_unit, ensure_ok]
      exact ⟨hindex, validateFor_ok.mpr hfits⟩
    · exact apply_insert_ok.mpr ⟨by omega, hle, hfits, hresult _ heq⟩
  | move =>
    obtain ⟨fromIndex, toIndex, element, hne, hat, hto, heq, rfl⟩ := h
    obtain ⟨hlt, -⟩ := List.getElem?_eq_some_iff.mp hat
    have hfrom := index_exact hsubject hlt.le
    have hto' := index_exact hsubject hto.le
    have hauthentic := hsubject.authentic (List.mem_of_getElem? hat)
    constructor
    · simp only [validateSequenceOperation, validateJcsSafeInteger, bind_ok, exists_unit, ensure_ok]
      exact ⟨validateWitness_pass hauthentic _, hfrom, hto', hne⟩
    · exact apply_move_ok.mpr ⟨by omega, by omega, hto, element, ⟨hat, rfl, rfl⟩, hauthentic,
        hresult _ heq⟩
  | «omit» =>
    obtain ⟨index, element, hat, heq, rfl⟩ := h
    obtain ⟨hlt, -⟩ := List.getElem?_eq_some_iff.mp hat
    have hindex := index_exact hsubject hlt.le
    have hauthentic := hsubject.authentic (List.mem_of_getElem? hat)
    constructor
    · simp only [validateSequenceOperation, validateJcsSafeInteger, bind_ok, exists_unit, ensure_ok]
      exact ⟨validateWitness_pass hauthentic _, hindex⟩
    · exact apply_omit_ok.mpr ⟨by omega, ⟨element, ⟨hat, rfl, rfl⟩, hauthentic⟩, hresult _ heq⟩
  | replace =>
    obtain ⟨index, before, after, hat, hne, heq, rfl⟩ := h
    obtain ⟨hlt, -⟩ := List.getElem?_eq_some_iff.mp hat
    have hindex := index_exact hsubject hlt.le
    have hbefore : before ∈ subject.elements := List.mem_of_getElem? hat
    have hafter : after ∈ output.elements := by
      rw [heq]
      exact List.mem_of_getElem? (List.getElem?_set_self hlt)
    have hfits := htarget ▸ houtput.fits after hafter
    have hauthentic := hsubject.authentic hbefore
    constructor
    · simp only [validateSequenceOperation, validateJcsSafeInteger, bind_ok, exists_unit, ensure_ok]
      refine ⟨validateWitness_pass hauthentic _, hindex, validateFor_ok.mpr hfits, ?_⟩
      rw [← not_and_or]
      intro hsame
      exact hne (element_eq (hinjective rfl) hauthentic hfits.authentic
        (.inl (List.mem_map_of_mem hbefore)) (.inr (List.mem_map_of_mem hafter)) hsame.1 hsame.2)
    · exact apply_replace_ok.mpr ⟨by omega, ⟨before, ⟨hat, rfl, rfl⟩, hauthentic⟩, hfits,
        hresult _ heq⟩

lemma derived_reconstructs (hsubject : Valid sha256 validateCanonicalJsonSource subject)
    (houtput : Valid sha256 validateCanonicalJsonSource output) (htarget : output.target = subject.target)
    (hinjective : kind = .replace → Set.InjOn sha256
      {bytes | bytes ∈ payloads subject.elements ∨ bytes ∈ payloads output.elements})
    (hne : payloads output.elements ≠ payloads subject.elements)
    (h : deriveSequenceOperation subject.elements output.elements kind = .ok operation) :
    reconstructSequenceEdit sha256 validateCanonicalJsonSource parser subject.toCanonicalJson
      subject.target operation = .ok output.toCanonicalJson := by
  obtain ⟨hvalid, happly⟩ :=
    (deriveSequenceOperation_describes h).applies hsubject houtput htarget hinjective
  exact reconstructSequenceEdit_ok.mpr
    ⟨hvalid, subject, output, hsubject, rfl, rfl, happly, houtput, hne, rfl⟩

lemma derives_iff_arises (hsubject : Valid sha256 validateCanonicalJsonSource subject)
    (houtput : Valid sha256 validateCanonicalJsonSource output) :
    (∃ operation, deriveSequenceOperation subject.elements output.elements kind = .ok operation) ↔
      Arises subject.elements output.elements kind := by
  have hmax : maxSequenceElements < 2 ^ 64 := by decide
  constructor
  · intro h
    obtain ⟨operation, h⟩ := h
    exact (deriveSequenceOperation_describes h).arises
  · exact deriveSequenceOperation_complete (hsubject.count.trans_lt hmax) (houtput.count.trans_lt hmax)

end Replay

end Eip0045.Mutation
