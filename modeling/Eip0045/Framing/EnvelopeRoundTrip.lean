import Mathlib
import Eip0045.Framing.EnvelopeCodec

/-! Subject envelopes round-trip under every contract, and their decoder stays inside its input. -/

namespace Eip0045.SubjectEnvelope

open Bytes Checked Frames

/-- The stops that no input can reach: a position outside the input, or a length past the words of
the machine. -/
def Unreachable (e : Fault EnvelopeError) : Prop :=
  e = .outOfRange ∨ ∃ index, e = .reported (.lengthArithmeticOverflow index)

section Steps

variable {α β : Type} {e : Fault EnvelopeError}

lemma ensure_ne {c : Prop} [Decidable c] {error : EnvelopeError} (he : Unreachable e)
    (h : ∀ index, error ≠ .lengthArithmeticOverflow index) :
    ensure c (.reported error) ≠ Except.error e := by
  intro heq
  rw [ensure] at heq
  split_ifs at heq
  cases heq
  obtain he | ⟨index, he⟩ := he
  · cases he
  · cases he
    exact h index rfl

lemma context_ne {error : EnvelopeError} {o : Option α} (he : Unreachable e)
    (h : ∀ index, error ≠ .lengthArithmeticOverflow index) :
    context (.reported error) o ≠ Except.error e := by
  intro heq
  cases o with
  | some a => cases heq
  | none =>
    cases heq
    obtain he | ⟨index, he⟩ := he
    · cases he
    · cases he
      exact h index rfl

lemma context_some_ne {error : Fault EnvelopeError} {o : Option α} {a : α} (h : o = some a) :
    context error o ≠ Except.error e := by
  rw [h]
  intro heq
  cases heq

lemma item_ne {items : List α} {index : ℕ} (h : index < items.length) :
    item items index ≠ Except.error e := by
  rw [item, List.getElem?_eq_getElem h]
  intro heq
  cases heq

lemma pure_ne {a : α} : (pure a : Except (Fault EnvelopeError) α) ≠ .error e := by
  intro heq
  cases heq

end Steps

variable {contract : Contract} {source : Bytes} {e : Fault EnvelopeError}

lemma maximumEncoded_ne (he : Unreachable e) {total : ℕ} {bounds : List PartBounds} :
    maximumEncoded total bounds ≠ .error e := by
  induction bounds generalizing total with
  | nil => exact pure_ne
  | cons b bounds ih =>
    rw [maximumEncoded]
    apply bind_ne_error (ensure_ne he (by intro _ h; cases h))
    intro _ _
    apply bind_ne_error (context_ne he (by intro _ h; cases h))
    intro _ _
    exact ih

lemma validateContract_ne (he : Unreachable e) : validateContract contract ≠ .error e := by
  rw [validateContract]
  apply bind_ne_error (ensure_ne he (by intro _ h; cases h))
  intro _ _
  apply bind_ne_error (maximumEncoded_ne he)
  intro _ _
  apply bind_ne_error (ensure_ne he (by intro _ h; cases h))
  intro _ _
  exact pure_ne

lemma decodeParts_ne (he : Unreachable e) (hsource : source.length < 2 ^ 63) {index cursor : ℕ}
    {bounds : List PartBounds} (hcursor : cursor ≤ source.length) :
    decodeParts source index cursor bounds ≠ .error e := by
  induction bounds generalizing index cursor with
  | nil => exact pure_ne
  | cons b bounds ih =>
    rw [decodeParts]
    have hlengthEnd : checkedAdd cursor partLengthBytes = some (cursor + partLengthBytes) :=
      checkedAdd_eq_some.mpr ⟨by rw [partLengthBytes]; omega, rfl⟩
    apply bind_ne_error (context_some_ne hlengthEnd)
    intro lengthEnd hend
    obtain rfl : cursor + partLengthBytes = lengthEnd :=
      Option.some.inj (hlengthEnd.symm.trans (context_ok.mp hend))
    apply bind_ne_error (context_ne he (by intro _ h; cases h))
    intro lengthBytes hlength
    have hin := (getRange_eq_some.mp (context_ok.mp hlength)).2.1
    apply bind_ne_error (context_ne he (by intro _ h; cases h))
    intro lengthArray _
    apply bind_ne_error (ensure_ne he (by intro _ h; cases h))
    intro _ _
    have hword := (ofLe32 lengthArray.val).toNat_lt
    have hpartEnd : checkedAdd (cursor + partLengthBytes) (ofLe32 lengthArray.val).toNat =
        some (cursor + partLengthBytes + (ofLe32 lengthArray.val).toNat) :=
      checkedAdd_eq_some.mpr ⟨by omega, rfl⟩
    apply bind_ne_error (context_some_ne hpartEnd)
    intro partEnd hend'
    obtain rfl := Option.some.inj (hpartEnd.symm.trans (context_ok.mp hend'))
    apply bind_ne_error (context_ne he (by intro _ h; cases h))
    intro part hpart
    have hnext := (getRange_eq_some.mp (context_ok.mp hpart)).2.1
    apply bind_ne_error (ih hnext)
    intro _ _
    exact pure_ne

lemma decodeSubjectEnvelope_ne (he : Unreachable e) :
    decodeSubjectEnvelope source contract ≠ .error e := by
  rw [decodeSubjectEnvelope]
  apply bind_ne_error (validateContract_ne he)
  intro maximum hmaximum
  apply bind_ne_error (ensure_ne he (by intro _ h; cases h))
  intro _ hlarge
  apply bind_ne_error (ensure_ne he (by intro _ h; cases h))
  intro _ hsmall
  have hheader : headerBytes ≤ source.length := not_lt.mp (ensure_ok.mp hsmall)
  have htwelve : 12 ≤ source.length := hheader
  have hmagic : magic.length = 8 := by decide
  have hmaximum := validateContract_ok.mp hmaximum
  have hlimit : headerBytes + maximumBytes contract.partBounds ≤ 536870912 := hmaximum.1.total
  have hsource : source.length < 2 ^ 63 := by
    have hle := not_lt.mp (ensure_ok.mp hlarge)
    rw [hmaximum.2] at hle
    omega
  have hhead : getRange source 0 magic.length = some (slice source 0 magic.length) :=
    getRange_eq_some.mpr ⟨Nat.zero_le _, by omega, rfl⟩
  apply bind_ne_error (context_some_ne hhead)
  intro _ _
  apply bind_ne_error (ensure_ne he (by intro _ h; cases h))
  intro _ _
  apply bind_ne_error (item_ne (by omega))
  intro _ _
  apply bind_ne_error (ensure_ne he (by intro _ h; cases h))
  intro _ _
  apply bind_ne_error (item_ne (by omega))
  intro _ _
  apply bind_ne_error (context_ne he (by intro _ h; cases h))
  intro _ _
  apply bind_ne_error (ensure_ne he (by intro _ h; cases h))
  intro _ _
  apply bind_ne_error (item_ne (by omega))
  intro _ _
  apply bind_ne_error (item_ne (by omega))
  intro _ _
  apply bind_ne_error (ensure_ne he (by intro _ h; cases h))
  intro _ _
  apply bind_ne_error (decodeParts_ne he hsource hheader)
  intro _ _
  apply bind_ne_error (ensure_ne he (by intro _ h; cases h))
  intro _ _
  exact pure_ne

lemma toByte_injective : Function.Injective Kind.toByte := by
  intro a b h
  cases a <;> cases b <;> first | rfl | cases h

lemma envelope_fields {kind kind' : Kind} {parts parts' : List Bytes}
    (h : envelope kind parts = envelope kind' parts') (hparts : parts.length < 2 ^ 16)
    (hparts' : parts'.length < 2 ^ 16) : kind = kind' ∧ parts.length = parts'.length := by
  have hheader : header kind parts.length = header kind' parts'.length := by
    rw [envelope, envelope] at h
    exact (List.append_inj h (by rw [header_length, header_length])).1
  simp only [header, List.append_assoc, List.singleton_append] at hheader
  have hrest := List.cons.inj (List.cons.inj (List.append_cancel_left hheader)).2
  refine ⟨toByte_injective hrest.1, ?_⟩
  have hcount := congrArg UInt16.toNat (le16_injective hrest.2)
  rw [UInt16.toNat_ofNat', UInt16.toNat_ofNat', Nat.mod_eq_of_lt hparts,
    Nat.mod_eq_of_lt hparts'] at hcount
  exact hcount

/-- Subject envelopes round-trip under every contract. -/
theorem subject_envelopes_round_trip :
    (∀ contract parts source, encodeSubjectEnvelope parts contract = .ok source →
      decodeSubjectEnvelope source contract = .ok parts) ∧
    (∀ contract parts source, decodeSubjectEnvelope source contract = .ok parts →
      encodeSubjectEnvelope parts contract = .ok source) ∧
    (∀ source contract contract' parts parts', decodeSubjectEnvelope source contract = .ok parts →
      decodeSubjectEnvelope source contract' = .ok parts' →
        contract.kind = contract'.kind ∧ contract.partBounds.length = contract'.partBounds.length) ∧
    ∀ source contract e, Unreachable e → decodeSubjectEnvelope source contract ≠ .error e := by
  refine ⟨?_, ?_, ?_, ?_⟩
  · intro contract parts source h
    exact decodeSubjectEnvelope_ok.mpr (encodeSubjectEnvelope_ok.mp h)
  · intro contract parts source h
    exact encodeSubjectEnvelope_ok.mpr (decodeSubjectEnvelope_ok.mp h)
  · intro source contract contract' parts parts' h h'
    obtain ⟨hvalid, hwithin, rfl⟩ := decodeSubjectEnvelope_ok.mp h
    obtain ⟨hvalid', hwithin', heq⟩ := decodeSubjectEnvelope_ok.mp h'
    have hcount : contract.partBounds.length ≤ 64 := hvalid.count
    have hcount' : contract'.partBounds.length ≤ 64 := hvalid'.count
    have hlength := hwithin.length_eq
    have hlength' := hwithin'.length_eq
    obtain ⟨hkind, hparts⟩ := envelope_fields heq (by omega) (by omega)
    exact ⟨hkind, by omega⟩
  · intro source contract e he
    exact decodeSubjectEnvelope_ne he

end Eip0045.SubjectEnvelope
