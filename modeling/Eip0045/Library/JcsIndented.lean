import Eip0045.Library.JcsReference

/-! Objects of scalars, each member indented by two spaces on a line of its own. -/

namespace Eip0045.Jcs

open Bytes CanonicalJson

section Text

def Scalar : JsonValue → Prop
  | .string _ => True
  | .number _ => True
  | _ => False

def indentedMembers : List (Bytes × JsonValue) → Bytes
  | [] => []
  | (key, value) :: fields =>
    [10, 32, 32] ++ quoted key ++ [colon, 32] ++ render value ++
      if fields.isEmpty then [] else [comma] ++ indentedMembers fields

def indented (fields : List (Bytes × JsonValue)) : Bytes := [123] ++ indentedMembers fields ++ [10, 125]

/-- Members in any order, and the same in the order of their keys. -/
structure Arranged (fields members : List (Bytes × JsonValue)) : Prop where
  perm : fields.Perm members
  plain : Plain (.object members)
  scalar : ∀ field ∈ members, Scalar field.2

/-- A strict parser, of indented objects too. -/
structure IndentedCodec extends Codec where
  indented : ∀ fields members, Arranged fields members →
    parseJsonStrict (indented fields) = .ok (ofValue (.object members))

end Text

section Reading

variable {fields fields' members members' : List (Bytes × JsonValue)} {v : JsonValue}

lemma stops_line (rest : Bytes) : Stops (10 :: rest) := by
  rintro c ⟨rfl⟩
  decide

lemma stops_behind (fields : List (Bytes × JsonValue)) : Stops
    ((if fields.isEmpty = true then [] else [comma] ++ indentedMembers fields) ++ [10, 125]) := by
  split
  · exact stops_line _
  · exact stops_comma _

lemma indentedMembers_cancel (h : PlainFields fields) (h' : PlainFields fields')
    (heq : indentedMembers fields ++ [10, 125] = indentedMembers fields' ++ [10, 125]) :
    fields = fields' := by
  induction fields generalizing fields' with
  | nil =>
    cases fields' with
    | nil => rfl
    | cons field' fields' => exact absurd (List.cons.inj (List.cons.inj heq).2).1 (by decide)
  | cons field fields ih =>
    obtain ⟨key, v⟩ := field
    cases fields' with
    | nil => exact absurd (List.cons.inj (List.cons.inj heq).2).1 (by decide)
    | cons field' fields' =>
      obtain ⟨key', w⟩ := field'
      rw [indentedMembers, indentedMembers] at heq
      simp only [List.append_assoc, List.append_cancel_left_eq] at heq
      obtain ⟨rfl, hvalue⟩ := plainText_cancel h.1 h'.1 heq
      rw [List.append_cancel_left_eq] at hvalue
      obtain ⟨rfl, hrest⟩ := cancels v w _ _ h.2.1 h'.2.1 (stops_behind fields) (stops_behind fields')
        hvalue
      cases fields with
      | nil =>
        cases fields' with
        | nil => rfl
        | cons field' fields' => exact absurd (List.cons.inj hrest).1 (by decide)
      | cons field fields =>
        cases fields' with
        | nil => exact absurd (List.cons.inj hrest).1 (by decide)
        | cons field' fields' => rw [ih h.2.2 h'.2.2 (List.cons.inj hrest).2]

lemma plainFields_iff : PlainFields fields ↔ ∀ field ∈ fields, PlainText field.1 ∧ Plain field.2 := by
  induction fields with
  | nil => simp [PlainFields]
  | cons field fields ih =>
    obtain ⟨key, v⟩ := field
    rw [PlainFields, ih, List.forall_mem_cons, and_assoc]

lemma Arranged.plainFields (h : Arranged fields members) : PlainFields fields := by
  rw [plainFields_iff]
  intro field hfield
  exact plainFields_iff.mp h.plain.2 field (h.perm.mem_iff.mp hfield)

lemma Arranged.members_eq (h : Arranged fields members) (h' : Arranged fields' members')
    (heq : indented fields = indented fields') : members = members' := by
  rw [indented, indented, List.append_assoc, List.append_assoc, List.append_cancel_left_eq] at heq
  obtain rfl := indentedMembers_cancel h.plainFields h'.plainFields heq
  exact Lexicographic.eq_of_increasing (h.perm.symm.trans h'.perm) (List.pairwise_map.mp h.plain.1)
    (List.pairwise_map.mp h'.plain.1)

lemma indented_ne_render : indented fields ≠ render v := by
  intro h
  obtain ⟨rest, hindented⟩ : ∃ rest, indented fields = 123 :: 10 :: rest := by
    cases fields with
    | nil => exact ⟨[125], rfl⟩
    | cons field fields => exact ⟨_, rfl⟩
  rw [hindented] at h
  cases v with
  | string text => exact absurd (List.cons.inj h).1 (by decide)
  | number n =>
    obtain ⟨-, hdigits⟩ := decimal_range n
    have hdigit : IsDigit 123 := hdigits 123 (by rw [← render, ← h]; exact List.mem_cons_self)
    exact absurd hdigit (by decide)
  | array items => exact absurd (List.cons.inj h).1 (by decide)
  | object fields' =>
    cases fields' with
    | nil => exact absurd (List.cons.inj (List.cons.inj h).2).1 (by decide)
    | cons field fields' => exact absurd (List.cons.inj (List.cons.inj h).2).1 (by decide)

end Reading

section Reference

open scoped Classical in
/-- A codec of the plain values and of the indented objects alone. -/
noncomputable def IndentedCodec.reference : IndentedCodec where
  canonicalJsonBytes := Codec.reference.canonicalJsonBytes
  parseJsonStrict source :=
    if h : ∃ fields members, Arranged fields members ∧ Jcs.indented fields = source then
      .ok (ofValue (.object h.choose_spec.choose))
    else Codec.reference.parseJsonStrict source
  canonical := Codec.reference.canonical
  parsed v hv := by
    have h : ¬∃ fields members, Arranged fields members ∧ Jcs.indented fields = render v := by
      rintro ⟨fields, members, -, heq⟩
      exact indented_ne_render heq
    rw [dif_neg h]
    exact Codec.reference.parsed v hv
  sorted source value hparse := by
    by_cases h : ∃ fields members, Arranged fields members ∧ Jcs.indented fields = source
    · rw [dif_pos h, Except.ok.injEq] at hparse
      rw [← hparse]
      exact plain_sorted _ h.choose_spec.choose_spec.1.plain
    · rw [dif_neg h] at hparse
      exact Codec.reference.sorted source value hparse
  indented fields members harranged := by
    have h : ∃ fields' members', Arranged fields' members' ∧ Jcs.indented fields' = Jcs.indented fields :=
      ⟨fields, members, harranged, rfl⟩
    rw [dif_pos h, h.choose_spec.choose_spec.1.members_eq harranged h.choose_spec.choose_spec.2]

end Reference

end Eip0045.Jcs
