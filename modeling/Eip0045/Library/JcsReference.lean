import Eip0045.Library.Jcs

/-! The canonical texts of plain values tell them apart, so that a parser can read them back. -/

namespace Eip0045.Jcs

open Bytes CanonicalJson

section Numbers

def digitByte (d : ℕ) : UInt8 := UInt8.ofNat (48 + d)

def IsDigit (c : UInt8) : Prop := 48 ≤ c ∧ c ≤ 57

instance (c : UInt8) : Decidable (IsDigit c) := inferInstanceAs (Decidable (_ ∧ _))

lemma digitByte_spec : ∀ d < 10, IsDigit (digitByte d) ∧ (digitByte d).toNat - 48 = d := by decide

lemma decimal_digits (n : ℕ) : ∃ digits : List ℕ, (∀ d ∈ digits, d < 10) ∧ digits ≠ [] ∧
    Nat.ofDigits 10 digits = n ∧ decimal n = (digits.map digitByte).reverse := by
  by_cases hn : n = 0
  · subst hn
    exact ⟨[0], by decide, by decide, rfl, rfl⟩
  · refine ⟨Nat.digits 10 n, fun d hd => Nat.digits_lt_base (by decide) hd,
      Nat.digits_ne_nil_iff_ne_zero.mpr hn, Nat.ofDigits_digits 10 n, ?_⟩
    rw [decimal, if_neg hn]
    rfl

lemma decimal_range (n : ℕ) : decimal n ≠ [] ∧ ∀ c ∈ decimal n, IsDigit c := by
  obtain ⟨digits, hlt, hne, -, hdecimal⟩ := decimal_digits n
  rw [hdecimal]
  constructor
  · simpa using hne
  · intro c hc
    rw [List.mem_reverse, List.mem_map] at hc
    obtain ⟨d, hd, rfl⟩ := hc
    exact (digitByte_spec d (hlt d hd)).1

lemma map_digitByte {digits : List ℕ} (h : ∀ d ∈ digits, d < 10) :
    (digits.map digitByte).map (fun c => c.toNat - 48) = digits := by
  rw [List.map_map]
  calc digits.map ((fun c : UInt8 => c.toNat - 48) ∘ digitByte)
      = digits.map id := List.map_congr_left fun d hd => (digitByte_spec d (h d hd)).2
    _ = digits := List.map_id digits

lemma decimal_injective : Function.Injective decimal := by
  intro n m h
  obtain ⟨digits, hlt, -, hvalue, hdecimal⟩ := decimal_digits n
  obtain ⟨digits', hlt', -, hvalue', hdecimal'⟩ := decimal_digits m
  rw [hdecimal, hdecimal', List.reverse_inj] at h
  have heq := congrArg (List.map fun c : UInt8 => c.toNat - 48) h
  rw [map_digitByte hlt, map_digitByte hlt'] at heq
  rw [← hvalue, ← hvalue', heq]

end Numbers

lemma value_induction {P : JsonValue → Prop} (string : ∀ text, P (.string text))
    (number : ∀ n, P (.number n)) (array : ∀ items, (∀ item ∈ items, P item) → P (.array items))
    (object : ∀ fields, (∀ field ∈ fields, P field.2) → P (.object fields)) (v : JsonValue) : P v :=
  @JsonValue.rec P (fun items => ∀ item ∈ items, P item) (fun fields => ∀ field ∈ fields, P field.2)
    (fun field => P field.2) string number array object (by simp)
    (fun _ _ hitem hitems => List.forall_mem_cons.mpr ⟨hitem, hitems⟩) (by simp)
    (fun _ _ hfield hfields => List.forall_mem_cons.mpr ⟨hfield, hfields⟩) (fun _ _ h => h) v

section Cancellation

def Stops (rest : Bytes) : Prop := ∀ c ∈ rest.head?, ¬IsDigit c

lemma takeWhile_append_stops {digits rest : Bytes} (h : ∀ c ∈ digits, IsDigit c) (hrest : Stops rest) :
    (digits ++ rest).takeWhile (fun c => IsDigit c) = digits := by
  rw [List.takeWhile_append_of_pos fun c hc => decide_eq_true (h c hc)]
  cases rest with
  | nil => simp
  | cons c rest =>
    have hc : ¬IsDigit c := hrest c rfl
    rw [List.takeWhile_cons_of_neg (by simpa using hc), List.append_nil]

/-- A plain value is told apart from the others by what its text begins with. -/
def Cancels (v : JsonValue) : Prop :=
  ∀ w s t, Plain v → Plain w → Stops s → Stops t → render v ++ s = render w ++ t → v = w ∧ s = t

/-- What the first byte of a text says of its value. -/
def lead (c : UInt8) : ℕ := if c = 34 then 0 else if IsDigit c then 1 else if c = 91 then 2 else 3

def shape : JsonValue → ℕ
  | .string _ => 0
  | .number _ => 1
  | .array _ => 2
  | .object _ => 3

lemma render_lead (v : JsonValue) : ∃ c rest, render v = c :: rest ∧ lead c = shape v ∧ c ≠ 93 := by
  cases v with
  | string text => exact ⟨34, _, rfl, rfl, by decide⟩
  | number n =>
    obtain ⟨hne, hdigits⟩ := decimal_range n
    obtain ⟨c, rest, hdecimal⟩ := List.exists_cons_of_ne_nil hne
    have hc : IsDigit c := hdigits c (by rw [hdecimal]; exact List.mem_cons_self)
    have hquote : c ≠ 34 := by
      rintro rfl
      exact absurd hc (by decide)
    refine ⟨c, rest, hdecimal, ?_, ?_⟩
    · rw [lead, if_neg hquote, if_pos hc, shape]
    · rintro rfl
      exact absurd hc (by decide)
  | array items => exact ⟨91, _, rfl, rfl, by decide⟩
  | object fields => exact ⟨123, _, rfl, rfl, by decide⟩

lemma shape_eq {v w : JsonValue} {s t : Bytes} (h : render v ++ s = render w ++ t) : shape v = shape w := by
  obtain ⟨c, rest, hv, hc, -⟩ := render_lead v
  obtain ⟨d, rest', hw, hd, -⟩ := render_lead w
  rw [hv, hw, List.cons_append, List.cons_append] at h
  rw [← hc, ← hd, (List.cons.inj h).1]

lemma plainText_cancel {text text' s t : Bytes} (h : PlainText text) (h' : PlainText text')
    (heq : quoted text ++ s = quoted text' ++ t) : text = text' ∧ s = t := by
  have hquote : ∀ {text : Bytes}, PlainText text → ∀ c ∈ text, (c != quote) = true := by
    intro text h c hc
    simpa using (h c hc).2.2.1
  simp only [quoted, List.append_assoc, List.append_cancel_left_eq] at heq
  have hcut := congrArg (List.takeWhile fun c => c != quote) heq
  rw [List.takeWhile_append_of_pos (hquote h), List.takeWhile_append_of_pos (hquote h'),
    List.singleton_append, List.singleton_append, List.takeWhile_cons_of_neg (by simp),
    List.takeWhile_cons_of_neg (by simp), List.append_nil, List.append_nil] at hcut
  subst hcut
  simpa using heq

lemma stops_comma (rest : Bytes) : Stops (comma :: rest) := by
  rintro c ⟨rfl⟩
  decide

lemma stops_close {c : UInt8} (hc : c = 93 ∨ c = 125) (rest : Bytes) : Stops (c :: rest) := by
  rintro d ⟨rfl⟩
  rcases hc with rfl | rfl <;> decide

lemma items_cancel {xs ys : List JsonValue} {s t : Bytes} (hcancels : ∀ x ∈ xs, Cancels x)
    (hxs : PlainItems xs) (hys : PlainItems ys)
    (h : renderItems xs ++ 93 :: s = renderItems ys ++ 93 :: t) : xs = ys ∧ s = t := by
  induction xs generalizing ys with
  | nil =>
    cases ys with
    | nil => exact ⟨rfl, (List.cons.inj h).2⟩
    | cons y ys =>
      obtain ⟨c, rest, hy, -, hclose⟩ := render_lead y
      rw [renderItems, renderItems, hy] at h
      exact absurd (List.cons.inj h).1.symm hclose
  | cons x xs ih =>
    rw [List.forall_mem_cons] at hcancels
    cases ys with
    | nil =>
      obtain ⟨c, rest, hx, -, hclose⟩ := render_lead x
      rw [renderItems, renderItems, hx] at h
      exact absurd (List.cons.inj h).1 hclose
    | cons y ys =>
      rw [renderItems, renderItems, List.append_assoc, List.append_assoc] at h
      have hstops : ∀ (zs : List JsonValue) rest, Stops
          ((if zs.isEmpty = true then [] else [comma] ++ renderItems zs) ++ 93 :: rest) := by
        intro zs rest
        split
        · exact stops_close (.inl rfl) rest
        · exact stops_comma _
      obtain ⟨rfl, hrest⟩ := hcancels.1 y _ _ hxs.1 hys.1 (hstops xs s) (hstops ys t) h
      cases xs with
      | nil =>
        cases ys with
        | nil => exact ⟨rfl, (List.cons.inj hrest).2⟩
        | cons z ys => exact absurd (List.cons.inj hrest).1 (by decide)
      | cons z xs =>
        cases ys with
        | nil => exact absurd (List.cons.inj hrest).1 (by decide)
        | cons z' ys =>
          obtain ⟨htail, hst⟩ := ih hcancels.2 hxs.2 hys.2 (List.cons.inj hrest).2
          exact ⟨by rw [htail], hst⟩

lemma fields_cancel {xs ys : List (Bytes × JsonValue)} {s t : Bytes}
    (hcancels : ∀ x ∈ xs, Cancels x.2) (hxs : PlainFields xs) (hys : PlainFields ys)
    (h : renderFields xs ++ 125 :: s = renderFields ys ++ 125 :: t) : xs = ys ∧ s = t := by
  induction xs generalizing ys with
  | nil =>
    cases ys with
    | nil => exact ⟨rfl, (List.cons.inj h).2⟩
    | cons y ys => exact absurd (List.cons.inj h).1 (by decide)
  | cons x xs ih =>
    obtain ⟨key, v⟩ := x
    rw [List.forall_mem_cons] at hcancels
    cases ys with
    | nil => exact absurd (List.cons.inj h).1 (by decide)
    | cons y ys =>
      obtain ⟨key', w⟩ := y
      rw [renderFields, renderFields] at h
      simp only [List.append_assoc] at h
      obtain ⟨rfl, hvalue⟩ := plainText_cancel hxs.1 hys.1 h
      rw [List.append_cancel_left_eq] at hvalue
      have hstops : ∀ (zs : List (Bytes × JsonValue)) rest, Stops
          ((if zs.isEmpty = true then [] else [comma] ++ renderFields zs) ++ 125 :: rest) := by
        intro zs rest
        split
        · exact stops_close (.inr rfl) rest
        · exact stops_comma _
      obtain ⟨hvw, hrest⟩ := hcancels.1 w _ _ hxs.2.1 hys.2.1 (hstops xs s) (hstops ys t) hvalue
      dsimp only at hvw
      subst hvw
      cases xs with
      | nil =>
        cases ys with
        | nil => exact ⟨rfl, (List.cons.inj hrest).2⟩
        | cons z ys => exact absurd (List.cons.inj hrest).1 (by decide)
      | cons z xs =>
        cases ys with
        | nil => exact absurd (List.cons.inj hrest).1 (by decide)
        | cons z' ys =>
          obtain ⟨htail, hst⟩ := ih hcancels.2 hxs.2.2 hys.2.2 (List.cons.inj hrest).2
          exact ⟨by rw [htail], hst⟩

lemma cancels (v : JsonValue) : Cancels v := by
  induction v using value_induction with
  | string text =>
    intro w s t hv hw hs ht h
    have hshape := shape_eq h
    cases w with
    | string text' =>
      obtain ⟨rfl, hst⟩ := plainText_cancel hv hw h
      exact ⟨rfl, hst⟩
    | _ => cases hshape
  | number n =>
    intro w s t hv hw hs ht h
    have hshape := shape_eq h
    cases w with
    | number m =>
      have hcut := congrArg (List.takeWhile fun c => IsDigit c) h
      rw [render, render, takeWhile_append_stops (decimal_range n).2 hs,
        takeWhile_append_stops (decimal_range m).2 ht] at hcut
      obtain rfl := decimal_injective hcut
      exact ⟨rfl, List.append_cancel_left h⟩
    | _ => cases hshape
  | array items ih =>
    intro w s t hv hw hs ht h
    have hshape := shape_eq h
    cases w with
    | array items' =>
      simp only [render, List.append_assoc, List.append_cancel_left_eq] at h
      obtain ⟨rfl, hst⟩ := items_cancel ih hv hw h
      exact ⟨rfl, hst⟩
    | _ => cases hshape
  | object fields ih =>
    intro w s t hv hw hs ht h
    have hshape := shape_eq h
    cases w with
    | object fields' =>
      simp only [render, List.append_assoc, List.append_cancel_left_eq] at h
      obtain ⟨rfl, hst⟩ := fields_cancel ih hv.2 hw.2 h
      exact ⟨rfl, hst⟩
    | _ => cases hshape

lemma render_injOn : Set.InjOn render {v | Plain v} := by
  intro v hv w hw h
  have hnil : Stops [] := by
    rintro c ⟨⟩
  exact (cancels v w [] [] hv hw hnil hnil (by rw [h])).1

end Cancellation

section Reference

lemma forall_plainItems {items : List JsonValue} (h : PlainItems items) : ∀ item ∈ items, Plain item := by
  induction items with
  | nil => simp
  | cons item items ih => exact List.forall_mem_cons.mpr ⟨h.1, ih h.2⟩

lemma forall_plainFields {fields : List (Bytes × JsonValue)} (h : PlainFields fields) :
    ∀ field ∈ fields, Plain field.2 := by
  induction fields with
  | nil => simp
  | cons field fields ih => exact List.forall_mem_cons.mpr ⟨h.2.1, ih h.2.2⟩

lemma plain_sorted (v : JsonValue) (h : Plain v) : (ofValue v).Sorted := by
  induction v using value_induction with
  | string text => exact .string text
  | number n => exact .unsigned n
  | array items ih =>
    rw [ofValue, ofItems_eq]
    refine .array _ ?_
    intro item hitem
    obtain ⟨original, horiginal, rfl⟩ := List.mem_map.mp hitem
    exact ih original horiginal (forall_plainItems h original horiginal)
  | object fields ih =>
    rw [ofValue, ofMembers_eq]
    refine .object _ (by rw [List.map_map]; exact h.1) ?_
    intro field hfield
    obtain ⟨original, horiginal, rfl⟩ := List.mem_map.mp hfield
    exact ih original horiginal (forall_plainFields h.2 original horiginal)

lemma map_eq_of_forall {α β : Type} {f : α → β} {xs ys : List α}
    (h : ∀ x ∈ xs, ∀ y, f x = f y → x = y) (heq : xs.map f = ys.map f) : xs = ys := by
  induction xs generalizing ys with
  | nil => simpa [eq_comm] using heq
  | cons x xs ih =>
    cases ys with
    | nil => simp at heq
    | cons y ys =>
      rw [List.map_cons, List.map_cons, List.cons.injEq] at heq
      rw [List.forall_mem_cons] at h
      rw [h.1 y heq.1, ih h.2 heq.2]

lemma ofValue_injective : Function.Injective ofValue := by
  intro v
  induction v using value_induction with
  | string text =>
    intro w h
    cases w with
    | string text' =>
      cases h
      rfl
    | _ => cases h
  | number n =>
    intro w h
    cases w with
    | number m =>
      cases h
      rfl
    | _ => cases h
  | array items ih =>
    intro w h
    cases w with
    | array items' =>
      simp only [ofValue, ofItems_eq, Json.array.injEq] at h
      rw [map_eq_of_forall (fun item hitem other heq => ih item hitem heq) h]
    | _ => cases h
  | object fields ih =>
    intro w h
    cases w with
    | object fields' =>
      simp only [ofValue, ofMembers_eq, Json.object.injEq] at h
      rw [map_eq_of_forall (fun field hfield other heq =>
        Prod.ext (Prod.mk.inj heq).1 (ih field hfield (Prod.mk.inj heq).2)) h]
    | _ => cases h

open scoped Classical in
noncomputable def Codec.reference : Codec where
  canonicalJsonBytes value :=
    if h : ∃ v, Plain v ∧ ofValue v = value then .ok (render h.choose)
    else .error "failed to produce RFC 8785 canonical JSON"
  parseJsonStrict source :=
    if h : ∃ v, Plain v ∧ render v = source then .ok (ofValue h.choose)
    else .error "failed to parse strict JSON source"
  canonical v hv := by
    have h : ∃ w, Plain w ∧ ofValue w = ofValue v := ⟨v, hv, rfl⟩
    rw [dif_pos h, ofValue_injective h.choose_spec.2]
  parsed v hv := by
    have h : ∃ w, Plain w ∧ render w = render v := ⟨v, hv, rfl⟩
    rw [dif_pos h, render_injOn h.choose_spec.1 hv h.choose_spec.2]
  sorted source value hparse := by
    by_cases h : ∃ v, Plain v ∧ render v = source
    · rw [dif_pos h, Except.ok.injEq] at hparse
      rw [← hparse]
      exact plain_sorted _ h.choose_spec.1
    · rw [dif_neg h] at hparse
      cases hparse

end Reference

end Eip0045.Jcs
