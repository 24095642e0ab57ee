import Eip0045.Library.JcsReference
import Eip0045.Runtime.Observation

/-! The timestamps that are accepted: the spellings of instants. -/

namespace Eip0045.Runtime

open Bytes Checked CanonicalJson Jcs

section Instants

def Leap (year : ℕ) : Prop := 4 ∣ year ∧ (¬100 ∣ year ∨ 400 ∣ year)

instance (year : ℕ) : Decidable (Leap year) := inferInstanceAs (Decidable (_ ∧ _))

def monthLength (year month : ℕ) : ℕ :=
  if month = 2 then if Leap year then 29 else 28
  else if month ∈ [4, 6, 9, 11] then 30
  else 31

/-- An instant of a year of four digits, with the digits of its fraction of a second. -/
structure Instant where
  year : ℕ
  month : ℕ
  day : ℕ
  hour : ℕ
  minute : ℕ
  second : ℕ
  fraction : List ℕ
  year_lt : year < 10000
  month_mem : 1 ≤ month ∧ month ≤ 12
  day_mem : 1 ≤ day ∧ day ≤ monthLength year month
  hour_lt : hour < 24
  minute_lt : minute < 60
  second_lt : second < 60
  fraction_length : fraction.length ≤ 9
  fraction_digits : ∀ d ∈ fraction, d < 10
  fraction_last : fraction.getLast? ≠ some 0

def twoDigits (n : ℕ) : Bytes := [digitByte (n / 10), digitByte (n % 10)]

def fourDigits (n : ℕ) : Bytes := twoDigits (n / 100) ++ twoDigits (n % 100)

def Instant.spelled (t : Instant) : Bytes :=
  fourDigits t.year ++ [45] ++ twoDigits t.month ++ [45] ++ twoDigits t.day ++ [84] ++
    twoDigits t.hour ++ [58] ++ twoDigits t.minute ++ [58] ++ twoDigits t.second ++
    (if t.fraction = [] then [] else 46 :: t.fraction.map digitByte) ++ [90]

end Instants

section Digits

lemma digit_cases : ∀ c : UInt8, 48 ≤ c ∧ c ≤ 57 → c = digitByte (c.toNat - 48) ∧ c.toNat - 48 < 10 := by
  apply Hex.forall_byte
  decide +kernel

lemma foldlM_digits {bytes : Bytes} {value n : ℕ} (h : value < 10 ^ (9 - bytes.length))
    (hlength : bytes.length ≤ 9) :
    bytes.foldlM (fun value byte => if 48 ≤ byte ∧ byte ≤ 57 then pushDigit value byte else none) value =
        some n ↔
      (∀ c ∈ bytes, 48 ≤ c ∧ c ≤ 57) ∧
        bytes.foldl (fun n byte => n * 10 + (byte.toNat - 48)) value = n := by
  induction bytes generalizing value with
  | nil => simp
  | cons c bytes ih =>
    rw [List.length_cons] at h hlength
    rw [List.foldlM_cons, List.forall_mem_cons, List.foldl_cons]
    by_cases hc : 48 ≤ c ∧ c ≤ 57
    · obtain ⟨-, hlt⟩ := digit_cases c hc
      have hpower : 10 ^ (9 - bytes.length) = 10 ^ (9 - (bytes.length + 1)) * 10 := by
        rw [← pow_succ]
        congr 1
        omega
      have hnext : value * 10 + (c.toNat - 48) < 10 ^ (9 - bytes.length) := by omega
      have hbound : 10 ^ (9 - bytes.length) ≤ 10 ^ 9 := Nat.pow_le_pow_right (by decide) (by omega)
      have hpush : pushDigit value c = some (value * 10 + (c.toNat - 48)) := by
        rw [pushDigit, if_pos]
        omega
      rw [if_pos hc, hpush, Option.bind_eq_bind, Option.bind_some, ih hnext (by omega)]
      simp [hc]
    · rw [if_neg hc]
      simp [hc]

lemma decimalDigits_ok {bytes : Bytes} {n : ℕ} (h : bytes.length ≤ 9) : decimalDigits bytes = some n ↔
    (∀ c ∈ bytes, 48 ≤ c ∧ c ≤ 57) ∧ SourceManifest.digitsValue bytes = n :=
  foldlM_digits (Nat.pow_pos (by decide)) h

lemma decimalDigits_two {a b : UInt8} {n : ℕ} :
    decimalDigits [a, b] = some n ↔ n < 100 ∧ [a, b] = twoDigits n := by
  rw [decimalDigits_ok (by simp), List.forall_mem_cons, List.forall_mem_singleton]
  simp only [SourceManifest.digitsValue, List.foldl_cons, List.foldl_nil, twoDigits, List.cons.injEq,
    and_true]
  constructor
  · rintro ⟨⟨ha, hb⟩, rfl⟩
    obtain ⟨hdigitA, hltA⟩ := digit_cases a ha
    obtain ⟨hdigitB, hltB⟩ := digit_cases b hb
    exact ⟨by omega, hdigitA.trans (congrArg digitByte (by omega)),
      hdigitB.trans (congrArg digitByte (by omega))⟩
  · rintro ⟨hn, rfl, rfl⟩
    obtain ⟨hrange, hvalue⟩ := digitByte_spec (n / 10) (by omega)
    obtain ⟨hrange', hvalue'⟩ := digitByte_spec (n % 10) (by omega)
    refine ⟨⟨hrange, hrange'⟩, ?_⟩
    omega

lemma decimalDigits_four {a b c d : UInt8} {n : ℕ} :
    decimalDigits [a, b, c, d] = some n ↔ n < 10000 ∧ [a, b, c, d] = fourDigits n := by
  have hparts : decimalDigits [a, b, c, d] = some n ↔ ∃ high low, decimalDigits [a, b] = some high ∧
      decimalDigits [c, d] = some low ∧ high * 100 + low = n := by
    rw [decimalDigits_ok (by simp)]
    constructor
    · rintro ⟨hdigits, hvalue⟩
      simp only [List.forall_mem_cons, List.not_mem_nil, IsEmpty.forall_iff, implies_true] at hdigits
      refine ⟨_, _, (decimalDigits_ok (by simp)).mpr ⟨?_, rfl⟩,
        (decimalDigits_ok (by simp)).mpr ⟨?_, rfl⟩, ?_⟩
      · simpa using ⟨hdigits.1, hdigits.2.1⟩
      · simpa using ⟨hdigits.2.2.1, hdigits.2.2.2.1⟩
      · simp only [SourceManifest.digitsValue, List.foldl_cons, List.foldl_nil] at hvalue ⊢
        omega
    · rintro ⟨high, low, hhigh, hlow, hvalue⟩
      obtain ⟨hab, rfl⟩ := (decimalDigits_ok (by simp)).mp hhigh
      obtain ⟨hcd, rfl⟩ := (decimalDigits_ok (by simp)).mp hlow
      refine ⟨?_, ?_⟩
      · simp only [List.forall_mem_cons, List.not_mem_nil, IsEmpty.forall_iff, implies_true] at hab hcd ⊢
        exact ⟨hab.1, hab.2.1, hcd.1, hcd.2.1, trivial⟩
      · simp only [SourceManifest.digitsValue, List.foldl_cons, List.foldl_nil] at hvalue ⊢
        omega
  rw [hparts]
  constructor
  · rintro ⟨high, low, hhigh, hlow, rfl⟩
    obtain ⟨hlt, hab⟩ := decimalDigits_two.mp hhigh
    obtain ⟨hlt', hcd⟩ := decimalDigits_two.mp hlow
    have hdiv : (high * 100 + low) / 100 = high := by omega
    have hmod : (high * 100 + low) % 100 = low := by omega
    refine ⟨by omega, ?_⟩
    rw [fourDigits, hdiv, hmod, ← hab, ← hcd]
    rfl
  · rintro ⟨hn, h⟩
    have hsplit : [a, b] ++ [c, d] = twoDigits (n / 100) ++ twoDigits (n % 100) := h
    obtain ⟨hab, hcd⟩ := List.append_inj hsplit rfl
    exact ⟨n / 100, n % 100, decimalDigits_two.mpr ⟨by omega, hab⟩,
      decimalDigits_two.mpr ⟨by omega, hcd⟩, by omega⟩

end Digits

section Spellings

lemma isLeapYear_iff (year : ℕ) : isLeapYear year = true ↔ Leap year := by
  simp [isLeapYear, Leap, Nat.dvd_iff_mod_eq_zero]

lemma daysInMonth_eq {year month : ℕ} (h : 1 ≤ month ∧ month ≤ 12) :
    daysInMonth year month = monthLength year month := by
  obtain ⟨hfirst, hlast⟩ := h
  interval_cases month <;> simp [daysInMonth, monthLength, isLeapYear_iff]

lemma rangeOf_ok {bytes : Bytes} {i j : ℕ} (hi : i ≤ j) (hj : j ≤ bytes.length) :
    rangeOf bytes i j = .ok (slice bytes i (j - i)) := by
  rw [rangeOf, getRange, if_pos ⟨hi, hj⟩]

/-- What follows the seconds: the zone, or a fraction and the zone. -/
def Tail (c : UInt8) (rest : Bytes) : Prop :=
  c = 90 ∧ rest = [] ∨ ∃ fraction, c = 46 ∧ rest = fraction ++ [90] ∧ fraction ≠ [] ∧
    fraction.length ≤ 9 ∧ (∀ d ∈ fraction, 48 ≤ d ∧ d ≤ 57) ∧ fraction.getLast? ≠ some 48

structure Fields where
  year : ℕ
  month : ℕ
  day : ℕ
  hour : ℕ
  minute : ℕ
  second : ℕ

def Fields.Valid (f : Fields) : Prop :=
  (1 ≤ f.month ∧ f.month ≤ 12) ∧ (1 ≤ f.day ∧ f.day ≤ daysInMonth f.year f.month) ∧ f.hour ≤ 23 ∧
    f.minute ≤ 59 ∧ f.second ≤ 59

variable {c₀ c₁ c₂ c₃ c₄ c₅ c₆ c₇ c₈ c₉ c₁₀ c₁₁ c₁₂ c₁₃ c₁₄ c₁₅ c₁₆ c₁₇ c₁₈ c₁₉ : UInt8} {rest : Bytes}

def checkTail (bytes : Bytes) : Result Unit :=
  if 22 ≤ bytes.length ∧ bytes.length ≤ 30 then do
    let b19 ← item bytes 19
    let last ← item bytes (bytes.length - 1)
    report (ensure (b19 = 46 ∧ last = 90) "timestamp fraction is not UTC RFC3339Nano")
    let fraction ← rangeOf bytes 20 (bytes.length - 1)
    report (ensure (∀ c ∈ fraction, 48 ≤ c ∧ c ≤ 57) "timestamp fraction is not decimal")
    report (ensure (fraction.getLast? ≠ some 48)
      "timestamp fraction has a noncanonical trailing zero")
  else do
    let b19 ← item bytes 19
    report (ensure (b19 = 90) "timestamp is not canonical UTC")

/-- The bytes of a timestamp up to the one behind its seconds, and the rest. -/
structure Cut (b : Bytes) (c₀ c₁ c₂ c₃ c₄ c₅ c₆ c₇ c₈ c₉ c₁₀ c₁₁ c₁₂ c₁₃ c₁₄ c₁₅ c₁₆ c₁₇ c₁₈ c₁₉ : UInt8)
    (rest : Bytes) : Prop where
  bytes : b = [c₀, c₁, c₂, c₃, c₄, c₅, c₆, c₇, c₈, c₉, c₁₀, c₁₁, c₁₂, c₁₃, c₁₄, c₁₅, c₁₆, c₁₇, c₁₈, c₁₉] ++
    rest

variable {b : Bytes}

lemma Cut.length (h : Cut b c₀ c₁ c₂ c₃ c₄ c₅ c₆ c₇ c₈ c₉ c₁₀ c₁₁ c₁₂ c₁₃ c₁₄ c₁₅ c₁₆ c₁₇ c₁₈ c₁₉ rest) :
    b.length = rest.length + 20 := by
  rw [h.bytes, List.length_append, Nat.add_comm]
  rfl

lemma checkTail_ok
    (h : Cut b c₀ c₁ c₂ c₃ c₄ c₅ c₆ c₇ c₈ c₉ c₁₀ c₁₁ c₁₂ c₁₃ c₁₄ c₁₅ c₁₆ c₁₇ c₁₈ c₁₉ rest) :
    b.length ≤ 30 ∧ (b.length = 20 ∨ 22 ≤ b.length ∧ b.length ≤ 30) ∧ checkTail b = .ok () ↔
      Tail c₁₉ rest := by
  have hlength := h.length
  have h19 : (item b 19 : Result UInt8) = .ok c₁₉ := by
    rw [h.bytes]
    rfl
  rw [checkTail, h19, Tail]
  by_cases hfraction : 22 ≤ b.length ∧ b.length ≤ 30
  · obtain ⟨fraction, last, rfl⟩ : ∃ fraction last, rest = fraction ++ [last] := by
      have hne : rest ≠ [] := by
        rintro rfl
        rw [List.length_nil] at hlength
        omega
      exact ⟨_, _, (List.dropLast_append_getLast hne).symm⟩
    rw [List.length_append, List.length_singleton] at hlength
    have hlast : (item b (b.length - 1) : Result UInt8) = .ok last := by
      rw [item_ok, h.bytes, ← List.append_assoc]
      have hindex : ∀ xs : Bytes, (xs ++ [last])[(xs ++ [last]).length - 1]? = some last := by
        intro xs
        rw [List.length_append, List.length_singleton, Nat.add_sub_cancel, List.getElem?_concat_length]
      exact hindex _
    have hrange : rangeOf b 20 (b.length - 1) = .ok fraction := by
      have hcount : b.length - 1 - 20 = fraction.length := by omega
      rw [rangeOf_ok (by omega) (by omega), hcount, h.bytes, slice]
      congr 1
      exact List.take_left
    rw [if_pos hfraction, ok_bind, hlast, ok_bind, hrange]
    simp only [ok_bind, bind_ok, exists_unit, report_ok, ensure_ok]
    constructor
    · rintro ⟨-, -, ⟨hdot, hzone⟩, hdigits, hnonzero⟩
      refine .inr ⟨fraction, hdot, by rw [hzone], ?_, by omega, hdigits, hnonzero⟩
      rintro rfl
      rw [List.length_nil] at hlength
      omega
    · rintro (⟨-, hnil⟩ | ⟨fraction', hdot, heq, -, hshort, hdigits, hnonzero⟩)
      · exact absurd hnil (by simp)
      · obtain ⟨rfl, hzone⟩ := List.append_inj' heq rfl
        exact ⟨by omega, .inr hfraction, ⟨hdot, List.singleton_inj.mp hzone⟩, hdigits, hnonzero⟩
  · rw [if_neg hfraction, ok_bind, report_ok, ensure_ok]
    constructor
    · rintro ⟨-, hcases, hzone⟩
      refine .inl ⟨hzone, List.length_eq_zero_iff.mp ?_⟩
      omega
    · rintro (⟨hzone, rfl⟩ | ⟨fraction, -, rfl, hne, hshort, -, -⟩)
      · rw [List.length_nil] at hlength
        exact ⟨by omega, .inl hlength, hzone⟩
      · have hpos := List.length_pos_of_ne_nil hne
        rw [List.length_append, List.length_singleton] at hlength
        omega

lemma validate_cut
    (h : Cut b c₀ c₁ c₂ c₃ c₄ c₅ c₆ c₇ c₈ c₉ c₁₀ c₁₁ c₁₂ c₁₃ c₁₄ c₁₅ c₁₆ c₁₇ c₁₈ c₁₉ rest) :
    validateRfc3339NanoUtc b = .ok () ↔
      (c₄ = 45 ∧ c₇ = 45 ∧ c₁₀ = 84 ∧ c₁₃ = 58 ∧ c₁₆ = 58) ∧
      (∃ f : Fields, decimalDigits [c₀, c₁, c₂, c₃] = some f.year ∧
        decimalDigits [c₅, c₆] = some f.month ∧ decimalDigits [c₈, c₉] = some f.day ∧
        decimalDigits [c₁₁, c₁₂] = some f.hour ∧ decimalDigits [c₁₄, c₁₅] = some f.minute ∧
        decimalDigits [c₁₇, c₁₈] = some f.second ∧ f.Valid) ∧ Tail c₁₉ rest := by
  have hlength := h.length
  have hitem : ∀ {i : ℕ} {c : UInt8}, b[i]? = some c → (item b i : Result UInt8) = .ok c :=
    fun hc => item_ok.mpr hc
  have h4 := hitem (i := 4) (c := c₄) (by rw [h.bytes]; rfl)
  have h7 := hitem (i := 7) (c := c₇) (by rw [h.bytes]; rfl)
  have h10 := hitem (i := 10) (c := c₁₀) (by rw [h.bytes]; rfl)
  have h13 := hitem (i := 13) (c := c₁₃) (by rw [h.bytes]; rfl)
  have h16 := hitem (i := 16) (c := c₁₆) (by rw [h.bytes]; rfl)
  have hslice : ∀ {i j : ℕ} {part : Bytes}, i ≤ j → j ≤ 20 → slice b i (j - i) = part →
      ∀ error, fieldAt b i j error = report (context error (decimalDigits part)) := by
    rintro i j part hi hj rfl error
    rw [fieldAt, rangeOf_ok hi (by omega), ok_bind]
  have hyear := hslice (i := 0) (j := 4) (by decide) (by decide) (by rw [h.bytes])
  have hmonth := hslice (i := 5) (j := 7) (by decide) (by decide) (by rw [h.bytes])
  have hday := hslice (i := 8) (j := 10) (by decide) (by decide) (by rw [h.bytes])
  have hhour := hslice (i := 11) (j := 13) (by decide) (by decide) (by rw [h.bytes])
  have hminute := hslice (i := 14) (j := 16) (by decide) (by decide) (by rw [h.bytes])
  have hsecond := hslice (i := 17) (j := 19) (by decide) (by decide) (by rw [h.bytes])
  rw [← checkTail_ok h]
  simp only [validateRfc3339NanoUtc, h4, h7, h10, h13, h16, hyear, hmonth, hday, hhour, hminute, hsecond,
    ok_bind, bind_ok, exists_unit, report_ok, ensure_ok, context_ok, decide_eq_true_eq]
  constructor
  · rintro ⟨hbound, hcases, hseparators, year, hyear, month, hmonth, day, hday, hour, hhour, minute,
      hminute, second, hsecond, v₁, v₂, v₃, v₄, v₅, htail⟩
    exact ⟨hseparators, ⟨⟨year, month, day, hour, minute, second⟩, hyear, hmonth, hday, hhour, hminute,
      hsecond, v₁, v₂, v₃, v₄, v₅⟩, hbound, hcases, htail⟩
  · rintro ⟨hseparators, ⟨f, hyear, hmonth, hday, hhour, hminute, hsecond, v₁, v₂, v₃, v₄, v₅⟩, hbound,
      hcases, htail⟩
    exact ⟨hbound, hcases, hseparators, f.year, hyear, f.month, hmonth, f.day, hday, f.hour, hhour,
      f.minute, hminute, f.second, hsecond, v₁, v₂, v₃, v₄, v₅, htail⟩

lemma exists_cut (h : 20 ≤ b.length) :
    ∃ c₀ c₁ c₂ c₃ c₄ c₅ c₆ c₇ c₈ c₉ c₁₀ c₁₁ c₁₂ c₁₃ c₁₄ c₁₅ c₁₆ c₁₇ c₁₈ c₁₉ rest,
      Cut b c₀ c₁ c₂ c₃ c₄ c₅ c₆ c₇ c₈ c₉ c₁₀ c₁₁ c₁₂ c₁₃ c₁₄ c₁₅ c₁₆ c₁₇ c₁₈ c₁₉ rest := by
  have hget : ∀ i (hi : i < 20), b.drop i = b[i] :: b.drop (i + 1) :=
    fun i hi => List.drop_eq_getElem_cons (by omega)
  refine ⟨b[0], b[1], b[2], b[3], b[4], b[5], b[6], b[7], b[8], b[9], b[10], b[11], b[12], b[13], b[14],
    b[15], b[16], b[17], b[18], b[19], b.drop 20, ⟨?_⟩⟩
  conv_lhs => rw [← List.drop_zero (l := b)]
  simp only [hget 0, hget 1, hget 2, hget 3, hget 4, hget 5, hget 6, hget 7, hget 8, hget 9, hget 10,
    hget 11, hget 12, hget 13, hget 14, hget 15, hget 16, hget 17, hget 18, hget 19, Nat.reduceLT,
    Nat.reduceAdd, List.cons_append, List.nil_append]

end Spellings

section Acceptance

variable {b : Bytes}

lemma map_digitByte_digits {fraction : Bytes} (h : ∀ c ∈ fraction, 48 ≤ c ∧ c ≤ 57) :
    (fraction.map fun c => c.toNat - 48).map digitByte = fraction := by
  rw [List.map_map]
  calc fraction.map (digitByte ∘ fun c => c.toNat - 48)
      = fraction.map id := List.map_congr_left fun c hc => (digit_cases c (h c hc)).1.symm
    _ = fraction := List.map_id fraction

lemma digitByte_zero {d : ℕ} (h : d < 10) : digitByte d = 48 ↔ d = 0 := by
  have hall : ∀ d < 10, digitByte d = 48 ↔ d = 0 := by decide
  exact hall d h

lemma tail_spelled {c : UInt8} {rest : Bytes} : Tail c rest ↔ ∃ fraction : List ℕ, fraction.length ≤ 9 ∧
    (∀ d ∈ fraction, d < 10) ∧ fraction.getLast? ≠ some 0 ∧
      c :: rest = (if fraction = [] then [] else 46 :: fraction.map digitByte) ++ [90] := by
  constructor
  · rintro (⟨rfl, rfl⟩ | ⟨fraction, rfl, rfl, hne, hshort, hdigits, hlast⟩)
    · exact ⟨[], by simp, by simp, by simp, rfl⟩
    · refine ⟨fraction.map fun c => c.toNat - 48, by simpa using hshort, ?_, ?_, ?_⟩
      · intro d hd
        obtain ⟨c, hc, rfl⟩ := List.mem_map.mp hd
        exact (digit_cases c (hdigits c hc)).2
      · rw [List.getLast?_map]
        intro hzero
        obtain ⟨c, hc, hvalue⟩ := Option.map_eq_some_iff.mp hzero
        apply hlast
        rw [hc, (digit_cases c (hdigits c (List.mem_of_getLast? hc))).1, hvalue]
        rfl
      · rw [if_neg (by simpa using hne), map_digitByte_digits hdigits]
        rfl
  · rintro ⟨fraction, hshort, hdigits, hlast, heq⟩
    by_cases hne : fraction = []
    · rw [if_pos hne] at heq
      obtain ⟨rfl, rfl⟩ := List.cons.inj heq
      exact .inl ⟨rfl, rfl⟩
    · rw [if_neg hne, List.cons_append] at heq
      obtain ⟨rfl, rfl⟩ := List.cons.inj heq
      refine .inr ⟨fraction.map digitByte, rfl, rfl, by simpa using hne, by simpa using hshort, ?_, ?_⟩
      · intro c hc
        obtain ⟨d, hd, rfl⟩ := List.mem_map.mp hc
        exact (digitByte_spec d (hdigits d hd)).1
      · rw [List.getLast?_map]
        intro hzero
        obtain ⟨d, hd, hvalue⟩ := Option.map_eq_some_iff.mp hzero
        exact hlast (hd.trans (congrArg some
          ((digitByte_zero (hdigits d (List.mem_of_getLast? hd))).mp hvalue)))

lemma validateRfc3339NanoUtc_ok : validateRfc3339NanoUtc b = .ok () ↔ ∃ t : Instant, b = t.spelled := by
  constructor
  · intro h
    have hlength : 20 ≤ b.length := by
      simp only [validateRfc3339NanoUtc, bind_ok, exists_unit, report_ok, ensure_ok,
        decide_eq_true_eq] at h
      obtain ⟨-, hcases, -⟩ := h
      omega
    obtain ⟨c₀, c₁, c₂, c₃, c₄, c₅, c₆, c₇, c₈, c₉, c₁₀, c₁₁, c₁₂, c₁₃, c₁₄, c₁₅, c₁₆, c₁₇, c₁₈, c₁₉,
      rest, hcut⟩ := exists_cut hlength
    obtain ⟨⟨rfl, rfl, rfl, rfl, rfl⟩, ⟨f, hyear, hmonth, hday, hhour, hminute, hsecond, hmonth', hday',
      hhour', hminute', hsecond'⟩, htail⟩ := (validate_cut hcut).mp h
    obtain ⟨hyearBound, hyear⟩ := decimalDigits_four.mp hyear
    obtain ⟨-, hmonth⟩ := decimalDigits_two.mp hmonth
    obtain ⟨-, hday⟩ := decimalDigits_two.mp hday
    obtain ⟨-, hhour⟩ := decimalDigits_two.mp hhour
    obtain ⟨-, hminute⟩ := decimalDigits_two.mp hminute
    obtain ⟨-, hsecond⟩ := decimalDigits_two.mp hsecond
    obtain ⟨fraction, hshort, hdigits, hlast, hrest⟩ := tail_spelled.mp htail
    rw [daysInMonth_eq hmonth'] at hday'
    refine ⟨⟨f.year, f.month, f.day, f.hour, f.minute, f.second, fraction, hyearBound, hmonth', hday',
      by omega, by omega, by omega, hshort, hdigits, hlast⟩, ?_⟩
    rw [hcut.bytes, Instant.spelled, ← hyear, ← hmonth, ← hday, ← hhour, ← hminute, ← hsecond,
      List.append_assoc _ _ [90], ← hrest]
    rfl
  · rintro ⟨t, rfl⟩
    obtain ⟨c, rest, hrest⟩ : ∃ c rest, c :: rest =
        (if t.fraction = [] then [] else 46 :: t.fraction.map digitByte) ++ [90] := by
      split
      · exact ⟨90, [], rfl⟩
      · exact ⟨46, _, rfl⟩
    have htail : Tail c rest :=
      tail_spelled.mpr ⟨t.fraction, t.fraction_length, t.fraction_digits, t.fraction_last, hrest⟩
    have hbytes : t.spelled = fourDigits t.year ++ [45] ++ twoDigits t.month ++ [45] ++
        twoDigits t.day ++ [84] ++ twoDigits t.hour ++ [58] ++ twoDigits t.minute ++ [58] ++
        twoDigits t.second ++ (c :: rest) := by
      rw [hrest, Instant.spelled, List.append_assoc _ _ [90]]
    have hday := t.day_mem
    have hmonth := t.month_mem
    have hmonthLength : monthLength t.year t.month ≤ 31 := by
      rw [monthLength]
      split
      · split <;> omega
      · split <;> omega
    have hmonths : t.month < 100 := by omega
    have hdays : t.day < 100 := by omega
    have hhours : t.hour < 100 ∧ t.hour ≤ 23 := by
      have := t.hour_lt
      omega
    have hminutes : t.minute < 100 ∧ t.minute ≤ 59 := by
      have := t.minute_lt
      omega
    have hseconds : t.second < 100 ∧ t.second ≤ 59 := by
      have := t.second_lt
      omega
    rw [← daysInMonth_eq hmonth] at hday
    exact (validate_cut ⟨hbytes⟩).mpr ⟨⟨rfl, rfl, rfl, rfl, rfl⟩,
      ⟨⟨t.year, t.month, t.day, t.hour, t.minute, t.second⟩,
        decimalDigits_four.mpr ⟨t.year_lt, rfl⟩, decimalDigits_two.mpr ⟨hmonths, rfl⟩,
        decimalDigits_two.mpr ⟨hdays, rfl⟩, decimalDigits_two.mpr ⟨hhours.1, rfl⟩,
        decimalDigits_two.mpr ⟨hminutes.1, rfl⟩, decimalDigits_two.mpr ⟨hseconds.1, rfl⟩, hmonth, hday,
        hhours.2, hminutes.2, hseconds.2⟩, htail⟩

lemma rangeOf_ne_outOfRange {i j : ℕ} (hi : i ≤ j) (hj : j ≤ b.length) :
    rangeOf b i j ≠ .error .outOfRange := by
  rw [rangeOf_ok hi hj]
  simp

lemma validateRfc3339NanoUtc_in_range (b : Bytes) :
    validateRfc3339NanoUtc b ≠ .error .outOfRange := by
  rw [validateRfc3339NanoUtc]
  refine bind_ne_error (report_ne_outOfRange _) fun _ _ => ?_
  refine bind_ne_error (report_ne_outOfRange _) fun _ hcases => ?_
  rw [report_ok, ensure_ok, decide_eq_true_eq] at hcases
  have hlength : 20 ≤ b.length := by omega
  have hfield : ∀ {i j : ℕ} {error : String}, i ≤ j → j ≤ 20 → fieldAt b i j error ≠ .error .outOfRange :=
    fun hi hj => bind_ne_error (rangeOf_ne_outOfRange hi (by omega)) fun _ _ => report_ne_outOfRange _
  refine bind_ne_error (item_ne_outOfRange (by omega)) fun _ _ => ?_
  refine bind_ne_error (item_ne_outOfRange (by omega)) fun _ _ => ?_
  refine bind_ne_error (item_ne_outOfRange (by omega)) fun _ _ => ?_
  refine bind_ne_error (item_ne_outOfRange (by omega)) fun _ _ => ?_
  refine bind_ne_error (item_ne_outOfRange (by omega)) fun _ _ => ?_
  refine bind_ne_error (report_ne_outOfRange _) fun _ _ => ?_
  refine bind_ne_error (hfield (by decide) (by decide)) fun _ _ => ?_
  refine bind_ne_error (hfield (by decide) (by decide)) fun _ _ => ?_
  refine bind_ne_error (hfield (by decide) (by decide)) fun _ _ => ?_
  refine bind_ne_error (hfield (by decide) (by decide)) fun _ _ => ?_
  refine bind_ne_error (hfield (by decide) (by decide)) fun _ _ => ?_
  refine bind_ne_error (hfield (by decide) (by decide)) fun _ _ => ?_
  refine bind_ne_error (report_ne_outOfRange _) fun _ _ => ?_
  refine bind_ne_error (report_ne_outOfRange _) fun _ _ => ?_
  refine bind_ne_error (report_ne_outOfRange _) fun _ _ => ?_
  refine bind_ne_error (report_ne_outOfRange _) fun _ _ => ?_
  refine bind_ne_error (report_ne_outOfRange _) fun _ _ => ?_
  by_cases hfraction : decide (22 ≤ b.length ∧ b.length ≤ runcCreatedTimestampMaxBytes) = true
  · have hlong : 22 ≤ b.length := (decide_eq_true_eq.mp hfraction).1
    rw [if_pos hfraction]
    refine bind_ne_error (item_ne_outOfRange (by omega)) fun _ _ => ?_
    refine bind_ne_error (item_ne_outOfRange (by omega)) fun _ _ => ?_
    refine bind_ne_error (report_ne_outOfRange _) fun _ _ => ?_
    refine bind_ne_error (rangeOf_ne_outOfRange (by omega) (by omega)) fun _ _ => ?_
    exact bind_ne_error (report_ne_outOfRange _) fun _ _ => report_ne_outOfRange _
  · rw [if_neg hfraction]
    exact bind_ne_error (item_ne_outOfRange (by omega)) fun _ _ => report_ne_outOfRange _

end Acceptance

end Eip0045.Runtime
