import Eip0045.Library.JcsReference
import Eip0045.Runtime.Timestamp

/-! Boot identifiers: the lower-case spellings of random UUIDs. -/

namespace Eip0045.Runtime

open Bytes Checked

section Spelling

/-- A UUID of version 4 and of the variant of RFC 4122. -/
structure BootUuid where
  bytes : Bytes
  length_eq : bytes.length = 16
  version : (bytes.getD 6 0).toNat / 16 = 4
  variant : (bytes.getD 8 0).toNat / 64 = 2

def hyphen : Bytes := [45]

/-- Groups of eight, four, four, four and twelve digits. -/
def BootUuid.spelled (u : BootUuid) : Bytes :=
  Hex.encode (slice u.bytes 0 4) ++ hyphen ++ Hex.encode (slice u.bytes 4 2) ++ hyphen ++
    Hex.encode (slice u.bytes 6 2) ++ hyphen ++ Hex.encode (slice u.bytes 8 2) ++ hyphen ++
      Hex.encode (slice u.bytes 10 6)

end Spelling

section Positions

/-- Where the pairs of digits begin in a text of `n` bytes. -/
def positions (n i : ℕ) : List ℕ :=
  if i < n then if i ∈ hyphens then positions n (i + 1) else i :: positions n (i + 2) else []
termination_by n - i
decreasing_by all_goals omega

def pairAt (b : Bytes) (i : ℕ) : Result UInt8 := do
  let first ← item b i
  let high ← report (context "bootId is not lowercase hex" (lowercaseHexNibble first))
  let second ← item b (i + 1)
  let low ← report (context "bootId is not lowercase hex" (lowercaseHexNibble second))
  pure (high <<< 4 ||| low)

variable {b d : Bytes} {i o : ℕ}

lemma positions_uuid : positions 36 0 = [0, 2, 4, 6, 9, 11, 14, 16, 19, 21, 24, 26, 28, 30, 32, 34] := by
  simp [positions, hyphens]

lemma decodePairs_eq (h : o + (positions b.length i).length ≤ d.length) : decodePairs b i o d =
    (positions b.length i).mapM (pairAt b) >>= fun pairs =>
      pure (d.take o ++ pairs ++ d.drop (o + pairs.length)) := by
  induction i, o, d using decodePairs.induct b with
  | case1 i o d hi hhyphen ih =>
    rw [positions, if_pos hi, if_pos hhyphen] at h ⊢
    rw [decodePairs, dif_pos hi, if_pos hhyphen, ih h]
  | case2 i o d hi hhyphen ih =>
    rw [positions, if_pos hi, if_neg hhyphen, List.length_cons] at h
    rw [positions, if_pos hi, if_neg hhyphen, decodePairs, dif_pos hi, if_neg hhyphen, List.mapM_cons,
      pairAt]
    simp only [bind_assoc, pure_bind]
    have hstore : ∀ v, store d o v = .ok (d.set o v) := fun v => if_pos (by omega)
    congr 1
    funext first
    congr 1
    funext high
    congr 1
    funext second
    congr 1
    funext low
    rw [hstore, ok_bind, ih _ (by rw [List.length_set]; omega)]
    congr 1
    funext pairs
    have htake : (d.set o (high <<< 4 ||| low)).take (o + 1) = d.take o ++ [high <<< 4 ||| low] := by
      rw [List.take_add_one, List.getElem?_set_self (by omega), List.take_set_of_le (Nat.le_refl o)]
      rfl
    rw [htake, List.drop_set_of_lt (by omega), List.length_cons, List.append_assoc _ [_],
      Nat.add_assoc, Nat.add_comm 1]
    rfl
  | case3 i o d hi =>
    rw [decodePairs, dif_neg hi, positions, if_neg hi]
    simp

end Positions

section Nibbles

lemma nibbles_checked (c : UInt8) :
    (lowercaseHexNibble (Hex.digit (c / 16)) = some (c / 16) ∧
      lowercaseHexNibble (Hex.digit (c % 16)) = some (c % 16) ∧ (c / 16) <<< 4 ||| c % 16 = c) ∧
    (lowercaseHexNibble c = none ∨
      ∃ n < 16, lowercaseHexNibble c = some (UInt8.ofNat n) ∧ c = Hex.digit (UInt8.ofNat n)) ∧
    (Hex.digit (c / 16) = 52 ↔ c.toNat / 16 = 4) ∧ (Hex.digit (c / 16) ∈ utf8 "89ab" ↔ c.toNat / 64 = 2) := by
  revert c
  apply Hex.forall_byte
  decide +kernel

lemma lowercaseHexNibble_digit (c : UInt8) : lowercaseHexNibble (Hex.digit (c / 16)) = some (c / 16) ∧
    lowercaseHexNibble (Hex.digit (c % 16)) = some (c % 16) ∧ (c / 16) <<< 4 ||| c % 16 = c :=
  (nibbles_checked c).1

lemma lowercaseHexNibble_cases (c : UInt8) : lowercaseHexNibble c = none ∨
    ∃ n < 16, lowercaseHexNibble c = some (UInt8.ofNat n) ∧ c = Hex.digit (UInt8.ofNat n) :=
  (nibbles_checked c).2.1

lemma lowercaseHexNibble_range {c v : UInt8} (h : lowercaseHexNibble c = some v) :
    ∃ n < 16, v = UInt8.ofNat n ∧ c = Hex.digit v := by
  obtain hnone | ⟨n, hn, hsome, hdigit⟩ := lowercaseHexNibble_cases c
  · rw [hnone] at h
    cases h
  · rw [hsome, Option.some.injEq] at h
    exact ⟨n, hn, h.symm, h ▸ hdigit⟩

lemma joined_halves : ∀ m < 16, ∀ n < 16,
    (UInt8.ofNat m <<< 4 ||| UInt8.ofNat n) / 16 = UInt8.ofNat m ∧
      (UInt8.ofNat m <<< 4 ||| UInt8.ofNat n) % 16 = UInt8.ofNat n := by
  decide

variable {b : Bytes} {i : ℕ} {v : UInt8}

lemma pairAt_ok : pairAt b i = .ok v ↔
    b[i]? = some (Hex.digit (v / 16)) ∧ b[i + 1]? = some (Hex.digit (v % 16)) := by
  simp only [pairAt, bind_ok, item_ok, report_ok, context_ok, pure_ok]
  constructor
  · rintro ⟨first, hfirst, high, hhigh, second, hsecond, low, hlow, rfl⟩
    obtain ⟨m, hm, rfl, rfl⟩ := lowercaseHexNibble_range hhigh
    obtain ⟨n, hn, rfl, rfl⟩ := lowercaseHexNibble_range hlow
    obtain ⟨hdiv, hmod⟩ := joined_halves m hm n hn
    rw [hdiv, hmod]
    exact ⟨hfirst, hsecond⟩
  · rintro ⟨hfirst, hsecond⟩
    obtain ⟨hhigh, hlow, hjoined⟩ := lowercaseHexNibble_digit v
    exact ⟨_, hfirst, _, hhigh, _, hsecond, _, hlow, hjoined⟩

end Nibbles

section Text

/-- The spelling from position `i` on. -/
def spelledFrom (n i : ℕ) (pairs : Bytes) : Bytes :=
  if i < n then
    if i ∈ hyphens then 45 :: spelledFrom n (i + 1) pairs
    else match pairs with
      | [] => []
      | v :: rest => Hex.digit (v / 16) :: Hex.digit (v % 16) :: spelledFrom n (i + 2) rest
  else []
termination_by n - i
decreasing_by all_goals omega

variable {b d t : Bytes} {c : UInt8} {i n : ℕ}

lemma drop_eq_cons : b.drop i = c :: t ↔ b[i]? = some c ∧ b.drop (i + 1) = t := by
  by_cases hi : i < b.length
  · rw [List.drop_eq_getElem_cons hi, List.getElem?_eq_getElem hi, List.cons.injEq, Option.some.injEq]
  · rw [List.drop_of_length_le (by omega), List.getElem?_eq_none (by omega)]
    simp

lemma drop_eq_spelledFrom (hn : b.length = n) (hpositions : ∀ p ∈ positions n i, p + 1 ∉ hyphens) :
    (∀ p ∈ hyphens, i ≤ p → p < n → b[p]? = some 45) ∧
        List.Forall₂ (fun p v => pairAt b p = .ok v) (positions n i) d ↔
      b.drop i = spelledFrom n i d ∧ d.length = (positions n i).length := by
  induction i using positions.induct n generalizing d with
  | case1 i hi hhyphen ih =>
    rw [positions, if_pos hi, if_pos hhyphen] at hpositions ⊢
    rw [spelledFrom.eq_def, if_pos hi, if_pos hhyphen, drop_eq_cons, and_assoc, ← ih hpositions]
    constructor
    · rintro ⟨hhyphens, hpairs⟩
      exact ⟨hhyphens i hhyphen (Nat.le_refl i) hi, fun p hp hip => hhyphens p hp (by omega), hpairs⟩
    · rintro ⟨hfirst, hhyphens, hpairs⟩
      refine ⟨fun p hp hip hpn => ?_, hpairs⟩
      obtain rfl | hlt := Nat.eq_or_lt_of_le hip
      · exact hfirst
      · exact hhyphens p hp hlt hpn
  | case2 i hi hhyphen ih =>
    rw [positions, if_pos hi, if_neg hhyphen, List.forall_mem_cons] at hpositions
    have hnext : (∀ p ∈ hyphens, i ≤ p → p < n → b[p]? = some 45) ↔
        ∀ p ∈ hyphens, i + 2 ≤ p → p < n → b[p]? = some 45 := by
      constructor
      · exact fun h p hp hip => h p hp (by omega)
      · intro h p hp hip
        have hfirst : p ≠ i := fun heq => hhyphen (heq ▸ hp)
        have hsecond : p ≠ i + 1 := fun heq => hpositions.1 (heq ▸ hp)
        exact h p hp (by omega)
    rw [positions, if_pos hi, if_neg hhyphen, hnext, spelledFrom.eq_def, if_pos hi, if_neg hhyphen]
    cases d with
    | nil => simp
    | cons v d =>
      rw [List.forall₂_cons, pairAt_ok, drop_eq_cons, drop_eq_cons, List.length_cons, List.length_cons,
        Nat.add_right_cancel_iff, and_left_comm, ih hpositions.2]
      tauto
  | case3 i hi =>
    rw [positions, if_neg hi, spelledFrom.eq_def, if_neg hi, List.drop_of_length_le (by omega)]
    simp only [List.forall₂_nil_left_iff, List.length_nil, List.length_eq_zero_iff, true_and]
    exact and_iff_right fun p hp hip hpn => absurd hpn (by omega)

lemma spelledFrom_group {pairs : Bytes} (h : ∀ k < pairs.length, i + 2 * k < n ∧ i + 2 * k ∉ hyphens) :
    spelledFrom n i (pairs ++ d) = Hex.encode pairs ++ spelledFrom n (i + 2 * pairs.length) d := by
  induction pairs generalizing i with
  | nil => rfl
  | cons v pairs ih =>
    obtain ⟨hi, hhyphen⟩ : i < n ∧ i ∉ hyphens := h 0 (Nat.zero_lt_succ _)
    have hrest : ∀ k < pairs.length, i + 2 + 2 * k < n ∧ i + 2 + 2 * k ∉ hyphens := by
      intro k hk
      have hnext := h (k + 1) (Nat.succ_lt_succ hk)
      rwa [Nat.mul_add, Nat.add_comm _ (2 * 1), ← Nat.add_assoc] at hnext
    rw [List.cons_append, spelledFrom.eq_def, if_pos hi, if_neg hhyphen]
    have hnext : i + 2 * (v :: pairs).length = i + 2 + 2 * pairs.length := by
      rw [List.length_cons]
      omega
    rw [hnext]
    exact congrArg ([Hex.digit (v / 16), Hex.digit (v % 16)] ++ ·) (ih hrest)

lemma spelledFrom_hyphen (hi : i < n) (h : i ∈ hyphens) :
    spelledFrom n i d = hyphen ++ spelledFrom n (i + 1) d := by
  rw [spelledFrom.eq_def, if_pos hi, if_pos h]
  rfl

lemma spelledFrom_uuid (hlength : d.length = 16) : spelledFrom 36 0 d =
    Hex.encode (slice d 0 4) ++ hyphen ++ Hex.encode (slice d 4 2) ++ hyphen ++
      Hex.encode (slice d 6 2) ++ hyphen ++ Hex.encode (slice d 8 2) ++ hyphen ++
        Hex.encode (slice d 10 6) := by
  have hgroup : ∀ i j k, j + k ≤ 16 → (∀ m < k, i + 2 * m < 36 ∧ i + 2 * m ∉ hyphens) →
      spelledFrom 36 i (d.drop j) =
        Hex.encode (slice d j k) ++ spelledFrom 36 (i + 2 * k) (d.drop (j + k)) := by
    intro i j k hjk hfree
    have hslice : (slice d j k).length = k := slice_length (by omega)
    have hsplit : d.drop j = slice d j k ++ d.drop (j + k) := by
      rw [slice, ← List.drop_drop, List.take_append_drop]
    rw [hsplit, spelledFrom_group (by rwa [hslice]), hslice]
  have hend : spelledFrom 36 36 (d.drop 16) = [] := by
    rw [spelledFrom.eq_def, if_neg (by decide)]
  calc spelledFrom 36 0 d
      = spelledFrom 36 0 (d.drop 0) := rfl
    _ = _ := by
      rw [hgroup 0 0 4 (by decide) (by decide), spelledFrom_hyphen (by decide) (by decide),
        hgroup 9 4 2 (by decide) (by decide), spelledFrom_hyphen (by decide) (by decide),
        hgroup 14 6 2 (by decide) (by decide), spelledFrom_hyphen (by decide) (by decide),
        hgroup 19 8 2 (by decide) (by decide), spelledFrom_hyphen (by decide) (by decide),
        hgroup 24 10 6 (by decide) (by decide), hend, List.append_nil]
      simp only [List.append_assoc]

end Text

section Acceptance

variable {b d : Bytes}

lemma version_digit (c : UInt8) : Hex.digit (c / 16) = 52 ↔ c.toNat / 16 = 4 := (nibbles_checked c).2.2.1

lemma variant_digit (c : UInt8) : Hex.digit (c / 16) ∈ utf8 "89ab" ↔ c.toNat / 64 = 2 :=
  (nibbles_checked c).2.2.2

lemma pair_first (hpairs : List.Forall₂ (fun p v => pairAt b p = .ok v) (positions 36 0) d) {k p : ℕ}
    (hp : (positions 36 0)[k]? = some p) : b[p]? = some (Hex.digit (d.getD k 0 / 16)) := by
  obtain ⟨hk, hget⟩ := List.getElem?_eq_some_iff.mp hp
  have hk' : k < d.length := hpairs.length_eq ▸ hk
  have hpair := hpairs.get hk hk'
  rw [List.get_eq_getElem, hget, List.get_eq_getElem] at hpair
  rw [List.getD_eq_getElem _ _ hk']
  exact (pairAt_ok.mp hpair).1

lemma decodePairs_ok (hlength : b.length = 36) : decodePairs b 0 0 (List.replicate 16 0) = .ok d ↔
    List.Forall₂ (fun p v => pairAt b p = .ok v) (positions 36 0) d := by
  have hcount : (positions b.length 0).length = 16 := by
    rw [hlength, positions_uuid]
    rfl
  rw [decodePairs_eq (by rw [hcount]; decide), ← mapM_forall₂, hlength]
  simp only [bind_ok, pure_ok]
  constructor
  · rintro ⟨pairs, hpairs, rfl⟩
    have hpairsLength : pairs.length = 16 := by
      rw [← (mapM_forall₂.mp hpairs).length_eq, ← hlength, hcount]
    simpa [hpairsLength] using hpairs
  · intro hpairs
    have hpairsLength : d.length = 16 := by
      rw [← (mapM_forall₂.mp hpairs).length_eq, ← hlength, hcount]
    exact ⟨d, hpairs, by simp [hpairsLength]⟩

lemma positions_odd : ∀ p ∈ positions 36 0, p + 1 ∉ hyphens := by
  rw [positions_uuid]
  decide

lemma decodeCanonicalBootUuid_iff : decodeCanonicalBootUuid b = .ok d ↔ b.length = 36 ∧
    (∀ p ∈ hyphens, b[p]? = some 45) ∧ b[14]? = some 52 ∧ (∃ c, b[19]? = some c ∧ c ∈ utf8 "89ab") ∧
      decodePairs b 0 0 (List.replicate 16 0) = .ok d := by
  simp only [decodeCanonicalBootUuid, bind_ok, exists_unit, report_ok, ensure_ok, item_ok, forM_ok,
    exists_eq_right]
  constructor
  · rintro ⟨hlength, hhyphens, c, hc, rfl, c', hc', hvariant, hpairs⟩
    exact ⟨hlength, hhyphens, hc, ⟨c', hc', hvariant⟩, hpairs⟩
  · rintro ⟨hlength, hhyphens, hversion, ⟨c', hc', hvariant⟩, hpairs⟩
    exact ⟨hlength, hhyphens, 52, hversion, rfl, c', hc', hvariant, hpairs⟩

lemma BootUuid.spelled_length (u : BootUuid) : u.spelled.length = 36 := by
  have hslice : ∀ i k, i + k ≤ 16 → (slice u.bytes i k).length = k :=
    fun i k hik => slice_length (by rw [u.length_eq]; exact hik)
  simp [BootUuid.spelled, Hex.encode_length, hslice, hyphen]

lemma decodeCanonicalBootUuid_ok : decodeCanonicalBootUuid b = .ok d ↔
    ∃ u : BootUuid, u.bytes = d ∧ b = u.spelled := by
  have hcount : (positions 36 0).length = 16 := by
    rw [positions_uuid]
    rfl
  have hsix : (positions 36 0)[6]? = some 14 := by
    rw [positions_uuid]
    rfl
  have height : (positions 36 0)[8]? = some 19 := by
    rw [positions_uuid]
    rfl
  have hinside : ∀ p ∈ hyphens, p < 36 := by decide
  rw [decodeCanonicalBootUuid_iff]
  constructor
  · rintro ⟨hlength, hhyphens, hversion, ⟨c, hc, hvariant⟩, hpairs⟩
    rw [decodePairs_ok hlength] at hpairs
    obtain ⟨htext, hd⟩ := (drop_eq_spelledFrom hlength positions_odd).mp
      ⟨fun p hp _ _ => hhyphens p hp, hpairs⟩
    rw [hcount] at hd
    rw [pair_first hpairs hsix, Option.some.injEq, version_digit] at hversion
    rw [pair_first hpairs height, Option.some.injEq] at hc
    rw [← hc, variant_digit] at hvariant
    refine ⟨⟨d, hd, hversion, hvariant⟩, rfl, ?_⟩
    rw [List.drop_zero, spelledFrom_uuid hd] at htext
    exact htext
  · rintro ⟨u, rfl, rfl⟩
    have hlength := u.spelled_length
    have htext : u.spelled = spelledFrom 36 0 u.bytes := (spelledFrom_uuid u.length_eq).symm
    obtain ⟨hhyphens, hpairs⟩ := (drop_eq_spelledFrom hlength positions_odd).mpr
      ⟨htext, u.length_eq.trans hcount.symm⟩
    refine ⟨hlength, fun p hp => hhyphens p hp (Nat.zero_le p) (hinside p hp), ?_, ?_,
      (decodePairs_ok hlength).mpr hpairs⟩
    · rw [pair_first hpairs hsix, (version_digit _).mpr u.version]
    · exact ⟨_, pair_first hpairs height, (variant_digit _).mpr u.variant⟩

lemma pairAt_ne_outOfRange {i : ℕ} (h : i + 1 < b.length) : pairAt b i ≠ .error .outOfRange := by
  refine bind_ne_error (item_ne_outOfRange (by omega)) fun _ _ => ?_
  refine bind_ne_error (report_ne_outOfRange _) fun _ _ => ?_
  refine bind_ne_error (item_ne_outOfRange h) fun _ _ => ?_
  refine bind_ne_error (report_ne_outOfRange _) fun _ _ => by simp [pure, Except.pure]

lemma decodeCanonicalBootUuid_in_range (b : Bytes) :
    decodeCanonicalBootUuid b ≠ .error .outOfRange := by
  have hinside : ∀ p ∈ hyphens, p < 36 := by decide
  have hpair : ∀ p ∈ positions 36 0, p + 1 < 36 := by
    rw [positions_uuid]
    decide
  rw [decodeCanonicalBootUuid]
  refine bind_ne_error (report_ne_outOfRange _) fun _ hlength => ?_
  rw [report_ok, ensure_ok] at hlength
  refine bind_ne_error (forM_ne_error fun p hp => ?_) fun _ _ => ?_
  · have hp := hinside p hp
    exact bind_ne_error (item_ne_outOfRange (by omega)) fun _ _ => report_ne_outOfRange _
  refine bind_ne_error (item_ne_outOfRange (by omega)) fun _ _ => ?_
  refine bind_ne_error (report_ne_outOfRange _) fun _ _ => ?_
  refine bind_ne_error (item_ne_outOfRange (by omega)) fun _ _ => ?_
  refine bind_ne_error (report_ne_outOfRange _) fun _ _ => ?_
  have hcount : 0 + (positions b.length 0).length ≤ (List.replicate 16 (0 : UInt8)).length := by
    rw [hlength, positions_uuid]
    decide
  rw [decodePairs_eq hcount]
  refine bind_ne_error (mapM_ne_error fun p hp => pairAt_ne_outOfRange ?_) fun _ _ h => (by cases h)
  rw [hlength] at hp ⊢
  exact hpair p hp

end Acceptance

end Eip0045.Runtime
