import Mathlib
import Eip0045.Library.CommonParts
import Eip0045.Mutation.ByteEdits

/-! The byte edit that takes a base to an output, and its agreement with the replay. -/

namespace Eip0045.Mutation

open Bytes Checked CommonParts
open RawSeal.Producer (B4ByteOperation)

section Derivation

/-- `a - b` on lengths, which stops below zero. -/
def difference (a b : ℕ) : Result ℕ := do
  ensure (b ≤ a) .outOfRange
  pure (a - b)

def closedByteOperation (before replacement : Bytes) (offset : ℕ) : Except String B4ByteOperation :=
  if before = [] then
    if replacement = [] then
      .error "registry source change is not one exact closed byte operation"
    else .ok (.insert (Hex.encode replacement) offset)
  else if replacement = [] then .ok (.delete (Hex.encode before) offset)
  else if before.length = replacement.length then
    .ok (.replace (Hex.encode before) (Hex.encode replacement) offset)
  else .error "registry source change is not one exact closed byte operation"

def deriveExactByteOperation (base output : Bytes) : Result B4ByteOperation := do
  let commonPrefix := agreeing base output
  let suffixBound ← difference (min base.length output.length) commonPrefix
  let baseRest ← range base commonPrefix base.length
  let outputRest ← range output commonPrefix output.length
  let commonSuffix := agreeingBack suffixBound baseRest outputRest
  let baseEnd ← difference base.length commonSuffix
  let before ← range base commonPrefix baseEnd
  let outputEnd ← difference output.length commonSuffix
  let replacement ← range output commonPrefix outputEnd
  report (ensure (commonPrefix < 2 ^ 64) "byte-edit offset exceeds u64")
  report (closedByteOperation before replacement commonPrefix)

end Derivation

section Trimming

variable {base output : Bytes} {p s : ℕ}

/-- Buffers that agree on their first `p` and their last `s` bytes, as far as these do not overlap. -/
structure Trimmed (base output : Bytes) (p s : ℕ) : Prop where
  fits : p + s ≤ base.length
  fits' : p + s ≤ output.length
  start : base.take p = output.take p
  stop : base.drop (base.length - s) = output.drop (output.length - s)
  longest : ∀ n, n ≤ base.length → n ≤ output.length → base.take n = output.take n → n ≤ p
  longest' : ∀ n, p + n ≤ base.length → p + n ≤ output.length →
    base.drop (base.length - n) = output.drop (output.length - n) → n ≤ s

def between (bytes : Bytes) (p s : ℕ) : Bytes := slice bytes p (bytes.length - s - p)

lemma between_length {bytes : Bytes} (h : p + s ≤ bytes.length) :
    (between bytes p s).length = bytes.length - s - p := slice_length (by omega)

lemma trimmed_split {bytes : Bytes} (h : p + s ≤ bytes.length) :
    bytes.take p ++ between bytes p s ++ bytes.drop (bytes.length - s) = bytes := by
  have hsplit := split_at bytes p (bytes.length - s - p)
  rwa [show p + (bytes.length - s - p) = bytes.length - s by omega] at hsplit

lemma difference_pass {a b : ℕ} (h : b ≤ a) : difference a b = .ok (a - b) := by
  rw [difference, ensure_pass h, ok_bind]
  rfl

lemma drop_rest {bytes : Bytes} {n : ℕ} (h : p + n ≤ bytes.length) :
    (bytes.drop p).drop ((bytes.drop p).length - n) = bytes.drop (bytes.length - n) := by
  rw [List.drop_drop, List.length_drop, show p + (bytes.length - p - n) = bytes.length - n by omega]

lemma trimmed_agreeing (base output : Bytes) : Trimmed base output (agreeing base output)
    (agreeingBack (min base.length output.length - agreeing base output)
      (base.drop (agreeing base output)) (output.drop (agreeing base output))) := by
  obtain ⟨hp, hp'⟩ := agreeing_le base output
  obtain ⟨hs, -⟩ := agreeingBack_le (min base.length output.length - agreeing base output)
    (base.drop (agreeing base output)) (output.drop (agreeing base output))
  have hstop := drop_agreeingBack (min base.length output.length - agreeing base output)
    (base.drop (agreeing base output)) (output.drop (agreeing base output))
  refine ⟨by omega, by omega, take_agreeing base output, ?_, fun n => le_agreeing, ?_⟩
  · rwa [drop_rest (by omega), drop_rest (by omega)] at hstop
  · intro n hn hn' h
    apply le_agreeingBack
    · omega
    · rw [List.length_drop]
      omega
    · rw [List.length_drop]
      omega
    · rw [drop_rest hn, drop_rest hn', h]

lemma derive_eq (base output : Bytes) : ∃ p s, Trimmed base output p s ∧
    deriveExactByteOperation base output = (do
      report (ensure (p < 2 ^ 64) "byte-edit offset exceeds u64")
      report (closedByteOperation (between base p s) (between output p s) p)) := by
  have htrimmed := trimmed_agreeing base output
  obtain ⟨hp, hp'⟩ := agreeing_le base output
  have hfits := htrimmed.fits
  have hfits' := htrimmed.fits'
  refine ⟨_, _, htrimmed, ?_⟩
  simp only [deriveExactByteOperation]
  rw [difference_pass (by omega), ok_bind, range_inside hp le_rfl, ok_bind, range_inside hp' le_rfl,
    ok_bind, slice_tail, slice_tail, difference_pass (by omega), ok_bind,
    range_inside (by omega) (Nat.sub_le _ _), ok_bind, difference_pass (by omega), ok_bind,
    range_inside (by omega) (Nat.sub_le _ _), ok_bind]
  rfl

lemma deriveExactByteOperation_ne_outOfRange (base output : Bytes) :
    deriveExactByteOperation base output ≠ .error .outOfRange := by
  obtain ⟨p, s, -, h⟩ := derive_eq base output
  rw [h]
  apply bind_ne_error (report_ne_outOfRange _)
  intro _ _
  exact report_ne_outOfRange _

end Trimming

section Replay

variable {base output : Bytes} {p s : ℕ} {operation : B4ByteOperation}

lemma spellsBytes_encode {bytes : Bytes} (hne : bytes ≠ []) (h : bytes.length ≤ 128) :
    SpellsBytes (Hex.encode bytes) ∧ spelled (Hex.encode bytes) = bytes := by
  have hpos := List.length_pos_iff.mpr hne
  have hlength := Hex.encode_length bytes
  refine ⟨⟨by omega, by omega, Hex.encode_isLower bytes, ?_⟩, ?_⟩
  · rw [← List.length_pos_iff]
    omega
  · rw [spelled, Hex.decode_encode, Option.getD_some]

lemma Trimmed.slice_base (h : Trimmed base output p s) :
    slice base p (between base p s).length = between base p s := by
  rw [between_length h.fits]
  rfl

lemma Trimmed.edited_eq (h : Trimmed base output p s) :
    base.take p ++ between output p s ++ base.drop (p + (between base p s).length) = output := by
  have hfits := h.fits
  rw [between_length h.fits, show p + (base.length - s - p) = base.length - s by omega, h.start, h.stop,
    trimmed_split h.fits']

lemma derived_replays (hbase : base.length ≤ maxMaterializationBytes)
    (houtput : output.length ≤ maxMaterializationBytes) (h : Trimmed base output p s) (hne : base ≠ output)
    (hsmall : (between base p s).length ≤ 128) (hsmall' : (between output p s).length ≤ 128)
    (hkind : between base p s = [] ∨ between output p s = [] ∨
      (between base p s).length = (between output p s).length) :
    ∃ operation, closedByteOperation (between base p s) (between output p s) p = .ok operation ∧
      reconstructByteEdit base operation = .ok output := by
  have hmax : maxMaterializationBytes + 128 < b4MaxJcsSafeInteger := by decide
  have hfits := h.fits
  have hlength := between_length h.fits
  have hedited := h.edited_eq
  by_cases hbefore : between base p s = []
  · by_cases hreplacement : between output p s = []
    · rw [hbefore, hreplacement, List.append_nil, List.length_nil, Nat.add_zero,
        List.take_append_drop] at hedited
      exact absurd hedited hne
    · obtain ⟨hspells, hspelled⟩ := spellsBytes_encode hreplacement hsmall'
      rw [hbefore, List.length_nil, Nat.add_zero] at hedited
      refine ⟨_, (if_pos hbefore).trans (if_neg hreplacement), reconstructByteEdit_ok.mpr
        ⟨hbase, ⟨hspells, ?_⟩, (by omega : p ≤ base.length), ?_, ?_⟩⟩
      · rw [hspelled]
        omega
      · rwa [edited, hspelled, hedited]
      · rw [edited, hspelled, hedited]
  · obtain ⟨hspells, hspelled⟩ := spellsBytes_encode hbefore hsmall
    have hwitness : p + (spelled (Hex.encode (between base p s))).length ≤ base.length ∧
        slice base p (spelled (Hex.encode (between base p s))).length =
          spelled (Hex.encode (between base p s)) := by
      rw [hspelled]
      exact ⟨by omega, h.slice_base⟩
    have hrange : p + (spelled (Hex.encode (between base p s))).length ≤ b4MaxJcsSafeInteger := by
      have := hwitness.1
      omega
    by_cases hreplacement : between output p s = []
    · rw [hreplacement, List.append_nil] at hedited
      refine ⟨_, (if_neg hbefore).trans (if_pos hreplacement), reconstructByteEdit_ok.mpr
        ⟨hbase, ⟨hspells, hrange⟩, hwitness, ?_, ?_⟩⟩
      · rwa [edited, hspelled, hedited]
      · rw [edited, hspelled, hedited]
    · obtain ⟨hspells', hspelled'⟩ := spellsBytes_encode hreplacement hsmall'
      have hsame : (between base p s).length = (between output p s).length := by
        obtain hkind | hkind | hkind := hkind
        · exact absurd hkind hbefore
        · exact absurd hkind hreplacement
        · exact hkind
      have hdiffer : Hex.encode (between base p s) ≠ Hex.encode (between output p s) := by
        intro heq
        rw [← hspelled, ← hspelled', heq] at hedited
        rw [← heq, hspelled] at hedited
        have hsplit := split_at base p (between base p s).length
        rw [h.slice_base, hedited] at hsplit
        exact hne hsplit.symm
      refine ⟨_, (if_neg hbefore).trans ((if_neg hreplacement).trans (if_pos hsame)),
        reconstructByteEdit_ok.mpr
          ⟨hbase, ⟨hspells, hspells', ?_, hdiffer, hrange⟩, hwitness, ?_, ?_⟩⟩
      · rw [hspelled, hspelled', hsame]
      · rwa [edited, hspelled, hspelled', hedited]
      · rw [edited, hspelled, hspelled', hedited]

lemma SpellsBytes.length_le {value : Bytes} (h : SpellsBytes value) : (spelled value).length ≤ 128 := by
  have hbound := h.1
  have hlength := h.decode.2.1
  omega

lemma Trimmed.start_le (h : Trimmed base output p s) {a x y c : Bytes} (hbase : base = a ++ x ++ c)
    (houtput : output = a ++ y ++ c) : a.length ≤ p := by
  apply h.longest
  · rw [hbase, List.length_append, List.length_append]
    omega
  · rw [houtput, List.length_append, List.length_append]
    omega
  · rw [hbase, houtput, List.append_assoc, List.append_assoc, List.take_left, List.take_left]

lemma drop_end {a c : Bytes} {n : ℕ} (h : n ≤ c.length) :
    (a ++ c).drop ((a ++ c).length - n) = c.drop (c.length - n) := by
  rw [List.length_append, Nat.add_sub_assoc h, List.drop_length_add_append]

lemma Trimmed.le_stop (h : Trimmed base output p s) {a x y c : Bytes} (hbase : base = a ++ x ++ c)
    (houtput : output = a ++ y ++ c) {n : ℕ} (hc : n ≤ c.length) (hn : p + n ≤ base.length)
    (hn' : p + n ≤ output.length) : n ≤ s := by
  apply h.longest' n hn hn'
  rw [hbase, houtput, drop_end hc, drop_end hc]

lemma Trimmed.between_kind (h : Trimmed base output p s) {a x y c : Bytes} (hbase : base = a ++ x ++ c)
    (houtput : output = a ++ y ++ c) (hx : x.length ≤ 128) (hy : y.length ≤ 128)
    (hkind : x.length = 0 ∨ y.length = 0 ∨ x.length = y.length) :
    (between base p s).length ≤ 128 ∧ (between output p s).length ≤ 128 ∧
      (between base p s = [] ∨ between output p s = [] ∨
        (between base p s).length = (between output p s).length) := by
  have hstart := h.start_le hbase houtput
  have hlength : base.length = a.length + x.length + c.length := by
    rw [hbase, List.length_append, List.length_append]
  have hlength' : output.length = a.length + y.length + c.length := by
    rw [houtput, List.length_append, List.length_append]
  have hfits := h.fits
  have hfits' := h.fits'
  have hstop := h.le_stop hbase houtput (n := min c.length (min base.length output.length - p))
    (by omega) (by omega) (by omega)
  rw [← List.length_eq_zero_iff, ← List.length_eq_zero_iff, between_length h.fits, between_length h.fits']
  omega

lemma edited_parts (h : Admitted operation) (hw : Witnessed base operation)
    (hkind : ∀ beforeHex newLength originalLength, operation ≠ .truncate beforeHex newLength originalLength) :
    ∃ a x y c, base = a ++ x ++ c ∧ edited base operation = a ++ y ++ c ∧ x.length ≤ 128 ∧
      y.length ≤ 128 ∧ (x.length = 0 ∨ y.length = 0 ∨ x.length = y.length) := by
  cases operation with
  | delete beforeHex offset =>
    refine ⟨base.take offset, spelled beforeHex, [], base.drop (offset + (spelled beforeHex).length), ?_, ?_,
      h.1.length_le, Nat.zero_le _, .inr (.inl rfl)⟩
    · have hsplit := split_at base offset (spelled beforeHex).length
      rw [hw.2] at hsplit
      exact hsplit.symm
    · rw [edited, List.append_nil]
  | insert insertedHex offset =>
    refine ⟨base.take offset, [], spelled insertedHex, base.drop offset, ?_, rfl, Nat.zero_le _,
      h.1.length_le, .inl rfl⟩
    rw [List.append_nil, List.take_append_drop]
  | replace beforeHex replacementHex offset =>
    obtain ⟨hhex, hhex', hlengths, -⟩ := h
    refine ⟨base.take offset, spelled beforeHex, spelled replacementHex,
      base.drop (offset + (spelled beforeHex).length), ?_, rfl, hhex.length_le, hhex'.length_le,
      .inr (.inr hlengths)⟩
    have hsplit := split_at base offset (spelled beforeHex).length
    rw [hw.2] at hsplit
    exact hsplit.symm
  | truncate beforeHex newLength originalLength => exact absurd rfl (hkind _ _ _)

lemma derivation_complete {operation : B4ByteOperation}
    (hkind : ∀ beforeHex newLength originalLength, operation ≠ .truncate beforeHex newLength originalLength)
    (h : reconstructByteEdit base operation = .ok output) :
    ∃ derived, deriveExactByteOperation base output = .ok derived ∧
      reconstructByteEdit base derived = .ok output := by
  have hmax : maxMaterializationBytes < 2 ^ 64 := by decide
  obtain ⟨hbase, hadmitted, hw, hbound, houtput⟩ := reconstructByteEdit_ok.mp h
  rw [← houtput] at hbound
  have hne : base ≠ output := by
    rw [houtput]
    exact (edited_ne hadmitted hw).symm
  obtain ⟨a, x, y, c, hparts, hparts', hx, hy, hmiddle⟩ := edited_parts hadmitted hw hkind
  obtain ⟨p, s, htrimmed, hderive⟩ := derive_eq base output
  obtain ⟨hsmall, hsmall', hbetween⟩ := htrimmed.between_kind hparts (houtput.trans hparts') hx hy hmiddle
  obtain ⟨derived, hclosed, hreplay⟩ :=
    derived_replays hbase hbound htrimmed hne hsmall hsmall' hbetween
  have hfits := htrimmed.fits
  refine ⟨derived, ?_, hreplay⟩
  rw [hderive, hclosed, ensure_pass (by omega)]
  rfl

end Replay

end Eip0045.Mutation
