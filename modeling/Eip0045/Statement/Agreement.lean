import Eip0045.Library.Tiling
import Eip0045.Statement.ErgoStatement

/-! The statement codecs accept and produce the same bytes. -/

namespace Eip0045.Statement

open Bytes Checked Constants Tiling

lemma domain_length : ergoStatementDomain.length = 26 := by decide

section Layout

/-- The one layout of a statement with `n` payload bytes. -/
def layoutOf (n : ℕ) : ErgoStatementLayoutV1 :=
  ⟨⟨[⟨.chainDomainId, 27, 59⟩, ⟨.profileId, 59, 91⟩, ⟨.programId, 91, 123⟩,
    ⟨.contractId, 123, 155⟩, ⟨.payloadLength, 155, 159⟩, ⟨.applicationPayload, 159, 159 + n⟩], rfl⟩⟩

lemma next_ok {cursor width : ℕ} (field : ErgoStatementFieldV1) (h : cursor + width < 2 ^ 64) :
    ErgoStatementLayoutV1.next cursor field width =
      .ok (⟨field, cursor, cursor + width⟩, cursor + width) := by
  rw [ErgoStatementLayoutV1.next, checkedAdd_eq_some.mpr ⟨h, rfl⟩]
  rfl

lemma forPayloadLength_ok {n : ℕ} (hn : n ≤ maxApplicationPayloadBytes) :
    ErgoStatementLayoutV1.forPayloadLength n = .ok (layoutOf n) := by
  have hmax : n ≤ 16384 := hn
  have hdomain : checkedAdd ergoStatementDomain.length 1 = some 27 := by decide
  have hd : digestBytes = 32 := rfl
  have hend : 159 = statementPrefixBytes ∧ 159 + n ≤ maxStatementBytes :=
    ⟨rfl, Nat.add_le_add_left hn _⟩
  simp (disch := omega) only [ErgoStatementLayoutV1.forPayloadLength, ensure_pass hn, hdomain,
    context, hd, next_ok, ok_bind, Nat.reduceAdd, ensure_pass hend]
  rfl

variable (n : ℕ)

lemma span_chainDomainId : (layoutOf n).span .chainDomainId = ⟨.chainDomainId, 27, 59⟩ := rfl
lemma span_profileId : (layoutOf n).span .profileId = ⟨.profileId, 59, 91⟩ := rfl
lemma span_programId : (layoutOf n).span .programId = ⟨.programId, 91, 123⟩ := rfl
lemma span_contractId : (layoutOf n).span .contractId = ⟨.contractId, 123, 155⟩ := rfl
lemma span_payloadLength : (layoutOf n).span .payloadLength = ⟨.payloadLength, 155, 159⟩ := rfl
lemma span_applicationPayload :
    (layoutOf n).span .applicationPayload = ⟨.applicationPayload, 159, 159 + n⟩ := rfl

end Layout

section Encoder

def statementBytes (s : ErgoStatementV1) : Bytes :=
  ergoStatementDomain ++ [statementVersion] ++ s.chainDomainId.val ++ s.profileId.val ++
    s.programId.val ++ s.contractId.val ++ le32 (UInt32.ofNat s.applicationPayload.length) ++
    s.applicationPayload

lemma statementBytes_length (s : ErgoStatementV1) :
    (statementBytes s).length = 159 + s.applicationPayload.length := by
  simp only [statementBytes, List.length_append, domain_length, List.length_singleton,
    ByteArr.val_length, le32_length]

/-- The buffer after the fields `vs`, with `k` bytes still zero. -/
def written (vs : List Bytes) (k : ℕ) : Bytes := vs.flatten ++ List.replicate k 0

lemma written_length (vs : List Bytes) (k : ℕ) :
    (written vs k).length = vs.flatten.length + k := by
  rw [written, List.length_append, List.length_replicate]

lemma written_next {vs : List Bytes} {v : Bytes} {i n k : ℕ} (hi : i = vs.flatten.length)
    (hn : n = v.length + k) : overwrite (written vs n) i v = written (vs ++ [v]) k := by
  rw [written, hi, overwrite_next _ v hn, written, List.flatten_append, List.flatten_singleton]

lemma copyFromSlice_next {vs : List Bytes} {v : Bytes} {i n k : ℕ} (hi : i = vs.flatten.length)
    (hn : n = v.length + k) : copyFromSlice (written vs n) i v = .ok (written (vs ++ [v]) k) := by
  have hle : i + v.length ≤ (written vs n).length := by
    rw [written_length]
    omega
  rw [copyFromSlice, if_pos hle, written_next hi hn]

lemma writeField_next {vs : List Bytes} {v : Bytes} {n k i j : ℕ} (f : ErgoStatementFieldV1)
    (hi : i = vs.flatten.length) (hj : j = i + v.length) (hn : n = v.length + k) :
    writeField (written vs n) ⟨f, i, j⟩ v = .ok (written (vs ++ [v]) k) := by
  have hl : (⟨f, i, j⟩ : ErgoStatementFieldSpanV1).len = v.length := by
    change j - i = v.length
    omega
  have hle : i ≤ j ∧ j ≤ (written vs n).length := by
    rw [written_length]
    omega
  rw [writeField, ensure_pass hl, ok_bind, if_pos hle, written_next hi hn]
  rfl

/-- The fields of the buffer before the first typed one. -/
def head : List Bytes := [ergoStatementDomain, [statementVersion]]

lemma head_length : head.flatten.length = 27 := by decide

lemma write_head (n : ℕ) :
    (copyFromSlice (List.replicate (159 + n) 0) 0 ergoStatementDomain >>= fun bytes =>
      copyFromSlice bytes ergoStatementDomain.length [statementVersion]) =
      .ok (written head (132 + n)) := by
  have hd := domain_length
  have h₀ : copyFromSlice (written [] (159 + n)) 0 ergoStatementDomain =
      .ok (written [ergoStatementDomain] (133 + n)) :=
    copyFromSlice_next rfl (by omega)
  have h₁ : copyFromSlice (written [ergoStatementDomain] (133 + n)) ergoStatementDomain.length
      [statementVersion] = .ok (written head (132 + n)) :=
    copyFromSlice_next (by simp) (by simp; omega)
  change (copyFromSlice (written [] (159 + n)) 0 ergoStatementDomain >>= _) = _
  rw [h₀, ok_bind, h₁]

lemma encode_eq (s : ErgoStatementV1) : s.encode = .ok (statementBytes s) := by
  obtain ⟨c, p, g, t, a, ha⟩ := s
  have hb : a.length ≤ 16384 := ha
  have hd := head_length
  have hu : u32TryFrom a.length = some (UInt32.ofNat a.length) := if_pos (by omega)
  have hlen : (layoutOf a.length).statementLength = 159 + a.length := rfl
  obtain ⟨l, hl⟩ : ∃ l : Bytes, l = le32 (UInt32.ofNat a.length) := ⟨_, rfl⟩
  have hl4 : l.length = 4 := by rw [hl, le32_length]
  have h₂ : writeField (written head (132 + a.length)) ⟨.chainDomainId, 27, 59⟩ c.val =
      .ok (written (head ++ [c.val]) (100 + a.length)) :=
    writeField_next _ hd.symm (by simp) (by simp; omega)
  have h₃ : writeField (written (head ++ [c.val]) (100 + a.length)) ⟨.profileId, 59, 91⟩ p.val =
      .ok (written (head ++ [c.val] ++ [p.val]) (68 + a.length)) :=
    writeField_next _ (by simp [hd]) (by simp) (by simp; omega)
  have h₄ : writeField (written (head ++ [c.val] ++ [p.val]) (68 + a.length))
      ⟨.programId, 91, 123⟩ g.val =
      .ok (written (head ++ [c.val] ++ [p.val] ++ [g.val]) (36 + a.length)) :=
    writeField_next _ (by simp [hd]) (by simp) (by simp; omega)
  have h₅ : writeField (written (head ++ [c.val] ++ [p.val] ++ [g.val]) (36 + a.length))
      ⟨.contractId, 123, 155⟩ t.val =
      .ok (written (head ++ [c.val] ++ [p.val] ++ [g.val] ++ [t.val]) (4 + a.length)) :=
    writeField_next _ (by simp [hd]) (by simp) (by simp; omega)
  have h₆ : writeField (written (head ++ [c.val] ++ [p.val] ++ [g.val] ++ [t.val]) (4 + a.length))
      ⟨.payloadLength, 155, 159⟩ l =
      .ok (written (head ++ [c.val] ++ [p.val] ++ [g.val] ++ [t.val] ++ [l]) a.length) :=
    writeField_next _ (by simp [hd]) (by simp [hl4]) (by rw [hl4])
  have h₇ : writeField
      (written (head ++ [c.val] ++ [p.val] ++ [g.val] ++ [t.val] ++ [l]) a.length)
      ⟨.applicationPayload, 159, 159 + a.length⟩ a =
      .ok (written (head ++ [c.val] ++ [p.val] ++ [g.val] ++ [t.val] ++ [l] ++ [a]) 0) :=
    writeField_next _ (by simp [hd, hl4]) rfl rfl
  have hend : (written (head ++ [c.val] ++ [p.val] ++ [g.val] ++ [t.val] ++ [l] ++ [a]) 0).length =
      159 + a.length := by
    simp [written_length, hd, hl4]
    omega
  have hbytes : written (head ++ [c.val] ++ [p.val] ++ [g.val] ++ [t.val] ++ [l] ++ [a]) 0 =
      statementBytes ⟨c, p, g, t, a, ha⟩ := by
    simp [written, statementBytes, head, hl]
  have hw := write_head a.length
  rw [bind_ok] at hw
  obtain ⟨b, hw₀, hw₁⟩ := hw
  rw [← hbytes]
  simp only [ErgoStatementV1.encode, ErgoStatementV1.layout, hu, forPayloadLength_ok ha, context,
    report, ok_bind, hlen, hw₀, hw₁, span_chainDomainId, span_profileId, span_programId,
    span_contractId, span_payloadLength, span_applicationPayload, ← hl, h₂, h₃, h₄, h₅, h₆, h₇,
    ensure_pass hend]
  rfl

end Encoder

section Grammar

/-- The statement grammar at its byte offsets. -/
structure Grammar (b : Bytes) : Prop where
  lower : 159 ≤ b.length
  upper : b.length ≤ 16543
  domain : ergoStatementDomain <+: b
  version : b[26]? = some 1
  payload : leValue (slice b 155 4) = b.length - 159

def statementAt (b : Bytes) (h : b.length ≤ 16543) : ErgoStatementV1 where
  chainDomainId := ByteArr.atOffset 32 b 27
  profileId := ByteArr.atOffset 32 b 59
  programId := ByteArr.atOffset 32 b 91
  contractId := ByteArr.atOffset 32 b 123
  applicationPayload := slice b 159 (b.length - 159)
  bounded := by
    rw [slice, List.length_take, maxApplicationPayloadBytes]
    omega

variable {b : Bytes}

lemma Grammar.payload_length (g : Grammar b) :
    (slice b 159 (b.length - 159)).length = b.length - 159 := by
  have := g.lower
  exact slice_length (by omega)

lemma statementBytes_statementAt (g : Grammar b) : statementBytes (statementAt b g.upper) = b := by
  have hlow := g.lower
  have hdom : ergoStatementDomain = slice b 0 26 := by
    rw [← domain_length]
    exact (slice_initial g.domain).symm
  have hver : [statementVersion] = slice b 26 1 := by
    rw [slice_one (by omega), List.getD_eq_getElem?_getD, g.version]
    rfl
  have hlen : le32 (UInt32.ofNat (slice b 159 (b.length - 159)).length) = slice b 155 4 := by
    rw [g.payload_length, ← g.payload]
    exact le32_ofLe32 (slice_length (by omega))
  simp only [statementBytes, statementAt]
  rw [hdom, hver, hlen, ByteArr.atOffset_val (by omega), ByteArr.atOffset_val (by omega),
    ByteArr.atOffset_val (by omega), ByteArr.atOffset_val (by omega)]
  simp (disch := omega) only [slice_append]
  rw [show 26 + 1 + 32 + 32 + 32 + 32 + 4 + (b.length - 159) = b.length by omega, slice_all]

lemma grammar_statementBytes (s : ErgoStatementV1) : Grammar (statementBytes s) := by
  have hb : s.applicationPayload.length ≤ 16384 := s.bounded
  have hl := statementBytes_length s
  refine ⟨by omega, by omega, ?_, ?_, ?_⟩
  · simp only [statementBytes, List.append_assoc]
    exact List.prefix_append _ _
  · simp [statementBytes, domain_length, statementVersion]
  · have hslice : slice (statementBytes s) 155 4 =
        le32 (UInt32.ofNat s.applicationPayload.length) := by
      have h := slice_between (ergoStatementDomain ++ [statementVersion] ++ s.chainDomainId.val ++
        s.profileId.val ++ s.programId.val ++ s.contractId.val)
        (le32 (UInt32.ofNat s.applicationPayload.length)) s.applicationPayload
      simpa [domain_length, statementBytes] using h
    rw [hslice, hl, le32, leValue_leBytes (UInt32.toNat_lt _), UInt32.toNat_ofNat']
    omega

lemma statementBytes_injective : Function.Injective statementBytes := by
  intro s t h
  have hs := statementBytes_length s
  have ht := statementBytes_length t
  have hn : s.applicationPayload.length = t.applicationPayload.length := by
    rw [h] at hs
    omega
  rw [statementBytes, statementBytes] at h
  obtain ⟨h, hpayload⟩ := List.append_inj' h hn
  obtain ⟨h, -⟩ := List.append_inj' h (by simp)
  obtain ⟨h, hcontract⟩ := List.append_inj' h (by simp)
  obtain ⟨h, hprogram⟩ := List.append_inj' h (by simp)
  obtain ⟨h, hprofile⟩ := List.append_inj' h (by simp)
  obtain ⟨-, hchain⟩ := List.append_inj' h (by simp)
  exact ErgoStatementV1.ext (Subtype.ext hchain) (Subtype.ext hprofile) (Subtype.ext hprogram)
    (Subtype.ext hcontract) hpayload

end Grammar

section Parser

variable {b : Bytes}

lemma span_bytes {f : ErgoStatementFieldV1} {i j : ℕ} (hi : i ≤ j) (hj : j ≤ b.length) :
    (⟨f, i, j⟩ : ErgoStatementFieldSpanV1).bytes b = .ok (slice b i (j - i)) := by
  rw [ErgoStatementFieldSpanV1.bytes, if_pos ⟨hi, hj⟩]
  rfl

lemma digestField_ok {f : ErgoStatementFieldV1} {i : ℕ} (label : String)
    (h : i + 32 ≤ b.length) :
    digestField b ⟨f, i, i + 32⟩ label = .ok (ByteArr.atOffset 32 b i) := by
  have hs : slice b i (i + 32 - i) = (ByteArr.atOffset 32 b i).val := by
    rw [ByteArr.atOffset_val h, Nat.add_sub_cancel_left]
  have ho : ByteArr.ofBytes digestBytes (ByteArr.atOffset 32 b i).val =
    some (ByteArr.atOffset 32 b i) := ByteArr.ofBytes_val _
  rw [digestField, span_bytes (Nat.le_add_right _ _) h, ok_bind, hs, ho]
  rfl

lemma parse_sound {s : ErgoStatementV1} (h : parseErgoStatementV1 b = .ok s) :
    statementBytes s = b := by
  simp only [parseErgoStatementV1, bind_ok, exists_unit, report_ok, ensure_ok, pure_ok,
    encode_eq, Except.ok.injEq] at h
  obtain ⟨-, -, -, _, -, _, -, _, -, _, -, _, -, _, -, _, -, _, -, _, -, -, _, -, _, rfl, he, rfl⟩ := h
  exact he

lemma parse_complete (g : Grammar b) : parseErgoStatementV1 b = .ok (statementAt b g.upper) := by
  have hlow := g.lower
  have hup := g.upper
  have hn : b.length - 159 ≤ maxApplicationPayloadBytes := by
    change b.length - 159 ≤ 16384
    omega
  have hbounds : statementPrefixBytes ≤ b.length ∧ b.length ≤ maxStatementBytes := ⟨hlow, hup⟩
  have hver : b[ergoStatementDomain.length]? = some statementVersion := by
    rw [domain_length]
    exact g.version
  have hrest : (if statementPrefixBytes ≤ b.length then some (b.length - statementPrefixBytes)
      else none) = some (b.length - 159) := if_pos hlow
  have hlength : (⟨.payloadLength, 155, 159⟩ : ErgoStatementFieldSpanV1).bytes b =
      .ok (ByteArr.atOffset 4 b 155).val := by
    rw [span_bytes (by omega) (by omega), ByteArr.atOffset_val (by omega)]
  have hpayload : (⟨.applicationPayload, 159, 159 + (b.length - 159)⟩ :
      ErgoStatementFieldSpanV1).bytes b = .ok (slice b 159 (b.length - 159)) := by
    rw [span_bytes (by omega) (by omega), Nat.add_sub_cancel_left]
  have hdeclared : (ofLe32 (ByteArr.atOffset 4 b 155).val).toNat =
      (slice b 159 (b.length - 159)).length := by
    rw [ByteArr.atOffset_val (by omega), ofLe32_toNat (slice_length (by omega)), g.payload,
      g.payload_length]
  have hnew : ErgoStatementV1.new (ByteArr.atOffset 32 b 27) (ByteArr.atOffset 32 b 59)
      (ByteArr.atOffset 32 b 91) (ByteArr.atOffset 32 b 123) (slice b 159 (b.length - 159)) =
      .ok (statementAt b g.upper) := dif_pos _
  simp only [parseErgoStatementV1, ensure_pass hbounds, ensure_pass g.domain, ensure_pass hver,
    hrest, context, forPayloadLength_ok hn, report, ok_bind, span_chainDomainId, span_profileId,
    span_programId, span_contractId, span_payloadLength, span_applicationPayload,
    digestField_ok _ (show 27 + 32 ≤ b.length by omega),
    digestField_ok _ (show 59 + 32 ≤ b.length by omega),
    digestField_ok _ (show 91 + 32 ≤ b.length by omega),
    digestField_ok _ (show 123 + 32 ≤ b.length by omega), hlength, ByteArr.ofBytes_val, hpayload,
    ensure_pass hdeclared, hnew, encode_eq, statementBytes_statementAt g, ensure_pass]
  rfl

lemma parse_ok {s : ErgoStatementV1} :
    parseErgoStatementV1 b = .ok s ↔ statementBytes s = b := by
  refine ⟨parse_sound, fun h => ?_⟩
  have g : Grammar b := h ▸ grammar_statementBytes s
  rw [parse_complete g]
  exact congrArg Except.ok (statementBytes_injective ((statementBytes_statementAt g).trans h.symm))

/-- The spans of the six fields, in order, as positions of the encoding. -/
def fieldSpans (l : ErgoStatementLayoutV1) : List Span :=
  ErgoStatementFieldV1.all.map fun f => ⟨(l.span f).start, (l.span f).stop⟩

lemma layout_ok {s : ErgoStatementV1} : s.layout = .ok (layoutOf s.applicationPayload.length) :=
  forPayloadLength_ok s.bounded

lemma fieldSpans_eq (n : ℕ) : fieldSpans (layoutOf n) =
    [⟨27, 59⟩, ⟨59, 91⟩, ⟨91, 123⟩, ⟨123, 155⟩, ⟨155, 159⟩, ⟨159, 159 + n⟩] := rfl

lemma fieldSpans_tile (n : ℕ) : Tiles 27 (159 + n) (fieldSpans (layoutOf n)) := by
  rw [fieldSpans_eq]
  simp [Tiles]

lemma field_at (n : ℕ) {i : ℕ} (hi : 27 ≤ i) (hn : i < 159 + n) :
    ∃! f, ((layoutOf n).span f).start ≤ i ∧ i < ((layoutOf n).span f).stop := by
  have hall : ∀ f g, ((layoutOf n).span f).start ≤ i ∧ i < ((layoutOf n).span f).stop →
      ((layoutOf n).span g).start ≤ i ∧ i < ((layoutOf n).span g).stop → g = f := by
    intro f g hf hg
    cases f <;> cases g <;>
      simp only [span_chainDomainId, span_profileId, span_programId, span_contractId,
        span_payloadLength, span_applicationPayload, reduceCtorEq] at hf hg ⊢ <;> omega
  have hex : ∃ f, ((layoutOf n).span f).start ≤ i ∧ i < ((layoutOf n).span f).stop := by
    by_cases h₁ : i < 59
    · exact ⟨.chainDomainId, hi, h₁⟩
    by_cases h₂ : i < 91
    · exact ⟨.profileId, not_lt.mp h₁, h₂⟩
    by_cases h₃ : i < 123
    · exact ⟨.programId, not_lt.mp h₂, h₃⟩
    by_cases h₄ : i < 155
    · exact ⟨.contractId, not_lt.mp h₃, h₄⟩
    by_cases h₅ : i < 159
    · exact ⟨.payloadLength, not_lt.mp h₄, h₅⟩
    exact ⟨.applicationPayload, not_lt.mp h₅, hn⟩
  obtain ⟨f, hf⟩ := hex
  exact ⟨f, hf, fun g hg => hall f g hf hg⟩

end Parser

section Builder

lemma new_ok {c p g t : Digest} {a : Bytes} {s : ErgoStatementV1} :
    ErgoStatementV1.new c p g t a = .ok s ↔
      s.chainDomainId = c ∧ s.profileId = p ∧ s.programId = g ∧ s.contractId = t ∧
        s.applicationPayload = a := by
  rw [ErgoStatementV1.new]
  split
  · rename_i h
    constructor
    · intro hs
      cases hs
      exact ⟨rfl, rfl, rfl, rfl, rfl⟩
    · intro hs
      obtain ⟨rfl, rfl, rfl, rfl, rfl⟩ := hs
      rfl
  · rename_i h
    refine iff_of_false (by simp) ?_
    rintro ⟨-, -, -, -, rfl⟩
    exact h s.bounded

lemma fromContractId_ok {c p g t : Digest} {a b : Bytes} :
    ergoStatementV1FromContractId c p g t a = .ok b ↔
      ∃ s, ErgoStatementV1.new c p g t a = .ok s ∧ statementBytes s = b := by
  by_cases ha : a.length ≤ maxApplicationPayloadBytes
  · have hb : a.length ≤ 16384 := ha
    have hu : u32TryFrom a.length = some (UInt32.ofNat a.length) := if_pos (by omega)
    have hmul : checkedMul ergoStatementBoundDigests digestBytes = some 128 := by decide
    have hpre : ((checkedAdd ergoStatementDomain.length ergoStatementVersionBytes).bind
        fun length => (checkedAdd length 128).bind fun length =>
          checkedAdd length payloadLengthPrefixBytes) = some 159 := by decide
    have hsum : checkedAdd 159 a.length = some (159 + a.length) :=
      checkedAdd_eq_some.mpr ⟨by omega, rfl⟩
    have hmax : ¬159 + a.length > maxStatementBytes := by
      change ¬159 + a.length > 16543
      omega
    have hlen := statementBytes_length ⟨c, p, g, t, a, ha⟩
    have hnew : ErgoStatementV1.new c p g t a = .ok ⟨c, p, g, t, a, ha⟩ := dif_pos ha
    simp only [ergoStatementV1FromContractId, ensure_pass (not_lt.mpr ha), hu, hmul, hpre, hsum,
      context, ok_bind, requireLength, ensure_pass (show 159 = statementPrefixBytes from rfl),
      ensure_pass hmax, hnew, Except.ok.injEq, ↓existsAndEq, true_and, bind_ok, exists_unit,
      ensure_ok, pure_ok]
    exact ⟨fun h => h.2, fun h => ⟨hlen, h⟩⟩
  · have hnew : ¬∃ s, ErgoStatementV1.new c p g t a = .ok s ∧ statementBytes s = b := by
      rintro ⟨s, hs, -⟩
      obtain ⟨-, -, -, -, rfl⟩ := new_ok.mp hs
      exact ha s.bounded
    refine iff_of_false ?_ hnew
    simp only [ergoStatementV1FromContractId, bind_ok, exists_unit, ensure_ok]
    exact fun h => h.1 (not_le.mp ha)

end Builder

section Generator

variable {b : Bytes}

lemma indexOf_ok {i : ℕ} {x : UInt8} : indexOf b i = .ok x ↔ b[i]? = some x := by
  rw [indexOf]
  split
  · rename_i h
    rw [h, Except.ok.injEq, Option.some.injEq]
  · rename_i h
    simp [h]

lemma sliceOf_ok {i j : ℕ} {v : Bytes} :
    sliceOf b i j = .ok v ↔ (i ≤ j ∧ j ≤ b.length) ∧ slice b i (j - i) = v := by
  by_cases h : i ≤ j ∧ j ≤ b.length <;> simp [sliceOf, h]

lemma programIdOffset : statementProgramIdOffset = 91 := by decide
lemma contractIdOffset : statementContractIdOffset = 123 := by decide
lemma payloadLengthOffset : statementPayloadLengthOffset = 155 := by decide
lemma payloadOffset : statementPayloadOffset = 159 := by decide

lemma validate_iff {p : Digest} :
    validateErgoStatementV1 b p = .ok () ↔ Grammar b ∧ slice b 91 32 = p.val := by
  simp only [validateErgoStatementV1, statementVersionOffset, programIdOffset, contractIdOffset,
    payloadLengthOffset, payloadOffset, bind_ok, exists_unit, report_ok, ensure_ok, indexOf_ok,
    sliceOf_ok, context_ok, ByteArr.ofBytes_eq_some, checkedAdd_eq_some, domain_length]
  constructor
  · intro h
    obtain ⟨⟨hlow, hup⟩, -, hdom, _, hver, rfl, _, ⟨-, rfl⟩, hp, _, ⟨-, rfl⟩, l, hl, hmax, _,
      ⟨-, rfl⟩, hlen⟩ := h
    have hl4 : (slice b 155 4).length = 4 := slice_length (by
      have : 159 ≤ b.length := hlow
      omega)
    have hn : leValue (slice b 155 4) = b.length - 159 := by
      rw [hlen, ← hl, ofLe32_toNat hl4]
      exact (Nat.add_sub_cancel_left ..).symm
    exact ⟨⟨hlow, hup, hdom, hver, hn⟩, hp⟩
  · intro h
    obtain ⟨g, hp⟩ := h
    have hlow := g.lower
    have hup := g.upper
    have hl4 : (slice b 155 4).length = 4 := slice_length (by omega)
    have hn : (ofLe32 (slice b 155 4)).toNat = b.length - 159 := by
      rw [ofLe32_toNat hl4, g.payload]
    have hv : (ByteArr.atOffset 4 b 155).val = slice b 155 4 := ByteArr.atOffset_val (by omega)
    refine ⟨⟨hlow, hup⟩, rfl, g.domain, 1, g.version, rfl, slice b 91 32, ⟨by omega, rfl⟩, hp,
      slice b 155 4, ⟨by omega, rfl⟩, ByteArr.atOffset 4 b 155, hv.symm, ?_, b.length, ⟨?_, ?_⟩,
      rfl⟩
    · rw [hv, hn]
      change b.length - 159 ≤ 16384
      omega
    · rw [hv, hn]
      change 159 + (b.length - 159) < 2 ^ 64
      omega
    · rw [hv, hn]
      change 159 + (b.length - 159) = b.length
      omega

lemma validate_ok {p : Digest} :
    validateErgoStatementV1 b p = .ok () ↔
      ∃ s, parseErgoStatementV1 b = .ok s ∧ s.programId = p := by
  rw [validate_iff]
  constructor
  · intro h
    obtain ⟨g, hp⟩ := h
    have := g.lower
    refine ⟨_, parse_complete g, Subtype.ext ?_⟩
    rw [← hp]
    exact ByteArr.atOffset_val (by omega)
  · intro h
    obtain ⟨s, hs, rfl⟩ := h
    have g : Grammar b := parse_sound hs ▸ grammar_statementBytes s
    have := g.lower
    refine ⟨g, ?_⟩
    rw [parse_complete g] at hs
    cases hs
    exact (ByteArr.atOffset_val (by omega)).symm

lemma validate_in_range (b : Bytes) (p : Digest) :
    validateErgoStatementV1 b p ≠ .error .outOfRange := by
  rw [validateErgoStatementV1]
  refine bind_ne_error (report_ne_outOfRange _) fun _ hlen => ?_
  rw [report_ok, ensure_ok] at hlen
  have hlow : 159 ≤ b.length := hlen.1
  refine bind_ne_error (report_ne_outOfRange _) fun _ _ => ?_
  refine bind_ne_error (report_ne_outOfRange _) fun _ _ => ?_
  refine bind_ne_error ?_ fun _ _ => ?_
  · have hi : statementVersionOffset < b.length := by
      rw [statementVersionOffset, domain_length]
      omega
    rw [indexOf, List.getElem?_eq_getElem hi]
    exact nofun
  refine bind_ne_error (report_ne_outOfRange _) fun _ _ => ?_
  refine bind_ne_error ?_ fun _ _ => ?_
  · rw [sliceOf, programIdOffset, contractIdOffset, if_pos (by omega)]
    exact nofun
  refine bind_ne_error (report_ne_outOfRange _) fun _ _ => ?_
  refine bind_ne_error ?_ fun _ _ => ?_
  · rw [sliceOf, payloadLengthOffset, payloadOffset, if_pos (by omega)]
    exact nofun
  refine bind_ne_error (report_ne_outOfRange _) fun _ _ => ?_
  refine bind_ne_error (report_ne_outOfRange _) fun _ _ => ?_
  exact bind_ne_error (report_ne_outOfRange _) fun _ _ => report_ne_outOfRange _

end Generator

theorem ergo_statement_codecs_agree :
    (∀ c p g t a b, (report (ErgoStatementV1.new c p g t a) >>= ErgoStatementV1.encode) = .ok b ↔
      ergoStatementV1FromContractId c p g t a = .ok b) ∧
    (∀ c p g t a, (∃ b, ergoStatementV1FromContractId c p g t a = .ok b) ↔ a.length ≤ 16384) ∧
    (∀ c p g t a s, ErgoStatementV1.new c p g t a = .ok s ↔
      s.chainDomainId = c ∧ s.profileId = p ∧ s.programId = g ∧ s.contractId = t ∧
        s.applicationPayload = a) ∧
    (∀ b s, parseErgoStatementV1 b = .ok s ↔ s.encode = .ok b) ∧
    (∀ b s, parseErgoStatementV1 b = .ok s → ∃ l, s.layout = .ok l ∧
      Tiles 27 b.length (fieldSpans l) ∧
      ∀ i, 27 ≤ i → i < b.length → ∃! f, (l.span f).start ≤ i ∧ i < (l.span f).stop) ∧
    (∀ b p, validateErgoStatementV1 b p = .ok () ↔
      ∃ s, parseErgoStatementV1 b = .ok s ∧ s.programId = p) ∧
    (∀ b p, validateErgoStatementV1 b p ≠ .error .outOfRange) := by
  refine ⟨fun c p g t a b => ?_, fun c p g t a => ?_, fun c p g t a s => new_ok, fun b s => ?_,
    fun b s hs => ?_, fun b p => validate_ok, validate_in_range⟩
  · simp only [fromContractId_ok, bind_ok, report_ok, encode_eq, Except.ok.injEq]
  · simp only [fromContractId_ok]
    constructor
    · intro h
      obtain ⟨_, s, hs, -⟩ := h
      rw [← (new_ok.mp hs).2.2.2.2]
      exact s.bounded
    · intro h
      exact ⟨_, ⟨c, p, g, t, a, h⟩, new_ok.mpr ⟨rfl, rfl, rfl, rfl, rfl⟩, rfl⟩
  · rw [parse_ok, encode_eq, Except.ok.injEq]
  · have hl : b.length = 159 + s.applicationPayload.length := by
      rw [← parse_sound hs, statementBytes_length]
    refine ⟨_, layout_ok, ?_, fun i hi hn => ?_⟩
    · rw [hl]
      exact fieldSpans_tile _
    · rw [hl] at hn
      exact field_at _ hi hn

end Eip0045.Statement
