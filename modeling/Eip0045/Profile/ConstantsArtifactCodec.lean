import Eip0045.Profile.ConstantsArtifact

/-! The B2 decoder and encoder are inverse on the artifacts that `validate` accepts. -/

namespace Eip0045.B2Codec

open Bytes Checked Reading

section Reader

lemma readU8_exact : Exact readU8 (fun _ => True) (fun v => [v]) := u8_exact
lemma readU16_exact : Exact readU16 (fun _ => True) le16 := u16_exact
lemma readU32_exact : Exact readU32 (fun _ => True) le32 := u32_exact
lemma readArray_exact (n : ℕ) : Exact (readArray n) (fun _ => True) (·.val) := takeArray_exact n

lemma readAscii_exact (n : ℕ) :
    Exact (readAscii n) (fun b => b.length = n ∧ ∀ x ∈ b, x < 128) (fun b => b) := by
  intro c b c'
  simp only [readAscii, position_bind, (take_exact n).bind_iff, (require_exact _ _).bind_iff,
    pure_exact _ _ _ _, Cursor.advance_advance, id, List.length_nil, List.nil_prefix, Nat.add_zero,
    true_and, exists_const, ↓existsAndEq, and_assoc]
  exact ⟨fun ⟨hl, hp, ha, hc⟩ => ⟨hl, ha, hp, hc⟩, fun ⟨hl, ha, hp, hc⟩ => ⟨hl, hp, ha, hc⟩⟩

lemma readTap_exact : Exact readTap (fun _ => True) Tap.bytes := by
  rintro c ⟨g, o, b, k, s⟩ c'
  have hb : Tap.bytes ⟨g, o, b, k, s⟩ = [g] ++ [o] ++ [b] ++ [k] ++ [s] := rfl
  simp only [readTap, readU8_exact.bind_iff, pure_exact _ _ _ _, hb, Tap.mk.injEq,
    append_prefix_iff, Cursor.rest_advance, Cursor.advance_advance, List.length_append,
    List.length_nil, List.nil_prefix, Nat.add_assoc, Nat.add_zero, true_and, and_assoc,
    ↓existsAndEq]

lemma fail_exact {α : Type} {P : α → Prop} (e : String) (h : ∀ a, ¬P a) (enc : α → Bytes) :
    Exact (fun _ => .error e) P enc :=
  fun _ a _ => iff_of_false (fun hh => nomatch hh) fun hh => h a hh.1

lemma oneU16_exact {k : UInt16 → PolyExtOp} {n : ℕ}
    (hk : ∀ op : PolyExtOp, op.tag.toNat = n ↔ ∃ a, k a = op) (ha : ∀ a, (k a).args = le16 a) :
    Exact (readU16 >>= fun a => pure (k a)) (fun op => op.tag.toNat = n) PolyExtOp.args :=
  readU16_exact.map (fun op => by rw [hk]; simp only [true_and]) ha

lemma twoU16_exact {k : UInt16 → UInt16 → PolyExtOp} {n : ℕ}
    (hk : ∀ op : PolyExtOp, op.tag.toNat = n ↔ ∃ a b, k a b = op)
    (ha : ∀ a b, (k a b).args = le16 a ++ le16 b) :
    Exact (readU16 >>= fun a => readU16 >>= fun b => pure (k a b)) (fun op => op.tag.toNat = n)
      PolyExtOp.args :=
  readU16_exact.map₂ readU16_exact (fun op => by rw [hk]; simp only [true_and]) ha

lemma readArgs_exact (tag : UInt8) :
    Exact (readArgs tag) (fun op => op.tag = tag) PolyExtOp.args := by
  suffices h : Exact (readArgs tag) (fun op => op.tag.toNat = tag.toNat) PolyExtOp.args from
    h.congr (fun op => UInt8.toNat_inj) fun _ _ => rfl
  unfold readArgs
  generalize tag.toNat = n
  match n with
  | 0 => exact readU32_exact.map (fun op => by cases op <;> simp [PolyExtOp.tag]) fun _ => rfl
  | 1 =>
    rintro c op c'
    cases op <;> simp [-bind_pure_comp, readU32_exact.bind_iff, pure_exact _ _ _ _, PolyExtOp.tag,
      PolyExtOp.args, append_prefix_iff, and_assoc]
  | 2 => exact oneU16_exact (fun op => by cases op <;> simp [PolyExtOp.tag]) fun _ => rfl
  | 3 => exact twoU16_exact (fun op => by cases op <;> simp [PolyExtOp.tag]) fun _ _ => rfl
  | 4 => exact twoU16_exact (fun op => by cases op <;> simp [PolyExtOp.tag]) fun _ _ => rfl
  | 5 => exact twoU16_exact (fun op => by cases op <;> simp [PolyExtOp.tag]) fun _ _ => rfl
  | 6 => exact twoU16_exact (fun op => by cases op <;> simp [PolyExtOp.tag]) fun _ _ => rfl
  | 7 =>
    exact (pure_exact _).congr (fun op => by cases op <;> simp [PolyExtOp.tag]) fun op h => by
      cases op <;> first | rfl | simp [PolyExtOp.tag] at h
  | 8 => exact twoU16_exact (fun op => by cases op <;> simp [PolyExtOp.tag]) fun _ _ => rfl
  | 9 =>
    rintro c op c'
    cases op <;> simp [-bind_pure_comp, readU16_exact.bind_iff, pure_exact _ _ _ _, PolyExtOp.tag,
      PolyExtOp.args, append_prefix_iff, and_assoc]
  | n + 10 => exact fail_exact _ (fun op => by cases op <;> simp [PolyExtOp.tag]) _

lemma readOp_exact : Exact readOp (fun _ => True) encodeOp := by
  rintro c op c'
  simp only [readOp, readU8_exact.bind_iff, readArgs_exact _ _ _ _, encodeOp, append_prefix_iff,
    Cursor.rest_advance, Cursor.advance_advance, List.length_append, true_and, ↓existsAndEq,
    and_assoc]

lemma checkOp_exact (op : PolyExtOp) (n : Counts) (taps : ℕ) :
    Exact (checkOp op n taps) (fun _ => validateOpReferences op n.fp n.mix taps = .ok ())
      (fun _ => []) := by
  rintro c ⟨⟩ c'
  cases h : validateOpReferences op n.fp n.mix taps with
  | error e => simp [checkOp, h]
  | ok u => simp [checkOp, h, eq_comm]

/-- Every operation refers to results before it. -/
def ReferencesValid (taps : ℕ) : List PolyExtOp → Counts → Prop
  | [], _ => True
  | op :: ops, n =>
    validateOpReferences op n.fp n.mix taps = .ok () ∧ ReferencesValid taps ops (n.after op)

lemma validateOperations_ok {taps : ℕ} {ops : List PolyExtOp} {n m : Counts} :
    validateOperations taps ops n = .ok m ↔
      ReferencesValid taps ops n ∧ m = ops.foldl Counts.after n := by
  induction ops generalizing n with
  | nil => simp [validateOperations, ReferencesValid, eq_comm]
  | cons op ops ih =>
    simp only [validateOperations, bind_ok, exists_unit, ih, ReferencesValid, List.foldl_cons,
      and_assoc]

lemma readOps_exact (taps k : ℕ) (n : Counts) :
    Exact (readOps taps k n) (fun ops => ops.length = k ∧ ReferencesValid taps ops n)
      (·.flatMap encodeOp) := by
  induction k generalizing n with
  | zero =>
    refine (pure_exact ([] : List PolyExtOp)).congr (fun ops => ?_) ?_
    · constructor
      · rintro rfl
        exact ⟨rfl, trivial⟩
      · exact fun h => List.length_eq_zero_iff.mp h.1
    · rintro ops ⟨h, -⟩
      rw [List.length_eq_zero_iff.mp h]
      rfl
  | succ k ih =>
    intro c ops c'
    simp only [readOps, readOp_exact.bind_iff, (checkOp_exact _ _ _).bind_iff, (ih _).bind_iff,
      pure_exact _ _ _ _, Cursor.rest_advance, Cursor.advance_advance, List.nil_prefix,
      List.length_nil, Nat.add_zero, true_and, exists_const]
    constructor
    · rintro ⟨op, hp, hv, ops, ⟨hl, hr⟩, hq, rfl, rfl⟩
      refine ⟨⟨by rw [List.length_cons, hl], hv, hr⟩, ?_, ?_⟩
      · rw [List.flatMap_cons, append_prefix_iff]
        exact ⟨hp, hq⟩
      · rw [List.flatMap_cons, List.length_append]
    · obtain _ | ⟨op, ops⟩ := ops
      · rintro ⟨⟨hl, -⟩, -⟩
        exact absurd hl (Nat.succ_ne_zero k).symm
      · rintro ⟨⟨hl, hv, hr⟩, hp, rfl⟩
        rw [List.flatMap_cons, append_prefix_iff] at hp
        refine ⟨op, hp.1, hv, ops, ⟨Nat.succ.inj hl, hr⟩, hp.2, rfl, ?_⟩
        rw [List.flatMap_cons, List.length_append]

def FieldHeader.bytes (h : FieldHeader) : Bytes :=
  le32 h.modulus ++ [h.extensionDegree] ++ le32 h.extensionBeta ++ [h.maxRootPo2]

lemma readFieldHeader_exact : Exact readFieldHeader (fun _ => True) FieldHeader.bytes := by
  rintro c ⟨⟩ c'
  simp only [readFieldHeader, readU8_exact.bind_iff, readU32_exact.bind_iff, pure_exact _ _ _ _,
    FieldHeader.bytes, FieldHeader.mk.injEq, append_prefix_iff, Cursor.rest_advance,
    Cursor.advance_advance, List.length_append, List.length_nil, List.nil_prefix, Nat.add_assoc,
    Nat.add_zero, true_and, and_assoc, ↓existsAndEq]

def Poseidon2Header.bytes (h : Poseidon2Header) : Bytes :=
  [h.cells] ++ [h.rate] ++ [h.outputCells] ++ [h.roundsHalfFull] ++ [h.roundsPartial] ++
    [h.sboxDegree] ++ le16 h.roundConstantCount ++ [h.diagonalCount]

lemma readPoseidon2Header_exact :
    Exact readPoseidon2Header (fun _ => True) Poseidon2Header.bytes := by
  rintro c ⟨⟩ c'
  simp only [readPoseidon2Header, readU8_exact.bind_iff, readU16_exact.bind_iff,
    pure_exact _ _ _ _, Poseidon2Header.bytes, Poseidon2Header.mk.injEq, append_prefix_iff,
    Cursor.rest_advance, Cursor.advance_advance, List.length_append, List.length_nil,
    List.nil_prefix, Nat.add_assoc, Nat.add_zero, true_and, and_assoc, ↓existsAndEq]

def StarkData.bytes (d : StarkData) : Bytes :=
  [d.queries] ++ [d.inverseRate] ++ [d.friFold] ++ [d.friFoldPo2] ++ le16 d.friMinDegree ++
    [d.outputSize] ++ [d.mixSize] ++ [d.checkSize]

lemma readStark_exact : Exact readStark (fun _ => True) StarkData.bytes := by
  rintro c ⟨⟩ c'
  simp only [readStark, readU8_exact.bind_iff, readU16_exact.bind_iff, pure_exact _ _ _ _,
    StarkData.bytes, StarkData.mk.injEq, append_prefix_iff, Cursor.rest_advance,
    Cursor.advance_advance, List.length_append, List.length_nil, List.nil_prefix, Nat.add_assoc,
    Nat.add_zero, true_and, and_assoc, ↓existsAndEq]

def TapHeader.bytes (h : TapHeader) : Bytes :=
  le16 h.tapCount ++ [3] ++ h.groupSizes.val ++ [h.combosCount] ++ [h.totalComboBacks]

lemma readTapHeader_exact : Exact readTapHeader (fun _ => True) TapHeader.bytes := by
  rintro c ⟨⟩ c'
  simp only [readTapHeader, readU8_exact.bind_iff, readU16_exact.bind_iff,
    (readArray_exact _).bind_iff, (require_exact _ _).bind_iff, pure_exact _ _ _ _,
    TapHeader.bytes, TapHeader.mk.injEq, append_prefix_iff, Cursor.rest_advance,
    Cursor.advance_advance, List.length_append, List.length_nil, List.nil_prefix, Nat.add_assoc,
    Nat.add_zero, true_and, and_assoc, exists_const, ↓existsAndEq]

def PolyExtHeader.bytes (h : PolyExtHeader) : Bytes :=
  le16 h.opCount ++ le16 h.fieldVariables ++ le16 h.mixVariables ++ le16 h.retMixVariable

lemma readPolyExtHeader_exact : Exact readPolyExtHeader (fun _ => True) PolyExtHeader.bytes := by
  rintro c ⟨⟩ c'
  simp only [readPolyExtHeader, readU16_exact.bind_iff, pure_exact _ _ _ _, PolyExtHeader.bytes,
    PolyExtHeader.mk.injEq, append_prefix_iff, Cursor.rest_advance, Cursor.advance_advance,
    List.length_append, List.length_nil, List.nil_prefix, Nat.add_assoc, Nat.add_zero, true_and,
    and_assoc, ↓existsAndEq]

def ProtocolHeader.bytes (h : ProtocolHeader) : Bytes :=
  h.extensionCoefficientRemap.val ++ [0, 1, 2] ++ [h.proofInfoLen] ++ [h.circuitInfoLen] ++ [5] ++
    [h.extensionChallengeScale] ++ h.proofSystem ++ h.circuit

/-- The two protocol texts are ASCII, with the lengths that the header declares. -/
structure ProtocolHeader.TextsValid (h : ProtocolHeader) : Prop where
  proofSystem : h.proofSystem.length = h.proofInfoLen.toNat ∧ ∀ x ∈ h.proofSystem, x < 128
  circuit : h.circuit.length = h.circuitInfoLen.toNat ∧ ∀ x ∈ h.circuit, x < 128

lemma ProtocolHeader.textsValid_iff (h : ProtocolHeader) : h.TextsValid ↔
    (h.proofSystem.length = h.proofInfoLen.toNat ∧ ∀ x ∈ h.proofSystem, x < 128) ∧
      h.circuit.length = h.circuitInfoLen.toNat ∧ ∀ x ∈ h.circuit, x < 128 :=
  ⟨fun ⟨p, q⟩ => ⟨p, q⟩, fun ⟨p, q⟩ => ⟨p, q⟩⟩

lemma readProtocolHeader_exact :
    Exact readProtocolHeader ProtocolHeader.TextsValid ProtocolHeader.bytes := by
  rintro c ⟨r, m, n, s, p, q⟩ c'
  simp only [readProtocolHeader, readU8_exact.bind_iff, (readArray_exact _).bind_iff,
    (require_exact _ _).bind_iff, (readAscii_exact _).bind_iff, pure_exact _ _ _ _,
    ProtocolHeader.bytes, ProtocolHeader.mk.injEq, append_prefix_iff, Cursor.rest_advance,
    Cursor.advance_advance, List.length_append, List.length_nil, List.nil_prefix, Nat.add_assoc,
    Nat.add_zero, true_and, and_assoc, exists_const, ↓existsAndEq, ProtocolHeader.textsValid_iff]
  constructor
  · rintro ⟨hr, hg, hm, hn, h5, hs, hpl, hpa, hp, hql, hqa, hq, hc⟩
    exact ⟨hpl, hpa, hql, hqa, hr, hg, hm, hn, h5, hs, hp, hq, hc⟩
  · rintro ⟨hpl, hpa, hql, hqa, hr, hg, hm, hn, h5, hs, hp, hq, hc⟩
    exact ⟨hr, hg, hm, hn, h5, hs, hpl, hpa, hp, hql, hqa, hq, hc⟩

def Header.bytes (h : Header) : Bytes :=
  h.field.bytes ++ h.poseidon2.bytes ++ h.stark.bytes ++ h.taps.bytes ++ h.polyExt.bytes ++
    h.protocol.bytes

lemma readHeader_exact : Exact readHeader (fun h => h.protocol.TextsValid) Header.bytes := by
  rintro c ⟨f, p, d, t, x, q⟩ c'
  simp only [readHeader, readFieldHeader_exact.bind_iff, readPoseidon2Header_exact.bind_iff,
    readStark_exact.bind_iff, readTapHeader_exact.bind_iff, readPolyExtHeader_exact.bind_iff,
    readProtocolHeader_exact.bind_iff, pure_exact _ _ _ _, Header.bytes, Header.mk.injEq,
    append_prefix_iff, Cursor.rest_advance, Cursor.advance_advance, List.length_append,
    List.length_nil, List.nil_prefix, Nat.add_assoc, Nat.add_zero, true_and, and_assoc,
    ↓existsAndEq]
  constructor
  · rintro ⟨hf, hp, hd, ht, hx, hv, hq, hc⟩
    exact ⟨hv, hf, hp, hd, ht, hx, hq, hc⟩
  · rintro ⟨hv, hf, hp, hd, ht, hx, hq, hc⟩
    exact ⟨hf, hp, hd, ht, hx, hv, hq, hc⟩

def Tables.bytes (t : Tables) : Bytes :=
  t.reverseRoots.flatMap le32 ++ t.roundConstants.flatMap le32 ++
    t.internalDiagonal.flatMap le32 ++ t.records.flatMap Tap.bytes ++
    t.operations.flatMap encodeOp

/-- The tables have the lengths that the header declares, and the operations refer backwards. -/
structure Tables.Fits (h : Header) (t : Tables) : Prop where
  reverseRoots : t.reverseRoots.length = rootCount
  roundConstants : t.roundConstants.length = h.poseidon2.roundConstantCount.toNat
  internalDiagonal : t.internalDiagonal.length = h.poseidon2.diagonalCount.toNat
  records : t.records.length = h.taps.tapCount.toNat
  operations : t.operations.length = h.polyExt.opCount.toNat
  references : ReferencesValid h.taps.tapCount.toNat t.operations ⟨0, 0⟩

lemma readTables_exact (h : Header) : Exact (readTables h) (Tables.Fits h) Tables.bytes := by
  rintro c ⟨r, k, d, t, o⟩ c'
  simp only [readTables, (times_exact readU32_exact _).bind_iff,
    (times_exact readTap_exact _).bind_iff, (readOps_exact _ _ _).bind_iff, pure_exact _ _ _ _,
    Tables.bytes, Tables.mk.injEq, append_prefix_iff, Cursor.rest_advance, Cursor.advance_advance,
    List.length_append, List.length_nil, List.nil_prefix, Nat.add_assoc, Nat.add_zero, true_and,
    and_true, implies_true, and_assoc, ↓existsAndEq]
  constructor
  · rintro ⟨hr, hpr, hk, hpk, hd, hpd, ht, hpt, ho, hv, hpo, hc⟩
    exact ⟨⟨hr, hk, hd, ht, ho, hv⟩, hpr, hpk, hpd, hpt, hpo, hc⟩
  · rintro ⟨⟨hr, hk, hd, ht, ho, hv⟩, hpr, hpk, hpd, hpt, hpo, hc⟩
    exact ⟨hr, hpr, hk, hpk, hd, hpd, ht, hpt, ho, hv, hpo, hc⟩

end Reader

section Length

/-- The number of operations with an opcode tag. -/
def tally (ops : List PolyExtOp) (tag : UInt8) : ℕ := ops.countP fun op => op.tag = tag

lemma operations_length (ops : List PolyExtOp) :
    (ops.flatMap encodeOp).length =
      5 * tally ops 0 + 17 * tally ops 1 + 3 * tally ops 2 + 5 * tally ops 3 + 5 * tally ops 4 +
        5 * tally ops 5 + 5 * tally ops 6 + tally ops 7 + 5 * tally ops 8 + 7 * tally ops 9 := by
  induction ops with
  | nil => rfl
  | cons op ops ih =>
    rw [List.flatMap_cons, List.length_append, ih]
    cases op <;> simp [tally, encodeOp, PolyExtOp.args, PolyExtOp.tag] <;> omega

lemma bump_getD (m : Std.ExtTreeMap Bytes ℕ) (n k : Bytes) :
    (bump m n)[k]?.getD 0 = m[k]?.getD 0 + if n = k then 1 else 0 := by
  by_cases h : n = k
  · simp [bump, h]
  · simp [bump, Std.ExtTreeMap.getElem?_insert, h]

lemma histogram_getD (ops : List PolyExtOp) (k : Bytes) :
    (histogram ops)[k]?.getD 0 = ops.countP fun op => op.name = k := by
  have hf : ∀ m : Std.ExtTreeMap Bytes ℕ,
      (ops.foldl (fun m op => bump m op.name) m)[k]?.getD 0 =
        m[k]?.getD 0 + ops.countP fun op => op.name = k := by
    induction ops with
    | nil => simp
    | cons op ops ih =>
      intro m
      rw [List.foldl_cons, ih, bump_getD, List.countP_cons]
      simp only [decide_eq_true_eq]
      omega
  have hi : ∀ m : Std.ExtTreeMap Bytes ℕ,
      (m.insertIfNew (utf8 "ConstExt") 0)[k]?.getD 0 = m[k]?.getD 0 := by
    intro m
    rw [Std.ExtTreeMap.getElem?_insertIfNew]
    split_ifs with h
    · rw [Std.compare_eq_iff_eq] at h
      rw [← h.1, Std.ExtTreeMap.getElem?_eq_none h.2]
      rfl
    · rfl
  rw [histogram, hi, hf]
  simp

lemma name_eq_iff (op op' : PolyExtOp) : op.name = op'.name ↔ op.tag = op'.tag := by
  cases op <;> cases op' <;> simp only [PolyExtOp.name, PolyExtOp.tag] <;> decide

lemma tally_of_histogram {ops : List PolyExtOp} (h : histogram ops = expectedHistogram)
    (op : PolyExtOp) : tally ops op.tag = expectedHistogram[op.name]?.getD 0 := by
  rw [← h, histogram_getD]
  simp only [tally, name_eq_iff]

lemma stream_length {ops : List PolyExtOp} (h : histogram ops = expectedHistogram) :
    (ops.flatMap encodeOp).length = 60757 := by
  have ht := tally_of_histogram h
  have h0 : tally ops 0 = 284 := (ht (.const 0)).trans (by decide)
  have h1 : tally ops 1 = 0 := (ht (.constExt 0 0 0 0)).trans (by decide)
  have h2 : tally ops 2 = 669 := (ht (.get 0)).trans (by decide)
  have h3 : tally ops 3 = 52 := (ht (.getGlobal 0 0)).trans (by decide)
  have h4 : tally ops 4 = 4061 := (ht (.add 0 0)).trans (by decide)
  have h5 : tally ops 5 = 1385 := (ht (.sub 0 0)).trans (by decide)
  have h6 : tally ops 6 = 4679 := (ht (.mul 0 0)).trans (by decide)
  have h7 : tally ops 7 = 1 := (ht .true).trans (by decide)
  have h8 : tally ops 8 = 1076 := (ht (.andEqz 0 0)).trans (by decide)
  have h9 : tally ops 9 = 152 := (ht (.andCond 0 0 0)).trans (by decide)
  rw [operations_length, h0, h1, h2, h3, h4, h5, h6, h7, h8, h9]

end Length

section Codec

def headerOf (a : ConstantsArtifact) : Header where
  field := ⟨a.babyBear.modulus, a.babyBear.extensionDegree, a.babyBear.extensionBeta,
    a.babyBear.maxRootPo2⟩
  poseidon2 := ⟨a.poseidon2.cells, a.poseidon2.rate, a.poseidon2.outputCells,
    a.poseidon2.roundsHalfFull, a.poseidon2.roundsPartial, a.poseidon2.sboxDegree,
    UInt16.ofNat a.poseidon2.roundConstants.length,
    UInt8.ofNat a.poseidon2.internalDiagonal.length⟩
  stark := a.stark
  taps := ⟨UInt16.ofNat a.taps.records.length, a.taps.groupSizes, a.taps.combosCount,
    a.taps.totalComboBacks⟩
  polyExt := ⟨UInt16.ofNat a.polyExt.operations.length, a.polyExt.fieldVariables,
    a.polyExt.mixVariables, a.polyExt.retMixVariable⟩
  protocol := ⟨a.babyBear.extensionCoefficientRemap, UInt8.ofNat a.protocolInfo.proofSystem.length,
    UInt8.ofNat a.protocolInfo.circuit.length, a.babyBear.extensionChallengeScale,
    a.protocolInfo.proofSystem, a.protocolInfo.circuit⟩

def tablesOf (a : ConstantsArtifact) : Tables :=
  ⟨a.babyBear.reverseRoots, a.poseidon2.roundConstants, a.poseidon2.internalDiagonal,
    a.taps.records, a.polyExt.operations⟩

/-- What the layout relies on in an accepted artifact. -/
structure Shape (a : ConstantsArtifact) : Prop where
  commit : a.upstreamCommit = Constants.risc0Commit
  reverseRoots : a.babyBear.reverseRoots.length = 28
  roundConstants : a.poseidon2.roundConstants.length = 213
  internalDiagonal : a.poseidon2.internalDiagonal.length = 24
  proofSystem : a.protocolInfo.proofSystem = proofSystemInfo
  circuit : a.protocolInfo.circuit = circuitInfo
  records : a.taps.records.length = 643
  operations : a.polyExt.operations.length = 12359
  opcodes : histogram a.polyExt.operations = expectedHistogram
  stored : a.polyExt.histogram = histogram a.polyExt.operations
  references : ReferencesValid 643 a.polyExt.operations ⟨0, 0⟩

lemma shape_of_validate {a : ConstantsArtifact} (h : validate a = .ok ()) : Shape a := by
  simp only [validate, validateBabyBear, validatePoseidon2, validateStark, validatePolyExt, bind_ok,
    exists_unit, ensure_ok, validateOperations_ok] at h
  obtain ⟨hcommit, ⟨-, -, ⟨-, hroots⟩, -⟩, ⟨-, -, ⟨hround, hdiag⟩, -⟩, -, ⟨hproof, hcircuit⟩, -,
    hrecords, -, hops, -, -, hhist, hstored, _, ⟨href, -⟩, -⟩ := h
  rw [hrecords] at href
  exact ⟨hcommit, hroots, hround, hdiag, hproof, hcircuit, hrecords, hops, hhist, hstored, href⟩

lemma assemble_of_shape {a : ConstantsArtifact} (h : Shape a) :
    assemble (headerOf a) (tablesOf a) = a := by
  have hs := h.stored
  have hc := h.commit
  obtain ⟨c, ⟨⟩, ⟨⟩, ⟨⟩, ⟨⟩, ⟨⟩, ⟨⟩⟩ := a
  simp only [assemble, headerOf, tablesOf] at hs hc ⊢
  rw [hs, hc]

lemma ascii_of_all {b : Bytes} (h : b.all (fun x => x < 128) = true) : ∀ x ∈ b, x < 128 := by
  intro x hx
  exact of_decide_eq_true (List.all_eq_true.mp h x hx)

lemma texts_of_shape {a : ConstantsArtifact} (h : Shape a) :
    (headerOf a).protocol.TextsValid := by
  constructor
  · simp only [headerOf, h.proofSystem]
    exact ⟨by decide, ascii_of_all rfl⟩
  · simp only [headerOf, h.circuit]
    exact ⟨by decide, ascii_of_all rfl⟩

lemma tables_of_shape {a : ConstantsArtifact} (h : Shape a) :
    (tablesOf a).Fits (headerOf a) where
  reverseRoots := h.reverseRoots
  roundConstants := by simp [tablesOf, headerOf, h.roundConstants]
  internalDiagonal := by simp [tablesOf, headerOf, h.internalDiagonal]
  records := by simp [tablesOf, headerOf, h.records]
  operations := by simp [tablesOf, headerOf, h.operations]
  references := by simpa [tablesOf, headerOf, h.records] using h.references

lemma header_length (h : Header) : h.bytes.length =
    55 + h.protocol.proofSystem.length + h.protocol.circuit.length := by
  simp [Header.bytes, FieldHeader.bytes, Poseidon2Header.bytes, StarkData.bytes, TapHeader.bytes,
    PolyExtHeader.bytes, ProtocolHeader.bytes]
  omega

lemma headerOf_length {a : ConstantsArtifact} (h : Shape a) :
    (headerOf a).bytes.length = headerBytes := by
  rw [header_length]
  simp only [headerOf, h.proofSystem, h.circuit]
  decide

lemma tablesOf_length {a : ConstantsArtifact} (h : Shape a) :
    (tablesOf a).bytes.length = 65032 := by
  have htap : ∀ t : Tap, t.bytes.length = 5 := fun _ => rfl
  simp only [Tables.bytes, tablesOf, List.length_append, flatMap_length le32_length,
    flatMap_length htap, stream_length h.opcodes, h.reverseRoots, h.roundConstants,
    h.internalDiagonal, h.records]

lemma encodeHeader_ok {a : ConstantsArtifact} (h : Shape a) :
    encodeHeader a = .ok (headerOf a).bytes := by
  have hp : UInt8.ofNat a.protocolInfo.proofSystem.length = 16 := by rw [h.proofSystem]; decide
  have hc : UInt8.ofNat a.protocolInfo.circuit.length = 16 := by rw [h.circuit]; decide
  simp only [encodeHeader, headerOf, Header.bytes, FieldHeader.bytes, Poseidon2Header.bytes,
    StarkData.bytes, TapHeader.bytes, PolyExtHeader.bytes, ProtocolHeader.bytes, hp, hc,
    h.roundConstants, h.internalDiagonal, h.records, h.operations, u16TryFrom, u8TryFrom, context,
    Nat.reducePow, Nat.reduceLT, if_true, ok_bind, List.append_assoc]
  rfl

lemma encode_ok {a : ConstantsArtifact} {b : Bytes} :
    encode a = .ok b ↔ validate a = .ok () ∧ b = (headerOf a).bytes ++ (tablesOf a).bytes := by
  simp only [encode, bind_ok, exists_unit]
  refine and_congr_right fun hv => ?_
  have hs := shape_of_validate hv
  have hh := headerOf_length hs
  have ht : ((headerOf a).bytes ++ encodeTables a).length = artifactBytes := by
    rw [List.length_append, hh]
    exact congrArg (87 + ·) (tablesOf_length hs)
  simp only [encodeHeader_ok hs, Except.ok.injEq, ensure_ok, pure_ok]
  constructor
  · rintro ⟨_, rfl, -, -, rfl⟩
    rfl
  · rintro rfl
    exact ⟨_, rfl, hh, ht, rfl⟩

lemma headerOf_assemble {h : Header} {t : Tables} (hp : h.protocol.TextsValid)
    (ht : t.Fits h) : headerOf (assemble h t) = h := by
  have hr := ht.roundConstants
  have hd := ht.internalDiagonal
  have hn := ht.records
  have ho := ht.operations
  have hs := hp.proofSystem.1
  have hc := hp.circuit.1
  obtain ⟨⟨⟩, ⟨⟩, s, ⟨⟩, ⟨⟩, ⟨⟩⟩ := h
  simp only [headerOf, assemble] at hr hd hn ho hs hc ⊢
  simp only [hr, hd, hn, ho, hs, hc, UInt16.ofNat_toNat, UInt8.ofNat_toNat]

lemma artifact_length {a : ConstantsArtifact} (h : Shape a) :
    ((headerOf a).bytes ++ (tablesOf a).bytes).length = artifactBytes := by
  rw [List.length_append, headerOf_length h, tablesOf_length h, headerBytes, artifactBytes]

lemma decode_sound {a : ConstantsArtifact} {b : Bytes} (h : decode b = .ok a) :
    validate a = .ok () ∧ b = (headerOf a).bytes ++ (tablesOf a).bytes := by
  by_cases hl : b.length = artifactBytes
  · rw [decode, dif_pos hl] at h
    simp only [bind_ok, exists_unit, ensure_ok, pure_ok, Prod.exists] at h
    obtain ⟨hd, c, hh, -, t, c', ht, hend, hv, rfl⟩ := h
    obtain ⟨hp, hpre, rfl⟩ := (readHeader_exact _ _ _).mp hh
    obtain ⟨hf, hpre', rfl⟩ := (readTables_exact hd _ _ _).mp ht
    rw [Cursor.rest_advance, Cursor.rest_new] at hpre'
    rw [Cursor.rest_new] at hpre
    have hall : hd.bytes ++ t.bytes <+: b := append_prefix_iff.mpr ⟨hpre, hpre'⟩
    rw [Cursor.advance_advance, Cursor.position_advance
      (by rw [Cursor.rest_new, ← List.length_append]; exact hall.length_le),
      Cursor.position_new, Nat.zero_add, ← List.length_append] at hend
    rw [headerOf_assemble hp hf]
    exact ⟨hv, (hall.eq_of_length hend).symm⟩
  · rw [decode, dif_neg hl] at h
    cases h

lemma decode_complete {a : ConstantsArtifact} (hv : validate a = .ok ()) :
    decode ((headerOf a).bytes ++ (tablesOf a).bytes) = .ok a := by
  have hs := shape_of_validate hv
  have hh := headerOf_length hs
  have ht := tablesOf_length hs
  have hl := artifact_length hs
  rw [decode, dif_pos hl]
  have hfits : ((headerOf a).bytes ++ (tablesOf a).bytes).length < 2 ^ 64 := by
    rw [hl]
    decide
  have hread := (readHeader_exact (Cursor.new _ hfits) _ _).mpr
    ⟨texts_of_shape hs, List.prefix_append _ _, rfl⟩
  have htables := (readTables_exact (headerOf a)
    ((Cursor.new _ hfits).advance (headerOf a).bytes.length) (tablesOf a) _).mpr
    ⟨tables_of_shape hs, by rw [Cursor.rest_advance, Cursor.rest_new, List.drop_left], rfl⟩
  rw [Cursor.advance_advance] at htables
  have hpos : ((Cursor.new _ hfits).advance (headerOf a).bytes.length).position = headerBytes := by
    rw [Cursor.position_advance (by rw [Cursor.rest_new, List.length_append]; omega), hh,
      Cursor.position_new, Nat.zero_add]
  have hend : ((Cursor.new _ hfits).advance
      ((headerOf a).bytes.length + (tablesOf a).bytes.length)).position =
      ((headerOf a).bytes ++ (tablesOf a).bytes).length := by
    rw [Cursor.position_advance (by rw [Cursor.rest_new, List.length_append]),
      Cursor.position_new, Nat.zero_add, List.length_append]
  simp only [hread, ok_bind, htables, ensure_pass hpos, ensure_pass hend, assemble_of_shape hs, hv]
  rfl

lemma decode_ok {a : ConstantsArtifact} {b : Bytes} :
    decode b = .ok a ↔ validate a = .ok () ∧ b = (headerOf a).bytes ++ (tablesOf a).bytes :=
  ⟨decode_sound, fun ⟨hv, hb⟩ => hb ▸ decode_complete hv⟩

theorem constants_artifact_codec :
    (∀ b a, decode b = .ok a ↔ encode a = .ok b) ∧
    (∀ a, validate a = .ok () ↔
      ∃ header tables, encodeHeader a = .ok header ∧ header.length = 87 ∧
        (a.polyExt.operations.flatMap encodeOp).length = 60757 ∧
        encode a = .ok (header ++ tables) ∧ (header ++ tables).length = 65119 ∧
        decode (header ++ tables) = .ok a) := by
  refine ⟨fun b a => by rw [decode_ok, encode_ok], fun a => ?_⟩
  constructor
  · intro hv
    have hs := shape_of_validate hv
    exact ⟨_, (tablesOf a).bytes, encodeHeader_ok hs, headerOf_length hs,
      stream_length hs.opcodes, encode_ok.mpr ⟨hv, rfl⟩, artifact_length hs,
      decode_ok.mpr ⟨hv, rfl⟩⟩
  · rintro ⟨_, _, -, -, -, he, -⟩
    exact (encode_ok.mp he).1

end Codec

end Eip0045.B2Codec
