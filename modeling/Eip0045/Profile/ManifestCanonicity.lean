import Eip0045.Profile.Manifest

/-! The Manifest V1 decoder accepts one layout, and the encoder writes the same bytes back. -/

namespace Eip0045.Manifest

open Bytes Checked Constants Reading

section Reader

lemma takeU8_exact : Exact takeU8 (fun _ => True) (fun v => [v]) := u8_exact
lemma takeU16Le_exact : Exact takeU16Le (fun _ => True) le16 := u16_exact
lemma takeU32Le_exact : Exact takeU32Le (fun _ => True) le32 := u32_exact
lemma takeDigest_exact : Exact takeDigest (fun _ => True) (·.val) := takeArray_exact digestBytes

lemma takeTerminalControl_exact :
    Exact takeTerminalControl (fun _ => True) TerminalControl.bytes := by
  rintro c ⟨k, p, d⟩ c'
  simp only [takeTerminalControl, takeU8_exact.bind_iff, takeDigest_exact.bind_iff,
    pure_exact _ _ _ _, TerminalControl.bytes, TerminalControl.mk.injEq, append_prefix_iff,
    Cursor.rest_advance, Cursor.advance_advance, List.length_append,
    List.length_nil, List.nil_prefix, Nat.add_assoc, Nat.add_zero, true_and, and_assoc,
    ↓existsAndEq]

lemma takeArtifactReference_exact :
    Exact takeArtifactReference (fun _ => True) appendArtifactReference := by
  rintro c ⟨k, l, d⟩ c'
  simp only [takeArtifactReference, takeU16Le_exact.bind_iff, takeU32Le_exact.bind_iff,
    takeDigest_exact.bind_iff, pure_exact _ _ _ _, appendArtifactReference,
    ProfileArtifactReference.mk.injEq, append_prefix_iff, Cursor.rest_advance,
    Cursor.advance_advance, List.length_append, List.length_nil, List.nil_prefix,
    Nat.add_assoc, Nat.add_zero, true_and, and_assoc, ↓existsAndEq]

lemma controlTable_exact (controls : List TerminalControl) :
    Exact (controlTable controls) (fun t => controls = t.toList) (fun _ => []) := by
  rintro c ⟨t, ht⟩ c'
  by_cases h : controls.length = manifestControlCount
  · rw [controlTable, dif_pos h]
    simp only [Except.ok.injEq, List.Vector.toList_mk, List.nil_prefix, List.length_nil,
      Cursor.advance_zero, true_and]
    constructor
    · intro hh
      cases hh
      exact ⟨rfl, rfl⟩
    · rintro ⟨rfl, rfl⟩
      rfl
  · rw [controlTable, dif_neg h]
    refine iff_of_false (by simp) ?_
    rintro ⟨rfl, -⟩
    exact h ht

lemma takeFields_exact : Exact takeFields (fun _ => True) fieldBytes := by
  rintro c ⟨e, p, o, r, t, x, y⟩ c'
  have hn : t.toList.length = manifestControlCount := t.2
  simp only [takeFields, takeU8_exact.bind_iff, (require_exact _ _).bind_iff,
    takeU32Le_exact.bind_iff, takeDigest_exact.bind_iff,
    (times_exact takeTerminalControl_exact _).bind_iff, (controlTable_exact _).bind_iff,
    takeArtifactReference_exact.bind_iff, pure_exact _ _ _ _, fieldBytes, Fields.mk.injEq,
    append_prefix_iff, Cursor.rest_advance, Cursor.advance_advance,
    List.length_append, List.length_nil, List.nil_prefix, Nat.add_assoc, Nat.add_zero, true_and,
    and_assoc, implies_true, exists_const, ↓existsAndEq, hn]

end Reader

section Grammar

/-- Strict lexicographic order of the pairs `(kind, parameter)`. -/
def TerminalControl.KeyLt (a b : TerminalControl) : Prop :=
  a.kind < b.kind ∨ a.kind = b.kind ∧ a.parameter < b.parameter

structure TerminalControl.Canonical (c : TerminalControl) : Prop where
  kind : c.kind = terminalControlKindLift ∨ c.kind = terminalControlKindJoin ∨
    c.kind = terminalControlKindResolve
  parameter : c.kind = terminalControlKindJoin ∨ c.kind = terminalControlKindResolve →
    c.parameter = 0

structure FieldGrammar (f : Fields) : Prop where
  proofBytes : f.exactProofBytes ≠ 0
  controls : ∀ i, (f.terminalControls.get i).Canonical
  keys : ∀ i j, i < j → (f.terminalControls.get i).KeyLt (f.terminalControls.get j)
  ids : ∀ i j, i ≠ j → (f.terminalControls.get i).controlId ≠ (f.terminalControls.get j).controlId
  algorithmKind : f.algorithmArtifact.kind = 1
  algorithmLength : f.algorithmArtifact.length ≠ 0
  binaryDataKind : f.binaryDataArtifact.kind = 2
  binaryDataLength : f.binaryDataArtifact.length ≠ 0

def controlAt (b : Bytes) (i : ℕ) : TerminalControl :=
  ⟨b.getD i 0, b.getD (i + 1) 0, ByteArr.atOffset 32 b (i + 2)⟩

def artifactAt (b : Bytes) (i : ℕ) : ProfileArtifactReference :=
  ⟨ofLe16 (slice b i 2), ofLe32 (slice b (i + 2) 4), ByteArr.atOffset 32 b (i + 6)⟩

def fieldsAt (b : Bytes) : Fields where
  exactProofBytes := ofLe32 (slice b 1 4)
  maxApplicationPayloadBytes := ofLe32 (slice b 5 4)
  outerPo2 := b.getD 9 0
  innerControlRoot := ByteArr.atOffset 32 b 10
  terminalControls := List.Vector.ofFn fun i => controlAt b (42 + 34 * i)
  algorithmArtifact := artifactAt b 382
  binaryDataArtifact := artifactAt b 420

structure Grammar (b : Bytes) : Prop where
  length : b.length = 458
  version : b.getD 0 0 = 1
  fields : FieldGrammar (fieldsAt b)

lemma TerminalControl.KeyLt.trans {a b c : TerminalControl} (h : a.KeyLt b) (h' : b.KeyLt c) :
    a.KeyLt c := by
  simp only [KeyLt, UInt8.lt_iff_toNat_lt, ← UInt8.toNat_inj] at *
  omega

lemma TerminalControl.not_keyLe {a b : TerminalControl} : ¬b.KeyLe a ↔ a.KeyLt b := by
  simp only [KeyLe, KeyLt, UInt8.lt_iff_toNat_lt, UInt8.le_iff_toNat_le, ← UInt8.toNat_inj]
  omega

lemma controlAt_bytes {b : Bytes} {i : ℕ} (h : i + 34 ≤ b.length) :
    (controlAt b i).bytes = slice b i 34 := by
  rw [controlAt, TerminalControl.bytes, ByteArr.atOffset_val (by omega), ← slice_one (by omega),
    ← slice_one (by omega), slice_append b rfl, slice_append b rfl]

lemma artifactAt_bytes {b : Bytes} {i : ℕ} (h : i + 38 ≤ b.length) :
    appendArtifactReference (artifactAt b i) = slice b i 38 := by
  rw [artifactAt, appendArtifactReference, ByteArr.atOffset_val (by omega),
    le16_ofLe16 (slice_length (by omega)), le32_ofLe32 (slice_length (by omega)),
    slice_append b rfl, slice_append b rfl]

lemma controls_bytes {b : Bytes} (h : b.length = 458) :
    (fieldsAt b).terminalControls.toList.flatMap TerminalControl.bytes = slice b 42 340 := by
  have hc : ∀ i : Fin 10, (controlAt b (42 + 34 * i)).bytes = slice b (42 + 34 * i) 34 :=
    fun i => controlAt_bytes (by omega)
  rw [fieldsAt, List.Vector.toList_ofFn, List.ofFn_eq_map, List.flatMap_map]
  change (List.finRange 10).flatMap (fun i : Fin 10 => (controlAt b (42 + 34 * i)).bytes) = _
  rw [funext hc, ← slice_records b 42 34 10, ← List.map_coe_finRange_eq_range, List.flatMap_map]

lemma fieldBytes_fieldsAt {b : Bytes} (hl : b.length = 458) (hv : b.getD 0 0 = 1) :
    fieldBytes (fieldsAt b) = b := by
  have hm : manifestFormatVersion = b.getD 0 0 := hv.symm
  rw [fieldBytes, controls_bytes hl]
  change [manifestFormatVersion] ++ le32 (ofLe32 (slice b 1 4)) ++ le32 (ofLe32 (slice b 5 4)) ++
    [b.getD 9 0] ++ (ByteArr.atOffset 32 b 10).val ++ slice b 42 340 ++
    appendArtifactReference (artifactAt b 382) ++ appendArtifactReference (artifactAt b 420) = b
  rw [artifactAt_bytes (by omega), artifactAt_bytes (by omega), ByteArr.atOffset_val (by omega),
    le32_ofLe32 (slice_length (by omega)), le32_ofLe32 (slice_length (by omega)), hm,
    ← slice_one (by omega), ← slice_one (by omega)]
  simp (disch := omega) only [slice_append]
  simpa only [hl] using slice_all b

end Grammar

section Validation

lemma validateControlKind_ok {i : ℕ} {c : TerminalControl} :
    validateControlKind i c = .ok () ↔ c.Canonical := by
  rw [validateControlKind]
  split_ifs with hl hj
  · refine iff_of_true rfl ⟨Or.inl hl, fun h => ?_⟩
    rw [hl] at h
    exact absurd h (by decide)
  · rw [ensure_ok]
    exact ⟨fun h => ⟨Or.inr hj, fun _ => h⟩, fun h => h.parameter hj⟩
  · exact iff_of_false (by simp) fun h => h.kind.elim hl hj

lemma mem_earlier {α : Type} {n : ℕ} (t : List.Vector α n) (i : Fin n) (a : α) :
    a ∈ t.toList.take i ↔ ∃ j, j < i ∧ t.get j = a := by
  rw [List.mem_take_iff_getElem]
  constructor
  · rintro ⟨j, hj, rfl⟩
    rw [List.Vector.toList_length] at hj
    exact ⟨⟨j, by omega⟩, Fin.lt_def.mpr (by simp; omega), by simp [List.Vector.get_eq_get_toList]⟩
  · rintro ⟨j, hj, rfl⟩
    exact ⟨j, by rw [List.Vector.toList_length]; omega, by simp [List.Vector.get_eq_get_toList]⟩

lemma validateControl_ok (t : List.Vector TerminalControl manifestControlCount)
    (i : Fin manifestControlCount) :
    validateControl t i = .ok () ↔ (t.get i).Canonical ∧
      (i.val ≠ 0 → (t.get (previous i)).KeyLt (t.get i)) ∧
      ∀ j, j < i → (t.get j).controlId ≠ (t.get i).controlId := by
  simp only [validateControl, bind_ok, exists_unit, validateControlKind_ok, ensure_ok, not_and,
    TerminalControl.not_keyLe, mem_earlier]
  refine and_congr_right fun _ => and_congr_right fun _ => ?_
  constructor
  · rintro h j hj hh
    exact h ⟨_, ⟨j, hj, rfl⟩, hh⟩
  · rintro h ⟨_, ⟨j, hj, rfl⟩, hh⟩
    exact h j hj hh

lemma keys_of_steps (t : List.Vector TerminalControl manifestControlCount)
    (h : ∀ i : Fin manifestControlCount, i.val ≠ 0 →
      (t.get (previous i)).KeyLt (t.get i)) :
    ∀ i j, i < j → (t.get i).KeyLt (t.get j) := by
  rintro i ⟨j, hj⟩ hij
  induction j with
  | zero => exact absurd hij (Nat.not_lt_zero _)
  | succ j ih =>
    have hs := h ⟨j + 1, hj⟩ (Nat.succ_ne_zero j)
    obtain he | hl := Nat.eq_or_lt_of_le (Nat.lt_succ_iff.mp (Fin.lt_def.mp hij))
    · have : i = ⟨j, by omega⟩ := Fin.ext he
      rw [this]
      exact hs
    · exact (ih (by omega) hl).trans hs

lemma validateArtifactReferenceShape_ok {r : ProfileArtifactReference} {k : UInt16} {i : ℕ} :
    validateArtifactReferenceShape r k i = .ok () ↔ r.kind = k ∧ r.length ≠ 0 := by
  simp [validateArtifactReferenceShape, bind_ok]

lemma validateV1Grammar_ok {f : Fields} : validateV1Grammar f = .ok () ↔ FieldGrammar f := by
  simp only [validateV1Grammar, bind_ok, exists_unit, ensure_ok, forM_ok, List.mem_finRange,
    validateControl_ok, true_implies, validateArtifactReferenceShape_ok]
  constructor
  · rintro ⟨hp, hc, ⟨ha, hl⟩, hb, hm⟩
    refine ⟨hp, fun i => (hc i).1, keys_of_steps _ fun i => (hc i).2.1, ?_, ha, hl, hb, hm⟩
    intro i j hij
    obtain h | h := lt_or_gt_of_ne hij
    · exact (hc j).2.2 i h
    · exact ((hc i).2.2 j h).symm
  · rintro ⟨hp, hc, hk, hi, ha, hl, hb, hm⟩
    refine ⟨hp, fun i => ⟨hc i, fun h => hk _ _ ?_, fun j hj => hi j i hj.ne⟩, ⟨ha, hl⟩, hb, hm⟩
    exact Fin.lt_def.mpr (Nat.sub_one_lt h)

end Validation

section Canonicity

lemma TerminalControl.bytes_length (c : TerminalControl) : c.bytes.length = 34 := by
  simp [TerminalControl.bytes]

lemma fieldBytes_length (f : Fields) : (fieldBytes f).length = manifestBytes := by
  have hn : f.terminalControls.toList.length = 10 := f.terminalControls.2
  have ht : (f.terminalControls.toList.flatMap TerminalControl.bytes).length = 340 := by
    rw [flatMap_length TerminalControl.bytes_length, hn]
  simp [fieldBytes, appendArtifactReference, ht, manifestBytes]

lemma encodeFields_ok {f : Fields} {b : ByteArr manifestBytes} :
    encodeFields f = .ok b ↔ fieldBytes f = b.val := by
  rw [encodeFields, context_ok, ByteArr.ofBytes_eq_some]

lemma fieldBytes_injective : Function.Injective fieldBytes := by
  intro f g h
  refine takeFields_exact.prefix_unique ?_ trivial trivial List.prefix_rfl (h ▸ List.prefix_rfl)
  rw [fieldBytes_length]
  decide

lemma new_ok {f : Fields} {m : StarkProfileManifestV1} :
    new f = .ok m ↔ FieldGrammar f ∧ m.toFields = f ∧ fieldBytes f = m.rawBytes.val := by
  simp only [new, exists_unit, validateV1Grammar_ok, bind_ok, encodeFields_ok, pure_ok]
  refine and_congr_right fun _ => ?_
  constructor
  · rintro ⟨r, hr, rfl⟩
    exact ⟨rfl, hr⟩
  · rintro ⟨rfl, hr⟩
    exact ⟨m.rawBytes, hr, rfl⟩

lemma encode_ok {m : StarkProfileManifestV1} {b : ByteArr manifestBytes} :
    encode m = .ok b ↔ FieldGrammar m.toFields ∧ fieldBytes m.toFields = b.val ∧ m.rawBytes = b := by
  simp only [encode, exists_unit, validateV1Grammar_ok, bind_ok, encodeFields_ok, ensure_ok, pure_ok]
  refine and_congr_right fun _ => ?_
  constructor
  · rintro ⟨r, hr, rfl, rfl⟩
    exact ⟨hr, rfl⟩
  · rintro ⟨hr, rfl⟩
    exact ⟨m.rawBytes, hr, rfl, rfl⟩

lemma takeFields_new {b : Bytes} (hb : b.length < 2 ^ 64) (hl : b.length = manifestBytes)
    {f : Fields} {c : Cursor} :
    takeFields (Cursor.new b hb) = .ok (f, c) ↔
      fieldBytes f = b ∧ c = (Cursor.new b hb).advance manifestBytes := by
  rw [takeFields_exact (Cursor.new b hb) f c, fieldBytes_length, Cursor.rest_new]
  constructor
  · rintro ⟨-, hp, rfl⟩
    exact ⟨hp.eq_of_length (by rw [fieldBytes_length, hl]), rfl⟩
  · rintro ⟨rfl, rfl⟩
    exact ⟨trivial, List.prefix_rfl, rfl⟩

lemma decode_ok {b : Bytes} {m : StarkProfileManifestV1} :
    decode b = .ok m ↔ FieldGrammar m.toFields ∧ fieldBytes m.toFields = b ∧ m.rawBytes.val = b := by
  by_cases hl : b.length = manifestBytes
  · have hb : b.length < 2 ^ 64 := by rw [hl]; decide
    have hpos : ((Cursor.new b hb).advance manifestBytes).position = manifestBytes := by
      rw [Cursor.position_advance (by rw [Cursor.rest_new, hl])]
      rfl
    rw [decode, dif_pos hl, bind_ok]
    constructor
    · rintro ⟨⟨f, c⟩, hf, h⟩
      obtain ⟨rfl, rfl⟩ := (takeFields_new hb hl).mp hf
      simp only [bind_ok, exists_unit, ensure_ok, new_ok, context_ok, ByteArr.ofBytes_eq_some,
        pure_ok] at h
      obtain ⟨-, _, ⟨hg, hm, hr⟩, r, hr', he, rfl⟩ := h
      rw [hm]
      exact ⟨hg, rfl, by rw [he, hr']⟩
    · rintro ⟨hg, hf, hr⟩
      refine ⟨(m.toFields, _), (takeFields_new hb hl).mpr ⟨hf, rfl⟩, ?_⟩
      simp only [bind_ok, exists_unit, ensure_ok, new_ok, context_ok, ByteArr.ofBytes_eq_some, pure_ok]
      exact ⟨hpos, m, ⟨hg, rfl, by rw [hf, hr]⟩, m.rawBytes, hr.symm, rfl, rfl⟩
  · rw [decode, dif_neg hl]
    refine iff_of_false (by simp) ?_
    rintro ⟨-, hf, -⟩
    exact hl (by rw [← hf, fieldBytes_length])

lemma grammar_iff {b : Bytes} : Grammar b ↔ ∃ f, FieldGrammar f ∧ fieldBytes f = b := by
  constructor
  · rintro ⟨hl, hv, hf⟩
    exact ⟨_, hf, fieldBytes_fieldsAt hl hv⟩
  · rintro ⟨f, hf, rfl⟩
    have hl := fieldBytes_length f
    have hv : (fieldBytes f).getD 0 0 = 1 := by simp [fieldBytes, manifestFormatVersion]
    refine ⟨hl, hv, ?_⟩
    rwa [fieldBytes_injective (fieldBytes_fieldsAt hl hv)]

theorem manifest_v1_canonical :
    (∀ b, (∃ m, decode b = .ok m) ↔ Grammar b) ∧
    (∀ b m, decode b = .ok m ↔ ∃ r, encode m = .ok r ∧ r.val = b) ∧
    (∀ f, (∃ m, new f = .ok m) ↔ FieldGrammar f) ∧
    (∀ f m, new f = .ok m ↔ m.toFields = f ∧ ∃ r, encode m = .ok r ∧ decode r.val = .ok m) := by
  have hraw : ∀ f, ∃ m : StarkProfileManifestV1, m.toFields = f ∧ m.rawBytes.val = fieldBytes f :=
    fun f => ⟨{ f with rawBytes := ⟨fieldBytes f, fieldBytes_length f⟩ }, rfl, rfl⟩
  refine ⟨fun b => ?_, fun b m => ?_, fun f => ?_, fun f m => ?_⟩
  · rw [grammar_iff]
    constructor
    · rintro ⟨m, hm⟩
      obtain ⟨hg, hf, -⟩ := decode_ok.mp hm
      exact ⟨m.toFields, hg, hf⟩
    · rintro ⟨f, hg, rfl⟩
      obtain ⟨m, rfl, hr⟩ := hraw f
      exact ⟨m, decode_ok.mpr ⟨hg, rfl, hr⟩⟩
  · rw [decode_ok]
    constructor
    · rintro ⟨hg, hf, hr⟩
      exact ⟨m.rawBytes, encode_ok.mpr ⟨hg, by rw [hf, hr], rfl⟩, hr⟩
    · rintro ⟨r, he, rfl⟩
      obtain ⟨hg, hf, rfl⟩ := encode_ok.mp he
      exact ⟨hg, hf, rfl⟩
  · constructor
    · rintro ⟨m, hm⟩
      exact (new_ok.mp hm).1
    · intro hg
      obtain ⟨m, rfl, hr⟩ := hraw f
      exact ⟨m, new_ok.mpr ⟨hg, rfl, hr.symm⟩⟩
  · constructor
    · intro hm
      obtain ⟨hg, rfl, hr⟩ := new_ok.mp hm
      exact ⟨rfl, m.rawBytes, encode_ok.mpr ⟨hg, hr, rfl⟩, decode_ok.mpr ⟨hg, hr, rfl⟩⟩
    · rintro ⟨rfl, r, he, -⟩
      obtain ⟨hg, hf, rfl⟩ := encode_ok.mp he
      exact new_ok.mpr ⟨hg, rfl, hf⟩

end Canonicity

end Eip0045.Manifest
