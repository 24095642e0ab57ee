import Eip0045.Seal.RawSeal

/-! The output words of an accepted seal and the root and claim that they hold determine each
other. -/

namespace Eip0045.RawSeal

open Bytes Checked Constants Manifest Montgomery

section Words

lemma chunksExact_length {n : ℕ} {b : Bytes} (h : b.length = 4 * n) :
    (chunksExact b).length = n := by
  induction n generalizing b with
  | zero =>
    rw [List.length_eq_zero_iff.mp h]
    rfl
  | succ n ih =>
    obtain _ | ⟨w, _ | ⟨x, _ | ⟨y, _ | ⟨z, b⟩⟩⟩⟩ := b
    · exact absurd h (by simp)
    · exact absurd h (by simp; omega)
    · exact absurd h (by simp; omega)
    · exact absurd h (by simp; omega)
    · have hb : b.length = 4 * n := by
        simp only [List.length_cons] at h
        omega
      rw [chunksExact, List.length_cons, ih hb]

lemma chunksExact_flatMap (ws : List UInt32) : chunksExact (ws.flatMap le32) = ws := by
  induction ws with
  | nil => rfl
  | cons w ws ih =>
    have hw : [UInt8.ofNat w.toNat, UInt8.ofNat (w.toNat / 256),
        UInt8.ofNat (w.toNat / 256 / 256), UInt8.ofNat (w.toNat / 256 / 256 / 256)] = le32 w := rfl
    rw [List.flatMap_cons, ← hw]
    change ofLe32 _ :: chunksExact (ws.flatMap le32) = _
    rw [hw, ofLe32_le32, ih]

lemma validateSealLayout_ok : validateSealLayout = .ok () := by decide

lemma decodeSealWords_ok {b : Bytes} {ws : List UInt32} :
    decodeSealWords b = .ok ws ↔ b.length = proofBytes ∧ chunksExact b = ws := by
  rw [decodeSealWords, validateSealLayout_ok, ok_bind]
  simp only [bind_ok, exists_unit, ensure_ok, pure_ok]

lemma tryIntoWords_eq_some {n : ℕ} {ws : List UInt32} {v : List.Vector UInt32 n} :
    tryIntoWords n ws = some v ↔ ws = v.toList := by
  constructor
  · intro hv
    by_cases h : ws.length = n
    · rw [tryIntoWords, dif_pos h] at hv
      exact congrArg Subtype.val (Option.some.inj hv)
    · rw [tryIntoWords, dif_neg h] at hv
      exact absurd hv (by simp)
  · intro hv
    subst hv
    exact dif_pos v.2

end Words

section Field

lemma inverse_spec : 2 ^ 32 * montgomeryInverse ≡ 1 [MOD babyBearModulus] := by decide

lemma modulus_pos : 0 < babyBearModulus := by decide

lemma asU32_toNat (w : UInt32) :
    (asU32 w).toNat = fromForm babyBearModulus montgomeryInverse w.toNat := by
  have hlt : fromForm babyBearModulus montgomeryInverse w.toNat < babyBearModulus :=
    fromForm_lt modulus_pos
  have hp : babyBearModulus < 2 ^ 32 := by decide
  rw [asU32, UInt32.toNat_ofNat']
  exact Nat.mod_eq_of_lt (hlt.trans hp)

lemma asU32_injective {v w : UInt32} (hv : v.toNat < babyBearModulus)
    (hw : w.toNat < babyBearModulus) (h : asU32 v = asU32 w) : v = w := by
  have ht := congrArg UInt32.toNat h
  rw [asU32_toNat, asU32_toNat] at ht
  exact UInt32.toNat_inj.mp (fromForm_injOn inverse_spec hv hw ht)

def ofU32 (v : UInt32) : UInt32 := UInt32.ofNat (toForm babyBearModulus (2 ^ 32) v.toNat)

lemma ofU32_toNat (v : UInt32) :
    (ofU32 v).toNat = toForm babyBearModulus (2 ^ 32) v.toNat := by
  have hlt : toForm babyBearModulus (2 ^ 32) v.toNat < babyBearModulus := toForm_lt modulus_pos
  have hp : babyBearModulus < 2 ^ 32 := by decide
  rw [ofU32, UInt32.toNat_ofNat']
  exact Nat.mod_eq_of_lt (hlt.trans hp)

lemma ofU32_lt (v : UInt32) : (ofU32 v).toNat < babyBearModulus := by
  rw [ofU32_toNat]
  exact toForm_lt modulus_pos

lemma asU32_ofU32 {v : UInt32} (hv : v.toNat < babyBearModulus) : asU32 (ofU32 v) = v := by
  apply UInt32.toNat_inj.mp
  rw [asU32_toNat, ofU32_toNat, fromForm_toForm inverse_spec hv]

end Field

section Shape

variable (g : OutputGlobals)

/-- A word block that the reducedness, padding and halfword checks let through. -/
structure Shaped : Prop where
  reduced : ∀ i, (g.get i).toNat < babyBearModulus
  padding : ∀ k, g.get (paddingIndex k) = 0
  halfword : ∀ k, (asU32 (g.get (claimIndex k))).toNat < 2 ^ 16

lemma validateOutputShape_ok : validateOutputShape g = .ok () ↔
    (∀ k, g.get (paddingIndex k) = 0) ∧
      ∀ k, (asU32 (g.get (claimIndex k))).toNat < 2 ^ 16 := by
  simp only [validateOutputShape, bind_ok, exists_unit, forM_ok, List.mem_finRange, ensure_ok,
    true_implies]

variable {g}

def rootBytes (g : OutputGlobals) : Bytes :=
  (List.finRange 8).flatMap fun k => le32 (asU32 (g.get (rootIndex k)))

def claimBytes (g : OutputGlobals) : Bytes :=
  (List.finRange 16).flatMap fun k => le16 (asU32 (g.get (claimIndex k))).toUInt16

lemma packed {b : Bytes} (h : b.length = 32) : (ByteArr.atOffset 32 b 0).val = b := by
  rw [ByteArr.atOffset_val (by omega), ← h, slice_all]

lemma rootBytes_length : (rootBytes g).length = 32 := by
  rw [rootBytes, flatMap_length fun k => le32_length _, List.length_finRange]

lemma claimBytes_length : (claimBytes g).length = 32 := by
  rw [claimBytes, flatMap_length fun k => le16_length _, List.length_finRange]

lemma decodeInnerControlRoot_ok {root : Digest} (h : Shaped g) :
    decodeInnerControlRoot g = .ok root ↔ root.val = rootBytes g := by
  have hblock : ∀ k b, rootBlock g k = .ok b ↔
      True ∧ b = le32 (asU32 (g.get (rootIndex k))) := by
    intro k b
    simp only [rootBlock, bind_ok, exists_unit, ensure_ok, pure_ok, not_le.mpr (h.reduced _),
      h.padding, true_and, not_false_eq_true]
    exact eq_comm
  simp only [decodeInnerControlRoot, bind_ok, mapM_ok hblock, implies_true, true_and, pure_ok,
    ↓existsAndEq]
  constructor
  · intro h
    rw [← h]
    exact (packed rootBytes_length).symm
  · intro h
    exact Subtype.ext ((packed rootBytes_length).trans h.symm)

lemma decodeClaimDigest_ok {claim : Digest} (h : Shaped g) :
    decodeClaimDigest g = .ok claim ↔ claim.val = claimBytes g := by
  have hblock : ∀ k b, claimBlock g k = .ok b ↔
      True ∧ b = le16 (asU32 (g.get (claimIndex k))).toUInt16 := by
    intro k b
    simp only [claimBlock, bind_ok, exists_unit, ensure_ok, pure_ok, not_le.mpr (h.reduced _),
      h.halfword, true_and, not_false_eq_true]
    exact eq_comm
  simp only [decodeClaimDigest, bind_ok, mapM_ok hblock, implies_true, true_and, pure_ok,
    ↓existsAndEq]
  constructor
  · intro h
    rw [← h]
    exact (packed claimBytes_length).symm
  · intro h
    exact Subtype.ext ((packed claimBytes_length).trans h.symm)

end Shape

section Acceptance

variable {m : StarkProfileManifestV1} {raw : Bytes} {env : PreflightStarkEnvelope}

lemma wordsReduced_ok {ws : List UInt32} :
    (ws.zipIdx.forM fun (word, index) =>
      ensure (¬word.toNat ≥ babyBearModulus) (B4StarkError.rawSealWordNotReduced index word)) =
        .ok () ↔ ∀ w ∈ ws, w.toNat < babyBearModulus := by
  rw [forM_ok]
  constructor
  · intro h w hw
    obtain ⟨i, hi⟩ := List.mem_iff_getElem?.mp hw
    have hmem : (w, i) ∈ ws.zipIdx := List.mem_zipIdx_iff_getElem?.mpr hi
    exact Nat.lt_of_not_ge (ensure_ok.mp (h _ hmem))
  · intro h x hx
    exact ensure_ok.mpr (Nat.not_le.mpr (h _ (List.fst_mem_of_mem_zipIdx hx)))

structure Preflighted (m : StarkProfileManifestV1) (raw : Bytes) (env : PreflightStarkEnvelope) :
    Prop where
  length : raw.length = proofBytes
  words : chunksExact raw = env.sealWords.toList
  reduced : ∀ w ∈ env.sealWords.toList, w.toNat < babyBearModulus
  outerPo2 : env.sealWords.get outerPo2WordIndex = m.outerPo2.toUInt32
  globals : env.sealWords.toList.take outputWords = env.globals.toList
  shape : validateOutputShape env.globals = .ok ()
  root : m.innerControlRoot = env.expectedInnerControlRoot

lemma preflight_ok : preflight m raw = .ok env ↔ Preflighted m raw env := by
  simp only [preflight, bind_ok, exists_unit, ensure_ok, mapError_ok, decodeSealWords_ok,
    context_ok, tryIntoWords_eq_some, wordsReduced_ok, pure_ok]
  constructor
  · intro h
    obtain ⟨hlen, ws, ⟨-, hws⟩, v, hv, hred, hpo, g, hg, hshape, heq⟩ := h
    subst heq
    exact ⟨hlen, hws.trans hv, hred, hpo, hg, hshape, rfl⟩
  · intro h
    refine ⟨h.length, _, ⟨h.length, rfl⟩, env.sealWords, h.words, h.reduced, h.outerPo2,
      env.globals, h.globals, h.shape, ?_⟩
    rw [h.root]

lemma Preflighted.shaped (h : Preflighted m raw env) : Shaped env.globals := by
  obtain ⟨hpad, hhalf⟩ := (validateOutputShape_ok _).mp h.shape
  refine ⟨?_, hpad, hhalf⟩
  intro i
  apply h.reduced
  apply List.mem_of_mem_take (i := outputWords)
  rw [h.globals]
  exact List.Vector.get_mem i env.globals

lemma Preflighted.boundWords (h : Preflighted m raw env) :
    env.sealWords.toList.take 33 = env.globals.toList ++ [m.outerPo2.toUInt32] := by
  have hlen : 32 < env.sealWords.toList.length := by
    rw [List.Vector.toList_length]
    decide
  have hget : env.sealWords.toList[32] = m.outerPo2.toUInt32 := h.outerPo2
  rw [← h.globals, ← hget]
  exact (List.take_concat_get' _ _ hlen).symm

end Acceptance

section Binding

variable {g h : OutputGlobals}

lemma outputIndex_cases (i : Fin outputWords) :
    (∃ k, i = rootIndex k) ∨ (∃ k, i = paddingIndex k) ∨ ∃ k, i = claimIndex k := by
  revert i
  decide

lemma toUInt16_injOn {v w : UInt32} (hv : v.toNat < 2 ^ 16) (hw : w.toNat < 2 ^ 16)
    (h : v.toUInt16 = w.toUInt16) : v = w := by
  have ht := congrArg UInt16.toNat h
  rw [UInt32.toNat_toUInt16, UInt32.toNat_toUInt16, Nat.mod_eq_of_lt hv, Nat.mod_eq_of_lt hw] at ht
  exact UInt32.toNat_inj.mp ht

lemma Shaped.eq (hg : Shaped g) (hh : Shaped h) (hroot : rootBytes g = rootBytes h)
    (hclaim : claimBytes g = claimBytes h) : g = h := by
  have hr := flatMap_injective (fun _ => le32_length _) (fun _ => le32_length _) hroot
  have hc := flatMap_injective (fun _ => le16_length _) (fun _ => le16_length _) hclaim
  apply List.Vector.ext
  intro i
  obtain ⟨k, rfl⟩ | ⟨k, rfl⟩ | ⟨k, rfl⟩ := outputIndex_cases i
  · have hk := le32_injective (hr k (List.mem_finRange k))
    exact asU32_injective (hg.reduced _) (hh.reduced _) hk
  · rw [hg.padding, hh.padding]
  · have hk := le16_injective (hc k (List.mem_finRange k))
    have hk' := toUInt16_injOn (hg.halfword k) (hh.halfword k) hk
    exact asU32_injective (hg.reduced _) (hh.reduced _) hk'

end Binding

section Construction

variable (m : StarkProfileManifestV1) (root claim : Digest)

def rootWord (k : ℕ) : UInt32 := ofLe32 (slice root.val (4 * k) 4)
def claimHalfword (k : ℕ) : UInt16 := ofLe16 (slice claim.val (2 * k) 2)

def outputFor : OutputGlobals := List.Vector.ofFn fun i =>
  if i.val < 16 then if i.val % 2 = 0 then ofU32 (rootWord root (i.val / 2)) else 0
  else ofU32 (claimHalfword claim (i.val - 16)).toUInt32

lemma outputFor_root (k : Fin 8) :
    (outputFor root claim).get (rootIndex k) = ofU32 (rootWord root k) := by
  have hlt : (rootIndex k).val < 16 := by simp only [rootIndex]; omega
  have heven : (rootIndex k).val % 2 = 0 := by simp only [rootIndex]; omega
  have hhalf : (rootIndex k).val / 2 = k := by simp only [rootIndex]; omega
  rw [outputFor, List.Vector.get_ofFn, if_pos hlt, if_pos heven, hhalf]

lemma outputFor_padding (k : Fin 8) : (outputFor root claim).get (paddingIndex k) = 0 := by
  have hlt : (paddingIndex k).val < 16 := by simp only [paddingIndex]; omega
  have hodd : ¬(paddingIndex k).val % 2 = 0 := by simp only [paddingIndex]; omega
  rw [outputFor, List.Vector.get_ofFn, if_pos hlt, if_neg hodd]

lemma outputFor_claim (k : Fin 16) : (outputFor root claim).get (claimIndex k) =
    ofU32 (claimHalfword claim k).toUInt32 := by
  have hge : ¬(claimIndex k).val < 16 := by simp only [claimIndex]; omega
  have hsub : (claimIndex k).val - 16 = k := by simp only [claimIndex]; omega
  rw [outputFor, List.Vector.get_ofFn, if_neg hge, hsub]

variable {root}

lemma asU32_halfword (v : UInt16) : asU32 (ofU32 v.toUInt32) = v.toUInt32 := by
  apply asU32_ofU32
  have hv := v.toNat_lt
  have hp : 2 ^ 16 < babyBearModulus := by decide
  rw [UInt16.toNat_toUInt32]
  omega

lemma outputFor_shaped : Shaped (outputFor root claim) := by
  refine ⟨?_, outputFor_padding root claim, ?_⟩
  · intro i
    obtain ⟨k, rfl⟩ | ⟨k, rfl⟩ | ⟨k, rfl⟩ := outputIndex_cases i
    · rw [outputFor_root]
      exact ofU32_lt _
    · rw [outputFor_padding]
      exact modulus_pos
    · rw [outputFor_claim]
      exact ofU32_lt _
  · intro k
    rw [outputFor_claim, asU32_halfword, UInt16.toNat_toUInt32]
    exact UInt16.toNat_lt _

lemma flatMap_finRange {n w : ℕ} {b : Bytes} (hb : b.length = w * n) {f : Fin n → Bytes}
    (hf : ∀ k, f k = slice b (w * k) w) : (List.finRange n).flatMap f = b := by
  have hrange : (List.finRange n).flatMap f =
      (List.range n).flatMap fun k => slice b (0 + w * k) w := by
    rw [← List.map_coe_finRange_eq_range, List.flatMap_map, funext hf]
    simp only [Nat.zero_add]
  rw [hrange, slice_records, ← hb, slice_all]

lemma rootBytes_outputFor (h : ∀ k : Fin 8, (rootWord root k).toNat < babyBearModulus) :
    rootBytes (outputFor root claim) = root.val := by
  apply flatMap_finRange (w := 4) root.2
  intro k
  have hk : 4 * k.val + 4 ≤ root.val.length := by
    rw [ByteArr.val_length]
    omega
  rw [outputFor_root, asU32_ofU32 (h k), rootWord, le32_ofLe32 (slice_length hk)]

lemma claimBytes_outputFor : claimBytes (outputFor root claim) = claim.val := by
  apply flatMap_finRange (w := 2) claim.2
  intro k
  have hk : 2 * k.val + 2 ≤ claim.val.length := by
    rw [ByteArr.val_length]
    omega
  rw [outputFor_claim, asU32_halfword, UInt16.toUInt16_toUInt32, claimHalfword,
    le16_ofLe16 (slice_length hk)]

variable (root)

def sealWordsFor : List UInt32 :=
  (outputFor root claim).toList ++ [m.outerPo2.toUInt32] ++ List.replicate (proofWords - 33) 0

lemma sealWordsFor_length : (sealWordsFor m root claim).length = proofWords := by
  rw [sealWordsFor, List.length_append, List.length_append, List.Vector.toList_length,
    List.length_singleton, List.length_replicate]
  decide

lemma sealWordsFor_outerPo2 : (sealWordsFor m root claim)[32]? = some m.outerPo2.toUInt32 := by
  have hlen : (outputFor root claim).toList.length = 32 := List.Vector.toList_length _
  rw [sealWordsFor, List.append_assoc, List.getElem?_append_right hlen.le, hlen]
  rfl

def envelopeFor : PreflightStarkEnvelope where
  sealWords := ⟨sealWordsFor m root claim, sealWordsFor_length m root claim⟩
  globals := outputFor root claim
  expectedInnerControlRoot := m.innerControlRoot

lemma sealFor_preflighted :
    Preflighted m ((sealWordsFor m root claim).flatMap le32) (envelopeFor m root claim) := by
  have hshaped : Shaped (outputFor root claim) := outputFor_shaped claim
  refine ⟨?_, ?_, ?_, ?_, ?_, ?_, rfl⟩
  · rw [flatMap_length (fun _ => le32_length _), sealWordsFor_length]
    decide
  · exact chunksExact_flatMap _
  · intro w hw
    change w ∈ sealWordsFor m root claim at hw
    simp only [sealWordsFor, List.mem_append, List.mem_singleton, List.mem_replicate] at hw
    obtain (hw | hw) | ⟨-, hw⟩ := hw
    · obtain ⟨i, rfl⟩ := (List.Vector.mem_iff_get _ _).mp hw
      exact hshaped.reduced i
    · have hlt := m.outerPo2.toNat_lt
      have hp : 2 ^ 8 < babyBearModulus := by decide
      rw [hw, UInt8.toNat_toUInt32]
      omega
    · rw [hw]
      exact modulus_pos
  · exact (List.getElem?_eq_some_iff.mp (sealWordsFor_outerPo2 m root claim)).2
  · change (sealWordsFor m root claim).take outputWords = (outputFor root claim).toList
    rw [sealWordsFor, List.append_assoc]
    exact List.take_left' (List.Vector.toList_length _)
  · exact (validateOutputShape_ok _).mpr ⟨hshaped.padding, hshaped.halfword⟩

end Construction

/-- The first 33 words of an accepted seal that holds `root` and `claim`. -/
def BoundWords (m : StarkProfileManifestV1) (root claim : Digest) (words : List UInt32) : Prop :=
  ∃ raw env, preflight m raw = .ok env ∧ env.sealWords.toList.take 33 = words ∧
    decodeInnerControlRoot env.globals = .ok root ∧ decodeClaimDigest env.globals = .ok claim

lemma BoundWords.unique {m m' : StarkProfileManifestV1} {root claim : Digest}
    {words words' : List UInt32} (h : BoundWords m root claim words)
    (h' : BoundWords m' root claim words') :
    ∃ g : OutputGlobals, words = g.toList ++ [m.outerPo2.toUInt32] ∧
      words' = g.toList ++ [m'.outerPo2.toUInt32] := by
  obtain ⟨raw, env, hpre, rfl, hroot, hclaim⟩ := h
  obtain ⟨raw', env', hpre', rfl, hroot', hclaim'⟩ := h'
  have hp := preflight_ok.mp hpre
  have hp' := preflight_ok.mp hpre'
  have hr := (decodeInnerControlRoot_ok hp.shaped).mp hroot
  have hr' := (decodeInnerControlRoot_ok hp'.shaped).mp hroot'
  have hc := (decodeClaimDigest_ok hp.shaped).mp hclaim
  have hc' := (decodeClaimDigest_ok hp'.shaped).mp hclaim'
  have heq := hp.shaped.eq hp'.shaped (hr.symm.trans hr') (hc.symm.trans hc')
  exact ⟨env.globals, hp.boundWords, heq ▸ hp'.boundWords⟩

lemma boundWords_for (m : StarkProfileManifestV1) {root : Digest} (claim : Digest)
    (h : ∀ k : Fin 8, (rootWord root k).toNat < babyBearModulus) :
    BoundWords m root claim ((sealWordsFor m root claim).take 33) := by
  have hshaped : Shaped (outputFor root claim) := outputFor_shaped claim
  refine ⟨_, _, preflight_ok.mpr (sealFor_preflighted m root claim), rfl, ?_, ?_⟩
  · exact (decodeInnerControlRoot_ok hshaped).mpr (rootBytes_outputFor claim h).symm
  · exact (decodeClaimDigest_ok hshaped).mpr (claimBytes_outputFor claim).symm

/-- An accepted seal decodes; its root and claim fix its first 33 words up to the word that the
manifest fixes; and a root of reduced words is held, with any claim, by exactly one block. -/
theorem raw_seal_output_binding (m m' : StarkProfileManifestV1) :
    (∀ raw env, preflight m raw = .ok env →
      (∃ root, decodeInnerControlRoot env.globals = .ok root) ∧
        ∃ claim, decodeClaimDigest env.globals = .ok claim) ∧
    (∀ root claim words words', BoundWords m root claim words → BoundWords m' root claim words' →
      words.take 32 = words'.take 32 ∧ (words = words' ↔ m.outerPo2 = m'.outerPo2)) ∧
    ∀ root claim, (∀ k : Fin 8, (rootWord root k).toNat < babyBearModulus) →
      ∃! words, BoundWords m root claim words := by
  refine ⟨?_, ?_, ?_⟩
  · intro raw env hpre
    have hshaped := (preflight_ok.mp hpre).shaped
    have hroot : decodeInnerControlRoot env.globals = .ok ⟨_, rootBytes_length⟩ :=
      (decodeInnerControlRoot_ok hshaped).mpr rfl
    have hclaim : decodeClaimDigest env.globals = .ok ⟨_, claimBytes_length⟩ :=
      (decodeClaimDigest_ok hshaped).mpr rfl
    exact ⟨⟨_, hroot⟩, _, hclaim⟩
  · intro root claim words words' h h'
    obtain ⟨g, hwords, hwords'⟩ := h.unique h'
    have hlen : g.toList.length = 32 := List.Vector.toList_length g
    subst hwords hwords'
    refine ⟨?_, ?_⟩
    · rw [List.take_left' hlen, List.take_left' hlen]
    · rw [List.append_cancel_left_eq, List.singleton_inj]
      exact UInt8.toUInt32_inj
  · intro root claim hroot
    refine ⟨_, boundWords_for m claim hroot, ?_⟩
    intro words hwords
    obtain ⟨g, hg, hg'⟩ := hwords.unique (boundWords_for m claim hroot)
    rw [hg, hg']

end Eip0045.RawSeal
