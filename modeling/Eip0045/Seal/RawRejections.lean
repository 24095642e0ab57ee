import Eip0045.Profile.ManifestCanonicity
import Eip0045.Seal.RawBase

/-! An edit of a raw-seal row changes one word of an accepted seal, and the consumer rejects the
edited seal for that word with the error planned for the row. -/

namespace Eip0045.RawSeal

open Bytes Checked Constants

namespace Producer

section Splice

variable {words : List UInt32} {before after : UInt32} {i : ℕ}

lemma flatMap_chunksExact {n : ℕ} {b : Bytes} (h : b.length = 4 * n) :
    (chunksExact b).flatMap le32 = b := by
  induction n generalizing b with
  | zero =>
    rw [List.length_eq_zero_iff.mp h]
    rfl
  | succ n ih =>
    obtain _ | ⟨w, _ | ⟨x, _ | ⟨y, _ | ⟨z, b⟩⟩⟩⟩ := b
    · exact absurd h (by simp)
    · exact absurd h (by simp; omega)
    · exact absurd h (by simp; omega)
    · exact absurd h (by simp; omega)
    · have hb : b.length = 4 * n := by
        simp only [List.length_cons] at h
        omega
      rw [chunksExact, List.flatMap_cons, ih hb, le32_ofLe32 rfl]
      rfl

/-- The edit that puts a word in the place of another. -/
def wordEdit (before after : UInt32) (i : ℕ) : B4ByteOperation :=
  .replace (Hex.encode (le32 before)) (Hex.encode (le32 after)) (i * wordBytes)

lemma replacementParts_wordEdit :
    replacementParts (wordEdit before after i) = .ok ⟨i * 4, le32 before, le32 after⟩ := by
  simp only [replacementParts, wordEdit, bind_ok, exists_unit, ensure_ok, context_ok, pure_ok]
  exact ⟨_, Hex.decode_encode _, _, Hex.decode_encode _, ⟨le32_length _, le32_length _⟩, rfl⟩

lemma splice_wordEdit (hlen : words.length = proofWords) (h : words[i]? = some before) :
    independentReplaceSplice (words.flatMap le32) (wordEdit before after i) =
      .ok ((words.set i after).flatMap le32) := by
  obtain ⟨hi, hget⟩ := List.getElem?_eq_some_iff.mp h
  have hwords : words = words.take i ++ before :: words.drop (i + 1) := by
    rw [← hget, List.getElem_cons_drop, List.take_append_drop]
  have hset : words.set i after = words.take i ++ after :: words.drop (i + 1) :=
    List.set_eq_take_cons_drop after hi
  have htake : ((words.take i).flatMap le32).length = i * 4 := by
    rw [flatMap_length fun _ => le32_length _, List.length_take]
    omega
  have hbase : words.flatMap le32 = (words.take i).flatMap le32 ++ le32 before ++
      (words.drop (i + 1)).flatMap le32 := by
    conv_lhs => rw [hwords]
    rw [List.flatMap_append, List.flatMap_cons, List.append_assoc]
  have hall : (words.flatMap le32).length = 222668 := by
    rw [flatMap_length fun _ => le32_length _, hlen]
    rfl
  have hbefore := le32_length before
  have hrest : ((words.drop (i + 1)).flatMap le32).length = 222668 - (i * 4 + 4) := by
    rw [hbase, List.length_append, List.length_append, htake, hbefore] at hall
    omega
  have hfits : i * 4 + 4 ≤ 222668 := by
    rw [hlen] at hi
    change i < 55667 at hi
    omega
  simp only [independentReplaceSplice, bind_ok, exists_unit, ensure_ok, context_ok,
    replacementParts_wordEdit, Except.ok.injEq, exists_eq_left', checkedAdd_eq_some, pure_ok,
    hbefore]
  refine ⟨_, ⟨by omega, rfl⟩, ?_, (words.take i).flatMap le32, ?_,
    (words.drop (i + 1)).flatMap le32, ?_, ?_, ?_⟩
  · rw [getRange_eq_some, hall, Nat.add_sub_cancel_left]
    refine ⟨Nat.le_add_right _ _, hfits, ?_⟩
    rw [hbase, ← htake, ← hbefore, slice_between]
  · rw [getRange_eq_some, hall, Nat.sub_zero]
    refine ⟨Nat.zero_le _, by omega, ?_⟩
    rw [hbase, ← htake, List.append_assoc]
    exact slice_initial (List.prefix_append _ _)
  · rw [getRange_eq_some, hall]
    refine ⟨hfits, le_rfl, ?_⟩
    rw [← hrest, hbase, slice, ← htake, ← hbefore, ← List.length_append, List.drop_left,
      List.take_length]
  · rw [hall, List.length_append, List.length_append, htake, hrest, le32_length]
    omega
  · rw [hset, List.flatMap_append, List.flatMap_cons, List.append_assoc]

end Splice

section Rejections

variable {m : Manifest.StarkProfileManifestV1} {raw : Bytes} {v : List.Vector UInt32 proofWords}
  {g : OutputGlobals} {i : ℕ} {word : UInt32}

lemma decodeSealWords_laid (h : Laid raw v g) :
    mapError B4StarkError.rawSealDecode (decodeSealWords raw) = .ok v.toList :=
  mapError_ok.mpr (decodeSealWords_ok.mpr ⟨h.length, h.words⟩)

lemma tryIntoWords_laid {n : ℕ} {u : List.Vector UInt32 n} {words : List UInt32}
    (h : words = u.toList) :
    context B4StarkError.rawSealDecode (tryIntoWords n words) = .ok u :=
  context_ok.mpr (tryIntoWords_eq_some.mpr h)

def checkReduced (entry : UInt32 × ℕ) : Except B4StarkError Unit :=
  ensure (¬entry.1.toNat ≥ babyBearModulus) (.rawSealWordNotReduced entry.2 entry.1)

lemma preflight_not_reduced (h : Laid raw v g) (hword : v.toList[i]? = some word)
    (hlarge : ¬word < babyBear)
    (hothers : ∀ j other, j ≠ i → v.toList[j]? = some other → other < babyBear) :
    preflight m raw = .error (.rawSealWordNotReduced i word) := by
  have hreduced : v.toList.zipIdx.forM checkReduced = .error (.rawSealWordNotReduced i word) := by
    have hmem : (word, i) ∈ v.toList.zipIdx := List.mem_zipIdx_iff_getElem?.mpr hword
    apply forM_error hmem
    · rw [lt_babyBear, not_lt] at hlarge
      exact if_neg (not_not.mpr hlarge)
    · intro entry hentry hne
      have hget : v.toList[entry.2]? = some entry.1 := List.mem_zipIdx_iff_getElem?.mp hentry
      have hj : entry.2 ≠ i := by
        intro hi
        rw [hi] at hget
        exact hne (Prod.ext (Option.some.inj (hget.symm.trans hword)) hi)
      exact ensure_pass (not_le.mpr (lt_babyBear.mp (hothers entry.2 entry.1 hj hget)))
  rw [preflight, ensure_pass h.length, ok_bind, decodeSealWords_laid h, ok_bind,
    tryIntoWords_laid rfl, ok_bind]
  change (v.toList.zipIdx.forM checkReduced >>= _) = _
  rw [hreduced, error_bind]

lemma words_reduced (hreduced : ∀ word ∈ v.toList, word < babyBear) :
    v.toList.zipIdx.forM checkReduced = .ok () := by
  rw [forM_ok]
  intro entry hentry
  have hword := hreduced _ (List.fst_mem_of_mem_zipIdx hentry)
  exact ensure_pass (not_le.mpr (lt_babyBear.mp hword))

lemma preflight_outerPo2 (h : Laid raw v g) (hreduced : ∀ word ∈ v.toList, word < babyBear)
    (hword : v.toList[32]? = some word) (hne : word ≠ m.outerPo2.toUInt32) :
    preflight m raw = .error (.outerPo2Mismatch word m.outerPo2.toUInt32) := by
  have hget : v.get outerPo2WordIndex = word :=
    Option.some.inj ((vector_getElem? v outerPo2WordIndex).symm.trans hword)
  have houter : ensure (v.get outerPo2WordIndex = m.outerPo2.toUInt32)
      (B4StarkError.outerPo2Mismatch (v.get outerPo2WordIndex) m.outerPo2.toUInt32) =
        .error (.outerPo2Mismatch word m.outerPo2.toUInt32) := by
    rw [hget]
    exact if_neg hne
  rw [preflight, ensure_pass h.length, ok_bind, decodeSealWords_laid h, ok_bind,
    tryIntoWords_laid rfl, ok_bind]
  change (v.toList.zipIdx.forM checkReduced >>= _) = _
  rw [words_reduced hreduced, ok_bind]
  change (ensure _ _ >>= _) = _
  rw [houter, error_bind]

lemma preflight_shape (h : Laid raw v g) (hreduced : ∀ word ∈ v.toList, word < babyBear)
    (houter : v.toList[32]? = some m.outerPo2.toUInt32) {e : B4StarkError}
    (hshape : validateOutputShape g = .error e) : preflight m raw = .error e := by
  have hget : v.get outerPo2WordIndex = m.outerPo2.toUInt32 :=
    Option.some.inj ((vector_getElem? v outerPo2WordIndex).symm.trans houter)
  rw [preflight, ensure_pass h.length, ok_bind, decodeSealWords_laid h, ok_bind,
    tryIntoWords_laid rfl, ok_bind]
  change (v.toList.zipIdx.forM checkReduced >>= _) = _
  rw [words_reduced hreduced, ok_bind]
  change (ensure _ _ >>= _) = _
  rw [ensure_pass hget, ok_bind, tryIntoWords_laid h.globals, ok_bind, hshape, error_bind]

lemma shape_padding (h : Laid raw v g) {k : Fin 8} (hword : v.toList[1 + 2 * k.val]? = some word)
    (hne : word ≠ 0) (hothers : ∀ j : Fin 8, j ≠ k → v.toList[1 + 2 * j.val]? = some 0) :
    validateOutputShape g = .error (.nonzeroInnerRootPadding (1 + 2 * k)) := by
  have hget := globals_getElem? h.globals
  have hpadding : ((List.finRange 8).forM fun k =>
      ensure (g.get (paddingIndex k) = 0)
        (B4StarkError.nonzeroInnerRootPadding (paddingIndex k))) =
          .error (.nonzeroInnerRootPadding (1 + 2 * k)) := by
    apply forM_error (List.mem_finRange k)
    · have hk := hget (paddingIndex k)
      rw [paddingIndex_val, hword] at hk
      rw [← Option.some.inj hk, paddingIndex_val]
      exact if_neg hne
    · intro j _ hj
      have hk := hget (paddingIndex j)
      rw [paddingIndex_val, hothers j hj] at hk
      exact ensure_pass (Option.some.inj hk).symm
  rw [validateOutputShape, hpadding, error_bind]

lemma shape_claim (h : Laid raw v g) (hpadding : ∀ k < 8, v.toList[1 + 2 * k]? = some 0)
    {k : Fin 16} (hword : v.toList[16 + k.val]? = some word) (hlarge : ¬(asU32 word).toNat < 2 ^ 16)
    (hothers : ∀ j : Fin 16, j ≠ k →
      ∃ other, v.toList[16 + j.val]? = some other ∧ (asU32 other).toNat < 2 ^ 16) :
    validateOutputShape g = .error (.claimHalfwordOutOfRange (16 + k) (asU32 word)) := by
  have hget := globals_getElem? h.globals
  have hpad : ((List.finRange 8).forM fun k =>
      ensure (g.get (paddingIndex k) = 0)
        (B4StarkError.nonzeroInnerRootPadding (paddingIndex k))) = .ok () := by
    rw [forM_ok]
    intro j _
    have hj := hget (paddingIndex j)
    rw [paddingIndex_val, hpadding j j.2] at hj
    exact ensure_pass (Option.some.inj hj).symm
  rw [validateOutputShape, hpad, ok_bind]
  apply forM_error (List.mem_finRange k)
  · have hk : v.toList[16 + k.val]? = some (g.get (claimIndex k)) := hget (claimIndex k)
    rw [← Option.some.inj (hword.symm.trans hk)]
    exact if_neg hlarge
  · intro j _ hj
    obtain ⟨other, hother, hhalf⟩ := hothers j hj
    have hk : v.toList[16 + j.val]? = some (g.get (claimIndex j)) := hget (claimIndex j)
    rw [← Option.some.inj (hother.symm.trans hk)]
    exact ensure_pass hhalf

end Rejections

section Rows

variable {m : Manifest.StarkProfileManifestV1} {raw : Bytes} {sources : RawSources}
  {index i : ℕ} {before after : UInt32} {manifestPo2 : UInt8}

def sealRows : List ℕ := List.range' 33 39 ++ [109]

/-- The word of the rows that edit the same word of every seal. -/
def rowWord (index : ℕ) : Option ℕ :=
  if index ≤ 40 then some (1 + (index - 33) * 2)
  else if index ≤ 56 then some (16 + (index - 41))
  else if index ≤ 70 then none
  else some 32

def plannedRejection (index : ℕ) (manifestPo2 : UInt8) (i : ℕ) (after : UInt32) : B4StarkError :=
  if index ≤ 40 then .nonzeroInnerRootPadding i
  else if index ≤ 56 then .claimHalfwordOutOfRange i 65536
  else if index ≤ 70 then .rawSealWordNotReduced i after
  else .outerPo2Mismatch after manifestPo2.toUInt32

def DifferOnlyAt (i : ℕ) (u v : List UInt32) : Prop :=
  u.length = v.length ∧ u[i]? ≠ v[i]? ∧ ∀ j ≠ i, u[j]? = v[j]?

/-- The edited seal differs from its base in one word, passes the producer's projection, and is
rejected by the consumer as planned for the row. -/
def IsolatedRejection (m : Manifest.StarkProfileManifestV1) (index : ℕ) (sources : RawSources)
    (edit : B4ByteOperation) : Prop :=
  ∃ mutated words i after, independentReplaceSplice sources.rawSeal edit = .ok mutated ∧
    decodeSealWords mutated = .ok words ∧ DifferOnlyAt i sources.rawSealWords words ∧
      words[i]? = some after ∧ (∀ fixed ∈ rowWord index, i = fixed) ∧
        validateSealRejectionProjection index sources mutated = .ok () ∧
          preflight m mutated = .error (plannedRejection index m.outerPo2 i after)

lemma Based.words_length (h : Based manifestPo2 raw sources) :
    (chunksExact raw).length = proofWords := chunksExact_length h.length

lemma Based.modulus (h : Based manifestPo2 raw sources) :
    sources.semanticProjection.modulus = babyBear := by
  rw [h.semanticProjection]
  rfl

lemma set_reduced {words : List UInt32} (h : ∀ word ∈ words, word < babyBear)
    (hafter : after < babyBear) : ∀ word ∈ words.set i after, word < babyBear := by
  intro word hword
  obtain hword | rfl := List.mem_or_eq_of_mem_set hword
  · exact h word hword
  · exact hafter

lemma set_reducedExcept {words : List UInt32} (h : ∀ word ∈ words, word < babyBear) :
    ReducedExcept babyBear i (words.set i after) := by
  intro entry hentry
  rw [List.mem_zipIdx_iff_getElem?] at hentry
  by_cases hi : entry.2 = i
  · exact .inl hi
  · rw [List.getElem?_set_ne (Ne.symm hi)] at hentry
    exact .inr (h _ (List.mem_of_getElem? hentry))

lemma isolated (h : Based m.outerPo2 raw sources) (hbefore : (chunksExact raw)[i]? = some before)
    (hne : before ≠ after) (hfixed : ∀ fixed ∈ rowWord index, i = fixed)
    (hvalid : ∀ mutated, decodeSealWords mutated = .ok ((chunksExact raw).set i after) →
      validateSealRejectionProjection index sources mutated = .ok ())
    (hreject : ∀ mutated v g, Laid mutated v g → v.toList = (chunksExact raw).set i after →
      preflight m mutated = .error (plannedRejection index m.outerPo2 i after)) :
    IsolatedRejection m index sources (wordEdit before after i) := by
  have hcount := h.words_length
  obtain ⟨hi, -⟩ := List.getElem?_eq_some_iff.mp hbefore
  have hbase : raw = (chunksExact raw).flatMap le32 :=
    (flatMap_chunksExact (n := proofWords) h.length).symm
  have hlen : (((chunksExact raw).set i after).flatMap le32).length = proofBytes := by
    rw [flatMap_length fun _ => le32_length _, List.length_set, hcount]
    rfl
  have hdecode := decodeSealWords_ok.mpr ⟨hlen, chunksExact_flatMap _⟩
  obtain ⟨v, g, hlaid⟩ := laid_of_length hlen
  refine ⟨_, _, i, after, ?_, hdecode, ⟨?_, ?_, ?_⟩, List.getElem?_set_self hi, hfixed,
    hvalid _ hdecode, hreject _ v g hlaid ?_⟩
  · rw [h.rawSeal]
    conv_lhs => rw [hbase]
    exact splice_wordEdit hcount hbefore
  · rw [h.rawSealWords, List.length_set]
  · rw [h.rawSealWords, hbefore, List.getElem?_set_self hi]
    exact fun heq => hne (Option.some.inj heq)
  · intro j hj
    rw [h.rawSealWords, List.getElem?_set_ne (Ne.symm hj)]
  · rw [← hlaid.words, chunksExact_flatMap]

lemma replaceWord_ok (h : Based manifestPo2 raw sources)
    (hbefore : (chunksExact raw)[i]? = some before) (hne : before ≠ after) :
    replaceWord sources i after = .ok (wordEdit before after i) := by
  have hi := (List.getElem?_eq_some_iff.mp hbefore).1
  rw [h.words_length] at hi
  change i < 55667 at hi
  have hoffset : Statement.checkedMul i wordBytes = some (i * wordBytes) := by
    have hlt : i * wordBytes < 2 ^ 64 := by
      change i * 4 < _
      omega
    rw [Statement.checkedMul, if_pos hlt]
  simp only [replaceWord, bind_ok, exists_unit, ensure_ok, context_ok, pure_ok, h.rawSealWords]
  exact ⟨_, hbefore, hne, _, hoffset, rfl⟩

section Padding

lemma padding_base (h : Based manifestPo2 raw sources) (hlow : 33 ≤ index) (hhigh : index ≤ 40) :
    (chunksExact raw)[1 + (index - 33) * 2]? = some 0 := by
  rw [Nat.mul_comm]
  exact h.accepted.padding (index - 33) (by omega)

lemma padding_edit (h : Based manifestPo2 raw sources) (hlow : 33 ≤ index) (hhigh : index ≤ 40) :
    sealEdit index sources = .ok (wordEdit 0 1 (1 + (index - 33) * 2)) := by
  have hbase := padding_base h hlow hhigh
  rw [sealEdit, if_pos ⟨hlow, hhigh⟩]
  simp only [paddingEdit, bind_ok, exists_unit, ensure_ok, h.rawSealWords]
  exact ⟨hbase, replaceWord_ok h hbase (by decide)⟩

lemma padding_isolated (h : Based m.outerPo2 raw sources) (hlow : 33 ≤ index)
    (hhigh : index ≤ 40) :
    IsolatedRejection m index sources (wordEdit 0 1 (1 + (index - 33) * 2)) := by
  have hbase := padding_base h hlow hhigh
  have hi := (List.getElem?_eq_some_iff.mp hbase).1
  have hcomm : 1 + (index - 33) * 2 = 1 + 2 * (index - 33) := by omega
  apply isolated h hbase (by decide)
  · rw [rowWord, if_pos hhigh]
    exact fun fixed hfixed => Option.some.inj hfixed
  · intro mutated hdecode
    rw [validateSealRejectionProjection, hdecode, report, ok_bind]
    rw [if_pos ⟨hlow, hhigh⟩, h.modulus]
    simp only [paddingProjection, bind_ok, context_ok, ensure_ok]
    exact ⟨1, List.getElem?_set_self hi, rfl, set_reducedExcept h.accepted.reduced⟩
  · intro mutated v g hlaid hv
    have hself : v.toList[1 + 2 * (index - 33)]? = some 1 := by
      rw [hv, ← hcomm]
      exact List.getElem?_set_self hi
    have hother : ∀ j, j ≠ 1 + 2 * (index - 33) → v.toList[j]? = (chunksExact raw)[j]? := by
      intro j hj
      rw [hv, List.getElem?_set_ne (by omega)]
    have hk : index - 33 < 8 := by omega
    have hreduced := set_reduced (i := 1 + (index - 33) * 2) h.accepted.reduced
      (show (1 : UInt32) < babyBear by decide)
    rw [plannedRejection, if_pos hhigh, hcomm]
    apply preflight_shape hlaid (hv ▸ hreduced)
    · rw [hother 32 (by omega)]
      exact h.accepted.outer
    · apply @shape_padding mutated v g 1 hlaid ⟨index - 33, hk⟩ hself (by decide)
      intro j hj
      have hval : j.val ≠ index - 33 := fun heq => hj (Fin.ext heq)
      rw [hother _ (by omega)]
      exact h.accepted.padding j j.2

end Padding

section Claim

lemma overflow_word : ofU32 65536 = 0x0ffdddde ∧ asU32 0x0ffdddde = 65536 ∧
    (0x0ffdddde : UInt32) < babyBear ∧ (65536 : UInt32) < babyBear := by decide

lemma claim_base (h : Based manifestPo2 raw sources) (hlow : 41 ≤ index) (hhigh : index ≤ 56) :
    ∃ before, (chunksExact raw)[16 + (index - 41)]? = some before ∧ before < babyBear ∧
      (asU32 before).toNat < 2 ^ 16 ∧ before ≠ 0x0ffdddde := by
  obtain ⟨before, hbefore, hhalf⟩ := h.accepted.claim (index - 41) (by omega)
  refine ⟨before, hbefore, h.accepted.reduced before (List.mem_of_getElem? hbefore), hhalf, ?_⟩
  rintro rfl
  exact absurd hhalf (by decide)

lemma claim_edit (h : Based manifestPo2 raw sources) (hlow : 41 ≤ index) (hhigh : index ≤ 56) :
    ∃ before, (chunksExact raw)[16 + (index - 41)]? = some before ∧ before ≠ 0x0ffdddde ∧
      sealEdit index sources = .ok (wordEdit before 0x0ffdddde (16 + (index - 41))) := by
  obtain ⟨before, hbefore, hlt, hhalf, hne⟩ := claim_base h hlow hhigh
  obtain ⟨hencoded, -, -, hsmall⟩ := overflow_word
  refine ⟨before, hbefore, hne, ?_⟩
  rw [sealEdit, if_neg (by omega), if_pos ⟨hlow, hhigh⟩]
  simp only [claimEdit, bind_ok, exists_unit, ensure_ok, context_ok, h.rawSealWords, h.modulus,
    montgomeryDecode_ok, montgomeryEncode_ok]
  exact ⟨before, hbefore, _, ⟨hlt, rfl⟩, hhalf, _, ⟨hsmall, rfl⟩, hencoded,
    hencoded ▸ replaceWord_ok h hbefore hne⟩

lemma decodesToHalfword_eq {word : UInt32} (hlt : word < babyBear)
    (hhalf : (asU32 word).toNat < 2 ^ 16) : decodesToHalfword babyBear word = true := by
  rw [decodesToHalfword, montgomeryDecode_ok.mpr ⟨hlt, rfl⟩]
  exact decide_eq_true hhalf

lemma claim_projection (h : Based manifestPo2 raw sources) (hlow : 41 ≤ index)
    (hhigh : index ≤ 56) :
    claimProjection index babyBear ((chunksExact raw).set (16 + (index - 41)) 0x0ffdddde) =
      .ok () := by
  obtain ⟨before, hbefore, -⟩ := claim_base h hlow hhigh
  obtain ⟨-, hdecoded, hlt, -⟩ := overflow_word
  have hi := (List.getElem?_eq_some_iff.mp hbefore).1
  have hspan : 32 ≤ ((chunksExact raw).set (16 + (index - 41)) 0x0ffdddde).length := by
    rw [List.length_set, h.words_length]
    decide
  simp only [claimProjection, bind_ok, exists_unit, ensure_ok, context_ok,
    Option.ite_none_right_eq_some, Option.some.injEq, montgomeryDecode_ok]
  refine ⟨_, List.getElem?_set_self hi, _, ⟨hspan, rfl⟩, set_reduced h.accepted.reduced hlt, _,
    ⟨hlt, rfl⟩, hdecoded, ?_⟩
  intro entry hentry
  rw [List.mem_zipIdx_iff_getElem?] at hentry
  have hk : entry.2 < 16 := by
    have hlen := (List.getElem?_eq_some_iff.mp hentry).1
    rw [List.length_take] at hlen
    omega
  rw [claimSpan hk] at hentry
  by_cases heq : 16 + entry.2 = 16 + (index - 41)
  · exact .inl heq
  · rw [List.getElem?_set_ne (Ne.symm heq)] at hentry
    obtain ⟨word, hword, hhalf⟩ := h.accepted.claim entry.2 hk
    rw [Option.some.inj (hentry.symm.trans hword)]
    exact .inr (decodesToHalfword_eq (h.accepted.reduced word (List.mem_of_getElem? hword)) hhalf)

lemma claim_isolated (h : Based m.outerPo2 raw sources) (hlow : 41 ≤ index) (hhigh : index ≤ 56)
    (hbefore : (chunksExact raw)[16 + (index - 41)]? = some before) (hne : before ≠ 0x0ffdddde) :
    IsolatedRejection m index sources (wordEdit before 0x0ffdddde (16 + (index - 41))) := by
  have hi := (List.getElem?_eq_some_iff.mp hbefore).1
  obtain ⟨-, hdecoded, hlt, -⟩ := overflow_word
  apply isolated h hbefore hne
  · rw [rowWord, if_neg (by omega), if_pos hhigh]
    exact fun fixed hfixed => Option.some.inj hfixed
  · intro mutated hdecode
    rw [validateSealRejectionProjection, hdecode, report, ok_bind]
    rw [if_neg (by omega), if_pos ⟨hlow, hhigh⟩, h.modulus]
    exact claim_projection h hlow hhigh
  · intro mutated v g hlaid hv
    have hself : v.toList[16 + (index - 41)]? = some 0x0ffdddde := by
      rw [hv]
      exact List.getElem?_set_self hi
    have hother : ∀ j, j ≠ 16 + (index - 41) → v.toList[j]? = (chunksExact raw)[j]? := by
      intro j hj
      rw [hv, List.getElem?_set_ne (Ne.symm hj)]
    have hk : index - 41 < 16 := by omega
    rw [plannedRejection, if_neg (by omega), if_pos hhigh, ← hdecoded]
    apply preflight_shape hlaid (hv ▸ set_reduced h.accepted.reduced hlt)
    · rw [hother 32 (by omega)]
      exact h.accepted.outer
    · apply @shape_claim mutated v g _ hlaid _ ⟨index - 41, hk⟩ hself (by decide)
      · intro j hj
        have hval : j.val ≠ index - 41 := fun heq => hj (Fin.ext heq)
        rw [hother _ (by omega)]
        exact h.accepted.claim j j.2
      · intro k hk
        rw [hother _ (by omega)]
        exact h.accepted.padding k hk

end Claim

section Field

/-- A word whose bytes in the opposite order are other bytes, of no reduced word. -/
def ByteReversed (word : UInt32) : Prop :=
  (le32 word).reverse ≠ le32 word ∧ reversedBytes word ≥ babyBear

instance (word : UInt32) : Decidable (ByteReversed word) := inferInstanceAs (Decidable (_ ∧ _))

lemma role_words (role : SealSemanticRole) : frozenProjection.words role ≠ [] ∧
    ∀ word ∈ frozenProjection.words role, word < proofWords := by
  have hcensus : ∀ k : Fin 7, (SealSemanticRole.all.zip frozenWords.toList)[k.val]? =
      some (SealSemanticRole.all.get k, frozenWords.get k) := by
    intro k
    rw [List.getElem?_zip_eq_some]
    exact ⟨vector_getElem? ⟨SealSemanticRole.all, rfl⟩ k, vector_getElem? frozenWords k⟩
  have hmem := List.mem_of_getElem? (hcensus role.ordinal)
  obtain ⟨hne, hbound, -⟩ := census_ok _ hmem
  exact ⟨hne, hbound⟩

lemma field_isolated (h : Based m.outerPo2 raw sources) (hlow : 57 ≤ index) (hhigh : index ≤ 70)
    (hbefore : (chunksExact raw)[i]? = some before) (hlarge : ¬after < babyBear)
    (hedit : sealEdit index sources = .ok (wordEdit before after i)) :
    IsolatedRejection m index sources (wordEdit before after i) := by
  have hi := (List.getElem?_eq_some_iff.mp hbefore).1
  have hne : before ≠ after := by
    rintro rfl
    exact hlarge (h.accepted.reduced before (List.mem_of_getElem? hbefore))
  apply isolated h hbefore hne
  · rw [rowWord, if_neg (by omega), if_neg (by omega), if_pos hhigh]
    exact fun fixed hfixed => absurd hfixed (by simp)
  · intro mutated hdecode
    rw [validateSealRejectionProjection, hdecode, report, ok_bind]
    rw [if_neg (by omega), if_neg (by omega), if_pos ⟨hlow, hhigh⟩]
    simp only [fieldProjection, bind_ok, context_ok, ensure_ok, hedit, Except.ok.injEq,
      exists_eq_left', replacementParts_wordEdit, h.modulus]
    have hindex : i * 4 / wordBytes = i := Nat.mul_div_cancel i (by decide)
    rw [hindex]
    exact ⟨after, List.getElem?_set_self hi, UInt32.not_lt.mp hlarge,
      set_reducedExcept h.accepted.reduced⟩
  · intro mutated v g hlaid hv
    rw [plannedRejection, if_neg (by omega), if_neg (by omega), if_pos hhigh]
    apply preflight_not_reduced hlaid _ hlarge
    · intro j other hj hother
      rw [hv, List.getElem?_set_ne (Ne.symm hj)] at hother
      exact h.accepted.reduced other (List.mem_of_getElem? hother)
    · rw [hv]
      exact List.getElem?_set_self hi

lemma modulus_edit (h : Based manifestPo2 raw sources) (hlow : 57 ≤ index) (hhigh : index ≤ 63) :
    ∃ i before, (chunksExact raw)[i]? = some before ∧
      sealEdit index sources = .ok (wordEdit before babyBear i) := by
  obtain ⟨role, hrole⟩ : ∃ role, SealSemanticRole.all[index - 57]? = some role :=
    ⟨_, List.getElem?_eq_getElem (show index - 57 < 7 by omega)⟩
  obtain ⟨hnonempty, hbound⟩ := role_words role
  obtain ⟨i, hhead⟩ : ∃ i, (frozenProjection.words role).head? = some i :=
    ⟨_, List.head?_eq_some_head hnonempty⟩
  have hi : i < (chunksExact raw).length := by
    rw [h.words_length]
    exact hbound i (List.mem_of_mem_head? hhead)
  have hbefore : (chunksExact raw)[i]? = some (chunksExact raw)[i] := List.getElem?_eq_getElem hi
  have hne : (chunksExact raw)[i] ≠ babyBear := by
    intro heq
    have hlt := h.accepted.reduced _ (List.getElem_mem hi)
    rw [heq] at hlt
    exact absurd hlt (by decide)
  refine ⟨i, _, hbefore, ?_⟩
  rw [sealEdit, if_neg (by omega), if_neg (by omega), if_pos ⟨hlow, hhigh⟩]
  simp only [modulusEdit, sealRole, fixedSemanticRepresentative, bind_ok, context_ok,
    h.semanticProjection]
  exact ⟨role, hrole, i, hhead, replaceWord_ok h hbefore hne⟩

/-- No word of the row's role has a distinct reversal that is not reduced. -/
def NoByteOrderCandidate (index : ℕ) (sources : RawSources) : Prop :=
  ∀ role, SealSemanticRole.all[index - 64]? = some role →
    ∀ i ∈ sources.semanticProjection.words role, ∀ word, sources.rawSealWords[i]? = some word →
      ¬ByteReversed word

lemma byteOrderCandidate_cases {words : List UInt32} {indices : List ℕ}
    (hbound : ∀ i ∈ indices, i < words.length) :
    byteOrderCandidate babyBear words indices = .ok none ∧
        (∀ i ∈ indices, ∀ word, words[i]? = some word → ¬ByteReversed word) ∨
      ∃ i ∈ indices, ∃ word, words[i]? = some word ∧ ByteReversed word ∧
        byteOrderCandidate babyBear words indices =
          .ok (some ⟨i, word, reversedBytes word, le32 word, (le32 word).reverse⟩) := by
  induction indices with
  | nil => exact .inl ⟨rfl, fun i hi => absurd hi List.not_mem_nil⟩
  | cons i indices ih =>
    obtain ⟨hi, hindices⟩ := List.forall_mem_cons.mp hbound
    have hword : words[i]? = some words[i] := List.getElem?_eq_getElem hi
    have hitem : (item words i : Result UInt32) = .ok words[i] := item_ok.mpr hword
    by_cases hreversed : ByteReversed words[i]
    · refine .inr ⟨i, List.mem_cons_self, _, hword, hreversed, ?_⟩
      rw [byteOrderCandidate, hitem, ok_bind]
      exact if_pos hreversed
    · have hskip : byteOrderCandidate babyBear words (i :: indices) =
          byteOrderCandidate babyBear words indices := by
        rw [byteOrderCandidate, hitem, ok_bind]
        exact if_neg hreversed
      rw [hskip]
      obtain ⟨hnone, hall⟩ | ⟨j, hj, hsome⟩ := ih hindices
      · refine .inl ⟨hnone, List.forall_mem_cons.mpr ⟨?_, hall⟩⟩
        intro word hget
        rwa [← Option.some.inj (hword.symm.trans hget)]
      · exact .inr ⟨j, List.mem_cons_of_mem i hj, hsome⟩

lemma firstByteOrderCandidate_eq (h : Based manifestPo2 raw sources) (role : SealSemanticRole) :
    firstByteOrderCandidate raw frozenProjection role =
      byteOrderCandidate babyBear (chunksExact raw) (frozenProjection.words role) >>=
        context (.reported
          s!"raw-seal role {role.debug} has no byte-order rejection candidate") := by
  have hdecode : report (decodeSealWords raw) = .ok (chunksExact raw) :=
    report_ok.mpr (decodeSealWords_ok.mpr ⟨h.length, rfl⟩)
  have hreduced : (chunksExact raw).zipIdx.forM (fun entry =>
      ensure (¬entry.1 ≥ frozenProjection.modulus) (Fault.reported
        s!"raw-seal base contains a non-reduced word at index {entry.2}: {entry.1}")) = .ok () := by
    rw [forM_ok]
    intro entry hentry
    have hlt := h.accepted.reduced _ (List.fst_mem_of_mem_zipIdx hentry)
    exact ensure_pass (UInt32.not_le.mpr hlt)
  rw [firstByteOrderCandidate, hdecode, ok_bind]
  change (List.forM _ _ >>= _) = _
  rw [hreduced, ok_bind]
  rfl

lemma byteOrder_edit (h : Based manifestPo2 raw sources) (hlow : 64 ≤ index) (hhigh : index ≤ 70) :
    NoByteOrderCandidate index sources ∧ (∃ e, sealEdit index sources = .error e) ∨
      ¬NoByteOrderCandidate index sources ∧
        ∃ i before after, (chunksExact raw)[i]? = some before ∧ ¬after < babyBear ∧
          sealEdit index sources = .ok (wordEdit before after i) := by
  obtain ⟨role, hrole⟩ : ∃ role, SealSemanticRole.all[index - 64]? = some role :=
    ⟨_, List.getElem?_eq_getElem (show index - 64 < 7 by omega)⟩
  have hsealRole : sealRole (index - 64) = .ok role := context_ok.mpr hrole
  have hbound : ∀ i ∈ frozenProjection.words role, i < (chunksExact raw).length := by
    rw [h.words_length]
    exact (role_words role).2
  rw [sealEdit, if_neg (by omega), if_neg (by omega), if_neg (by omega), if_pos ⟨hlow, hhigh⟩]
  obtain ⟨hnone, hall⟩ | ⟨i, hi, word, hword, hreversed, hsome⟩ := byteOrderCandidate_cases hbound
  · refine .inl ⟨?_, ?_⟩
    · intro role' hrole'
      obtain rfl := Option.some.inj (hrole.symm.trans hrole')
      rwa [h.semanticProjection, h.rawSealWords]
    · rw [byteOrderEdit, hsealRole, ok_bind, h.rawSeal, h.semanticProjection,
        firstByteOrderCandidate_eq h, hnone, ok_bind]
      exact ⟨_, rfl⟩
  · refine .inr ⟨?_, i, word, reversedBytes word, hword, UInt32.not_lt.mpr hreversed.2, ?_⟩
    · intro hall
      rw [NoByteOrderCandidate, h.semanticProjection, h.rawSealWords] at hall
      exact hall role hrole i hi word hword hreversed
    · have hlt : i < 55667 := (role_words role).2 i hi
      have hoffset : Statement.checkedMul i wordBytes = some (i * wordBytes) := by
        have hsmall : i * wordBytes < 2 ^ 64 := by
          change i * 4 < _
          omega
        rw [Statement.checkedMul, if_pos hsmall]
      have hbytes : le32 (reversedBytes word) = (le32 word).reverse :=
        le32_ofLe32 (by rw [List.length_reverse, le32_length])
      simp only [byteOrderEdit, hsealRole, bind_ok, exists_unit, ensure_ok, context_ok, mapError_ok,
        Except.ok.injEq, exists_eq_left', h.rawSeal, h.rawSealWords, h.semanticProjection,
        firstByteOrderCandidate_eq h, hsome, Option.some.injEq, pure_ok, wordEdit, hbytes]
      exact ⟨_, hoffset, ⟨hword, hreversed.2⟩, rfl⟩

end Field

section OuterPo2

lemma literal_facts (v : UInt8) : (ofU32 v.toUInt32 = 0x2fffffda ↔ v = 18) ∧
    v.toUInt32 < babyBear ∧ v.toUInt32.toNat + 1 < 2 ^ 32 ∧ v.toUInt32 + 1 < babyBear ∧
      v.toUInt32 ≠ v.toUInt32 + 1 := by
  revert v
  apply Hex.forall_byte
  decide +kernel

lemma outerPo2_isolated (h : Based m.outerPo2 raw sources) (hlow : 70 < index)
    (hne : m.outerPo2.toUInt32 ≠ after) (hafter : after < babyBear)
    (hvalid : ∀ mutated, decodeSealWords mutated = .ok ((chunksExact raw).set 32 after) →
      validateSealRejectionProjection index sources mutated = .ok ()) :
    IsolatedRejection m index sources (wordEdit m.outerPo2.toUInt32 after 32) := by
  have hi := (List.getElem?_eq_some_iff.mp h.accepted.outer).1
  apply isolated h h.accepted.outer hne
  · rw [rowWord, if_neg (by omega), if_neg (by omega), if_neg (by omega)]
    exact fun fixed hfixed => Option.some.inj hfixed
  · exact hvalid
  · intro mutated v g hlaid hv
    rw [plannedRejection, if_neg (by omega), if_neg (by omega), if_neg (by omega)]
    apply preflight_outerPo2 hlaid (hv ▸ set_reduced h.accepted.reduced hafter) _ (Ne.symm hne)
    rw [hv]
    exact List.getElem?_set_self hi

lemma montgomeryPo2_edit (h : Based manifestPo2 raw sources) :
    manifestPo2 = 18 ∧ sealEdit 71 sources = .ok (wordEdit manifestPo2.toUInt32 0x2fffffda 32) ∨
      manifestPo2 ≠ 18 ∧ ∃ e, sealEdit 71 sources = .error e := by
  have houter := h.accepted.outer
  obtain ⟨hencoded, hsmall, -⟩ := literal_facts manifestPo2
  have hedit : sealEdit 71 sources = montgomeryPo2Edit sources := rfl
  rw [hedit]
  by_cases h18 : manifestPo2 = 18
  · refine .inl ⟨h18, ?_⟩
    have hword := hencoded.mpr h18
    have hne : manifestPo2.toUInt32 ≠ 0x2fffffda := by
      rw [h18]
      decide
    simp only [montgomeryPo2Edit, bind_ok, exists_unit, ensure_ok, h.rawSealWords, h.modulus,
      h.outerPo2, montgomeryEncode_ok]
    refine ⟨houter, _, ⟨hsmall, rfl⟩, ⟨hword, ?_⟩, ?_⟩
    · rw [hword]
      decide
    · rw [hword]
      exact replaceWord_ok h houter hne
  · refine .inr ⟨h18, ?_⟩
    have hdrift : ¬(ofU32 manifestPo2.toUInt32 = 0x2fffffda ∧
        ofU32 manifestPo2.toUInt32 < babyBear) := fun hword => h18 (hencoded.mp hword.1)
    have hencode := montgomeryEncode_ok.mpr ⟨hsmall, rfl⟩
    rw [montgomeryPo2Edit, h.outerPo2, h.rawSealWords, h.modulus]
    rw [ensure_pass houter, ok_bind, hencode, ok_bind, ensure, if_neg hdrift]
    exact ⟨_, rfl⟩

lemma alternatePo2_edit (h : Based manifestPo2 raw sources) : sealEdit 109 sources =
    .ok (wordEdit manifestPo2.toUInt32 (manifestPo2.toUInt32 + 1) 32) := by
  have houter := h.accepted.outer
  obtain ⟨-, -, hnext, hreduced, hne⟩ := literal_facts manifestPo2
  change alternatePo2Edit sources = _
  simp only [alternatePo2Edit, bind_ok, exists_unit, ensure_ok, context_ok,
    Option.ite_none_right_eq_some, Option.some.injEq, h.rawSealWords, h.modulus, h.outerPo2]
  exact ⟨houter, _, ⟨hnext, rfl⟩, hreduced, replaceWord_ok h houter hne⟩

lemma montgomeryPo2_isolated (h : Based m.outerPo2 raw sources) (h18 : m.outerPo2 = 18) :
    IsolatedRejection m 71 sources (wordEdit m.outerPo2.toUInt32 0x2fffffda 32) := by
  have hi := (List.getElem?_eq_some_iff.mp h.accepted.outer).1
  obtain ⟨hencoded, hsmall, -⟩ := literal_facts m.outerPo2
  have hword := hencoded.mpr h18
  have hne : m.outerPo2.toUInt32 ≠ 0x2fffffda := by
    rw [h18]
    decide
  apply outerPo2_isolated h (by decide) hne (by decide)
  intro mutated hdecode
  rw [validateSealRejectionProjection, hdecode, report, ok_bind]
  change montgomeryPo2Projection sources _ = _
  simp only [montgomeryPo2Projection, bind_ok, exists_unit, ensure_ok, context_ok, h.modulus,
    h.outerPo2, montgomeryEncode_ok]
  exact ⟨_, List.getElem?_set_self hi, set_reduced h.accepted.reduced (by decide), _,
    ⟨hsmall, rfl⟩, hword.symm, Ne.symm hne⟩

lemma alternatePo2_isolated (h : Based m.outerPo2 raw sources) : IsolatedRejection m 109 sources
    (wordEdit m.outerPo2.toUInt32 (m.outerPo2.toUInt32 + 1) 32) := by
  have hi := (List.getElem?_eq_some_iff.mp h.accepted.outer).1
  obtain ⟨-, -, -, hreduced, hne⟩ := literal_facts m.outerPo2
  apply outerPo2_isolated h (by decide) hne hreduced
  intro mutated hdecode
  rw [validateSealRejectionProjection, hdecode, report, ok_bind]
  change alternatePo2Projection sources _ = _
  simp only [alternatePo2Projection, bind_ok, ensure_ok, context_ok, h.modulus, h.outerPo2]
  exact ⟨_, List.getElem?_set_self hi, set_reduced h.accepted.reduced hreduced, rfl⟩

end OuterPo2

/-- A row that has no edit, for want of a word to reverse or because its literal is another. -/
def NoEdit (index : ℕ) (sources : RawSources) (manifestPo2 : UInt8) : Prop :=
  (64 ≤ index ∧ index ≤ 70) ∧ NoByteOrderCandidate index sources ∨ index = 71 ∧ manifestPo2 ≠ 18

lemma row_cases (h : Based m.outerPo2 raw sources) (hindex : index ∈ sealRows) :
    NoEdit index sources m.outerPo2 ∧ (∃ e, sealEdit index sources = .error e) ∨
      ¬NoEdit index sources m.outerPo2 ∧
        ∃ edit, sealEdit index sources = .ok edit ∧ IsolatedRejection m index sources edit := by
  have hrange : 33 ≤ index ∧ index ≤ 71 ∨ index = 109 := by
    simp only [sealRows, List.mem_append, List.mem_range'_1, List.mem_singleton] at hindex
    omega
  have hother : ¬(64 ≤ index ∧ index ≤ 70) → index ≠ 71 → ¬NoEdit index sources m.outerPo2 := by
    rintro hrow h71 (⟨hrow', -⟩ | ⟨h71', -⟩)
    · exact hrow hrow'
    · exact h71 h71'
  obtain hpadding | hclaim | hmodulus | hbyteOrder | rfl | rfl : (33 ≤ index ∧ index ≤ 40) ∨
      (41 ≤ index ∧ index ≤ 56) ∨ (57 ≤ index ∧ index ≤ 63) ∨ (64 ≤ index ∧ index ≤ 70) ∨
        index = 71 ∨ index = 109 := by omega
  · exact .inr ⟨hother (by omega) (by omega), _, padding_edit h hpadding.1 hpadding.2,
      padding_isolated h hpadding.1 hpadding.2⟩
  · obtain ⟨before, hbefore, hne, hedit⟩ := claim_edit h hclaim.1 hclaim.2
    exact .inr ⟨hother (by omega) (by omega), _, hedit,
      claim_isolated h hclaim.1 hclaim.2 hbefore hne⟩
  · obtain ⟨i, before, hbefore, hedit⟩ := modulus_edit h hmodulus.1 hmodulus.2
    exact .inr ⟨hother (by omega) (by omega), _, hedit,
      field_isolated h hmodulus.1 (by omega) hbefore (by decide) hedit⟩
  · obtain ⟨hnone, herror⟩ | ⟨hsome, i, before, after, hbefore, hlarge, hedit⟩ :=
      byteOrder_edit h hbyteOrder.1 hbyteOrder.2
    · exact .inl ⟨.inl ⟨hbyteOrder, hnone⟩, herror⟩
    · refine .inr ⟨?_, _, hedit, field_isolated h (by omega) hbyteOrder.2 hbefore hlarge hedit⟩
      rintro (⟨-, hnone⟩ | ⟨h71, -⟩)
      · exact hsome hnone
      · omega
  · obtain ⟨h18, hedit⟩ | ⟨h18, herror⟩ := montgomeryPo2_edit h
    · refine .inr ⟨?_, _, hedit, montgomeryPo2_isolated h h18⟩
      rintro (⟨hrow, -⟩ | ⟨-, hother⟩)
      · omega
      · exact hother h18
    · exact .inl ⟨.inr ⟨rfl, h18⟩, herror⟩
  · exact .inr ⟨hother (by omega) (by decide), _, alternatePo2_edit h, alternatePo2_isolated h⟩

end Rows

section Claims

/-- The producer's Montgomery decoding and its checks on the base seal are the consumer's, and every
row of an accepted seal is rejected at its one edited word with the planned error, but for the rows
without an edit. -/
theorem raw_seal_rows (sha256 : Bytes → Digest)
    (validateCanonicalJsonSource : Bytes → Except String Unit) :
    (∀ raw value, montgomeryDecode raw babyBear = .ok value ↔
      raw < babyBear ∧ value = asU32 raw) ∧
    (∀ (m : Manifest.StarkProfileManifestV1) (raw : Bytes) (caseIndex : ℕ)
      (caseId manifest profileConstants statementBytes : Bytes) (statement : Statement.ErgoStatementV1)
      (profileId programId : Digest),
      ((∃ sources, fromAuthenticatedParts sha256 validateCanonicalJsonSource caseIndex caseId manifest
          m.outerPo2 profileConstants raw statementBytes statement profileId programId =
            .ok sources) ↔
        (caseIndex = 0 ∧ caseId = liftCaseId) ∧
          (profileId = statement.profileId ∧ programId = statement.programId) ∧
            (∃ b2, B2Codec.verifyCanonical sha256 profileConstants = .ok b2) ∧
              ∃ env, preflight m raw = .ok env) ∧
      ∀ sources, fromAuthenticatedParts sha256 validateCanonicalJsonSource caseIndex caseId manifest
          m.outerPo2 profileConstants raw statementBytes statement profileId programId =
            .ok sources → Based m.outerPo2 raw sources) ∧
    ∀ (m : Manifest.StarkProfileManifestV1) (raw : Bytes) (sources : RawSources),
      Based m.outerPo2 raw sources → ∀ index ∈ sealRows,
        (∀ edit, sealEdit index sources = .ok edit → IsolatedRejection m index sources edit) ∧
          ((∃ e, sealEdit index sources = .error e) ↔ NoEdit index sources m.outerPo2) := by
  refine ⟨fun raw value => montgomeryDecode_ok, ?_, ?_⟩
  · intro m raw caseIndex caseId manifest profileConstants statementBytes statement profileId programId
    refine ⟨?_, fun sources h => (based_of_parts h).2.2.2⟩
    constructor
    · rintro ⟨sources, h⟩
      obtain ⟨hcase, hids, hb2, hbased⟩ := based_of_parts h
      exact ⟨hcase, hids, hb2, preflight_iff.mpr ⟨hbased.length, hbased.accepted⟩⟩
    · rintro ⟨hcase, hids, hb2, henv⟩
      obtain ⟨hlen, haccepted⟩ := preflight_iff.mp henv
      exact parts_of_accepted hcase hids hb2 hlen haccepted
  · intro m raw sources h index hindex
    obtain ⟨hnone, e, herror⟩ | ⟨hsome, edit, hedit, hisolated⟩ := row_cases h hindex
    · refine ⟨?_, fun _ => hnone, fun _ => ⟨e, herror⟩⟩
      intro edit hedit
      exact absurd (herror.symm.trans hedit) (by simp)
    · refine ⟨?_, ?_, fun hnone => absurd hnone hsome⟩
      · intro edit' hedit'
        obtain rfl := Except.ok.inj (hedit.symm.trans hedit')
        exact hisolated
      · rintro ⟨e, herror⟩
        exact absurd (hedit.symm.trans herror) (by simp)

/-- A manifest of the V1 grammar whose outer exponent is not that of the frozen profile. -/
def otherExponent : Manifest.Fields where
  exactProofBytes := 222668
  maxApplicationPayloadBytes := 16384
  outerPo2 := 17
  innerControlRoot := ByteArr.zero 32
  terminalControls := List.Vector.ofFn fun i =>
    ⟨terminalControlKindLift, UInt8.ofNat i.val,
      ⟨List.replicate 31 0 ++ [UInt8.ofNat i.val], rfl⟩⟩
  algorithmArtifact := ⟨algorithmArtifactKind, 1, ByteArr.zero 32⟩
  binaryDataArtifact := ⟨binaryDataArtifactKind, 1, ByteArr.zero 32⟩

lemma otherExponent_new : ∃ m, Manifest.new otherExponent = .ok m ∧ m.outerPo2 = 17 := by
  have hgrammar : Manifest.validateV1Grammar otherExponent = .ok () := by decide
  exact ⟨⟨otherExponent, _, Manifest.fieldBytes_length otherExponent⟩,
    Manifest.new_ok.mpr ⟨Manifest.validateV1Grammar_ok.mp hgrammar, rfl, rfl⟩, rfl⟩

/-- With that manifest the row of the Montgomery encoding has no edit, though it reverses no bytes. -/
theorem raw_seal_rows_other_exponent :
    ¬∀ (fields : Manifest.Fields) (m : Manifest.StarkProfileManifestV1) (raw : Bytes)
      (env : PreflightStarkEnvelope) (sources : RawSources), Manifest.new fields = .ok m →
        preflight m raw = .ok env → Based m.outerPo2 raw sources → ∀ index ∈ sealRows,
          (∃ e, sealEdit index sources = .error e) →
            (64 ≤ index ∧ index ≤ 70) ∧ NoByteOrderCandidate index sources := by
  intro h
  obtain ⟨m, hnew, h17⟩ := otherExponent_new
  have hpre := sealFor_preflighted m (ByteArr.zero 32) (ByteArr.zero 32)
  have hbased : Based m.outerPo2 ((sealWordsFor m (ByteArr.zero 32) (ByteArr.zero 32)).flatMap le32)
      ⟨m.rawBytes.val, (sealWordsFor m (ByteArr.zero 32) (ByteArr.zero 32)).flatMap le32,
        chunksExact ((sealWordsFor m (ByteArr.zero 32) (ByteArr.zero 32)).flatMap le32), [], [], [],
        ⟨ByteArr.zero 32, ByteArr.zero 32, ByteArr.zero 32, ByteArr.zero 32, [], by decide⟩,
        ByteArr.zero 32, ByteArr.zero 32, frozenProjection, m.outerPo2⟩ :=
    ⟨hpre.length, rfl, rfl, rfl, rfl, accepted_of_preflighted hpre⟩
  obtain ⟨h18, -⟩ | ⟨-, herror⟩ := montgomeryPo2_edit hbased
  · rw [h17] at h18
    exact absurd h18 (by decide)
  · have hrow := h otherExponent m _ _ _ hnew (preflight_ok.mpr hpre) hbased 71 (by decide) herror
    omega

end Claims

end Producer

end Eip0045.RawSeal
