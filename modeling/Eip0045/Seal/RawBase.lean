import Eip0045.Opcode.Agreement
import Eip0045.Profile.ConstantsArtifactCodec
import Eip0045.Seal.RawEdits

/-! The semantic projection is the same for every authenticated artifact, and the producer's checks
on its base seal are those of the consumer. -/

namespace Eip0045.RawSeal

open Bytes Checked Constants B2Codec

section Census

def openings : List (SealWordSpan × ℕ) := queryWordSpans.zip [12, 23, 128, 16, 64, 64, 64]

def leafWords (queryStart : ℕ) (opening : SealWordSpan × ℕ) : List ℕ :=
  List.range' (queryStart + opening.1.start) opening.2

def siblingWords (queryStart : ℕ) (opening : SealWordSpan × ℕ) : List ℕ :=
  List.range' (queryStart + opening.1.start + opening.2) (opening.1.len - opening.2)

def queryStart (query : ℕ) : ℕ := 4717 + query * queryRecordWords

/-- The words that a choice of words of each opening makes over all queries. -/
def overQueries (choice : ℕ → SealWordSpan × ℕ → List ℕ) : List ℕ :=
  (List.range queryCount).flatMap fun query => openings.flatMap (choice (queryStart query))

def merkleTopSpans : List SealWordSpan := [⟨"codeTop", 33, 289⟩, ⟨"dataTop", 289, 545⟩,
  ⟨"accumTop", 545, 801⟩, ⟨"checkTop", 801, 1057⟩, ⟨"friRound1Top", 3693, 3949⟩,
  ⟨"friRound2Top", 3949, 4205⟩, ⟨"friRound3Top", 4205, 4461⟩]

def coefficientSpan : SealWordSpan := ⟨"coeffU", 1057, 3693⟩
def finalCoefficientSpan : SealWordSpan := ⟨"finalCoefficients", 4461, 4717⟩

def frozenWords : List.Vector (List ℕ) 7 := ⟨[List.range' 0 8 2, List.range' 16 16,
  merkleTopSpans.flatMap (·.words), coefficientSpan.words, finalCoefficientSpan.words,
  overQueries leafWords, overQueries siblingWords], rfl⟩

def babyBear : UInt32 := 2013265921

def frozenProjection : SealSemanticProjection :=
  ⟨babyBear, [12, 23, 128, 16, 64, 64, 64], frozenWords⟩

lemma openingPartition_eq {start : ℕ} {cut : List (SealWordSpan × ℕ)}
    (h : ∀ opening ∈ cut, opening.1.start + opening.2 ≤ opening.1.stop ∧
      start + opening.1.stop < 2 ^ 64) : openingPartition start cut =
        .ok (cut.flatMap (leafWords start), cut.flatMap (siblingWords start)) := by
  induction cut with
  | nil => rfl
  | cons opening cut ih =>
    obtain ⟨span, width⟩ := opening
    obtain ⟨hfit, hcut⟩ := List.forall_mem_cons.mp h
    have hwidth : span.start + width ≤ span.stop := hfit.1
    have hstop : start + span.stop < 2 ^ 64 := hfit.2
    simp only [openingPartition, ih hcut, bind_ok, exists_unit, ensure_ok, context_ok,
      checkedAdd_eq_some, Prod.exists, pure_ok, Except.ok.injEq]
    refine ⟨?_, _, ⟨?_, rfl⟩, _, ⟨?_, rfl⟩, _, ⟨hstop, rfl⟩, _, _, rfl, ?_⟩
    · rw [SealWordSpan.len]
      omega
    · omega
    · omega
    · have hlen : start + span.stop - (start + span.start + width) = span.stop - span.start - width := by
        omega
      rw [hlen, Nat.add_sub_cancel_left]
      rfl

lemma queryPartition_eq {queries : List ℕ} (h : ∀ query ∈ queries, query < queryCount) :
    queryPartition 4717 openings queries =
      .ok (queries.flatMap fun query => openings.flatMap (leafWords (queryStart query)),
        queries.flatMap fun query => openings.flatMap (siblingWords (queryStart query))) := by
  induction queries with
  | nil => rfl
  | cons query queries ih =>
    obtain ⟨hquery, hqueries⟩ := List.forall_mem_cons.mp h
    have hfit : ∀ opening ∈ openings, opening.1.start + opening.2 ≤ opening.1.stop ∧
        opening.1.stop ≤ 1019 := by decide
    have hstart : queryStart query = 4717 + query * 1019 := rfl
    have hlt : query < 50 := hquery
    have hopening := @openingPartition_eq (queryStart query) openings (by
      intro opening hmem
      obtain ⟨hwidth, hstop⟩ := hfit opening hmem
      exact ⟨hwidth, by omega⟩)
    have hmul : Statement.checkedMul query queryRecordWords = some (query * 1019) := by
      rw [Statement.checkedMul, if_pos (show query * queryRecordWords < 2 ^ 64 by
        change query * 1019 < _
        omega)]
      rfl
    have hadd : checkedAdd 4717 (query * 1019) = some (queryStart query) :=
      checkedAdd_eq_some.mpr ⟨by omega, rfl⟩
    rw [queryPartition, hmul, Option.bind_some, hadd]
    simp only [context, ok_bind, hopening, ih hqueries]
    rfl

lemma mem_words {start len word : ℕ} (h : word ∈ List.range' start len) :
    start ≤ word ∧ word < start + len := by
  rw [List.mem_range'_1] at h
  exact h

/-- The chosen words of an opening lie within it, and in order. -/
structure Chosen (choice : ℕ → SealWordSpan × ℕ → List ℕ) : Prop where
  inside : ∀ start, ∀ opening ∈ openings, ∀ word ∈ choice start opening,
    start + opening.1.start ≤ word ∧ word < start + opening.1.stop
  sorted : ∀ start, ∀ opening ∈ openings, (choice start opening).Pairwise (· < ·)

lemma openings_fit : ∀ opening ∈ openings,
    opening.1.start + opening.2 ≤ opening.1.stop ∧ opening.1.stop ≤ queryRecordWords := by
  decide

lemma openings_ordered : openings.Pairwise fun u v => u.1.stop ≤ v.1.start := by decide

lemma leafWords_chosen : Chosen leafWords := by
  refine ⟨?_, fun start opening _ => List.pairwise_lt_range'⟩
  intro start opening hopening word hword
  have hfit := (openings_fit opening hopening).1
  have hmem := mem_words hword
  omega

lemma siblingWords_chosen : Chosen siblingWords := by
  refine ⟨?_, fun start opening _ => List.pairwise_lt_range'⟩
  intro start opening hopening word hword
  have hfit := (openings_fit opening hopening).1
  have hmem := mem_words hword
  rw [SealWordSpan.len] at hmem
  omega

variable {choice : ℕ → SealWordSpan × ℕ → List ℕ}

lemma Chosen.query (h : Chosen choice) {start word : ℕ}
    (hword : word ∈ openings.flatMap (choice start)) :
    start ≤ word ∧ word < start + queryRecordWords := by
  obtain ⟨opening, hopening, hword⟩ := List.mem_flatMap.mp hword
  have hstop := (openings_fit opening hopening).2
  have hinside := h.inside start opening hopening word hword
  omega

lemma Chosen.bound (h : Chosen choice) {word : ℕ} (hword : word ∈ overQueries choice) :
    word < proofWords := by
  obtain ⟨query, hquery, hword⟩ := List.mem_flatMap.mp hword
  have hlt : query < 50 := List.mem_range.mp hquery
  have hstart : queryStart query = 4717 + query * 1019 := rfl
  have hword : word < queryStart query + 1019 := (h.query hword).2
  change word < 55667
  omega

lemma Chosen.pairwise (h : Chosen choice) : (overQueries choice).Pairwise (· < ·) := by
  rw [overQueries, List.pairwise_flatMap]
  refine ⟨?_, ?_⟩
  · intro query _
    rw [List.pairwise_flatMap]
    refine ⟨h.sorted _, openings_ordered.imp_of_mem ?_⟩
    intro u v hu hv hle x hx y hy
    have hx := h.inside _ u hu x hx
    have hy := h.inside _ v hv y hy
    omega
  · refine List.pairwise_lt_range.imp ?_
    intro a b hlt x hx y hy
    have hx : x < queryStart a + 1019 := (h.query hx).2
    have hy := (h.query hy).1
    have ha : queryStart a = 4717 + a * 1019 := rfl
    have hb : queryStart b = 4717 + b * 1019 := rfl
    omega

lemma overQueries_length {n : ℕ} (h : ∀ start, (openings.flatMap (choice start)).length = n) :
    (overQueries choice).length = queryCount * n := by
  rw [overQueries, List.length_flatMap]
  simp only [h, List.map_const', List.length_range, List.sum_replicate, smul_eq_mul]

lemma leafWords_length : (overQueries leafWords).length = 18550 := by
  rw [overQueries_length (n := 371)]
  · rfl
  · intro start
    simp [openings, queryWordSpans, leafWords]

lemma siblingWords_length : (overQueries siblingWords).length = 32400 := by
  rw [overQueries_length (n := 648)]
  · rfl
  · intro start
    simp [openings, queryWordSpans, siblingWords, SealWordSpan.len]

end Census

section Projection

/-- What the projection reads of an artifact. -/
structure Frozen (b2 : ConstantsArtifact) : Prop where
  modulus : b2.babyBear.modulus = 2013265921
  extensionDegree : b2.babyBear.extensionDegree = 4
  queries : b2.stark.queries = 50
  friFold : b2.stark.friFold = 16
  outputSize : b2.stark.outputSize = 32
  checkSize : b2.stark.checkSize = 16
  groupSizes : b2.taps.groupSizes.toList = [12, 23, 128]

lemma frozen_of_validate {b2 : ConstantsArtifact} (h : validate b2 = .ok ()) : Frozen b2 := by
  simp only [validate, validateBabyBear, validateStark, bind_ok, exists_unit, ensure_ok,
    Prod.mk.injEq] at h
  obtain ⟨-, ⟨hmodulus, ⟨hdegree, -⟩, -⟩, -, ⟨⟨hqueries, -, hfold, -⟩, houtput, -, hcheck⟩, -,
    ⟨hgroups, -⟩, -⟩ := h
  exact ⟨hmodulus, hdegree, hqueries, hfold, houtput, hcheck, hgroups⟩

lemma merkleTops_length : (merkleTopSpans.flatMap (·.words)).length = 1792 := by
  simp only [List.length_flatMap, SealWordSpan.words, List.length_range']
  rfl

lemma census_ok : ∀ entry ∈ SealSemanticRole.all.zip frozenWords.toList,
    entry.2 ≠ [] ∧ (∀ word ∈ entry.2, word < proofWords) ∧ entry.2.IsChain (· < ·) := by
  have hsorted : ∀ {words : List ℕ}, 0 < words.length → (∀ word ∈ words, word < proofWords) →
      words.Pairwise (· < ·) → words ≠ [] ∧ (∀ word ∈ words, word < proofWords) ∧
        words.IsChain (· < ·) := fun hlen hbound hpairwise =>
    ⟨List.ne_nil_of_length_pos hlen, hbound, List.Pairwise.isChain hpairwise⟩
  have hrange : ∀ start len, 0 < len → start + len ≤ proofWords →
      List.range' start len ≠ [] ∧ (∀ word ∈ List.range' start len, word < proofWords) ∧
        (List.range' start len).IsChain (· < ·) := by
    intro start len hlen hle
    apply hsorted (by rwa [List.length_range'])
    · exact fun word hword => (mem_words hword).2.trans_le hle
    · exact List.pairwise_lt_range'
  have htops : ∀ span ∈ merkleTopSpans, span.start + span.len ≤ proofWords := by decide
  have hordered : merkleTopSpans.Pairwise fun u v => u.start + u.len ≤ v.start := by decide
  intro entry hentry
  simp only [frozenWords, SealSemanticRole.all, List.Vector.toList_mk, List.zip_cons_cons,
    List.zip_nil_right, List.mem_cons, List.not_mem_nil, or_false] at hentry
  obtain rfl | rfl | rfl | rfl | rfl | rfl | rfl := hentry
  · decide
  · exact hrange 16 16 (by decide) (by decide)
  · apply hsorted
    · exact merkleTops_length ▸ (by decide : 0 < 1792)
    · intro word hword
      obtain ⟨span, hspan, hword⟩ := List.mem_flatMap.mp hword
      exact (mem_words hword).2.trans_le (htops span hspan)
    · rw [List.pairwise_flatMap]
      refine ⟨fun span _ => List.pairwise_lt_range', hordered.imp ?_⟩
      intro u v hle x hx y hy
      have hx := mem_words hx
      have hy := mem_words hy
      omega
  · exact hrange 1057 2636 (by decide) (by decide)
  · exact hrange 4461 256 (by decide) (by decide)
  · exact hsorted (by rw [leafWords_length]; decide) (fun word hword => leafWords_chosen.bound hword)
      leafWords_chosen.pairwise
  · exact hsorted (by rw [siblingWords_length]; decide)
      (fun word hword => siblingWords_chosen.bound hword) siblingWords_chosen.pairwise

lemma census_length : frozenWords.toList.map List.length =
    [8, 16, 1792, 2636, 256, 18550, 32400] := by
  have hcoefficients : coefficientSpan.words.length = 2636 := List.length_range'
  have hfinal : finalCoefficientSpan.words.length = 256 := List.length_range'
  simp only [frozenWords, List.Vector.toList_mk, List.map_cons, List.map_nil, merkleTops_length,
    leafWords_length, siblingWords_length, hcoefficients, hfinal, List.length_range']

lemma deriveOpeningWordPartition_eq :
    deriveOpeningWordPartition [12, 23, 128, 16, 64, 64, 64] =
      .ok (overQueries leafWords, overQueries siblingWords) := by
  have hregion : (item topLevelWordSpans 11 : Result SealWordSpan) =
      .ok ⟨"queries", 4717, 55667⟩ := rfl
  have hopenings : queryWordSpans.zip [12, 23, 128, 16, 64, 64, 64] = openings := rfl
  rw [deriveOpeningWordPartition, hregion, hopenings, ok_bind, overQueries, overQueries]
  exact queryPartition_eq fun query hquery => List.mem_range.mp hquery

lemma deriveSealSemanticProjectionFromConstants_eq {b2 : ConstantsArtifact}
    (h : validate b2 = .ok ()) :
    deriveSealSemanticProjectionFromConstants b2 = .ok frozenProjection := by
  obtain ⟨hmodulus, hdegree, hqueries, hfold, houtput, hcheck, hgroups⟩ := frozen_of_validate h
  have hgroup : b2.taps.groupSizes = (⟨[12, 23, 128], rfl⟩ : ByteArr 3) := Subtype.ext hgroups
  have hoverall : (item topLevelWordSpans 0 : Result SealWordSpan) = .ok ⟨"output", 0, 32⟩ := rfl
  have htops : (semanticMerkleTopSpanIndices.mapM (item topLevelWordSpans) :
      Result (List SealWordSpan)) = .ok merkleTopSpans := rfl
  have hcoefficients : (item topLevelWordSpans 6 : Result SealWordSpan) = .ok coefficientSpan := rfl
  have hfinal : (item topLevelWordSpans 10 : Result SealWordSpan) = .ok finalCoefficientSpan := rfl
  have hwidth : Statement.checkedMul (UInt8.toNat 16) (UInt8.toNat 4) = some 64 := rfl
  have hwidths : [(List.Vector.get (⟨[12, 23, 128], rfl⟩ : ByteArr 3) 0).toNat,
      (List.Vector.get (⟨[12, 23, 128], rfl⟩ : ByteArr 3) 1).toNat,
      (List.Vector.get (⟨[12, 23, 128], rfl⟩ : ByteArr 3) 2).toNat, UInt8.toNat 16, 64, 64, 64] =
      [12, 23, 128, 16, 64, 64, 64] := rfl
  simp only [deriveSealSemanticProjectionFromConstants, bind_ok, exists_unit, report_ok, ensure_ok,
    context_ok, Prod.exists, forM_ok, pure_ok, hdegree, hqueries, hfold, houtput, hcheck, hgroup,
    hmodulus]
  refine ⟨validateSealLayout_ok, _, hoverall, ⟨rfl, rfl, rfl⟩, rfl, _, hwidth, hwidths, _, htops,
    rfl, _, hcoefficients, _, hfinal, _, _, deriveOpeningWordPartition_eq, census_length, census_ok,
    rfl⟩

end Projection

namespace Producer

open SequenceSubject Statement

section Field

lemma lt_babyBear {word : UInt32} : word < babyBear ↔ word.toNat < babyBearModulus :=
  UInt32.lt_iff_toNat_lt

lemma babyBear_toNat : babyBear.toNat = babyBearModulus := by decide

lemma radix_toNat : UInt32.toNat 268435454 = 2 ^ 32 % babyBearModulus := by decide

lemma tryFromInt_ok {limit n m : ℕ} :
    Opcode.Producer.tryFromInt limit n = .ok m ↔ n < limit ∧ n = m := by
  simp only [Opcode.Producer.tryFromInt, bind_ok, exists_unit, ensure_ok, pure_ok]

lemma montgomeryRadix_eq : montgomeryRadix babyBear = .ok 268435454 := by
  simp only [montgomeryRadix, bind_ok, exists_unit, ensure_ok, tryFromInt_ok, pure_ok]
  exact ⟨by decide, 268435454, by decide, rfl⟩

lemma modularPow_radix : modularPow (UInt32.toNat 268435454) (babyBear.toNat - 2) babyBear.toNat =
    montgomeryInverse := by
  decide +kernel

lemma reduced_fits (n : ℕ) : n % babyBearModulus < 2 ^ 32 :=
  (Nat.mod_lt n modulus_pos).trans (by decide)

lemma montgomeryDecode_ok {raw value : UInt32} :
    montgomeryDecode raw babyBear = .ok value ↔ raw < babyBear ∧ value = asU32 raw := by
  have hone : UInt32.toNat 268435454 * montgomeryInverse % babyBearModulus = 1 := by decide
  simp only [montgomeryDecode, bind_ok, exists_unit, ensure_ok, tryFromInt_ok, pure_ok]
  constructor
  · rintro ⟨hlt, radix, hradix, -, _, ⟨-, rfl⟩, rfl⟩
    obtain rfl := Except.ok.inj (montgomeryRadix_eq.symm.trans hradix)
    rw [modularPow_radix, babyBear_toNat]
    exact ⟨hlt, rfl⟩
  · rintro ⟨hlt, rfl⟩
    refine ⟨hlt, _, montgomeryRadix_eq, ?_, _, ⟨?_, rfl⟩, ?_⟩
    · rw [modularPow_radix, babyBear_toNat, hone]
    · rw [babyBear_toNat]
      exact reduced_fits _
    · rw [modularPow_radix, babyBear_toNat]
      rfl

lemma montgomeryEncode_ok {value encoded : UInt32} :
    montgomeryEncode value babyBear = .ok encoded ↔ value < babyBear ∧ encoded = ofU32 value := by
  have hform : value.toNat * UInt32.toNat 268435454 % babyBear.toNat =
      Montgomery.toForm babyBearModulus (2 ^ 32) value.toNat := by
    rw [radix_toNat, babyBear_toNat, Nat.mul_mod_mod, Montgomery.toForm]
  simp only [montgomeryEncode, bind_ok, exists_unit, ensure_ok, tryFromInt_ok, pure_ok]
  constructor
  · rintro ⟨hlt, radix, hradix, _, ⟨-, rfl⟩, rfl⟩
    obtain rfl := Except.ok.inj (montgomeryRadix_eq.symm.trans hradix)
    rw [hform]
    exact ⟨hlt, rfl⟩
  · rintro ⟨hlt, rfl⟩
    refine ⟨hlt, _, montgomeryRadix_eq, _, ⟨?_, rfl⟩, ?_⟩
    · rw [babyBear_toNat]
      exact reduced_fits _
    · rw [hform]
      rfl

end Field

section Subject

variable {sha256 : Bytes → Digest} {validateCanonicalJsonSource : Bytes → Except String Unit}

def chunkElement (sha256 : Bytes → Digest) (chunk : Bytes) (index : ℕ) :
    B4SequenceSubjectElement :=
  ⟨chunkId index, Hex.encode chunk, sha256Hex sha256 chunk⟩

lemma chunkIds_checked : ∀ index < 4, validateElementId (chunkId index) = .ok () ∧
    (chunkId index).length = 8 := by
  decide +kernel

lemma chunkId_valid : ∀ index < 4, validateElementId (chunkId index) = .ok () :=
  fun index hindex => (chunkIds_checked index hindex).1

lemma chunkId_length : ∀ index < 4, (chunkId index).length = 8 :=
  fun index hindex => (chunkIds_checked index hindex).2

lemma sha256Hex_length (bytes : Bytes) : (sha256Hex sha256 bytes).length = 64 := by
  rw [sha256Hex, Hex.encode_length, ByteArr.val_length]

lemma chunkElement_common {chunk : Bytes} {index : ℕ} (hindex : index < 4)
    (hchunk : chunk.length ≤ 65535) : (chunkElement sha256 chunk index).validateCommon = .ok () := by
  have hlen := Hex.encode_length chunk
  simp only [B4SequenceSubjectElement.validateCommon, validateDigest, bind_ok, exists_unit,
    ensure_ok]
  simp only [chunkElement]
  refine ⟨chunkId_valid index hindex, ⟨?_, ?_, Hex.encode_isLower chunk⟩, ?_⟩
  · omega
  · change _ ≤ 1024 * 1024 * 2
    omega
  · simp only [sha256Hex_length, not_true_eq_false, ne_eq, false_or, not_not]
    exact Hex.encode_isLower _

lemma chunkElement_for {chunk : Bytes} {index : ℕ} (hindex : index < 4)
    (hchunk : chunk.length ≤ 65535) : (chunkElement sha256 chunk index).validateFor sha256
      validateCanonicalJsonSource .proofChunks = .ok () := by
  have hcommon := @chunkElement_common sha256 chunk index hindex hchunk
  simp only [B4SequenceSubjectElement.validateFor, B4SequenceSubjectElement.decodedBytes, bind_ok,
    exists_unit, ensure_ok, context_ok, pure_ok]
  exact ⟨chunk, ⟨hcommon, chunk, Hex.decode_encode chunk, rfl, rfl⟩, rfl⟩

lemma fromBytes_ok {chunk : Bytes} {index : ℕ} (hindex : index < 4)
    (hchunk : chunk.length ≤ 65535) :
    B4SequenceSubjectElement.fromBytes sha256 (chunkId index) chunk =
      .ok (chunkElement sha256 chunk index) := by
  simp only [B4SequenceSubjectElement.fromBytes, bind_ok, exists_unit, pure_ok]
  exact ⟨chunkElement_common hindex hchunk, rfl⟩

lemma elementJson_length (element : B4SequenceSubjectElement) :
    element.toCanonicalJson.length =
      element.bytesHex.length + element.elementId.length + element.sha256.length + 42 := by
  have hbytes : (utf8 "bytesHex").length = 8 := rfl
  have hid : (utf8 "elementId").length = 9 := rfl
  have hsha : (utf8 "sha256").length = 6 := rfl
  simp only [B4SequenceSubjectElement.toCanonicalJson, object, member, quoted, List.intercalate,
    List.intersperse, List.flatten_cons, List.flatten_nil, List.length_append, List.length_singleton,
    List.length_nil, hbytes, hid, hsha]
  omega

lemma proofSubjectFromRawSeal_ok {rawSeal : Bytes} (h : rawSeal.length = proofBytes) :
    ∃ subject, proofSubjectFromRawSeal sha256 validateCanonicalJsonSource rawSeal =
      .ok subject := by
  obtain ⟨chunks, hsplit, -, hlengths⟩ := Opcode.Producer.splitRawSeal_ok h
  obtain ⟨a, b, c, d, rfl, ha, hb, hc, hd⟩ : ∃ a b c d : Bytes, chunks = [a, b, c, d] ∧
      a.length = 65535 ∧ b.length = 65535 ∧ c.length = 65535 ∧ d.length = 26063 := by
    obtain _ | ⟨_, _ | ⟨_, _ | ⟨_, _ | ⟨_, _ | ⟨_, _⟩⟩⟩⟩⟩ := chunks <;>
      simp_all [proofChunkLengths]
  have helements : (([a, b, c, d].zipIdx.mapM fun entry => report
      (B4SequenceSubjectElement.fromBytes sha256 (chunkId entry.2) entry.1)) :
        Result (List B4SequenceSubjectElement)) = .ok [chunkElement sha256 a 0,
          chunkElement sha256 b 1, chunkElement sha256 c 2, chunkElement sha256 d 3] := by
    rw [mapM_forall₂]
    change List.Forall₂ _ [(a, 0), (b, 1), (c, 2), (d, 3)] _
    exact .cons (report_ok.mpr (fromBytes_ok (by omega) ha.le))
      (.cons (report_ok.mpr (fromBytes_ok (by omega) hb.le))
        (.cons (report_ok.mpr (fromBytes_ok (by omega) hc.le))
          (.cons (report_ok.mpr (fromBytes_ok (by omega) (hd.le.trans (by omega)))) .nil)))
  have hhex : ∀ chunk index, (chunkElement sha256 chunk index).bytesHex.length =
      chunk.length * 2 := fun chunk index => Hex.encode_length chunk
  have hvalid : (Eip0045B4SequenceSubjectV1.mk b4SequenceSubjectFormat .proofChunks
      [chunkElement sha256 a 0, chunkElement sha256 b 1, chunkElement sha256 c 2,
        chunkElement sha256 d 3]).validate sha256 validateCanonicalJsonSource = .ok () := by
    simp only [Eip0045B4SequenceSubjectV1.validate, validateElements, bind_ok, exists_unit,
      mapError_ok, ensure_ok, context_ok, checkedAdd_eq_some, hhex, ha, hb, hc, hd]
    refine ⟨trivial, show 4 ≤ maxSequenceElements by decide, chunkElement_for (by omega) (by omega), List.not_mem_nil, _,
      ⟨by omega, rfl⟩, by decide, chunkElement_for (by omega) (by omega), ?_, _, ⟨by omega, rfl⟩,
      by decide, chunkElement_for (by omega) (by omega), ?_, _, ⟨by omega, rfl⟩, by decide,
      chunkElement_for (by omega) (by omega), ?_, _, ⟨by omega, rfl⟩, by decide, rfl⟩
    all_goals
      simp only [chunkElement, List.mem_cons, List.not_mem_nil, or_false]
      decide
  have hjson : (Eip0045B4SequenceSubjectV1.mk b4SequenceSubjectFormat .proofChunks
      [chunkElement sha256 a 0, chunkElement sha256 b 1, chunkElement sha256 c 2,
        chunkElement sha256 d 3]).toCanonicalJson.length ≤ maxSequenceSubjectBytes := by
    have hid : ∀ chunk, ∀ index < 4, (chunkElement sha256 chunk index).elementId.length = 8 :=
      fun chunk index hindex => chunkId_length index hindex
    have hsha : ∀ chunk index, (chunkElement sha256 chunk index).sha256.length = 64 :=
      fun chunk index => sha256Hex_length chunk
    have htexts : (utf8 "elements").length = 8 ∧ (utf8 "format").length = 6 ∧
        (utf8 "target").length = 6 ∧ (utf8 "targetKind").length = 10 ∧
          b4SequenceSubjectFormat.length = 26 ∧
            B4SequenceTarget.proofChunks.kind.length = 12 := ⟨rfl, rfl, rfl, rfl, rfl, rfl⟩
    have hlimit : maxSequenceSubjectBytes = 8388608 := rfl
    simp only [Eip0045B4SequenceSubjectV1.toCanonicalJson, object, member, quoted,
      List.intercalate, List.intersperse, List.map_cons, List.map_nil, List.flatten_cons,
      List.flatten_nil, List.length_append, List.length_singleton, List.length_nil,
      elementJson_length, hhex, hsha, hid _ 0 (by omega), hid _ 1 (by omega), hid _ 2 (by omega),
      hid _ 3 (by omega), htexts, hlimit]
    omega
  simp only [proofSubjectFromRawSeal, Eip0045B4SequenceSubjectV1.new,
    Eip0045B4SequenceSubjectV1.toCanonicalJcs, bind_ok, exists_unit, report_ok, ensure_ok, pure_ok]
  exact ⟨_, _, hsplit, _, helements, _, ⟨hvalid, rfl⟩, hvalid, hjson, rfl⟩

end Subject

section Base

variable {m : Manifest.StarkProfileManifestV1} {raw : Bytes} {words : List UInt32}
  {outerPo2 : UInt8}

/-- The words of a seal that both sides take as the base. -/
structure Accepted (outerPo2 : UInt8) (words : List UInt32) : Prop where
  reduced : ∀ word ∈ words, word < babyBear
  outer : words[32]? = some outerPo2.toUInt32
  padding : ∀ k < 8, words[1 + 2 * k]? = some 0
  claim : ∀ k < 16, ∃ word, words[16 + k]? = some word ∧ (asU32 word).toNat < 2 ^ 16

lemma vector_getElem? {α : Type} {n : ℕ} (v : List.Vector α n) (i : Fin n) :
    v.toList[i.val]? = some (v.get i) := by
  obtain ⟨items, hitems⟩ := v
  have hi : i.val < items.length := by omega
  change items[i.val]? = _
  rw [List.getElem?_eq_getElem hi]
  rfl

lemma globals_getElem? {g : OutputGlobals} (h : words.take outputWords = g.toList)
    (i : Fin outputWords) : words[i.val]? = some (g.get i) := by
  rw [← vector_getElem?, ← h, List.getElem?_take_of_lt i.2]

lemma paddingIndex_val (k : Fin 8) : (paddingIndex k).val = 1 + 2 * k := Nat.add_comm _ _

lemma accepted_of_preflighted {env : PreflightStarkEnvelope} (h : Preflighted m raw env) :
    Accepted m.outerPo2 (chunksExact raw) := by
  have hshaped := h.shaped
  rw [h.words]
  refine ⟨fun word hword => lt_babyBear.mpr (h.reduced word hword), ?_, ?_, ?_⟩
  · rw [← h.outerPo2]
    exact vector_getElem? env.sealWords outerPo2WordIndex
  · intro k hk
    have hglobal := globals_getElem? h.globals (paddingIndex ⟨k, hk⟩)
    rwa [paddingIndex_val, hshaped.padding] at hglobal
  · intro k hk
    exact ⟨_, globals_getElem? h.globals (claimIndex ⟨k, hk⟩), hshaped.halfword ⟨k, hk⟩⟩

/-- The words of a seal of the exact length as the consumer's envelope. -/
structure Laid (raw : Bytes) (v : List.Vector UInt32 proofWords) (g : OutputGlobals) : Prop where
  length : raw.length = proofBytes
  words : chunksExact raw = v.toList
  globals : v.toList.take outputWords = g.toList

lemma laid_of_length (h : raw.length = proofBytes) : ∃ v g, Laid raw v g := by
  have hcount : (chunksExact raw).length = proofWords := chunksExact_length h
  have htake : ((chunksExact raw).take outputWords).length = outputWords := by
    rw [List.length_take, hcount]
    rfl
  exact ⟨⟨_, hcount⟩, ⟨_, htake⟩, h, rfl, rfl⟩

lemma preflighted_of_accepted {v : List.Vector UInt32 proofWords} {g : OutputGlobals}
    (hlaid : Laid raw v g) (h : Accepted m.outerPo2 (chunksExact raw)) :
    Preflighted m raw ⟨v, g, m.innerControlRoot⟩ := by
  obtain ⟨hlen, hwords, hglobals⟩ := hlaid
  rw [hwords] at h
  have hget := globals_getElem? hglobals
  refine ⟨hlen, hwords, fun word hword => lt_babyBear.mp (h.reduced word hword), ?_, hglobals,
    (validateOutputShape_ok g).mpr ⟨?_, ?_⟩, rfl⟩
  · have houter := vector_getElem? v outerPo2WordIndex
    exact Option.some.inj (houter.symm.trans h.outer)
  · intro k
    have hk := hget (paddingIndex k)
    rw [paddingIndex_val, h.padding k k.2] at hk
    exact (Option.some.inj hk).symm
  · intro k
    obtain ⟨word, hword, hlt⟩ := h.claim k k.2
    obtain rfl := Option.some.inj ((hget (claimIndex k)).symm.trans hword)
    exact hlt

lemma preflight_iff : (∃ env, preflight m raw = .ok env) ↔
    raw.length = proofBytes ∧ Accepted m.outerPo2 (chunksExact raw) := by
  constructor
  · rintro ⟨env, henv⟩
    have h := preflight_ok.mp henv
    exact ⟨h.length, accepted_of_preflighted h⟩
  · rintro ⟨hlen, hwords⟩
    obtain ⟨v, g, hlaid⟩ := laid_of_length hlen
    exact ⟨_, preflight_ok.mpr (preflighted_of_accepted hlaid hwords)⟩

lemma claimSpan {k : ℕ} (hk : k < 16) : ((words.drop 16).take 16)[k]? = words[16 + k]? := by
  rw [List.getElem?_take_of_lt hk, List.getElem?_drop]

lemma checkClaimWords_ok (hlen : 32 ≤ words.length) :
    (((words.drop 16).take 16).zipIdx.forM fun entry => checkClaimWord babyBear entry.2 entry.1) =
      .ok () ↔ ∀ k < 16, ∃ word, words[16 + k]? = some word ∧ word < babyBear ∧
        (asU32 word).toNat < 2 ^ 16 := by
  rw [forM_ok]
  simp only [checkClaimWord, bind_ok, montgomeryDecode_ok, ensure_ok]
  constructor
  · intro h k hk
    obtain ⟨word, hword⟩ : ∃ word, words[16 + k]? = some word :=
      ⟨_, List.getElem?_eq_getElem (by omega)⟩
    have hmem : (word, k) ∈ ((words.drop 16).take 16).zipIdx := by
      rw [List.mem_zipIdx_iff_getElem?, claimSpan hk, hword]
    obtain ⟨_, ⟨hlt, rfl⟩, hhalf⟩ := h _ hmem
    exact ⟨word, hword, hlt, hhalf⟩
  · intro h entry hentry
    rw [List.mem_zipIdx_iff_getElem?] at hentry
    have hk : entry.2 < 16 := by
      have hlt := (List.getElem?_eq_some_iff.mp hentry).1
      rw [List.length_take] at hlt
      omega
    rw [claimSpan hk] at hentry
    obtain ⟨word, hword, hlt, hhalf⟩ := h entry.2 hk
    obtain rfl := Option.some.inj (hentry.symm.trans hword)
    exact ⟨_, ⟨hlt, rfl⟩, hhalf⟩

lemma paddingWords_iff : (∀ index ∈ List.range' 1 8 2, words[index]? = some 0) ↔
    ∀ k < 8, words[1 + 2 * k]? = some 0 := by
  simp only [List.mem_range']
  constructor
  · intro h k hk
    exact h _ ⟨k, hk, rfl⟩
  · rintro h _ ⟨k, hk, rfl⟩
    exact h k hk

variable {sha256 : Bytes → Digest} {validateCanonicalJsonSource : Bytes → Except String Unit}

lemma deriveSealSemanticProjection_ok {b2Bytes : Bytes} {projection : SealSemanticProjection} :
    deriveSealSemanticProjection sha256 b2Bytes = .ok projection ↔
      (∃ b2, verifyCanonical sha256 b2Bytes = .ok b2) ∧ projection = frozenProjection := by
  simp only [deriveSealSemanticProjection, bind_ok, report_ok]
  have hvalid : ∀ b2, verifyCanonical sha256 b2Bytes = .ok b2 → validate b2 = .ok () := by
    intro b2 h
    simp only [verifyCanonical, bind_ok, exists_unit, ensure_ok, pure_ok] at h
    obtain ⟨decoded, hdecoded, _, -, -, -, rfl⟩ := h
    exact (decode_ok.mp hdecoded).1
  constructor
  · rintro ⟨b2, hb2, hprojection⟩
    have heq := deriveSealSemanticProjectionFromConstants_eq (hvalid b2 hb2)
    exact ⟨⟨b2, hb2⟩, (Except.ok.inj (heq.symm.trans hprojection)).symm⟩
  · rintro ⟨⟨b2, hb2⟩, rfl⟩
    exact ⟨b2, hb2, deriveSealSemanticProjectionFromConstants_eq (hvalid b2 hb2)⟩

/-- The seal and what the producer has derived from it. -/
structure Based (manifestPo2 : UInt8) (raw : Bytes) (sources : RawSources) : Prop where
  length : raw.length = proofBytes
  rawSeal : sources.rawSeal = raw
  rawSealWords : sources.rawSealWords = chunksExact raw
  semanticProjection : sources.semanticProjection = frozenProjection
  outerPo2 : sources.outerPo2 = manifestPo2
  accepted : Accepted manifestPo2 (chunksExact raw)

variable {caseIndex : ℕ} {caseId manifest profileConstants statementBytes : Bytes}
  {statement : ErgoStatementV1} {profileId programId : Digest} {sources : RawSources}

lemma based_of_parts (h : fromAuthenticatedParts sha256 validateCanonicalJsonSource caseIndex caseId
    manifest outerPo2 profileConstants raw statementBytes statement profileId programId =
      .ok sources) :
    (caseIndex = 0 ∧ caseId = liftCaseId) ∧
      (profileId = statement.profileId ∧ programId = statement.programId) ∧
        (∃ b2, verifyCanonical sha256 profileConstants = .ok b2) ∧
          Based outerPo2 raw sources := by
  simp only [fromAuthenticatedParts, bind_ok, exists_unit, ensure_ok, mapError_ok, context_ok,
    decodeSealWords_ok, deriveSealSemanticProjection_ok, Option.ite_none_right_eq_some,
    Option.some.injEq, pure_ok] at h
  obtain ⟨hcase, hids, _, ⟨hlen, rfl⟩, projection, ⟨hb2, rfl⟩, hreduced, hpadding, houter, _,
    ⟨hspan, rfl⟩, hclaim, _, -, _, -, rfl⟩ := h
  refine ⟨hcase, hids, hb2, hlen, rfl, rfl, rfl, rfl, hreduced, houter,
    paddingWords_iff.mp hpadding, ?_⟩
  intro k hk
  obtain ⟨word, hword, -, hhalf⟩ := (checkClaimWords_ok hspan).mp hclaim k hk
  exact ⟨word, hword, hhalf⟩

lemma parts_of_accepted (hcase : caseIndex = 0 ∧ caseId = liftCaseId)
    (hids : profileId = statement.profileId ∧ programId = statement.programId)
    (hb2 : ∃ b2, verifyCanonical sha256 profileConstants = .ok b2) (hlen : raw.length = proofBytes)
    (h : Accepted outerPo2 (chunksExact raw)) :
    ∃ sources, fromAuthenticatedParts sha256 validateCanonicalJsonSource caseIndex caseId manifest
      outerPo2 profileConstants raw statementBytes statement profileId programId =
        .ok sources := by
  have hcount : (chunksExact raw).length = proofWords := chunksExact_length hlen
  have hspan : 32 ≤ (chunksExact raw).length := by
    rw [hcount]
    decide
  obtain ⟨chunks, hsplit, -⟩ := Opcode.Producer.splitRawSeal_ok hlen
  obtain ⟨subject, hsubject⟩ := @proofSubjectFromRawSeal_ok sha256 validateCanonicalJsonSource _ hlen
  simp only [fromAuthenticatedParts, bind_ok, exists_unit, ensure_ok, mapError_ok, context_ok,
    decodeSealWords_ok, deriveSealSemanticProjection_ok, Option.ite_none_right_eq_some,
    Option.some.injEq, pure_ok]
  refine ⟨_, hcase, hids, _, ⟨hlen, rfl⟩, _, ⟨hb2, rfl⟩, h.reduced, paddingWords_iff.mpr h.padding,
    h.outer, _, ⟨hspan, rfl⟩, (checkClaimWords_ok hspan).mpr ?_, _, hsplit, _, hsubject, rfl⟩
  intro k hk
  obtain ⟨word, hword, hhalf⟩ := h.claim k hk
  exact ⟨word, hword, h.reduced word (List.mem_of_getElem? hword), hhalf⟩

end Base

end Producer

end Eip0045.RawSeal
