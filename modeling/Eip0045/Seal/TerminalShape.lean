import Eip0045.Ancestry.Replay
import Eip0045.Seal.OutputBinding

/-! The generator's gate on a receipt, and its agreement with the verifier's preflight and with the decoder of
the ancestry adapter. -/

namespace Eip0045.TerminalShape

open AncestryReplay Bytes Checked Constants Manifest RawSeal

section Receipts

def expectedOuterPo2 : UInt32 := risc0OuterPo2.toUInt32
def controlInclusionProofDepth : ℕ := 8

inductive CandidateTerminal
  | lift (segmentPo2 : UInt32)
  | join
  | resolve
  deriving DecidableEq

def CandidateTerminal.label : CandidateTerminal → String
  | .lift segmentPo2 => s!"normal lift for segment po2 {segmentPo2}"
  | .join => "terminal join"
  | .resolve => "terminal resolve"

structure MerkleProof where
  index : UInt32
  digests : List Digest

structure SuccinctReceipt (Claim : Type) where
  hashfn : String
  controlId : Digest
  controlInclusionProof : MerkleProof
  verifierParameters : Digest
  sealWords : List UInt32
  claim : Claim

/-- The words of the seal in little-endian order. -/
def SuccinctReceipt.getSealBytes {Claim : Type} (receipt : SuccinctReceipt Claim) : Bytes :=
  receipt.sealWords.flatMap le32

/-- `Digest::as_words`. -/
def asWords (digest : Digest) : List UInt32 := chunksExact digest.val

/-- `Digest::try_from` a vector of words. -/
def digestFromWords (words : List UInt32) : Option Digest :=
  if words.length = 8 then some (ByteArr.atOffset 32 (words.flatMap le32) 0) else none

end Receipts

section Decoders

def validateReducedDigest (digest : Digest) (label : String) : Except (Fault String) Unit :=
  (asWords digest).zipIdx.forM fun (word, wordIndex) =>
    ensure (word.toNat < babyBearModulus)
      (.reported s!"{label} word {wordIndex} is not a reduced BabyBear element")

def siblingLabel (siblingIndex : ℕ) : String := s!"control-inclusion sibling digest {siblingIndex}"

def decodeRecursionOutputWord (rawWord : UInt32) (sealWordIndex : ℕ) : Except (Fault String) UInt32 := do
  ensure (rawWord.toNat < babyBearModulus)
    (.reported s!"raw recursion-output field element at seal word {sealWordIndex} is not reduced")
  pure (asU32 rawWord)

def rootPadding (rawSlot : List UInt32) (index : ℕ) : Except (Fault String) Unit := do
  let padding ← item rawSlot index
  ensure (padding = 0) (.reported s!"nonzero Poseidon2 root padding at seal word {index}")

def rootWordAt (rawSlot : List UInt32) (index : ℕ) : Except (Fault String) UInt32 := do
  let rawWord ← item rawSlot index
  decodeRecursionOutputWord rawWord index

def decodeInnerControlRoot (rawSlot : List UInt32) : Except (Fault String) Digest := do
  ensure (rawSlot.length = 16) (.reported "inner-root slot does not contain exactly 16 words")
  (List.finRange 8).forM fun (k : Fin 8) => rootPadding rawSlot (2 * k.val + 1)
  let rootWords ← (List.finRange 8).mapM fun (k : Fin 8) => rootWordAt rawSlot (2 * k.val)
  context (.reported "inner-root slot does not contain exactly eight words") (digestFromWords rootWords)

/-- The body of the loop over the claim slot. -/
def claimHalfwordBytes (entry : UInt32 × ℕ) : Except (Fault String) Bytes := do
  let sealWordIndex := entry.2 + 16
  let word ← decodeRecursionOutputWord entry.1 sealWordIndex
  let halfword ← context
    (.reported s!"claim SHA halfword at seal word {sealWordIndex} exceeds 0xffff")
    (if word.toNat < 2 ^ 16 then some word.toUInt16 else none)
  pure (le16 halfword)

def decodeClaimDigest (rawSlot : List UInt32) : Except (Fault String) Digest := do
  ensure (rawSlot.length = 16) (.reported "claim slot does not contain exactly 16 words")
  let decodedClaim ← rawSlot.zipIdx.mapM claimHalfwordBytes
  pure (ByteArr.atOffset 32 decodedClaim.flatten 0)

end Decoders

section Gate

variable {Claim : Type}

/-- The word of the outer exponent is no field element, and the loop leaves it out. -/
def sealWordReduced (entry : UInt32 × ℕ) : Except (Fault String) Unit :=
  let wordIndex := entry.2
  if wordIndex ≠ 32 then
    ensure (entry.1.toNat < babyBearModulus)
      (.reported s!"raw seal field/digest word at index {wordIndex} is not reduced")
  else .ok ()

/-- The gate, over the digest function of the receipt's claims. -/
def validateTerminalShapeAgainstRoot (digest : Claim → Digest) (receipt : SuccinctReceipt Claim)
    (terminal : CandidateTerminal) (expectedControlId : Digest) (expectedControlIndex : UInt32)
    (expectedRoot expectedParametersDigest claimDigest : Digest) : Except (Fault String) Bytes := do
  let terminalLabel := terminal.label
  ensure (receipt.hashfn = "poseidon2") (.reported "receipt hash suite is not poseidon2")
  ensure (receipt.controlId = expectedControlId)
    (.reported s!"receipt control ID is not the expected {terminalLabel}")
  validateReducedDigest receipt.controlId "receipt control ID"
  let index := receipt.controlInclusionProof.index
  ensure (index = expectedControlIndex)
    (.reported s!"control-inclusion proof index is {index}, expected {expectedControlIndex} for {terminalLabel}")
  let depth := receipt.controlInclusionProof.digests.length
  ensure (depth = controlInclusionProofDepth) (.reported
    s!"control-inclusion proof has {depth} sibling digests, expected {controlInclusionProofDepth}")
  receipt.controlInclusionProof.digests.zipIdx.forM fun (sibling, siblingIndex) =>
    validateReducedDigest sibling (siblingLabel siblingIndex)
  ensure (receipt.verifierParameters = expectedParametersDigest)
    (.reported "receipt verifier-parameters digest differs from the expected root contract")
  let rawSeal := receipt.getSealBytes
  let wordCount := receipt.sealWords.length
  ensure (wordCount = proofWords) (.reported s!"raw seal has {wordCount} words, expected {proofWords}")
  receipt.sealWords.zipIdx.forM sealWordReduced
  let byteCount := rawSeal.length
  ensure (byteCount = proofBytes) (.reported s!"raw seal has {byteCount} bytes, expected {proofBytes}")
  let decodedWords ← report (decodeSealWords rawSeal)
  ensure (decodedWords = receipt.sealWords)
    (.reported "get_seal_bytes is not the exact little-endian encoding of receipt seal words")
  let decodedRoot ← decodeInnerControlRoot (receipt.sealWords.take 16)
  ensure (decodedRoot = expectedRoot)
    (.reported "raw-seal inner control root differs from the expected root contract")
  let decodedClaim ← decodeClaimDigest ((receipt.sealWords.drop 16).take 16)
  ensure (decodedClaim = claimDigest)
    (.reported "raw-seal SHA halfwords do not encode the expected claim digest")
  ensure (digest receipt.claim = claimDigest)
    (.reported "succinct receipt claim differs from the expected claim digest")
  let outerPo2 ← item receipt.sealWords 32
  ensure (outerPo2 = expectedOuterPo2)
    (.reported s!"raw-seal outer po2 is {outerPo2}, expected {expectedOuterPo2}")
  pure rawSeal

/-- The checks on the receipt around its seal. -/
structure ReceiptChecks (digest : Claim → Digest) (receipt : SuccinctReceipt Claim) (expectedControlId : Digest)
    (expectedControlIndex : UInt32) (expectedParametersDigest claimDigest : Digest) : Prop where
  hashfn : receipt.hashfn = "poseidon2"
  controlId : receipt.controlId = expectedControlId
  reducedControlId : validateReducedDigest receipt.controlId "receipt control ID" = .ok ()
  index : receipt.controlInclusionProof.index = expectedControlIndex
  depth : receipt.controlInclusionProof.digests.length = controlInclusionProofDepth
  reducedSiblings : ∀ entry ∈ receipt.controlInclusionProof.digests.zipIdx,
    validateReducedDigest entry.1 (siblingLabel entry.2) = .ok ()
  parameters : receipt.verifierParameters = expectedParametersDigest
  claim : digest receipt.claim = claimDigest

structure SealChecks (words : List UInt32) (root claim : Digest) : Prop where
  length : words.length = proofWords
  reduced : ∀ entry ∈ words.zipIdx, entry.2 ≠ 32 → entry.1.toNat < babyBearModulus
  byteLength : (words.flatMap le32).length = proofBytes
  reencoded : decodeSealWords (words.flatMap le32) = .ok words
  root : decodeInnerControlRoot (words.take 16) = .ok root
  claim : decodeClaimDigest ((words.drop 16).take 16) = .ok claim
  outerPo2 : words[32]? = some expectedOuterPo2

lemma sealWordReduced_ok {entry : UInt32 × ℕ} :
    sealWordReduced entry = .ok () ↔ (entry.2 ≠ 32 → entry.1.toNat < babyBearModulus) := by
  rw [sealWordReduced]
  split
  case isTrue h => rw [ensure_ok, imp_iff_right h]
  case isFalse h => exact ⟨fun _ hne => absurd hne h, fun _ => rfl⟩

lemma validateTerminalShapeAgainstRoot_ok {digest : Claim → Digest} {receipt : SuccinctReceipt Claim}
    {terminal : CandidateTerminal} {controlId : Digest} {index : UInt32} {root parameters claim : Digest}
    {raw : Bytes} :
    validateTerminalShapeAgainstRoot digest receipt terminal controlId index root parameters claim = .ok raw ↔
      ReceiptChecks digest receipt controlId index parameters claim ∧ SealChecks receipt.sealWords root claim ∧
        raw = receipt.getSealBytes := by
  simp only [validateTerminalShapeAgainstRoot, bind_ok, exists_unit, ensure_ok, report_ok, item_ok, pure_ok,
    forM_ok, sealWordReduced_ok]
  constructor
  · rintro ⟨hhash, hid, hreducedId, hindex, hdepth, hsiblings, hparameters, hlength, hreduced, hbytes, words, hwords,
      rfl, _, hroot, rfl, _, hclaim, rfl, hdigest, _, houter, rfl, rfl⟩
    exact ⟨⟨hhash, hid, hreducedId, hindex, hdepth, hsiblings, hparameters, hdigest⟩,
      ⟨hlength, hreduced, hbytes, hwords, hroot, hclaim, houter⟩, rfl⟩
  · rintro ⟨hreceipt, hseal, rfl⟩
    exact ⟨hreceipt.hashfn, hreceipt.controlId, hreceipt.reducedControlId, hreceipt.index, hreceipt.depth,
      hreceipt.reducedSiblings, hreceipt.parameters, hseal.length, hseal.reduced, hseal.byteLength, _,
      hseal.reencoded, rfl, _, hseal.root, rfl, _, hseal.claim, rfl, hreceipt.claim, _, hseal.outerPo2, rfl, rfl⟩

end Gate

section Slots

variable {words : List UInt32} {g : OutputGlobals}

lemma exists_globals (h : words.length = proofWords) : ∃ g : OutputGlobals, words.take outputWords = g.toList := by
  have hlength : (words.take outputWords).length = outputWords := by
    rw [List.length_take, h]
    decide
  exact ⟨⟨words.take outputWords, hlength⟩, rfl⟩

lemma rootSlot (h : words.take outputWords = g.toList) : words.take 16 = g.toList.take 16 := by
  rw [← h, List.take_take, outputWords, min_eq_left (by decide)]

lemma claimSlot (h : words.take outputWords = g.toList) :
    (words.drop 16).take 16 = (List.finRange 16).map fun k => g.get (claimIndex k) := by
  have hdrop : (words.drop 16).take 16 = g.toList.drop 16 := by
    rw [← h, outputWords, List.drop_take]
  rw [hdrop]
  apply List.ext_getElem?
  intro i
  rw [List.getElem?_drop, List.getElem?_map]
  by_cases hi : i < 16
  · have hword : g.toList[16 + i]? = some (g.get (claimIndex ⟨i, hi⟩)) :=
      List.getElem?_eq_getElem (by rw [List.Vector.toList_length, outputWords]; omega)
    rw [hword, List.getElem?_eq_getElem (by simpa using hi), List.getElem_finRange, Option.map_some]
    rfl
  · rw [List.getElem?_eq_none (by rw [List.Vector.toList_length, outputWords]; omega), List.getElem?_eq_none (by simpa using hi)]
    rfl

lemma word_at (i : Fin outputWords) : g.toList[i.val]? = some (g.get i) :=
  List.getElem?_eq_getElem (by rw [List.Vector.toList_length]; exact i.isLt)

lemma rootSlot_padding (k : Fin 8) : (g.toList.take 16)[2 * k.val + 1]? = some (g.get (paddingIndex k)) := by
  rw [List.getElem?_take_of_lt (by omega)]
  exact word_at (paddingIndex k)

lemma rootSlot_root (k : Fin 8) : (g.toList.take 16)[2 * k.val]? = some (g.get (rootIndex k)) := by
  rw [List.getElem?_take_of_lt (by omega)]
  exact word_at (rootIndex k)

end Slots

section Decoded

variable {words : List UInt32} {g : OutputGlobals} {root claim : Digest}

lemma decodeRecursionOutputWord_ok {rawWord word : UInt32} {index : ℕ} :
    decodeRecursionOutputWord rawWord index = .ok word ↔
      rawWord.toNat < babyBearModulus ∧ word = asU32 rawWord := by
  rw [decodeRecursionOutputWord, bind_ok, exists_unit, ensure_ok, pure_ok, eq_comm]

lemma packed_root : ByteArr.atOffset 32 (rootBytes g) 0 = root ↔ root.val = rootBytes g := by
  constructor
  · rintro rfl
    exact packed rootBytes_length
  · exact fun h => Subtype.ext ((packed rootBytes_length).trans h.symm)

lemma digestFromWords_eq_some : digestFromWords ((List.finRange 8).map fun k => asU32 (g.get (rootIndex k))) =
    some root ↔ root.val = rootBytes g := by
  rw [digestFromWords, if_pos (by simp), List.flatMap_map, Option.some.injEq]
  exact packed_root

lemma decodeInnerControlRoot_ok (h : words.take outputWords = g.toList) :
    decodeInnerControlRoot (words.take 16) = .ok root ↔
      (∀ k, g.get (paddingIndex k) = 0) ∧ (∀ k, (g.get (rootIndex k)).toNat < babyBearModulus) ∧
        root.val = rootBytes g := by
  have hlength : (g.toList.take 16).length = 16 := by
    rw [List.length_take, List.Vector.toList_length]
    rfl
  have hpadding : ∀ k : Fin 8, rootPadding (g.toList.take 16) (2 * k + 1) = .ok () ↔
      g.get (paddingIndex k) = 0 := by
    intro k
    simp only [rootPadding, bind_ok, item_ok, rootSlot_padding, Option.some.injEq, ensure_ok, exists_eq_left']
  have hword : ∀ (k : Fin 8) (word : UInt32), rootWordAt (g.toList.take 16) (2 * k) = .ok word ↔
      (g.get (rootIndex k)).toNat < babyBearModulus ∧ word = asU32 (g.get (rootIndex k)) := by
    intro k word
    simp only [rootWordAt, bind_ok, item_ok, rootSlot_root, Option.some.injEq, decodeRecursionOutputWord_ok,
      exists_eq_left']
  rw [rootSlot h]
  simp only [decodeInnerControlRoot, bind_ok, exists_unit, ensure_ok, hlength, forM_ok, hpadding, mapM_ok hword,
    context_ok, List.mem_finRange, true_imp_iff, true_and]
  constructor
  · rintro ⟨hzero, _, ⟨hreduced, rfl⟩, hroot⟩
    exact ⟨hzero, hreduced, digestFromWords_eq_some.mp hroot⟩
  · rintro ⟨hzero, hreduced, hroot⟩
    exact ⟨hzero, _, ⟨hreduced, rfl⟩, digestFromWords_eq_some.mpr hroot⟩

lemma claimBytes_eq : ((List.finRange 16).map fun k => g.get (claimIndex k)).flatMap
    (fun word => le16 (asU32 word).toUInt16) = claimBytes g := by
  rw [List.flatMap_map, claimBytes]

lemma packed_claim : ByteArr.atOffset 32 (claimBytes g) 0 = claim ↔ claim.val = claimBytes g := by
  constructor
  · rintro rfl
    exact packed claimBytes_length
  · exact fun h => Subtype.ext ((packed claimBytes_length).trans h.symm)

lemma halfword_eq_some {word : UInt32} {halfword : UInt16} :
    (if word.toNat < 2 ^ 16 then some word.toUInt16 else none) = some halfword ↔
      word.toNat < 2 ^ 16 ∧ halfword = word.toUInt16 := by
  rw [Option.ite_none_right_eq_some, Option.some.injEq, eq_comm (a := halfword)]

lemma decodeClaimDigest_ok (h : words.take outputWords = g.toList) :
    decodeClaimDigest ((words.drop 16).take 16) = .ok claim ↔
      (∀ k, (g.get (claimIndex k)).toNat < babyBearModulus ∧ (asU32 (g.get (claimIndex k))).toNat < 2 ^ 16) ∧
        claim.val = claimBytes g := by
  have hbytes : ∀ (entry : UInt32 × ℕ) (bytes : Bytes), claimHalfwordBytes entry = .ok bytes ↔
      (entry.1.toNat < babyBearModulus ∧ (asU32 entry.1).toNat < 2 ^ 16) ∧
        bytes = le16 (asU32 entry.1).toUInt16 := by
    intro entry bytes
    simp only [claimHalfwordBytes, bind_ok, decodeRecursionOutputWord_ok, context_ok, halfword_eq_some, pure_ok]
    constructor
    · rintro ⟨_, ⟨hreduced, rfl⟩, _, ⟨hlt, rfl⟩, rfl⟩
      exact ⟨⟨hreduced, hlt⟩, rfl⟩
    · rintro ⟨⟨hreduced, hlt⟩, rfl⟩
      exact ⟨_, ⟨hreduced, rfl⟩, _, ⟨hlt, rfl⟩, rfl⟩
  have hentries : ∀ (C : UInt32 → Prop) (slot : List UInt32),
      (∀ entry ∈ slot.zipIdx, C entry.1) ↔ ∀ word ∈ slot, C word := by
    intro C slot
    rw [← List.forall_mem_map, List.zipIdx_map_fst]
  have hflatten : ∀ slot : List UInt32, (slot.zipIdx.map fun entry => le16 (asU32 entry.1).toUInt16).flatten =
      slot.flatMap fun word => le16 (asU32 word).toUInt16 := by
    intro slot
    have hmap := List.map_map (f := Prod.fst) (g := fun word => le16 (asU32 word).toUInt16) (l := slot.zipIdx)
    rw [List.zipIdx_map_fst] at hmap
    rw [List.flatMap_def, hmap]
    rfl
  have hlength : ((List.finRange 16).map fun k => g.get (claimIndex k)).length = 16 := by simp
  rw [claimSlot h, decodeClaimDigest]
  simp only [bind_ok, exists_unit, ensure_ok, hlength, true_and, mapM_ok hbytes, pure_ok]
  rw [hentries fun word => word.toNat < babyBearModulus ∧ (asU32 word).toNat < 2 ^ 16]
  simp only [List.forall_mem_map, List.mem_finRange, true_imp_iff]
  constructor
  · rintro ⟨_, ⟨hwords, rfl⟩, hclaim⟩
    rw [hflatten, claimBytes_eq] at hclaim
    exact ⟨hwords, packed_claim.mp hclaim⟩
  · rintro ⟨hwords, hclaim⟩
    refine ⟨_, ⟨hwords, rfl⟩, ?_⟩
    rw [hflatten, claimBytes_eq]
    exact packed_claim.mpr hclaim

end Decoded

section Agreement

variable {m : StarkProfileManifestV1} {outer : UInt32} {raw : Bytes} {words : List UInt32} {g : OutputGlobals}
  {root claim : Digest}

structure Accepted (outer : UInt32) (raw : Bytes) (words : List UInt32) (g : OutputGlobals) : Prop where
  length : raw.length = proofBytes
  decoded : chunksExact raw = words
  reduced : ∀ word ∈ words, word.toNat < babyBearModulus
  outerPo2 : words[32]? = some outer
  globals : words.take outputWords = g.toList
  shaped : Shaped g

/-- The verifier's preflight passes, and its decoders return the root and the claim. -/
def VerifierBinds (m : StarkProfileManifestV1) (raw : Bytes) (root claim : Digest) : Prop :=
  ∃ env, preflight m raw = .ok env ∧ RawSeal.decodeInnerControlRoot env.globals = .ok root ∧
    RawSeal.decodeClaimDigest env.globals = .ok claim

lemma Accepted.word_at (h : Accepted outer raw words g) (i : Fin outputWords) :
    words[i.val]? = some (g.get i) := by
  rw [← List.getElem?_take_of_lt i.isLt, h.globals]
  exact TerminalShape.word_at i

lemma preflighted_accepted {env : PreflightStarkEnvelope} (h : Preflighted m raw env) :
    Accepted m.outerPo2.toUInt32 raw env.sealWords.toList env.globals := by
  refine ⟨h.length, h.words, h.reduced, ?_, h.globals, h.shaped⟩
  rw [← h.outerPo2]
  exact List.getElem?_eq_getElem _

lemma Accepted.preflighted (h : Accepted m.outerPo2.toUInt32 raw words g) :
    ∃ env, Preflighted m raw env ∧ env.globals = g := by
  have hlength : words.length = proofWords := by
    rw [← h.decoded]
    exact chunksExact_length h.length
  refine ⟨⟨⟨words, hlength⟩, g, m.innerControlRoot⟩, ⟨h.length, h.decoded, h.reduced, ?_, h.globals, ?_, rfl⟩, rfl⟩
  · exact (List.getElem?_eq_some_iff.mp h.outerPo2).2
  · exact (validateOutputShape_ok g).mpr ⟨h.shaped.padding, h.shaped.halfword⟩

lemma verifierBinds_iff : VerifierBinds m raw root claim ↔
    ∃ words g, Accepted m.outerPo2.toUInt32 raw words g ∧ root.val = rootBytes g ∧ claim.val = claimBytes g := by
  constructor
  · rintro ⟨env, hpreflight, hroot, hclaim⟩
    have hseal := preflighted_accepted (preflight_ok.mp hpreflight)
    exact ⟨_, env.globals, hseal, (RawSeal.decodeInnerControlRoot_ok hseal.shaped).mp hroot,
      (RawSeal.decodeClaimDigest_ok hseal.shaped).mp hclaim⟩
  · rintro ⟨words, g, hseal, hroot, hclaim⟩
    obtain ⟨env, henv, rfl⟩ := hseal.preflighted
    exact ⟨env, preflight_ok.mpr henv, (RawSeal.decodeInnerControlRoot_ok hseal.shaped).mpr hroot,
      (RawSeal.decodeClaimDigest_ok hseal.shaped).mpr hclaim⟩

lemma preflight_succeeds : (∃ env, preflight m raw = .ok env) ↔
    ∃ words g, Accepted m.outerPo2.toUInt32 raw words g := by
  constructor
  · rintro ⟨env, henv⟩
    exact ⟨_, _, preflighted_accepted (preflight_ok.mp henv)⟩
  · rintro ⟨words, g, hseal⟩
    obtain ⟨env, henv, -⟩ := hseal.preflighted
    exact ⟨env, preflight_ok.mpr henv⟩

lemma SealChecks.accepted (h : SealChecks words root claim) (hglobals : words.take outputWords = g.toList) :
    Accepted expectedOuterPo2 (words.flatMap le32) words g := by
  obtain ⟨hpadding, hroot, -⟩ := (decodeInnerControlRoot_ok hglobals).mp h.root
  obtain ⟨hclaim, -⟩ := (decodeClaimDigest_ok hglobals).mp h.claim
  have hreduced : ∀ word ∈ words, word.toNat < babyBearModulus := by
    intro word hword
    obtain ⟨i, hi⟩ := List.mem_iff_getElem?.mp hword
    by_cases h32 : i = 32
    · rw [h32, h.outerPo2, Option.some.injEq] at hi
      rw [← hi]
      decide
    · exact h.reduced (word, i) (List.mem_zipIdx_iff_getElem?.mpr hi) h32
  refine ⟨h.byteLength, chunksExact_flatMap words, hreduced, h.outerPo2, hglobals, ?_⟩
  refine ⟨fun i => ?_, hpadding, fun k => (hclaim k).2⟩
  obtain ⟨k, rfl⟩ | ⟨k, rfl⟩ | ⟨k, rfl⟩ := outputIndex_cases i
  · exact hroot k
  · rw [hpadding]
    exact modulus_pos
  · exact (hclaim k).1

lemma sealChecks_iff : SealChecks words root claim ↔
    ∃ g, Accepted expectedOuterPo2 (words.flatMap le32) words g ∧ root.val = rootBytes g ∧
      claim.val = claimBytes g := by
  constructor
  · intro h
    obtain ⟨g, hglobals⟩ := exists_globals h.length
    obtain ⟨-, -, hroot⟩ := (decodeInnerControlRoot_ok hglobals).mp h.root
    obtain ⟨-, hclaim⟩ := (decodeClaimDigest_ok hglobals).mp h.claim
    exact ⟨g, h.accepted hglobals, hroot, hclaim⟩
  · rintro ⟨g, h, hroot, hclaim⟩
    have hlength : words.length = proofWords := by
      rw [← h.decoded]
      exact chunksExact_length h.length
    refine ⟨hlength, fun entry hentry _ => h.reduced _ (List.fst_mem_of_mem_zipIdx hentry), h.length,
      decodeSealWords_ok.mpr ⟨h.length, h.decoded⟩, ?_, ?_, h.outerPo2⟩
    · exact (decodeInnerControlRoot_ok h.globals).mpr ⟨h.shaped.padding, fun k => h.shaped.reduced _, hroot⟩
    · exact (decodeClaimDigest_ok h.globals).mpr
        ⟨fun k => ⟨h.shaped.reduced _, h.shaped.halfword k⟩, hclaim⟩

lemma sealChecks_iff_verifierBinds (h : m.outerPo2.toUInt32 = expectedOuterPo2) :
    SealChecks words root claim ↔ VerifierBinds m (words.flatMap le32) root claim := by
  rw [sealChecks_iff, verifierBinds_iff, h]
  constructor
  · rintro ⟨g, hseal, hbound⟩
    exact ⟨words, g, hseal, hbound⟩
  · rintro ⟨words', g, hseal, hbound⟩
    have hwords : words' = words := by rw [← hseal.decoded, chunksExact_flatMap]
    subst hwords
    exact ⟨g, hseal, hbound⟩

end Agreement

section Adapter

variable {m : StarkProfileManifestV1} {raw : Bytes} {words : List UInt32} {g : OutputGlobals}
  {output : UntrustedSealOutput}

lemma untrustedRootBlock_ok (k : ℕ) (bytes : Bytes) : untrustedRootBlock words k = .ok bytes ↔
    (words[2 * k + 1]? = some 0 ∧ ∃ word, words[2 * k]? = some word) ∧
      bytes = le32 (asU32 (words[2 * k]?.getD 0)) := by
  simp only [untrustedRootBlock, bind_ok, exists_unit, item_ok, ensure_ok, pure_ok]
  constructor
  · rintro ⟨_, hpadding, rfl, word, hword, rfl⟩
    exact ⟨⟨hpadding, word, hword⟩, by rw [hword, Option.getD_some]⟩
  · rintro ⟨⟨hpadding, word, hword⟩, rfl⟩
    exact ⟨0, hpadding, rfl, word, hword, by rw [hword, Option.getD_some]⟩

lemma untrustedClaimBlock_ok (rawWord : UInt32) (bytes : Bytes) : untrustedClaimBlock rawWord = .ok bytes ↔
    (asU32 rawWord).toNat < 2 ^ 16 ∧ bytes = le16 (asU32 rawWord).toUInt16 := by
  simp only [untrustedClaimBlock, bind_ok, context_ok, halfword_eq_some, pure_ok]
  constructor
  · rintro ⟨_, ⟨hlt, rfl⟩, rfl⟩
    exact ⟨hlt, rfl⟩
  · rintro ⟨hlt, rfl⟩
    exact ⟨_, ⟨hlt, rfl⟩, rfl⟩

lemma untrustedRoot_eq (h : ∀ i : Fin outputWords, words[i.val]? = some (g.get i)) :
    ((List.range 8).map fun k => le32 (asU32 (words[2 * k]?.getD 0))).flatten = rootBytes g := by
  have hword : ∀ k : Fin 8, le32 (asU32 (words[2 * k.val]?.getD 0)) = le32 (asU32 (g.get (rootIndex k))) := by
    intro k
    have hk : words[2 * k.val]? = some (g.get (rootIndex k)) := h (rootIndex k)
    rw [hk, Option.getD_some]
  rw [← List.map_coe_finRange_eq_range, List.map_map, rootBytes, List.flatMap_def]
  exact congrArg List.flatten (List.map_congr_left fun k _ => hword k)

lemma untrustedClaim_eq (h : words.take outputWords = g.toList) :
    (((words.drop 16).take 16).map fun word => le16 (asU32 word).toUInt16).flatten = claimBytes g := by
  rw [claimSlot h, ← List.flatMap_def, claimBytes_eq]

lemma decodeUntrustedSealOutput_ok : decodeUntrustedSealOutput raw m = .ok output ↔
    VerifierBinds m raw output.innerRoot output.claimDigest := by
  rw [verifierBinds_iff]
  simp only [decodeUntrustedSealOutput, bind_ok, exists_unit, mapError_ok, ensure_ok, item_ok, decodeSealWords_ok,
    List.all_eq_true, decide_eq_true_eq, mapM_ok untrustedRootBlock_ok, mapM_ok untrustedClaimBlock_ok, pure_ok,
    List.mem_range]
  constructor
  · rintro ⟨words, ⟨hlength, hwords⟩, hreduced, _, houter, rfl, _, ⟨hroot, rfl⟩, _, ⟨hclaim, rfl⟩, rfl⟩
    have hcount : words.length = proofWords := by
      rw [← hwords]
      exact chunksExact_length hlength
    obtain ⟨g, hglobals⟩ := exists_globals hcount
    have hget : ∀ i : Fin outputWords, words[i.val]? = some (g.get i) := by
      intro i
      rw [← List.getElem?_take_of_lt i.isLt, hglobals]
      exact word_at i
    have hpadding : ∀ k, g.get (paddingIndex k) = 0 := by
      intro k
      have hk : words[2 * k.val + 1]? = some (g.get (paddingIndex k)) := hget (paddingIndex k)
      exact Option.some.inj (hk.symm.trans (hroot k k.isLt).1)
    have hshaped : Shaped g := by
      refine ⟨fun i => hreduced _ (List.mem_of_getElem? (hget i)), hpadding, fun k => ?_⟩
      rw [claimSlot hglobals, List.forall_mem_map] at hclaim
      exact hclaim k (List.mem_finRange k)
    refine ⟨words, g, ⟨hlength, hwords, hreduced, houter, hglobals, hshaped⟩, ?_, ?_⟩
    · apply packed_root.mp
      rw [← untrustedRoot_eq hget]
    · apply packed_claim.mp
      rw [← untrustedClaim_eq hglobals]
  · rintro ⟨words, g, hseal, hroot, hclaim⟩
    refine ⟨words, ⟨hseal.length, hseal.decoded⟩, hseal.reduced, _, hseal.outerPo2, rfl, _, ⟨fun k hk => ?_, rfl⟩, _,
      ⟨?_, rfl⟩, ?_⟩
    · have hpadding : words[2 * k + 1]? = some (g.get (paddingIndex ⟨k, hk⟩)) := hseal.word_at (paddingIndex ⟨k, hk⟩)
      rw [hseal.shaped.padding] at hpadding
      exact ⟨hpadding, _, hseal.word_at (rootIndex ⟨k, hk⟩)⟩
    · rw [claimSlot hseal.globals, List.forall_mem_map]
      exact fun k _ => hseal.shaped.halfword k
    · rw [untrustedRoot_eq hseal.word_at, untrustedClaim_eq hseal.globals,
        packed_root.mpr hroot, packed_claim.mpr hclaim]

end Adapter

/-- A receipt passes the generator's gate exactly where the checks around its seal and those on its words pass;
the latter are the verifier's preflight with its two decoders; and the adapter decodes exactly what the verifier
does. -/
theorem seal_gates_agree {Claim : Type} (digest : Claim → Digest) :
    (∀ receipt terminal controlId index root parameters claim raw,
      validateTerminalShapeAgainstRoot digest receipt terminal controlId index root parameters claim = .ok raw ↔
        ReceiptChecks digest receipt controlId index parameters claim ∧
          SealChecks receipt.sealWords root claim ∧ raw = receipt.getSealBytes) ∧
    (∀ m : StarkProfileManifestV1, m.outerPo2.toUInt32 = expectedOuterPo2 →
      (∀ words root claim, SealChecks words root claim ↔ VerifierBinds m (words.flatMap le32) root claim) ∧
      ∀ receipt terminal controlId index root parameters claim raw,
        validateTerminalShapeAgainstRoot digest receipt terminal controlId index root parameters claim = .ok raw →
        VerifierBinds m raw root claim) ∧
    ∀ (m : StarkProfileManifestV1) raw,
      (∀ output, decodeUntrustedSealOutput raw m = .ok output ↔
        VerifierBinds m raw output.innerRoot output.claimDigest) ∧
      ((∃ output, decodeUntrustedSealOutput raw m = .ok output) ↔ ∃ env, preflight m raw = .ok env) := by
  refine ⟨fun _ _ _ _ _ _ _ _ => validateTerminalShapeAgainstRoot_ok, fun m hm => ⟨?_, ?_⟩,
    fun m raw => ⟨fun _ => decodeUntrustedSealOutput_ok, ?_⟩⟩
  · exact fun _ _ _ => sealChecks_iff_verifierBinds hm
  · intro receipt terminal controlId index root parameters claim raw hraw
    obtain ⟨-, hseal, rfl⟩ := validateTerminalShapeAgainstRoot_ok.mp hraw
    exact (sealChecks_iff_verifierBinds hm).mp hseal
  · simp only [decodeUntrustedSealOutput_ok, verifierBinds_iff, preflight_succeeds]
    constructor
    · rintro ⟨_, words, g, hseal, -⟩
      exact ⟨words, g, hseal⟩
    · rintro ⟨words, g, hseal⟩
      exact ⟨⟨⟨_, rootBytes_length⟩, ⟨_, claimBytes_length⟩⟩, words, g, hseal, rfl, rfl⟩

end Eip0045.TerminalShape
