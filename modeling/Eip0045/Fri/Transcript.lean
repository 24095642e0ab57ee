import Mathlib
import Eip0045.Library.Checked
import Eip0045.Library.MerkleTree

/-! The Fiat-Shamir transcript that a direct succinct seal commits to around its FRI rounds
(`reproduction/src/receipt_oracle_replay.rs`), over a hash suite and a random number generator that are not read. -/

namespace Eip0045.FriTranscript

open Checked

def babyBearModulus : UInt32 := 15 * ((1 : UInt32) <<< (27 : UInt32)) + 1
def directSealWords : ℕ := 55667
def digestWords : ℕ := 8
def merkleTopDigestCount : ℕ := 32
def merkleTopWords : ℕ := digestWords * merkleTopDigestCount
def outputWithPo2End : ℕ := 33
def codeTopStart : ℕ := 33
def dataTopStart : ℕ := 289
def accumTopStart : ℕ := 545
def checkTopStart : ℕ := 801
def coeffUStart : ℕ := 1057
def friRoundOneTopStart : ℕ := 3693
def friRoundTwoTopStart : ℕ := 3949
def friRoundThreeTopStart : ℕ := 4205
def finalCoefficientsStart : ℕ := 4461
def queriesStart : ℕ := 4717
def queryZeroFriRoundOneStart : ℕ := 5376
def queryZeroFriRoundThreeStart : ℕ := 5648
def friLeafWords : ℕ := 64
def friOriginalDomain : ℕ := 1 <<< 20
def friRoundOneDomain : ℕ := 1 <<< 16
def friRoundThreeDomain : ℕ := 1 <<< 8
def maxQ0GrindAttempts : UInt32 := (1 : UInt32) <<< (24 : UInt32)

inductive DirectSealMutationErrorKind
  | shape
  | derivation
  | agreement
  | compiledAuthorityDrift
  deriving DecidableEq

structure DirectSealMutationError where
  kind : DirectSealMutationErrorKind
  detail : String
  deriving DecidableEq

def directSealDerivationError (detail : String) : Fault DirectSealMutationError :=
  .reported ⟨.derivation, detail⟩

abbrev Result (α : Type) := Except (Fault DirectSealMutationError) α

@[ext]
structure Digest where
  words : List UInt32
  size : words.length = digestWords

instance : DecidableEq Digest := fun a b => decidable_of_iff (a.words = b.words) Digest.ext_iff.symm

def Digest.zero : Digest := ⟨List.replicate digestWords 0, List.length_replicate⟩

/-- `as_mut_words()[0] = word`. -/
def Digest.setFirst (digest : Digest) (word : UInt32) : Digest :=
  ⟨digest.words.set 0 word, List.length_set.trans digest.size⟩

/-- What the Poseidon2 suite and the recursion circuit give; a field element is its raw word, an extension element
the list of its subelements. -/
structure HashSuite where
  Rng : Type
  newRng : Rng
  mix : Rng → Digest → Rng
  randomElem : Rng → UInt32 × Rng
  randomExtElem : Rng → List UInt32 × Rng
  randomBits : Rng → ℕ → UInt32 × Rng
  hashElemSlice : List UInt32 → Digest
  hashExtElemSlice : List (List UInt32) → Digest
  hashPair : Digest → Digest → Digest
  proofSystemInfo : List UInt32
  circuitInfo : List UInt32
  mixSize : ℕ

inductive FriTranscriptRoundV1
  | one
  | three
  deriving DecidableEq

namespace FriTranscriptRoundV1

def index : FriTranscriptRoundV1 → Fin 3
  | one => ⟨0, Nat.zero_lt_succ 2⟩
  | three => ⟨2, Nat.lt_succ_self 2⟩

def topStart : FriTranscriptRoundV1 → ℕ
  | one => friRoundOneTopStart
  | three => friRoundThreeTopStart

def domain : FriTranscriptRoundV1 → ℕ
  | one => friRoundOneDomain
  | three => friRoundThreeDomain

def queryZeroOpeningStart : FriTranscriptRoundV1 → ℕ
  | one => queryZeroFriRoundOneStart
  | three => queryZeroFriRoundThreeStart

end FriTranscriptRoundV1

/-- `words.get(start..stop)`. -/
def getWords (words : List UInt32) (start stop : ℕ) : Option (List UInt32) :=
  if start ≤ stop ∧ stop ≤ words.length then some ((words.drop start).take (stop - start)) else none

/-- `&words[start..stop]`. -/
def sliceWords (words : List UInt32) (start stop : ℕ) : Result (List UInt32) :=
  context .outOfRange (getWords words start stop)

def digestFromWords (words : List UInt32) (start : ℕ) : Result Digest := do
  let stop ← context (directSealDerivationError "digest offset overflow") (checkedAdd start digestWords)
  let source ← context (directSealDerivationError "digest extends beyond the direct seal") (getWords words start stop)
  if size : source.length = digestWords then pure ⟨source, size⟩ else throw .outOfRange

abbrev Top := MerkleTree.Level Digest 5

/-- The loop that writes one digest of the array after the other. -/
def readDigest (words : List UInt32) (start : ℕ) (top : Top) (index : Fin 32) : Result Top := do
  let digest ← digestFromWords words (start + index.val * digestWords)
  pure (Function.update top index digest)

def merkleTopDigests (words : List UInt32) (start : ℕ) : Result Top := do
  let stop ← context (directSealDerivationError "FRI top offset overflow") (checkedAdd start merkleTopWords)
  ensure (¬words.length < stop) (directSealDerivationError "FRI top extends beyond the direct seal")
  (List.finRange 32).foldlM (readDigest words start) fun _ => Digest.zero

section Suite

variable (suite : HashSuite)

def hashFieldWords (words : List UInt32) : Digest := suite.hashElemSlice words

def merkleTopRoot (words : List UInt32) (start : ℕ) : Result Digest := do
  let top ← merkleTopDigests words start
  pure (MerkleTree.root suite.hashPair top)

def merkleTopBranch (top : Top) (index : Fin 32) : List (Bool × Digest) :=
  MerkleTree.branch suite.hashPair top index

def foldMerkleTopBranch (current : Digest) (branch : List (Bool × Digest)) : Digest :=
  MerkleTree.fold suite.hashPair current branch

structure DirectSealFriTranscriptV1 where
  beforeFri : suite.Rng
  roots : Fin 3 → Digest
  finalCoefficientsDigest : Digest

structure FriQ0SearchV1 where
  beforeRound : suite.Rng
  suffixRoots : List Digest
  finalCoefficientsDigest : Digest

def DirectSealFriTranscriptV1.fromWords (words : List UInt32) : Result (DirectSealFriTranscriptV1 suite) := do
  ensure (words.length = directSealWords ∧ ∀ word ∈ words, word < babyBearModulus)
    (directSealDerivationError "direct seal is not the exact reduced fixed-length transcript")
  let rng := suite.mix suite.newRng (suite.hashElemSlice suite.proofSystemInfo)
  let rng := suite.mix rng (suite.hashElemSlice suite.circuitInfo)
  let output ← sliceWords words 0 outputWithPo2End
  let rng := suite.mix rng (hashFieldWords suite output)
  let code ← merkleTopRoot suite words codeTopStart
  let rng := suite.mix rng code
  let data ← merkleTopRoot suite words dataTopStart
  let rng := suite.mix rng data
  let rng := (fun rng => (suite.randomElem rng).2)^[suite.mixSize] rng
  let accum ← merkleTopRoot suite words accumTopStart
  let rng := suite.mix rng accum
  let rng := (suite.randomExtElem rng).2
  let check ← merkleTopRoot suite words checkTopStart
  let rng := suite.mix rng check
  let rng := (suite.randomExtElem rng).2
  let coeffUWords ← sliceWords words coeffUStart friRoundOneTopStart
  ensure (coeffUWords.length % 4 = 0) (directSealDerivationError "coeff-U transcript shape is not exact")
  let rng := suite.mix rng (suite.hashExtElemSlice (coeffUWords.toChunks 4))
  let rng := (suite.randomExtElem rng).2
  let rootOne ← merkleTopRoot suite words friRoundOneTopStart
  let rootTwo ← merkleTopRoot suite words friRoundTwoTopStart
  let rootThree ← merkleTopRoot suite words friRoundThreeTopStart
  let finalCoefficients ← sliceWords words finalCoefficientsStart queriesStart
  pure ⟨rng, ![rootOne, rootTwo, rootThree], hashFieldWords suite finalCoefficients⟩

variable {suite}

/-- A committed root mixed in, and the challenge drawn after it. -/
def mixRoot (rng : suite.Rng) (root : Digest) : suite.Rng := (suite.randomExtElem (suite.mix rng root)).2

def FriQ0SearchV1.positionForRoot (search : FriQ0SearchV1 suite) (root : Digest) : ℕ :=
  let rng := mixRoot search.beforeRound root
  let rng := search.suffixRoots.foldl mixRoot rng
  let rng := suite.mix rng search.finalCoefficientsDigest
  (suite.randomBits rng (Nat.log2 friOriginalDomain)).1.toNat

namespace DirectSealFriTranscriptV1

def searchForRound (transcript : DirectSealFriTranscriptV1 suite) (round : FriTranscriptRoundV1) :
    FriQ0SearchV1 suite where
  beforeRound := ((List.ofFn transcript.roots).take round.index.val).foldl mixRoot transcript.beforeFri
  suffixRoots := (List.ofFn transcript.roots).drop (round.index.val + 1)
  finalCoefficientsDigest := transcript.finalCoefficientsDigest

def q0Position (transcript : DirectSealFriTranscriptV1 suite) : ℕ :=
  (transcript.searchForRound .one).positionForRoot (transcript.roots FriTranscriptRoundV1.one.index)

end DirectSealFriTranscriptV1

end Suite

section Ranges

variable {words : List UInt32} {start stop i : ℕ} {word : UInt32}

lemma getWords_set (h : i < start ∨ stop ≤ i) : getWords (words.set i word) start stop = getWords words start stop := by
  rw [getWords, getWords, List.length_set]
  obtain h | h := h
  · rw [List.drop_set_of_lt h]
  · by_cases hrange : start ≤ stop ∧ stop ≤ words.length
    · have hi : start ≤ i := hrange.1.trans h
      rw [if_pos hrange, if_pos hrange, List.drop_set, if_neg (by omega), List.take_set_of_le (by omega)]
    · rw [if_neg hrange, if_neg hrange]

lemma sliceWords_set (h : i < start ∨ stop ≤ i) :
    sliceWords (words.set i word) start stop = sliceWords words start stop := by
  rw [sliceWords, sliceWords, getWords_set h]

lemma digestFromWords_set (h : i < start ∨ start + digestWords ≤ i) :
    digestFromWords (words.set i word) start = digestFromWords words start := by
  rw [digestFromWords, digestFromWords]
  cases hstop : checkedAdd start digestWords with
  | none => rfl
  | some stop =>
    obtain ⟨-, rfl⟩ := checkedAdd_eq_some.mp hstop
    simp only [context, ok_bind]
    rw [getWords_set h]

lemma digestFromWords_ok {digest : Digest} : digestFromWords words start = .ok digest ↔
    start + digestWords < 2 ^ 64 ∧ getWords words start (start + digestWords) = some digest.words := by
  simp only [digestFromWords, bind_ok, context_ok, checkedAdd_eq_some]
  constructor
  · rintro ⟨_, ⟨hstop, rfl⟩, source, hsource, hdigest⟩
    by_cases hsize : source.length = digestWords
    · rw [dif_pos hsize, pure_ok] at hdigest
      subst hdigest
      exact ⟨hstop, hsource⟩
    · rw [dif_neg hsize] at hdigest
      cases hdigest
  · rintro ⟨hstop, hsource⟩
    exact ⟨_, ⟨hstop, rfl⟩, digest.words, hsource, by rw [dif_pos digest.size, pure_ok]⟩

lemma digestFromWords_setFirst {digest : Digest} (h : digestFromWords words start = .ok digest) :
    digestFromWords (words.set start word) start = .ok (digest.setFirst word) := by
  rw [digestFromWords_ok] at h ⊢
  obtain ⟨hstop, hsource⟩ := h
  rw [getWords, List.length_set] at *
  by_cases hrange : start ≤ start + digestWords ∧ start + digestWords ≤ words.length
  · rw [if_pos hrange, Option.some.injEq] at hsource ⊢
    refine ⟨hstop, ?_⟩
    rw [List.drop_set, if_neg (lt_irrefl start), Nat.sub_self, List.take_set, hsource]
    rfl
  · rw [if_neg hrange] at hsource
    cases hsource

lemma foldlM_readDigest_ok {indices : List (Fin 32)} (hnodup : indices.Nodup) {first top : Top} :
    indices.foldlM (readDigest words start) first = .ok top ↔
      (∀ index ∈ indices, digestFromWords words (start + index.val * digestWords) = .ok (top index)) ∧
        ∀ index, index ∉ indices → top index = first index := by
  induction indices generalizing first with
  | nil =>
    simp only [List.foldlM_nil, pure_ok, List.not_mem_nil, false_implies, implies_true, true_and, not_false_eq_true,
      true_implies]
    rw [eq_comm, funext_iff]
    exact Iff.rfl
  | cons index indices ih =>
    obtain ⟨hindex, hrest⟩ := List.nodup_cons.mp hnodup
    rw [List.forall_mem_cons]
    simp only [List.foldlM_cons, bind_ok, ih hrest, readDigest, pure_ok, List.mem_cons, not_or]
    constructor
    · rintro ⟨_, ⟨digest, hdigest, rfl⟩, hread, hkept⟩
      have hself := hkept index hindex
      rw [Function.update_self] at hself
      refine ⟨⟨hself ▸ hdigest, hread⟩, fun other hother => ?_⟩
      rw [hkept other hother.2, Function.update_of_ne hother.1]
    · rintro ⟨⟨hdigest, hread⟩, hkept⟩
      refine ⟨_, ⟨_, hdigest, rfl⟩, hread, fun other hother => ?_⟩
      by_cases hsame : other = index
      · rw [hsame, Function.update_self]
      · rw [Function.update_of_ne hsame, hkept other ⟨hsame, hother⟩]

lemma merkleTopDigests_ok {top : Top} : merkleTopDigests words start = .ok top ↔
    (start + merkleTopWords < 2 ^ 64 ∧ start + merkleTopWords ≤ words.length) ∧
      ∀ index : Fin 32, digestFromWords words (start + index.val * digestWords) = .ok (top index) := by
  simp only [merkleTopDigests, bind_ok, context_ok, checkedAdd_eq_some, exists_unit, ensure_ok,
    foldlM_readDigest_ok (List.nodup_finRange 32), List.mem_finRange, true_implies, not_true_eq_false, false_implies,
    implies_true, and_true, not_lt]
  constructor
  · rintro ⟨_, ⟨hstop, rfl⟩, hlength, hread⟩
    exact ⟨⟨hstop, hlength⟩, hread⟩
  · rintro ⟨⟨hstop, hlength⟩, hread⟩
    exact ⟨_, ⟨hstop, rfl⟩, hlength, hread⟩

lemma merkleTopDigests_set (h : i < start ∨ start + merkleTopWords ≤ i) :
    merkleTopDigests (words.set i word) start = merkleTopDigests words start := by
  have hread : readDigest (words.set i word) start = readDigest words start := by
    funext top index
    rw [readDigest, readDigest, digestFromWords_set]
    have hindex := index.isLt
    simp only [merkleTopWords, digestWords, merkleTopDigestCount] at h ⊢
    omega
  rw [merkleTopDigests, merkleTopDigests, List.length_set, hread]

lemma merkleTopDigests_setFirst {top : Top} {index : Fin 32} (h : merkleTopDigests words start = .ok top) :
    merkleTopDigests (words.set (start + index.val * digestWords) word) start =
      .ok (Function.update top index ((top index).setFirst word)) := by
  rw [merkleTopDigests_ok] at h ⊢
  obtain ⟨hrange, hread⟩ := h
  rw [List.length_set]
  refine ⟨hrange, fun other => ?_⟩
  by_cases hother : other = index
  · subst hother
    rw [Function.update_self]
    exact digestFromWords_setFirst (hread other)
  · rw [Function.update_of_ne hother, digestFromWords_set, hread]
    have hne : other.val ≠ index.val := fun heq => hother (Fin.ext heq)
    rw [digestWords]
    omega

variable {suite : HashSuite}

lemma merkleTopRoot_ok {root : Digest} : merkleTopRoot suite words start = .ok root ↔
    ∃ top, merkleTopDigests words start = .ok top ∧ root = MerkleTree.root suite.hashPair top := by
  simp only [merkleTopRoot, bind_ok, pure_ok, @eq_comm _ root]

lemma merkleTopRoot_set (h : i < start ∨ start + merkleTopWords ≤ i) :
    merkleTopRoot suite (words.set i word) start = merkleTopRoot suite words start := by
  rw [merkleTopRoot, merkleTopRoot, merkleTopDigests_set h]

/-- The generator before the first FRI root is mixed in. -/
def BeforeFri (suite : HashSuite) (words : List UInt32) (rng : suite.Rng) : Prop :=
  ∃ output code data accum check coeffUWords,
    sliceWords words 0 outputWithPo2End = .ok output ∧
    merkleTopRoot suite words codeTopStart = .ok code ∧
    merkleTopRoot suite words dataTopStart = .ok data ∧
    merkleTopRoot suite words accumTopStart = .ok accum ∧
    merkleTopRoot suite words checkTopStart = .ok check ∧
    sliceWords words coeffUStart friRoundOneTopStart = .ok coeffUWords ∧
    coeffUWords.length % 4 = 0 ∧
    rng = mixRoot (mixRoot (mixRoot ((fun rng => (suite.randomElem rng).2)^[suite.mixSize]
      (suite.mix (suite.mix (suite.mix (suite.mix (suite.mix suite.newRng (suite.hashElemSlice suite.proofSystemInfo))
        (suite.hashElemSlice suite.circuitInfo)) (hashFieldWords suite output)) code) data)) accum) check)
        (suite.hashExtElemSlice (coeffUWords.toChunks 4))

lemma beforeFri_set (h : friRoundOneTopStart ≤ i) {rng : suite.Rng} :
    BeforeFri suite (words.set i word) rng ↔ BeforeFri suite words rng := by
  rw [friRoundOneTopStart] at h
  have hslices : ∀ start stop, stop ≤ 3693 → sliceWords (words.set i word) start stop = sliceWords words start stop :=
    fun start stop hstop => sliceWords_set (.inr (hstop.trans h))
  have hroots : ∀ start, start + 256 ≤ 3693 →
      merkleTopRoot suite (words.set i word) start = merkleTopRoot suite words start :=
    fun start hstart => merkleTopRoot_set (.inr (hstart.trans h))
  rw [BeforeFri, BeforeFri, hslices _ _ (by decide), hslices _ _ (by decide), hroots _ (by decide),
    hroots _ (by decide), hroots _ (by decide), hroots _ (by decide)]

def friTopStart : Fin 3 → ℕ := ![friRoundOneTopStart, friRoundTwoTopStart, friRoundThreeTopStart]

def WordsReduced (words : List UInt32) : Prop := words.length = directSealWords ∧ ∀ word ∈ words, word < babyBearModulus

lemma fromWords_ok {t : DirectSealFriTranscriptV1 suite} : DirectSealFriTranscriptV1.fromWords suite words = .ok t ↔
    WordsReduced words ∧ BeforeFri suite words t.beforeFri ∧
      (∀ k, merkleTopRoot suite words (friTopStart k) = .ok (t.roots k)) ∧
      ∃ finalCoefficients, sliceWords words finalCoefficientsStart queriesStart = .ok finalCoefficients ∧
        t.finalCoefficientsDigest = hashFieldWords suite finalCoefficients := by
  simp only [DirectSealFriTranscriptV1.fromWords, bind_ok, exists_unit, ensure_ok, pure_ok, BeforeFri]
  constructor
  · rintro ⟨hreduced, output, houtput, code, hcode, data, hdata, accum, haccum, check, hcheck, coeffUWords, hcoeffU,
      hchunks, rootOne, hone, rootTwo, htwo, rootThree, hthree, finalCoefficients, hfinal, rfl⟩
    refine ⟨hreduced, ⟨output, code, data, accum, check, coeffUWords, houtput, hcode, hdata, haccum, hcheck, hcoeffU,
      hchunks, rfl⟩, ?_, finalCoefficients, hfinal, rfl⟩
    rw [Fin.forall_fin_succ, Fin.forall_fin_two]
    exact ⟨hone, htwo, hthree⟩
  · rintro ⟨hreduced, ⟨output, code, data, accum, check, coeffUWords, houtput, hcode, hdata, haccum, hcheck, hcoeffU,
      hchunks, hrng⟩, hroots, finalCoefficients, hfinal, hdigest⟩
    refine ⟨hreduced, output, houtput, code, hcode, data, hdata, accum, haccum, check, hcheck, coeffUWords, hcoeffU,
      hchunks, t.roots 0, hroots 0, t.roots 1, hroots 1, t.roots 2, hroots 2, finalCoefficients, hfinal, ?_⟩
    obtain ⟨rng, roots, digest⟩ := t
    have hthree : ![roots 0, roots 1, roots 2] = roots := by
      rw [funext_iff, Fin.forall_fin_succ, Fin.forall_fin_two]
      exact ⟨rfl, rfl, rfl⟩
    simp only at hrng hdigest
    rw [hthree, hdigest, hrng]
    rfl

end Ranges

end Eip0045.FriTranscript
