import Mathlib
import Eip0045.Fri.Search

/-! A word of a committed FRI root moved so that the transcript still draws the same query zero
(`derive_fri_top_transcript_mutation`). -/

namespace Eip0045.FriMutation

open Checked FriTranscript FriSearch

def reducedWordForAttempt (original attempt : UInt32) : UInt32 :=
  ((original.toUInt64 + attempt.toUInt64) % babyBearModulus.toUInt64).toUInt32

section Suite

variable (suite : HashSuite)

/-- The candidate of an attempt keeps the query. -/
def keepsPosition (search : FriQ0SearchV1 suite) (originalTopDigest : FriTranscript.Digest)
    (branch : List (Bool × FriTranscript.Digest)) (originalWord : UInt32) (targetQ0Position : ℕ) (attempt : UInt32) : Bool :=
  let candidateTopDigest := originalTopDigest.setFirst (reducedWordForAttempt originalWord attempt)
  let candidateRoot := foldMerkleTopBranch suite candidateTopDigest branch
  search.positionForRoot candidateRoot == targetQ0Position

/-- What a finished run of the workers has found. -/
def FindQ0PreservingTopWordAttempt (available : Option ℕ+) (search : FriQ0SearchV1 suite)
    (originalTopDigest : FriTranscript.Digest) (branch : List (Bool × FriTranscript.Digest)) (originalWord : UInt32)
    (targetQ0Position : ℕ) (found : Result UInt32) : Prop :=
  ∃ s : State (workerCount available),
    Reaches (keepsPosition suite search originalTopDigest branch originalWord targetQ0Position) s ∧ s.Finished ∧
      s.result = found

/-- One answer of the search for each call, under whatever schedule the call had. -/
structure Search (available : Option ℕ+) where
  find : FriQ0SearchV1 suite → FriTranscript.Digest → List (Bool × FriTranscript.Digest) → UInt32 → ℕ → Result UInt32
  finished : ∀ search digest branch word target,
    FindQ0PreservingTopWordAttempt suite available search digest branch word target
      (find search digest branch word target)

/-- Where the climb to the committed level ends. -/
structure Climbed where
  current : FriTranscript.Digest
  merkleIndex : ℕ
  siblingStart : ℕ
  below : merkleIndex < 2 * merkleTopDigestCount

def climb (words : List UInt32) (current : FriTranscript.Digest) (merkleIndex siblingStart : ℕ) : Result Climbed :=
  if below : merkleIndex < 2 * merkleTopDigestCount then .ok ⟨current, merkleIndex, siblingStart, below⟩
  else do
    let sibling ← digestFromWords words siblingStart
    let next := if merkleIndex % 2 = 1 then suite.hashPair sibling current else suite.hashPair current sibling
    climb words next (merkleIndex / 2) (siblingStart + digestWords)
termination_by merkleIndex
decreasing_by
  rw [merkleTopDigestCount] at below
  omega

lemma Climbed.topIndex_lt (c : Climbed) : c.merkleIndex - merkleTopDigestCount < 32 := by
  have h := c.below
  rw [merkleTopDigestCount] at h ⊢
  omega

def Climbed.topIndex (c : Climbed) : Fin 32 := ⟨c.merkleIndex - merkleTopDigestCount, c.topIndex_lt⟩

def authenticateQueryZeroFriOpening (words : List UInt32) (round : FriTranscriptRoundV1) (q0Position : ℕ) :
    Result Unit := do
  let domain := round.domain
  let group := q0Position % domain
  let openingStart := round.queryZeroOpeningStart
  let leafEnd := openingStart + friLeafWords
  let leaf ← sliceWords words openingStart leafEnd
  let climbed ← climb suite words (hashFieldWords suite leaf) (domain + group) leafEnd
  let expectedSiblingEnd := openingStart + friLeafWords + (Nat.log2 domain - 5) * digestWords
  ensure (climbed.siblingStart = expectedSiblingEnd)
    (directSealDerivationError "query-zero FRI branch length differs from the fixed layout")
  let top ← merkleTopDigests words round.topStart
  ensure (climbed.current = top climbed.topIndex)
    (directSealDerivationError "reconstructed Fiat-Shamir query zero does not authenticate its FRI opening")

variable {suite} {available : Option ℕ+}

def q0TopIndex (round : FriTranscriptRoundV1) (q0Position : ℕ) : ℕ :=
  let domain := round.domain
  let q0Group := q0Position % domain
  q0Group / (domain / merkleTopDigestCount)

lemma next_lt (index : ℕ) : (index + 1) % merkleTopDigestCount < 32 := Nat.mod_lt _ (by decide)

def mutationTopIndex (round : FriTranscriptRoundV1) (q0Position : ℕ) : Fin 32 :=
  ⟨(q0TopIndex round q0Position + 1) % merkleTopDigestCount, next_lt _⟩

def mutationWordIndex (round : FriTranscriptRoundV1) (q0Position : ℕ) : ℕ :=
  round.topStart + (mutationTopIndex round q0Position).val * digestWords

def deriveFriTopTranscriptMutation (search : Search suite available) (words : List UInt32)
    (round : FriTranscriptRoundV1) : Result (List UInt32) := do
  let transcript ← DirectSealFriTranscriptV1.fromWords suite words
  let q0Position := transcript.q0Position
  authenticateQueryZeroFriOpening suite words round q0Position
  let index := mutationTopIndex round q0Position
  let top ← merkleTopDigests words round.topStart
  let branch := merkleTopBranch suite top index
  let originalRoot := foldMerkleTopBranch suite (top index) branch
  ensure (originalRoot = transcript.roots round.index)
    (directSealDerivationError "FRI top branch does not reconstruct the committed root")
  let originalWord ← item words (mutationWordIndex round q0Position)
  let attempt ← search.find (transcript.searchForRound round) (top index) branch originalWord q0Position
  pure (words.set (mutationWordIndex round q0Position) (reducedWordForAttempt originalWord attempt))

lemma reducedWordForAttempt_toNat (original attempt : UInt32) :
    (reducedWordForAttempt original attempt).toNat = (original.toNat + attempt.toNat) % babyBearModulus.toNat := by
  have hmodulus : babyBearModulus.toNat = 2013265921 := by decide
  have hlt : original.toNat + attempt.toNat < 2 ^ 64 :=
    Nat.add_lt_add original.toNat_lt attempt.toNat_lt |>.trans (by decide)
  have hsum := Nat.mod_lt (original.toNat + attempt.toNat) (by decide : 0 < 2013265921)
  rw [reducedWordForAttempt, UInt64.toNat_toUInt32, UInt64.toNat_mod, UInt64.toNat_add, UInt32.toNat_toUInt64,
    UInt32.toNat_toUInt64, UInt32.toNat_toUInt64, hmodulus, Nat.mod_eq_of_lt hlt, Nat.mod_eq_of_lt (by omega)]

lemma reducedWordForAttempt_lt (original attempt : UInt32) :
    reducedWordForAttempt original attempt < babyBearModulus := by
  rw [UInt32.lt_iff_toNat_lt, reducedWordForAttempt_toNat]
  exact Nat.mod_lt _ (by decide)

lemma reducedWordForAttempt_ne {original attempt : UInt32} (ho : original < babyBearModulus) (ha : 1 ≤ attempt)
    (hmax : attempt ≤ maxQ0GrindAttempts) : reducedWordForAttempt original attempt ≠ original := by
  intro heq
  have hnat := reducedWordForAttempt_toNat original attempt
  have hmodulus : babyBearModulus.toNat = 2013265921 := by decide
  rw [UInt32.lt_iff_toNat_lt, hmodulus] at ho
  rw [UInt32.le_iff_toNat_le, UInt32.toNat_one] at ha
  rw [UInt32.le_iff_toNat_le, max_toNat] at hmax
  rw [heq, hmodulus] at hnat
  omega

section Climb

variable {words : List UInt32} {i : ℕ} {word : UInt32}

lemma climb_set {current : FriTranscript.Digest} {merkleIndex siblingStart : ℕ} (h : i < siblingStart) :
    climb suite (words.set i word) current merkleIndex siblingStart = climb suite words current merkleIndex siblingStart := by
  induction merkleIndex using Nat.strong_induction_on generalizing current siblingStart with
  | _ merkleIndex ih =>
    conv_lhs => rw [climb]
    conv_rhs => rw [climb]
    by_cases hbelow : merkleIndex < 2 * merkleTopDigestCount
    · rw [dif_pos hbelow, dif_pos hbelow]
    · rw [dif_neg hbelow, dif_neg hbelow, digestFromWords_set (.inl h)]
      have hless : merkleIndex / 2 < merkleIndex := by
        rw [merkleTopDigestCount] at hbelow
        omega
      simp only [ih _ hless (Nat.lt_add_right digestWords h)]

lemma climb_merkleIndex (steps : ℕ) {current : FriTranscript.Digest} {merkleIndex siblingStart : ℕ} {c : Climbed}
    (hlow : 2 ^ (5 + steps) ≤ merkleIndex) (hhigh : merkleIndex < 2 ^ (6 + steps))
    (h : climb suite words current merkleIndex siblingStart = .ok c) : c.merkleIndex = merkleIndex / 2 ^ steps := by
  induction steps generalizing current merkleIndex siblingStart with
  | zero =>
    rw [climb, dif_pos (by rw [merkleTopDigestCount]; omega)] at h
    cases h
    simp
  | succ steps ih =>
    have hpow : 2 ^ (6 + steps) = 2 * 2 ^ (5 + steps) := by ring
    have hpow' : 2 ^ (6 + (steps + 1)) = 2 * 2 ^ (6 + steps) := by ring
    have hpos : 0 < 2 ^ steps := Nat.two_pow_pos steps
    have hsplit : 2 ^ (5 + steps) = 32 * 2 ^ steps := by ring
    rw [← Nat.add_assoc, Nat.add_right_comm] at hlow
    change 2 ^ (6 + steps) ≤ merkleIndex at hlow
    rw [climb, dif_neg (by rw [merkleTopDigestCount]; omega)] at h
    obtain ⟨sibling, -, h⟩ := bind_ok.mp h
    rw [ih (by omega) (by omega) h, Nat.div_div_eq_div_mul, pow_succ']

lemma climb_topIndex {round : FriTranscriptRoundV1} {q0Position siblingStart : ℕ} {current : FriTranscript.Digest}
    {c : Climbed}
    (h : climb suite words current (round.domain + q0Position % round.domain) siblingStart = .ok c) :
    c.topIndex.val = q0TopIndex round q0Position := by
  cases round with
  | one =>
    have hgroup : q0Position % 65536 < 65536 := Nat.mod_lt _ (by decide)
    have hindex := climb_merkleIndex 11 (by
      change 65536 ≤ 65536 + q0Position % 65536
      omega) (by
      change 65536 + q0Position % 65536 < 131072
      omega) h
    change c.merkleIndex - 32 = q0Position % 65536 / 2048
    change c.merkleIndex = (65536 + q0Position % 65536) / 2048 at hindex
    omega
  | three =>
    have hgroup : q0Position % 256 < 256 := Nat.mod_lt _ (by decide)
    have hindex := climb_merkleIndex 3 (by
      change 256 ≤ 256 + q0Position % 256
      omega) (by
      change 256 + q0Position % 256 < 512
      omega) h
    change c.merkleIndex - 32 = q0Position % 256 / 8
    change c.merkleIndex = (256 + q0Position % 256) / 8 at hindex
    omega

lemma q0TopIndex_lt (round : FriTranscriptRoundV1) (q0Position : ℕ) : q0TopIndex round q0Position < 32 := by
  cases round with
  | one =>
    change q0Position % 65536 / 2048 < 32
    omega
  | three =>
    change q0Position % 256 / 8 < 32
    omega

lemma mutationTopIndex_ne (round : FriTranscriptRoundV1) (q0Position : ℕ) :
    (mutationTopIndex round q0Position).val ≠ q0TopIndex round q0Position := by
  have hlt := q0TopIndex_lt round q0Position
  change (q0TopIndex round q0Position + 1) % 32 ≠ _
  omega

lemma mutationWordIndex_mem (round : FriTranscriptRoundV1) (q0Position : ℕ) :
    round.topStart ≤ mutationWordIndex round q0Position ∧
      mutationWordIndex round q0Position < round.topStart + merkleTopWords := by
  have hindex := (mutationTopIndex round q0Position).isLt
  rw [mutationWordIndex, merkleTopWords, digestWords, merkleTopDigestCount]
  omega

lemma mutationWordIndex_lt (round : FriTranscriptRoundV1) (q0Position : ℕ) :
    mutationWordIndex round q0Position < finalCoefficientsStart := by
  have hmem := mutationWordIndex_mem round q0Position
  cases round with
  | one => exact hmem.2.trans (by decide)
  | three => exact hmem.2.trans_le (by decide)

lemma authenticate_set {round : FriTranscriptRoundV1} {q0Position : ℕ} (word : UInt32)
    (h : authenticateQueryZeroFriOpening suite words round q0Position = .ok ()) :
    authenticateQueryZeroFriOpening suite (words.set (mutationWordIndex round q0Position) word) round q0Position =
      .ok () := by
  have hbefore : mutationWordIndex round q0Position < round.queryZeroOpeningStart := by
    refine (mutationWordIndex_lt round q0Position).trans ?_
    cases round with
    | one => decide
    | three => decide
  simp only [authenticateQueryZeroFriOpening, bind_ok, exists_unit, ensure_ok] at h ⊢
  obtain ⟨leaf, hleaf, climbed, hclimbed, hend, top, htop, hcurrent⟩ := h
  refine ⟨leaf, ?_, climbed, ?_, hend, _, merkleTopDigests_setFirst htop, ?_⟩
  · rw [sliceWords_set (.inl hbefore), hleaf]
  · rw [climb_set (Nat.lt_add_right friLeafWords hbefore), hclimbed]
  · have hne : climbed.topIndex ≠ mutationTopIndex round q0Position := by
      intro heq
      apply mutationTopIndex_ne round q0Position
      rw [← heq, climb_topIndex hclimbed]
    rw [Function.update_of_ne hne, hcurrent]

end Climb

lemma q0Position_eq (transcript : DirectSealFriTranscriptV1 suite) (round : FriTranscriptRoundV1) :
    transcript.q0Position = (transcript.searchForRound round).positionForRoot (transcript.roots round.index) := by
  cases round with
  | one => rfl
  | three => rfl

/-- The transcript with another root committed for one round. -/
def withRoot (transcript : DirectSealFriTranscriptV1 suite) (round : FriTranscriptRoundV1)
    (root : FriTranscript.Digest) : DirectSealFriTranscriptV1 suite :=
  { transcript with roots := Function.update transcript.roots round.index root }

lemma searchForRound_withRoot (transcript : DirectSealFriTranscriptV1 suite) (round : FriTranscriptRoundV1)
    (root : FriTranscript.Digest) :
    (withRoot transcript round root).searchForRound round = transcript.searchForRound round := by
  cases round with
  | one => rfl
  | three => rfl

lemma friTopStart_index (round : FriTranscriptRoundV1) : friTopStart round.index = round.topStart := by
  cases round <;> rfl

lemma fromWords_set {words : List UInt32} {word : UInt32} {round : FriTranscriptRoundV1} {index : Fin 32}
    {transcript : DirectSealFriTranscriptV1 suite} {top : Top} (hword : word < babyBearModulus)
    (h : DirectSealFriTranscriptV1.fromWords suite words = .ok transcript)
    (htop : merkleTopDigests words round.topStart = .ok top) :
    DirectSealFriTranscriptV1.fromWords suite (words.set (round.topStart + index.val * digestWords) word) =
      .ok (withRoot transcript round
        (MerkleTree.root suite.hashPair (Function.update top index ((top index).setFirst word)))) := by
  rw [fromWords_ok] at h ⊢
  obtain ⟨⟨hlength, hreduced⟩, hbefore, hroots, finalCoefficients, hfinal, hdigest⟩ := h
  have hindex := index.isLt
  refine ⟨⟨by rw [List.length_set, hlength], ?_⟩, ?_, ?_, finalCoefficients, ?_, hdigest⟩
  · intro other hother
    obtain hother | rfl := List.mem_or_eq_of_mem_set hother
    · exact hreduced other hother
    · exact hword
  · refine (beforeFri_set ?_).mpr hbefore
    cases round with
    | one => exact Nat.le_add_right _ _
    | three =>
      change 3693 ≤ 4205 + _
      omega
  · intro k
    rw [withRoot]
    dsimp only
    by_cases hk : k = round.index
    · subst hk
      rw [Function.update_self, friTopStart_index, merkleTopRoot_ok]
      exact ⟨_, merkleTopDigests_setFirst htop, rfl⟩
    · rw [Function.update_of_ne hk, merkleTopRoot_set, hroots]
      rw [merkleTopWords, digestWords, merkleTopDigestCount]
      have hstart := friTopStart_index round
      revert k
      rw [Fin.forall_fin_succ, Fin.forall_fin_two]
      cases round with
      | one =>
        refine ⟨fun hk => absurd rfl hk, fun _ => .inl ?_, fun _ => .inl ?_⟩
        · change 3693 + index.val * 8 < 3949
          omega
        · change 3693 + index.val * 8 < 4205
          omega
      | three =>
        refine ⟨fun _ => .inr ?_, fun _ => .inr ?_, fun hk => absurd rfl hk⟩
        · change 3693 + 256 ≤ 4205 + index.val * 8
          omega
        · change 3949 + 256 ≤ 4205 + index.val * 8
          omega
  · rw [sliceWords_set (.inl ?_), hfinal]
    cases round with
    | one =>
      change 3693 + index.val * 8 < 4461
      omega
    | three =>
      change 4205 + index.val * 8 < 4461
      omega

lemma committed_root {words : List UInt32} {round : FriTranscriptRoundV1}
    {transcript : DirectSealFriTranscriptV1 suite} {top : Top}
    (h : DirectSealFriTranscriptV1.fromWords suite words = .ok transcript)
    (htop : merkleTopDigests words round.topStart = .ok top) (index : Fin 32) :
    foldMerkleTopBranch suite (top index) (merkleTopBranch suite top index) = transcript.roots round.index := by
  obtain ⟨-, -, hroots, -⟩ := fromWords_ok.mp h
  obtain ⟨top', htop', hroot⟩ := merkleTopRoot_ok.mp (friTopStart_index round ▸ hroots round.index)
  rw [htop, Except.ok.injEq] at htop'
  subst htop'
  rw [hroot]
  exact MerkleTree.fold_branch suite.hashPair top index

lemma root_update (top : Top) (index : Fin 32) (word : UInt32) :
    MerkleTree.root suite.hashPair (Function.update top index ((top index).setFirst word)) =
      foldMerkleTopBranch suite ((top index).setFirst word) (merkleTopBranch suite top index) :=
  (MerkleTree.fold_branch_update suite.hashPair top index _).symm

lemma Search.find_ok (search : Search suite available) {state : FriQ0SearchV1 suite} {digest : FriTranscript.Digest}
    {branch : List (Bool × FriTranscript.Digest)} {word : UInt32} {target : ℕ} {attempt : UInt32}
    (h : search.find state digest branch word target = .ok attempt) :
    Matches (keepsPosition suite state digest branch word target) attempt := by
  obtain ⟨s, hreaches, hfinished, hresult⟩ := search.finished state digest branch word target
  rw [h] at hresult
  exact ((result_ok (workerCount_pos available) (workerCount_le available) hreaches hfinished).mp hresult).1

lemma search_nonempty (suite : HashSuite) (available : Option ℕ+) : Nonempty (Search suite available) := by
  have hfinds : ∀ state digest branch word target, ∃ found,
      FindQ0PreservingTopWordAttempt suite available state digest branch word target found := by
    intro state digest branch word target
    obtain ⟨s, hreaches, hfinished⟩ := exists_finished (workerCount_le available)
      (.refl : Reaches (keepsPosition suite state digest branch word target) (State.start (workerCount available)))
    exact ⟨s.result, s, hreaches, hfinished, rfl⟩
  choose find hfind using hfinds
  exact ⟨⟨find, hfind⟩⟩

/-- What the workers answer, and that they answer, under every schedule. -/
structure SearchExact (workers : ℕ) (accepts : UInt32 → Bool) : Prop where
  least : ∀ s : State workers, Reaches accepts s → s.Finished → ∀ attempt,
    s.result = .ok attempt ↔ Matches accepts attempt ∧ ∀ a, Matches accepts a → attempt ≤ a
  none : ∀ s : State workers, Reaches accepts s → s.Finished →
    ((∃ e, s.result = .error e) ↔ ∀ a, ¬Matches accepts a)
  bounded : ∀ s : State workers, Reaches accepts s → ∀ lane,
    (s.lanes lane).attempt.toNat ≤ maxQ0GrindAttempts.toNat + workers
  advances : ∀ s : State workers, Reaches accepts s → ∀ lane, (s.lanes lane).phase = .testing →
    ((s.lanes lane).attempt + UInt32.ofNat workers).toNat = (s.lanes lane).attempt.toNat + workers
  proceeds : ∀ s : State workers, Reaches accepts s → s.Finished ∨ ∃ s', Step accepts s s'
  ends : ∀ run : ℕ → State workers, run 0 = State.start workers → ¬∀ n, Step accepts (run n) (run (n + 1))

lemma search_exact {workers : ℕ} (hpos : 0 < workers) (hworkers : workers ≤ 16) (accepts : UInt32 → Bool) :
    SearchExact workers accepts where
  least _ h hfinished _ := result_ok hpos hworkers h hfinished
  none s h hfinished := by
    simp only [result_error hpos hworkers h hfinished, exists_and_left, exists_eq, and_true]
  bounded s h lane := ((Sound.reaches hworkers h).lanes lane).bounded
  advances s h lane hphase :=
    add_stride_toNat hworkers (((Sound.reaches hworkers h).lanes lane).within (.inl hphase))
  proceeds s h := or_iff_not_imp_left.mpr (exists_step (Sound.reaches hworkers h))
  ends := no_endless_run hworkers

/-- One word, the first of a digest of the round's top other than the one over query zero, is another reduced word. -/
def OneWordMoved (round : FriTranscriptRoundV1) (q0Position : ℕ) (words mutated : List UInt32) : Prop :=
  ∃ (index : Fin 32) (original word : UInt32), index.val ≠ q0TopIndex round q0Position ∧
    words[round.topStart + index.val * digestWords]? = some original ∧ word ≠ original ∧ word < babyBearModulus ∧
    mutated = words.set (round.topStart + index.val * digestWords) word

/-- What a transcript drawn from the moved words shares with the one before. -/
structure TranscriptKept (round : FriTranscriptRoundV1) (before after : DirectSealFriTranscriptV1 suite) : Prop where
  q0Position : after.q0Position = before.q0Position
  roots : ∀ k, k ≠ round.index → after.roots k = before.roots k
  finalCoefficientsDigest : after.finalCoefficientsDigest = before.finalCoefficientsDigest

lemma transcript_kept {transcript : DirectSealFriTranscriptV1 suite} {round : FriTranscriptRoundV1} {top : Top}
    {index : Fin 32} {original attempt : UInt32}
    (h : keepsPosition suite (transcript.searchForRound round) (top index) (merkleTopBranch suite top index) original
      transcript.q0Position attempt = true) :
    TranscriptKept round transcript (withRoot transcript round (MerkleTree.root suite.hashPair
      (Function.update top index ((top index).setFirst (reducedWordForAttempt original attempt))))) where
  q0Position := by
    rw [q0Position_eq _ round, searchForRound_withRoot, root_update]
    rw [withRoot]
    dsimp only
    rw [Function.update_self]
    exact beq_iff_eq.mp h
  roots _ hk := Function.update_of_ne hk _ _
  finalCoefficientsDigest := rfl

def QueryZeroKept (suite : HashSuite) (round : FriTranscriptRoundV1) (words mutated : List UInt32) : Prop :=
  ∃ before after : DirectSealFriTranscriptV1 suite,
    DirectSealFriTranscriptV1.fromWords suite words = .ok before ∧
    DirectSealFriTranscriptV1.fromWords suite mutated = .ok after ∧
    OneWordMoved round before.q0Position words mutated ∧ TranscriptKept round before after ∧
    authenticateQueryZeroFriOpening suite mutated round after.q0Position = .ok ()

lemma derive_ok (search : Search suite available) {words mutated : List UInt32} {round : FriTranscriptRoundV1}
    (h : deriveFriTopTranscriptMutation search words round = .ok mutated) :
    QueryZeroKept suite round words mutated := by
  simp only [deriveFriTopTranscriptMutation, bind_ok, exists_unit, ensure_ok, item_ok, pure_ok] at h
  obtain ⟨transcript, htranscript, hauthentic, top, htop, -, original, horiginal, attempt, hfind, rfl⟩ := h
  obtain ⟨hone, hmax, hkeeps⟩ := search.find_ok hfind
  have hreduced : ∀ word ∈ words, word < babyBearModulus := (fromWords_ok.mp htranscript).1.2
  have hword := reducedWordForAttempt_lt original attempt
  have hopened := authenticate_set (reducedWordForAttempt original attempt) hauthentic
  have hkept := transcript_kept hkeeps
  refine ⟨transcript, _, htranscript, fromWords_set hword htranscript htop, ?_, hkept, ?_⟩
  · refine ⟨_, original, _, mutationTopIndex_ne round _, horiginal, ?_, hword, rfl⟩
    exact reducedWordForAttempt_ne (hreduced _ (List.mem_of_getElem? horiginal)) hone hmax
  · rw [hkept.q0Position]
    exact hopened

/-- The search answers the least attempt under every schedule, and the word that it moves is not seen by query zero;
the branch of each top digest leads to the committed root. -/
theorem query_zero_search_exact (suite : HashSuite) (available : Option ℕ+) :
    (∀ search digest branch word target,
      SearchExact (workerCount available) (keepsPosition suite search digest branch word target)) ∧
    Nonempty (Search suite available) ∧
    (∀ (search : Search suite available) words round mutated,
      deriveFriTopTranscriptMutation search words round = .ok mutated → QueryZeroKept suite round words mutated) ∧
    (∀ (top : Top) index, foldMerkleTopBranch suite (top index) (merkleTopBranch suite top index) =
      MerkleTree.root suite.hashPair top) ∧
    ∀ words (round : FriTranscriptRoundV1) transcript top,
      DirectSealFriTranscriptV1.fromWords suite words = .ok transcript →
      merkleTopDigests words round.topStart = .ok top → ∀ index,
        foldMerkleTopBranch suite (top index) (merkleTopBranch suite top index) = transcript.roots round.index :=
  ⟨fun _ _ _ _ _ => search_exact (workerCount_pos available) (workerCount_le available) _,
    search_nonempty suite available, fun search _ _ _ h => derive_ok search h, MerkleTree.fold_branch suite.hashPair,
    fun _ _ _ _ h htop index => committed_root h htop index⟩

end Suite

end Eip0045.FriMutation
