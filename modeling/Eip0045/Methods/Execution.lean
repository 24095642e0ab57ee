import Mathlib
import Eip0045.Library.Stateful
import Eip0045.Methods.InputHeader

/-! The guest program: what it reads, verifies and commits. -/

namespace Eip0045.Methods

open Bytes Checked Stateful

section Environment

/-- A claim digest with the control root that it is verified under. -/
structure Assumption where
  claim : Digest
  controlRoot : Digest

/-- What the guest takes from its virtual machine: the hash of journals, the digest of the successful
claim for an image and a journal digest, the pinned control root, and for the assumptions recorded so
far whether a next one is resolved. -/
structure Machine where
  journalDigest : Bytes → Digest
  okClaim : Digest → Digest → Digest
  allowedControlRoot : Digest
  resolves : List Assumption → Assumption → Bool

/-- Why a run stops without success. -/
inductive Halt
  | exit
  | inputExhausted
  | unverified
  | sliceIndex
  deriving DecidableEq

structure GuestState where
  input : Bytes
  journal : Bytes
  assumptions : List Assumption

abbrev Guest := Stateful Halt GuestState

/-- The range of a slice, or the index panic. -/
def inRange (b : Bytes) (start stop : ℕ) : Guest Bytes :=
  lift (context .sliceIndex (getRange b start stop))

/-- `env::read_slice(&mut b[start..stop])`. -/
def readSlice (b : Bytes) (start stop : ℕ) : Guest Bytes := do
  let destination ← inRange b start stop
  let s ← get
  lift (ensure (destination.length ≤ s.input.length) .inputExhausted)
  modify fun s => { s with input := s.input.drop destination.length }
  pure (overwrite b start (s.input.take destination.length))

/-- `env::commit_slice(&b[start..stop])`. -/
def commitSlice (b : Bytes) (start stop : ℕ) : Guest Unit := do
  let source ← inRange b start stop
  modify fun s => { s with journal := s.journal ++ source }

/-- `env::verify_assumption(..).unwrap()`. -/
def verifyAssumption (m : Machine) (claim controlRoot : Digest) : Guest Unit := do
  let s ← get
  lift (ensure (m.resolves s.assumptions ⟨claim, controlRoot⟩) .unverified)
  modify fun s => { s with assumptions := s.assumptions ++ [⟨claim, controlRoot⟩] }

/-- `env::verify(..).unwrap()`: the successful claim under the zero root. -/
def verify (m : Machine) (imageId : Digest) (journal : Bytes) : Guest Unit :=
  verifyAssumption m (m.okClaim imageId (m.journalDigest journal)) (ByteArr.zero 32)

end Environment

section Program

def requireWorkload (h : GuestInputHeader) : Guest Unit :=
  lift (ensure (workloadResult h.workloadSeed h.workloadIterations = h.expectedWorkloadResult) .exit)

lemma nextStatementChunkLength_pos {remaining : ℕ} (h : remaining ≠ 0) :
    0 < nextStatementChunkLength remaining := by
  rw [nextStatementChunkLength]
  split
  · omega
  · decide

lemma nextStatementChunkLength_le (remaining : ℕ) :
    nextStatementChunkLength remaining ≤ remaining ∧
      nextStatementChunkLength remaining ≤ guestStatementChunkBytes := by
  rw [nextStatementChunkLength]
  split
  · omega
  · omega

/-- The streaming loop of `run_plain`. -/
def streamStatement (statementChunk : Bytes) (remaining : ℕ) : Guest Unit :=
  if remaining = 0 then pure ()
  else do
    let chunkLength := nextStatementChunkLength remaining
    let statementChunk ← readSlice statementChunk 0 chunkLength
    commitSlice statementChunk 0 chunkLength
    streamStatement statementChunk (remaining - chunkLength)
  termination_by remaining
  decreasing_by
    have hpos := nextStatementChunkLength_pos ‹remaining ≠ 0›
    omega

def runPlain (h : GuestInputHeader) : Guest Unit := do
  requireWorkload h
  streamStatement (List.replicate guestStatementChunkBytes 0) h.statementLength.toNat

/-- The read loop of `run_assumption`. -/
def readStatement (statement : Bytes) (offset remaining : ℕ) : Guest Bytes :=
  if remaining = 0 then pure statement
  else do
    let chunkLength := nextStatementChunkLength remaining
    let statement ← readSlice statement offset (offset + chunkLength)
    readStatement statement (offset + chunkLength) (remaining - chunkLength)
  termination_by remaining
  decreasing_by
    have hpos := nextStatementChunkLength_pos ‹remaining ≠ 0›
    omega

/-- The commit loop of `run_assumption`. A count past the length would be an underflow of
`statement_length - committed`. -/
def commitStatement (statement : Bytes) (statementLength committed : ℕ) : Guest Unit :=
  if committed = statementLength then pure ()
  else if committed < statementLength then do
    let chunkLength := nextStatementChunkLength (statementLength - committed)
    commitSlice statement committed (committed + chunkLength)
    commitStatement statement statementLength (committed + chunkLength)
  else throw .sliceIndex
  termination_by statementLength - committed
  decreasing_by
    have hpos := @nextStatementChunkLength_pos (statementLength - committed) (by omega)
    omega

def verifyMode (m : Machine) (h : GuestInputHeader) (statement : Bytes) : Guest Unit :=
  match h.mode with
  | .plain => throw .exit
  | .verifyAssumptionZeroRoot => do
    let journal ← inRange statement 0 h.statementLength.toNat
    verify m h.assumptionImageId journal
  | .verifyAssumptionExplicitRoot | .verifyAssumptionExplicitRootTwice => do
    let journal ← inRange statement 0 h.statementLength.toNat
    let claimDigest := m.okClaim h.assumptionImageId (m.journalDigest journal)
    verifyAssumption m claimDigest m.allowedControlRoot
    if h.mode = .verifyAssumptionExplicitRootTwice then
      verifyAssumption m claimDigest m.allowedControlRoot

def runAssumption (m : Machine) (h : GuestInputHeader) : Guest Unit := do
  let statementLength := h.statementLength.toNat
  let statement ← readStatement (List.replicate maxStatementBytes 0) 0 statementLength
  verifyMode m h statement
  requireWorkload h
  commitStatement statement statementLength 0

def main (m : Machine) : Guest Unit := do
  let headerBytes ← readSlice (List.replicate guestInputHeaderBytes 0) 0 guestInputHeaderBytes
  match decode headerBytes with
  | .ok header =>
    match header.mode with
    | .plain => runPlain header
    | .verifyAssumptionZeroRoot
    | .verifyAssumptionExplicitRoot
    | .verifyAssumptionExplicitRootTwice => runAssumption m header
  | .error _ => throw .exit

def initial (input : Bytes) : GuestState := ⟨input, [], []⟩

end Program

section Effects

/-- What a part of a run consumes, commits and records. -/
structure Effect (s s' : GuestState) (consumed committed : Bytes) (recorded : List Assumption) : Prop where
  input : s.input = consumed ++ s'.input
  journal : s'.journal = s.journal ++ committed
  assumptions : s'.assumptions = s.assumptions ++ recorded

variable {s s' s'' : GuestState} {b : Bytes} {start stop : ℕ}

lemma Effect.refl (s : GuestState) : Effect s s [] [] [] :=
  ⟨rfl, (List.append_nil _).symm, (List.append_nil _).symm⟩

lemma Effect.trans {i i' j j' : Bytes} {r r' : List Assumption} (h : Effect s s' i j r)
    (h' : Effect s' s'' i' j' r') : Effect s s'' (i ++ i') (j ++ j') (r ++ r') := by
  refine ⟨?_, ?_, ?_⟩
  · rw [h.input, h'.input, List.append_assoc]
  · rw [h'.journal, h.journal, List.append_assoc]
  · rw [h'.assumptions, h.assumptions, List.append_assoc]

lemma inRange_eq (hstart : start ≤ stop) (hstop : stop ≤ b.length) :
    inRange b start stop = pure (slice b start (stop - start)) := by
  rw [inRange, getRange, if_pos ⟨hstart, hstop⟩]
  rfl

lemma readSlice_ends (hstart : start ≤ stop) (hstop : stop ≤ b.length) :
    Ends (readSlice b start stop) s
      (fun b' s' => ∃ part : Bytes, part.length = stop - start ∧ b' = overwrite b start part ∧
        Effect s s' part [] [])
      (fun e s' => e = .inputExhausted ∧ s' = s) := by
  have hlength : (slice b start (stop - start)).length = stop - start := slice_length (by omega)
  rw [readSlice, inRange_eq hstart hstop, pure_bind, ends_bind, ends_get, ends_bind, ends_ensure, hlength]
  refine ⟨?_, fun _ => ⟨rfl, rfl⟩⟩
  intro hinput
  rw [ends_bind, ends_modify, ends_pure]
  refine ⟨s.input.take (stop - start), List.length_take_of_le hinput, rfl, ?_⟩
  exact ⟨(List.take_append_drop _ _).symm, (List.append_nil _).symm, (List.append_nil _).symm⟩

lemma commitSlice_ends (hstart : start ≤ stop) (hstop : stop ≤ b.length) :
    Ends (commitSlice b start stop) s
      (fun _ s' => Effect s s' [] (slice b start (stop - start)) []) (fun _ _ => False) := by
  rw [commitSlice, inRange_eq hstart hstop, pure_bind, ends_modify]
  exact ⟨rfl, rfl, (List.append_nil _).symm⟩

lemma verifyAssumption_ends {m : Machine} {claim controlRoot : Digest} :
    Ends (verifyAssumption m claim controlRoot) s (fun _ s' => Effect s s' [] [] [⟨claim, controlRoot⟩])
      (fun e s' => e = .unverified ∧ s' = s) := by
  rw [verifyAssumption, ends_bind, ends_get, ends_bind, ends_ensure]
  refine ⟨?_, fun _ => ⟨rfl, rfl⟩⟩
  intro _
  rw [ends_modify]
  exact ⟨rfl, (List.append_nil _).symm, rfl⟩

lemma requireWorkload_ends {h : GuestInputHeader} :
    Ends (requireWorkload h) s
      (fun _ s' => s' = s ∧ workloadResult h.workloadSeed h.workloadIterations = h.expectedWorkloadResult)
      (fun e s' => e = .exit ∧ s' = s) := by
  rw [requireWorkload, ends_ensure]
  exact ⟨fun hresult => ⟨rfl, hresult⟩, fun _ => ⟨rfl, rfl⟩⟩

end Effects

section Loops

variable {s : GuestState} {m : Machine} {h : GuestInputHeader}

lemma streamStatement_ends {chunk : Bytes} {remaining : ℕ} (hchunk : chunk.length = guestStatementChunkBytes) :
    Ends (streamStatement chunk remaining) s
      (fun _ s' => ∃ part : Bytes, part.length = remaining ∧ Effect s s' part part [])
      (fun e _ => e = .inputExhausted) := by
  induction remaining using Nat.strong_induction_on generalizing chunk s with
  | _ remaining ih =>
    rw [streamStatement]
    split
    case isTrue hzero =>
      rw [ends_pure]
      exact ⟨[], hzero.symm, Effect.refl s⟩
    case isFalse hzero =>
      obtain ⟨hle, hbound⟩ := nextStatementChunkLength_le remaining
      have hpos := nextStatementChunkLength_pos hzero
      apply (readSlice_ends (Nat.zero_le _) (by omega)).bind
      · intro chunk' s₁ hread
        obtain ⟨part, hpart, rfl, hread⟩ := hread
        rw [Nat.sub_zero] at hpart
        have hsame : (overwrite chunk 0 part).length = guestStatementChunkBytes := by
          simp only [overwrite, List.length_append, List.length_take, List.length_drop]
          omega
        have hslice : slice (overwrite chunk 0 part) 0 (nextStatementChunkLength remaining - 0) = part := by
          rw [Nat.sub_zero, ← hpart]
          exact slice_initial ⟨_, rfl⟩
        apply (commitSlice_ends (Nat.zero_le _) (by omega)).bind
        · intro _ s₂ hcommit
          rw [hslice] at hcommit
          refine (ih _ (by omega) hsame).imp ?_ fun _ _ he => he
          intro _ s₃ hrest
          obtain ⟨rest, hrest, heffect⟩ := hrest
          have hall := (hread.trans hcommit).trans heffect
          rw [List.append_nil, List.nil_append, List.append_nil, List.append_nil] at hall
          refine ⟨part ++ rest, ?_, hall⟩
          rw [List.length_append, hpart, hrest]
          omega
        · intro _ _ hfalse
          exact hfalse.elim
      · intro e s₁ he
        exact he.1

lemma readStatement_ends {p : Bytes} {n remaining : ℕ} (hn : remaining ≤ n) :
    Ends (readStatement (p ++ List.replicate n 0) p.length remaining) s
      (fun b s' => ∃ part : Bytes, part.length = remaining ∧
        b = p ++ part ++ List.replicate (n - remaining) 0 ∧ Effect s s' part [] [])
      (fun e s' => e = .inputExhausted ∧ s'.journal = s.journal) := by
  induction remaining using Nat.strong_induction_on generalizing p n s with
  | _ remaining ih =>
    rw [readStatement]
    split
    case isTrue hzero =>
      rw [ends_pure]
      refine ⟨[], hzero.symm, ?_, Effect.refl s⟩
      rw [hzero, List.append_nil, Nat.sub_zero]
    case isFalse hzero =>
      obtain ⟨hle, -⟩ := nextStatementChunkLength_le remaining
      have hpos := nextStatementChunkLength_pos hzero
      apply (readSlice_ends (Nat.le_add_right _ _) (by
        rw [List.length_append, List.length_replicate]
        omega)).bind
      · intro b s₁ hread
        obtain ⟨part, hpart, rfl, hread⟩ := hread
        rw [Nat.add_sub_cancel_left] at hpart
        rw [overwrite_next p part (show n = part.length + (n - part.length) by omega), ← hpart,
          ← List.length_append]
        refine (ih _ (by omega) (by omega)).imp ?_ ?_
        · intro b' s₂ hrest
          obtain ⟨rest, hrest, rfl, heffect⟩ := hrest
          refine ⟨part ++ rest, ?_, ?_, hread.trans heffect⟩
          · rw [List.length_append, hrest]
            omega
          · rw [Nat.sub_sub, Nat.add_sub_of_le (by omega)]
            simp only [List.append_assoc]
        · intro e s₂ he
          rw [he.2, hread.journal, List.append_nil]
          exact ⟨he.1, rfl⟩
      · intro e s₁ he
        rw [he.2]
        exact ⟨he.1, rfl⟩

lemma commitStatement_ends {statement : Bytes} {statementLength committed : ℕ}
    (hcommitted : committed ≤ statementLength) (hlength : statementLength ≤ statement.length) :
    Ends (commitStatement statement statementLength committed) s
      (fun _ s' => Effect s s' [] (slice statement committed (statementLength - committed)) [])
      (fun _ _ => False) := by
  induction hleft : statementLength - committed using Nat.strong_induction_on generalizing committed s with
  | _ left ih =>
    subst hleft
    rw [commitStatement]
    split
    case isTrue hdone =>
      rw [ends_pure, hdone, Nat.sub_self]
      exact Effect.refl s
    case isFalse hdone =>
      have hlt : committed < statementLength := by omega
      rw [if_pos hlt]
      obtain ⟨hle, -⟩ := nextStatementChunkLength_le (statementLength - committed)
      have hpos := @nextStatementChunkLength_pos (statementLength - committed) (by omega)
      apply (commitSlice_ends (Nat.le_add_right _ _) (by omega)).bind
      · intro _ s₁ hcommit
        rw [Nat.add_sub_cancel_left] at hcommit
        refine (ih _ (by omega) (by omega) rfl).imp ?_ fun _ _ he => he
        intro _ s₂ hrest
        have hboth := hcommit.trans hrest
        rw [slice_append statement rfl] at hboth
        rwa [show nextStatementChunkLength (statementLength - committed) +
          (statementLength - (committed + nextStatementChunkLength (statementLength - committed))) =
            statementLength - committed by omega] at hboth
      · intro _ _ he
        exact he

end Loops

section Runs

variable {s : GuestState} {m : Machine} {h : GuestInputHeader}

def GuestMode.root (m : Machine) : GuestMode → Digest
  | .verifyAssumptionZeroRoot => ByteArr.zero 32
  | _ => m.allowedControlRoot

/-- The copies of the successful claim for the header's image and the statement. -/
def recorded (m : Machine) (h : GuestInputHeader) (statement : Bytes) : List Assumption :=
  List.replicate h.mode.assumptionCount
    ⟨m.okClaim h.assumptionImageId (m.journalDigest statement), h.mode.root m⟩

lemma verifyMode_ends {statement : Bytes} {n : ℕ} (hmode : h.mode ≠ .plain)
    (hlength : statement.length = h.statementLength.toNat) :
    Ends (verifyMode m h (statement ++ List.replicate n 0)) s
      (fun _ s' => Effect s s' [] [] (recorded m h statement))
      (fun e s' => e = .unverified ∧ s'.journal = s.journal) := by
  have hjournal : inRange (statement ++ List.replicate n 0) 0 h.statementLength.toNat = pure statement := by
    rw [inRange_eq (Nat.zero_le _) (by rw [List.length_append]; omega), Nat.sub_zero, ← hlength,
      slice_initial (List.prefix_append _ _)]
  have hkept : ∀ {e : Halt} {s' : GuestState}, e = .unverified ∧ s' = s →
      e = .unverified ∧ s'.journal = s.journal := by
    intro e s' he
    rw [he.2]
    exact ⟨he.1, rfl⟩
  rw [verifyMode]
  cases hm : h.mode with
  | plain => exact absurd hm hmode
  | verifyAssumptionZeroRoot =>
    rw [hjournal, pure_bind, verify, recorded, hm]
    exact verifyAssumption_ends.imp (fun _ _ heffect => heffect) fun _ _ he => hkept he
  | verifyAssumptionExplicitRoot =>
    rw [hjournal, pure_bind, recorded, hm]
    apply verifyAssumption_ends.bind
    · intro _ s₁ heffect
      rw [if_neg (by decide), ends_pure]
      exact heffect
    · intro _ _ he
      exact hkept he
  | verifyAssumptionExplicitRootTwice =>
    rw [hjournal, pure_bind, recorded, hm]
    apply verifyAssumption_ends.bind
    · intro _ s₁ hfirst
      rw [if_pos rfl]
      refine verifyAssumption_ends.imp ?_ ?_
      · intro _ s₂ hsecond
        exact hfirst.trans hsecond
      · intro e s₂ he
        rw [he.2, hfirst.journal, List.append_nil]
        exact ⟨he.1, rfl⟩
    · intro _ _ he
      exact hkept he

structure Completed (m : Machine) (h : GuestInputHeader) (s s' : GuestState) (statement : Bytes) : Prop where
  length : statement.length = h.statementLength.toNat
  workload : workloadResult h.workloadSeed h.workloadIterations = h.expectedWorkloadResult
  effect : Effect s s' statement statement (recorded m h statement)

/-- How a run fails: never at an index, and with nothing committed where a check fails. -/
def Refused (s : GuestState) (e : Halt) (s' : GuestState) : Prop :=
  e ≠ .sliceIndex ∧ (e = .exit ∨ e = .unverified → s'.journal = s.journal)

lemma refused_of_journal {s s' : GuestState} {e : Halt} (he : e ≠ .sliceIndex) (hs : s'.journal = s.journal) :
    Refused s e s' := ⟨he, fun _ => hs⟩

lemma runPlain_ends (hmode : h.mode = .plain) :
    Ends (runPlain h) s (fun _ s' => ∃ statement, Completed m h s s' statement) (Refused s) := by
  rw [runPlain]
  apply requireWorkload_ends.bind
  · intro _ s₁ hworkload
    obtain ⟨rfl, hworkload⟩ := hworkload
    refine (streamStatement_ends (List.length_replicate)).imp ?_ ?_
    · intro _ s₂ hstream
      obtain ⟨statement, hlength, heffect⟩ := hstream
      refine ⟨statement, hlength, hworkload, ?_⟩
      rwa [recorded, hmode]
    · intro e s₂ he
      subst he
      refine ⟨by decide, fun hcheck => ?_⟩
      obtain hcheck | hcheck := hcheck <;> cases hcheck
  · intro e s₁ he
    obtain ⟨rfl, rfl⟩ := he
    exact refused_of_journal (by decide) rfl

lemma runAssumption_ends (hmode : h.mode ≠ .plain) (hvalid : h.Valid) :
    Ends (runAssumption m h) s (fun _ s' => ∃ statement, Completed m h s s' statement) (Refused s) := by
  rw [runAssumption]
  apply (@readStatement_ends s [] maxStatementBytes _ hvalid.statementLength).bind
  · intro b s₁ hread
    obtain ⟨statement, hlength, rfl, hread⟩ := hread
    rw [List.nil_append]
    have hjournal : s₁.journal = s.journal := by rw [hread.journal, List.append_nil]
    apply (verifyMode_ends hmode hlength).bind
    · intro _ s₂ hverify
      have hverified : s₂.journal = s.journal := by rw [hverify.journal, List.append_nil, hjournal]
      apply requireWorkload_ends.bind
      · intro _ s₃ hworkload
        obtain ⟨rfl, hworkload⟩ := hworkload
        refine (commitStatement_ends (Nat.zero_le _) (by
          rw [List.length_append]
          omega)).imp ?_ ?_
        · intro _ s₄ hcommit
          rw [Nat.sub_zero, ← hlength, slice_initial (List.prefix_append _ _)] at hcommit
          refine ⟨statement, hlength, hworkload, ?_⟩
          have heffect := (hread.trans hverify).trans hcommit
          rwa [List.append_nil, List.append_nil, List.append_nil, List.append_nil, List.nil_append,
            List.nil_append] at heffect
        · intro _ _ hfalse
          exact hfalse.elim
      · intro e s₃ he
        obtain ⟨rfl, rfl⟩ := he
        exact refused_of_journal (by decide) hverified
    · intro e s₂ he
      obtain ⟨rfl, he⟩ := he
      exact refused_of_journal (by decide) (he.trans hjournal)
  · intro e s₁ he
    obtain ⟨rfl, he⟩ := he
    exact refused_of_journal (by decide) he

/-- The final state of a successful run on an input. -/
def Finished (m : Machine) (input : Bytes) (s : GuestState) : Prop :=
  ∃ (h : GuestInputHeader) (statement : Bytes), h.Valid ∧ input = h.encode ++ statement ++ s.input ∧
    statement.length = h.statementLength.toNat ∧
    workloadResult h.workloadSeed h.workloadIterations = h.expectedWorkloadResult ∧
    s.journal = statement ∧ s.assumptions = recorded m h statement

lemma main_ends (m : Machine) (input : Bytes) :
    Ends (main m) (initial input) (fun _ s' => Finished m input s') (Refused (initial input)) := by
  rw [main]
  apply (readSlice_ends (Nat.zero_le _) (by rw [List.length_replicate])).bind
  · intro b s₁ hread
    obtain ⟨headerBytes, hlength, rfl, hread⟩ := hread
    have hwhole : overwrite (List.replicate guestInputHeaderBytes 0) 0 headerBytes = headerBytes := by
      rw [overwrite, hlength, List.drop_eq_nil_of_le (by rw [List.length_replicate]; omega),
        List.take_zero, List.nil_append, List.append_nil]
    rw [hwhole]
    have hjournal : s₁.journal = [] := hread.journal
    have hrefused : ∀ {e s'}, Refused s₁ e s' → Refused (initial input) e s' := by
      intro e s' he
      rw [Refused, hjournal] at he
      exact he
    cases hdecode : decode headerBytes with
    | error e =>
      rw [ends_throw]
      exact refused_of_journal (by decide) hjournal
    | ok h =>
      obtain ⟨rfl, hvalid⟩ := decode_ok.mp hdecode
      have hfinish : ∀ s' : GuestState, (∃ statement, Completed m h s₁ s' statement) →
          Finished m input s' := by
        intro s' hdone
        obtain ⟨statement, hdone⟩ := hdone
        have heffect := hread.trans hdone.effect
        exact ⟨h, statement, hvalid, heffect.input, hdone.length, hdone.workload, heffect.journal,
          heffect.assumptions⟩
      dsimp only
      cases hmode : h.mode with
      | plain => exact (runPlain_ends hmode).imp (fun _ => hfinish) fun _ _ => hrefused
      | verifyAssumptionZeroRoot | verifyAssumptionExplicitRoot | verifyAssumptionExplicitRootTwice =>
        exact (runAssumption_ends (by rw [hmode]; decide) hvalid).imp (fun _ => hfinish) fun _ _ => hrefused
  · intro e s₁ he
    obtain ⟨rfl, rfl⟩ := he
    exact refused_of_journal (by decide) rfl

/-- A successful run commits exactly the statement that follows a valid header, behind its workload
and its assumptions, a failing check leaves the journal empty, and the header codec is exact. -/
theorem guest_journal_exact (m : Machine) (input : Bytes) :
    (∀ s, exec (main m) (initial input) = (.ok (), s) → Finished m input s) ∧
    (∀ e s, exec (main m) (initial input) = (.error e, s) →
      e ≠ .sliceIndex ∧ (e = .exit ∨ e = .unverified → s.journal = [])) ∧
    (∀ bytes, (∃ h, decode bytes = .ok h) ↔ ∃! h : GuestInputHeader, h.Valid ∧ bytes = h.encode) ∧
    (∀ bytes h, decode bytes = .ok h ↔ h.Valid ∧ bytes = h.encode) ∧
    ∀ mode statementLength workloadIterations workloadSeed imageId h,
      newForMode mode statementLength workloadIterations workloadSeed imageId = .ok h →
        h.Valid ∧ h.statementLength.toNat = statementLength ∧
          workloadResult h.workloadSeed h.workloadIterations = h.expectedWorkloadResult := by
  refine ⟨?_, ?_, ?_, ?_, ?_⟩
  · intro s h
    exact (main_ends m input).ok h
  · intro e s h
    exact (main_ends m input).error h
  · intro bytes
    constructor
    · intro h
      obtain ⟨h, hdecode⟩ := h
      obtain ⟨hbytes, hvalid⟩ := decode_ok.mp hdecode
      refine ⟨h, ⟨hvalid, hbytes⟩, ?_⟩
      intro h' hh'
      have hsame := decode_ok.mpr ⟨hh'.2, hh'.1⟩
      rw [hdecode] at hsame
      exact (Except.ok.inj hsame).symm
    · intro h
      obtain ⟨h, hh, -⟩ := h
      exact ⟨h, decode_ok.mpr ⟨hh.2, hh.1⟩⟩
  · intro bytes h
    exact decode_ok.trans and_comm
  · intro mode statementLength workloadIterations workloadSeed imageId h hnew
    exact newForMode_ok hnew

end Runs

end Eip0045.Methods
