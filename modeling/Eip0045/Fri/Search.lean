import Mathlib
import Eip0045.Fri.Transcript

/-! The search for an attempt that keeps query zero, by workers that share the best attempt found
(`find_q0_preserving_top_word_attempt`). -/

namespace Eip0045.FriSearch

open Checked FriTranscript

def noMatch : UInt32 := maxQ0GrindAttempts + 1

/-- The workers for what `available_parallelism` answers. -/
def workerCount (availableParallelism : Option ℕ+) : ℕ := min (availableParallelism.elim 1 PNat.val) 16

lemma workerCount_pos (available : Option ℕ+) : 0 < workerCount available := by
  rw [workerCount, lt_min_iff]
  cases available with
  | none => simp
  | some n => simp

lemma workerCount_le (available : Option ℕ+) : workerCount available ≤ 16 := min_le_right _ _

inductive Phase
  | loading
  | testing
  | publishing
  | finished
  deriving DecidableEq

structure Lane where
  attempt : UInt32
  phase : Phase

/-- `best` is the value of the shared word, `held` are all that it has had. -/
structure State (workers : ℕ) where
  best : UInt32
  held : List UInt32
  lanes : Fin workers → Lane

variable {workers : ℕ}

def State.start (workers : ℕ) : State workers where
  best := noMatch
  held := [noMatch]
  lanes lane := ⟨UInt32.ofNat lane.val + 1, .loading⟩

def State.setLane (s : State workers) (lane : Fin workers) (l : Lane) : State workers :=
  { s with lanes := Function.update s.lanes lane l }

def State.fetchMin (s : State workers) (attempt : UInt32) : State workers :=
  { s with best := min s.best attempt, held := min s.best attempt :: s.held }

section Accepts

variable (accepts : UInt32 → Bool)

/-- One step of one worker. The condition of the loop reads the shared word, which may give any value it has had;
the test is on the worker's own candidate; a match is published and ends the worker. -/
inductive Step : State workers → State workers → Prop
  | exhausted {s : State workers} (lane : Fin workers) (attempt : UInt32) (hlane : s.lanes lane = ⟨attempt, .loading⟩)
      (hpast : ¬attempt ≤ maxQ0GrindAttempts) : Step s (s.setLane lane ⟨attempt, .finished⟩)
  | overtaken {s : State workers} (lane : Fin workers) (attempt seen : UInt32)
      (hlane : s.lanes lane = ⟨attempt, .loading⟩) (hwithin : attempt ≤ maxQ0GrindAttempts) (hseen : seen ∈ s.held)
      (hpast : ¬attempt < seen) : Step s (s.setLane lane ⟨attempt, .finished⟩)
  | admitted {s : State workers} (lane : Fin workers) (attempt seen : UInt32)
      (hlane : s.lanes lane = ⟨attempt, .loading⟩) (hwithin : attempt ≤ maxQ0GrindAttempts) (hseen : seen ∈ s.held)
      (hbefore : attempt < seen) : Step s (s.setLane lane ⟨attempt, .testing⟩)
  | rejected {s : State workers} (lane : Fin workers) (attempt : UInt32) (hlane : s.lanes lane = ⟨attempt, .testing⟩)
      (hfails : accepts attempt = false) : Step s (s.setLane lane ⟨attempt + UInt32.ofNat workers, .loading⟩)
  | matched {s : State workers} (lane : Fin workers) (attempt : UInt32) (hlane : s.lanes lane = ⟨attempt, .testing⟩)
      (hmatch : accepts attempt = true) : Step s (s.setLane lane ⟨attempt, .publishing⟩)
  | published {s : State workers} (lane : Fin workers) (attempt : UInt32)
      (hlane : s.lanes lane = ⟨attempt, .publishing⟩) :
      Step s ((s.fetchMin attempt).setLane lane ⟨attempt, .finished⟩)

def Reaches (s : State workers) : Prop := Relation.ReflTransGen (Step accepts) (State.start workers) s

def State.Finished (s : State workers) : Prop := ∀ lane, (s.lanes lane).phase = .finished

def State.result (s : State workers) : Result UInt32 := do
  ensure (s.best ≠ noMatch)
    (directSealDerivationError "no query-zero-preserving FRI top mutation in 16777216 attempts")
  pure s.best

def Matches (attempt : UInt32) : Prop := 1 ≤ attempt ∧ attempt ≤ maxQ0GrindAttempts ∧ accepts attempt = true

def Strided (workers lane : ℕ) (attempt : UInt32) : Prop := ∃ k, attempt.toNat = lane + 1 + workers * k

structure LaneSound (best : UInt32) (lane : Fin workers) (l : Lane) : Prop where
  strided : Strided workers lane l.attempt
  bounded : l.attempt.toNat ≤ maxQ0GrindAttempts.toNat + workers
  tried : ∀ a, Strided workers lane a → a < l.attempt → l.phase ≠ .finished → accepts a = false
  within : l.phase = .testing ∨ l.phase = .publishing → l.attempt ≤ maxQ0GrindAttempts
  publishing : l.phase = .publishing → accepts l.attempt = true
  finished : l.phase = .finished → ∀ a, Strided workers lane a → Matches accepts a → best ≤ a

structure Sound (s : State workers) : Prop where
  held : s.best ∈ s.held
  least : ∀ seen ∈ s.held, s.best ≤ seen
  matching : s.best = noMatch ∨ Matches accepts s.best
  lanes : ∀ lane, LaneSound accepts s.best lane (s.lanes lane)

variable {accepts}

lemma Strided.one_le {lane : Fin workers} {a : UInt32} (h : Strided workers lane a) : 1 ≤ a := by
  obtain ⟨k, hk⟩ := h
  rw [UInt32.le_iff_toNat_le, hk]
  simp only [UInt32.toNat_one]
  omega

lemma exists_strided (hworkers : 0 < workers) {a : UInt32} (h : 1 ≤ a) :
    ∃ lane : Fin workers, Strided workers lane a := by
  have ha : 1 ≤ a.toNat := by simpa [UInt32.le_iff_toNat_le] using h
  refine ⟨⟨(a.toNat - 1) % workers, Nat.mod_lt _ hworkers⟩, (a.toNat - 1) / workers, ?_⟩
  have hdiv := Nat.mod_add_div (a.toNat - 1) workers
  simp only
  omega

lemma max_toNat : maxQ0GrindAttempts.toNat = 16777216 := by decide

lemma add_stride_toNat (hworkers : workers ≤ 16) {attempt : UInt32} (h : attempt ≤ maxQ0GrindAttempts) :
    (attempt + UInt32.ofNat workers).toNat = attempt.toNat + workers := by
  rw [UInt32.le_iff_toNat_le, max_toNat] at h
  rw [UInt32.toNat_add, UInt32.toNat_ofNat_of_lt' (by simp [UInt32.size]; omega), Nat.mod_eq_of_lt (by omega)]

lemma start_toNat (hworkers : workers ≤ 16) (lane : Fin workers) :
    (UInt32.ofNat lane.val + 1).toNat = lane.val + 1 := by
  have hlane := lane.isLt
  rw [UInt32.toNat_add, UInt32.toNat_ofNat_of_lt' (by simp [UInt32.size]; omega), UInt32.toNat_one,
    Nat.mod_eq_of_lt (by omega)]

lemma LaneSound.of_le {best best' : UInt32} {lane : Fin workers} {l : Lane} (hl : LaneSound accepts best lane l)
    (h : best' ≤ best) : LaneSound accepts best' lane l where
  strided := hl.strided
  bounded := hl.bounded
  tried := hl.tried
  within := hl.within
  publishing := hl.publishing
  finished hfinished a ha hmatch := UInt32.le_trans h (hl.finished hfinished a ha hmatch)

lemma Sound.setLane {s : State workers} (hs : Sound accepts s) {lane : Fin workers} {l : Lane}
    (hl : LaneSound accepts s.best lane l) : Sound accepts (s.setLane lane l) where
  held := hs.held
  least := hs.least
  matching := hs.matching
  lanes other := by
    by_cases h : other = lane
    · subst h
      simpa [State.setLane] using hl
    · simpa [State.setLane, h] using hs.lanes other

lemma Sound.fetchMin {s : State workers} (hs : Sound accepts s) {attempt : UInt32} (h : Matches accepts attempt) :
    Sound accepts (s.fetchMin attempt) where
  held := List.mem_cons_self
  least seen hseen := by
    obtain rfl | hseen := List.mem_cons.mp hseen
    · exact UInt32.le_refl _
    · exact UInt32.le_trans Std.min_le_left (hs.least seen hseen)
  matching := by
    simp only [State.fetchMin]
    obtain hmin | hmin : min s.best attempt = s.best ∨ min s.best attempt = attempt := Std.min_eq_or
    · rw [hmin]
      exact hs.matching
    · rw [hmin]
      exact .inr h
  lanes lane := (hs.lanes lane).of_le Std.min_le_left

lemma sound_start (hworkers : workers ≤ 16) : Sound accepts (State.start workers) where
  held := List.mem_singleton_self _
  least seen hseen := by
    rw [List.mem_singleton.mp hseen]
    exact UInt32.le_refl _
  matching := .inl rfl
  lanes lane := by
    have hattempt := start_toNat hworkers lane
    refine ⟨⟨0, by simpa [State.start] using hattempt⟩, ?_, ?_, ?_, ?_, ?_⟩
    · simp only [State.start]
      have hlane := lane.isLt
      omega
    · rintro a ⟨k, hk⟩ hlt
      rw [UInt32.lt_iff_toNat_lt] at hlt
      simp only [State.start] at hlt
      omega
    · simp [State.start]
    · simp [State.start]
    · simp [State.start]

lemma LaneSound.leave {best : UInt32} {lane : Fin workers} {attempt : UInt32} {phase : Phase}
    (hl : LaneSound accepts best lane ⟨attempt, phase⟩)
    (h : ∀ a, Strided workers lane a → Matches accepts a → best ≤ a) :
    LaneSound accepts best lane ⟨attempt, .finished⟩ where
  strided := hl.strided
  bounded := hl.bounded
  tried _ _ _ hphase := absurd rfl hphase
  within h := by simp at h
  publishing h := by cases h
  finished _ := h

lemma LaneSound.attempt_le {best : UInt32} {lane : Fin workers} {attempt : UInt32} {phase : Phase}
    (hl : LaneSound accepts best lane ⟨attempt, phase⟩) (hphase : phase ≠ .finished) {a : UInt32}
    (ha : Strided workers lane a) (hmatch : Matches accepts a) : attempt ≤ a := by
  by_contra hlt
  have hfails := hl.tried a ha (UInt32.not_le.mp hlt) hphase
  rw [hmatch.2.2] at hfails
  cases hfails

lemma LaneSound.reject (hworkers : workers ≤ 16) {best : UInt32} {lane : Fin workers} {attempt : UInt32}
    (hl : LaneSound accepts best lane ⟨attempt, .testing⟩) (hfails : accepts attempt = false) :
    LaneSound accepts best lane ⟨attempt + UInt32.ofNat workers, .loading⟩ := by
  have hwithin : attempt ≤ maxQ0GrindAttempts := hl.within (.inl rfl)
  have hnext := add_stride_toNat hworkers hwithin
  obtain ⟨k, hk⟩ := hl.strided
  refine ⟨⟨k + 1, ?_⟩, ?_, ?_, ?_, ?_, ?_⟩
  · rw [hnext, Nat.mul_add, Nat.mul_one]
    simp only at hk
    omega
  · rw [UInt32.le_iff_toNat_le] at hwithin
    simp only
    omega
  · intro a ha hlt _
    obtain ⟨j, hj⟩ := id ha
    rw [UInt32.lt_iff_toNat_lt, hnext] at hlt
    simp only at hk
    have hjk : workers * j < workers * (k + 1) := by
      rw [Nat.mul_add, Nat.mul_one]
      omega
    obtain hj' | rfl := Nat.lt_succ_iff_lt_or_eq.mp (Nat.lt_of_mul_lt_mul_left hjk)
    · refine hl.tried a ha ?_ (by simp)
      have hmul : workers * j < workers * k := Nat.mul_lt_mul_of_pos_left hj' (Fin.pos lane)
      rw [UInt32.lt_iff_toNat_lt]
      simp only
      omega
    · have heq : a = attempt := UInt32.toNat_inj.mp (hj.trans hk.symm)
      rw [heq, hfails]
  · simp
  · simp
  · simp

lemma Sound.step (hworkers : workers ≤ 16) {s s' : State workers} (hs : Sound accepts s) (h : Step accepts s s') :
    Sound accepts s' := by
  cases h with
  | exhausted lane attempt hlane hpast =>
    have hl := hs.lanes lane
    rw [hlane] at hl
    refine hs.setLane (hl.leave fun a ha hmatch => absurd (UInt32.le_trans ?_ hmatch.2.1) hpast)
    exact hl.attempt_le (by decide) ha hmatch
  | overtaken lane attempt seen hlane _ hseen hpast =>
    have hl := hs.lanes lane
    rw [hlane] at hl
    refine hs.setLane (hl.leave fun a ha hmatch => UInt32.le_trans (hs.least seen hseen) ?_)
    exact UInt32.le_trans (UInt32.not_lt.mp hpast) (hl.attempt_le (by decide) ha hmatch)
  | admitted lane attempt seen hlane hwithin _ _ =>
    have hl := hs.lanes lane
    rw [hlane] at hl
    refine hs.setLane ⟨hl.strided, hl.bounded, fun a ha hlt _ => hl.tried a ha hlt (by simp), fun _ => hwithin, ?_, ?_⟩
    · simp
    · simp
  | rejected lane attempt hlane hfails =>
    have hl := hs.lanes lane
    rw [hlane] at hl
    exact hs.setLane (hl.reject hworkers hfails)
  | matched lane attempt hlane hmatch =>
    have hl := hs.lanes lane
    rw [hlane] at hl
    refine hs.setLane ⟨hl.strided, hl.bounded, fun a ha hlt _ => hl.tried a ha hlt (by simp), fun _ => ?_,
      fun _ => hmatch, ?_⟩
    · exact hl.within (.inl rfl)
    · simp
  | published lane attempt hlane =>
    have hl := hs.lanes lane
    rw [hlane] at hl
    have hmatch : Matches accepts attempt :=
      ⟨hl.strided.one_le, hl.within (.inr rfl), hl.publishing rfl⟩
    have hbest : (s.fetchMin attempt).best ≤ s.best := Std.min_le_left
    refine (hs.fetchMin hmatch).setLane ((hl.of_le hbest).leave fun a ha hother => ?_)
    exact UInt32.le_trans Std.min_le_right (hl.attempt_le (by decide) ha hother)

lemma Sound.reaches (hworkers : workers ≤ 16) {s : State workers} (h : Reaches accepts s) : Sound accepts s := by
  induction h with
  | refl => exact sound_start hworkers
  | tail _ hstep ih => exact ih.step hworkers hstep

lemma result_ok (hpos : 0 < workers) (hworkers : workers ≤ 16) {s : State workers} (h : Reaches accepts s)
    (hfinished : s.Finished) {attempt : UInt32} :
    s.result = .ok attempt ↔ Matches accepts attempt ∧ ∀ a, Matches accepts a → attempt ≤ a := by
  have hs := Sound.reaches hworkers h
  have hleast : ∀ a, Matches accepts a → s.best ≤ a := by
    intro a ha
    obtain ⟨lane, hlane⟩ := exists_strided hpos ha.1
    exact (hs.lanes lane).finished (hfinished lane) a hlane ha
  rw [State.result, bind_ok, exists_unit, ensure_ok, pure_ok]
  constructor
  · rintro ⟨hne, rfl⟩
    exact ⟨hs.matching.resolve_left hne, hleast⟩
  · rintro ⟨hmatch, hbelow⟩
    have hle := hleast attempt hmatch
    have hne : s.best ≠ noMatch := by
      intro heq
      rw [heq] at hle
      exact absurd (UInt32.le_trans hle hmatch.2.1) (by decide)
    exact ⟨hne, UInt32.le_antisymm hle (hbelow _ (hs.matching.resolve_left hne))⟩

lemma result_error (hpos : 0 < workers) (hworkers : workers ≤ 16) {s : State workers} (h : Reaches accepts s)
    (hfinished : s.Finished) {e : Fault DirectSealMutationError} :
    s.result = .error e ↔ (∀ a, ¬Matches accepts a) ∧
      e = directSealDerivationError "no query-zero-preserving FRI top mutation in 16777216 attempts" := by
  have hs := Sound.reaches hworkers h
  rw [State.result, ensure]
  by_cases hbest : s.best = noMatch
  · have hnone : ∀ a, ¬Matches accepts a := by
      intro a ha
      obtain ⟨lane, hlane⟩ := exists_strided hpos ha.1
      have hle := (hs.lanes lane).finished (hfinished lane) a hlane ha
      rw [hbest] at hle
      exact absurd (UInt32.le_trans hle ha.2.1) (by decide)
    rw [if_neg (not_not_intro hbest), error_bind, Except.error.injEq]
    exact ⟨fun he => ⟨hnone, he.symm⟩, fun he => he.2.symm⟩
  · rw [if_pos hbest, ok_bind]
    refine ⟨fun he => (by cases he), fun hnone => absurd ?_ (hnone.1 s.best)⟩
    exact hs.matching.resolve_left hbest

def Phase.rank : Phase → ℕ
  | .loading => 3
  | .testing => 2
  | .publishing => 1
  | .finished => 0

def Lane.remaining (l : Lane) : ℕ := 4 * (2 ^ 32 - l.attempt.toNat) + l.phase.rank

def State.remaining (s : State workers) : ℕ := ∑ lane, (s.lanes lane).remaining

lemma remaining_setLane {s : State workers} {lane : Fin workers} {l : Lane}
    (h : l.remaining < (s.lanes lane).remaining) : (s.setLane lane l).remaining < s.remaining := by
  apply Finset.sum_lt_sum
  · intro other _
    by_cases hother : other = lane
    · subst hother
      simpa [State.setLane] using h.le
    · simp [State.setLane, hother]
  · exact ⟨lane, Finset.mem_univ _, by simpa [State.setLane] using h⟩

lemma remaining_step (hworkers : workers ≤ 16) {s s' : State workers} (hs : Sound accepts s)
    (h : Step accepts s s') : s'.remaining < s.remaining := by
  cases h with
  | exhausted lane attempt hlane _ =>
    apply remaining_setLane
    simp [hlane, Lane.remaining, Phase.rank]
  | overtaken lane attempt seen hlane _ _ _ =>
    apply remaining_setLane
    simp [hlane, Lane.remaining, Phase.rank]
  | admitted lane attempt seen hlane _ _ _ =>
    apply remaining_setLane
    simp [hlane, Lane.remaining, Phase.rank]
  | rejected lane attempt hlane _ =>
    apply remaining_setLane
    have hl := hs.lanes lane
    rw [hlane] at hl
    have hwithin : attempt ≤ maxQ0GrindAttempts := hl.within (.inl rfl)
    have hnext := add_stride_toNat hworkers hwithin
    have hpos : 0 < workers := Fin.pos lane
    rw [UInt32.le_iff_toNat_le, max_toNat] at hwithin
    simp only [hlane, Lane.remaining, Phase.rank]
    omega
  | matched lane attempt hlane _ =>
    apply remaining_setLane
    simp [hlane, Lane.remaining, Phase.rank]
  | published lane attempt hlane =>
    have hsame : s.remaining = (s.fetchMin attempt).remaining := rfl
    rw [hsame]
    apply remaining_setLane
    simp [State.fetchMin, hlane, Lane.remaining, Phase.rank]

lemma exists_step {s : State workers} (hs : Sound accepts s) (h : ¬s.Finished) : ∃ s', Step accepts s s' := by
  obtain ⟨lane, hlane⟩ := not_forall.mp h
  cases hl : s.lanes lane with
  | mk attempt phase =>
    rw [hl] at hlane
    cases phase with
    | loading =>
      by_cases hwithin : attempt ≤ maxQ0GrindAttempts
      · by_cases hbefore : attempt < s.best
        · exact ⟨_, .admitted lane attempt s.best hl hwithin hs.held hbefore⟩
        · exact ⟨_, .overtaken lane attempt s.best hl hwithin hs.held hbefore⟩
      · exact ⟨_, .exhausted lane attempt hl hwithin⟩
    | testing =>
      cases htest : accepts attempt with
      | false => exact ⟨_, .rejected lane attempt hl htest⟩
      | true => exact ⟨_, .matched lane attempt hl htest⟩
    | publishing => exact ⟨_, .published lane attempt hl⟩
    | finished => exact absurd rfl hlane

lemma exists_finished (hworkers : workers ≤ 16) {s : State workers} (h : Reaches accepts s) :
    ∃ s' : State workers, Reaches accepts s' ∧ s'.Finished := by
  induction hn : s.remaining using Nat.strong_induction_on generalizing s with
  | _ n ih =>
    by_cases hfinished : s.Finished
    · exact ⟨s, h, hfinished⟩
    · have hs := Sound.reaches hworkers h
      obtain ⟨s', hstep⟩ := exists_step hs hfinished
      exact ih _ (hn ▸ remaining_step hworkers hs hstep) (h.tail hstep) rfl

lemma no_endless_run (hworkers : workers ≤ 16) (run : ℕ → State workers) (hstart : run 0 = State.start workers) :
    ¬∀ n, Step accepts (run n) (run (n + 1)) := by
  intro hstep
  have hreaches : ∀ n, Reaches accepts (run n) := by
    intro n
    induction n with
    | zero =>
      rw [hstart]
      exact .refl
    | succ n ih => exact ih.tail (hstep n)
  have hbound : ∀ n, (run n).remaining + n ≤ (run 0).remaining := by
    intro n
    induction n with
    | zero => exact le_rfl
    | succ n ih =>
      have hless := remaining_step hworkers (Sound.reaches hworkers (hreaches n)) (hstep n)
      omega
  have hlast := hbound ((run 0).remaining + 1)
  omega

end Accepts

end Eip0045.FriSearch
