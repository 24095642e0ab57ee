import Eip0045.Library.Bracketing

/-! The two searches for a calibrated workload: by the exponent of a single segment, and by the
number of source segments. -/

namespace Eip0045.Calibration

open Checked Stateful Bracketing

section Canonical

structure SegmentObservation where
  segmentCount : ℕ
  singleSegmentPo2 : Option ℕ

structure CanonicalCalibrationSelection where
  workloadIterations : ℕ
  observation : SegmentObservation

inductive OrderingClass
  | below
  | exact
  | above
  deriving DecidableEq

def minSegmentPo2 : ℕ := 15
def maxSegmentPo2 : ℕ := 22

def validateSegmentPo2 (segmentPo2 : ℕ) : Except String Unit :=
  ensure (minSegmentPo2 ≤ segmentPo2 ∧ segmentPo2 ≤ maxSegmentPo2)
    s!"segment po2 {segmentPo2} is outside the frozen range {minSegmentPo2}..={maxSegmentPo2}"

def comparePo2 (po2 targetPo2 : ℕ) : OrderingClass :=
  if po2 < targetPo2 then .below else if po2 = targetPo2 then .exact else .above

def classify (observation : SegmentObservation) (targetPo2 : ℕ) : Except String OrderingClass := do
  ensure (observation.segmentCount = 1 ↔ observation.singleSegmentPo2.isSome)
    "malformed segment observation"
  if observation.segmentCount ≠ 1 then pure .above
  else do
    let po2 ← context "presence checked above" observation.singleSegmentPo2
    pure (comparePo2 po2 targetPo2)

def ranksBelow (targetPo2 : ℕ) (observation : SegmentObservation) : Except String Bool := do
  let ordering ← classify observation targetPo2
  pure (ordering = .below)

variable (observe : Observer SegmentObservation)

def selectCanonicalIterations (targetPo2 : ℕ) :
    Search SegmentObservation CanonicalCalibrationSelection := do
  lift (report (validateSegmentPo2 targetPo2))
  let zero ← observeAt observe "failed to observe zero-workload execution" 0
  let ordering ← lift (report (classify zero targetPo2))
  match ordering with
  | .exact => pure ⟨0, zero⟩
  | .above =>
    lift (report (.error s!"zero-workload execution already exceeds target po2 {targetPo2}; target is unreachable"))
  | .below => do
    let found ← search observe (ranksBelow targetPo2)
      (fun high => s!"failed to observe workload iteration count {high}")
      s!"u32 workload range exhausted below target po2 {targetPo2}"
    let upper ← lift (report (classify found.2 targetPo2))
    lift (report (ensure (upper = .exact)
      s!"calibration crossed from below target po2 {targetPo2} to a non-single-segment or higher-po2 execution"))
    pure ⟨found.1, found.2⟩

end Canonical

section Recursive

inductive CalibrationObservationRank
  | below
  | exact
  deriving DecidableEq

def minSourceSegmentPo2 : ℕ := 15
def maxSourceSegmentPo2 : ℕ := 22

/-- The loop over the segments, which may return early. -/
def classifySegments : List ℕ → Except String (Option CalibrationObservationRank)
  | [] => pure none
  | po2 :: rest => do
    ensure (po2 ≤ maxSourceSegmentPo2)
      s!"recursive calibration emitted source segment po2 {po2} above 22"
    if po2 < minSourceSegmentPo2 then do
      ensure (rest = [])
        s!"recursive calibration emitted undersized non-final source segment po2 {po2}"
      pure (some .below)
    else classifySegments rest

def classifyObservation (segmentPo2 : List ℕ) (expectedCount : ℕ) :
    Except String CalibrationObservationRank := do
  ensure (segmentPo2 ≠ []) "recursive calibration execution emitted no source segments"
  ensure (segmentPo2.length ≤ expectedCount)
    "recursive calibration jumped beyond the exact expected segment count"
  let early ← classifySegments segmentPo2
  pure (early.getD (if segmentPo2.length = expectedCount then .exact else .below))

def validateExactSegmentSequence (segmentPo2 : List ℕ) (expectedCount : ℕ) : Except String Unit := do
  let rank ← classifyObservation segmentPo2 expectedCount
  ensure (rank = .exact) "recursive calibration segment sequence has the wrong family cardinality"

def segmentsBelow (expectedCount : ℕ) (segmentPo2 : List ℕ) : Except String Bool := do
  let rank ← classifyObservation segmentPo2 expectedCount
  pure (rank = .below)

variable (observe : Observer (List ℕ))

def observeChecked (workload expectedCount : ℕ) : Search (List ℕ) (List ℕ × Bool) :=
  probe observe (segmentsBelow expectedCount) s!"failed to observe recursive workload {workload}"
    workload

def selectRecursiveWorkload (expectedCount : ℕ) : Search (List ℕ) (ℕ × List ℕ) := do
  let zero ← observeChecked observe 0 expectedCount
  if zero.2 = false then pure (0, zero.1)
  else do
    let found ← search observe (segmentsBelow expectedCount)
      (fun workload => s!"failed to observe recursive workload {workload}")
      "u32 workload range exhausted below the required recursive segment count"
    lift (report (validateExactSegmentSequence found.2 expectedCount))
    pure found

end Recursive

section Runs

/-- A selected workload was observed to be exact, and the one before it to be below. -/
structure Selected {Obs : Type} (exact below : Obs → Prop) (log : Log Obs) (workload : ℕ)
    (observation : Obs) : Prop where
  word : workload < 2 ^ 32
  observed : (workload, .ok observation) ∈ log
  exact : exact observation
  before : workload = 0 ∨ ∃ previous, (workload - 1, .ok previous) ∈ log ∧ below previous

variable {observe : Observer SegmentObservation} {targetPo2 : ℕ}

lemma ranksBelow_ok {observation : SegmentObservation} {isBelow : Bool} :
    ranksBelow targetPo2 observation = .ok isBelow ↔
      ∃ ordering, classify observation targetPo2 = .ok ordering ∧ (isBelow ↔ ordering = .below) := by
  simp only [ranksBelow, bind_ok, pure_ok]
  refine exists_congr fun ordering => and_congr_right fun _ => ?_
  cases isBelow <;> simp

/-- Where a workload first is above the target, nothing is selected. -/
def Crossed (targetPo2 : ℕ) (log : Log SegmentObservation) : Prop :=
  ∃ workload observation, (workload, .ok observation) ∈ log ∧
    classify observation targetPo2 = .ok .above ∧
    (workload = 0 ∨ ∃ previous, (workload - 1, .ok previous) ∈ log ∧
      classify previous targetPo2 = .ok .below)

lemma runs_selectCanonicalIterations (htarget : validateSegmentPo2 targetPo2 = .ok ()) :
    Runs observe (selectCanonicalIterations observe targetPo2) []
      (fun selection log => log.length ≤ 65 ∧
        Selected (fun o => classify o targetPo2 = .ok .exact)
          (fun o => classify o targetPo2 = .ok .below) log selection.workloadIterations
          selection.observation)
      (fun log => log.length ≤ 65 ∧ (Blamed (ranksBelow targetPo2) log ∨ Crossed targetPo2 log)) := by
  have hbelow : ∀ {o : SegmentObservation}, ranksBelow targetPo2 o = .ok true →
      classify o targetPo2 = .ok .below := by
    intro o h
    obtain ⟨ordering, hordering, hiff⟩ := ranksBelow_ok.mp h
    rw [hordering, hiff.mp rfl]
  have hfailed : ∀ {o : SegmentObservation} {m : String}, classify o targetPo2 = .error m →
      ranksBelow targetPo2 o = .error m := by
    intro o m h
    rw [ranksBelow, h]
    rfl
  rw [selectCanonicalIterations]
  refine runs_bind (runs_lift (P := fun _ log => log = []) (fun _ _ => rfl) ?_) ?_
  · intro m h
    rw [htarget] at h
    cases h
  rintro - log - rfl
  refine runs_bind (runs_mono (@runs_observeAt _ _ (ranksBelow targetPo2) [] _ 0 (by decide))
    (fun _ _ _ h => h) fun log _ h => ⟨?_, .inl h.2⟩) ?_
  · rw [h.1]
    decide
  intro zero log _ hzero
  obtain ⟨hlength, hzero⟩ := hzero
  have hshort : log.length ≤ 65 := by
    rw [hlength]
    decide
  refine runs_bind (runs_lift
    (P := fun ordering log' => log' = log ∧ classify zero targetPo2 = .ok ordering)
    (fun _ h => ⟨rfl, h⟩) ?_) ?_
  · intro m h
    exact ⟨hshort, .inl (.inr (.inl ⟨0, zero, m, hzero, hfailed h⟩))⟩
  rintro ordering log' - ⟨rfl, hordering⟩
  cases ordering with
  | exact => exact runs_pure ⟨hshort, ⟨Nat.two_pow_pos 32, hzero, hordering, .inl rfl⟩⟩
  | above =>
    exact runs_lift (fun _ h => by cases h)
      fun _ _ => ⟨hshort, .inr ⟨0, zero, hzero, hordering, .inl rfl⟩⟩
  | below =>
    have hrank : ranksBelow targetPo2 zero = .ok true :=
      ranksBelow_ok.mpr ⟨.below, hordering, by simp⟩
    refine runs_bind (runs_mono (runs_search hlength ⟨zero, hzero, hrank⟩) (fun _ _ _ h => h)
      fun _ _ h => ⟨h.1, .inl h.2⟩) ?_
    rintro found log' - ⟨hlength', hword, -, ⟨hfound, hnot⟩, previous, hprevious, hless⟩
    obtain ⟨upper, hupper, hiff⟩ := ranksBelow_ok.mp hnot
    refine runs_bind (runs_lift
      (P := fun ordering log'' => log'' = log' ∧ classify found.2 targetPo2 = .ok ordering)
      (fun _ h => ⟨rfl, h⟩) ?_) ?_
    · intro m h
      rw [hupper] at h
      cases h
    rintro ordering log'' - ⟨rfl, hordering'⟩
    obtain rfl : upper = ordering := Except.ok.inj (hupper.symm.trans hordering')
    refine runs_bind (runs_lift (P := fun _ log => log = log'' ∧ upper = .exact) ?_ ?_) ?_
    · intro u h
      exact ⟨rfl, ensure_ok.mp h⟩
    · intro m h
      refine ⟨hlength', .inr ⟨found.1, found.2, hfound, ?_, .inr ⟨previous, hprevious, hbelow hless⟩⟩⟩
      cases upper with
      | below => simp at hiff
      | exact => cases h
      | above => exact hupper
    · rintro - log - ⟨rfl, rfl⟩
      exact runs_pure ⟨hlength', ⟨hword, hfound, hupper, .inr ⟨previous, hprevious, hbelow hless⟩⟩⟩

lemma segmentsBelow_ok {expectedCount : ℕ} {observation : List ℕ} {isBelow : Bool} :
    segmentsBelow expectedCount observation = .ok isBelow ↔
      classifyObservation observation expectedCount = .ok (if isBelow then .below else .exact) := by
  simp only [segmentsBelow, bind_ok, pure_ok]
  constructor
  · rintro ⟨rank, hrank, rfl⟩
    rw [hrank]
    cases rank <;> rfl
  · intro h
    refine ⟨_, h, ?_⟩
    cases isBelow <;> rfl

lemma validateExactSegmentSequence_ok {expectedCount : ℕ} {observation : List ℕ} :
    validateExactSegmentSequence observation expectedCount = .ok () ↔
      classifyObservation observation expectedCount = .ok .exact := by
  simp [validateExactSegmentSequence, bind_ok]

lemma runs_selectRecursiveWorkload {observe : Observer (List ℕ)} {expectedCount : ℕ} :
    Runs observe (selectRecursiveWorkload observe expectedCount) []
      (fun selected log => log.length ≤ 65 ∧
        Selected (fun o => classifyObservation o expectedCount = .ok .exact)
          (fun o => classifyObservation o expectedCount = .ok .below) log selected.1 selected.2)
      (fun log => log.length ≤ 65 ∧ Blamed (segmentsBelow expectedCount) log) := by
  rw [selectRecursiveWorkload]
  refine runs_bind (runs_mono (runs_probe _ (Nat.two_pow_pos 32)) (fun _ _ _ h => h)
    fun log _ h => ⟨?_, h.2⟩) ?_
  · rw [h.1]
    decide
  rintro zero log - ⟨hlength, hzero, hrank⟩
  have hshort : log.length ≤ 65 := by
    rw [hlength]
    decide
  have hclass := segmentsBelow_ok.mp hrank
  split
  · rename_i hexact
    rw [hexact] at hclass
    exact runs_pure ⟨hshort, ⟨Nat.two_pow_pos 32, hzero, hclass, .inl rfl⟩⟩
  · rename_i hbelow
    rw [Bool.not_eq_false] at hbelow
    rw [hbelow] at hrank
    refine runs_bind (runs_search hlength ⟨zero.1, hzero, hrank⟩) ?_
    rintro found log' - ⟨hlength', hword, -, ⟨hfound, hnot⟩, previous, hprevious, hless⟩
    have hexact := segmentsBelow_ok.mp hnot
    refine runs_bind (runs_lift (P := fun _ log => log = log') (fun _ _ => rfl) ?_) ?_
    · intro m h
      rw [validateExactSegmentSequence_ok.mpr hexact] at h
      cases h
    · rintro - log - rfl
      exact runs_pure ⟨hlength', ⟨hword, hfound, hexact,
        .inr ⟨previous, hprevious, segmentsBelow_ok.mp hless⟩⟩⟩

end Runs

section Rising

variable {Obs : Type}

/-- An observer that answers by the workload alone. -/
def pureObserver (answer : ℕ → Except String Obs) : Observer Obs := fun _ workload => answer workload

def OrderingClass.place : OrderingClass → ℕ
  | .below => 0
  | .exact => 1
  | .above => 2

def CalibrationObservationRank.place : CalibrationObservationRank → ℕ
  | .below => 0
  | .exact => 1

/-- Every machine word has a class, and a larger word has no lower one. -/
def Rising {Class : Type} (place : Class → ℕ) (classOf : Obs → Except String Class)
    (answer : ℕ → Obs) : Prop :=
  ∃ rank : ℕ → Class, (∀ w < 2 ^ 32, classOf (answer w) = .ok (rank w)) ∧
    ∀ w w', w ≤ w' → w' < 2 ^ 32 → place (rank w) ≤ place (rank w')

lemma pure_of_grown {answer : ℕ → Obs} {log : Log Obs}
    (h : Grown (pureObserver fun w => .ok (answer w)) [] log) {workload : ℕ}
    {observed : Except String Obs} (hmem : (workload, observed) ∈ log) :
    workload < 2 ^ 32 ∧ observed = .ok (answer workload) := by
  obtain ⟨events, rfl, hevents⟩ := h
  obtain ⟨hword, past, hobserved⟩ := hevents _ hmem
  exact ⟨hword, hobserved⟩

variable {Class : Type} {place : Class → ℕ} {classOf : Obs → Except String Class}
  {answer : ℕ → Obs} {log : Log Obs} {workload : ℕ} {observation : Obs} {exact below : Class}

lemma Selected.least (hplace : place below < place exact)
    (hrising : Rising place classOf answer)
    (hgrown : Grown (pureObserver fun w => .ok (answer w)) [] log)
    (h : Selected (fun o => classOf o = .ok exact) (fun o => classOf o = .ok below) log workload
      observation) :
    IsLeast {w | w < 2 ^ 32 ∧ classOf (answer w) = .ok exact} workload := by
  obtain ⟨rank, hrank, hmono⟩ := hrising
  obtain ⟨hword, hanswer⟩ := pure_of_grown hgrown h.observed
  refine ⟨⟨hword, by rw [← Except.ok.inj hanswer]; exact h.exact⟩, ?_⟩
  rintro w ⟨hw, hexact⟩
  by_contra hlt
  rcases h.before with hzero | ⟨previous, hprevious, hless⟩
  · omega
  · obtain ⟨hword', hanswer'⟩ := pure_of_grown hgrown hprevious
    rw [Except.ok.inj hanswer', hrank _ hword', Except.ok.injEq] at hless
    rw [hrank w hw, Except.ok.injEq] at hexact
    have hle := hmono w (workload - 1) (by omega) hword'
    rw [hless, hexact] at hle
    omega

lemma not_blamed {ranks : Obs → Except String Bool} (hplace : place below < place exact)
    (hranks : ∀ o c, classOf o = .ok c → ranks o = .ok true → c = below)
    (hpass : ∀ o c, classOf o = .ok c → ∀ m, ranks o ≠ .error m)
    (hrising : Rising place classOf answer)
    (hgrown : Grown (pureObserver fun w => .ok (answer w)) [] log)
    (hexact : ∃ w < 2 ^ 32, classOf (answer w) = .ok exact) : ¬Blamed ranks log := by
  obtain ⟨rank, hrank, hmono⟩ := hrising
  rintro (⟨workload, message, hmem⟩ | ⟨workload, observation, message, hmem, hfailed⟩ |
    ⟨observation, hmem, hless⟩)
  · cases (pure_of_grown hgrown hmem).2
  · obtain ⟨hword, hanswer⟩ := pure_of_grown hgrown hmem
    rw [Except.ok.inj hanswer] at hfailed
    exact hpass _ _ (hrank workload hword) message hfailed
  · obtain ⟨hword, hanswer⟩ := pure_of_grown hgrown hmem
    rw [Except.ok.inj hanswer] at hless
    have hlast := hranks _ _ (hrank _ hword) hless
    obtain ⟨w, hw, hexact⟩ := hexact
    rw [hrank w hw, Except.ok.injEq] at hexact
    have hle := hmono w u32Max (by rw [u32Max]; omega) hword
    rw [hlast, hexact] at hle
    omega

end Rising

section Selection

variable {targetPo2 expectedCount : ℕ}

lemma selectCanonicalIterations_rising (htarget : validateSegmentPo2 targetPo2 = .ok ())
    {answer : ℕ → SegmentObservation}
    (hrising : Rising OrderingClass.place (classify · targetPo2) answer) :
    ((∃ selection, (exec (selectCanonicalIterations (pureObserver fun w => .ok (answer w)) targetPo2)
        []).1 = .ok selection) ↔ ∃ w < 2 ^ 32, classify (answer w) targetPo2 = .ok .exact) ∧
      ∀ selection, (exec (selectCanonicalIterations (pureObserver fun w => .ok (answer w)) targetPo2)
        []).1 = .ok selection →
        IsLeast {w | w < 2 ^ 32 ∧ classify (answer w) targetPo2 = .ok .exact}
          selection.workloadIterations := by
  have hruns := @runs_selectCanonicalIterations (pureObserver fun w => .ok (answer w)) targetPo2 htarget
  have hleast : ∀ selection, (exec (selectCanonicalIterations (pureObserver fun w => .ok (answer w))
      targetPo2) []).1 = .ok selection →
      IsLeast {w | w < 2 ^ 32 ∧ classify (answer w) targetPo2 = .ok .exact}
        selection.workloadIterations := by
    intro selection hselection
    exact (hruns.ok selection hselection).2.least (by decide) hrising hruns.grown
  refine ⟨⟨?_, ?_⟩, hleast⟩
  · rintro ⟨selection, hselection⟩
    exact ⟨_, (hleast selection hselection).1⟩
  · intro hexact
    cases hresult : (exec (selectCanonicalIterations (pureObserver fun w => .ok (answer w))
      targetPo2) []).1 with
    | ok selection => exact ⟨selection, rfl⟩
    | error e =>
      exfalso
      obtain ⟨-, -, hblamed | hcrossed⟩ := hruns.error e hresult
      · have hplace : OrderingClass.below.place < OrderingClass.exact.place := by decide
        refine not_blamed hplace ?_ ?_ hrising hruns.grown hexact hblamed
        · intro o c hc hless
          obtain ⟨ordering, hordering, hiff⟩ := ranksBelow_ok.mp hless
          rw [← Except.ok.inj (hordering.symm.trans hc)]
          exact hiff.mp rfl
        · intro o c hc m hfailed
          rw [ranksBelow, hc] at hfailed
          cases hfailed
      · obtain ⟨rank, hrank, hmono⟩ := hrising
        beta_reduce at hrank
        obtain ⟨workload, observation, hmem, habove, hbefore⟩ := hcrossed
        obtain ⟨w, hw, hexact⟩ := hexact
        obtain ⟨hword, hanswer⟩ := pure_of_grown hruns.grown hmem
        rw [Except.ok.inj hanswer, hrank _ hword, Except.ok.injEq] at habove
        rw [hrank w hw, Except.ok.injEq] at hexact
        by_cases hlt : w < workload
        · rcases hbefore with hzero | ⟨previous, hprevious, hless⟩
          · omega
          · obtain ⟨hword', hanswer'⟩ := pure_of_grown hruns.grown hprevious
            rw [Except.ok.inj hanswer', hrank _ hword', Except.ok.injEq] at hless
            have hle := hmono w (workload - 1) (by omega) hword'
            rw [hless, hexact] at hle
            exact absurd hle (by decide)
        · have hle := hmono workload w (by omega) hw
          rw [habove, hexact] at hle
          exact absurd hle (by decide)

lemma selectRecursiveWorkload_rising {answer : ℕ → List ℕ}
    (hrising : Rising CalibrationObservationRank.place (classifyObservation · expectedCount) answer) :
    ((∃ selected, (exec (selectRecursiveWorkload (pureObserver fun w => .ok (answer w)) expectedCount)
        []).1 = .ok selected) ↔
        ∃ w < 2 ^ 32, classifyObservation (answer w) expectedCount = .ok .exact) ∧
      ∀ selected, (exec (selectRecursiveWorkload (pureObserver fun w => .ok (answer w)) expectedCount)
        []).1 = .ok selected →
        IsLeast {w | w < 2 ^ 32 ∧ classifyObservation (answer w) expectedCount = .ok .exact}
          selected.1 := by
  have hruns := @runs_selectRecursiveWorkload (pureObserver fun w => .ok (answer w)) expectedCount
  have hleast : ∀ selected, (exec (selectRecursiveWorkload (pureObserver fun w => .ok (answer w))
      expectedCount) []).1 = .ok selected →
      IsLeast {w | w < 2 ^ 32 ∧ classifyObservation (answer w) expectedCount = .ok .exact}
        selected.1 := by
    intro selected hselected
    exact (hruns.ok selected hselected).2.least (by decide) hrising hruns.grown
  refine ⟨⟨?_, ?_⟩, hleast⟩
  · rintro ⟨selected, hselected⟩
    exact ⟨_, (hleast selected hselected).1⟩
  · intro hexact
    cases hresult : (exec (selectRecursiveWorkload (pureObserver fun w => .ok (answer w))
      expectedCount) []).1 with
    | ok selected => exact ⟨selected, rfl⟩
    | error e =>
      exfalso
      have hplace : CalibrationObservationRank.below.place < CalibrationObservationRank.exact.place := by
        decide
      refine not_blamed hplace ?_ ?_ hrising hruns.grown hexact (hruns.error e hresult).2.2
      · intro o c hc hless
        exact Except.ok.inj (hc.symm.trans (segmentsBelow_ok.mp hless))
      · intro o c hc m hfailed
        rw [segmentsBelow, hc] at hfailed
        cases hfailed

end Selection

end Eip0045.Calibration
