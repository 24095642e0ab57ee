import Mathlib
import Eip0045.Inventory.Custody

/-! Rounds of retries of the two failures of the inventory, and what holds of every run. -/

namespace Eip0045.Inventory

open Ledger Event

variable {S : PhysicalRootfsInventorySlot}

section Rounds

variable {φ α : Type}

/-- A round of retries consumes a failure once, and leaves a success as it is. -/
inductive Round : Except φ α → List (φ × Except φ α) → Except φ α → Prop
  | settled (a : α) : Round (.ok a) [] (.ok a)
  | again (failure : φ) (outcome : Except φ α) : Round (.error failure) [(failure, outcome)] outcome

inductive Rounds (initial : Except φ α) : ℕ → List (φ × Except φ α) → Except φ α → Prop
  | start : Rounds initial 0 [] initial
  | next {n : ℕ} {calls more : List (φ × Except φ α)} {outcome outcome' : Except φ α}
    (h : Rounds initial n calls outcome) (hround : Round outcome more outcome') :
    Rounds initial (n + 1) (calls ++ more) outcome'

/-- What an array keeps of a cleanup: nothing where none ran, and otherwise its outcome. -/
inductive Kept (R : Except φ α → List (φ × Except φ α) → Except φ α → Prop) :
    Option (Except φ α) → List (φ × Except φ α) → Option (Except φ α) → Prop
  | absent : Kept R none [] none
  | present {outcome outcome' : Except φ α} {calls : List (φ × Except φ α)}
    (h : R outcome calls outcome') : Kept R (some outcome) calls (some outcome')

lemma Kept.next {n : ℕ} {initial outcome outcome' : Option (Except φ α)}
    {calls more : List (φ × Except φ α)}
    (h : Kept (fun initial => Rounds initial n) initial calls outcome)
    (hround : Kept Round outcome more outcome') :
    Kept (fun initial => Rounds initial (n + 1)) initial (calls ++ more) outcome' := by
  cases h with
  | absent =>
    cases hround
    exact .absent
  | present h =>
    cases hround with
    | present hround => exact .present (h.next hround)

end Rounds

namespace Event

def acquisitionRetry? : Event S → Option (S.AcquisitionFailure × Except S.AcquisitionFailure S.Error)
  | retriedAcquisition failure outcome => some (failure, outcome)
  | authenticated .. | discarded _ | closed .. => none

def cleanupRetryAt (index : Fin authenticatedOciInventorySize) :
    Event S → Option (S.CleanupFailure × CleanupOutcome S)
  | closed index' (.inr failure) outcome =>
    if index' = index then some (failure, outcome) else none
  | authenticated .. | discarded _ | retriedAcquisition .. | closed _ (.inl _) _ => none

/-- An event of a retry, which consumes an earlier failure. -/
def IsRetry : Event S → Prop
  | retriedAcquisition .. | closed _ (.inr _) _ => True
  | authenticated .. | discarded _ | closed _ (.inl _) _ => False

end Event

def acquisitionRetries (events : List (Event S)) :
    List (S.AcquisitionFailure × Except S.AcquisitionFailure S.Error) :=
  events.filterMap acquisitionRetry?

def cleanupRetries (index : Fin authenticatedOciInventorySize) (events : List (Event S)) :
    List (S.CleanupFailure × CleanupOutcome S) :=
  events.filterMap (cleanupRetryAt index)

section Round

/-- One slot's part in a round: its outcome alone is retried. -/
structure Closes (index : Fin authenticatedOciInventorySize) (outcome outcome' : CleanupOutcome S)
    (events : List (Event S)) : Prop where
  retries : ∀ event ∈ events, event.IsRetry
  acquisition : acquisitionRetries events = []
  round : Round outcome (cleanupRetries index events) outcome'
  others : ∀ other ≠ index, cleanupRetries other events = []

lemma retryOutcome_emits (index : Fin authenticatedOciInventorySize) (outcome : CleanupOutcome S) :
    Emits (retryPhysicalRootfsCleanupOutcome index outcome) (Closes index outcome) := by
  cases outcome with
  | ok abandonment =>
    exact emits_pure ⟨fun _ h => absurd h List.not_mem_nil, rfl, .settled abandonment, fun _ _ => rfl⟩
  | error failure =>
    apply emits_call
    intro outcome'
    refine ⟨?_, rfl, ?_, ?_⟩
    · intro event hevent
      rw [List.mem_singleton.mp hevent]
      trivial
    · have hcalls : cleanupRetries index [.closed index (.inr failure) outcome'] =
          [(failure, outcome')] := by
        simp only [cleanupRetries, List.filterMap_cons, cleanupRetryAt, if_true, List.filterMap_nil]
      rw [hcalls]
      exact .again failure outcome'
    · intro other hother
      simp only [cleanupRetries, List.filterMap_cons, cleanupRetryAt, if_neg (Ne.symm hother),
        List.filterMap_nil]

lemma retryOutcomes_emits (indices : List (Fin authenticatedOciInventorySize))
    (outcomes : Slots (Option (CleanupOutcome S))) (hd : indices.Nodup) :
    Emits (retryOutcomes outcomes indices) fun outcomes' events =>
      (∀ event ∈ events, event.IsRetry) ∧ acquisitionRetries events = [] ∧
        (∀ index ∈ indices, Kept Round (outcomes index) (cleanupRetries index events)
          (outcomes' index)) ∧
        ∀ index ∉ indices, cleanupRetries index events = [] ∧ outcomes' index = outcomes index := by
  induction indices generalizing outcomes with
  | nil =>
    apply emits_pure
    exact ⟨fun _ h => absurd h List.not_mem_nil, rfl, fun _ h => absurd h List.not_mem_nil,
      fun _ _ => ⟨rfl, rfl⟩⟩
  | cons index indices ih =>
    rw [List.nodup_cons] at hd
    rw [retryOutcomes]
    cases hindex : outcomes index with
    | none =>
      apply (ih outcomes hd.2).mono
      rintro outcomes' events ⟨hretries, hacquisition, hin, hout⟩
      refine ⟨hretries, hacquisition, ?_, ?_⟩
      · intro other hother
        obtain rfl | hother := List.mem_cons.mp hother
        · rw [(hout other hd.1).1, (hout other hd.1).2, hindex]
          exact .absent
        · exact hin other hother
      · exact fun other hother => hout other fun hmem => hother (List.mem_cons_of_mem _ hmem)
    | some outcome =>
      apply (retryOutcome_emits index outcome).bind
      intro outcome' events hcloses
      apply (ih (Function.update outcomes index (some outcome')) hd.2).mono
      rintro outcomes' more ⟨hretries, hacquisition, hin, hout⟩
      have hcalls : ∀ other, cleanupRetries other (events ++ more) =
          cleanupRetries other events ++ cleanupRetries other more :=
        fun other => List.filterMap_append
      refine ⟨?_, ?_, ?_, ?_⟩
      · intro event hevent
        obtain hevent | hevent := List.mem_append.mp hevent
        · exact hcloses.retries event hevent
        · exact hretries event hevent
      · rw [acquisitionRetries, List.filterMap_append, ← acquisitionRetries, hcloses.acquisition]
        exact hacquisition
      · intro other hother
        rw [hcalls]
        obtain rfl | hother := List.mem_cons.mp hother
        · rw [(hout other hd.1).1, (hout other hd.1).2, Function.update_self, List.append_nil, hindex]
          exact .present hcloses.round
        · have hne : other ≠ index := fun heq => hd.1 (heq ▸ hother)
          have hkept := hin other hother
          rw [Function.update_of_ne hne] at hkept
          rwa [hcloses.others other hne, List.nil_append]
      · intro other hother
        rw [List.mem_cons, not_or] at hother
        obtain ⟨hnone, hsame⟩ := hout other hother.2
        rw [Function.update_of_ne hother.1] at hsame
        rw [hcalls, hcloses.others other hother.1, hnone]
        exact ⟨rfl, hsame⟩

end Round

section Acquisition

def PhysicalRootfsInventoryAcquisitionPrimaryState.outcome :
    PhysicalRootfsInventoryAcquisitionPrimaryState S → Except S.AcquisitionFailure S.Error
  | .nonRetry primary => .ok primary
  | .currentSlot failure => .error failure

/-- What rounds of retries make of an acquisition's failure. -/
structure Retried (initial : PhysicalRootfsInventoryAcquisitionFailure S) (n : ℕ)
    (final : PhysicalRootfsInventoryAcquisitionFailure S) (events : List (Event S)) : Prop where
  retries : ∀ event ∈ events, event.IsRetry
  primary : Rounds initial.primary.outcome n (acquisitionRetries events) final.primary.outcome
  secondary : final.secondary = initial.secondary
  outcomes : ∀ index, Kept (fun outcome => Rounds outcome n) (initial.cleanupOutcomes index)
    (cleanupRetries index events) (final.cleanupOutcomes index)

/-- A retry yields the primary error when no failed outcome remains, and the failure otherwise. -/
inductive Concludes (final : PhysicalRootfsInventoryAcquisitionFailure S) :
    Except (PhysicalRootfsInventoryAcquisitionFailure S) S.Error → Prop
  | closed (primary : S.Error) (hprimary : final.primary = .nonRetry primary)
    (hclosed : ∀ index failure, final.cleanupOutcomes index ≠ some (.error failure)) :
    Concludes final (.ok (ownPhysicalRootfsInventoryFailures primary final.secondary))
  | primaryPending (failure : S.AcquisitionFailure) (hprimary : final.primary = .currentSlot failure) :
    Concludes final (.error final)
  | cleanupPending (index : Fin authenticatedOciInventorySize) (failure : S.CleanupFailure)
    (houtcome : final.cleanupOutcomes index = some (.error failure)) :
    Concludes final (.error final)

lemma anyFailed_iff (outcomes : Slots (Option (CleanupOutcome S))) :
    anyFailed outcomes = true ↔ ∃ index failure, outcomes index = some (.error failure) := by
  simp only [anyFailed, List.any_eq_true, List.mem_finRange, true_and]
  refine exists_congr fun index => ?_
  obtain _ | outcome := outcomes index
  · simp only [Option.any_none, Bool.false_eq_true, reduceCtorEq, exists_false]
  · cases outcome <;> simp [CleanupOutcome.isErr]

lemma concludeAcquisition_concludes (final : PhysicalRootfsInventoryAcquisitionFailure S) :
    Concludes final
      (concludeAcquisition final.primary final.secondary final.cleanupOutcomes) := by
  obtain ⟨primary, secondary, outcomes⟩ := final
  have hfailed := anyFailed_iff outcomes
  cases primary with
  | currentSlot failure => exact .primaryPending failure rfl
  | nonRetry primary =>
    cases hany : anyFailed outcomes with
    | false =>
      rw [hany] at hfailed
      simp only [concludeAcquisition, hany]
      apply Concludes.closed primary rfl
      intro index failure houtcome
      exact absurd (hfailed.mpr ⟨index, failure, houtcome⟩) Bool.false_ne_true
    | true =>
      obtain ⟨index, failure, houtcome⟩ := hfailed.mp hany
      simp only [concludeAcquisition, hany]
      exact .cleanupPending index failure houtcome

lemma Concludes.failure_eq {final failure : PhysicalRootfsInventoryAcquisitionFailure S}
    (h : Concludes final (.error failure)) : failure = final := by
  cases h <;> rfl

lemma retryPrimary_emits (primary : PhysicalRootfsInventoryAcquisitionPrimaryState S) :
    Emits (retryPrimary primary) fun primary' events => (∀ event ∈ events, event.IsRetry) ∧
      Round primary.outcome (acquisitionRetries events) primary'.outcome ∧
        ∀ index, cleanupRetries index events = [] := by
  cases primary with
  | nonRetry primary =>
    exact emits_pure ⟨fun _ h => absurd h List.not_mem_nil, .settled primary, fun _ => rfl⟩
  | currentSlot failure =>
    apply Emits.bind (P := fun outcome events => events = [.retriedAcquisition failure outcome])
      (emits_call fun _ => rfl)
    rintro outcome _ rfl
    have hretry : ∀ event ∈ [Event.retriedAcquisition (S := S) failure outcome],
        event.IsRetry := by
      intro event hevent
      rw [List.mem_singleton.mp hevent]
      trivial
    cases outcome <;> exact emits_pure ⟨hretry, .again failure _, fun _ => rfl⟩

lemma retryAcquisition_emits (initial : PhysicalRootfsInventoryAcquisitionFailure S) (n : ℕ)
    (failure : PhysicalRootfsInventoryAcquisitionFailure S) (before : List (Event S)) (h : Retried initial n failure before) :
    Emits failure.retryCleanup fun result events =>
      ∃ final, Retried initial (n + 1) final (before ++ events) ∧ Concludes final result := by
  apply (retryPrimary_emits failure.primary).bind
  rintro primary events ⟨hretries, hround, hnone⟩
  apply (retryOutcomes_emits (List.finRange authenticatedOciInventorySize).reverse
    failure.cleanupOutcomes (List.nodup_reverse.mpr (List.nodup_finRange _))).bind
  rintro outcomes more ⟨hretries', hnone', hkept, -⟩
  apply emits_pure
  refine ⟨⟨primary, failure.secondary, outcomes⟩, ⟨?_, ?_, h.secondary, ?_⟩,
    concludeAcquisition_concludes ⟨primary, failure.secondary, outcomes⟩⟩
  · intro event hevent
    simp only [List.mem_append, List.append_nil] at hevent
    obtain hevent | hevent | hevent := hevent
    · exact h.retries event hevent
    · exact hretries event hevent
    · exact hretries' event hevent
  · have hcalls : acquisitionRetries (before ++ (events ++ (more ++ []))) =
        acquisitionRetries before ++ acquisitionRetries events := by
      simp only [acquisitionRetries, List.filterMap_append, List.append_nil]
      rw [← acquisitionRetries.eq_1 more, hnone', List.append_nil]
    rw [hcalls]
    exact h.primary.next hround
  · intro index
    have hcalls : cleanupRetries index (before ++ (events ++ (more ++ []))) =
        cleanupRetries index before ++ cleanupRetries index more := by
      simp only [cleanupRetries, List.filterMap_append, List.append_nil]
      rw [← cleanupRetries.eq_1 index events, hnone, List.nil_append]
    rw [hcalls]
    exact (h.outcomes index).next
      (hkept index (List.mem_reverse.mpr (List.mem_finRange index)))

end Acquisition

section Cleanup

/-- What rounds of retries make of the four outcomes of an inventory's cleanup. -/
structure CleanupRetried (initial : PhysicalRootfsInventoryCleanupFailure S) (n : ℕ)
    (final : PhysicalRootfsInventoryCleanupFailure S) (events : List (Event S)) : Prop where
  retries : ∀ event ∈ events, event.IsRetry
  outcomes : ∀ index,
    Rounds (initial.outcomes index) n (cleanupRetries index events) (final.outcomes index)

/-- A cleanup yields its abandonments, slot by slot, when no failed outcome remains. -/
inductive CleanupConcludes (final : PhysicalRootfsInventoryCleanupFailure S) :
    Except (PhysicalRootfsInventoryCleanupFailure S) (Slots S.Abandonment) → Prop
  | closed (abandonments : Slots S.Abandonment)
    (h : ∀ index, final.outcomes index = .ok (abandonments index)) :
    CleanupConcludes final (.ok abandonments)
  | pending (index : Fin authenticatedOciInventorySize) (failure : S.CleanupFailure)
    (h : final.outcomes index = .error failure) : CleanupConcludes final (.error final)

lemma CleanupConcludes.failure_eq {final failure : PhysicalRootfsInventoryCleanupFailure S}
    (h : CleanupConcludes final (.error failure)) : failure = final := by
  cases h
  rfl

lemma finish_concludes (outcomes : Slots (CleanupOutcome S)) :
    CleanupConcludes ⟨outcomes⟩ (finishPhysicalRootfsInventoryCleanup outcomes) := by
  unfold finishPhysicalRootfsInventoryCleanup
  split
  next hall =>
    apply CleanupConcludes.closed
    intro index
    obtain ⟨abandonment, hsome⟩ := Option.isSome_iff_exists.mp (hall index)
    rw [Option.get_of_eq_some _ hsome]
    cases houtcome : outcomes index with
    | ok other =>
      rw [houtcome] at hsome
      exact houtcome.trans (congrArg Except.ok (Option.some.inj hsome))
    | error failure =>
      rw [houtcome] at hsome
      cases hsome
  next hall =>
    rw [not_forall] at hall
    obtain ⟨index, hindex⟩ := hall
    cases houtcome : outcomes index with
    | ok abandonment =>
      rw [houtcome] at hindex
      exact absurd rfl hindex
    | error failure => exact .pending index failure houtcome

lemma retryCleanup_emits (initial : PhysicalRootfsInventoryCleanupFailure S) (n : ℕ)
    (failure : PhysicalRootfsInventoryCleanupFailure S) (before : List (Event S)) (h : CleanupRetried initial n failure before) :
    Emits failure.retryCleanup fun result events =>
      ∃ final, CleanupRetried initial (n + 1) final (before ++ events) ∧
        CleanupConcludes final result := by
  apply (retryOutcome_emits 3 (failure.outcomes 3)).bind
  intro three events₃ h₃
  apply (retryOutcome_emits 2 (failure.outcomes 2)).bind
  intro two events₂ h₂
  apply (retryOutcome_emits 1 (failure.outcomes 1)).bind
  intro one events₁ h₁
  apply (retryOutcome_emits 0 (failure.outcomes 0)).bind
  intro zero events₀ h₀
  apply emits_pure
  refine ⟨⟨![zero, one, two, three]⟩, ⟨?_, ?_⟩, finish_concludes _⟩
  · intro event hevent
    simp only [List.mem_append, List.append_nil] at hevent
    obtain hevent | hevent | hevent | hevent | hevent := hevent
    · exact h.retries event hevent
    · exact h₃.retries event hevent
    · exact h₂.retries event hevent
    · exact h₁.retries event hevent
    · exact h₀.retries event hevent
  · intro index
    have hcalls : cleanupRetries index (before ++ (events₃ ++ (events₂ ++ (events₁ ++
        (events₀ ++ []))))) = cleanupRetries index before ++ (cleanupRetries index events₃ ++
          (cleanupRetries index events₂ ++ (cleanupRetries index events₁ ++
            cleanupRetries index events₀))) := by
      simp only [cleanupRetries, List.filterMap_append, List.append_nil]
    rw [hcalls]
    apply (h.outcomes index).next
    have hindex : ∀ index : Fin authenticatedOciInventorySize,
        index = 0 ∨ index = 1 ∨ index = 2 ∨ index = 3 := by decide
    obtain rfl | rfl | rfl | rfl := hindex index
    · have hround := h₀.round
      rw [h₃.others 0 (by decide), h₂.others 0 (by decide), h₁.others 0 (by decide)]
      exact hround
    · have hround := h₁.round
      rw [h₃.others 1 (by decide), h₂.others 1 (by decide), h₀.others 1 (by decide),
        List.append_nil]
      exact hround
    · have hround := h₂.round
      rw [h₃.others 2 (by decide), h₁.others 2 (by decide), h₀.others 2 (by decide),
        List.append_nil, List.append_nil]
      exact hround
    · have hround := h₃.round
      rw [h₂.others 3 (by decide), h₁.others 3 (by decide), h₀.others 3 (by decide),
        List.append_nil, List.append_nil, List.append_nil]
      exact hround

lemma cleanupInventory_emits (retained : Slots S.Retained) :
    Emits (cleanupRetainedPhysicalRootfsInventorySlots retained) fun result events =>
      ∃ outcomes : Slots (CleanupOutcome S), events = (List.ofFn fun index =>
        .closed index (.inl (retained index)) (outcomes index)).reverse ∧
          CleanupConcludes ⟨outcomes⟩ result := by
  have hcall : ∀ index, Emits (cleanup index (retained index)) fun outcome events =>
      events = [.closed index (.inl (retained index)) outcome] :=
    fun index => emits_call fun _ => rfl
  apply (hcall 3).bind
  rintro three _ rfl
  apply (hcall 2).bind
  rintro two _ rfl
  apply (hcall 1).bind
  rintro one _ rfl
  apply (hcall 0).bind
  rintro zero _ rfl
  apply emits_pure
  refine ⟨![zero, one, two, three], ?_, finish_concludes _⟩
  simp only [List.ofFn_succ, List.ofFn_zero]
  rfl

end Cleanup

/-- Whatever the calls answer and however many rounds of retries there are: each slot is retained,
failed or discarded, and just once; a failure's earlier slots are cleaned once, from the last back,
and its later ones are discarded; a round consumes each failed outcome once and keeps the others;
and the rounds yield the primary error, or the abandonments, once no failed outcome remains. -/
theorem every_slot_closed_exactly_once (S : PhysicalRootfsInventorySlot) :
    (∀ (slots : Slots S.Slot) (expectations : Slots S.Expectation),
      Emits (authenticatePhysicalRootfsInventorySlots slots expectations) fun acquisition events =>
        Acquires slots acquisition events ∧ (events.filterMap slot?).Perm (List.ofFn slots)) ∧
    (∀ (failure : PhysicalRootfsInventoryAcquisitionFailure S) (more : ℕ),
      Emits (retryRounds PhysicalRootfsInventoryAcquisitionFailure.retryCleanup more failure)
        fun result events => ∃ rounds ≤ more, ∃ final, Retried failure (rounds + 1) final events ∧
          Concludes final result ∧ (rounds < more → result.isOk)) ∧
    (∀ retained : Slots S.Retained,
      Emits (cleanupRetainedPhysicalRootfsInventorySlots retained) fun result events =>
        ∃ outcomes : Slots (CleanupOutcome S), events = (List.ofFn fun index =>
          .closed index (.inl (retained index)) (outcomes index)).reverse ∧
            CleanupConcludes ⟨outcomes⟩ result) ∧
    ∀ (failure : PhysicalRootfsInventoryCleanupFailure S) (more : ℕ),
      Emits (retryRounds PhysicalRootfsInventoryCleanupFailure.retryCleanup more failure)
        fun result events => ∃ rounds ≤ more, ∃ final,
          CleanupRetried failure (rounds + 1) final events ∧ CleanupConcludes final result ∧
            (rounds < more → result.isOk) := by
  refine ⟨?_, ?_, cleanupInventory_emits, ?_⟩
  · intro slots expectations
    apply (acquisition_emits slots expectations).mono
    exact fun _ _ hacquires => ⟨hacquires, hacquires.consumes_each_slot⟩
  · intro failure more
    have hstart : Retried failure 0 failure [] := by
      refine ⟨fun _ h => absurd h List.not_mem_nil, .start, rfl, ?_⟩
      intro index
      cases failure.cleanupOutcomes index with
      | none => exact .absent
      | some outcome => exact .present .start
    apply (emits_retryRounds (fun _ _ => Concludes.failure_eq) (retryAcquisition_emits failure) more 0
      failure [] hstart).mono
    simp only [Nat.zero_add, List.nil_append]
    exact fun _ _ h => h
  · intro failure more
    have hstart : CleanupRetried failure 0 failure [] :=
      ⟨fun _ h => absurd h List.not_mem_nil, fun _ => .start⟩
    apply (emits_retryRounds (fun _ _ => CleanupConcludes.failure_eq) (retryCleanup_emits failure) more 0
      failure [] hstart).mono
    simp only [Nat.zero_add, List.nil_append]
    exact fun _ _ h => h

end Eip0045.Inventory
