import Mathlib

/-! Computations that call out to an arbitrary world, with a ledger of the calls they make. -/

namespace Eip0045

abbrev Ledger (ω ε : Type) := StateM (ω × List ε)

namespace Ledger

variable {ω ε α β : Type}

/-- One call: the world answers it and moves on, and the ledger keeps the call with its answer. -/
def call (event : α → ε) (answer : ω → α × ω) : Ledger ω ε α := fun s =>
  ((answer s.1).1, (answer s.1).2, s.2 ++ [event (answer s.1).1])

/-- From every world, a computation adds events that are in a relation to its result. -/
def Emits (x : Ledger ω ε α) (P : α → List ε → Prop) : Prop :=
  ∀ w log, ∃ a w' events, StateT.run x (w, log) = (a, (w', log ++ events)) ∧ P a events

variable {x : Ledger ω ε α} {f : α → Ledger ω ε β} {P : α → List ε → Prop} {Q : β → List ε → Prop}

lemma emits_pure {a : α} (h : P a []) : Emits (pure a : Ledger ω ε α) P := by
  intro w log
  exact ⟨a, w, [], by rw [List.append_nil]; rfl, h⟩

lemma emits_call {event : α → ε} {answer : ω → α × ω} (h : ∀ a, P a [event a]) :
    Emits (call event answer) P := by
  intro w log
  exact ⟨(answer w).1, (answer w).2, [event (answer w).1], rfl, h _⟩

lemma Emits.bind (hx : Emits x P)
    (hf : ∀ a events, P a events → Emits (f a) fun b more => Q b (events ++ more)) :
    Emits (x >>= f) Q := by
  intro w log
  obtain ⟨a, w', events, hrun, hp⟩ := hx w log
  obtain ⟨b, w'', more, hrun', hq⟩ := hf a events hp w' (log ++ events)
  refine ⟨b, w'', events ++ more, ?_, hq⟩
  rw [StateT.run_bind, hrun, ← List.append_assoc]
  exact hrun'

lemma Emits.mono {P' : α → List ε → Prop} (hx : Emits x P)
    (h : ∀ a events, P a events → P' a events) : Emits x P' := by
  intro w log
  obtain ⟨a, w', events, hrun, hp⟩ := hx w log
  exact ⟨a, w', events, hrun, h a events hp⟩

section Rounds

variable {F A : Type}

/-- A consuming retry, again and again on the failure it leaves, for one round and `more` others. -/
def retryRounds (retry : F → Ledger ω ε (Except F A)) : ℕ → F → Ledger ω ε (Except F A)
  | 0, failure => retry failure
  | more + 1, failure => do
    let result ← retry failure
    match result with
    | .ok a => pure (.ok a)
    | .error failure => retryRounds retry more failure

lemma emits_retryRounds {retry : F → Ledger ω ε (Except F A)} {I : ℕ → F → List ε → Prop}
    {C : F → Except F A → Prop} (hfailure : ∀ final failure, C final (.error failure) → failure = final)
    (hretry : ∀ n failure events, I n failure events → Emits (retry failure) fun result more =>
      ∃ final, I (n + 1) final (events ++ more) ∧ C final result)
    (more n : ℕ) (failure : F) (events : List ε) (hi : I n failure events) :
    Emits (retryRounds retry more failure) fun result events' =>
      ∃ rounds ≤ more, ∃ final, I (n + rounds + 1) final (events ++ events') ∧ C final result ∧
        (rounds < more → result.isOk) := by
  induction more generalizing n failure events with
  | zero =>
    apply (hretry n failure events hi).mono
    rintro result events' ⟨final, hfinal, hc⟩
    exact ⟨0, le_rfl, final, hfinal, hc, fun h => absurd h (lt_irrefl 0)⟩
  | succ more ih =>
    apply (hretry n failure events hi).bind
    rintro result events' ⟨final, hfinal, hc⟩
    cases result with
    | ok a =>
      apply emits_pure
      rw [List.append_nil]
      exact ⟨0, Nat.zero_le _, final, hfinal, hc, fun _ => rfl⟩
    | error failure' =>
      obtain rfl := hfailure final failure' hc
      apply (ih (n + 1) failure' (events ++ events') hfinal).mono
      rintro result more' ⟨rounds, hrounds, final', hfinal', hc', hstop⟩
      refine ⟨rounds + 1, Nat.succ_le_succ hrounds, final', ?_, hc', ?_⟩
      · rw [List.append_assoc] at hfinal'
        rwa [← Nat.add_assoc, Nat.add_right_comm n rounds 1]
      · exact fun h => hstop (Nat.lt_of_succ_lt_succ h)

end Rounds

end Ledger

end Eip0045
