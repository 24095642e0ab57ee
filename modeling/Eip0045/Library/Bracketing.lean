import Mathlib
import Eip0045.Library.Stateful

/-! A search of the machine words of 32 bits for the place where observations stop being below:
doubling until one is not below, then halving. The observer may answer by all that it was asked. -/

namespace Eip0045.Bracketing

open Checked Stateful

variable {Obs : Type}

abbrev Log (Obs : Type) := List (ℕ × Except String Obs)

abbrev Observer (Obs : Type) := Log Obs → ℕ → Except String Obs

abbrev Search (Obs α : Type) := Stateful (Fault String) (Log Obs) α

def u32Max : ℕ := 2 ^ 32 - 1

def saturatingMul (a b : ℕ) : ℕ := min (a * b) u32Max

section Loops

variable (observe : Observer Obs) (rank : Obs → Except String Bool) (failed : ℕ → String)

def observeAt (message : String) (workload : ℕ) : Search Obs Obs := do
  let log ← get
  modify fun log' => log' ++ [(workload, observe log workload)]
  lift (shown (fun _ => message) (observe log workload))

def probe (message : String) (workload : ℕ) : Search Obs (Obs × Bool) := do
  let observation ← observeAt observe message workload
  let isBelow ← lift (report (rank observation))
  pure (observation, isBelow)

/-- Doubling: the last workload below, the first that is not, and what was observed there. -/
def bracket (exhausted : String) (below high : ℕ) : Search Obs (ℕ × ℕ × Obs) := do
  let probed ← probe observe rank (failed high) high
  if probed.2 then
    if high = u32Max then lift (.error (.reported exhausted))
    else if _h : high + 1 < 2 ^ 32 then
      bracket exhausted high (max (saturatingMul high 2) (high + 1))
    else lift (.error .outOfRange)
  else pure (below, high, probed.1)
termination_by 2 ^ 32 - high
decreasing_by omega

/-- Halving, with the observation at the upper end. -/
def bisect (below high : ℕ) (upper : Obs) : Search Obs (ℕ × Obs) :=
  if 2 ^ 32 ≤ below + 1 then lift (.error .outOfRange)
  else if _h : below + 1 < high then
    if 2 ^ 32 ≤ below + (high - below) / 2 then lift (.error .outOfRange)
    else do
      let middle := below + (high - below) / 2
      let probed ← probe observe rank (failed middle) middle
      if probed.2 then bisect middle high upper
      else bisect below middle probed.1
  else pure (high, upper)
termination_by high - below
decreasing_by all_goals omega

/-- Doubling from one, then halving, after a workload of zero was below. -/
def search (exhausted : String) : Search Obs (ℕ × Obs) := do
  let bounds ← bracket observe rank failed exhausted 0 1
  bisect observe rank failed bounds.1 bounds.2.1 bounds.2.2

end Loops

section Rules

variable {observe : Observer Obs} {rank : Obs → Except String Bool} {failed : ℕ → String}

/-- The log has grown by observations of machine words, each of them answered. -/
def Grown (observe : Observer Obs) (log log' : Log Obs) : Prop :=
  ∃ events, log' = log ++ events ∧
    ∀ event ∈ events, event.1 < 2 ^ 32 ∧ ∃ past, event.2 = observe past event.1

lemma Grown.refl (log : Log Obs) : Grown observe log log :=
  ⟨[], (List.append_nil log).symm, by simp⟩

lemma Grown.trans {log log' log'' : Log Obs} (h : Grown observe log log')
    (h' : Grown observe log' log'') : Grown observe log log'' := by
  obtain ⟨events, rfl, hevents⟩ := h
  obtain ⟨events', rfl, hevents'⟩ := h'
  refine ⟨events ++ events', List.append_assoc _ _ _, ?_⟩
  intro event hevent
  rcases List.mem_append.mp hevent with hevent | hevent
  · exact hevents event hevent
  · exact hevents' event hevent

lemma Grown.mem {log log' : Log Obs} (h : Grown observe log log')
    {event : ℕ × Except String Obs} (hevent : event ∈ log) : event ∈ log' := by
  obtain ⟨events, rfl, -⟩ := h
  exact List.mem_append_left _ hevent

/-- Why a search stops: an observation or its ranking failed, or the words were exhausted. -/
def Blamed (rank : Obs → Except String Bool) (log : Log Obs) : Prop :=
  (∃ workload message, (workload, .error message) ∈ log) ∨
    (∃ workload observation message, (workload, .ok observation) ∈ log ∧
      rank observation = .error message) ∨
    ∃ observation, (u32Max, .ok observation) ∈ log ∧ rank observation = .ok true

def Seen (rank : Obs → Except String Bool) (log : Log Obs) (workload : ℕ) (observation : Obs)
    (isBelow : Bool) : Prop :=
  (workload, .ok observation) ∈ log ∧ rank observation = .ok isBelow

lemma Grown.seen {log log' : Log Obs} (h : Grown observe log log') {workload : ℕ}
    {observation : Obs} {isBelow : Bool} (hseen : Seen rank log workload observation isBelow) :
    Seen rank log' workload observation isBelow := ⟨h.mem hseen.1, hseen.2⟩

/-- A run from a log on: it keeps the log, wraps no word, and leaves `P` when it returns and `E` when
it stops. -/
structure Runs (observe : Observer Obs) {α : Type} (x : Search Obs α) (log : Log Obs)
    (P : α → Log Obs → Prop) (E : Log Obs → Prop) : Prop where
  grown : Grown observe log (exec x log).2
  ok : ∀ a, (exec x log).1 = .ok a → P a (exec x log).2
  error : ∀ e, (exec x log).1 = .error e → e ≠ .outOfRange ∧ E (exec x log).2

variable {α β : Type} {log : Log Obs} {P : α → Log Obs → Prop} {Q : β → Log Obs → Prop}
  {E : Log Obs → Prop}

lemma runs_pure {a : α} (h : P a log) : Runs observe (pure a) log P E where
  grown := Grown.refl log
  ok b hb := by
    rw [exec_pure, Except.ok.injEq] at hb
    exact hb ▸ h
  error e he := by
    rw [exec_pure] at he
    cases he

lemma runs_lift {x : Except String α} (hok : ∀ a, x = .ok a → P a log)
    (herror : ∀ e, x = .error e → E log) : Runs observe (lift (report x)) log P E where
  grown := Grown.refl log
  ok a ha := by
    rw [exec_lift] at ha ⊢
    exact hok a (report_ok.mp ha)
  error e he := by
    rw [exec_lift] at he ⊢
    cases x with
    | ok a => cases he
    | error message =>
      cases he
      exact ⟨by simp, herror message rfl⟩

lemma runs_bind {x : Search Obs α} {f : α → Search Obs β} (hx : Runs observe x log P E)
    (hf : ∀ a log', Grown observe log log' → P a log' → Runs observe (f a) log' Q E) :
    Runs observe (x >>= f) log Q E := by
  have hbind := exec_bind x f log
  rcases hexec : exec x log with ⟨e | a, log'⟩
  · rw [hexec] at hbind
    have hgrown := hx.grown
    have herror := hx.error e (by rw [hexec])
    rw [hexec] at hgrown herror
    refine ⟨by rwa [hbind], ?_, ?_⟩
    · intro b hb
      rw [hbind] at hb
      cases hb
    · intro e' he'
      rw [hbind] at he' ⊢
      cases he'
      exact herror
  · rw [hexec] at hbind
    have hgrown := hx.grown
    have hok := hx.ok a (by rw [hexec])
    rw [hexec] at hgrown hok
    have hrest := hf a log' hgrown hok
    refine ⟨?_, ?_, ?_⟩
    · rw [hbind]
      exact hgrown.trans hrest.grown
    · intro b hb
      rw [hbind] at hb ⊢
      exact hrest.ok b hb
    · intro e he
      rw [hbind] at he ⊢
      exact hrest.error e he

lemma runs_mono {x : Search Obs α} {P' : α → Log Obs → Prop} {E' : Log Obs → Prop}
    (hx : Runs observe x log P E) (hP : ∀ a log', Grown observe log log' → P a log' → P' a log')
    (hE : ∀ log', Grown observe log log' → E log' → E' log') : Runs observe x log P' E' where
  grown := hx.grown
  ok a ha := hP a _ hx.grown (hx.ok a ha)
  error e he := ⟨(hx.error e he).1, hE _ hx.grown (hx.error e he).2⟩

lemma runs_observeAt (message : String) {workload : ℕ} (h : workload < 2 ^ 32) :
    Runs observe (observeAt observe message workload) log
      (fun observation log' => log'.length = log.length + 1 ∧ (workload, .ok observation) ∈ log')
      (fun log' => log'.length = log.length + 1 ∧ Blamed rank log') := by
  set log' := log ++ [(workload, observe log workload)] with hlog'
  have hlength : log'.length = log.length + 1 := by simp [hlog']
  have hmem : (workload, observe log workload) ∈ log' := by simp [hlog']
  have hexec : exec (observeAt observe message workload) log =
      (shown (fun _ => message) (observe log workload), log') := by
    rw [observeAt, exec_get_bind, exec_modify_bind, exec_lift]
  refine ⟨?_, ?_, ?_⟩
  · rw [hexec]
    refine ⟨_, rfl, ?_⟩
    intro event hevent
    rw [List.mem_singleton.mp hevent]
    exact ⟨h, log, rfl⟩
  · intro observation hok
    rw [hexec] at hok ⊢
    rw [shown_ok.mp hok] at hmem
    exact ⟨hlength, hmem⟩
  · intro e he
    rw [hexec] at he ⊢
    cases hanswer : observe log workload with
    | ok observation =>
      rw [hanswer] at he
      cases he
    | error cause =>
      rw [hanswer] at he hmem
      cases he
      exact ⟨by simp, hlength, .inl ⟨workload, cause, hmem⟩⟩

lemma runs_probe (message : String) {workload : ℕ} (h : workload < 2 ^ 32) :
    Runs observe (probe observe rank message workload) log
      (fun probed log' => log'.length = log.length + 1 ∧ Seen rank log' workload probed.1 probed.2)
      (fun log' => log'.length = log.length + 1 ∧ Blamed rank log') := by
  rw [probe]
  refine runs_bind (runs_observeAt message h) ?_
  intro observation log' _ hobserved
  obtain ⟨hlength, hmem⟩ := hobserved
  refine runs_bind (runs_lift (P := fun isBelow log'' => log'' = log' ∧ rank observation = .ok isBelow)
    (fun isBelow hrank => ⟨rfl, hrank⟩) ?_) ?_
  · intro cause hrank
    exact ⟨hlength, .inr (.inl ⟨workload, observation, cause, hmem, hrank⟩)⟩
  · intro isBelow log'' _ hranked
    obtain ⟨rfl, hrank⟩ := hranked
    exact runs_pure ⟨hlength, hmem, hrank⟩

/-- Where doubling ends: between a workload below and one that is not, at most half of the last
step apart. -/
structure Bracketed (rank : Obs → Except String Bool) (log : Log Obs) (k : ℕ)
    (bounds : ℕ × ℕ × Obs) : Prop where
  lt : bounds.1 < bounds.2.1
  word : bounds.2.1 < 2 ^ 32
  near : bounds.2.1 - bounds.1 ≤ 2 ^ (k - 1)
  below : ∃ observation, Seen rank log bounds.1 observation true
  upper : Seen rank log bounds.2.1 bounds.2.2 false

lemma double_step {k : ℕ} (hk : k < 32) :
    max (saturatingMul (min (2 ^ k) u32Max) 2) (min (2 ^ k) u32Max + 1) = min (2 ^ (k + 1)) u32Max ∧
      min (2 ^ k) u32Max = 2 ^ k := by
  have hall : ∀ k < 32, max (saturatingMul (min (2 ^ k) u32Max) 2) (min (2 ^ k) u32Max + 1) =
      min (2 ^ (k + 1)) u32Max ∧ min (2 ^ k) u32Max = 2 ^ k := by decide
  exact hall k hk

lemma runs_bracket {failed : ℕ → String} {exhausted : String} {k : ℕ} (hk : k ≤ 32) {below : ℕ}
    (hbelow : below < min (2 ^ k) u32Max) (hnear : min (2 ^ k) u32Max - below ≤ 2 ^ (k - 1))
    (hseen : ∃ observation, Seen rank log below observation true) :
    Runs observe (bracket observe rank failed exhausted below (min (2 ^ k) u32Max)) log
      (fun bounds log' => ∃ k', k ≤ k' ∧ k' ≤ 32 ∧ log'.length = log.length + (k' - k + 1) ∧
        Bracketed rank log' k' bounds)
      (fun log' => log'.length ≤ log.length + (33 - k) ∧ Blamed rank log') := by
  obtain ⟨n, hn⟩ : ∃ n, 32 = k + n := ⟨32 - k, by omega⟩
  induction n generalizing k below log with
  | zero =>
    obtain rfl : k = 32 := by omega
    have hmax : min (2 ^ 32) u32Max = u32Max := by decide
    have hmaxWord : u32Max < 2 ^ 32 := by decide
    rw [hmax] at hbelow hnear ⊢
    rw [bracket]
    refine runs_bind (runs_mono (runs_probe (failed u32Max) (by decide)) (fun _ _ _ h => h)
      fun log' _ h => ⟨by omega, h.2⟩) ?_
    intro probed log' hgrown hprobed
    obtain ⟨hlength, hprobe⟩ := hprobed
    split
    · rename_i hrank
      rw [hrank] at hprobe
      rw [if_pos rfl]
      refine runs_lift (x := .error exhausted) (fun a ha => by cases ha) fun _ _ => ⟨by omega, ?_⟩
      exact .inr (.inr ⟨probed.1, hprobe⟩)
    · rename_i hrank
      rw [Bool.not_eq_true] at hrank
      rw [hrank] at hprobe
      obtain ⟨observation, hbelow'⟩ := hseen
      exact runs_pure ⟨32, le_rfl, le_rfl, by omega,
        ⟨hbelow, hmaxWord, hnear, ⟨observation, hgrown.seen hbelow'⟩, hprobe⟩⟩
  | succ n ih =>
    have hlt : k < 32 := by omega
    obtain ⟨hdouble, hpower⟩ := double_step hlt
    have hword : 2 ^ k < 2 ^ 32 - 1 := by
      have hle : 2 ^ k ≤ 2 ^ 31 := Nat.pow_le_pow_right (by decide) (by omega)
      omega
    have hpowerWord : 2 ^ k < 2 ^ 32 := by omega
    rw [bracket, hdouble]
    rw [hpower] at hbelow hnear ⊢
    refine runs_bind (runs_mono (runs_probe (failed (2 ^ k)) (by omega)) (fun _ _ _ h => h)
      fun log' _ h => ⟨by omega, h.2⟩) ?_
    intro probed log' hgrown hprobed
    obtain ⟨hlength, hprobe⟩ := hprobed
    split
    · rename_i hrank
      rw [hrank] at hprobe
      rw [if_neg (by rw [u32Max]; omega), dif_pos (by omega)]
      have hnext : min (2 ^ (k + 1)) u32Max ≤ 2 ^ (k + 1) := min_le_left _ _
      have hgap : min (2 ^ (k + 1)) u32Max - 2 ^ k ≤ 2 ^ (k + 1 - 1) := by
        rw [Nat.add_sub_cancel]
        rw [pow_succ] at hnext ⊢
        omega
      have hstep : 2 ^ k < min (2 ^ (k + 1)) u32Max := by
        rw [lt_min_iff, u32Max]
        exact ⟨Nat.pow_lt_pow_right (by decide) (by omega), by omega⟩
      refine runs_mono (ih (by omega) hstep hgap ⟨probed.1, hprobe⟩ (by omega)) ?_ ?_
      · intro bounds log'' _ h
        obtain ⟨k', hle, hle', hlength', hbounds⟩ := h
        exact ⟨k', by omega, hle', by omega, hbounds⟩
      · intro log'' _ h
        exact ⟨by omega, h.2⟩
    · rename_i hrank
      rw [Bool.not_eq_true] at hrank
      rw [hrank] at hprobe
      obtain ⟨observation, hbelow'⟩ := hseen
      exact runs_pure ⟨k, le_rfl, hk, by omega,
        ⟨hbelow, hpowerWord, hnear, ⟨observation, hgrown.seen hbelow'⟩, hprobe⟩⟩

lemma runs_bisect {failed : ℕ → String} {n below high : ℕ} {upper : Obs} (hlt : below < high)
    (hword : high < 2 ^ 32) (hnear : high - below ≤ 2 ^ n)
    (hbelow : ∃ observation, Seen rank log below observation true)
    (hupper : Seen rank log high upper false) :
    Runs observe (bisect observe rank failed below high upper) log
      (fun found log' => log'.length ≤ log.length + n ∧ found.1 < 2 ^ 32 ∧ 0 < found.1 ∧
        Seen rank log' found.1 found.2 false ∧
        ∃ observation, Seen rank log' (found.1 - 1) observation true)
      (fun log' => log'.length ≤ log.length + n ∧ Blamed rank log') := by
  induction n generalizing below high upper log with
  | zero =>
    have hnext : high = below + 1 := by omega
    rw [bisect, if_neg (by omega), dif_neg (by omega)]
    subst hnext
    exact runs_pure ⟨by omega, hword, by omega, hupper, hbelow⟩
  | succ n ih =>
    rw [bisect, if_neg (by omega)]
    by_cases hgap : below + 1 < high
    · rw [dif_pos hgap, if_neg (by omega)]
      rw [pow_succ] at hnear
      set middle := below + (high - below) / 2 with hmiddle
      refine runs_bind (runs_mono (runs_probe (failed middle) (by omega)) (fun _ _ _ h => h)
        fun log' _ h => ⟨by omega, h.2⟩) ?_
      intro probed log' hgrown hprobed
      obtain ⟨hlength, hprobe⟩ := hprobed
      split
      · rename_i hrank
        rw [hrank] at hprobe
        refine runs_mono (ih (by omega) hword (by omega) ⟨probed.1, hprobe⟩ (hgrown.seen hupper)) ?_ ?_
        · intro found log'' _ h
          exact ⟨by omega, h.2⟩
        · intro log'' _ h
          exact ⟨by omega, h.2⟩
      · rename_i hrank
        rw [Bool.not_eq_true] at hrank
        rw [hrank] at hprobe
        obtain ⟨observation, hbelow'⟩ := hbelow
        refine runs_mono (ih (by omega) (by omega) (by omega) ⟨observation, hgrown.seen hbelow'⟩
          hprobe) ?_ ?_
        · intro found log'' _ h
          exact ⟨by omega, h.2⟩
        · intro log'' _ h
          exact ⟨by omega, h.2⟩
    · rw [dif_neg hgap]
      obtain rfl : high = below + 1 := by omega
      exact runs_pure ⟨by omega, hword, by omega, hupper, hbelow⟩

lemma runs_search {failed : ℕ → String} {exhausted : String} (hlength : log.length = 1)
    (hzero : ∃ observation, Seen rank log 0 observation true) :
    Runs observe (search observe rank failed exhausted) log
      (fun found log' => log'.length ≤ 65 ∧ found.1 < 2 ^ 32 ∧ 0 < found.1 ∧
        Seen rank log' found.1 found.2 false ∧
        ∃ observation, Seen rank log' (found.1 - 1) observation true)
      (fun log' => log'.length ≤ 65 ∧ Blamed rank log') := by
  have hone : min (2 ^ 0) u32Max = 1 := by decide
  have hbracket : Runs observe (bracket observe rank failed exhausted 0 (min (2 ^ 0) u32Max)) log
      (fun bounds log' => ∃ k', 0 ≤ k' ∧ k' ≤ 32 ∧ log'.length = log.length + (k' - 0 + 1) ∧
        Bracketed rank log' k' bounds)
      (fun log' => log'.length ≤ log.length + (33 - 0) ∧ Blamed rank log') :=
    runs_bracket (by decide) (by decide) (by decide) hzero
  rw [hone] at hbracket
  refine runs_bind (runs_mono hbracket (fun _ _ _ h => h) fun log' _ h => ⟨by omega, h.2⟩) ?_
  intro bounds log' _ h
  obtain ⟨k, -, hk, hlength', hbounds⟩ := h
  refine runs_mono (runs_bisect hbounds.lt hbounds.word hbounds.near hbounds.below hbounds.upper) ?_ ?_
  · intro found log'' _ h
    exact ⟨by omega, h.2⟩
  · intro log'' _ h
    exact ⟨by omega, h.2⟩

end Rules

end Eip0045.Bracketing
