import Mathlib
import Eip0045.Seccomp.Filter

/-! A built filter answers as its policy says, and a stack as all its policies do. -/

namespace Eip0045.Seccomp

open ClassicBpf Checked

section Emitted

/-- The listed calls that a filter compares with. -/
def kept (exactUmountTarget : Option UInt64) (allowed : List SeccompSyscall) : List SeccompSyscall :=
  allowed.filter fun syscall => !(exactUmountTarget.isSome && syscall == .umount2)

def allowance (syscall : SeccompSyscall) : List Instruction :=
  [jump syscall.number 0 1, statement retK seccompRetAllow]

def prologue : List Instruction :=
  [statement ldWAbs seccompDataArchOffset, jump auditArchX8664 1 0,
    statement retK seccompRetKillProcess, statement ldWAbs seccompDataNrOffset]

def umountGate (pointer : UInt64) : List Instruction :=
  [jump SeccompSyscall.umount2.number 0 9, statement ldWAbs seccompDataArg0LowOffset,
    jump (low pointer) 0 7, statement ldWAbs seccompDataArg0HighOffset, jump (high pointer) 0 5,
    statement ldWAbs seccompDataArg1LowOffset, jump 0 0 3,
    statement ldWAbs seccompDataArg1HighOffset, jump 0 0 1, statement retK seccompRetAllow]

def ending (exactUmountTarget : Option UInt64) : List Instruction :=
  exactUmountTarget.elim [] umountGate ++ [statement retK seccompRetKillProcess]

/-- The instructions that the builder pushes. -/
def emitted (policy : SeccompPolicy) (exactUmountTarget : Option UInt64) : List Instruction :=
  prologue ++ ((kept exactUmountTarget policy.allowed).flatMap allowance ++ ending exactUmountTarget)

variable {program program' : FilterProgram} {exactUmountTarget : Option UInt64}

lemma push_ok {instruction : Instruction} : program.push instruction = .ok program' ↔
    program'.instructions = program.instructions ++ [instruction] := by
  rw [FilterProgram.push]
  obtain ⟨instructions', hbound⟩ := program'
  split_ifs with h
  · rw [Except.ok.injEq, FilterProgram.mk.injEq, eq_comm]
  · rw [false_iff]
    rintro rfl
    rw [List.length_append, List.length_singleton] at hbound
    exact h hbound

lemma push_error {instruction : Instruction} {e : SeccompContractError} :
    program.push instruction = .error e ↔
      e = .filterBounds ∧ maxFilterInstructions ≤ program.instructions.length := by
  rw [FilterProgram.push]
  split_ifs with h
  · rw [false_iff]
    omega
  · rw [Except.error.injEq, eq_comm]
    exact ⟨fun he => ⟨he, by omega⟩, fun he => he.1⟩

lemma pushAll_ok {instructions : List Instruction} :
    instructions.foldlM FilterProgram.push program = .ok program' ↔
      program'.instructions = program.instructions ++ instructions := by
  induction instructions generalizing program with
  | nil =>
    obtain ⟨instructions, hbound⟩ := program
    obtain ⟨instructions', hbound'⟩ := program'
    rw [List.foldlM_nil, pure_ok, FilterProgram.mk.injEq, List.append_nil, eq_comm]
  | cons instruction instructions ih =>
    rw [List.foldlM_cons, bind_ok]
    constructor
    · rintro ⟨next, hpush, hrest⟩
      rw [ih.mp hrest, push_ok.mp hpush, List.append_assoc, List.singleton_append]
    · intro h
      have hbound := program'.bounded
      rw [h, List.length_append, List.length_cons] at hbound
      have hnext : (program.instructions ++ [instruction]).length ≤ maxFilterInstructions := by
        rw [List.length_append, List.length_singleton]
        omega
      refine ⟨⟨_, hnext⟩, push_ok.mpr rfl, ih.mpr ?_⟩
      rw [h, List.append_assoc, List.singleton_append]

lemma pushAll_error {instructions : List Instruction} {e : SeccompContractError} :
    instructions.foldlM FilterProgram.push program = .error e ↔
      e = .filterBounds ∧
        maxFilterInstructions < program.instructions.length + instructions.length := by
  induction instructions generalizing program with
  | nil =>
    have hbound := program.bounded
    rw [List.foldlM_nil, List.length_nil]
    constructor
    · intro h
      cases h
    · rintro ⟨-, h⟩
      omega
  | cons instruction instructions ih =>
    rw [List.foldlM_cons, List.length_cons]
    cases hpush : program.push instruction with
    | error e' =>
      obtain ⟨rfl, hfull⟩ := push_error.mp hpush
      rw [error_bind, Except.error.injEq, eq_comm]
      exact ⟨fun he => ⟨he, by omega⟩, fun he => he.1⟩
    | ok next =>
      rw [ok_bind, ih, push_ok.mp hpush, List.length_append, List.length_singleton]
      exact and_congr_right fun _ => by omega

lemma pushAllowed_eq (allowed : List SeccompSyscall) :
    pushAllowed exactUmountTarget program allowed =
      ((kept exactUmountTarget allowed).flatMap allowance).foldlM FilterProgram.push program := by
  induction allowed generalizing program with
  | nil => rfl
  | cons syscall rest ih =>
    rw [pushAllowed, kept]
    have hkeep : (!(exactUmountTarget.isSome && syscall == .umount2)) = true ↔
        ¬(exactUmountTarget.isSome = true ∧ syscall = .umount2) := by
      rw [Bool.not_eq_true', Bool.and_eq_false_iff, not_and_or, Bool.not_eq_true, beq_eq_false_iff_ne]
    split_ifs with h
    · rw [ih, List.filter_cons, if_neg fun hk => hkeep.mp hk h, ← kept]
    · rw [List.filter_cons, if_pos (hkeep.mpr h), ← kept, List.flatMap_cons, allowance,
        List.cons_append, List.cons_append, List.nil_append, List.foldlM_cons]
      refine bind_congr fun next => ?_
      rw [List.foldlM_cons]
      exact bind_congr fun next => ih

lemma buildFilter_eq (policy : SeccompPolicy) (exactUmountTarget : Option UInt64) :
    buildFilter policy exactUmountTarget =
      (emitted policy exactUmountTarget).foldlM FilterProgram.push FilterProgram.new := by
  cases exactUmountTarget <;> simp only [buildFilter, pushAllowed_eq, emitted, prologue, ending,
    umountGate, pushUmountGate, List.foldlM_append, List.foldlM_cons, List.foldlM_nil, Option.elim,
    List.nil_append, List.cons_append, bind_assoc, pure_bind, bind_pure]

end Emitted

section Meaning

variable {data : SeccompData}

/-- What a policy allows: a listed call, and `umount2` of the exact target without flags. -/
def Allows (policy : SeccompPolicy) (exactUmountTarget : Option UInt64) (data : SeccompData) : Prop :=
  data.architecture = auditArchX8664 ∧
    ((∃ syscall ∈ policy.allowed, syscall ≠ .umount2 ∧ data.syscall = syscall.number) ∨
      data.syscall = SeccompSyscall.umount2.number ∧
        exactUmountTarget.elim (.umount2 ∈ policy.allowed) fun target =>
          data.argument0 = target ∧ data.argument1 = 0)

instance (policy : SeccompPolicy) (exactUmountTarget : Option UInt64) (data : SeccompData) :
    Decidable (Allows policy exactUmountTarget data) :=
  match exactUmountTarget with
  | none => inferInstanceAs (Decidable (_ ∧ ((∃ syscall ∈ policy.allowed, _ ∧ _) ∨ _ ∧ _ ∈ _)))
  | some _ =>
    inferInstanceAs (Decidable (_ ∧ ((∃ syscall ∈ policy.allowed, _ ∧ _) ∨ _ ∧ _ = _ ∧ _ = _)))

abbrev evaluate (data : SeccompData) (accumulator : UInt32) (program : List Instruction) :
    Except SeccompContractError UInt32 :=
  eval .filterBounds .kernelInvariant data.load accumulator program

lemma low_toNat (a : UInt64) : (low a).toNat = a.toNat % 2 ^ 32 := by
  rw [low, UInt64.toNat_toUInt32, UInt64.toNat_and]
  exact (congrArg (· % 2 ^ 32) (Nat.and_two_pow_sub_one_eq_mod a.toNat 32)).trans (Nat.mod_mod _ _)

lemma high_toNat (a : UInt64) : (high a).toNat = a.toNat / 2 ^ 32 := by
  have hlt : a.toNat / 2 ^ 32 < 2 ^ 32 := by
    have := a.toNat_lt
    omega
  rw [high, UInt64.toNat_toUInt32, UInt64.toNat_shiftRight, Nat.shiftRight_eq_div_pow]
  exact Nat.mod_eq_of_lt hlt

lemma low_high {a b : UInt64} : low a = low b ∧ high a = high b ↔ a = b := by
  constructor
  · rintro ⟨hlow, hhigh⟩
    rw [← UInt32.toNat_inj, low_toNat, low_toNat] at hlow
    rw [← UInt32.toNat_inj, high_toNat, high_toNat] at hhigh
    apply UInt64.toNat_inj.mp
    omega
  · rintro rfl
    exact ⟨rfl, rfl⟩

lemma evaluate_allowances (allowed : List SeccompSyscall) (accumulator : UInt32)
    (rest : List Instruction) :
    evaluate data accumulator (allowed.flatMap allowance ++ rest) =
      if ∃ syscall ∈ allowed, accumulator = syscall.number then .ok seccompRetAllow
      else evaluate data accumulator rest := by
  induction allowed with
  | nil => simp
  | cons syscall allowed ih =>
    rw [List.flatMap_cons, allowance, List.append_assoc, List.cons_append, evaluate, eval_jump]
    by_cases h : accumulator = syscall.number
    · rw [if_pos h, if_pos ⟨syscall, List.mem_cons_self, h⟩]
      exact eval_ret ..
    · rw [if_neg h]
      have hiff : (∃ s ∈ syscall :: allowed, accumulator = s.number) ↔
          ∃ s ∈ allowed, accumulator = s.number := by
        rw [List.exists_mem_cons_iff, or_iff_right h]
      simp only [hiff]
      exact ih

lemma evaluate_check {offset word : UInt32} (hload : data.load offset = .ok word)
    (accumulator value : UInt32) (skip : UInt8) (rest : List Instruction) :
    evaluate data accumulator (statement ldWAbs offset :: jump value 0 skip :: rest) =
      if word = value then evaluate data word rest
      else evaluate data word (rest.drop skip.toNat) := by
  rw [evaluate, eval_load hload, eval_jump]
  split_ifs <;> rfl

lemma evaluate_umountGate (pointer : UInt64) (accumulator : UInt32) :
    evaluate data accumulator (ending (some pointer)) =
      if accumulator = SeccompSyscall.umount2.number ∧ data.argument0 = pointer ∧ data.argument1 = 0
      then .ok seccompRetAllow else .ok seccompRetKillProcess := by
  have hlow0 : data.load seccompDataArg0LowOffset = .ok (low data.argument0) := rfl
  have hhigh0 : data.load seccompDataArg0HighOffset = .ok (high data.argument0) := rfl
  have hlow1 : data.load seccompDataArg1LowOffset = .ok (low data.argument1) := rfl
  have hhigh1 : data.load seccompDataArg1HighOffset = .ok (high data.argument1) := rfl
  have hzero : low 0 = 0 ∧ high 0 = 0 := by decide
  have hpointer := low_high (a := data.argument0) (b := pointer)
  have hflags := low_high (a := data.argument1) (b := 0)
  rw [hzero.1, hzero.2] at hflags
  simp only [← hpointer, ← hflags]
  -- every failed comparison skips to the last instruction
  have hkill : ∀ accumulator, evaluate data accumulator [statement retK seccompRetKillProcess] =
      .ok seccompRetKillProcess := fun _ => eval_ret ..
  simp only [ending, Option.elim_some, umountGate, List.cons_append, List.nil_append]
  rw [evaluate, eval_jump]
  by_cases hnr : accumulator = SeccompSyscall.umount2.number
  · rw [if_pos hnr]
    change evaluate data accumulator (statement ldWAbs _ :: jump _ 0 7 :: _) = _
    rw [evaluate_check hlow0, evaluate_check hhigh0, evaluate_check hlow1, evaluate_check hhigh1]
    by_cases h0 : low data.argument0 = low pointer
    · by_cases h1 : high data.argument0 = high pointer
      · by_cases h2 : low data.argument1 = 0
        · by_cases h3 : high data.argument1 = 0
          · rw [if_pos h0, if_pos h1, if_pos h2, if_pos h3, if_pos ⟨hnr, ⟨h0, h1⟩, h2, h3⟩]
            exact eval_ret ..
          · rw [if_pos h0, if_pos h1, if_pos h2, if_neg h3, if_neg fun h => h3 h.2.2.2]
            exact hkill _
        · rw [if_pos h0, if_pos h1, if_neg h2, if_neg fun h => h2 h.2.2.1]
          exact hkill _
      · rw [if_pos h0, if_neg h1, if_neg fun h => h1 h.2.1.2]
        exact hkill _
    · rw [if_neg h0, if_neg fun h => h0 h.2.1.1]
      exact hkill _
  · rw [if_neg hnr, if_neg fun h => hnr h.1]
    exact hkill _

lemma mem_kept {exactUmountTarget : Option UInt64} {allowed : List SeccompSyscall}
    {syscall : SeccompSyscall} : syscall ∈ kept exactUmountTarget allowed ↔
      syscall ∈ allowed ∧ (exactUmountTarget.isSome = true → syscall ≠ .umount2) := by
  rw [kept, List.mem_filter, Bool.not_eq_true', Bool.and_eq_false_iff, beq_eq_false_iff_ne,
    ← Bool.not_eq_true, ← imp_iff_not_or]

lemma allows_iff {policy : SeccompPolicy} {exactUmountTarget : Option UInt64}
    (h : data.architecture = auditArchX8664) : Allows policy exactUmountTarget data ↔
      (∃ syscall ∈ kept exactUmountTarget policy.allowed, data.syscall = syscall.number) ∨
        ∃ pointer ∈ exactUmountTarget, data.syscall = SeccompSyscall.umount2.number ∧
          data.argument0 = pointer ∧ data.argument1 = 0 := by
  rw [Allows, and_iff_right h]
  simp only [mem_kept]
  constructor
  · rintro (⟨syscall, hmem, hne, hnr⟩ | ⟨hnr, htarget⟩)
    · exact .inl ⟨syscall, ⟨hmem, fun _ => hne⟩, hnr⟩
    · cases exactUmountTarget with
      | none => exact .inl ⟨.umount2, ⟨htarget, fun h => absurd h Bool.false_ne_true⟩, hnr⟩
      | some pointer => exact .inr ⟨pointer, rfl, hnr, htarget⟩
  · rintro (⟨syscall, ⟨hmem, hkeep⟩, hnr⟩ | ⟨pointer, htarget, hnr, hgate⟩)
    · by_cases hsyscall : syscall = .umount2
      · subst hsyscall
        cases exactUmountTarget with
        | none => exact .inr ⟨hnr, hmem⟩
        | some pointer => exact absurd rfl (hkeep rfl)
      · exact .inl ⟨syscall, hmem, hsyscall, hnr⟩
    · obtain rfl := Option.mem_def.mp htarget
      exact .inr ⟨hnr, hgate⟩

lemma interpretFilter_eq {policy : SeccompPolicy} {exactUmountTarget : Option UInt64}
    {program : FilterProgram} (h : buildFilter policy exactUmountTarget = .ok program)
    (data : SeccompData) : interpretFilter program data =
      .ok (if Allows policy exactUmountTarget data then seccompRetAllow
        else seccompRetKillProcess) := by
  rw [buildFilter_eq, pushAll_ok] at h
  have harch : data.load seccompDataArchOffset = .ok data.architecture := rfl
  have hnr : data.load seccompDataNrOffset = .ok data.syscall := rfl
  have hkill : ∀ accumulator, evaluate data accumulator [statement retK seccompRetKillProcess] =
      .ok seccompRetKillProcess := fun _ => eval_ret ..
  rw [interpretFilter, run_eq_eval, h, List.drop_zero, emitted, prologue]
  simp only [FilterProgram.new, List.cons_append, List.nil_append]
  rw [eval_load harch, eval_jump]
  by_cases hx : data.architecture = auditArchX8664
  · rw [if_pos hx]
    change evaluate data _ (statement ldWAbs seccompDataNrOffset :: _) = _
    rw [evaluate, eval_load hnr]
    have hlisted := @evaluate_allowances data (kept exactUmountTarget policy.allowed)
      data.syscall (ending exactUmountTarget)
    rw [evaluate] at hlisted
    rw [hlisted]
    simp only [allows_iff hx]
    by_cases hkept : ∃ syscall ∈ kept exactUmountTarget policy.allowed, data.syscall = syscall.number
    · rw [if_pos hkept, if_pos (.inl hkept)]
    · rw [if_neg hkept]
      simp only [hkept, false_or]
      cases exactUmountTarget with
      | none =>
        rw [if_neg (by simp)]
        exact hkill _
      | some pointer =>
        rw [evaluate_umountGate, apply_ite Except.ok]
        simp only [Option.mem_def, Option.some.injEq, exists_eq_left']
  · rw [if_neg hx, if_neg fun h => hx h.1]
    exact eval_ret ..

end Meaning

section Stack

lemma stackAnswer_step (answer current : UInt32)
    (ha : answer = seccompRetAllow ∨ answer = seccompRetKillProcess)
    (hc : current = seccompRetAllow ∨ current = seccompRetKillProcess) :
    (if action current < action answer then current else answer) =
      if answer = seccompRetAllow ∧ current = seccompRetAllow then seccompRetAllow
        else seccompRetKillProcess := by
  obtain rfl | rfl := ha <;> obtain rfl | rfl := hc <;> decide

lemma stackAnswer_eq (answers : List UInt32)
    (h : ∀ answer ∈ answers, answer = seccompRetAllow ∨ answer = seccompRetKillProcess) :
    stackAnswer answers = if ∀ answer ∈ answers, answer = seccompRetAllow then seccompRetAllow
      else seccompRetKillProcess := by
  have hloop : ∀ start, (start = seccompRetAllow ∨ start = seccompRetKillProcess) →
      answers.foldl (fun answer current =>
        if action current < action answer then current else answer) start =
        if start = seccompRetAllow ∧ ∀ answer ∈ answers, answer = seccompRetAllow
          then seccompRetAllow else seccompRetKillProcess := by
    induction answers with
    | nil =>
      rintro start (rfl | rfl)
      · rw [List.foldl_nil, if_pos ⟨rfl, fun _ h => absurd h List.not_mem_nil⟩]
      · rw [List.foldl_nil, if_neg fun h => absurd h.1 (by decide)]
    | cons current answers ih =>
      intro start hstart
      have hcurrent := h current List.mem_cons_self
      rw [List.foldl_cons, stackAnswer_step start current hstart hcurrent]
      have hrest := ih fun answer hanswer => h answer (List.mem_cons_of_mem _ hanswer)
      by_cases hboth : start = seccompRetAllow ∧ current = seccompRetAllow
      · rw [if_pos hboth, hrest _ (.inl rfl)]
        simp only [List.forall_mem_cons, hboth.1, hboth.2, true_and]
      · rw [if_neg hboth, hrest _ (.inr rfl), if_neg fun hk => absurd hk.1 (by decide), if_neg]
        rintro ⟨hs, hall⟩
        exact hboth ⟨hs, hall current List.mem_cons_self⟩
  rw [stackAnswer, hloop _ (.inl rfl)]
  simp only [true_and]

lemma interpretStack_eq {policies : List (SeccompPolicy × Option UInt64)}
    {programs : List FilterProgram} (h : List.Forall₂
      (fun policy program => buildFilter policy.1 policy.2 = .ok program) policies programs)
    (data : SeccompData) :
    (programs.mapM fun program => interpretFilter program data) = .ok (policies.map fun policy =>
      if Allows policy.1 policy.2 data then seccompRetAllow else seccompRetKillProcess) := by
  induction h with
  | nil => rfl
  | cons hbuild _ ih =>
    rw [List.mapM_cons, interpretFilter_eq hbuild, ih]
    rfl

end Stack

def filterSize (policy : SeccompPolicy) (exactUmountTarget : Option UInt64) : ℕ :=
  5 + 2 * (kept exactUmountTarget policy.allowed).length + exactUmountTarget.elim 0 fun _ => 10

lemma emitted_length (policy : SeccompPolicy) (exactUmountTarget : Option UInt64) :
    (emitted policy exactUmountTarget).length = filterSize policy exactUmountTarget := by
  have hpairs : ∀ allowed : List SeccompSyscall,
      (allowed.flatMap allowance).length = 2 * allowed.length := by
    intro allowed
    induction allowed with
    | nil => rfl
    | cons syscall allowed ih =>
      rw [List.flatMap_cons, List.length_append, ih, List.length_cons]
      simp only [allowance, List.length_cons, List.length_nil]
      omega
  rw [emitted, List.length_append, List.length_append, hpairs, filterSize, ending]
  cases exactUmountTarget <;> simp only [prologue, umountGate, Option.elim, List.length_append,
    List.length_cons, List.length_nil] <;> omega

/-- A filter is built exactly when it fits, it answers as its policy says, and the stack of filters
allows what every policy allows. -/
theorem filters_mean_policies :
    (∀ policy exactUmountTarget error, buildFilter policy exactUmountTarget = .error error ↔
      error = .filterBounds ∧ maxFilterInstructions < filterSize policy exactUmountTarget) ∧
    (∀ policy exactUmountTarget program, buildFilter policy exactUmountTarget = .ok program →
      ∀ data, interpretFilter program data =
        .ok (if Allows policy exactUmountTarget data then seccompRetAllow
          else seccompRetKillProcess)) ∧
    ∀ (policies : List (SeccompPolicy × Option UInt64)) (programs : List FilterProgram),
      List.Forall₂ (fun policy program => buildFilter policy.1 policy.2 = .ok program)
        policies programs → ∀ data, interpretStack programs data =
          .ok (if ∀ policy ∈ policies, Allows policy.1 policy.2 data then seccompRetAllow
            else seccompRetKillProcess) := by
  refine ⟨?_, fun _ _ _ h data => interpretFilter_eq h data, ?_⟩
  · intro policy exactUmountTarget error
    rw [buildFilter_eq, pushAll_error, emitted_length, FilterProgram.new, List.length_nil,
      Nat.zero_add]
  · intro policies programs hbuilt data
    have hanswers : ∀ answer ∈ policies.map fun policy => if Allows policy.1 policy.2 data
        then seccompRetAllow else seccompRetKillProcess,
        answer = seccompRetAllow ∨ answer = seccompRetKillProcess := by
      intro answer hanswer
      obtain ⟨policy, -, rfl⟩ := List.mem_map.mp hanswer
      exact ite_eq_or_eq ..
    have hallow : ∀ policy : SeccompPolicy × Option UInt64, (if Allows policy.1 policy.2 data
        then seccompRetAllow else seccompRetKillProcess) = seccompRetAllow ↔
          Allows policy.1 policy.2 data := by
      intro policy
      split_ifs with hp
      · exact iff_of_true rfl hp
      · exact iff_of_false (by decide) hp
    rw [interpretStack, interpretStack_eq hbuilt data, ok_bind, stackAnswer_eq _ hanswers]
    simp only [List.forall_mem_map, hallow]
    rfl

end Eip0045.Seccomp
