import Mathlib
import Eip0045.Provider.SpawnPlan

/-! The descriptors of a spawned child, from the copied table to the execution of its program. -/

namespace Eip0045.Provider

open Checked Stateful

section Table

variable {File : Type}

def Table.insert (table : Table File) (number : ℕ) (opened : OpenDescriptor File) : Table File where
  entry := Function.update table.entry number (some opened)
  bound := max table.bound (number + 1)
  finite n hn := by
    rw [Function.update_of_ne (by omega)]
    exact table.finite n (by omega)

def Table.close (table : Table File) (first last : ℕ) : Table File where
  entry n := if first ≤ n ∧ n ≤ last then none else table.entry n
  bound := table.bound
  finite n hn := by
    rw [table.finite n hn, ite_self]

@[simp] lemma Table.entry_insert_self (table : Table File) (n : ℕ) (opened : OpenDescriptor File) :
    (table.insert n opened).entry n = some opened := Function.update_self _ _ _

@[simp] lemma Table.entry_insert_of_ne (table : Table File) {n m : ℕ} (opened : OpenDescriptor File)
    (h : m ≠ n) : (table.insert n opened).entry m = table.entry m := Function.update_of_ne h _ _

lemma Table.entry_close (table : Table File) (first last n : ℕ) : (table.close first last).entry n =
    if first ≤ n ∧ n ≤ last then none else table.entry n := rfl

def Table.afterExec (table : Table File) : Table File where
  entry n := (table.entry n).filter fun opened => !opened.cloexec
  bound := table.bound
  finite n hn := by
    rw [table.finite n hn]
    rfl

lemma Table.entry_afterExec (table : Table File) (n : ℕ) :
    table.afterExec.entry n = (table.entry n).filter fun opened => !opened.cloexec := rfl

/-- The number that the next descriptor gets. -/
def Table.lowestFree (table : Table File) : ℕ :=
  Nat.find (p := fun n => (table.entry n).isNone = true) ⟨table.bound, by
    rw [table.finite table.bound le_rfl]
    rfl⟩

lemma Table.entry_lowestFree (table : Table File) : table.entry table.lowestFree = none :=
  Option.isNone_iff_eq_none.mp (Nat.find_spec (p := fun n => (table.entry n).isNone = true) _)

end Table

section Calls

variable {File : Type}

/-- The calls that close or replace descriptors. -/
inductive Call
  | closeRange (first last : ℕ)
  | dup3 (source target : ℕ) (overwrites : Bool)

structure ChildState (File : Type) where
  table : Table File
  calls : List Call

inductive ChildFailure
  | exit

abbrev Child (File : Type) := Stateful ChildFailure (ChildState File)

/-- `close_range` without flags refuses an empty range. -/
def closeRange (first last : ℕ) : Child File Bool := do
  modify fun s => { s with calls := s.calls ++ [.closeRange first last] }
  if last < first then pure false
  else do
    modify fun s => { s with table := s.table.close first last }
    pure true

/-- `dup3` without flags refuses a source that is not open or is the target. -/
def dup3 (source target : ℕ) : Child File Bool := do
  let s ← get
  modify fun s => { s with calls := s.calls ++ [.dup3 source target (s.table.entry target).isSome] }
  match s.table.entry source with
  | none => pure false
  | some opened =>
    if source = target then pure false
    else do
      modify fun s => { s with table := s.table.insert target { file := opened.file, cloexec := false } }
      pure true

def openAt (file : File) : Child File ℕ := do
  let s ← get
  modify fun s => { s with table := s.table.insert s.table.lowestFree { file, cloexec := true } }
  pure s.table.lowestFree

def orExit (x : Child File Bool) : Child File Unit := do
  lift (ensure ((← x) = true) .exit)

end Calls

section Trampoline

variable {File : Type}

def maxU32 : ℕ := 2 ^ 32 - 1

/-- The ranges between the descriptors, from `first` on. -/
def closeGaps : ℕ → List ℕ → Child File Bool
  | first, [] => if first ≠ maxU32 then closeRange first maxU32 else pure true
  | first, descriptor :: descriptors =>
    if first < descriptor then do
      if ← closeRange first (descriptor - 1) then closeGaps (min (descriptor + 1) maxU32) descriptors
      else pure false
    else closeGaps (min (descriptor + 1) maxU32) descriptors

def closeEverySurplus (prepared : PreparedSpawn) (temporary : List ℕ) : Child File Bool :=
  if temporary.length ≤ 2 then
    let allowed := InsertionSort.sorted (prepared.allowedAfterRemap ++ temporary)
    if allowed.IsChain (· ≠ ·) then closeGaps 0 allowed else pure false
  else pure false

/-- The child up to its first message to the parent, over its two ends of the barrier. -/
def remapDescriptors (prepared : PreparedSpawn) (barrierReader barrierWriter : ℕ) : Child File Unit := do
  orExit (closeRange barrierWriter barrierWriter)
  prepared.mappings.forM fun mapping => orExit (dup3 mapping.source mapping.target)
  orExit (closeEverySurplus prepared [barrierReader, prepared.authorityRoot.raw])

/-- What the reading of the status of the thread does to the table. -/
def readChildThreadSelfStatus (threadSelf status : File) : Child File Unit := do
  let threadDirectory ← openAt threadSelf
  let statusDescriptor ← openAt status
  orExit (closeRange threadDirectory threadDirectory)
  orExit (closeRange statusDescriptor statusDescriptor)

/-- The child from there to the execution of its program. -/
def releaseDescriptors (prepared : PreparedSpawn) (threadSelf status : File) : Child File Unit := do
  readChildThreadSelfStatus threadSelf status
  orExit (closeEverySurplus prepared [])

end Trampoline

section Runs

variable {File : Type}

/-- A call that closes and replaces nothing that is kept. -/
def Call.Sound (kept : List ℕ) : Call → Prop
  | .closeRange first last => first ≤ last ∧ ∀ d ∈ kept, ¬(first ≤ d ∧ d ≤ last)
  | .dup3 _ _ overwrites => overwrites = false

/-- The calls of a run, added to those before it, are sound. -/
def Added (kept : List ℕ) (s s' : ChildState File) : Prop :=
  ∃ calls, s'.calls = s.calls ++ calls ∧ ∀ call ∈ calls, call.Sound kept

variable {kept : List ℕ} {s s' s'' : ChildState File}

lemma Added.refl : Added kept s s := ⟨[], by simp, by simp⟩

lemma Added.trans (h : Added kept s s') (h' : Added kept s' s'') : Added kept s s'' := by
  obtain ⟨calls, hcalls, hsound⟩ := h
  obtain ⟨calls', hcalls', hsound'⟩ := h'
  refine ⟨calls ++ calls', by rw [hcalls', hcalls, List.append_assoc], ?_⟩
  intro call hcall
  exact (List.mem_append.mp hcall).elim (hsound call) (hsound' call)

lemma Added.mono {kept' : List ℕ} (h : Added kept s s') (hkept : ∀ d ∈ kept', d ∈ kept) :
    Added kept' s s' := by
  obtain ⟨calls, hcalls, hsound⟩ := h
  refine ⟨calls, hcalls, ?_⟩
  intro call hcall
  have hcall := hsound call hcall
  cases call with
  | closeRange first last => exact ⟨hcall.1, fun d hd => hcall.2 d (hkept d hd)⟩
  | dup3 source target overwrites => exact hcall

lemma Added.sound {table : Table File} (h : Added kept ⟨table, []⟩ s) :
    ∀ call ∈ s.calls, call.Sound kept := by
  obtain ⟨calls, hcalls, hsound⟩ := h
  rw [hcalls]
  exact hsound

/-- A computation that does not fail, with a property of its result and its state. -/
abbrev Always {α : Type} (x : Child File α) (s : ChildState File) (Q : α → ChildState File → Prop) : Prop :=
  Ends x s Q fun _ _ => False

lemma Always.bind {α β : Type} {x : Child File β} {f : β → Child File α} {R : β → ChildState File → Prop}
    {Q : α → ChildState File → Prop} (hx : Always x s R)
    (hf : ∀ b s', R b s' → Always (f b) s' Q) : Always (x >>= f) s Q :=
  Ends.bind hx hf fun _ _ h => h

lemma Always.run {α : Type} {x : Child File α} {Q : α → ChildState File → Prop} (h : Always x s Q) :
    ∃ a s', exec x s = (.ok a, s') ∧ Q a s' := by
  rcases hx : exec x s with ⟨e | a, s'⟩
  · exact (Ends.error h hx).elim
  · exact ⟨a, s', rfl, Ends.ok h hx⟩

lemma closeRange_always {first last : ℕ} (hle : first ≤ last)
    (hkept : ∀ d ∈ kept, ¬(first ≤ d ∧ d ≤ last)) : Always (closeRange first last) s fun closed s' =>
      closed = true ∧ Added kept s s' ∧ s'.table = s.table.close first last := by
  rw [Always, closeRange, ends_bind, ends_modify, if_neg (not_lt.mpr hle), ends_bind, ends_modify,
    ends_pure]
  refine ⟨rfl, ⟨[.closeRange first last], rfl, ?_⟩, rfl⟩
  intro call hcall
  rw [List.mem_singleton.mp hcall]
  exact ⟨hle, hkept⟩

lemma dup3_always {source target : ℕ} {opened : OpenDescriptor File}
    (hsource : s.table.entry source = some opened) (htarget : s.table.entry target = none) :
    Always (dup3 source target) s fun closed s' => closed = true ∧ Added kept s s' ∧
      s'.table = s.table.insert target { file := opened.file, cloexec := false } := by
  have hne : source ≠ target := by
    intro h
    rw [h, htarget] at hsource
    cases hsource
  rw [Always, dup3, ends_bind, ends_get, ends_bind, ends_modify]
  simp only [hsource]
  rw [if_neg hne, ends_bind, ends_modify, ends_pure]
  refine ⟨rfl, ⟨_, rfl, ?_⟩, rfl⟩
  intro call hcall
  rw [List.mem_singleton.mp hcall, htarget]
  rfl

lemma openAt_always {file : File} : Always (openAt file) s fun number s' =>
    number = s.table.lowestFree ∧ Added kept s s' ∧
      s'.table = s.table.insert s.table.lowestFree { file, cloexec := true } := by
  rw [Always, openAt, ends_bind, ends_get, ends_bind, ends_modify, ends_pure]
  exact ⟨rfl, Added.refl, rfl⟩

lemma orExit_always {x : Child File Bool} {Q : ChildState File → Prop}
    (hx : Always x s fun accepted s' => accepted = true ∧ Q s') : Always (orExit x) s fun _ s' => Q s' := by
  refine Always.bind hx ?_
  intro accepted s' h
  rw [Always, ends_ensure]
  exact ⟨fun _ => h.2, fun hne => hne h.1⟩

end Runs

end Eip0045.Provider
