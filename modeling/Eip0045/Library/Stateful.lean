import Mathlib
import Eip0045.Library.Checked

/-! Computations that change a state and may fail, with the state kept at the point of failure, and
what their runs end with. -/

namespace Eip0045

abbrev Stateful (ε σ : Type) := ExceptT ε (StateM σ)

namespace Stateful

variable {ε σ α β : Type}

/-- The outcome and the state that a computation leaves, whether it succeeds or fails. -/
def exec (x : Stateful ε σ α) (s : σ) : Except ε α × σ := StateT.run (ExceptT.run x) s

def lift (x : Except ε α) : Stateful ε σ α := ExceptT.mk (pure x)

/-- A computation whose failure marks the state. -/
def marking (mark : σ → σ) (x : Stateful ε σ α) : Stateful ε σ α :=
  ExceptT.mk fun s =>
    match exec x s with
    | (.ok a, s') => (.ok a, s')
    | (.error e, s') => (.error e, mark s')

lemma exec_pure (a : α) (s : σ) : exec (pure a : Stateful ε σ α) s = (.ok a, s) := rfl

lemma exec_lift (x : Except ε α) (s : σ) : exec (lift x) s = (x, s) := rfl

lemma exec_get (s : σ) : exec (get : Stateful ε σ σ) s = (.ok s, s) := rfl

lemma exec_modify (f : σ → σ) (s : σ) : exec (modify f : Stateful ε σ Unit) s = (.ok (), f s) := rfl

lemma exec_bind (x : Stateful ε σ α) (f : α → Stateful ε σ β) (s : σ) :
    exec (x >>= f) s = match exec x s with
      | (.ok a, s') => exec (f a) s'
      | (.error e, s') => (.error e, s') := by
  have hx : exec (x >>= f) s = StateT.run (ExceptT.bindCont f (exec x s).1) (exec x s).2 := rfl
  rw [hx]
  rcases exec x s with ⟨_ | a, s'⟩ <;> rfl

lemma exec_bind_ok {x : Stateful ε σ α} {f : α → Stateful ε σ β} {s s'' : σ} {b : β} :
    exec (x >>= f) s = (.ok b, s'') ↔
      ∃ a s', exec x s = (.ok a, s') ∧ exec (f a) s' = (.ok b, s'') := by
  rw [exec_bind]
  rcases h : exec x s with ⟨_ | a, s'⟩ <;> simp

lemma exec_lift_ok {x : Except ε α} {s s' : σ} {a : α} :
    exec (lift x) s = (.ok a, s') ↔ x = .ok a ∧ s = s' := by
  rw [exec_lift, Prod.mk.injEq]

lemma exec_pure_ok {a b : α} {s s' : σ} :
    exec (pure a : Stateful ε σ α) s = (.ok b, s') ↔ a = b ∧ s = s' := by
  rw [exec_pure, Prod.mk.injEq, Except.ok.injEq]

lemma exec_modify_ok {f : σ → σ} {s s' : σ} {u : Unit} :
    exec (modify f : Stateful ε σ Unit) s = (.ok u, s') ↔ f s = s' := by
  rw [exec_modify, Prod.mk.injEq]
  simp

lemma exec_get_bind (f : σ → Stateful ε σ β) (s : σ) : exec (get >>= f) s = exec (f s) s := by
  rw [exec_bind, exec_get]

lemma exec_modify_bind (f : σ → σ) (g : Unit → Stateful ε σ β) (s : σ) :
    exec (modify f >>= g) s = exec (g ()) (f s) := by
  rw [exec_bind, exec_modify]

lemma exec_lift_bind_ok {x : Except ε α} {f : α → Stateful ε σ β} {s s' : σ} {b : β} :
    exec (lift x >>= f) s = (.ok b, s') ↔ ∃ a, x = .ok a ∧ exec (f a) s = (.ok b, s') := by
  rw [exec_bind, exec_lift]
  cases x <;> simp

lemma exec_bind_error {x : Stateful ε σ α} {s s' : σ} {e : ε} (h : exec x s = (.error e, s'))
    (f : α → Stateful ε σ β) : exec (x >>= f) s = (.error e, s') := by
  rw [exec_bind, h]

lemma exec_forM_cons (f : α → Stateful ε σ Unit) (x : α) (xs : List α) (s : σ) :
    exec ((x :: xs).forM f) s = exec (f x >>= fun _ => xs.forM f) s := rfl

lemma exec_marking (mark : σ → σ) (x : Stateful ε σ α) (s : σ) :
    exec (marking mark x) s = match exec x s with
      | (.ok a, s') => (.ok a, s')
      | (.error e, s') => (.error e, mark s') := rfl

lemma exec_marking_ok {mark : σ → σ} {x : Stateful ε σ α} {s s' : σ} {a : α} :
    exec (marking mark x) s = (.ok a, s') ↔ exec x s = (.ok a, s') := by
  rw [exec_marking]
  rcases exec x s with ⟨_ | b, t⟩ <;> simp

lemma exec_marking_error {mark : σ → σ} {x : Stateful ε σ α} {s s' : σ} {e : ε}
    (h : exec (marking mark x) s = (.error e, s')) : ∃ t, s' = mark t := by
  rw [exec_marking] at h
  rcases hx : exec x s with ⟨_ | b, t⟩ <;> rw [hx] at h
  · exact ⟨t, (Prod.mk.inj h).2.symm⟩
  · simp at h

end Stateful

end Eip0045

namespace Eip0045.Stateful

variable {ε σ α β : Type} {Q Q' : α → σ → Prop} {E E' : ε → σ → Prop} {s : σ}

/-- The run from `s` ends in a result that `Q` holds of, or in a failure that `E` holds of. -/
def Ends (x : Stateful ε σ α) (s : σ) (Q : α → σ → Prop) (E : ε → σ → Prop) : Prop :=
  match exec x s with
  | (.ok a, s') => Q a s'
  | (.error e, s') => E e s'

def attempt {δ : Type} (x : Stateful δ σ α) : Stateful ε σ (Except δ α) :=
  ExceptT.mk fun s => (.ok (exec x s).1, (exec x s).2)

lemma ends_pure {a : α} : Ends (pure a : Stateful ε σ α) s Q E ↔ Q a s := Iff.rfl

lemma ends_throw {e : ε} : Ends (throw e : Stateful ε σ α) s Q E ↔ E e s := Iff.rfl

lemma ends_modify {f : σ → σ} {Q : Unit → σ → Prop} :
    Ends (modify f : Stateful ε σ Unit) s Q E ↔ Q () (f s) := Iff.rfl

lemma ends_get {Q : σ → σ → Prop} : Ends (get : Stateful ε σ σ) s Q E ↔ Q s s := Iff.rfl

lemma ends_lift {x : Except ε α} :
    Ends (lift x) s Q E ↔ (∀ a, x = .ok a → Q a s) ∧ ∀ e, x = .error e → E e s := by
  rw [Ends, exec_lift]
  cases x <;> simp

lemma ends_ensure {c : Prop} [Decidable c] {e : ε} {Q : Unit → σ → Prop} :
    Ends (lift (Checked.ensure c e)) s Q E ↔ (c → Q () s) ∧ (¬c → E e s) := by
  by_cases hc : c
  · simp [Ends, exec_lift, Checked.ensure, hc]
  · simp [Ends, exec_lift, Checked.ensure, hc]

lemma ends_bind {x : Stateful ε σ β} {f : β → Stateful ε σ α} :
    Ends (x >>= f) s Q E ↔ Ends x s (fun b s' => Ends (f b) s' Q E) E := by
  rw [Ends, exec_bind, Ends]
  rcases exec x s with ⟨_ | b, s'⟩ <;> rfl

lemma ends_attempt {δ : Type} {x : Stateful δ σ α} {Q : Except δ α → σ → Prop} :
    Ends (attempt x : Stateful ε σ (Except δ α)) s Q E ↔
      Ends x s (fun a s' => Q (.ok a) s') (fun e s' => Q (.error e) s') := by
  have hrun : exec (attempt x : Stateful ε σ (Except δ α)) s = (.ok (exec x s).1, (exec x s).2) := rfl
  rw [Ends, hrun, Ends]
  rcases exec x s with ⟨_ | a, s'⟩ <;> rfl

lemma Ends.imp {x : Stateful ε σ α} (h : Ends x s Q E) (hq : ∀ a s', Q a s' → Q' a s')
    (he : ∀ e s', E e s' → E' e s') : Ends x s Q' E' := by
  rw [Ends] at h ⊢
  revert h
  rcases exec x s with ⟨e | a, s'⟩
  · exact he e s'
  · exact hq a s'

lemma Ends.bind {x : Stateful ε σ β} {f : β → Stateful ε σ α} {R : β → σ → Prop}
    (hx : Ends x s R E') (hf : ∀ b s', R b s' → Ends (f b) s' Q E) (he : ∀ e s', E' e s' → E e s') :
    Ends (x >>= f) s Q E := ends_bind.mpr (hx.imp hf he)

lemma Ends.ok {x : Stateful ε σ α} {a : α} {s' : σ} (h : Ends x s Q E) (hx : exec x s = (.ok a, s')) :
    Q a s' := by
  rw [Ends, hx] at h
  exact h

lemma Ends.error {x : Stateful ε σ α} {e : ε} {s' : σ} (h : Ends x s Q E)
    (hx : exec x s = (.error e, s')) : E e s' := by
  rw [Ends, hx] at h
  exact h

end Eip0045.Stateful
