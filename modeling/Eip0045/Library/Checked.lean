import Mathlib

/-! Computations that stop at the first failed guard, and what a successful one has passed. -/

namespace Eip0045.Checked

variable {ε α β : Type}

def ensure (c : Prop) [Decidable c] (e : ε) : Except ε Unit :=
  if c then .ok () else .error e

def context (e : ε) : Option α → Except ε α
  | some a => .ok a
  | none => .error e

lemma bind_ok {x : Except ε α} {f : α → Except ε β} {b : β} :
    (x >>= f) = .ok b ↔ ∃ a, x = .ok a ∧ f a = .ok b := by
  cases x <;> simp [bind, Except.bind]

lemma exists_unit {p : Unit → Prop} : (∃ u, p u) ↔ p () :=
  ⟨fun ⟨(), h⟩ => h, fun h => ⟨(), h⟩⟩

/-- How a computation that slices buffers stops: with a reported error, or on a position outside
its buffer. -/
inductive Fault (ε : Type)
  | reported (e : ε)
  | outOfRange
  deriving DecidableEq

def report : Except ε α → Except (Fault ε) α
  | .ok a => .ok a
  | .error e => .error (.reported e)

@[simp] lemma report_ok {x : Except ε α} {a : α} : report x = .ok a ↔ x = .ok a := by
  cases x <;> simp [report]

/-- A typed error passed on as the text that it displays. -/
def shown {δ : Type} (display : δ → ε) : Except δ α → Except (Fault ε) α
  | .ok a => .ok a
  | .error e => .error (.reported (display e))

@[simp] lemma shown_ok {δ : Type} {display : δ → ε} {x : Except δ α} {a : α} :
    shown display x = .ok a ↔ x = .ok a := by
  cases x <;> simp [shown]

/-- The reported error passed on as `f` of it. -/
def mapFault {δ : Type} (f : δ → ε) : Except (Fault δ) α → Except (Fault ε) α
  | .ok a => .ok a
  | .error (.reported e) => .error (.reported (f e))
  | .error .outOfRange => .error .outOfRange

@[simp] lemma mapFault_ok {δ : Type} {f : δ → ε} {x : Except (Fault δ) α} {a : α} :
    mapFault f x = .ok a ↔ x = .ok a := by
  obtain (_ | _) | _ := x <;> simp [mapFault]

lemma report_ne_outOfRange (x : Except ε α) : report x ≠ .error .outOfRange := by
  cases x <;> simp [report]

lemma bind_ne_error {x : Except ε α} {f : α → Except ε β} {e : ε} (hx : x ≠ .error e)
    (hf : ∀ a, x = .ok a → f a ≠ .error e) : (x >>= f) ≠ .error e := by
  cases x with
  | ok a => exact hf a rfl
  | error e' =>
    intro h
    apply hx
    cases (h : (Except.error e' : Except ε β) = .error e)
    rfl

/-- `items[index]`, which stops outside the list. -/
def item (items : List α) (index : ℕ) : Except (Fault ε) α :=
  match items[index]? with
  | some a => .ok a
  | none => .error .outOfRange

lemma item_ok {items : List α} {index : ℕ} {a : α} :
    (item items index : Except (Fault ε) α) = .ok a ↔ items[index]? = some a := by
  rw [item]
  cases items[index]? <;> simp

lemma item_ne_outOfRange {items : List α} {index : ℕ} (h : index < items.length) :
    (item items index : Except (Fault ε) α) ≠ .error .outOfRange := by
  rw [item, List.getElem?_eq_getElem h]
  simp

def checkedAdd (a b : ℕ) : Option ℕ := if a + b < 2 ^ 64 then some (a + b) else none

lemma checkedAdd_eq_some {a b c : ℕ} : checkedAdd a b = some c ↔ a + b < 2 ^ 64 ∧ a + b = c := by
  simp [checkedAdd]

@[simp] lemma ok_bind (a : α) (f : α → Except ε β) : (Except.ok a >>= f) = f a := rfl

@[simp] lemma error_bind (e : ε) (f : α → Except ε β) : (Except.error e >>= f) = .error e := rfl

@[simp] lemma ensure_ok {c : Prop} [Decidable c] {e : ε} {u : Unit} :
    ensure c e = .ok u ↔ c := by
  by_cases h : c <;> simp [ensure, h]

lemma ensure_pass {c : Prop} [Decidable c] {e : ε} (h : c) : ensure c e = .ok () := by
  simp [h]

@[simp] lemma context_ok {e : ε} {o : Option α} {a : α} : context e o = .ok a ↔ o = some a := by
  cases o <;> simp [context]

lemma pure_ok {a b : α} : (pure a : Except ε α) = .ok b ↔ a = b := by
  simp [pure, Except.pure]

lemma forM_ok {f : α → Except ε Unit} {xs : List α} :
    xs.forM f = .ok () ↔ ∀ x ∈ xs, f x = .ok () := by
  induction xs with
  | nil => simp [pure, Except.pure]
  | cons x xs ih =>
    change (f x >>= fun _ => xs.forM f) = .ok () ↔ _
    rw [bind_ok, List.forall_mem_cons]
    constructor
    · rintro ⟨_, hx, hxs⟩
      exact ⟨hx, ih.mp hxs⟩
    · rintro ⟨hx, hxs⟩
      exact ⟨_, hx, ih.mpr hxs⟩

lemma forM_ne_error {f : α → Except ε Unit} {e : ε} {xs : List α} (h : ∀ x ∈ xs, f x ≠ .error e) :
    xs.forM f ≠ .error e := by
  induction xs with
  | nil => exact fun hnil => (by cases hnil)
  | cons x xs ih =>
    obtain ⟨hx, hxs⟩ := List.forall_mem_cons.mp h
    exact bind_ne_error hx fun _ _ => ih hxs

lemma forM_error {f : α → Except ε Unit} {xs : List α} {x : α} {e : ε} (hx : x ∈ xs)
    (hf : f x = .error e) (h : ∀ y ∈ xs, y ≠ x → f y = .ok ()) : xs.forM f = .error e := by
  induction xs with
  | nil => exact absurd hx List.not_mem_nil
  | cons y xs ih =>
    change (f y >>= fun _ => xs.forM f) = .error e
    by_cases hyx : y = x
    · rw [hyx, hf, error_bind]
    · rw [h y List.mem_cons_self hyx, ok_bind]
      exact ih (List.mem_of_ne_of_mem (Ne.symm hyx) hx) fun z hz => h z (List.mem_cons_of_mem y hz)

lemma mapM_ok {f : α → Except ε β} {C : α → Prop} {v : α → β}
    (hf : ∀ x y, f x = .ok y ↔ C x ∧ y = v x) {xs : List α} {ys : List β} :
    xs.mapM f = .ok ys ↔ (∀ x ∈ xs, C x) ∧ ys = xs.map v := by
  induction xs generalizing ys with
  | nil => simp [pure, Except.pure, eq_comm]
  | cons x xs ih =>
    simp only [List.mapM_cons, bind_ok, hf, ih, pure_ok, List.forall_mem_cons, List.map_cons]
    constructor
    · rintro ⟨_, ⟨hx, rfl⟩, _, ⟨hxs, rfl⟩, rfl⟩
      exact ⟨⟨hx, hxs⟩, rfl⟩
    · rintro ⟨⟨hx, hxs⟩, rfl⟩
      exact ⟨_, ⟨hx, rfl⟩, _, ⟨hxs, rfl⟩, rfl⟩

lemma mapM_ne_error {f : α → Except ε β} {e : ε} {xs : List α} (h : ∀ x ∈ xs, f x ≠ .error e) :
    xs.mapM f ≠ .error e := by
  induction xs with
  | nil => exact fun hnil => (by cases hnil)
  | cons x xs ih =>
    obtain ⟨hx, hxs⟩ := List.forall_mem_cons.mp h
    rw [List.mapM_cons]
    exact bind_ne_error hx fun _ _ => bind_ne_error (ih hxs) fun _ _ hpure => (by cases hpure)

lemma mapM_forall₂ {f : α → Except ε β} {xs : List α} {ys : List β} :
    xs.mapM f = .ok ys ↔ List.Forall₂ (fun x y => f x = .ok y) xs ys := by
  induction xs generalizing ys with
  | nil => simp [pure, Except.pure, eq_comm]
  | cons x xs ih =>
    simp only [List.mapM_cons, bind_ok, ih, pure_ok, List.forall₂_cons_left_iff]
    constructor
    · intro h
      obtain ⟨y, hy, zs, hzs, hys⟩ := h
      exact ⟨y, zs, hy, hzs, hys.symm⟩
    · intro h
      obtain ⟨y, zs, hy, hzs, hys⟩ := h
      exact ⟨y, hy, zs, hzs, hys.symm⟩

def firstSome (f : α → Except ε (Option β)) : List α → Except ε (Option β)
  | [] => .ok none
  | x :: xs => do
    let answer ← f x
    match answer with
    | some y => pure (some y)
    | none => firstSome f xs

lemma firstSome_none {f : α → Except ε (Option β)} {xs : List α} :
    firstSome f xs = .ok none ↔ ∀ x ∈ xs, f x = .ok none := by
  induction xs with
  | nil => simp [firstSome]
  | cons x xs ih =>
    rw [firstSome, bind_ok, List.forall_mem_cons, ← ih]
    constructor
    · intro h
      obtain ⟨answer, hx, hxs⟩ := h
      cases answer with
      | none => exact ⟨hx, hxs⟩
      | some y => simp [pure_ok] at hxs
    · intro h
      exact ⟨none, h.1, h.2⟩

lemma firstSome_some {f : α → Except ε (Option β)} {xs : List α} {y : β}
    (h : firstSome f xs = .ok (some y)) : ∃ x ∈ xs, f x = .ok (some y) := by
  induction xs with
  | nil => simp [firstSome] at h
  | cons x xs ih =>
    rw [firstSome, bind_ok] at h
    obtain ⟨answer, hx, hxs⟩ := h
    cases answer with
    | none =>
      obtain ⟨z, hz, hy⟩ := ih hxs
      exact ⟨z, List.mem_cons_of_mem x hz, hy⟩
    | some z =>
      cases Except.ok.inj hxs
      exact ⟨x, List.mem_cons_self, hx⟩

/-- The error of a failed computation replaced by `e`. -/
def mapError {δ : Type} (e : ε) : Except δ α → Except ε α
  | .ok a => .ok a
  | .error _ => .error e

@[simp] lemma mapError_ok {δ : Type} {e : ε} {x : Except δ α} {a : α} :
    mapError e x = .ok a ↔ x = .ok a := by
  cases x <;> simp [mapError]

end Eip0045.Checked
