import Mathlib
import Eip0045.Library.Bytes
import Eip0045.Library.Checked

/-! Cursor readers that accept exactly the encodings of the values they return. -/

namespace Eip0045.Reading

open Bytes Checked

/-- A read position in a buffer whose length fits a 64-bit machine word. -/
@[ext] structure Cursor where
  bytes : Bytes
  position : ℕ
  fits : bytes.length < 2 ^ 64
  inside : position ≤ bytes.length

namespace Cursor

def new (bytes : Bytes) (fits : bytes.length < 2 ^ 64) : Cursor :=
  ⟨bytes, 0, fits, Nat.zero_le _⟩

def rest (c : Cursor) : Bytes := c.bytes.drop c.position

def advance (c : Cursor) (n : ℕ) : Cursor :=
  { c with position := min (c.position + n) c.bytes.length, inside := min_le_right _ _ }

@[simp] lemma rest_new (b : Bytes) (h : b.length < 2 ^ 64) : (new b h).rest = b := rfl

@[simp] lemma position_new (b : Bytes) (h : b.length < 2 ^ 64) : (new b h).position = 0 := rfl

@[simp] lemma bytes_advance (c : Cursor) (n : ℕ) : (c.advance n).bytes = c.bytes := rfl

@[simp] lemma rest_advance (c : Cursor) (n : ℕ) : (c.advance n).rest = c.rest.drop n := by
  simp only [rest, advance, List.drop_drop]
  by_cases h : c.position + n ≤ c.bytes.length
  · rw [min_eq_left h]
  · rw [min_eq_right (by omega), List.drop_length, List.drop_eq_nil_of_le (by omega)]

@[simp] lemma advance_zero (c : Cursor) : c.advance 0 = c := by
  ext1
  · rfl
  · exact min_eq_left c.inside

@[simp] lemma advance_advance (c : Cursor) (m n : ℕ) :
    (c.advance m).advance n = c.advance (m + n) := by
  ext1
  · rfl
  · simp only [advance]
    omega

lemma rest_length (c : Cursor) : c.rest.length = c.bytes.length - c.position :=
  List.length_drop ..

lemma position_advance {c : Cursor} {n : ℕ} (h : n ≤ c.rest.length) :
    (c.advance n).position = c.position + n := by
  rw [rest_length] at h
  have := c.inside
  exact min_eq_left (by omega)

end Cursor

abbrev Reader (ε α : Type) := StateT Cursor (Except ε) α

variable {ε α β : Type}

/-- `r` accepts the encodings `enc a` of the values in `P`, and nothing else. -/
def Exact (r : Reader ε α) (P : α → Prop) (enc : α → Bytes) : Prop :=
  ∀ c a c', r c = .ok (a, c') ↔ P a ∧ enc a <+: c.rest ∧ c' = c.advance (enc a).length

lemma bind_run (r : Reader ε α) (f : α → Reader ε β) (c : Cursor) :
    (r >>= f) c = (r c >>= fun x => f x.1 x.2) := rfl

lemma Exact.bind_iff {r : Reader ε α} {P : α → Prop} {enc : α → Bytes} (hr : Exact r P enc)
    {f : α → Reader ε β} {c : Cursor} {y : β × Cursor} :
    (r >>= f) c = .ok y ↔
      ∃ a, P a ∧ enc a <+: c.rest ∧ f a (c.advance (enc a).length) = .ok y := by
  rw [bind_run, bind_ok]
  constructor
  · rintro ⟨⟨a, c'⟩, h, hy⟩
    obtain ⟨hp, he, rfl⟩ := (hr c a c').mp h
    exact ⟨a, hp, he, hy⟩
  · rintro ⟨a, hp, he, hy⟩
    exact ⟨(a, _), (hr c a _).mpr ⟨hp, he, rfl⟩, hy⟩

lemma Exact.congr {r : Reader ε α} {P Q : α → Prop} {enc enc' : α → Bytes} (hr : Exact r P enc)
    (hp : ∀ a, P a ↔ Q a) (he : ∀ a, Q a → enc a = enc' a) : Exact r Q enc' := by
  intro c a c'
  rw [hr c a c', hp a]
  exact and_congr_right fun h => by rw [he a h]

lemma Exact.prefix_unique {r : Reader ε α} {P : α → Prop} {enc : α → Bytes} (hr : Exact r P enc)
    {a b : α} {w : Bytes} (hw : w.length < 2 ^ 64) (ha : P a) (hb : P b) (hpa : enc a <+: w)
    (hpb : enc b <+: w) : a = b := by
  have h := (hr (Cursor.new w hw) a _).mpr ⟨ha, hpa, rfl⟩
  rw [(hr (Cursor.new w hw) b _).mpr ⟨hb, hpb, rfl⟩] at h
  exact (Prod.mk.inj (Except.ok.inj h)).1.symm

lemma append_prefix_iff {u v w : Bytes} : u ++ v <+: w ↔ u <+: w ∧ v <+: w.drop u.length := by
  constructor
  · rintro ⟨t, rfl⟩
    exact ⟨⟨v ++ t, by simp⟩, ⟨t, by simp⟩⟩
  · rintro ⟨⟨t, rfl⟩, h⟩
    rw [List.drop_left] at h
    obtain ⟨s, rfl⟩ := h
    exact ⟨s, by simp⟩

lemma pure_exact (a : α) : Exact (pure a : Reader ε α) (· = a) (fun _ => []) := by
  intro c b c'
  change Except.ok (a, c) = Except.ok (b, c') ↔ _
  simp [eq_comm]

lemma Exact.map {r : Reader ε α} {P : α → Prop} {enc : α → Bytes} (hr : Exact r P enc)
    {k : α → β} {Q : β → Prop} {enc' : β → Bytes} (hQ : ∀ b, Q b ↔ ∃ a, P a ∧ k a = b)
    (he : ∀ a, enc' (k a) = enc a) : Exact (r >>= fun a => pure (k a)) Q enc' := by
  intro c b c'
  simp only [hr.bind_iff, pure_exact _ _ _ _, List.nil_prefix, List.length_nil,
    Cursor.advance_zero, true_and, hQ]
  constructor
  · rintro ⟨a, ha, hp, rfl, rfl⟩
    exact ⟨⟨a, ha, rfl⟩, by rwa [he], by rw [he]⟩
  · rintro ⟨⟨a, ha, rfl⟩, hp, rfl⟩
    rw [he] at hp ⊢
    exact ⟨a, ha, hp, rfl, rfl⟩

lemma Exact.map₂ {r : Reader ε α} {P : α → Prop} {enc : α → Bytes} (hr : Exact r P enc)
    {s : Reader ε β} {P' : β → Prop} {enc' : β → Bytes} (hs : Exact s P' enc') {γ : Type}
    {k : α → β → γ} {Q : γ → Prop} {enc'' : γ → Bytes}
    (hQ : ∀ x, Q x ↔ ∃ a b, P a ∧ P' b ∧ k a b = x) (he : ∀ a b, enc'' (k a b) = enc a ++ enc' b) :
    Exact (r >>= fun a => s >>= fun b => pure (k a b)) Q enc'' := by
  intro c x c'
  simp only [hr.bind_iff, hs.bind_iff, pure_exact _ _ _ _, List.nil_prefix, List.length_nil,
    Nat.add_zero, true_and, hQ, Cursor.rest_advance, Cursor.advance_advance]
  constructor
  · rintro ⟨a, ha, hp, b, hb, hq, rfl, rfl⟩
    refine ⟨⟨a, b, ha, hb, rfl⟩, ?_, by rw [he, List.length_append]⟩
    rw [he, append_prefix_iff]
    exact ⟨hp, hq⟩
  · rintro ⟨⟨a, b, ha, hb, rfl⟩, hp, rfl⟩
    rw [he, append_prefix_iff] at hp
    exact ⟨a, ha, hp.1, b, hb, hp.2, rfl, by rw [he, List.length_append]⟩

/-- A guard inside a reader consumes nothing. -/
def require (c : Prop) [Decidable c] (e : ε) : Reader ε Unit := fun s =>
  ensure c e >>= fun u => .ok (u, s)

lemma require_exact (p : Prop) [Decidable p] (e : ε) :
    Exact (require p e) (fun _ => p) (fun _ => []) := by
  intro c u c'
  by_cases h : p <;> simp [require, ensure, h, eq_comm]

/-- The cursor's own position, as an error text or a length check reads it. -/
def position : Reader ε ℕ := fun c => .ok (c.position, c)

lemma position_bind {f : ℕ → Reader ε β} {c : Cursor} :
    ((position : Reader ε ℕ) >>= f) c = f c.position c := rfl

/-- The next `count` bytes; `overflow` and `eof` are the two ways this fails. -/
def take (overflow : ε) (eof : ℕ → ε) (count : ℕ) : Reader ε Bytes := fun c =>
  if c.position + count < 2 ^ 64 then
    if h : c.position + count ≤ c.bytes.length then
      .ok ((c.bytes.drop c.position).take count,
        { c with position := c.position + count, inside := h })
    else .error (eof c.position)
  else .error overflow

variable {overflow : ε} {eof : ℕ → ε}

lemma take_exact (n : ℕ) :
    Exact (take overflow eof n) (fun b => b.length = n) id := by
  intro c b c'
  have hf := c.fits
  by_cases h : c.position + n ≤ c.bytes.length
  · rw [take, if_pos (by omega), dif_pos h]
    have hl : (c.rest.take n).length = n := by
      rw [List.length_take, c.rest_length]
      omega
    have ha : ({ c with position := c.position + n, inside := h } : Cursor) = c.advance n := by
      ext1
      · rfl
      · exact (min_eq_left h).symm
    rw [ha]
    constructor
    · intro hh
      obtain ⟨rfl, rfl⟩ := Prod.mk.inj (Except.ok.inj hh)
      exact ⟨hl, List.take_prefix _ _, congrArg c.advance hl.symm⟩
    · rintro ⟨rfl, hb, rfl⟩
      have : c.rest.take b.length = b := (List.prefix_iff_eq_take.mp hb).symm
      exact congrArg Except.ok (Prod.ext this rfl)
  · have hne : take overflow eof n c ≠ .ok (b, c') := by
      rw [take]
      split <;> simp
    refine iff_of_false hne ?_
    rintro ⟨hb, hp, -⟩
    have hh := hp.length_le
    rw [id, hb, c.rest_length] at hh
    have := c.inside
    omega

def takeArray (overflow : ε) (eof : ℕ → ε) (n : ℕ) : Reader ε (ByteArr n) := do
  let b ← take overflow eof n
  match ByteArr.ofBytes n b with
  | some a => pure a
  | none => fun _ => .error overflow

lemma takeArray_exact (n : ℕ) : Exact (takeArray overflow eof n) (fun _ => True) (·.val) := by
  intro c a c'
  rw [takeArray, (take_exact n).bind_iff]
  constructor
  · rintro ⟨b, hl, hb, h⟩
    rw [ByteArr.ofBytes_of_length hl] at h
    obtain ⟨rfl, rfl⟩ := Prod.mk.inj (Except.ok.inj h)
    exact ⟨trivial, hb, rfl⟩
  · rintro ⟨-, hb, rfl⟩
    exact ⟨a.val, a.2, hb, by rw [ByteArr.ofBytes_val]; rfl⟩

def u8 (overflow : ε) (eof : ℕ → ε) : Reader ε UInt8 := do
  let b ← take overflow eof 1
  pure (b.headD 0)

def u16 (overflow : ε) (eof : ℕ → ε) : Reader ε UInt16 := do
  let b ← take overflow eof 2
  pure (ofLe16 b)

def u32 (overflow : ε) (eof : ℕ → ε) : Reader ε UInt32 := do
  let b ← take overflow eof 4
  pure (ofLe32 b)

lemma scalar_exact {n : ℕ} {of : Bytes → α} {enc : α → Bytes} (hl : ∀ a, (enc a).length = n)
    (ho : ∀ a, of (enc a) = a) (he : ∀ b : Bytes, b.length = n → enc (of b) = b) :
    Exact (take overflow eof n >>= fun b => pure (of b)) (fun _ => True) enc := by
  intro c a c'
  rw [(take_exact n).bind_iff]
  constructor
  · rintro ⟨b, hb, hp, h⟩
    obtain ⟨rfl, rfl⟩ := Prod.mk.inj (Except.ok.inj h)
    rw [he b hb]
    exact ⟨trivial, hp, rfl⟩
  · rintro ⟨-, hp, rfl⟩
    exact ⟨enc a, hl a, hp, by rw [ho a]; rfl⟩

lemma u8_exact : Exact (u8 overflow eof) (fun _ => True) (fun v => [v]) :=
  scalar_exact (fun _ => rfl) (fun _ => rfl) fun b hb => by
    obtain ⟨x, rfl⟩ := List.length_eq_one_iff.mp hb
    rfl

lemma u16_exact : Exact (u16 overflow eof) (fun _ => True) le16 :=
  scalar_exact le16_length ofLe16_le16 fun _ => le16_ofLe16

lemma u32_exact : Exact (u32 overflow eof) (fun _ => True) le32 :=
  scalar_exact le32_length ofLe32_le32 fun _ => le32_ofLe32

/-- `n` values read one after another. -/
def times (r : Reader ε α) : ℕ → Reader ε (List α)
  | 0 => pure []
  | n + 1 => do
    let a ← r
    let as ← times r n
    pure (a :: as)

lemma times_exact {r : Reader ε α} {P : α → Prop} {enc : α → Bytes} (hr : Exact r P enc) (n : ℕ) :
    Exact (times r n) (fun as => as.length = n ∧ ∀ a ∈ as, P a) (fun as => as.flatMap enc) := by
  induction n with
  | zero =>
    refine (pure_exact ([] : List α)).congr (fun as => ?_) ?_
    · constructor
      · rintro rfl
        simp
      · rintro ⟨h, -⟩
        exact List.length_eq_zero_iff.mp h
    · rintro as ⟨h, -⟩
      simp [List.length_eq_zero_iff.mp h]
  | succ n ih =>
    intro c as c'
    rw [times, hr.bind_iff]
    simp only [ih.bind_iff, (pure_exact _ _ _ _), Cursor.rest_advance, Cursor.advance_advance]
    constructor
    · rintro ⟨a, ha, hp, as, ⟨rfl, has⟩, hps, rfl, -, rfl⟩
      refine ⟨⟨rfl, by simpa using ⟨ha, has⟩⟩, ?_, by simp⟩
      rw [List.flatMap_cons, append_prefix_iff]
      exact ⟨hp, hps⟩
    · rintro ⟨⟨hl, has⟩, hp, rfl⟩
      obtain _ | ⟨a, as⟩ := as
      · simp at hl
      · rw [List.flatMap_cons, append_prefix_iff] at hp
        rw [List.forall_mem_cons] at has
        exact ⟨a, has.1, hp.1, as, ⟨by simpa using hl, has.2⟩, hp.2, rfl, List.nil_prefix, by simp⟩

end Eip0045.Reading
