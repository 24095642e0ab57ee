import Eip0045.Library.Bytes

/-! Lower-case hexadecimal spellings of byte strings. -/

namespace Eip0045.Hex

open Bytes

def digit (v : UInt8) : UInt8 := if v < 10 then v + 48 else v + 87

def encode (b : Bytes) : Bytes := b.flatMap fun c => [digit (c / 16), digit (c % 16)]

def IsLower (c : UInt8) : Prop := 48 ≤ c ∧ c ≤ 57 ∨ 97 ≤ c ∧ c ≤ 102

instance (c : UInt8) : Decidable (IsLower c) := inferInstanceAs (Decidable (_ ∨ _))

def val (c : UInt8) : Option UInt8 :=
  if 48 ≤ c ∧ c ≤ 57 then some (c - 48)
  else if 97 ≤ c ∧ c ≤ 102 then some (c - 87)
  else if 65 ≤ c ∧ c ≤ 70 then some (c - 55)
  else none

def decode : Bytes → Option Bytes
  | [] => some []
  | [_] => none
  | a :: b :: s => do
    let high ← val a
    let low ← val b
    let rest ← decode s
    pure ((high * 16 + low) :: rest)

/-- `hex::decode_to_slice` into an array of `n` bytes. -/
def decodeToSlice (n : ℕ) (s : Bytes) : Option (ByteArr n) := (decode s).bind (ByteArr.ofBytes n)

section Digits

lemma forall_byte {p : UInt8 → Prop} (h : ∀ n < 256, p (UInt8.ofNat n)) (c : UInt8) : p c := by
  have hc := h c.toNat c.toNat_lt
  rwa [UInt8.ofNat_toNat] at hc

lemma byte_checked (c : UInt8) : (IsLower (digit (c / 16)) ∧ IsLower (digit (c % 16))) ∧
    (val (digit (c / 16)) = some (c / 16) ∧ val (digit (c % 16)) = some (c % 16)) ∧
    c / 16 * 16 + c % 16 = c ∧
    (IsLower c → ∃ n < 16, val c = some (UInt8.ofNat n) ∧ digit (UInt8.ofNat n) = c) := by
  revert c
  apply forall_byte
  decide +kernel

lemma digit_isLower (c : UInt8) : IsLower (digit (c / 16)) ∧ IsLower (digit (c % 16)) :=
  (byte_checked c).1

lemma val_digit (c : UInt8) :
    val (digit (c / 16)) = some (c / 16) ∧ val (digit (c % 16)) = some (c % 16) :=
  (byte_checked c).2.1

lemma halves (c : UInt8) : c / 16 * 16 + c % 16 = c := (byte_checked c).2.2.1

lemma val_lower (c : UInt8) (h : IsLower c) :
    ∃ n < 16, val c = some (UInt8.ofNat n) ∧ digit (UInt8.ofNat n) = c :=
  (byte_checked c).2.2.2 h

lemma pair_halves (m : ℕ) (hm : m < 16) (n : ℕ) (hn : n < 16) :
    (UInt8.ofNat m * 16 + UInt8.ofNat n) / 16 = UInt8.ofNat m ∧
      (UInt8.ofNat m * 16 + UInt8.ofNat n) % 16 = UInt8.ofNat n := by
  have hsixteen : (16 : UInt8).toNat = 16 := rfl
  have hpair : (UInt8.ofNat m * 16 + UInt8.ofNat n).toNat = m * 16 + n := by
    rw [UInt8.toNat_add, UInt8.toNat_mul, UInt8.toNat_ofNat', UInt8.toNat_ofNat', hsixteen]
    omega
  constructor
  · apply UInt8.toNat_inj.mp
    rw [UInt8.toNat_div, hpair, UInt8.toNat_ofNat', hsixteen]
    omega
  · apply UInt8.toNat_inj.mp
    rw [UInt8.toNat_mod, hpair, UInt8.toNat_ofNat', hsixteen]
    omega

end Digits

lemma encode_length (b : Bytes) : (encode b).length = b.length * 2 := by
  have hpair : ∀ c : UInt8, [digit (c / 16), digit (c % 16)].length = 2 := fun _ => rfl
  exact flatMap_length hpair b

lemma encode_isLower (b : Bytes) : ∀ c ∈ encode b, IsLower c := by
  intro c hc
  obtain ⟨a, -, ha⟩ := List.mem_flatMap.mp hc
  obtain ⟨hhigh, hlow⟩ := digit_isLower a
  simp only [List.mem_cons, List.not_mem_nil, or_false] at ha
  cases ha with
  | inl h => exact h ▸ hhigh
  | inr h => exact h ▸ hlow

lemma decode_encode (b : Bytes) : decode (encode b) = some b := by
  induction b with
  | nil => rfl
  | cons c b ih =>
    obtain ⟨hhigh, hlow⟩ := val_digit c
    change (val (digit (c / 16)) >>= fun high => val (digit (c % 16)) >>= fun low =>
      decode (encode b) >>= fun rest => pure ((high * 16 + low) :: rest)) = _
    rw [hhigh, hlow, ih]
    change some ((c / 16 * 16 + c % 16) :: b) = _
    rw [halves]

lemma encode_decode {n : ℕ} {s : Bytes} (hs : ∀ c ∈ s, IsLower c) (hn : s.length = n * 2) :
    ∃ b, decode s = some b ∧ b.length = n ∧ encode b = s := by
  induction n generalizing s with
  | zero =>
    rw [List.length_eq_zero_iff.mp hn]
    exact ⟨[], rfl, rfl, rfl⟩
  | succ n ih =>
    obtain _ | ⟨x, _ | ⟨y, s⟩⟩ := s
    · exact absurd hn (by simp)
    · exact absurd hn (by simp; omega)
    · obtain ⟨i, hi, hx, hdx⟩ := val_lower x (hs x (by simp))
      obtain ⟨j, hj, hy, hdy⟩ := val_lower y (hs y (by simp))
      have hlen : s.length = n * 2 := by
        simp only [List.length_cons] at hn
        omega
      have htail : ∀ c ∈ s, IsLower c := fun c hc => hs c (by simp [hc])
      obtain ⟨b, hb, hbn, henc⟩ := ih htail hlen
      obtain ⟨hhigh, hlow⟩ := pair_halves i hi j hj
      refine ⟨(UInt8.ofNat i * 16 + UInt8.ofNat j) :: b, ?_, by rw [List.length_cons, hbn], ?_⟩
      · rw [decode, hx, hy, hb]
        rfl
      · change [digit _, digit _] ++ encode b = _
        rw [hhigh, hlow, hdx, hdy, henc]
        rfl

variable {n : ℕ}

lemma decodeToSlice_encode (a : ByteArr n) : decodeToSlice n (encode a.val) = some a := by
  rw [decodeToSlice, decode_encode]
  exact ByteArr.ofBytes_val a

lemma decodeToSlice_eq_some {s : Bytes} {a : ByteArr n} (hs : ∀ c ∈ s, IsLower c)
    (hn : s.length = n * 2) : decodeToSlice n s = some a ↔ s = encode a.val := by
  constructor
  · intro h
    obtain ⟨b, hb, -, henc⟩ := encode_decode hs hn
    rw [decodeToSlice, hb] at h
    rw [← ByteArr.ofBytes_eq_some.mp h, henc]
  · intro h
    rw [h]
    exact decodeToSlice_encode a

lemma encode_injective : Function.Injective fun a : ByteArr n => encode a.val := by
  intro a b h
  have hs : some a = some b := by
    rw [← decodeToSlice_encode a, ← decodeToSlice_encode b]
    exact congrArg (decodeToSlice n) h
  exact Option.some.inj hs

end Eip0045.Hex
