import Eip0045.Library.Bytes

/-! Records of little-endian fields of fixed widths. -/

namespace Eip0045.Packed

open Bytes

abbrev Format := List ℕ

def size (format : Format) : ℕ := format.sum

/-- No bytes at all where a value does not fit its field. -/
def pack : Format → List ℕ → Option Bytes
  | [], [] => some []
  | w :: ws, v :: vs => if v < 256 ^ w then (pack ws vs).map (leBytes w v ++ ·) else none
  | _, _ => none

def unpack : Format → Bytes → List ℕ
  | [], _ => []
  | w :: ws, bs => leValue (bs.take w) :: unpack ws (bs.drop w)

lemma pack_cons {w v : ℕ} {ws : Format} {vs : List ℕ} {bs : Bytes} :
    pack (w :: ws) (v :: vs) = some bs ↔
      v < 256 ^ w ∧ ∃ rest, pack ws vs = some rest ∧ bs = leBytes w v ++ rest := by
  by_cases hv : v < 256 ^ w
  · simp [pack, hv, eq_comm]
  · simp [pack, hv]

lemma pack_length {format : Format} {values : List ℕ} {bs : Bytes}
    (h : pack format values = some bs) : bs.length = size format := by
  induction format generalizing values bs with
  | nil =>
    cases values with
    | nil => cases Option.some.inj h; rfl
    | cons v vs => exact absurd h (by simp [pack])
  | cons w ws ih =>
    cases values with
    | nil => exact absurd h (by simp [pack])
    | cons v vs =>
      obtain ⟨-, rest, hrest, rfl⟩ := pack_cons.mp h
      rw [List.length_append, leBytes_length, ih hrest]
      simp [size]

lemma unpack_pack {format : Format} {values : List ℕ} {bs : Bytes}
    (h : pack format values = some bs) : unpack format bs = values := by
  induction format generalizing values bs with
  | nil =>
    cases values with
    | nil => rfl
    | cons v vs => exact absurd h (by simp [pack])
  | cons w ws ih =>
    cases values with
    | nil => exact absurd h (by simp [pack])
    | cons v vs =>
      obtain ⟨hv, rest, hrest, rfl⟩ := pack_cons.mp h
      have hw : (leBytes w v).length = w := leBytes_length w v
      rw [unpack, List.take_left' hw, List.drop_left' hw, leValue_leBytes hv, ih hrest]

lemma pack_isSome {format : Format} {values : List ℕ}
    (h : List.Forall₂ (fun w v => v < 256 ^ w) format values) : (pack format values).isSome := by
  induction h with
  | nil => rfl
  | cons hv _ ih =>
    obtain ⟨rest, hrest⟩ := Option.isSome_iff_exists.mp ih
    simp [pack, hv, hrest]

end Eip0045.Packed
