import Mathlib
import Eip0045.Library.Bytes

/-! Byte strings inside byte strings, their chunks, and lists without consecutive items of one key. -/

namespace Eip0045.Windows

open Bytes

def windows (haystack : Bytes) (width : ℕ) : List Bytes :=
  (List.range (haystack.length + 1 - width)).map fun i => slice haystack i width

lemma mem_windows {haystack window : Bytes} : window ∈ windows haystack window.length ↔ window <:+: haystack := by
  rw [windows, List.mem_map]
  constructor
  · rintro ⟨i, -, hslice⟩
    rw [← hslice, slice]
    exact (List.take_prefix _ _).isInfix.trans (List.drop_suffix _ _).isInfix
  · rintro ⟨front, back, rfl⟩
    refine ⟨front.length, ?_, slice_between front window back⟩
    rw [List.mem_range, List.length_append, List.length_append]
    omega

section Chunks

lemma slice_slice {b : Bytes} {i n j m : ℕ} (h : j + m ≤ n) : slice (slice b i n) j m = slice b (i + j) m := by
  rw [slice, slice, slice, List.drop_take, List.take_take, List.drop_drop, Nat.min_eq_left (by omega)]

def chunksExact (b : Bytes) (width : ℕ) : List Bytes :=
  (List.range (b.length / width)).map fun i => slice b (width * i) width

lemma chunk_length {b chunk : Bytes} {width : ℕ} (h : chunk ∈ chunksExact b width) :
    chunk.length = width := by
  obtain ⟨i, hi, rfl⟩ := List.mem_map.mp h
  have hmul : width * i + width ≤ width * (b.length / width) :=
    Nat.mul_le_mul_left width (List.mem_range.mp hi)
  exact slice_length (hmul.trans (Nat.mul_div_le _ _))

lemma chunksExact_flatten {b : Bytes} {width : ℕ} (h : width ∣ b.length) :
    (chunksExact b width).flatten = b := by
  have hslices := slice_records b 0 width (b.length / width)
  simp only [Nat.zero_add] at hslices
  rw [chunksExact, ← List.flatMap_def, hslices, Nat.mul_div_cancel' h, slice_all]

lemma chunksExact_flatMap {α : Type} {enc : α → Bytes} {width : ℕ} (hpos : 0 < width)
    (hwidth : ∀ a, (enc a).length = width) (xs : List α) :
    chunksExact (xs.flatMap enc) width = xs.map enc := by
  have hlength : (xs.flatMap enc).length / width = xs.length := by
    rw [flatMap_length hwidth, Nat.mul_div_cancel _ hpos]
  rw [chunksExact, hlength]
  apply List.ext_getElem
  · simp
  · intro i hi _
    rw [List.length_map, List.length_range] at hi
    rw [List.getElem_map, List.getElem_range, List.getElem_map]
    have hsplit : xs.flatMap enc = (xs.take i).flatMap enc ++ enc xs[i] ++ (xs.drop (i + 1)).flatMap enc := by
      rw [List.append_assoc, ← List.flatMap_cons, List.cons_getElem_drop_succ, ← List.flatMap_append,
        List.take_append_drop]
    have hfront : ((xs.take i).flatMap enc).length = width * i := by
      rw [flatMap_length hwidth, List.length_take, Nat.min_eq_left hi.le, Nat.mul_comm]
    rw [hsplit, ← hfront, ← hwidth xs[i], slice_between]

end Chunks

section Runs

variable {α β : Type} [DecidableEq β] (key : α → β)

/-- Of consecutive items with one key the first stays. -/
def dedupByKey : List α → List α
  | [] => []
  | [a] => [a]
  | a :: b :: rest => if key b = key a then dedupByKey (a :: rest) else a :: dedupByKey (b :: rest)
termination_by items => items.length

variable {key}

lemma mem_of_mem_dedupByKey {items : List α} {a : α} (h : a ∈ dedupByKey key items) : a ∈ items := by
  fun_induction dedupByKey key items with
  | case1 => exact h
  | case2 => exact h
  | case3 first second rest heq ih =>
    cases List.mem_cons.mp (ih h) with
    | inl h => exact h ▸ List.mem_cons_self
    | inr h => exact List.mem_cons_of_mem _ (List.mem_cons_of_mem _ h)
  | case4 first second rest hne ih =>
    cases List.mem_cons.mp h with
    | inl h => exact h ▸ List.mem_cons_self
    | inr h => exact List.mem_cons_of_mem _ (ih h)

lemma exists_mem_dedupByKey {items : List α} {a : α} (h : a ∈ items) :
    ∃ b ∈ dedupByKey key items, key b = key a := by
  fun_induction dedupByKey key items generalizing a with
  | case1 => exact absurd h List.not_mem_nil
  | case2 first => exact ⟨first, List.mem_cons_self, by rw [List.mem_singleton.mp h]⟩
  | case3 first second rest heq ih =>
    rw [List.mem_cons, List.mem_cons] at h
    obtain rfl | rfl | h := h
    · exact ih List.mem_cons_self
    · rw [heq]
      exact ih List.mem_cons_self
    · exact ih (List.mem_cons_of_mem _ h)
  | case4 first second rest hne ih =>
    cases List.mem_cons.mp h with
    | inl h => exact ⟨first, List.mem_cons_self, by rw [h]⟩
    | inr h =>
      obtain ⟨b, hb, hkey⟩ := ih h
      exact ⟨b, List.mem_cons_of_mem _ hb, hkey⟩

lemma forall_dedupByKey {items : List α} {p : β → Prop} :
    (∀ a ∈ dedupByKey key items, p (key a)) ↔ ∀ a ∈ items, p (key a) := by
  constructor
  · intro h a ha
    have hkept : ∃ b ∈ dedupByKey key items, key b = key a := exists_mem_dedupByKey ha
    obtain ⟨b, hb, hkey⟩ := hkept
    rw [← hkey]
    exact h b hb
  · exact fun h a ha => h a (mem_of_mem_dedupByKey ha)

end Runs

end Eip0045.Windows
