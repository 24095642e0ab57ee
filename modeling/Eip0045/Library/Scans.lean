import Mathlib

/-! Keys that a scan sees for the first time. -/

namespace Eip0045.Scans

variable {α : Type}

/-- Keys that differ from each other and from those already seen. -/
def Fresh (seen keys : List α) : Prop := keys.Nodup ∧ ∀ key ∈ keys, key ∉ seen

lemma fresh_nil (seen : List α) : Fresh seen [] := ⟨List.nodup_nil, fun _ h => (by cases h)⟩

lemma fresh_cons {seen keys : List α} {key : α} :
    Fresh seen (key :: keys) ↔ key ∉ seen ∧ Fresh (key :: seen) keys := by
  simp only [Fresh, List.nodup_cons, List.mem_cons, forall_eq_or_imp, not_or]
  constructor
  · intro h
    refine ⟨h.2.1, h.1.2, fun k hk => ⟨?_, h.2.2 k hk⟩⟩
    intro heq
    exact h.1.1 (heq ▸ hk)
  · intro h
    exact ⟨⟨fun hk => (h.2.2 key hk).1 rfl, h.2.1⟩, h.1, fun k hk => (h.2.2 k hk).2⟩

lemma fresh_snoc {seen keys : List α} {key : α} :
    Fresh seen (key :: keys) ↔ key ∉ seen ∧ Fresh (seen ++ [key]) keys := by
  have hseen : ∀ k, k ∈ seen ++ [key] ↔ k ∈ key :: seen := fun k => by simp [or_comm]
  rw [fresh_cons]
  exact and_congr_right fun _ => by simp only [Fresh, hseen]

lemma fresh_map {β : Type} {f : α → β} (hf : Function.Injective f) {seen keys : List α} :
    Fresh (seen.map f) (keys.map f) ↔ Fresh seen keys := by
  simp only [Fresh, List.nodup_map_iff hf, List.forall_mem_map, List.mem_map_of_injective hf]

lemma fresh_start {keys : List α} : Fresh [] keys ↔ keys.Nodup :=
  ⟨fun h => h.1, fun h => ⟨h, fun _ _ => List.not_mem_nil⟩⟩

end Eip0045.Scans
