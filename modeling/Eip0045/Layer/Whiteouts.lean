import Mathlib
import Eip0045.Rootfs.Whiteouts

/-! The whiteouts of one layer: which subjects may stand beside each other. -/

namespace Eip0045.Layer

open Bytes Checked
open Rootfs (slash Overlap)

section Insertion

def whiteoutConflict : String := "OCI whiteout conflicts with an intra-layer whiteout subtree"

def checkNonoverlapping (existing : SortedMap Bytes Unit) (candidate : Bytes) : Except String Unit :=
  if candidate = [] then ensure (existing.isEmpty) whiteoutConflict
  else do
    ensure (existing[([] : Bytes)]? = none) whiteoutConflict
    ((List.range candidate.length).filter fun i => candidate[i]? = some slash).forM fun separator =>
      ensure (existing[candidate.take separator]? = none) whiteoutConflict
    ensure (existing.firstBelow (candidate ++ [slash]) = none) whiteoutConflict

def insertNonoverlappingWhiteout (existing : SortedMap Bytes Unit) (candidate : Bytes) :
    Except String (SortedMap Bytes Unit) := do
  ensure (existing[candidate]? = none) whiteoutConflict
  checkNonoverlapping existing candidate
  pure (existing.insert candidate ())

variable {existing subjects : SortedMap Bytes Unit} {candidate : Bytes}

lemma insertNonoverlappingWhiteout_eq :
    insertNonoverlappingWhiteout existing candidate = .ok subjects ↔
      Rootfs.insertNonoverlappingWhiteout existing candidate = .ok subjects := by
  rw [insertNonoverlappingWhiteout, Rootfs.insertNonoverlappingWhiteout, checkNonoverlapping,
    Rootfs.checkNonoverlapping]
  by_cases hroot : candidate = []
  · simp only [hroot, if_true, bind_ok, exists_unit, report_ok, ensure_ok, pure_ok]
  · simp only [hroot, if_false, bind_ok, exists_unit, report_ok, ensure_ok, pure_ok, forM_ok]

lemma mem_insert_subject {subject : Bytes} :
    (existing.insert candidate ())[subject]? = some () ↔ subject = candidate ∨
      existing[subject]? = some () := by
  rw [SortedMap.getElem?_insert']
  by_cases h : subject = candidate
  · simp [h]
  · simp [h, Ne.symm h]

end Insertion

section Sequences

lemma overlap_symm {p q : Bytes} (h : Overlap p q) : Overlap q p := by
  obtain h | h | h | h | h := h
  · exact Or.inl h.symm
  · exact Or.inr (Or.inr (Or.inl h))
  · exact Or.inr (Or.inl h)
  · exact Or.inr (Or.inr (Or.inr (Or.inr h)))
  · exact Or.inr (Or.inr (Or.inr (Or.inl h)))

lemma insertWhiteouts_ok {candidates : List Bytes} {existing : SortedMap Bytes Unit} :
    (∃ subjects, candidates.foldlM insertNonoverlappingWhiteout existing = .ok subjects) ↔
      (∀ candidate ∈ candidates, ∀ subject, existing[subject]? = some () → ¬Overlap subject candidate) ∧
      candidates.Pairwise fun p q => ¬Overlap p q := by
  induction candidates generalizing existing with
  | nil => simp [pure_ok]
  | cons candidate candidates ih =>
    simp only [List.foldlM_cons, bind_ok, insertNonoverlappingWhiteout_eq,
      Rootfs.insertNonoverlappingWhiteout_ok, List.forall_mem_cons, List.pairwise_cons]
    constructor
    · intro h
      obtain ⟨subjects, _, ⟨hfree, rfl⟩, hrest⟩ := h
      obtain ⟨hexisting, hpairs⟩ := ih.mp ⟨subjects, hrest⟩
      refine ⟨⟨hfree, ?_⟩, ?_, hpairs⟩
      · intro q hq subject hsubject
        exact hexisting q hq subject (mem_insert_subject.mpr (Or.inr hsubject))
      · intro q hq
        exact hexisting q hq candidate (mem_insert_subject.mpr (Or.inl rfl))
    · intro h
      obtain ⟨⟨hfree, hexisting⟩, hcandidate, hpairs⟩ := h
      obtain ⟨subjects, hrest⟩ := (@ih (existing.insert candidate ())).mpr (by
        refine ⟨?_, hpairs⟩
        intro q hq subject hsubject
        obtain rfl | hsubject := mem_insert_subject.mp hsubject
        · exact hcandidate q hq
        · exact hexisting q hq subject hsubject)
      exact ⟨subjects, _, ⟨hfree, rfl⟩, hrest⟩

/-- A path whose components come first among those of another, longer path. -/
def Ancestor (p q : Bytes) : Prop := p.splitOn slash <+: q.splitOn slash ∧ p ≠ q

lemma ancestor_iff {p q : Bytes} : Ancestor p q ↔ Paths.Below slash p q := by
  rw [Ancestor, Paths.splitOn_prefix_iff]
  constructor
  · intro h
    obtain ⟨rfl | hbelow, hne⟩ := h
    · exact absurd rfl hne
    · exact hbelow
  · intro h
    refine ⟨Or.inr h, ?_⟩
    rintro rfl
    exact Paths.Below.irrefl p h

/-- Subjects that may stand beside each other in one layer. -/
structure Disjoint (candidates : List Bytes) : Prop where
  distinct : candidates.Nodup
  unrelated : ∀ p ∈ candidates, ∀ q ∈ candidates, ¬Ancestor p q
  root : [] ∈ candidates → candidates = [[]]

lemma disjoint_iff {candidates : List Bytes} :
    Disjoint candidates ↔ candidates.Pairwise fun p q => ¬Overlap p q := by
  constructor
  · intro h
    apply h.distinct.imp_of_mem
    intro p q hp hq hne hoverlap
    obtain rfl | rfl | rfl | hbelow | hbelow := hoverlap
    · exact hne rfl
    · rw [h.root hp, List.mem_singleton] at hq
      exact hne hq.symm
    · rw [h.root hq, List.mem_singleton] at hp
      exact hne hp
    · exact h.unrelated p hp q hq (ancestor_iff.mpr hbelow)
    · exact h.unrelated q hq p hp (ancestor_iff.mpr hbelow)
  · intro h
    have hsymm : Std.Symm fun p q : Bytes => ¬Overlap p q := ⟨fun _ _ h hqp => h (overlap_symm hqp)⟩
    have hapart := h.forall
    refine ⟨h.imp fun hpq heq => hpq (Or.inl heq), ?_, ?_⟩
    · intro p hp q hq hancestor
      exact hapart hp hq hancestor.2 (Or.inr (Or.inr (Or.inr (Or.inl (ancestor_iff.mp hancestor)))))
    · intro hroot
      have hall : ∀ q ∈ candidates, q = [] := by
        intro q hq
        by_contra hne
        exact hapart hroot hq (Ne.symm hne) (Or.inr (Or.inl rfl))
      have hnodup : candidates.Nodup := h.imp fun hpq heq => hpq (Or.inl heq)
      obtain ⟨p, rest, rfl⟩ := List.exists_cons_of_ne_nil (List.ne_nil_of_mem hroot)
      rw [List.nodup_cons] at hnodup
      rw [List.forall_mem_cons] at hall
      obtain rfl := hall.1
      cases rest with
      | nil => rfl
      | cons q rest =>
        rw [hall.2 q List.mem_cons_self] at hnodup
        exact absurd List.mem_cons_self hnodup.1

/-- A sequence of whiteouts is admitted exactly when its subjects are disjoint, whatever their order
and whichever copy of the function admits them. -/
theorem whiteouts_exact :
    (∀ candidates : List Bytes,
      (∃ subjects, candidates.foldlM insertNonoverlappingWhiteout ∅ = .ok subjects) ↔
        Disjoint candidates) ∧
    (∀ candidates permuted : List Bytes, candidates.Perm permuted →
      ((∃ subjects, candidates.foldlM insertNonoverlappingWhiteout ∅ = .ok subjects) ↔
        ∃ subjects, permuted.foldlM insertNonoverlappingWhiteout ∅ = .ok subjects)) ∧
    ∀ (candidates : List Bytes) (existing subjects : SortedMap Bytes Unit),
      candidates.foldlM insertNonoverlappingWhiteout existing = .ok subjects ↔
        candidates.foldlM Rootfs.insertNonoverlappingWhiteout existing = .ok subjects := by
  have hexact : ∀ candidates : List Bytes,
      (∃ subjects, candidates.foldlM insertNonoverlappingWhiteout ∅ = .ok subjects) ↔
        Disjoint candidates := by
    intro candidates
    rw [insertWhiteouts_ok, disjoint_iff]
    simp
  refine ⟨hexact, ?_, ?_⟩
  · intro candidates permuted hperm
    rw [hexact, hexact, disjoint_iff, disjoint_iff]
    exact hperm.pairwise_iff fun hpq hqp => hpq (overlap_symm hqp)
  · intro candidates
    induction candidates with
    | nil => simp [pure_ok]
    | cons candidate candidates ih =>
      intro existing subjects
      simp only [List.foldlM_cons, bind_ok, insertNonoverlappingWhiteout_eq, ih]

end Sequences

end Eip0045.Layer
