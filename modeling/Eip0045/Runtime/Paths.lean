import Eip0045.Library.JcsReference
import Eip0045.Runtime.Timestamp

/-! Container identifiers and absolute paths of portable components. -/

namespace Eip0045.Runtime

open Bytes Checked

section Specification

/-- A container identifier, and a component of a path. -/
structure IsComponent (value : Bytes) : Prop where
  length : 1 ≤ value.length ∧ value.length ≤ 128
  no_dots : value ≠ dot ∧ value ≠ dotDot
  portable : ∀ c ∈ value, IsPortable c

structure RuntimePath where
  components : List Bytes
  nonempty : components ≠ []
  count : components.length ≤ 64
  component : ∀ c ∈ components, IsComponent c
  bound : (components.flatMap (slash :: ·)).length ≤ 4096

def RuntimePath.spelled (p : RuntimePath) : Bytes := p.components.flatMap (slash :: ·)

end Specification

section Components

variable {value rest : Bytes} {components : List Bytes} {label : String} {count : ℕ}

lemma validateRuncContainerId_ok : validateRuncContainerId value = .ok () ↔ IsComponent value := by
  simp only [validateRuncContainerId, bind_ok, exists_unit, ensure_ok]
  constructor
  · rintro ⟨hlength, hdots, hportable⟩
    exact ⟨hlength, hdots, hportable⟩
  · rintro ⟨hlength, hdots, hportable⟩
    exact ⟨hlength, hdots, hportable⟩

lemma validateComponents_ok (hcount : count ≤ 64) : validateComponents label components count = .ok () ↔
    count + components.length ≤ 64 ∧ ∀ c ∈ components, IsComponent c := by
  induction components generalizing count with
  | nil => simpa [validateComponents, pure, Except.pure] using hcount
  | cons c components ih =>
    simp only [validateComponents, bind_ok, exists_unit, ensure_ok, context_ok, checkedAdd_eq_some,
      List.forall_mem_cons, List.length_cons]
    constructor
    · rintro ⟨_, ⟨-, rfl⟩, hbound, hlength, hdots, hportable, hrest⟩
      obtain ⟨htotal, hcomponents⟩ := (ih hbound).mp hrest
      exact ⟨by omega, ⟨hlength, hdots, hportable⟩, hcomponents⟩
    · rintro ⟨htotal, ⟨hlength, hdots, hportable⟩, hcomponents⟩
      have hbound : count + 1 ≤ 64 := by omega
      exact ⟨count + 1, ⟨by omega, rfl⟩, hbound, hlength, hdots, hportable,
        (ih hbound).mpr ⟨by omega, hcomponents⟩⟩

lemma portable_ne_slash {c : UInt8} (h : IsPortable c) : c ≠ slash := by
  rintro rfl
  exact absurd h (by decide)

lemma IsComponent.no_slash (h : IsComponent value) : slash ∉ value :=
  fun hmem => portable_ne_slash (h.portable slash hmem) rfl

lemma IsComponent.ne_nil (h : IsComponent value) : value ≠ [] := by
  rintro rfl
  exact absurd h.length.1 (by decide)

end Components

section Joined

variable {components : List Bytes} {value rest : Bytes}

lemma flatMap_slash (h : components ≠ []) :
    components.flatMap (slash :: ·) = slash :: [slash].intercalate components := by
  induction components with
  | nil => exact absurd rfl h
  | cons c components ih =>
    by_cases hne : components = []
    · rw [hne]
      simp
    · rw [List.flatMap_cons, ih hne, List.intercalate_cons_of_ne_nil hne]
      simp

lemma components_of_split (rest : Bytes) :
    (rest.splitOn slash).flatMap (slash :: ·) = slash :: rest := by
  rw [flatMap_slash (List.splitOn_ne_nil _ _), List.intercalate_splitOn]

lemma split_of_components (h : components ≠ []) (hcomponents : ∀ c ∈ components, IsComponent c)
    (hrest : components.flatMap (slash :: ·) = slash :: rest) : rest.splitOn slash = components := by
  rw [flatMap_slash h] at hrest
  rw [← (List.cons.inj hrest).2]
  exact List.splitOn_intercalate slash (fun c hc => (hcomponents c hc).no_slash) h

lemma chain_components (hcomponents : ∀ c ∈ components, IsComponent c) :
    (components.flatMap (slash :: ·)).IsChain (fun a b => ¬(a = slash ∧ b = slash)) ∧
      (components.flatMap (slash :: ·)).getLast? ≠ some slash := by
  induction components with
  | nil => simp
  | cons c components ih =>
    rw [List.forall_mem_cons] at hcomponents
    obtain ⟨hchain, hlast⟩ := ih hcomponents.2
    have hall : ∀ x ∈ c, x ≠ slash := fun x hx => portable_ne_slash (hcomponents.1.portable x hx)
    have hfirst : (slash :: c).IsChain (fun a b => ¬(a = slash ∧ b = slash)) := by
      refine (List.pairwise_cons.mpr ⟨fun x hx h => hall x hx h.2, ?_⟩).isChain
      exact List.pairwise_of_forall_mem_list fun x hx _ _ h => hall x hx h.1
    have hend : ∀ x ∈ (slash :: c).getLast?, x ≠ slash := by
      intro x hx
      rw [List.getLast?_cons_of_ne_nil hcomponents.1.ne_nil] at hx
      exact hall x (List.mem_of_getLast? hx)
    rw [List.flatMap_cons]
    constructor
    · exact List.isChain_append.mpr ⟨hfirst, hchain, fun x hx y _ h => hend x hx h.1⟩
    · rw [List.getLast?_append]
      cases hrest : (components.flatMap (slash :: ·)).getLast? with
      | none => exact fun h => hend slash h rfl
      | some y => exact fun h => hlast (hrest.trans h)

end Joined

section Paths

variable {value : Bytes} {label : String}

lemma validateRuntimePath_ok : validateRuntimePath value label = .ok () ↔
    ∃ p : RuntimePath, value = p.spelled := by
  simp only [validateRuntimePath, bind_ok, exists_unit, report_ok, ensure_ok]
  constructor
  · rintro ⟨⟨-, hbound⟩, ⟨rest, rfl⟩, -, -, behind, hbehind, hcomponents⟩
    obtain rfl : rest = behind := Except.ok.inj hbehind
    obtain ⟨hcount, hcomponents⟩ := (validateComponents_ok (Nat.zero_le 64)).mp hcomponents
    have hspelled := components_of_split rest
    refine ⟨⟨rest.splitOn slash, List.splitOn_ne_nil _ _, by omega, hcomponents, ?_⟩, hspelled.symm⟩
    rw [hspelled]
    exact hbound
  · rintro ⟨p, rfl⟩
    obtain ⟨hchain, hlast⟩ := chain_components p.component
    obtain ⟨rest, hrest⟩ : ∃ rest, p.components.flatMap (slash :: ·) = slash :: rest :=
      ⟨_, flatMap_slash p.nonempty⟩
    have hsplit := split_of_components p.nonempty p.component hrest
    have hbound := p.bound
    rw [RuntimePath.spelled]
    rw [hrest] at hchain hlast hbound ⊢
    refine ⟨⟨?_, hbound⟩, ⟨rest, rfl⟩, ?_, ?_, rest, rfl, ?_⟩
    · cases rest with
      | nil => exact absurd rfl hlast
      | cons c rest => simp
    · rintro ⟨first, hfirst⟩
      apply hlast
      rw [← hfirst, List.getLast?_concat]
    · intro hinfix
      have hpair := hchain.infix hinfix
      simp at hpair
    · rw [hsplit, validateComponents_ok (Nat.zero_le 64)]
      exact ⟨by have := p.count; omega, p.component⟩

lemma validateRuntimePath_in_range (value : Bytes) (label : String) :
    validateRuntimePath value label ≠ .error .outOfRange := by
  rw [validateRuntimePath]
  refine bind_ne_error (report_ne_outOfRange _) fun _ _ => ?_
  refine bind_ne_error (report_ne_outOfRange _) fun _ hslash => ?_
  refine bind_ne_error (report_ne_outOfRange _) fun _ _ => ?_
  refine bind_ne_error (report_ne_outOfRange _) fun _ _ => ?_
  rw [report_ok, ensure_ok] at hslash
  obtain ⟨rest, rfl⟩ := hslash
  exact bind_ne_error (fun h => (by cases h)) fun _ _ => report_ne_outOfRange _

end Paths

end Eip0045.Runtime
