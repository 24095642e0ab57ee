import Mathlib

/-! The first place where a separator stands in a list. -/

namespace Eip0045.FirstSplit

variable {α : Type} [DecidableEq α]

/-- `strip_prefix`. -/
def stripInitial (initial text : List α) : Option (List α) :=
  if initial <+: text then some (text.drop initial.length) else none

/-- `split_once`: the parts before and after the first separator. -/
def splitOnce (sep : List α) : List α → Option (List α × List α)
  | [] => if sep = [] then some ([], []) else none
  | c :: cs =>
    if sep <+: c :: cs then some ([], (c :: cs).drop sep.length)
    else (splitOnce sep cs).map fun parts => (c :: parts.1, parts.2)

variable {sep text before after : List α}

lemma stripInitial_eq_some {initial rest : List α} :
    stripInitial initial text = some rest ↔ text = initial ++ rest := by
  rw [stripInitial]
  constructor
  · intro h
    split at h
    · rename_i hinitial
      obtain ⟨tail, rfl⟩ := hinitial
      rw [List.drop_left] at h
      rw [Option.some.inj h]
    · cases h
  · intro h
    subst h
    rw [if_pos (List.prefix_append initial rest), List.drop_left]

lemma splitOnce_sound (h : splitOnce sep text = some (before, after)) :
    text = before ++ (sep ++ after) := by
  induction text generalizing before with
  | nil =>
    rw [splitOnce] at h
    split at h
    · rename_i hsep
      cases h
      rw [hsep]
      rfl
    · cases h
  | cons c cs ih =>
    rw [splitOnce] at h
    split at h
    · rename_i hinitial
      obtain ⟨tail, htail⟩ := hinitial
      cases h
      rw [← htail, List.drop_left]
      rfl
    · obtain ⟨parts, hparts, heq⟩ := Option.map_eq_some_iff.mp h
      cases heq
      rw [ih hparts]
      rfl

lemma splitOnce_before (h : splitOnce sep text = some (before, after)) (hsep : sep ≠ []) :
    ¬sep <:+: before := by
  induction text generalizing before with
  | nil =>
    rw [splitOnce, if_neg hsep] at h
    cases h
  | cons c cs ih =>
    rw [splitOnce] at h
    split at h
    · cases h
      exact fun hinfix => hsep (List.infix_nil.mp hinfix)
    · rename_i hinitial
      obtain ⟨parts, hparts, heq⟩ := Option.map_eq_some_iff.mp h
      cases heq
      rw [List.infix_cons_iff]
      intro hinfix
      cases hinfix with
      | inl hfirst =>
        apply hinitial
        rw [splitOnce_sound hparts, ← List.cons_append]
        exact hfirst.trans (List.prefix_append _ _)
      | inr hlater => exact ih hparts hlater

lemma splitOnce_first {c : α} {tail : List α} (hc : c ∉ tail) (hbefore : ¬c :: tail <:+: before)
    (after : List α) :
    splitOnce (c :: tail) (before ++ (c :: tail ++ after)) = some (before, after) := by
  induction before with
  | nil =>
    rw [List.nil_append, List.cons_append, splitOnce, ← List.cons_append,
      if_pos (List.prefix_append (c :: tail) after), List.drop_left]
  | cons d before ih =>
    rw [List.infix_cons_iff, not_or] at hbefore
    have hinitial : ¬c :: tail <+: d :: (before ++ (c :: tail ++ after)) := by
      intro hstart
      obtain hle | hle := List.prefix_or_prefix_of_prefix hstart
        (List.prefix_append (d :: before) (c :: tail ++ after))
      · exact hbefore.1 hle
      · -- The separator begins in `before` and goes on with its own first item.
        obtain ⟨rest, hrest⟩ := hle
        cases rest with
        | nil =>
          rw [List.append_nil] at hrest
          exact hbefore.1 (hrest ▸ List.prefix_refl _)
        | cons e rest =>
          have hagain : e :: rest <+: c :: (tail ++ after) := by
            apply (List.prefix_append_right_inj (d :: before)).mp
            rw [hrest]
            exact hstart
          rw [List.cons_append, List.cons.injEq] at hrest
          rw [List.cons_prefix_cons] at hagain
          apply hc
          rw [← hrest.2, hagain.1]
          simp
    rw [List.cons_append, splitOnce, if_neg hinitial, ih hbefore.2]
    rfl

end Eip0045.FirstSplit
