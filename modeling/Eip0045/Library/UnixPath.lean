import Mathlib
import Eip0045.Library.Bytes
import Eip0045.Library.Checked

/-! Paths as their lists of components, and paths of which none lies above another. -/

namespace Eip0045.UnixPath

open Bytes Checked

inductive Component
  | rootDir
  | curDir
  | parentDir
  | normal (name : Bytes)
  deriving DecidableEq

abbrev Path := List Component

section Operations

/-- The component that a part between slashes stands for, if any. -/
def component (part : Bytes) : Option Component :=
  if part = [] ∨ part = [46] then none
  else if part = [46, 46] then some .parentDir
  else some (.normal part)

/-- `Path::new(text).components()`. -/
def ofText (text : Bytes) : Path :=
  let parts := (text.splitOn 47).filterMap component
  if text.head? = some 47 then .rootDir :: parts
  else if (text.splitOn 47).head? = some [46] then .curDir :: parts
  else parts

def push (path : Path) : Component → Path
  | .rootDir => [.rootDir]
  | .curDir => if path = [] then [.curDir] else path
  | c => path ++ [c]

/-- An absolute path replaces the one that it is pushed onto. -/
def join (path other : Path) : Path := other.foldl push path

def isAbsolute (path : Path) : Bool := path.head? == some .rootDir

def startsWith (path base : Path) : Bool := base.isPrefixOf path

def stripPrefix ( path base : Path) : Option Path :=
  if startsWith path base then some (path.drop base.length) else none

def parent (path : Path) : Option Path :=
  match path.getLast? with
  | none => none
  | some .rootDir => none
  | some _ => some path.dropLast

def fileName (path : Path) : Option Bytes :=
  match path.getLast? with
  | some (.normal name) => some name
  | _ => none

/-- `OsStr::to_str`. -/
def toStr (name : Bytes) : Option Bytes :=
  if (⟨name.toArray⟩ : ByteArray).validateUTF8 then some name else none

def Normalized (path : Path) : Prop := ∃ names : List Bytes, path = .rootDir :: names.map .normal

end Operations

section Normal

variable {path other base : Path} {names : List Bytes} {name : Bytes}

lemma join_normal (path : Path) (names : List Bytes) :
    join path (names.map .normal) = path ++ names.map .normal := by
  induction names generalizing path with
  | nil => simp [join]
  | cons name names ih =>
    rw [List.map_cons, join, List.foldl_cons]
    change join (path ++ [.normal name]) (names.map .normal) = _
    rw [ih, List.append_assoc]
    rfl

lemma push_length (path : Path) (c : Component) : (push path c).length ≤ path.length + 1 := by
  cases c <;> simp [push]
  split <;> simp

lemma join_length (path other : Path) : (join path other).length ≤ path.length + other.length := by
  induction other generalizing path with
  | nil => simp [join]
  | cons c other ih =>
    have hpush := push_length path c
    have hrest := ih (push path c)
    change (join (push path c) other).length ≤ _
    rw [List.length_cons]
    omega

lemma join_length_lt (hpath : path ≠ []) (hroot : .rootDir ∈ other) :
    (join path other).length < path.length + other.length := by
  induction other generalizing path with
  | nil => cases hroot
  | cons c other ih =>
    change (join (push path c) other).length < _
    rw [List.length_cons]
    obtain rfl | hroot := List.mem_cons.mp hroot
    · have hpos := List.length_pos_of_ne_nil hpath
      have hrest := join_length (push path .rootDir) other
      rw [push, List.length_singleton] at hrest
      rw [push]
      omega
    · have hpush := push_length path c
      have hne : push path c ≠ [] := by cases c <;> simp [push, hpath]
      have hrest := ih hne hroot
      omega

lemma exists_names (h : ∀ c ∈ path, ∃ name, c = .normal name) : ∃ names : List Bytes, path = names.map .normal := by
  induction path with
  | nil => exact ⟨[], rfl⟩
  | cons c path ih =>
    obtain ⟨⟨name, rfl⟩, hpath⟩ := List.forall_mem_cons.mp h
    obtain ⟨names, rfl⟩ := ih hpath
    exact ⟨name :: names, rfl⟩

lemma normalized_iff : Normalized path ↔ isAbsolute path = true ∧
    (∀ c ∈ path, c ≠ .curDir ∧ c ≠ .parentDir) ∧ join [] path = path := by
  constructor
  · rintro ⟨names, rfl⟩
    refine ⟨rfl, ?_, join_normal [.rootDir] names⟩
    rw [List.forall_mem_cons]
    exact ⟨by simp, by simp⟩
  · rintro ⟨habsolute, hdots, hrebuilt⟩
    cases path with
    | nil => cases habsolute
    | cons c rest =>
      obtain rfl : c = .rootDir := by simpa [isAbsolute] using habsolute
      have hroot : .rootDir ∉ rest := by
        intro hroot
        have hlength := join_length_lt (List.cons_ne_nil .rootDir []) hroot
        change join [.rootDir] rest = _ at hrebuilt
        rw [hrebuilt, List.length_cons, List.length_singleton] at hlength
        omega
      have hnormal : ∀ c ∈ rest, ∃ name, c = .normal name := by
        intro c hc
        have hdot := hdots c (List.mem_cons_of_mem _ hc)
        cases c with
        | normal name => exact ⟨name, rfl⟩
        | rootDir => exact absurd hc hroot
        | curDir => exact absurd rfl hdot.1
        | parentDir => exact absurd rfl hdot.2
      obtain ⟨names, rfl⟩ := exists_names hnormal
      exact ⟨names, rfl⟩

end Normal

section Antichains

variable {α : Type} {p q r s t : List α} {a b : α}

def Comparable (p q : List α) : Prop := p <+: q ∨ q <+: p

lemma Comparable.symm (h : Comparable p q) : Comparable q p := Or.symm h

lemma Comparable.of_append (h : Comparable (p ++ s) (q ++ t)) : Comparable p q := by
  cases h with
  | inl h =>
    exact List.prefix_or_prefix_of_prefix ((List.prefix_append p s).trans h) (List.prefix_append q t)
  | inr h =>
    exact List.prefix_or_prefix_of_prefix (List.prefix_append p s) ((List.prefix_append q t).trans h)

lemma comparable_append_iff : Comparable (p ++ s) (p ++ t) ↔ Comparable s t := by
  rw [Comparable, Comparable, List.prefix_append_right_inj, List.prefix_append_right_inj]

lemma comparable_singleton : Comparable [a] [b] ↔ a = b := by
  simp [Comparable, eq_comm]

def Antichain (ps : List (List α)) : Prop := ps.Pairwise fun p q => ¬Comparable p q

end Antichains

end Eip0045.UnixPath
