import Mathlib
import Eip0045.Materialization.PhysicalPaths

/-! Ownership of physical paths along any run of binding calls. -/

namespace Eip0045.Materialization

open Bytes Checked Stateful

variable {sha256 : Bytes → Digest} {closure closure' : B4PhysicalPathClosure}
  {outcome : Except String Unit}

section Steps

def B4PhysicalPathClosure.bound (closure : B4PhysicalPathClosure) (path digest : Bytes)
    (role : B4PhysicalPathRole) : B4PhysicalPathClosure where
  paths := closure.paths.insert path
  sha256ByPath := closure.sha256ByPath.insert path digest
  roleByPath := closure.roleByPath.insert path role
  publicationPaths := closure.publicationPaths

/-- What `bindPath` leaves when it succeeds: a known source path as it was, or a new path. -/
inductive Binds (closure : B4PhysicalPathClosure) (path digest : Bytes) (role : B4PhysicalPathRole) :
    B4PhysicalPathClosure → Prop
  | reused (hmem : path ∈ closure.paths) (hrole : role = .source)
    (hsource : closure.roleByPath[path]? = some .source)
    (hdigest : closure.sha256ByPath[path]? = some digest) : Binds closure path digest role closure
  | fresh (hsafe : validateSafeRelativePath path = .ok ()) (hnew : path ∉ closure.paths)
    (hfree : ∀ existing ∈ closure.paths, b4PathsConflict existing path = false) :
    Binds closure path digest role (closure.bound path digest role)

def Call.role : Call → B4PhysicalPathRole
  | .bindUniqueOutput .. => .output
  | _ => .source

end Steps

section Invariant

/-- A closure whose paths are safe and disjoint, each with one digest and one role. -/
structure Owns (closure : B4PhysicalPathClosure) : Prop where
  digested : ∀ path, path ∈ closure.paths ↔ path ∈ closure.sha256ByPath
  classified : ∀ path, path ∈ closure.paths ↔ path ∈ closure.roleByPath
  safe : ∀ path ∈ closure.paths, validateSafeRelativePath path = .ok ()
  disjoint : ∀ path ∈ closure.paths, ∀ other ∈ closure.paths,
    path.splitOn slash <+: other.splitOn slash → path = other
  published : ∀ path ∈ closure.publicationPaths, closure.roleByPath[path]? = some .source

lemma mem_of_getElem? {ν : Type} {m : SortedMap Bytes ν} {path : Bytes} {v : ν}
    (h : m[path]? = some v) : path ∈ m := by
  rw [Std.ExtTreeMap.mem_iff_isSome_getElem?, h]
  rfl

lemma Binds.owns {path digest : Bytes} {role : B4PhysicalPathRole} (howns : Owns closure)
    (h : Binds closure path digest role closure') : Owns closure' := by
  cases h with
  | reused => exact howns
  | fresh hsafe hnew hfree =>
    have hmem : ∀ p, p ∈ closure.paths.insert path ↔ path = p ∨ p ∈ closure.paths := by
      intro p
      rw [Std.ExtTreeSet.mem_insert, Std.LawfulEqOrd.compare_eq_iff_eq]
    have hkey : ∀ {ν : Type} (m : SortedMap Bytes ν) (v : ν) (p : Bytes),
        p ∈ m.insert path v ↔ path = p ∨ p ∈ m := by
      intro ν m v p
      rw [Std.ExtTreeMap.mem_insert, Std.LawfulEqOrd.compare_eq_iff_eq]
    have hconflict : ∀ p ∈ closure.paths, ¬p.splitOn slash <+: path.splitOn slash ∧
        ¬path.splitOn slash <+: p.splitOn slash := by
      intro p hp
      rw [← not_or, ← b4PathsConflict_iff, hfree p hp]
      exact Bool.false_ne_true
    refine ⟨?_, ?_, ?_, ?_, ?_⟩
    · intro p
      exact (hmem p).trans ((or_congr_right (howns.digested p)).trans (hkey _ _ p).symm)
    · intro p
      exact (hmem p).trans ((or_congr_right (howns.classified p)).trans (hkey _ _ p).symm)
    · intro p hp
      obtain rfl | hp := (hmem p).mp hp
      · exact hsafe
      · exact howns.safe p hp
    · intro p hp q hq hprefix
      obtain rfl | hp := (hmem p).mp hp <;> obtain rfl | hq := (hmem q).mp hq
      · rfl
      · exact absurd hprefix (hconflict q hq).2
      · exact absurd hprefix (hconflict p hp).1
      · exact howns.disjoint p hp q hq hprefix
    · intro p hp
      have hsource := howns.published p hp
      have hne : path ≠ p := by
        rintro rfl
        exact hnew ((howns.classified path).mpr (mem_of_getElem? hsource))
      change (closure.roleByPath.insert path role)[p]? = _
      rw [SortedMap.getElem?_insert', if_neg hne, hsource]

/-- No path loses the digest or the role that it has. -/
def B4PhysicalPathClosure.Extends (closure closure' : B4PhysicalPathClosure) : Prop :=
  (∀ (path digest : Bytes), closure.sha256ByPath[path]? = some digest →
    closure'.sha256ByPath[path]? = some digest) ∧
  ∀ (path : Bytes) (role : B4PhysicalPathRole), closure.roleByPath[path]? = some role →
    closure'.roleByPath[path]? = some role

lemma Binds.bound {path digest : Bytes} {role : B4PhysicalPathRole} (howns : Owns closure)
    (h : Binds closure path digest role closure') :
    closure'.sha256ByPath[path]? = some digest ∧ closure'.roleByPath[path]? = some role ∧
      closure.Extends closure' := by
  cases h with
  | reused hmem hrole hsource hdigest =>
    rw [hrole]
    exact ⟨hdigest, hsource, fun _ _ h => h, fun _ _ h => h⟩
  | fresh hsafe hnew hfree =>
    refine ⟨Std.ExtTreeMap.getElem?_insert_self, Std.ExtTreeMap.getElem?_insert_self, ?_, ?_⟩
    · intro p d hp
      have hne : path ≠ p := by
        rintro rfl
        exact hnew ((howns.digested path).mpr (mem_of_getElem? hp))
      change (closure.sha256ByPath.insert path digest)[p]? = _
      rw [SortedMap.getElem?_insert', if_neg hne, hp]
    · intro p r hp
      have hne : path ≠ p := by
        rintro rfl
        exact hnew ((howns.classified path).mpr (mem_of_getElem? hp))
      change (closure.roleByPath.insert path role)[p]? = _
      rw [SortedMap.getElem?_insert', if_neg hne, hp]

end Invariant

section Prior

end Prior

section Runs

variable {start : B4PhysicalPathClosure} {calls later : List (Call × Except String Unit)}

/-- The successful calls of a run that are about one path. -/
def successes (path : Bytes) (calls : List (Call × Except String Unit)) : List Call :=
  calls.filterMap fun step => if step.1.path = path ∧ step.2.isOk then some step.1 else none

/-- What a run leaves: each successful call's digest and role, and an output's call alone. -/
structure Ran (sha256 : Bytes → Digest) (start : B4PhysicalPathClosure)
    (calls : List (Call × Except String Unit)) (closure : B4PhysicalPathClosure) : Prop where
  owns : Owns closure
  others : start.Extends closure
  supplied : ∀ call, (call, .ok ()) ∈ calls →
    closure.sha256ByPath[call.path]? = some (call.digest sha256) ∧
      closure.roleByPath[call.path]? = some call.role
  bound : ∀ path ∈ closure.paths, path ∈ start.paths ∨ ∃ call, (call, .ok ()) ∈ calls ∧ call.path = path
  outputs : ∀ call, (call, .ok ()) ∈ calls → call.role = .output →
    successes call.path calls = [call] ∧ call.path ∉ start.paths

lemma successes_append (path : Bytes) (calls later : List (Call × Except String Unit)) :
    successes path (calls ++ later) = successes path calls ++ successes path later :=
  List.filterMap_append

lemma B4PhysicalPathClosure.Extends.trans {closure'' : B4PhysicalPathClosure}
    (h : closure.Extends closure') (h' : closure'.Extends closure'') : closure.Extends closure'' :=
  ⟨fun p d hp => h'.1 p d (h.1 p d hp), fun p r hp => h'.2 p r (h.2 p r hp)⟩

lemma successes_singleton (path : Bytes) (call : Call) (outcome : Except String Unit) :
    successes path [(call, outcome)] = if call.path = path ∧ outcome.isOk then [call] else [] := by
  rw [successes, List.filterMap_cons, List.filterMap_nil]
  split_ifs <;> rfl

lemma mem_step {call call' : Call} {outcome : Except String Unit}
    (h : (call, .ok ()) ∈ calls ++ [(call', outcome)]) :
    (call, .ok ()) ∈ calls ∨ call = call' ∧ outcome = .ok () := by
  obtain h | h := List.mem_append.mp h
  · exact .inl h
  · obtain ⟨rfl, rfl⟩ := Prod.mk.inj (List.mem_singleton.mp h)
    exact .inr ⟨rfl, rfl⟩

lemma Ran.failed {call : Call} (h : Ran sha256 start calls closure) (hfail : outcome ≠ .ok ()) :
    Ran sha256 start (calls ++ [(call, outcome)]) closure := by
  have hold : ∀ call', (call', .ok ()) ∈ calls ++ [(call, outcome)] → (call', .ok ()) ∈ calls := by
    intro call' hcall'
    obtain hcall' | ⟨-, hok⟩ := mem_step hcall'
    · exact hcall'
    · exact absurd hok hfail
  have hisOk : outcome.isOk = false := by
    obtain e | u := outcome
    · rfl
    · exact absurd rfl hfail
  refine ⟨h.owns, h.others, fun call' hcall' => h.supplied call' (hold call' hcall'), ?_, ?_⟩
  · intro path hpath
    obtain hpath | ⟨call', hcall', hpath⟩ := h.bound path hpath
    · exact .inl hpath
    · exact .inr ⟨call', List.mem_append_left _ hcall', hpath⟩
  · intro call' hcall' hout
    rw [successes_append, successes_singleton, hisOk, if_neg (by simp), List.append_nil]
    exact h.outputs call' (hold call' hcall') hout

end Runs

end Eip0045.Materialization
