import Mathlib
import Eip0045.Profile.ConstantsArtifactCodec

/-! PolyExt programs, and that an accepted program reads only what it has defined. -/

namespace Eip0045.B2Codec

open Bytes Checked

section Operands

def PolyExtOp.fieldOperands : PolyExtOp → List UInt16
  | .add a b | .sub a b | .mul a b => [a, b]
  | .andEqz _ inner => [inner]
  | .andCond _ cond _ => [cond]
  | _ => []

def PolyExtOp.mixOperands : PolyExtOp → List UInt16
  | .andEqz chain _ => [chain]
  | .andCond chain _ inner => [chain, inner]
  | _ => []

def PolyExtOp.tapOperands : PolyExtOp → List UInt16
  | .get tap => [tap]
  | _ => []

def PolyExtOp.globalOperands : PolyExtOp → List (UInt16 × UInt16)
  | .getGlobal group offset => [(group, offset)]
  | _ => []

def outputSize : ℕ := 32
def mixSize : ℕ := 20

/-- The operands of one operation, each in its own index space. -/
structure OperandsDefined (taps : ℕ) (c : Counts) (op : PolyExtOp) : Prop where
  field : ∀ v ∈ op.fieldOperands, v.toNat < c.fp
  mix : ∀ v ∈ op.mixOperands, v.toNat < c.mix
  tap : ∀ v ∈ op.tapOperands, v.toNat < taps
  global : ∀ v ∈ op.globalOperands, (v.1 = 0 ∧ v.2.toNat < outputSize) ∨ (v.1 = 1 ∧ v.2.toNat < mixSize)

/-- The field and the mix variables that some operations append. -/
def produced (ops : List PolyExtOp) : Counts :=
  ⟨ops.countP fun op => !op.isMix, ops.countP fun op => op.isMix⟩

lemma Counts.after_produced (ops : List PolyExtOp) (op : PolyExtOp) :
    (produced ops).after op = produced (ops ++ [op]) := by
  rw [Counts.after]
  cases h : op.isMix <;> simp [produced, h]

lemma produced_eq_foldl (ops : List PolyExtOp) : produced ops = ops.foldl Counts.after ⟨0, 0⟩ := by
  induction ops using List.reverseRecOn with
  | nil => rfl
  | append_singleton ops op ih => rw [List.foldl_append, ← ih, ← Counts.after_produced]; rfl

lemma forall_mem_pair {P : UInt16 → Prop} {a b : UInt16} (ha : P a) (hb : P b) : ∀ v ∈ [a, b], P v :=
  List.forall_mem_cons.mpr ⟨ha, List.forall_mem_singleton.mpr hb⟩

lemma globalOperand_ok {group offset : UInt16} (hgroup : group.toNat < 2)
    (hoffset : offset.toNat < if group = 0 then 32 else 20) :
    (group = 0 ∧ offset.toNat < outputSize) ∨ (group = 1 ∧ offset.toNat < mixSize) := by
  by_cases h : group = 0
  · rw [if_pos h] at hoffset
    exact .inl ⟨h, hoffset⟩
  · rw [if_neg h] at hoffset
    have hone : group.toNat = 1 := by
      have hzero : group.toNat ≠ 0 := fun hzero => h (UInt16.toNat_inj.mp hzero)
      omega
    exact .inr ⟨UInt16.toNat_inj.mp hone, hoffset⟩

lemma operandsDefined_of_valid {taps : ℕ} {c : Counts} {op : PolyExtOp}
    (h : validateOpReferences op c.fp c.mix taps = .ok ()) : OperandsDefined taps c op := by
  have hnone : ∀ {α : Type} {P : α → Prop}, ∀ v ∈ ([] : List α), P v := fun _ hv => absurd hv List.not_mem_nil
  cases op with
  | const value => exact ⟨hnone, hnone, hnone, hnone⟩
  | constExt a b c d => exact ⟨hnone, hnone, hnone, hnone⟩
  | true => exact ⟨hnone, hnone, hnone, hnone⟩
  | get tap =>
    have htap := ensure_ok.mp h
    exact ⟨hnone, hnone, List.forall_mem_singleton.mpr htap, hnone⟩
  | getGlobal group offset =>
    simp only [validateOpReferences, bind_ok, exists_unit, ensure_ok] at h
    exact ⟨hnone, hnone, hnone, List.forall_mem_singleton.mpr (globalOperand_ok h.1 h.2)⟩
  | add a b | sub a b | mul a b =>
    simp only [validateOpReferences, fpRef, bind_ok, exists_unit, ensure_ok] at h
    exact ⟨forall_mem_pair h.1 h.2, hnone, hnone, hnone⟩
  | andEqz chain inner =>
    simp only [validateOpReferences, fpRef, mixRef, bind_ok, exists_unit, ensure_ok] at h
    exact ⟨List.forall_mem_singleton.mpr h.2, List.forall_mem_singleton.mpr h.1, hnone, hnone⟩
  | andCond chain cond inner =>
    simp only [validateOpReferences, fpRef, mixRef, bind_ok, exists_unit, ensure_ok] at h
    exact ⟨List.forall_mem_singleton.mpr h.2.1, forall_mem_pair h.1 h.2.2, hnone, hnone⟩

lemma referencesValid_take {taps i : ℕ} {ops : List PolyExtOp} {op : PolyExtOp} {c : Counts}
    (h : ReferencesValid taps ops c) (hop : ops[i]? = some op) :
    OperandsDefined taps ((ops.take i).foldl Counts.after c) op := by
  induction ops generalizing i c with
  | nil => cases hop
  | cons first ops ih =>
    cases i with
    | zero =>
      obtain rfl := Option.some.inj hop
      exact operandsDefined_of_valid h.1
    | succ i => exact ih h.2 hop

end Operands

section Execution

variable {K : Type*} {tapCount : ℕ}

/-- What a program is run on: tap evaluations, the two global arrays and the challenge, with the
embeddings of base and extension constants. -/
structure PolyExtInputs (K : Type*) (tapCount : ℕ) where
  base : UInt32 → K
  ext4 : UInt32 → UInt32 → UInt32 → UInt32 → K
  taps : List.Vector K tapCount
  out : List.Vector UInt32 outputSize
  mixGlobals : List.Vector UInt32 mixSize
  polyMix : K

structure PolyExtState (K : Type*) where
  fp : List K
  mixTotal : List K
  mixMultiplier : List K

def PolyExtState.appendField (s : PolyExtState K) (value : K) : PolyExtState K :=
  { s with fp := s.fp ++ [value] }

def PolyExtState.appendMix (s : PolyExtState K) (total multiplier : K) : PolyExtState K :=
  { s with mixTotal := s.mixTotal ++ [total], mixMultiplier := s.mixMultiplier ++ [multiplier] }

def PolyExtInputs.args (inputs : PolyExtInputs K tapCount) (group : UInt16) : Option (List UInt32) :=
  [inputs.out.toList, inputs.mixGlobals.toList][group.toNat]?

/-- `BASE(args[group][offset])`. -/
def PolyExtInputs.global (inputs : PolyExtInputs K tapCount) (group offset : UInt16) : Option K :=
  ((inputs.args group).bind fun args => args[offset.toNat]?).map inputs.base

/-- The state has as many variables as the counts say. -/
structure PolyExtState.Holds (s : PolyExtState K) (c : Counts) : Prop where
  fp : s.fp.length = c.fp
  total : s.mixTotal.length = c.mix
  multiplier : s.mixMultiplier.length = c.mix

variable {inputs : PolyExtInputs K tapCount} {s : PolyExtState K} {c : Counts}

lemma PolyExtState.Holds.appendField (h : s.Holds c) (value : K) :
    (s.appendField value).Holds { c with fp := c.fp + 1 } :=
  ⟨by simp [PolyExtState.appendField, h.fp], h.total, h.multiplier⟩

lemma PolyExtState.Holds.appendMix (h : s.Holds c) (total multiplier : K) :
    (s.appendMix total multiplier).Holds { c with mix := c.mix + 1 } :=
  ⟨h.fp, by simp [PolyExtState.appendMix, h.total], by simp [PolyExtState.appendMix, h.multiplier]⟩

lemma PolyExtState.Holds.readField (h : s.Holds c) {v : UInt16} (hv : v.toNat < c.fp) :
    ∃ value, s.fp[v.toNat]? = some value :=
  ⟨_, List.getElem?_eq_getElem (by rwa [h.fp])⟩

lemma PolyExtState.Holds.readFields (h : s.Holds c) {a b : UInt16} (hab : ∀ v ∈ [a, b], v.toNat < c.fp) :
    ∃ left right, s.fp[a.toNat]? = some left ∧ s.fp[b.toNat]? = some right := by
  obtain ⟨left, hleft⟩ := h.readField (hab a List.mem_cons_self)
  obtain ⟨right, hright⟩ := h.readField (hab b (List.mem_cons_of_mem a List.mem_cons_self))
  exact ⟨left, right, hleft, hright⟩

lemma PolyExtState.Holds.readMix (h : s.Holds c) {v : UInt16} (hv : v.toNat < c.mix) :
    ∃ total multiplier, s.mixTotal[v.toNat]? = some total ∧ s.mixMultiplier[v.toNat]? = some multiplier :=
  ⟨_, _, List.getElem?_eq_getElem (by rwa [h.total]), List.getElem?_eq_getElem (by rwa [h.multiplier])⟩

lemma PolyExtInputs.readGlobal {group offset : UInt16}
    (h : (group = 0 ∧ offset.toNat < outputSize) ∨ (group = 1 ∧ offset.toNat < mixSize)) :
    ∃ value, inputs.global group offset = some value := by
  obtain ⟨rfl, hoffset⟩ | ⟨rfl, hoffset⟩ := h
  · obtain ⟨word, hword⟩ : ∃ word, inputs.out.toList[offset.toNat]? = some word :=
      ⟨_, List.getElem?_eq_getElem (by rwa [List.Vector.toList_length])⟩
    exact ⟨inputs.base word, congrArg (Option.map inputs.base) hword⟩
  · obtain ⟨word, hword⟩ : ∃ word, inputs.mixGlobals.toList[offset.toNat]? = some word :=
      ⟨_, List.getElem?_eq_getElem (by rwa [List.Vector.toList_length])⟩
    exact ⟨inputs.base word, congrArg (Option.map inputs.base) hword⟩

lemma PolyExtInputs.readTap {tap : UInt16} (h : tap.toNat < tapCount) :
    ∃ value, inputs.taps.toList[tap.toNat]? = some value :=
  ⟨_, List.getElem?_eq_getElem (by rwa [List.Vector.toList_length])⟩

variable [CommRing K]

/-- One instruction; a read of a variable that is not there has no result. -/
def executeOp (inputs : PolyExtInputs K tapCount) (s : PolyExtState K) :
    PolyExtOp → Option (PolyExtState K)
  | .const v => some (s.appendField (inputs.base v))
  | .constExt a b c d => some (s.appendField (inputs.ext4 a b c d))
  | .get t => do
    let u ← inputs.taps.toList[t.toNat]?
    some (s.appendField u)
  | .getGlobal a o => do
    let value ← inputs.global a o
    some (s.appendField value)
  | .add a b => do
    let left ← s.fp[a.toNat]?
    let right ← s.fp[b.toNat]?
    some (s.appendField (left + right))
  | .sub a b => do
    let left ← s.fp[a.toNat]?
    let right ← s.fp[b.toNat]?
    some (s.appendField (left - right))
  | .mul a b => do
    let left ← s.fp[a.toNat]?
    let right ← s.fp[b.toNat]?
    some (s.appendField (left * right))
  | .true => some (s.appendMix 0 1)
  | .andEqz c v => do
    let total ← s.mixTotal[c.toNat]?
    let multiplier ← s.mixMultiplier[c.toNat]?
    let inner ← s.fp[v.toNat]?
    some (s.appendMix (total + multiplier * inner) (multiplier * inputs.polyMix))
  | .andCond c q v => do
    let total ← s.mixTotal[c.toNat]?
    let multiplier ← s.mixMultiplier[c.toNat]?
    let cond ← s.fp[q.toNat]?
    let innerTotal ← s.mixTotal[v.toNat]?
    let innerMultiplier ← s.mixMultiplier[v.toNat]?
    some (s.appendMix (total + cond * innerTotal * multiplier) (multiplier * innerMultiplier))

def execute (inputs : PolyExtInputs K tapCount) (ops : List PolyExtOp) (s : PolyExtState K) :
    Option (PolyExtState K) :=
  ops.foldlM (executeOp inputs) s

lemma executeOp_some (inputs : PolyExtInputs K tapCount) {op : PolyExtOp} (h : s.Holds c)
    (hop : OperandsDefined tapCount c op) :
    ∃ s', executeOp inputs s op = some s' ∧ s'.Holds (c.after op) := by
  cases op with
  | const v => exact ⟨s.appendField (inputs.base v), rfl, h.appendField _⟩
  | constExt a b c d => exact ⟨s.appendField (inputs.ext4 a b c d), rfl, h.appendField _⟩
  | true => exact ⟨s.appendMix 0 1, rfl, h.appendMix _ _⟩
  | get t =>
    obtain ⟨value, hvalue⟩ := @PolyExtInputs.readTap _ _ inputs t (hop.tap t List.mem_cons_self)
    refine ⟨s.appendField value, ?_, h.appendField _⟩
    rw [executeOp, hvalue]
    rfl
  | getGlobal a o =>
    obtain ⟨value, hvalue⟩ := @PolyExtInputs.readGlobal _ _ inputs a o (hop.global (a, o) List.mem_cons_self)
    refine ⟨s.appendField value, ?_, h.appendField _⟩
    rw [executeOp, hvalue]
    rfl
  | add a b =>
    obtain ⟨left, right, hleft, hright⟩ := h.readFields hop.field
    refine ⟨s.appendField (left + right), ?_, h.appendField _⟩
    rw [executeOp, hleft, hright]
    rfl
  | sub a b =>
    obtain ⟨left, right, hleft, hright⟩ := h.readFields hop.field
    refine ⟨s.appendField (left - right), ?_, h.appendField _⟩
    rw [executeOp, hleft, hright]
    rfl
  | mul a b =>
    obtain ⟨left, right, hleft, hright⟩ := h.readFields hop.field
    refine ⟨s.appendField (left * right), ?_, h.appendField _⟩
    rw [executeOp, hleft, hright]
    rfl
  | andEqz chain v =>
    obtain ⟨total, multiplier, htotal, hmultiplier⟩ := h.readMix (hop.mix chain List.mem_cons_self)
    obtain ⟨inner, hinner⟩ := h.readField (hop.field v List.mem_cons_self)
    refine ⟨s.appendMix (total + multiplier * inner) (multiplier * inputs.polyMix), ?_, h.appendMix _ _⟩
    rw [executeOp, htotal, hmultiplier, hinner]
    rfl
  | andCond chain q v =>
    obtain ⟨total, multiplier, htotal, hmultiplier⟩ := h.readMix (hop.mix chain List.mem_cons_self)
    obtain ⟨innerTotal, innerMultiplier, hinnerTotal, hinnerMultiplier⟩ :=
      h.readMix (hop.mix v (List.mem_cons_of_mem chain List.mem_cons_self))
    obtain ⟨cond, hcond⟩ := h.readField (hop.field q List.mem_cons_self)
    refine ⟨s.appendMix (total + cond * innerTotal * multiplier) (multiplier * innerMultiplier), ?_,
      h.appendMix _ _⟩
    rw [executeOp, htotal, hmultiplier, hcond, hinnerTotal, hinnerMultiplier]
    rfl

lemma execute_some (inputs : PolyExtInputs K tapCount) {ops : List PolyExtOp} (h : s.Holds c) (hops : ReferencesValid tapCount ops c) :
    ∃ s', execute inputs ops s = some s' ∧ s'.Holds (ops.foldl Counts.after c) := by
  induction ops generalizing s c with
  | nil => exact ⟨s, rfl, h⟩
  | cons op ops ih =>
    obtain ⟨next, hnext, hholds⟩ := executeOp_some inputs h (operandsDefined_of_valid hops.1)
    obtain ⟨s', hs, hrest⟩ := ih hholds hops.2
    refine ⟨s', ?_, hrest⟩
    rw [execute, List.foldlM_cons, hnext]
    exact hs

end Execution

section Safety

variable {a : ConstantsArtifact}

lemma validatePolyExt_of_validate (h : validate a = .ok ()) :
    validatePolyExt a.polyExt a.taps.records.length = .ok () := by
  simp only [validate, bind_ok, exists_unit] at h
  obtain ⟨-, -, -, -, -, -, -, -, hpoly⟩ := h
  exact hpoly

lemma program_of_validate (h : validate a = .ok ()) :
    ReferencesValid a.taps.records.length a.polyExt.operations ⟨0, 0⟩ ∧
      a.polyExt.operations.foldl Counts.after ⟨0, 0⟩ = ⟨fieldVars, mixVars⟩ ∧
        a.polyExt.retMixVariable.toNat = retMixVar := by
  have hpoly := validatePolyExt_of_validate h
  simp only [validatePolyExt, bind_ok, exists_unit, ensure_ok] at hpoly
  obtain ⟨-, ⟨-, -, hreturned⟩, -, -, -, counts, hcounts, hfp, hmix⟩ := hpoly
  obtain ⟨hvalid, rfl⟩ := validateOperations_ok.mp hcounts
  refine ⟨hvalid, ?_, hreturned⟩
  rw [← hfp, ← hmix]

/-- The program of an accepted artifact refers only backward, and its run is defined. -/
theorem polyExt_reference_safety {K : Type*} [CommRing K] :
    (∀ (bytes : Bytes) (a : ConstantsArtifact), decode bytes = .ok a →
      ∀ (i : ℕ) (op : PolyExtOp), a.polyExt.operations[i]? = some op →
        OperandsDefined a.taps.records.length (produced (a.polyExt.operations.take i)) op) ∧
    ∀ (bytes : Bytes) (a : ConstantsArtifact), decode bytes = .ok a →
      ∀ inputs : PolyExtInputs K a.taps.records.length, ∃ s total,
        execute inputs a.polyExt.operations ⟨[], [], []⟩ = some s ∧
        s.fp.length = 11130 ∧ s.mixTotal.length = 1229 ∧ s.mixMultiplier.length = 1229 ∧
        a.polyExt.retMixVariable = 1228 ∧
        s.mixTotal[a.polyExt.retMixVariable.toNat]? = some total ∧ s.mixTotal.getLast? = some total := by
  refine ⟨?_, ?_⟩
  · intro bytes a h i op hop
    rw [produced_eq_foldl]
    exact referencesValid_take (program_of_validate (decode_sound h).1).1 hop
  · intro bytes a h inputs
    obtain ⟨hvalid, hcounts, hreturned⟩ := program_of_validate (decode_sound h).1
    obtain ⟨s, hs, hholds⟩ := @execute_some _ _ ⟨[], [], []⟩ _ _ inputs _ ⟨rfl, rfl, rfl⟩ hvalid
    rw [hcounts] at hholds
    have htotal : s.mixTotal.length = 1229 := hholds.total
    have hreturn : a.polyExt.retMixVariable = 1228 := UInt16.toNat_inj.mp hreturned
    obtain ⟨total, hlast⟩ : ∃ total, s.mixTotal[1228]? = some total :=
      ⟨_, List.getElem?_eq_getElem (by omega)⟩
    refine ⟨s, total, hs, hholds.fp, htotal, hholds.multiplier, hreturn, ?_, ?_⟩
    · rw [hreturned]
      exact hlast
    · rw [List.getLast?_eq_getElem?, htotal]
      exact hlast

end Safety

end Eip0045.B2Codec
