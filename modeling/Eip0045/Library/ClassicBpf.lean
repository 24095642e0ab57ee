import Mathlib

/-! Classic BPF programs of loads, equality jumps and returns, run by a program counter. -/

namespace Eip0045.ClassicBpf

structure Instruction where
  code : UInt16
  jt : UInt8
  jf : UInt8
  k : UInt32
  deriving DecidableEq

def ldWAbs : UInt16 := 0x20

def jmpJeqK : UInt16 := 0x15

def retK : UInt16 := 0x06

def statement (code : UInt16) (value : UInt32) : Instruction where
  code := code
  jt := 0
  jf := 0
  k := value

def jump (value : UInt32) (trueSkip falseSkip : UInt8) : Instruction where
  code := jmpJeqK
  jt := trueSkip
  jf := falseSkip
  k := value

/-- How many instructions a jump passes over. -/
def Instruction.skip (instruction : Instruction) (accumulator : UInt32) : ℕ :=
  if accumulator = instruction.k then instruction.jt.toNat else instruction.jf.toNat

variable {ε : Type}

/-- A run from a program counter, with the errors outside the program and at a strange opcode. -/
def run (outside unsupported : ε) (load : UInt32 → Except ε UInt32) (program : List Instruction)
    (accumulator : UInt32) (programCounter : ℕ) : Except ε UInt32 :=
  match h : program[programCounter]? with
  | none => .error outside
  | some instruction =>
    have : programCounter < program.length := (List.getElem?_eq_some_iff.mp h).1
    if instruction.code = ldWAbs then
      match load instruction.k with
      | .ok word => run outside unsupported load program word (programCounter + 1)
      | .error e => .error e
    else if instruction.code = jmpJeqK then
      run outside unsupported load program accumulator
        (programCounter + 1 + instruction.skip accumulator)
    else if instruction.code = retK then .ok instruction.k
    else .error unsupported
  termination_by program.length - programCounter

/-- A run by what is left of the program: jumps only go forward, so they drop instructions. -/
def eval (outside unsupported : ε) (load : UInt32 → Except ε UInt32) (accumulator : UInt32) :
    List Instruction → Except ε UInt32
  | [] => .error outside
  | instruction :: rest =>
    if instruction.code = ldWAbs then
      match load instruction.k with
      | .ok word => eval outside unsupported load word rest
      | .error e => .error e
    else if instruction.code = jmpJeqK then
      eval outside unsupported load accumulator (rest.drop (instruction.skip accumulator))
    else if instruction.code = retK then .ok instruction.k
    else .error unsupported
  termination_by program => program.length
  decreasing_by all_goals simp only [List.length_drop, List.length_cons]; omega

variable {outside unsupported : ε} {load : UInt32 → Except ε UInt32}

lemma drop_of_getElem? {program : List Instruction} {programCounter : ℕ} {instruction : Instruction}
    (h : program[programCounter]? = some instruction) :
    program.drop programCounter = instruction :: program.drop (programCounter + 1) := by
  obtain ⟨hlt, rfl⟩ := List.getElem?_eq_some_iff.mp h
  exact List.drop_eq_getElem_cons hlt

lemma run_eq_eval (program : List Instruction) (accumulator : UInt32) (programCounter : ℕ) :
    run outside unsupported load program accumulator programCounter =
      eval outside unsupported load accumulator (program.drop programCounter) := by
  fun_induction run outside unsupported load program accumulator programCounter with
  | case1 accumulator programCounter h =>
    rw [List.drop_eq_nil_of_le (List.getElem?_eq_none_iff.mp h), eval]
  | case2 accumulator programCounter instruction h hlt hcode word hload ih =>
    rw [drop_of_getElem? h, eval, if_pos hcode, hload, ih]
  | case3 accumulator programCounter instruction h hlt hcode error hload =>
    rw [drop_of_getElem? h, eval, if_pos hcode, hload]
  | case4 accumulator programCounter instruction h hlt hcode hjump ih =>
    rw [drop_of_getElem? h, eval, if_neg hcode, if_pos hjump, List.drop_drop, ih]
  | case5 accumulator programCounter instruction h hlt hcode hjump hret =>
    rw [drop_of_getElem? h, eval, if_neg hcode, if_neg hjump, if_pos hret]
  | case6 accumulator programCounter instruction h hlt hcode hjump hret =>
    rw [drop_of_getElem? h, eval, if_neg hcode, if_neg hjump, if_neg hret]

@[simp] lemma eval_load {value word : UInt32} (h : load value = .ok word) (accumulator : UInt32)
    (rest : List Instruction) : eval outside unsupported load accumulator
      (statement ldWAbs value :: rest) = eval outside unsupported load word rest := by
  have hcode : (statement ldWAbs value).code = ldWAbs := rfl
  rw [eval, if_pos hcode]
  simp only [statement, h]

@[simp] lemma eval_jump (value accumulator : UInt32) (trueSkip falseSkip : UInt8)
    (rest : List Instruction) : eval outside unsupported load accumulator
      (jump value trueSkip falseSkip :: rest) = eval outside unsupported load accumulator
        (rest.drop (if accumulator = value then trueSkip.toNat else falseSkip.toNat)) := by
  have hcode : (jump value trueSkip falseSkip).code ≠ ldWAbs := show jmpJeqK ≠ ldWAbs by decide
  have hjump : (jump value trueSkip falseSkip).code = jmpJeqK := rfl
  rw [eval, if_neg hcode, if_pos hjump]
  rfl

@[simp] lemma eval_ret (value accumulator : UInt32) (rest : List Instruction) :
    eval outside unsupported load accumulator (statement retK value :: rest) = .ok value := by
  have hcode : (statement retK value).code ≠ ldWAbs := show retK ≠ ldWAbs by decide
  have hjump : (statement retK value).code ≠ jmpJeqK := show retK ≠ jmpJeqK by decide
  have hret : (statement retK value).code = retK := rfl
  rw [eval, if_neg hcode, if_neg hjump, if_pos hret]
  rfl

end Eip0045.ClassicBpf
