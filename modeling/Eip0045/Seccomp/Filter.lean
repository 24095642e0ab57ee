import Mathlib
import Eip0045.Library.Checked
import Eip0045.Library.ClassicBpf

/-! Seccomp filter programs: their builder, their interpreter and the kernel's rule for a stack. -/

namespace Eip0045.Seccomp

open ClassicBpf Checked

inductive SeccompSyscall
  | read | write | «open» | close | fstat | poll | lseek | mmap | mprotect | munmap | brk
  | rtSigaction | rtSigprocmask | rtSigreturn | ioctl | pread64 | pwrite64 | readv | writev
  | schedYield | mremap | madvise | dup | dup2 | getpid | getppid | fstatfs | socket | accept
  | sendmsg | recvmsg | shutdown | socketpair | clone | fork | vfork | execve | exit | fcntl
  | fsync | fdatasync | ftruncate | ptrace | setTidAddress | clockGettime | clockNanosleep
  | exitGroup | openat | mkdirat | fchownat | unlinkat | linkat | fchmodat | ppoll | unshare
  | setns | setRobustList | dup3 | prlimit64 | accept4 | prctl | mount | umount2 | futex | gettid
  | getdents64 | processVmReadv | processVmWritev | renameat2 | seccomp | getrandom | execveat
  | copyFileRange | statx | rseq | fsopen | fsconfig | fsmount | moveMount | openTree | clone3
  | closeRange | openat2 | pidfdGetfd
  deriving DecidableEq

namespace SeccompSyscall

def number : SeccompSyscall → UInt32
  | .read => 0
  | .write => 1
  | .«open» => 2
  | .close => 3
  | .fstat => 5
  | .poll => 7
  | .lseek => 8
  | .mmap => 9
  | .mprotect => 10
  | .munmap => 11
  | .brk => 12
  | .rtSigaction => 13
  | .rtSigprocmask => 14
  | .rtSigreturn => 15
  | .ioctl => 16
  | .pread64 => 17
  | .pwrite64 => 18
  | .readv => 19
  | .writev => 20
  | .schedYield => 24
  | .mremap => 25
  | .madvise => 28
  | .dup => 32
  | .dup2 => 33
  | .getpid => 39
  | .getppid => 110
  | .fstatfs => 138
  | .socket => 41
  | .accept => 43
  | .sendmsg => 46
  | .recvmsg => 47
  | .shutdown => 48
  | .socketpair => 53
  | .clone => 56
  | .fork => 57
  | .vfork => 58
  | .execve => 59
  | .exit => 60
  | .fcntl => 72
  | .fsync => 74
  | .fdatasync => 75
  | .ftruncate => 77
  | .ptrace => 101
  | .setTidAddress => 218
  | .clockGettime => 228
  | .clockNanosleep => 230
  | .exitGroup => 231
  | .openat => 257
  | .mkdirat => 258
  | .fchownat => 260
  | .unlinkat => 263
  | .linkat => 265
  | .fchmodat => 268
  | .ppoll => 271
  | .unshare => 272
  | .setns => 308
  | .setRobustList => 273
  | .dup3 => 292
  | .prlimit64 => 302
  | .accept4 => 288
  | .prctl => 157
  | .mount => 165
  | .umount2 => 166
  | .futex => 202
  | .gettid => 186
  | .getdents64 => 217
  | .processVmReadv => 310
  | .processVmWritev => 311
  | .renameat2 => 316
  | .seccomp => 317
  | .getrandom => 318
  | .execveat => 322
  | .copyFileRange => 326
  | .statx => 332
  | .rseq => 334
  | .fsopen => 430
  | .fsconfig => 431
  | .fsmount => 432
  | .moveMount => 429
  | .openTree => 428
  | .clone3 => 435
  | .closeRange => 436
  | .openat2 => 437
  | .pidfdGetfd => 438

end SeccompSyscall

/-- The field of a policy that the filter builder reads. -/
structure SeccompPolicy where
  allowed : List SeccompSyscall

inductive SeccompContractError
  | filterBounds
  | kernelInvariant
  deriving DecidableEq

def auditArchX8664 : UInt32 := 0xc000003e

def seccompRetKillProcess : UInt32 := 0x80000000

def seccompRetAllow : UInt32 := 0x7fff0000

def seccompDataNrOffset : UInt32 := 0

def seccompDataArchOffset : UInt32 := 4

def seccompDataArg0LowOffset : UInt32 := 16

def seccompDataArg0HighOffset : UInt32 := 20

def seccompDataArg1LowOffset : UInt32 := 24

def seccompDataArg1HighOffset : UInt32 := 28

def maxFilterInstructions : ℕ := 160

/-- The pushed instructions of the fixed array; the rest of it is empty. -/
structure FilterProgram where
  instructions : List Instruction
  bounded : instructions.length ≤ maxFilterInstructions

namespace FilterProgram

def new : FilterProgram where
  instructions := []
  bounded := Nat.zero_le _

def push (program : FilterProgram) (instruction : Instruction) :
    Except SeccompContractError FilterProgram :=
  if h : program.instructions.length < maxFilterInstructions then
    .ok
      { instructions := program.instructions ++ [instruction]
        bounded := by rw [List.length_append, List.length_singleton]; exact h }
  else .error .filterBounds

end FilterProgram

def low (word : UInt64) : UInt32 := (word &&& 0xffffffff).toUInt32

def high (word : UInt64) : UInt32 := (word >>> 32).toUInt32

/-- The loop over the allowed calls; an exact target takes the place of a listed `umount2`. -/
def pushAllowed (exactUmountTarget : Option UInt64) (program : FilterProgram) :
    List SeccompSyscall → Except SeccompContractError FilterProgram
  | [] => .ok program
  | syscall :: rest =>
    if exactUmountTarget.isSome ∧ syscall = .umount2 then pushAllowed exactUmountTarget program rest
    else do
      let program ← program.push (jump syscall.number 0 1)
      let program ← program.push (statement retK seccompRetAllow)
      pushAllowed exactUmountTarget program rest

def pushUmountGate (program : FilterProgram) (pointer : UInt64) :
    Except SeccompContractError FilterProgram := do
  let program ← program.push (jump SeccompSyscall.umount2.number 0 9)
  let program ← program.push (statement ldWAbs seccompDataArg0LowOffset)
  let program ← program.push (jump (low pointer) 0 7)
  let program ← program.push (statement ldWAbs seccompDataArg0HighOffset)
  let program ← program.push (jump (high pointer) 0 5)
  let program ← program.push (statement ldWAbs seccompDataArg1LowOffset)
  let program ← program.push (jump 0 0 3)
  let program ← program.push (statement ldWAbs seccompDataArg1HighOffset)
  let program ← program.push (jump 0 0 1)
  program.push (statement retK seccompRetAllow)

def buildFilter (policy : SeccompPolicy) (exactUmountTarget : Option UInt64) :
    Except SeccompContractError FilterProgram := do
  let program := FilterProgram.new
  let program ← program.push (statement ldWAbs seccompDataArchOffset)
  let program ← program.push (jump auditArchX8664 1 0)
  let program ← program.push (statement retK seccompRetKillProcess)
  let program ← program.push (statement ldWAbs seccompDataNrOffset)
  let program ← pushAllowed exactUmountTarget program policy.allowed
  let program ← exactUmountTarget.elim (pure program) (pushUmountGate program)
  program.push (statement retK seccompRetKillProcess)

structure SeccompData where
  syscall : UInt32
  architecture : UInt32
  argument0 : UInt64
  argument1 : UInt64

def SeccompData.load (data : SeccompData) (offset : UInt32) : Except SeccompContractError UInt32 :=
  if offset = seccompDataNrOffset then .ok data.syscall
  else if offset = seccompDataArchOffset then .ok data.architecture
  else if offset = seccompDataArg0LowOffset then .ok (low data.argument0)
  else if offset = seccompDataArg0HighOffset then .ok (high data.argument0)
  else if offset = seccompDataArg1LowOffset then .ok (low data.argument1)
  else if offset = seccompDataArg1HighOffset then .ok (high data.argument1)
  else .error .kernelInvariant

def interpretFilter (program : FilterProgram) (data : SeccompData) :
    Except SeccompContractError UInt32 :=
  run .filterBounds .kernelInvariant data.load program.instructions 0 0

/-- The action bits of an answer, which the kernel compares as a signed word. -/
def action (answer : UInt32) : ℤ := (answer &&& 0xffff0000).toInt32.toInt

/-- The kernel's answer for a stack: `ALLOW`, or the answer of least action. -/
def stackAnswer (answers : List UInt32) : UInt32 :=
  answers.foldl (fun answer current => if action current < action answer then current else answer)
    seccompRetAllow

def interpretStack (programs : List FilterProgram) (data : SeccompData) :
    Except SeccompContractError UInt32 := do
  let answers ← programs.mapM fun program => interpretFilter program data
  pure (stackAnswer answers)

end Eip0045.Seccomp
