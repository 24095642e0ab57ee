import Mathlib
import Eip0045.Library.Stateful
import Eip0045.Library.InsertionSort

/-! Spawn plans of the provider, and the observation of its descriptors before a clone. -/

namespace Eip0045.Provider

open Checked Stateful

def workerEndpointFd : ℕ := 3
def generatorEndpointFd : ℕ := 3
def generatorSupervisorPidfd : ℕ := 4
def generatorPublicationRootFd : ℕ := 5
def generatorFirstIngressFd : ℕ := 6
def maxGeneratorIngressFds : ℕ := 16
def lastReservedDescriptor : ℕ := 21
def maxProcessFds : ℕ := 64
def maxExecArguments : ℕ := 32
def maxExecEnvironment : ℕ := 64

section Table

variable {File : Type}

/-- An open descriptor: what it refers to, and whether it is close-on-exec. -/
structure OpenDescriptor (File : Type) where
  file : File
  cloexec : Bool

/-- A table of descriptors, with a number that none of them reaches. -/
structure Table (File : Type) where
  entry : ℕ → Option (OpenDescriptor File)
  bound : ℕ
  finite : ∀ n, bound ≤ n → entry n = none

/-- A borrowed descriptor; raw numbers are nonnegative `i32` values. -/
structure BorrowedFd where
  raw : ℕ
  lt : raw < 2 ^ 31

/-- A directory of descriptors as it is read, together with the descriptor that reads it. -/
structure FdDirectory (table : Table File) where
  enumeration : ℕ
  entries : List ℕ
  fresh : table.entry enumeration = none
  complete : ∀ n, n ∈ entries ↔ table.entry n ≠ none ∨ n = enumeration

end Table

section Plan

inductive ProcessContractError
  | descriptorInventory
  | reservedDescriptorOverlap
  | descriptorNotCloseOnExec
  | execVectorBounds
  | kernelInvariant
  | kernel (errno : ℕ)
  | threads

structure FdMapping where
  source : ℕ
  target : ℕ

structure PreparedSpawn where
  executable : ℕ
  authorityRoot : BorrowedFd
  sources : List BorrowedFd
  mappings : List FdMapping
  allowedAfterRemap : List ℕ

/-- `PreparedExecV1::new`, of which the descriptor is kept. -/
def preparedExec (executable : BorrowedFd) (argv envp : List (List UInt8)) :
    Except ProcessContractError ℕ := do
  ensure (argv ≠ [] ∧ argv.length ≤ maxExecArguments ∧ envp.length ≤ maxExecEnvironment)
    .execVectorBounds
  pure executable.raw

/-- The targets and the executable in order. The two conversions to `u32` do not fail for the
nonnegative numbers here. -/
def prepareAllowedAfterRemap (executable : ℕ) (mappings : List FdMapping) :
    Except ProcessContractError (List ℕ) := do
  let allowed := (mappings.map FdMapping.target ++ [executable]).mergeSort (· ≤ ·)
  ensure (allowed.IsChain (· ≠ ·)) .descriptorInventory
  pure allowed

structure GeneratorInputs where
  retainedExecutable : BorrowedFd
  cgroup : BorrowedFd
  endpoint : BorrowedFd
  supervisorPidfd : BorrowedFd
  publicationRoot : BorrowedFd
  ingress : List BorrowedFd
  authorityRoot : BorrowedFd
  argv : List (List UInt8)
  envp : List (List UInt8)

def prepareGenerator (g : GeneratorInputs) : Except ProcessContractError PreparedSpawn := do
  ensure (g.ingress.length ≤ maxGeneratorIngressFds) .descriptorInventory
  let sources := [g.retainedExecutable, g.cgroup, g.supervisorPidfd, g.publicationRoot] ++ g.ingress
  let mappings := [
      ⟨g.endpoint.raw, generatorEndpointFd⟩,
      ⟨g.supervisorPidfd.raw, generatorSupervisorPidfd⟩,
      ⟨g.publicationRoot.raw, generatorPublicationRootFd⟩] ++
    g.ingress.mapIdx fun index descriptor => ⟨descriptor.raw, generatorFirstIngressFd + index⟩
  let executable ← preparedExec g.retainedExecutable g.argv g.envp
  let allowedAfterRemap ← prepareAllowedAfterRemap executable mappings
  pure { executable, authorityRoot := g.authorityRoot, sources, mappings, allowedAfterRemap }

structure WorkerInputs where
  retainedExecutable : BorrowedFd
  cgroup : BorrowedFd
  endpoint : BorrowedFd
  authorityRoot : BorrowedFd
  argv : List (List UInt8)
  envp : List (List UInt8)

def prepareWorker (w : WorkerInputs) : Except ProcessContractError PreparedSpawn := do
  let sources := [w.retainedExecutable, w.cgroup]
  let mappings := [⟨w.endpoint.raw, workerEndpointFd⟩]
  let executable ← preparedExec w.retainedExecutable w.argv w.envp
  let allowedAfterRemap ← prepareAllowedAfterRemap executable mappings
  pure { executable, authorityRoot := w.authorityRoot, sources, mappings, allowedAfterRemap }

inductive SpawnInputs
  | generator (g : GeneratorInputs)
  | worker (w : WorkerInputs)

def SpawnInputs.prepareSpawn : SpawnInputs → Except ProcessContractError PreparedSpawn
  | .generator g => prepareGenerator g
  | .worker w => prepareWorker w

def SpawnInputs.endpoint : SpawnInputs → BorrowedFd
  | .generator g => g.endpoint
  | .worker w => w.endpoint

/-- The descriptors that the program of a role is to find, in the order of their targets. -/
def SpawnInputs.passed : SpawnInputs → List BorrowedFd
  | .generator g => [g.endpoint, g.supervisorPidfd, g.publicationRoot] ++ g.ingress
  | .worker w => [w.endpoint]

end Plan

section Observation

variable {File : Type}

def ebadf : ℕ := 9

/-- The checks of one source against those before it. -/
def validateSourceDescriptor (table : Table File) (before : List BorrowedFd) (descriptor : BorrowedFd) :
    Except ProcessContractError Unit := do
  ensure (¬descriptor.raw ≤ lastReservedDescriptor) .reservedDescriptorOverlap
  ensure (descriptor.raw ∉ before.map BorrowedFd.raw) .descriptorInventory
  let opened ← context (.kernel ebadf) (table.entry descriptor.raw)
  ensure (opened.cloexec = true) .descriptorNotCloseOnExec

def validateSourceDescriptors (table : Table File) (sources : List BorrowedFd) :
    Except ProcessContractError Unit := do
  ensure (sources ≠ [] ∧ sources.length ≤ maxProcessFds) .descriptorInventory
  (sources.zipIdx).forM fun d => validateSourceDescriptor table (sources.take d.2) d.1

/-- One name of a directory, after those already observed. -/
def observeEntry (ignoredDescriptor : ℕ) (observed : List ℕ) (value : ℕ) :
    Except ProcessContractError (List ℕ) := do
  ensure (value < 2 ^ 31) .kernelInvariant
  if value = ignoredDescriptor then pure observed
  else do
    ensure (observed.length < maxProcessFds) .descriptorInventory
    pure (observed ++ [value])

/-- The names of a directory but for the descriptor that reads it, sorted. -/
def readNumericDirectory (entries : List ℕ) (ignoredDescriptor : ℕ) :
    Except ProcessContractError (List ℕ) := do
  let observed ← entries.foldlM (observeEntry ignoredDescriptor) []
  let observed := observed.mergeSort (· ≤ ·)
  ensure (observed.IsChain (· ≠ ·)) .kernelInvariant
  pure observed

/-- `threads` is the outcome of the two thread snapshots around the enumeration. -/
def observeLiveDescriptorInventory (prepared : PreparedSpawn) (endpoint : BorrowedFd)
    (additionalSources : List BorrowedFd) (table : Table File) (directory : FdDirectory table)
    (threads : Except ProcessContractError Unit) : Except ProcessContractError Unit := do
  let sources := prepared.sources ++ [endpoint] ++ additionalSources ++ [prepared.authorityRoot]
  ensure (sources.length ≤ maxProcessFds) .descriptorInventory
  validateSourceDescriptors table sources
  let observed ← readNumericDirectory directory.entries directory.enumeration
  threads
  let expected := (sources.map BorrowedFd.raw).mergeSort (· ≤ ·)
  ensure (observed = expected) .descriptorInventory

end Observation

end Eip0045.Provider
