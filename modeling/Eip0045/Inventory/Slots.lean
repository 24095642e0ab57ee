import Mathlib
import Eip0045.Library.Ledger
import Eip0045.Rootfs.Candidate

/-! The four physical rootfs slots: acquisition in role order, closing on failure, and retries. -/

namespace Eip0045.Inventory

open Rootfs Ledger

abbrev authenticatedOciInventorySize : ℕ := 4

abbrev Slots (α : Type) := Fin authenticatedOciInventorySize → α

/-- What the inventory is given: the affine values that slots pass through, the consuming calls on
them, whose answers are the world's, and the errors' own operations. -/
structure PhysicalRootfsInventorySlot where
  Slot : Type
  Expectation : Type
  Retained : Type
  AcquisitionFailure : Type
  CleanupFailure : Type
  Abandonment : Type
  Error : Type
  World : Type
  role : Slot → PositiveRunnerRole
  expectationRole : Expectation → PositiveRunnerRole
  authenticateAndRetain : Slot → Expectation → World → Except AcquisitionFailure Retained × World
  discardAfterError : Slot → Error → World → Error × World
  cleanup : Retained → World → Except CleanupFailure Abandonment × World
  retryAcquisition : AcquisitionFailure → World → Except AcquisitionFailure Error × World
  retryCleanup : CleanupFailure → World → Except CleanupFailure Abandonment × World
  reported : String → Error
  context : Error → List Error → Error

variable (S : PhysicalRootfsInventorySlot)

/-- A consuming call with its answer; a cleanup consumes a retained slot or an earlier failure. -/
inductive Event
  | authenticated (slot : S.Slot) (outcome : Except S.AcquisitionFailure S.Retained)
  | discarded (slot : S.Slot)
  | retriedAcquisition (failure : S.AcquisitionFailure)
    (outcome : Except S.AcquisitionFailure S.Error)
  | closed (index : Fin authenticatedOciInventorySize) (consumed : S.Retained ⊕ S.CleanupFailure)
    (outcome : Except S.CleanupFailure S.Abandonment)

abbrev Custody := Ledger S.World (Event S)

abbrev CleanupOutcome := Except S.CleanupFailure S.Abandonment

inductive PhysicalRootfsInventoryAcquisitionPrimaryState
  | nonRetry (primary : S.Error)
  | currentSlot (failure : S.AcquisitionFailure)

structure PhysicalRootfsInventoryAcquisitionFailure where
  primary : PhysicalRootfsInventoryAcquisitionPrimaryState S
  secondary : List S.Error
  cleanupOutcomes : Slots (Option (CleanupOutcome S))

structure PhysicalRootfsInventoryCleanupFailure where
  outcomes : Slots (CleanupOutcome S)

variable {S}

section Calls

def authenticateAndRetain (slot : S.Slot) (expectation : S.Expectation) :
    Custody S (Except S.AcquisitionFailure S.Retained) :=
  call (.authenticated slot) (S.authenticateAndRetain slot expectation)

def discardAfterError (slot : S.Slot) (primary : S.Error) : Custody S S.Error :=
  call (fun _ => .discarded slot) (S.discardAfterError slot primary)

def cleanup (index : Fin authenticatedOciInventorySize) (retained : S.Retained) :
    Custody S (CleanupOutcome S) :=
  call (.closed index (.inl retained)) (S.cleanup retained)

def retryAcquisition (failure : S.AcquisitionFailure) :
    Custody S (Except S.AcquisitionFailure S.Error) :=
  call (.retriedAcquisition failure) (S.retryAcquisition failure)

def retryCleanup (index : Fin authenticatedOciInventorySize) (failure : S.CleanupFailure) :
    Custody S (CleanupOutcome S) :=
  call (.closed index (.inr failure)) (S.retryCleanup failure)

end Calls

def canonicalPositiveRunnerRoles : Slots PositiveRunnerRole :=
  ![.rustValidatorBuild, .jvmValidatorBuild, .rustVerifier, .jvmVerifier]

def validateCanonicalInventoryRoles (roles : Slots PositiveRunnerRole) : Except String Unit :=
  Checked.ensure (roles = canonicalPositiveRunnerRoles)
    "authenticated OCI inventory is outside canonical runner order"

def precheck (slotRoles expectationRoles : Slots PositiveRunnerRole) : Except String Unit := do
  validateCanonicalInventoryRoles slotRoles
  validateCanonicalInventoryRoles expectationRoles
  Checked.ensure (slotRoles = expectationRoles)
    "authenticated OCI rootfs slots differ from gate image roles"

def discardPhysicalRootfsSlotsAfterError (slots : List S.Slot) (error : S.Error) :
    Custody S S.Error :=
  slots.reverse.foldlM (fun error slot => discardAfterError slot error) error

def discardRemainingPhysicalRootfsSlots (slots : List S.Slot) : Custody S (List S.Error) :=
  if slots.isEmpty then pure []
  else do
    let error ← discardPhysicalRootfsSlotsAfterError slots
      (S.reported "discarding unconsumed OCI rootfs projections after physical failure")
    pure [error]

def ownPhysicalRootfsInventoryFailures (primary : S.Error) (secondary : List S.Error) : S.Error :=
  if secondary.isEmpty then primary else S.context primary secondary

/-- The loop over the retained slots from the last to the first, each outcome at its index. -/
def cleanupRetained (outcomes : Slots (Option (CleanupOutcome S))) :
    List (Fin authenticatedOciInventorySize × S.Retained) →
      Custody S (Slots (Option (CleanupOutcome S)))
  | [] => pure outcomes
  | (index, retained) :: rest => do
    let outcome ← cleanup index retained
    cleanupRetained (Function.update outcomes index (some outcome)) rest

/-- `into_iter().enumerate()` over at most as many values as the inventory has slots. -/
def enumerate {α : Type} (values : List α) : List (Fin authenticatedOciInventorySize × α) :=
  (List.finRange authenticatedOciInventorySize).zip values

def cleanupRetainedPhysicalRootfsSlotsPreservingPrimary (retained : List S.Retained)
    (primary : PhysicalRootfsInventoryAcquisitionPrimaryState S) (secondary : List S.Error) :
    Custody S (PhysicalRootfsInventoryAcquisitionFailure S) := do
  let cleanupOutcomes ← cleanupRetained (fun _ => none) (enumerate retained).reverse
  pure { primary, secondary, cleanupOutcomes }

abbrev Acquisition (S : PhysicalRootfsInventorySlot) :=
  Except (PhysicalRootfsInventoryAcquisitionFailure S) (Slots S.Retained)

def finishAcquisition (retained : List S.Retained) : Custody S (Acquisition S) :=
  if h : retained.length = authenticatedOciInventorySize then
    pure (.ok fun index => retained.get (index.cast h.symm))
  else do
    let failure ← cleanupRetainedPhysicalRootfsSlotsPreservingPrimary retained
      (.nonRetry (S.reported "authenticated OCI retained-rootfs cardinality drift")) []
    pure (.error failure)

/-- The loop over the slots that are left, after the retained ones. -/
def acquireRemaining (retained : List S.Retained) :
    List (S.Slot × S.Expectation × PositiveRunnerRole) → Custody S (Acquisition S)
  | [] => finishAcquisition retained
  | (slot, expectation, expectedRole) :: remaining =>
    if S.role slot ≠ expectedRole then do
      let primary ← discardPhysicalRootfsSlotsAfterError (slot :: remaining.map Prod.fst)
        (S.reported "authenticated OCI rootfs slot order changed after prevalidation")
      let failure ← cleanupRetainedPhysicalRootfsSlotsPreservingPrimary retained
        (.nonRetry primary) []
      pure (.error failure)
    else do
      let outcome ← authenticateAndRetain slot expectation
      match outcome with
      | .ok kept => acquireRemaining (retained ++ [kept]) remaining
      | .error currentSlot => do
        let secondary ← discardRemainingPhysicalRootfsSlots (remaining.map Prod.fst)
        let failure ← cleanupRetainedPhysicalRootfsSlotsPreservingPrimary retained
          (.currentSlot currentSlot) secondary
        pure (.error failure)

def authenticatePhysicalRootfsInventorySlots (slots : Slots S.Slot)
    (expectations : Slots S.Expectation) : Custody S (Acquisition S) :=
  match precheck (fun index => S.role (slots index))
      (fun index => S.expectationRole (expectations index)) with
  | .error error => do
    let primary ← discardPhysicalRootfsSlotsAfterError (List.ofFn slots) (S.reported error)
    pure (.error { primary := .nonRetry primary, secondary := [], cleanupOutcomes := fun _ => none })
  | .ok () => acquireRemaining []
      (List.ofFn fun index => (slots index, expectations index, canonicalPositiveRunnerRoles index))

section Retry

def retryPhysicalRootfsCleanupOutcome (index : Fin authenticatedOciInventorySize) :
    CleanupOutcome S → Custody S (CleanupOutcome S)
  | .ok abandonment => pure (.ok abandonment)
  | .error failure => retryCleanup index failure

def retryPrimary : PhysicalRootfsInventoryAcquisitionPrimaryState S →
    Custody S (PhysicalRootfsInventoryAcquisitionPrimaryState S)
  | .nonRetry primary => pure (.nonRetry primary)
  | .currentSlot failure => do
    let outcome ← retryAcquisition failure
    match outcome with
    | .ok primary => pure (.nonRetry primary)
    | .error failure => pure (.currentSlot failure)

/-- The loop over the outcomes at the listed indices, which takes each and puts one back. -/
def retryOutcomes (outcomes : Slots (Option (CleanupOutcome S))) :
    List (Fin authenticatedOciInventorySize) → Custody S (Slots (Option (CleanupOutcome S)))
  | [] => pure outcomes
  | index :: rest =>
    match outcomes index with
    | none => retryOutcomes outcomes rest
    | some outcome => do
      let outcome ← retryPhysicalRootfsCleanupOutcome index outcome
      retryOutcomes (Function.update outcomes index (some outcome)) rest

def CleanupOutcome.isErr : CleanupOutcome S → Bool
  | .ok _ => false
  | .error _ => true

def anyFailed (outcomes : Slots (Option (CleanupOutcome S))) : Bool :=
  (List.finRange authenticatedOciInventorySize).any fun index =>
    (outcomes index).any CleanupOutcome.isErr

def concludeAcquisition (primary : PhysicalRootfsInventoryAcquisitionPrimaryState S)
    (secondary : List S.Error) (cleanupOutcomes : Slots (Option (CleanupOutcome S))) :
    Except (PhysicalRootfsInventoryAcquisitionFailure S) S.Error :=
  match primary, anyFailed cleanupOutcomes with
  | .nonRetry primary, false => .ok (ownPhysicalRootfsInventoryFailures primary secondary)
  | primary, _ => .error { primary, secondary, cleanupOutcomes }

def PhysicalRootfsInventoryAcquisitionFailure.retryCleanup
    (failure : PhysicalRootfsInventoryAcquisitionFailure S) :
    Custody S (Except (PhysicalRootfsInventoryAcquisitionFailure S) S.Error) := do
  let primary ← retryPrimary failure.primary
  let cleanupOutcomes ← retryOutcomes failure.cleanupOutcomes
    (List.finRange authenticatedOciInventorySize).reverse
  pure (concludeAcquisition primary failure.secondary cleanupOutcomes)

def abandonment? : CleanupOutcome S → Option S.Abandonment
  | .ok abandonment => some abandonment
  | .error _ => none

def finishPhysicalRootfsInventoryCleanup (outcomes : Slots (CleanupOutcome S)) :
    Except (PhysicalRootfsInventoryCleanupFailure S) (Slots S.Abandonment) :=
  if h : ∀ index, (abandonment? (outcomes index)).isSome then
    .ok fun index => (abandonment? (outcomes index)).get (h index)
  else .error { outcomes }

def PhysicalRootfsInventoryCleanupFailure.retryCleanup
    (failure : PhysicalRootfsInventoryCleanupFailure S) :
    Custody S (Except (PhysicalRootfsInventoryCleanupFailure S) (Slots S.Abandonment)) := do
  let slotThree ← retryPhysicalRootfsCleanupOutcome 3 (failure.outcomes 3)
  let slotTwo ← retryPhysicalRootfsCleanupOutcome 2 (failure.outcomes 2)
  let slotOne ← retryPhysicalRootfsCleanupOutcome 1 (failure.outcomes 1)
  let slotZero ← retryPhysicalRootfsCleanupOutcome 0 (failure.outcomes 0)
  pure (finishPhysicalRootfsInventoryCleanup ![slotZero, slotOne, slotTwo, slotThree])

def cleanupRetainedPhysicalRootfsInventorySlots (retained : Slots S.Retained) :
    Custody S (Except (PhysicalRootfsInventoryCleanupFailure S) (Slots S.Abandonment)) := do
  let slotThree ← cleanup 3 (retained 3)
  let slotTwo ← cleanup 2 (retained 2)
  let slotOne ← cleanup 1 (retained 1)
  let slotZero ← cleanup 0 (retained 0)
  pure (finishPhysicalRootfsInventoryCleanup ![slotZero, slotOne, slotTwo, slotThree])

end Retry

end Eip0045.Inventory
