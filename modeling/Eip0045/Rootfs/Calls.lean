import Mathlib
import Eip0045.Rootfs.Integrity

/-! Runs of calls on a transaction: each keeps it intact or poisons it. -/

namespace Eip0045.Rootfs

open Checked Stateful

inductive Call
  | beginRegular (source : SourceOrdinal) (path : Bytes) (mode byteLength : UInt64)
  | writeRegularChunk (chunk : Bytes)
  | finishEntry
  | stageDirectory (source : SourceOrdinal) (path : Bytes) (mode byteLength : UInt64)
  | stageSymbolicLink (source : SourceOrdinal) (path : Bytes) (mode byteLength : UInt64)
    (target : Bytes)
  | stageRemove (source : SourceOrdinal) (markerPath : Bytes) (mode byteLength : UInt64)
    (target : Bytes)
  | stageOpaqueDirectory (source : SourceOrdinal) (markerPath : Bytes) (mode byteLength : UInt64)
    (path : Bytes)
  | sealAuthenticatedSemanticLayer (layerSeal : LayerSeal)

variable (sha256 : Bytes → Digest)

/-- What a call does once the transaction is known not to be poisoned. -/
def Call.inner (host : Host) : Call → Staging Unit
  | .beginRegular source path mode byteLength => do
    preEffectCheck host
    beginRegularInner host source path mode byteLength
  | .writeRegularChunk chunk => writeRegularChunkInner host chunk
  | .finishEntry => finishEntryInner sha256 host
  | .stageDirectory source path mode byteLength =>
    stageInertOperationInner host source path mode byteLength .directory
  | .stageSymbolicLink source path mode byteLength target =>
    stageInertOperationInner host source path mode byteLength (.symbolicLink target)
  | .stageRemove source markerPath mode byteLength target =>
    stageInertOperationInner host source markerPath mode byteLength (.remove target)
  | .stageOpaqueDirectory source markerPath mode byteLength path =>
    stageInertOperationInner host source markerPath mode byteLength (.opaqueDirectory path)
  | .sealAuthenticatedSemanticLayer layerSeal => sealAuthenticatedSemanticLayerInner sha256 layerSeal

def perform (host : Host) : Call → Staging Unit
  | .beginRegular source path mode byteLength => beginRegular host source path mode byteLength
  | .writeRegularChunk chunk => writeRegularChunk host chunk
  | .finishEntry => finishEntry sha256 host
  | .stageDirectory source path mode byteLength => stageDirectory host source path mode byteLength
  | .stageSymbolicLink source path mode byteLength target =>
    stageSymbolicLink host source path mode byteLength target
  | .stageRemove source markerPath mode byteLength target =>
    stageRemove host source markerPath mode byteLength target
  | .stageOpaqueDirectory source markerPath mode byteLength path =>
    stageOpaqueDirectory host source markerPath mode byteLength path
  | .sealAuthenticatedSemanticLayer layerSeal => sealAuthenticatedSemanticLayer sha256 layerSeal

/-- The transaction after a run of calls, each with the host's answers to it. -/
def runCalls (transaction : Transaction) (calls : List (Host × Call)) : Transaction :=
  calls.foldl (fun transaction call =>
    (exec (perform sha256 call.1 call.2) transaction).2) transaction

variable {sha256} {host : Host} {transaction transaction' : Transaction} {call : Call}

lemma perform_eq : perform sha256 host call = poisoning (call.inner sha256 host) := by
  cases call <;> rfl

lemma poisoning_poisoned {inner : Staging Unit} (h : transaction.poisoned = true) :
    exec (poisoning inner) transaction =
      (.error (.reported "private OCI rootfs staging is poisoned"), transaction) := by
  rw [poisoning, exec_get_bind, exec_bind, exec_lift, h]
  rfl

lemma poisoning_open {inner : Staging Unit} (h : transaction.poisoned = false) :
    exec (poisoning inner) transaction =
      exec (marking (fun transaction => { transaction with poisoned := true }) inner)
        transaction := by
  rw [poisoning, exec_get_bind, exec_bind, exec_lift, h]
  rfl

lemma perform_error {e : Fault String}
    (h : exec (perform sha256 host call) transaction = (.error e, transaction')) :
    transaction'.poisoned = true := by
  rw [perform_eq] at h
  cases hp : transaction.poisoned with
  | true =>
    rw [poisoning_poisoned hp] at h
    cases h
    exact hp
  | false =>
    rw [poisoning_open hp] at h
    obtain ⟨_, rfl⟩ := exec_marking_error h
    rfl

lemma perform_ok : exec (perform sha256 host call) transaction = (.ok (), transaction') ↔
    transaction.poisoned = false ∧
      exec (call.inner sha256 host) transaction = (.ok (), transaction') := by
  rw [perform_eq]
  cases hp : transaction.poisoned with
  | true =>
    rw [poisoning_poisoned hp]
    simp
  | false =>
    rw [poisoning_open hp, exec_marking_ok]
    simp

lemma Intact.inner (h : Intact sha256 transaction)
    (hok : exec (call.inner sha256 host) transaction = (.ok (), transaction')) :
    Intact sha256 transaction' ∧ transaction'.poisoned = transaction.poisoned := by
  have hstaged : ∀ source path mode byteLength kind, (∀ k, kind ≠ .regular k) →
      exec (stageInertOperationInner host source path mode byteLength kind) transaction =
        (.ok (), transaction') →
      Intact sha256 transaction' ∧ transaction'.poisoned = transaction.poisoned := by
    intro source path mode byteLength kind hk hrun
    obtain ⟨metadata, canonical, sources, transcript, hs, rfl⟩ :=
      (stageInertOperationInner_ok hk).mp hrun
    exact ⟨h.staged hk hs, rfl⟩
  cases call with
  | beginRegular source path mode byteLength =>
    obtain ⟨metadata, canonical, ho, rfl⟩ := openRegular_ok.mp hok
    exact ⟨h.openRegular ho, rfl⟩
  | writeRegularChunk chunk =>
    have hend : ∀ opened, transaction.openRegular = some opened →
        opened.offset + opened.writtenByteLength = transaction.spool.length := by
      intro opened ho
      rw [h.spooled, ho, (h.opened opened ho).offset]
      rfl
    obtain ⟨opened, canonical, hw, rfl⟩ := (writeRegularChunkInner_ok hend).1 hok
    exact ⟨h.wrote hw, rfl⟩
  | finishEntry =>
    obtain ⟨opened, canonical, sources, transcript, hf, rfl⟩ := finishEntryInner_ok.mp hok
    exact ⟨h.finished hf, rfl⟩
  | stageDirectory source path mode byteLength => exact hstaged _ _ _ _ _ (by simp) hok
  | stageSymbolicLink source path mode byteLength target => exact hstaged _ _ _ _ _ (by simp) hok
  | stageRemove source path mode byteLength target => exact hstaged _ _ _ _ _ (by simp) hok
  | stageOpaqueDirectory source path mode byteLength subject =>
    exact hstaged _ _ _ _ _ (by simp) hok
  | sealAuthenticatedSemanticLayer layerSeal =>
    obtain ⟨canonical, transcript, hs, rfl⟩ := sealAuthenticatedSemanticLayerInner_ok.mp hok
    exact ⟨h.layerSealed hs, rfl⟩

lemma Intact.run (calls : List (Host × Call))
    (h : transaction.poisoned = false → Intact sha256 transaction) :
    (runCalls sha256 transaction calls).poisoned = false →
      Intact sha256 (runCalls sha256 transaction calls) := by
  induction calls generalizing transaction with
  | nil => exact h
  | cons numbered calls ih =>
    rw [runCalls, List.foldl_cons]
    apply ih
    intro hopen
    cases hr : exec (perform sha256 numbered.1 numbered.2) transaction with
    | mk outcome after =>
      rw [hr] at hopen
      cases outcome with
      | error e =>
        rw [perform_error hr] at hopen
        cases hopen
      | ok u =>
        obtain ⟨hpoisoned, hinner⟩ := perform_ok.mp hr
        exact ((h hpoisoned).inner hinner).1

lemma runCalls_poisoned (calls : List (Host × Call)) (h : transaction.poisoned = true) :
    runCalls sha256 transaction calls = transaction := by
  induction calls with
  | nil => rfl
  | cons numbered calls ih =>
    rw [runCalls, List.foldl_cons, perform_eq, poisoning_poisoned h]
    exact ih

end Eip0045.Rootfs
