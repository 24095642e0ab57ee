import Mathlib
import Eip0045.Library.Bytes
import Eip0045.Library.Checked

/-! The ceilings that the import contract puts on an OCI image layout. -/

namespace Eip0045.Rootfs

open Checked

abbrev Result := Except (Fault String)

def validateCeiling (value maximum : ℕ) (budget label : String) : Result Unit :=
  report (ensure (value ≤ maximum) s!"{label} exceeds its role-specific {budget} budget")

def checkedSum (current additional maximum : ℕ) (budget label : String) : Result ℕ := do
  let total ← report (context s!"{label} {budget} overflow" (checkedAdd current additional))
  report (ensure (total ≤ maximum) s!"{label} exceeds its role-specific {budget} budget")
  pure total

lemma validateCeiling_ok {value maximum : ℕ} {budget label : String} :
    validateCeiling value maximum budget label = .ok () ↔ value ≤ maximum := by
  rw [validateCeiling, report_ok, ensure_ok]

lemma checkedSum_ok {current additional maximum total : ℕ} {budget label : String}
    (hm : maximum < 2 ^ 64) :
    checkedSum current additional maximum budget label = .ok total ↔
      current + additional ≤ maximum ∧ total = current + additional := by
  simp only [checkedSum, bind_ok, exists_unit, report_ok, context_ok, checkedAdd_eq_some, ensure_ok,
    pure_ok]
  constructor
  · intro h
    obtain ⟨_, ⟨_, rfl⟩, hle, rfl⟩ := h
    exact ⟨hle, rfl⟩
  · intro h
    obtain ⟨hle, rfl⟩ := h
    exact ⟨_, ⟨by omega, rfl⟩, hle, rfl⟩

structure OciLayerStreamLimits where
  maximumUncompressedTarBytes : ℕ
  maximumTarEntries : ℕ
  maximumRegularFilePayloadBytes : ℕ
  maximumLayers : ℕ

structure OciPostChangesetRootfsLimits where
  maximumRegularFileBytes : ℕ
  maximumEntries : ℕ

def layerStream : OciLayerStreamLimits where
  maximumUncompressedTarBytes := 34359738368
  maximumTarEntries := 1000000
  maximumRegularFilePayloadBytes := 1073741824
  maximumLayers := 128

def postChangesetRootfs : OciPostChangesetRootfsLimits where
  maximumRegularFileBytes := 34359738368
  maximumEntries := 1000000

namespace OciLayerStreamLimits

variable (limits : OciLayerStreamLimits)

def checkedAddUncompressedTarBytes (current additional : ℕ) (label : String) : Result ℕ :=
  checkedSum current additional limits.maximumUncompressedTarBytes "uncompressed layer-tar byte"
    label

def checkedAddTarEntries (current additional : ℕ) (label : String) : Result ℕ :=
  checkedSum current additional limits.maximumTarEntries "layer-tar entry" label

def validateRegularFilePayloadBytes (byteLength : ℕ) (label : String) : Result Unit :=
  validateCeiling byteLength limits.maximumRegularFilePayloadBytes
    "layer regular-file payload byte" label

def checkedAddLayer (current additional : ℕ) (label : String) : Result ℕ :=
  checkedSum current additional limits.maximumLayers "layer" label

end OciLayerStreamLimits

namespace OciPostChangesetRootfsLimits

variable (limits : OciPostChangesetRootfsLimits)

def validateFinalRegularFileBytes (byteLength : ℕ) (label : String) : Result Unit :=
  validateCeiling byteLength limits.maximumRegularFileBytes
    "post-changeset rootfs regular-file byte" label

def validateFinalEntryCount (count : ℕ) (label : String) : Result Unit :=
  validateCeiling count limits.maximumEntries "post-changeset rootfs entry" label

end OciPostChangesetRootfsLimits

end Eip0045.Rootfs
