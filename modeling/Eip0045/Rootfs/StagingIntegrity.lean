import Mathlib
import Eip0045.Rootfs.Accepted

/-! Every run of calls leaves a transaction whose checks accept, or one that is of no further use. -/

namespace Eip0045.Rootfs

open Checked Stateful

/-- What the journal, the spool and the transcripts of a transaction say of each other. -/
structure StagingIntegrity (sha256 : Bytes → Digest) (transaction : Transaction) : Prop where
  envelope : transaction.validateLogicalJournalEnvelope = .ok transaction.operations.length
  references : transaction.validateOperationExtentReferences = .ok ()
  effects : transaction.StrictlyOrdered → ∀ projection,
    transaction.projectOperationJournal transaction.capturedLayerEntries = .ok projection →
      validateProjectionEffectReferences transaction.operations projection = .ok ()
  layers : transaction.StrictlyOrdered → transaction.validateLayerSealsAndTranscripts sha256 false
    transaction.operations.length = .ok transaction.capturedLayerEntries
  tiled : transaction.spool.length = (extentLengths transaction.physicalRegularExtents).sum ∧
    ∀ (k : ℕ) (extent : RegularExtent), transaction.physicalRegularExtents[k]? = some extent →
      extent.offset = (extentLengths (transaction.physicalRegularExtents.take k)).sum ∧
        extent.sha256 = sha256 (extent.slice transaction.spool)
  referenced : (∀ k < transaction.physicalRegularExtents.length, ∃! i : ℕ, ∃ operation,
      transaction.operations[i]? = some operation ∧ operation.kind = .regular k) ∧
    ∀ (i k : ℕ) (operation : Operation), transaction.operations[i]? = some operation →
      operation.kind = .regular k → k < transaction.physicalRegularExtents.length
  indexed : ∀ (layer index i : ℕ),
    (∃ sources, transaction.operationsBySource[layer]? = some sources ∧ sources[index]? = some i) ↔
      ∃ operation, transaction.operations[i]? = some operation ∧ operation.source = ⟨layer, index⟩
  metadata : transaction.recomputedMetadata = .ok transaction.logicalMetadataBytes
  transcripts : ∀ layer < transaction.expectedSemanticLayers, ∃ transcript,
    transaction.capturedLayerTranscripts[layer]? = some transcript ∧
      transaction.layerTranscript layer = .ok transcript
  changesets : ∀ layer < transaction.expectedSemanticLayers,
    transaction.capturedCanonicalLayerTranscripts[layer]? =
      some ⟨transaction.changesetBytes layer, false, none⟩

variable {sha256 : Bytes → Digest} {transaction transaction' : Transaction}

lemma Intact.indexed_iff (h : Intact sha256 transaction) (layer index i : ℕ) :
    (∃ sources, transaction.operationsBySource[layer]? = some sources ∧ sources[index]? = some i) ↔
      ∃ operation, transaction.operations[i]? = some operation ∧
        operation.source = ⟨layer, index⟩ := by
  constructor
  · rintro ⟨sources, hs, hi⟩
    exact h.filed.listed layer sources hs index i hi
  · rintro ⟨operation, hop, hsource⟩
    have hat := h.filed.indexed i operation hop
    rw [hsource] at hat
    exact (operationAtSource_eq_ok.mp hat).2.1

lemma Intact.integrity (h : Intact sha256 transaction) (hopen : transaction.openRegular = none) :
    StagingIntegrity sha256 transaction where
  envelope := h.validateLogicalJournalEnvelope_ok
  references := h.validateOperationExtentReferences_ok
  effects ho _ hp := validateProjectionEffectReferences_accepts h.filed h.referenced ho hp
  layers ho := h.validateLayerSealsAndTranscripts_ok hopen ho (by simp)
  tiled := by
    refine ⟨?_, fun k extent hk => ⟨h.tiled k extent hk, h.hashed extent (List.mem_of_getElem? hk)⟩⟩
    rw [h.spooled, hopen, h.covered]
    rfl
  referenced := by
    refine ⟨?_, fun i k operation hop hk => h.referenced.extent_lt hop hk⟩
    intro k hk
    obtain ⟨i, operation, hop, hkind⟩ := h.referenced.covered k hk
    refine ⟨i, ⟨operation, hop, hkind⟩, ?_⟩
    rintro i' ⟨operation', hop', hkind'⟩
    exact h.referenced.unique i' i operation' operation k hop' hop hkind' hkind
  indexed := h.indexed_iff
  metadata := h.metadata
  transcripts := by
    intro layer hlayer
    have ht := List.getElem?_eq_getElem (h.cardinality.2.1 ▸ hlayer :
      layer < transaction.capturedLayerTranscripts.length)
    exact ⟨_, ht, h.transcripts layer _ ht⟩
  changesets := by
    intro layer hlayer
    have hc := List.getElem?_eq_getElem (h.cardinality.2.2.2.1 ▸ hlayer :
      layer < transaction.capturedCanonicalLayerTranscripts.length)
    rw [hc, h.changesets layer _ hc, Intact.changeset_closed hopen]

section Poisoned

variable (sha256)

lemma sealAll_poisoned (h : transaction.poisoned = true) (seals : List LayerSeal) :
    (exec (sealAll sha256 seals) transaction).2 = transaction := by
  have hloop : ∀ numbered : List (LayerSeal × ℕ), (exec (numbered.forM fun numbered => do
      lift (report (ensure (numbered.1.semanticLayerIndex = numbered.2)
        "authenticated OCI rootfs layer seals differ from semantic layer order"))
      sealAuthenticatedSemanticLayer sha256 numbered.1) transaction).2 = transaction := by
    intro numbered
    cases numbered with
    | nil => rfl
    | cons first rest =>
      rw [exec_forM_cons]
      by_cases hi : first.1.semanticLayerIndex = first.2
      · rw [exec_bind_error]
        rw [exec_bind, exec_lift, ensure_pass hi]
        exact poisoning_poisoned h
      · rw [exec_bind_error]
        apply exec_bind_error
        rw [exec_lift, ensure, if_neg hi]
        rfl
  rw [sealAll, exec_get_bind, exec_bind, exec_lift]
  by_cases hl : seals.length = transaction.expectedSemanticLayers
  · rw [ensure_pass hl]
    exact hloop seals.zipIdx
  · simp only [ensure, if_neg hl, report]

lemma authenticateAndRetain_poisoned (h : transaction.poisoned = true) (before after : Host)
    (role : PositiveRunnerRole) (seals : List LayerSeal) (expectedLiveRootfs : LiveCounters)
    {authenticated : Transaction × Projection × ValidatedProjection} :
    authenticateAndRetain sha256 before after role transaction seals expectedLiveRootfs ≠
      .ok authenticated := by
  intro hok
  rw [authenticateAndRetain] at hok
  have hsame := sealAll_poisoned sha256 h seals
  obtain ⟨sealing, hsealing⟩ : ∃ sealing, exec (sealAll sha256 seals) transaction =
      (sealing, transaction) := ⟨_, Prod.ext rfl hsame⟩
  simp only [hsealing, bind_ok, exists_unit, validateCompletedCandidate, report_ok, ensure_ok, h,
    Bool.true_eq_false, false_and, and_false, exists_false] at hok

end Poisoned

/-- In every state that calls on a fresh transaction reach without a failure and without an open
entry, the checks accept and journal, spool and transcripts agree; and after any failed call no
later call succeeds and nothing is authenticated. -/
theorem staging_integrity_and_fail_stop (sha256 : Bytes → Digest) :
    (∀ (expectedSemanticLayers : ℕ) (fresh : Transaction),
      Transaction.begin expectedSemanticLayers = .ok fresh → ∀ calls : List (Host × Call),
        (runCalls sha256 fresh calls).poisoned = false →
          (runCalls sha256 fresh calls).openRegular = none →
            StagingIntegrity sha256 (runCalls sha256 fresh calls)) ∧
    ∀ (transaction failed : Transaction) (host : Host) (call : Call) (e : Fault String),
      exec (perform sha256 host call) transaction = (.error e, failed) →
        ∀ calls : List (Host × Call),
          (∀ (host' : Host) (call' : Call), ∃ e',
            (exec (perform sha256 host' call') (runCalls sha256 failed calls)).1 = .error e') ∧
          ∀ (before after : Host) (role : PositiveRunnerRole) (seals : List LayerSeal)
            (expectedLiveRootfs : LiveCounters)
            (authenticated : Transaction × Projection × ValidatedProjection),
            authenticateAndRetain sha256 before after role (runCalls sha256 failed calls) seals
              expectedLiveRootfs ≠ .ok authenticated := by
  constructor
  · intro expected fresh hfresh calls hpoisoned hopen
    exact (Intact.run calls (fun _ => (Intact.begin hfresh).1) hpoisoned).integrity hopen
  · intro transaction failed host call e hfail calls
    have hpoisoned := perform_error hfail
    rw [runCalls_poisoned calls hpoisoned]
    refine ⟨?_, fun before after role seals expected _ =>
      authenticateAndRetain_poisoned sha256 hpoisoned before after role seals expected⟩
    intro host' call'
    rw [perform_eq, poisoning_poisoned hpoisoned]
    exact ⟨_, rfl⟩

end Eip0045.Rootfs
