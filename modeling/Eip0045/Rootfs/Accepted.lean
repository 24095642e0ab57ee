import Mathlib
import Eip0045.Rootfs.Calls

/-! The checks of a completed candidate accept every intact transaction. -/

namespace Eip0045.Rootfs

open Checked

/-- The entries that the operations of a layer stage. -/
def Journal.layerEntries (journal : Journal) (layer : ℕ) : List Entry :=
  (journal.layerOperations layer).filterMap (Operation.entry journal.physicalRegularExtents)

/-- Every layer lists its paths in strictly increasing order. -/
def Journal.StrictlyOrdered (journal : Journal) : Prop :=
  ∀ layer, (journal.layerOperations layer).Pairwise fun a b => compare a.path b.path = .lt

namespace Referenced

variable {journal : Journal}

lemma entry_isSome (h : Referenced journal) {operation : Operation}
    (ho : operation ∈ journal.operations) :
    (operation.entry journal.physicalRegularExtents).isSome := by
  unfold Operation.entry
  cases hk : operation.kind with
  | regular k =>
    obtain ⟨i, hi⟩ := List.mem_iff_getElem?.mp ho
    obtain ⟨extent, hextent, hlength, hmode, hsource⟩ := h.agrees i operation k hi hk
    simp [hextent, hlength, hmode, hsource]
  | directory | symbolicLink | remove | opaqueDirectory => rfl

lemma forall₂ (h : Referenced journal) (layer : ℕ) :
    List.Forall₂ (fun operation entry =>
      Operation.entry journal.physicalRegularExtents operation = some entry)
      (journal.layerOperations layer) (journal.layerEntries layer) :=
  forall₂_filterMap fun _ ho => h.entry_isSome (Intact.mem_operations ho)

lemma layerEntries_ordered (h : Referenced journal) (ho : journal.StrictlyOrdered) (layer : ℕ) :
    (journal.layerEntries layer).Pairwise fun a b => compare a.path b.path = .lt := by
  have hpaths : ∀ (operations : List Operation) (entries : List Entry),
      List.Forall₂ (fun operation entry =>
        Operation.entry journal.physicalRegularExtents operation = some entry) operations entries →
      entries.map Entry.path = operations.map Operation.path := by
    intro operations entries hall
    induction hall with
    | nil => rfl
    | cons hr _ ih => rw [List.map_cons, List.map_cons, ih, Operation.entry_path hr]
  have hord : ((journal.layerOperations layer).map Operation.path).Pairwise fun a b =>
      compare a b = .lt := List.pairwise_map.mpr (ho layer)
  rw [← hpaths _ _ (h.forall₂ layer)] at hord
  exact List.pairwise_map.mp hord

def stagedLayers (h : Referenced journal) (ho : journal.StrictlyOrdered) : List Layer :=
  (List.range journal.expectedSemanticLayers).map fun layer =>
    ⟨journal.layerEntries layer, h.layerEntries_ordered ho layer⟩

end Referenced

section Projectable

variable {journal : Journal} {captured : List ℕ}

lemma stagedLayers_entries (hr : Referenced journal) (ho : journal.StrictlyOrdered) :
    (hr.stagedLayers ho).map Layer.entries =
      (List.range journal.expectedSemanticLayers).map journal.layerEntries := by
  rw [Referenced.stagedLayers, List.map_map]
  rfl

lemma stagedLayers_counts (hf : Filed journal captured) (hr : Referenced journal)
    (ho : journal.StrictlyOrdered) :
    ((hr.stagedLayers ho).map fun layer => layer.entries.length) = captured := by
  apply List.ext_getElem?
  intro layer
  rw [Referenced.stagedLayers, List.map_map, List.getElem?_map]
  by_cases hl : layer < journal.expectedSemanticLayers
  · have hlt : layer < journal.operationsBySource.length := hf.layers ▸ hl
    have hs := List.getElem?_eq_getElem hlt
    rw [List.getElem?_range hl, hf.counts layer _ hs, Option.map_some, Function.comp_apply,
      ← (hr.forall₂ layer).length_eq, hf.length_layerOperations hs]
  · rw [List.getElem?_eq_none (by simpa using hl), List.getElem?_eq_none (by
      rw [hf.capturedLayers]
      omega)]
    rfl

lemma stagedLayers_holds (hf : Filed journal captured) (hr : Referenced journal)
    (ho : journal.StrictlyOrdered) : journal.Holds ((hr.stagedLayers ho).map Layer.entries) := by
  rw [stagedLayers_entries]
  intro layer entries hlayer index entry hentry
  rw [List.getElem?_map] at hlayer
  obtain ⟨layer', hl, rfl⟩ := Option.map_eq_some_iff.mp hlayer
  obtain ⟨_, rfl⟩ := List.getElem?_eq_some_iff.mp hl
  rw [List.getElem_range] at hentry
  have hflip : List.Forall₂ (fun (entry : Entry) (operation : Operation) =>
      Operation.entry journal.physicalRegularExtents operation = some entry)
      (journal.layerEntries layer) (journal.layerOperations layer) := (hr.forall₂ layer).flip
  obtain ⟨operation, hop, hstaged⟩ := forall₂_getElem? hflip hentry
  obtain ⟨i, hat⟩ := hf.at_position hop
  exact ⟨i, operation, hat, hstaged⟩

lemma position_lt (hf : Filed journal captured) (hr : Referenced journal)
    (ho : journal.StrictlyOrdered) (i : ℕ) (operation : Operation) (layer : Layer)
    (hop : journal.operations[i]? = some operation)
    (hlayer : (hr.stagedLayers ho)[operation.source.semanticLayerIndex]? = some layer) :
    operation.source.archiveEntryIndex < layer.entries.length := by
  obtain ⟨hlt, ⟨sources, hs, hi⟩, -⟩ := operationAtSource_eq_ok.mp (hf.indexed i operation hop)
  rw [Referenced.stagedLayers, List.getElem?_map, List.getElem?_range hlt] at hlayer
  cases hlayer
  rw [← (hr.forall₂ _).length_eq, hf.length_layerOperations hs]
  exact (List.getElem?_eq_some_iff.mp hi).1

lemma validateProjectionEffectReferences_accepts (hf : Filed journal captured)
    (hr : Referenced journal) (ho : journal.StrictlyOrdered) {projection : Projection}
    (hp : journal.projectOperationJournal captured = .ok projection) :
    validateProjectionEffectReferences journal.operations projection = .ok () := by
  rw [← stagedLayers_counts hf hr ho] at hp
  have hagree := projectOperationJournal_agrees (stagedLayers_holds hf hr ho)
    (Effective.tracks hf.indexed (position_lt hf hr ho)) (Effective.default journal)
  obtain ⟨_, _, _, heffective⟩ := hagree.1 projection hp
  apply validateProjectionEffectReferences_ok heffective _ hf.indexed
  intro i operation phase hop
  obtain ⟨hlt, -⟩ := operationAtSource_eq_ok.mp (hf.indexed i operation hop)
  left
  simpa [Referenced.stagedLayers, Operation.ordinal] using hlt

end Projectable

namespace Intact

variable {sha256 : Bytes → Digest} {transaction : Transaction}

lemma extent_mode (h : Intact sha256 transaction) {k : ℕ} {extent : RegularExtent}
    (hk : transaction.physicalRegularExtents[k]? = some extent) :
    regularFileMode extent.mode.toNat = true := by
  obtain ⟨i, operation, hop, hkind⟩ :=
    h.referenced.covered k (List.getElem?_eq_some_iff.mp hk).1
  obtain ⟨extent', hextent, _, hmode, _⟩ := h.referenced.agrees i operation k hop hkind
  rw [hk] at hextent
  cases hextent
  have hidentity := h.identities operation (List.mem_of_getElem? hop)
  rw [hkind] at hidentity
  rw [hmode]
  exact (regular_identity.mp hidentity).2.2.1

lemma extentClosure_ok (h : Intact sha256 transaction) :
    transaction.extentClosure = .ok transaction.physicalRegularBytes := by
  obtain ⟨_, hrun, rfl⟩ := foldlM_invariant (ε := Fault String) (s := 0)
    (f := fun nextOffset (extent : RegularExtent) => (do
      report (ensure (extent.offset = nextOffset)
        "physical OCI rootfs regular extents are not in append order")
      report (ensure (regularFileMode extent.mode.toNat)
        "physical OCI rootfs regular extent has an invalid logical mode")
      report (context "completed OCI rootfs extent closure overflowed"
        (checkedAdd nextOffset extent.byteLength.toNat)) : Result ℕ))
    (I := fun k nextOffset =>
      nextOffset = (extentLengths (transaction.physicalRegularExtents.take k)).sum)
    transaction.physicalRegularExtents (fun k extent nextOffset hk hnext => by
      have hend := h.extent_end hk
      have hbytes := h.bytes
      refine ⟨nextOffset + extent.byteLength.toNat, ?_, ?_⟩
      · simp only [bind_ok, exists_unit, report_ok, ensure_ok, context_ok, checkedAdd_eq_some,
          and_true]
        refine ⟨by rw [h.tiled k extent hk, hnext], h.extent_mode hk, ?_⟩
        rw [h.tiled k extent hk, ← hnext] at hend
        norm_num [layerStream] at hbytes
        omega
      · rw [hnext, sum_take_succ hk]) rfl
  rw [List.take_length, h.covered] at hrun
  exact hrun

lemma indexed_count (h : Intact sha256 transaction) :
    (transaction.operationsBySource.foldlM (fun count layer =>
      report (context "OCI rootfs source-index cardinality overflowed"
        (checkedAdd count layer.length))) 0 : Result ℕ) = .ok transaction.operations.length := by
  have hcount := h.count
  have htotal := h.filed.total
  have hstep : ∀ (k : ℕ) (sources : List ℕ), transaction.operationsBySource[k]? = some sources →
      ((transaction.operationsBySource.take (k + 1)).map List.length).sum =
        ((transaction.operationsBySource.take k).map List.length).sum + sources.length := by
    intro k sources hk
    simp [List.take_add_one, hk]
  have hle : ∀ k, ((transaction.operationsBySource.take k).map List.length).sum ≤
      transaction.operations.length := by
    intro k
    rw [← htotal]
    conv_rhs => rw [← List.take_append_drop k transaction.operationsBySource]
    rw [List.map_append, List.sum_append]
    exact Nat.le_add_right _ _
  obtain ⟨_, hrun, rfl⟩ := foldlM_invariant (ε := Fault String) (s := 0)
    (f := fun count (layer : List ℕ) =>
      (report (context "OCI rootfs source-index cardinality overflowed"
        (checkedAdd count layer.length)) : Result ℕ))
    (I := fun k count =>
      count = ((transaction.operationsBySource.take k).map List.length).sum)
    transaction.operationsBySource (fun k sources count hk hc => by
      refine ⟨count + sources.length, ?_, by rw [hc, hstep k sources hk]⟩
      have hbound := hle (k + 1)
      rw [hstep k sources hk, ← hc] at hbound
      norm_num [layerStream] at hcount
      simp only [report_ok, context_ok, checkedAdd_eq_some, and_true]
      omega) rfl
  rw [List.take_length, htotal] at hrun
  exact hrun

lemma validateLogicalJournalEnvelope_ok (h : Intact sha256 transaction) :
    transaction.validateLogicalJournalEnvelope = .ok transaction.operations.length := by
  obtain ⟨hc1, hc2, hc3, hc4, hc5⟩ := h.cardinality
  have hcount : 0 + transaction.operations.length ≤ layerStream.maximumTarEntries := by
    rw [Nat.zero_add]
    exact h.count
  have hbytes : 0 + transaction.physicalRegularBytes ≤ layerStream.maximumUncompressedTarBytes := by
    rw [Nat.zero_add]
    exact h.bytes
  simp only [Transaction.validateLogicalJournalEnvelope, bind_ok, exists_unit, report_ok, ensure_ok,
    checkedAddTarEntries_ok, checkedAddUncompressedTarBytes_ok, pure_ok]
  exact ⟨⟨h.filed.capturedLayers, hc1, hc2, hc3, hc4, hc5, h.filed.layers⟩, _, h.metadata, rfl, _,
    h.extentClosure_ok, rfl, _, ⟨hcount, rfl⟩, _, ⟨hbytes, rfl⟩, _, h.indexed_count, rfl, trivial⟩

/-- Which extents the first operations reference. -/
def Marks (transaction : Transaction) (count : ℕ) (referenced : List Bool) : Prop :=
  referenced.length = transaction.physicalRegularExtents.length ∧
    ∀ k, referenced[k]? = some true ↔ ∃ (i : ℕ) (operation : Operation), i < count ∧
      transaction.operations[i]? = some operation ∧ operation.kind = .regular k

lemma Marks.next {count : ℕ} {referenced : List Bool} {operation : Operation}
    (hm : Marks transaction count referenced)
    (hop : transaction.operations[count]? = some operation)
    (hk : ∀ k, operation.kind ≠ .regular k) : Marks transaction (count + 1) referenced := by
  refine ⟨hm.1, ?_⟩
  intro k
  rw [hm.2]
  constructor
  · rintro ⟨i, other, hi, hother, hkind⟩
    exact ⟨i, other, by omega, hother, hkind⟩
  · rintro ⟨i, other, hi, hother, hkind⟩
    rcases Nat.lt_succ_iff_lt_or_eq.mp hi with hi | rfl
    · exact ⟨i, other, hi, hother, hkind⟩
    · rw [hop] at hother
      cases hother
      exact absurd hkind (hk k)

lemma referenceExtent_ok (h : Intact sha256 transaction) {count k : ℕ} {referenced : List Bool}
    {operation : Operation} (hm : Marks transaction count referenced)
    (hop : transaction.operations[count]? = some operation) (hk : operation.kind = .regular k) :
    ∃ referenced', transaction.referenceExtent referenced operation k = .ok referenced' ∧
      Marks transaction (count + 1) referenced' := by
  obtain ⟨extent, hextent, hlength, hmode, hsource⟩ := h.referenced.agrees count operation k hop hk
  have hlt : k < referenced.length := by
    rw [hm.1]
    exact (List.getElem?_eq_some_iff.mp hextent).1
  have hfalse : referenced[k]? = some false := by
    rw [List.getElem?_eq_getElem hlt]
    cases hb : referenced[k] with
    | false => rfl
    | true =>
      obtain ⟨i, other, hi, hother, hkind⟩ :=
        (hm.2 k).mp (List.getElem?_eq_some_iff.mpr ⟨hlt, hb⟩)
      exact absurd (h.referenced.unique i count other operation k hother hop hkind hk) hi.ne
  refine ⟨referenced.set k true, ?_, ?_, ?_⟩
  · simp only [Transaction.referenceExtent, bind_ok, exists_unit, report_ok, context_ok, ensure_ok,
      item_ok, pure_ok]
    exact ⟨false, hfalse, rfl, extent, hextent, ⟨hmode.symm, hlength.symm⟩, hsource.symm, trivial⟩
  · rw [List.length_set]
    exact hm.1
  · intro k'
    rw [getElem?_set_eq_some hlt, hm.2]
    constructor
    · rintro (⟨rfl, -⟩ | ⟨-, i, other, hi, hother, hkind⟩)
      · exact ⟨count, operation, Nat.lt_succ_self count, hop, hk⟩
      · exact ⟨i, other, by omega, hother, hkind⟩
    · rintro ⟨i, other, hi, hother, hkind⟩
      rcases Nat.lt_succ_iff_lt_or_eq.mp hi with hi | rfl
      · by_cases hkk : k = k'
        · exact .inl ⟨hkk, rfl⟩
        · exact .inr ⟨hkk, i, other, hi, hother, hkind⟩
      · rw [hop] at hother
        cases hother
        rw [hk] at hkind
        cases hkind
        exact .inl ⟨rfl, rfl⟩

lemma validateOperationReference_ok (h : Intact sha256 transaction) {count : ℕ}
    {referenced : List Bool} {operation : Operation} (hm : Marks transaction count referenced)
    (hop : transaction.operations[count]? = some operation) :
    ∃ referenced', transaction.validateOperationReference referenced (operation, count) =
      .ok referenced' ∧ Marks transaction (count + 1) referenced' := by
  obtain ⟨hlt, ⟨sources, hs, hi⟩, -⟩ :=
    operationAtSource_eq_ok.mp (h.filed.indexed count operation hop)
  have hcaptured := h.filed.counts _ sources hs
  have hinside := (List.getElem?_eq_some_iff.mp hi).1
  have hidentity := h.identities operation (List.mem_of_getElem? hop)
  simp only [Transaction.validateOperationReference, Journal.semanticLayerSlot, bind_ok, exists_unit,
    report_ok, ensure_ok, item_ok, pure_ok]
  cases hk : operation.kind with
  | regular k =>
    obtain ⟨referenced', hok, hmarks⟩ := h.referenceExtent_ok hm hop hk
    rw [hk] at hidentity
    exact ⟨referenced', ⟨hidentity, _, ⟨hlt, rfl⟩, sources, hs, hi, _, hcaptured, hinside, hok⟩,
      hmarks⟩
  | directory | symbolicLink | remove | opaqueDirectory =>
    rw [hk] at hidentity
    exact ⟨referenced, ⟨hidentity, _, ⟨hlt, rfl⟩, sources, hs, hi, _, hcaptured, hinside, rfl⟩,
      hm.next hop (by simp [hk])⟩

lemma validateOperationExtentReferences_ok (h : Intact sha256 transaction) :
    transaction.validateOperationExtentReferences = .ok () := by
  obtain ⟨referenced, hrun, hlength, hmarks⟩ := foldlM_zipIdx_invariant (ε := Fault String)
    (s := List.replicate transaction.physicalRegularExtents.length false)
    (f := transaction.validateOperationReference) (I := Marks transaction) transaction.operations
    (fun i operation referenced hop hm => h.validateOperationReference_ok hm hop) (by
      refine ⟨List.length_replicate, ?_⟩
      intro k
      simp [List.getElem?_replicate])
  simp only [Transaction.validateOperationExtentReferences, bind_ok, report_ok, ensure_ok]
  refine ⟨referenced, hrun, ?_⟩
  rw [List.all_eq_true]
  intro b hb
  obtain ⟨k, hk⟩ := List.mem_iff_getElem?.mp hb
  have hlt := (List.getElem?_eq_some_iff.mp hk).1
  rw [hlength] at hlt
  obtain ⟨i, operation, hop, hkind⟩ := h.referenced.covered k hlt
  have htrue := (hmarks k).mpr ⟨i, operation, (List.getElem?_eq_some_iff.mp hop).1, hop, hkind⟩
  rw [hk] at htrue
  exact Option.some.inj htrue

/-- The path that precedes a position of a list of operations. -/
def pathBefore (operations : List Operation) : ℕ → Option Bytes
  | 0 => none
  | k + 1 => operations[k]?.map Operation.path

lemma pathBefore_lt {operations : List Operation} {k : ℕ} {operation : Operation}
    (ho : operations.Pairwise fun a b => compare a.path b.path = .lt)
    (hk : operations[k]? = some operation) :
    (pathBefore operations k).all fun previous => compare previous operation.path = .lt := by
  cases k with
  | zero => rfl
  | succ k =>
    obtain ⟨hlt, hget⟩ := List.getElem?_eq_some_iff.mp hk
    rw [pathBefore, List.getElem?_eq_getElem (by omega)]
    have hpair := List.pairwise_iff_getElem.mp ho k (k + 1) (by omega) hlt (by omega)
    rw [hget] at hpair
    exact decide_eq_true hpair

lemma validateLayerOperations_ok (h : Intact sha256 transaction)
    (ho : transaction.StrictlyOrdered) {layer : ℕ} {sources : List ℕ} {transcript : Bytes}
    (hs : transaction.operationsBySource[layer]? = some sources)
    (ht : transaction.layerTranscript layer = .ok transcript) :
    ∃ last, (List.range sources.length).foldlM (transaction.validateLayerOperation sources)
      (none, newLayerOperationTranscript layer) = .ok (last, transcript) := by
  have hall := h.filed.forall₂ layer
  rw [hs, Option.getD_some] at hall
  have hflip : List.Forall₂ (fun (operation : Operation) (i : ℕ) =>
      transaction.operations[i]? = some operation) (transaction.layerOperations layer) sources :=
    hall.flip
  obtain ⟨⟨last, observed⟩, hrun, -, hfold⟩ := foldlM_range_invariant (ε := Fault String)
    (s := ((none, newLayerOperationTranscript layer) : Option Bytes × Bytes))
    (f := transaction.validateLayerOperation sources)
    (I := fun k state => state.1 = pathBefore (transaction.layerOperations layer) k ∧
      ((transaction.layerOperations layer).take k).foldlM (fun transcript operation =>
        updateLayerOperationTranscript transcript operation transaction.physicalRegularExtents)
        (newLayerOperationTranscript layer) = .ok state.2)
    (transaction.layerOperations layer) (fun k operation state hk hbefore => by
      obtain ⟨hlast, hstate⟩ := hbefore
      obtain ⟨i, hi, hop⟩ := forall₂_getElem? hflip hk
      have hsplit := List.take_append_drop (k + 1) (transaction.layerOperations layer)
      have htake : (transaction.layerOperations layer).take (k + 1) =
          (transaction.layerOperations layer).take k ++ [operation] := by
        rw [List.take_add_one, hk]
        rfl
      rw [Transaction.layerTranscript, ← hsplit, List.foldlM_append, bind_ok] at ht
      obtain ⟨next, hnext, -⟩ := ht
      have hupdate := hnext
      rw [htake, List.foldlM_append, hstate, ok_bind, List.foldlM_cons] at hupdate
      simp only [List.foldlM_nil, bind_ok, pure_ok, exists_eq_right] at hupdate
      refine ⟨(some operation.path, next), ?_, ?_, hnext⟩
      · simp only [Transaction.validateLayerOperation, bind_ok, exists_unit, report_ok, context_ok,
          ensure_ok, pure_ok]
        refine ⟨i, hi, operation, hop, ?_, next, hupdate, rfl⟩
        rw [hlast]
        exact pathBefore_lt (ho layer) hk
      · rw [pathBefore, hk]
        rfl) ⟨rfl, rfl⟩
  rw [List.take_length] at hfold
  change transaction.layerTranscript layer = .ok observed at hfold
  rw [ht] at hfold
  cases hfold
  rw [h.filed.length_layerOperations hs] at hrun
  exact ⟨last, hrun⟩

lemma validateSealedTranscript_none {requireAll : Bool} {observed : Digest} {a b : String}
    (h : requireAll = false) :
    Transaction.validateSealedTranscript requireAll none observed a b = .ok () := by
  rw [Transaction.validateSealedTranscript, report_ok, ensure_ok]
  exact h

lemma validateSealedTranscript_some {requireAll : Bool} {observed : Digest} {a b : String} :
    Transaction.validateSealedTranscript requireAll (some observed) observed a b = .ok () := by
  rw [Transaction.validateSealedTranscript, report_ok, ensure_ok]

lemma validateLayer_ok (h : Intact sha256 transaction) (hopen : transaction.openRegular = none)
    (ho : transaction.StrictlyOrdered) {requireAll : Bool} {layer captured : ℕ}
    (hseal : requireAll = true → transaction.sealedLayerEntries[layer]? ≠ some none)
    (hc : transaction.capturedLayerEntries[layer]? = some captured) :
    transaction.validateLayer sha256 requireAll layer captured = .ok captured := by
  obtain ⟨hc1, hc2, hc3, hc4, hc5⟩ := h.cardinality
  have hlayer : layer < transaction.expectedSemanticLayers := by
    rw [← h.filed.capturedLayers]
    exact (List.getElem?_eq_some_iff.mp hc).1
  have hs := List.getElem?_eq_getElem (h.filed.layers ▸ hlayer :
    layer < transaction.operationsBySource.length)
  have hcount := h.filed.counts layer _ hs
  rw [hc] at hcount
  have ht := List.getElem?_eq_getElem (hc2 ▸ hlayer :
    layer < transaction.capturedLayerTranscripts.length)
  have hcanonical := List.getElem?_eq_getElem (hc4 ▸ hlayer :
    layer < transaction.capturedCanonicalLayerTranscripts.length)
  have hchangeset := h.changesets layer _ hcanonical
  rw [changeset_closed hopen] at hchangeset
  obtain ⟨last, hrun⟩ := h.validateLayerOperations_ok ho hs (h.transcripts layer _ ht)
  have hsources : ∃ sources, (if captured = 0 then pure [] else
      item transaction.operationsBySource layer : Result (List ℕ)) = .ok sources ∧
      (List.range captured).foldlM (transaction.validateLayerOperation sources)
        (none, newLayerOperationTranscript layer) = .ok (last, transaction.capturedLayerTranscripts[layer]) := by
    rw [← Option.some.inj hcount] at hrun
    by_cases h0 : captured = 0
    · refine ⟨[], by rw [if_pos h0]; rfl, ?_⟩
      rw [h0] at hrun ⊢
      exact hrun
    · exact ⟨_, by rw [if_neg h0, item_ok]; exact hs, hrun⟩
  obtain ⟨sources, hsources, hfold⟩ := hsources
  simp only [Transaction.validateLayer, bind_ok, exists_unit, report_ok, ensure_ok, item_ok, pure_ok,
    finish_ok]
  rcases h.seals layer hlayer with ⟨h1, h2, h3⟩ | ⟨captured', transcript, canonical, h1, h2, h3, h4,
    h5, h6, h7⟩
  · have hrequire : requireAll = false := by
      cases requireAll with
      | false => rfl
      | true => exact absurd h1 (hseal rfl)
    exact ⟨none, h1, by simp [hrequire], rfl, sources, hsources, _, hfold, _, ht, none, h2,
      validateSealedTranscript_none hrequire, rfl, _, hcanonical, _,
      ⟨by rw [hchangeset], rfl⟩, none, h3, validateSealedTranscript_none hrequire, rfl⟩
  · rw [hc] at h1
    cases h1
    rw [ht] at h3
    cases h3
    rw [hcanonical] at h5
    cases h5
    exact ⟨_, h2, by simp, rfl, sources, hsources, _, hfold, _, ht, _, h4,
      validateSealedTranscript_some, rfl, _, hcanonical, _, ⟨h6, rfl⟩, _, h7,
      validateSealedTranscript_some, rfl⟩

lemma capturedLayerEntries_sum (h : Intact sha256 transaction) :
    transaction.capturedLayerEntries.sum = transaction.operations.length := by
  have hlengths : transaction.operationsBySource.map List.length =
      transaction.capturedLayerEntries := by
    apply List.ext_getElem?
    intro layer
    rw [List.getElem?_map]
    cases hs : transaction.operationsBySource[layer]? with
    | none =>
      rw [List.getElem?_eq_none_iff] at hs
      rw [List.getElem?_eq_none (by rw [h.filed.capturedLayers, ← h.filed.layers]; exact hs)]
      rfl
    | some sources =>
      rw [h.filed.counts layer sources hs]
      rfl
  rw [← hlengths]
  exact h.filed.total

lemma validateLayerSealsAndTranscripts_ok (h : Intact sha256 transaction)
    (hopen : transaction.openRegular = none) (ho : transaction.StrictlyOrdered) {requireAll : Bool}
    (hseal : requireAll = true → ∀ layer : ℕ, transaction.sealedLayerEntries[layer]? ≠ some none) :
    transaction.validateLayerSealsAndTranscripts sha256 requireAll transaction.operations.length =
      .ok transaction.capturedLayerEntries := by
  have hcount := h.count
  norm_num [layerStream] at hcount
  have hsum : ∀ k, (transaction.capturedLayerEntries.take k).sum ≤ transaction.operations.length := by
    intro k
    rw [← h.capturedLayerEntries_sum]
    conv_rhs => rw [← List.take_append_drop k transaction.capturedLayerEntries]
    rw [List.sum_append]
    exact Nat.le_add_right _ _
  obtain ⟨⟨observed, counts⟩, hrun, hobserved, hcounts⟩ := foldlM_zipIdx_invariant
    (ε := Fault String) (s := ((0, []) : ℕ × List ℕ))
    (f := fun (state : ℕ × List ℕ) counted => (do
      let expected ← transaction.validateLayer sha256 requireAll counted.2 counted.1
      let observed ← report (context
        "OCI rootfs semantic-layer operation count overflowed" (checkedAdd state.1 expected))
      pure (observed, state.2 ++ [expected]) : Result (ℕ × List ℕ)))
    (I := fun k state => state.1 = (transaction.capturedLayerEntries.take k).sum ∧
      state.2 = transaction.capturedLayerEntries.take k)
    transaction.capturedLayerEntries (fun k captured state hk hstate => by
      obtain ⟨hsum', hlist⟩ := hstate
      have hnext := hsum (k + 1)
      have htake : transaction.capturedLayerEntries.take (k + 1) =
          transaction.capturedLayerEntries.take k ++ [captured] := by
        rw [List.take_add_one, hk]
        rfl
      rw [htake, List.sum_append, List.sum_singleton, ← hsum'] at hnext
      refine ⟨(state.1 + captured, state.2 ++ [captured]), ?_, ?_, ?_⟩
      · simp only [bind_ok, report_ok, context_ok, checkedAdd_eq_some, pure_ok]
        exact ⟨captured, h.validateLayer_ok hopen ho (fun hr => hseal hr k) hk, _,
          ⟨by omega, rfl⟩, rfl⟩
      · rw [htake, List.sum_append, List.sum_singleton, hsum']
      · rw [htake, hlist]) ⟨rfl, rfl⟩
  rw [List.take_length] at hobserved hcounts
  simp only at hobserved hcounts
  simp only [Transaction.validateLayerSealsAndTranscripts, bind_ok, exists_unit, report_ok, ensure_ok,
    pure_ok]
  exact ⟨_, hrun, by rw [hobserved, h.capturedLayerEntries_sum], hcounts⟩

end Intact

end Eip0045.Rootfs
