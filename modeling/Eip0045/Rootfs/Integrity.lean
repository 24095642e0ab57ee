import Mathlib
import Eip0045.Rootfs.Changes
import Eip0045.Rootfs.Filed

/-! What every successful call keeps true of the transaction: its journal, spool, transcripts and
seals tell one story. -/

namespace Eip0045.Rootfs

open Checked

def RegularExtent.slice (extent : RegularExtent) (spool : Bytes) : Bytes :=
  (spool.drop extent.offset).take extent.byteLength.toNat

def Operation.replayEntry (operation : Operation) : ReplayEntry :=
  canonicalReplayEntry operation.path operation.mode.toUInt64 operation.byteLength operation.kind

def OpenRegularExtent.replayEntry (opened : OpenRegularExtent) : ReplayEntry :=
  ⟨opened.path, .regularFile opened.mode.toUInt64 opened.expectedByteLength⟩

def extentLengths (extents : List RegularExtent) : List ℕ :=
  extents.map fun extent => extent.byteLength.toNat

namespace Transaction

variable (transaction : Transaction)

def payload (operation : Operation) : Bytes :=
  match operation.kind with
  | .regular extentIndex =>
    (transaction.physicalRegularExtents[extentIndex]?.map fun extent =>
      extent.slice transaction.spool).getD []
  | .directory | .symbolicLink _ | .remove _ | .opaqueDirectory _ => []

/-- The operation transcript of a layer, computed again from the journal. -/
def layerTranscript (layer : ℕ) : Result Bytes :=
  (transaction.layerOperations layer).foldlM (fun transcript operation =>
    updateLayerOperationTranscript transcript operation transaction.physicalRegularExtents)
    (newLayerOperationTranscript layer)

/-- The changeset bytes of a layer's completed entries, computed again from journal and spool. -/
def changesetBytes (layer : ℕ) : Bytes :=
  changesetTranscriptDomain ++ (transaction.layerOperations layer).flatMap fun operation =>
    ChangesetTranscript.entryBytes operation.replayEntry ++ transaction.payload operation ++ [0xff]

def changeset (layer : ℕ) : ChangesetTranscript :=
  match transaction.openRegular.filter (fun opened => opened.source.semanticLayerIndex = layer) with
  | none => ⟨transaction.changesetBytes layer, false, none⟩
  | some opened =>
    ⟨transaction.changesetBytes layer ++ ChangesetTranscript.entryBytes opened.replayEntry ++
      opened.digest, true, some (opened.expectedByteLength.toNat - opened.writtenByteLength)⟩

/-- A layer is either open to further entries, or sealed over what it has captured. -/
def SealedOver (sha256 : Bytes → Digest) (layer : ℕ) : Prop :=
  (transaction.sealedLayerEntries[layer]? = some none ∧
      transaction.sealedLayerTranscripts[layer]? = some none ∧
      transaction.authenticatedCanonicalLayerTranscripts[layer]? = some none) ∨
    ∃ captured transcript canonical,
      transaction.capturedLayerEntries[layer]? = some captured ∧
      transaction.sealedLayerEntries[layer]? = some (some captured) ∧
      transaction.capturedLayerTranscripts[layer]? = some transcript ∧
      transaction.sealedLayerTranscripts[layer]? = some (some (sha256 transcript)) ∧
      transaction.capturedCanonicalLayerTranscripts[layer]? = some canonical ∧
      canonical.entryOpen = false ∧
      transaction.authenticatedCanonicalLayerTranscripts[layer]? =
        some (some (sha256 canonical.sha256))

end Transaction

/-- The open file lies at the end of the spool, and its bytes so far are the ones hashed. -/
structure OpenIntact (transaction : Transaction) (opened : OpenRegularExtent) : Prop where
  next : transaction.validateNextSource opened.source = .ok ()
  offset : opened.offset = transaction.physicalRegularBytes
  digest : transaction.spool.drop transaction.physicalRegularBytes = opened.digest
  written : opened.digest.length = opened.writtenByteLength
  declared : opened.writtenByteLength ≤ opened.expectedByteLength.toNat
  identity : ∀ extentIndex, validateStagedOperationIdentity opened.path opened.mode
    opened.expectedByteLength (.regular extentIndex) = .ok ()
  count : transaction.operations.length + 1 ≤ layerStream.maximumTarEntries
  bytes : transaction.physicalRegularBytes + opened.expectedByteLength.toNat ≤
    layerStream.maximumUncompressedTarBytes

structure Intact (sha256 : Bytes → Digest) (transaction : Transaction) : Prop where
  filed : Filed transaction.toJournal transaction.capturedLayerEntries
  referenced : Referenced transaction.toJournal
  cardinality : transaction.sealedLayerEntries.length = transaction.expectedSemanticLayers ∧
    transaction.capturedLayerTranscripts.length = transaction.expectedSemanticLayers ∧
    transaction.sealedLayerTranscripts.length = transaction.expectedSemanticLayers ∧
    transaction.capturedCanonicalLayerTranscripts.length = transaction.expectedSemanticLayers ∧
    transaction.authenticatedCanonicalLayerTranscripts.length = transaction.expectedSemanticLayers
  tiled : ∀ (k : ℕ) (extent : RegularExtent), transaction.physicalRegularExtents[k]? = some extent →
    extent.offset = (extentLengths (transaction.physicalRegularExtents.take k)).sum
  covered : (extentLengths transaction.physicalRegularExtents).sum = transaction.physicalRegularBytes
  hashed : ∀ extent ∈ transaction.physicalRegularExtents,
    extent.sha256 = sha256 (extent.slice transaction.spool)
  spooled : transaction.spool.length = transaction.physicalRegularBytes +
    (transaction.openRegular.map OpenRegularExtent.writtenByteLength).getD 0
  identities : ∀ operation ∈ transaction.operations, validateStagedOperationIdentity operation.path
    operation.mode operation.byteLength operation.kind = .ok ()
  count : transaction.operations.length ≤ layerStream.maximumTarEntries
  bytes : transaction.physicalRegularBytes ≤ layerStream.maximumUncompressedTarBytes
  metadata : transaction.recomputedMetadata = .ok transaction.logicalMetadataBytes
  noInert : transaction.openInertEntry = false
  transcripts : ∀ (layer : ℕ) (transcript : Bytes),
    transaction.capturedLayerTranscripts[layer]? = some transcript →
      transaction.layerTranscript layer = .ok transcript
  changesets : ∀ (layer : ℕ) (canonical : ChangesetTranscript),
    transaction.capturedCanonicalLayerTranscripts[layer]? = some canonical →
      canonical = transaction.changeset layer
  seals : ∀ layer < transaction.expectedSemanticLayers, transaction.SealedOver sha256 layer
  opened : ∀ opened, transaction.openRegular = some opened → OpenIntact transaction opened

section Frames

variable {sha256 : Bytes → Digest} {transaction transaction' : Transaction}

lemma slice_append {extent : RegularExtent} {spool : Bytes}
    (h : extent.offset + extent.byteLength.toNat ≤ spool.length) (bytes : Bytes) :
    extent.slice (spool ++ bytes) = extent.slice spool := by
  rw [RegularExtent.slice, RegularExtent.slice, List.drop_append_of_le_length (by omega),
    List.take_append_of_le_length (by rw [List.length_drop]; omega)]

lemma operationKindBytes_append {extents more : List RegularExtent} {operation : Operation}
    {bytes : Bytes} (h : operationKindBytes extents operation = .ok bytes) :
    operationKindBytes (extents ++ more) operation = .ok bytes := by
  unfold operationKindBytes at h ⊢
  cases hk : operation.kind with
  | regular k =>
    simp only [hk, bind_ok, exists_unit, report_ok, context_ok, ensure_ok] at h ⊢
    obtain ⟨extent, hextent, hrest⟩ := h
    refine ⟨extent, ?_, hrest⟩
    rw [List.getElem?_append_left (List.getElem?_eq_some_iff.mp hextent).1]
    exact hextent
  | directory | symbolicLink | remove | opaqueDirectory =>
    simp only [hk] at h ⊢
    exact h

lemma updateLayerOperationTranscript_append {extents more : List RegularExtent}
    {operation : Operation} {transcript transcript' : Bytes}
    (h : updateLayerOperationTranscript transcript operation extents = .ok transcript') :
    updateLayerOperationTranscript transcript operation (extents ++ more) = .ok transcript' := by
  simp only [updateLayerOperationTranscript, bind_ok] at h ⊢
  obtain ⟨bytes, hbytes, hrest⟩ := h
  exact ⟨bytes, operationKindBytes_append hbytes, hrest⟩

lemma foldlM_transcript_append {operations : List Operation} {extents more : List RegularExtent}
    {transcript transcript' : Bytes}
    (h : operations.foldlM (fun transcript operation =>
      updateLayerOperationTranscript transcript operation extents) transcript = .ok transcript') :
    operations.foldlM (fun transcript operation =>
      updateLayerOperationTranscript transcript operation (extents ++ more)) transcript =
        .ok transcript' := by
  induction operations generalizing transcript with
  | nil => exact h
  | cons operation operations ih =>
    rw [List.foldlM_cons, bind_ok] at h ⊢
    obtain ⟨next, hnext, hrest⟩ := h
    exact ⟨next, updateLayerOperationTranscript_append hnext, ih hrest⟩

lemma toUInt64_toUInt32 {mode : UInt64} (h : mode.toNat < 2 ^ 32) :
    mode.toUInt32.toUInt64 = mode := by
  apply UInt64.toNat_inj.mp
  rw [UInt32.toNat_toUInt64, UInt64.toNat_toUInt32, Nat.mod_eq_of_lt h]

lemma regularFileMode_lt {mode : ℕ} (h : regularFileMode mode = true) : mode < 2 ^ 32 := by
  simp only [regularFileMode, Bool.or_eq_true, decide_eq_true_eq] at h
  omega

lemma Transaction.SealedOver.keep {layer target : ℕ} (h : transaction.SealedOver sha256 layer)
    (hopen : transaction.sealedLayerEntries[target]? = some none)
    (hentries : transaction'.sealedLayerEntries = transaction.sealedLayerEntries)
    (htranscripts : transaction'.sealedLayerTranscripts = transaction.sealedLayerTranscripts)
    (hauthenticated : transaction'.authenticatedCanonicalLayerTranscripts =
      transaction.authenticatedCanonicalLayerTranscripts)
    (hcaptured : target ≠ layer →
      transaction'.capturedLayerEntries[layer]? = transaction.capturedLayerEntries[layer]? ∧
      transaction'.capturedLayerTranscripts[layer]? = transaction.capturedLayerTranscripts[layer]? ∧
      transaction'.capturedCanonicalLayerTranscripts[layer]? =
        transaction.capturedCanonicalLayerTranscripts[layer]?) :
    transaction'.SealedOver sha256 layer := by
  unfold SealedOver
  rw [hentries, htranscripts, hauthenticated]
  by_cases hl : target = layer
  · subst hl
    rcases h with h | ⟨_, _, _, _, hsealed, _⟩
    · exact .inl h
    · rw [hopen] at hsealed
      cases hsealed
  · obtain ⟨h1, h2, h3⟩ := hcaptured hl
    rw [h1, h2, h3]
    exact h

end Frames

namespace Intact

variable {sha256 : Bytes → Digest} {transaction : Transaction}

lemma sum_take_succ {extents : List RegularExtent} {k : ℕ} {extent : RegularExtent}
    (hk : extents[k]? = some extent) : (extentLengths (extents.take (k + 1))).sum =
      (extentLengths (extents.take k)).sum + extent.byteLength.toNat := by
  simp [extentLengths, List.take_add_one, hk]

lemma sum_take_le (extents : List RegularExtent) (k : ℕ) :
    (extentLengths (extents.take k)).sum ≤ (extentLengths extents).sum := by
  conv_rhs => rw [← List.take_append_drop k extents]
  rw [extentLengths, extentLengths, List.map_append, List.sum_append]
  exact Nat.le_add_right _ _

lemma extent_end (h : Intact sha256 transaction) {k : ℕ} {extent : RegularExtent}
    (hk : transaction.physicalRegularExtents[k]? = some extent) :
    extent.offset + extent.byteLength.toNat ≤ transaction.physicalRegularBytes := by
  rw [h.tiled k extent hk, ← h.covered, ← sum_take_succ hk]
  exact sum_take_le _ _

lemma extent_inside (h : Intact sha256 transaction) {extent : RegularExtent}
    (hm : extent ∈ transaction.physicalRegularExtents) :
    extent.offset + extent.byteLength.toNat ≤ transaction.spool.length := by
  obtain ⟨k, hk⟩ := List.mem_iff_getElem?.mp hm
  rw [h.spooled]
  exact (h.extent_end hk).trans (Nat.le_add_right _ _)

lemma mem_operations {journal : Journal} {layer : ℕ} {operation : Operation}
    (h : operation ∈ journal.layerOperations layer) : operation ∈ journal.operations := by
  obtain ⟨i, _, hi⟩ := List.mem_filterMap.mp h
  exact List.mem_of_getElem? hi

lemma changesetBytes_push (transaction : Transaction) {transaction' : Transaction}
    (operation : Operation) {layer : ℕ}
    (hp : ∀ other ∈ transaction.operations, transaction'.payload other = transaction.payload other)
    (hl : transaction'.layerOperations layer = transaction.layerOperations layer ++
      if operation.source.semanticLayerIndex = layer then [operation] else []) :
    transaction'.changesetBytes layer = transaction.changesetBytes layer ++
      if operation.source.semanticLayerIndex = layer then
        ChangesetTranscript.entryBytes operation.replayEntry ++ transaction'.payload operation ++
          [0xff]
      else [] := by
  have hold : ∀ operations : List Operation, (∀ other ∈ operations, other ∈ transaction.operations) →
      (operations.flatMap fun operation => ChangesetTranscript.entryBytes operation.replayEntry ++
        transaction'.payload operation ++ [0xff]) =
      operations.flatMap fun operation => ChangesetTranscript.entryBytes operation.replayEntry ++
        transaction.payload operation ++ [0xff] := by
    intro operations hmem
    apply List.flatMap_congr
    intro other ho
    rw [hp other (hmem other ho)]
  rw [Transaction.changesetBytes, Transaction.changesetBytes, hl, List.flatMap_append,
    hold _ fun other ho => mem_operations ho, List.append_assoc]
  split <;> simp

lemma changeset_closed (hopen : transaction.openRegular = none) (layer : ℕ) :
    transaction.changeset layer = ⟨transaction.changesetBytes layer, false, none⟩ := by
  rw [Transaction.changeset, hopen]
  rfl

lemma layerTranscript_push (transaction : Transaction) {transaction' : Transaction}
    (operation : Operation) {layer : ℕ} {transcript transcript' : Bytes}
    {more : List RegularExtent} (hf : transaction'.physicalRegularExtents =
      transaction.physicalRegularExtents ++ more)
    (hl : transaction'.layerOperations layer = transaction.layerOperations layer ++
      if operation.source.semanticLayerIndex = layer then [operation] else [])
    (ht : transaction.layerTranscript layer = .ok transcript)
    (hu : operation.source.semanticLayerIndex = layer → updateLayerOperationTranscript transcript
      operation transaction'.physicalRegularExtents = .ok transcript')
    (hk : operation.source.semanticLayerIndex ≠ layer → transcript' = transcript) :
    transaction'.layerTranscript layer = .ok transcript' := by
  rw [Transaction.layerTranscript, hl, List.foldlM_append, bind_ok]
  refine ⟨transcript, ?_, ?_⟩
  · rw [hf]
    exact foldlM_transcript_append ht
  · by_cases hlayer : operation.source.semanticLayerIndex = layer
    · rw [if_pos hlayer, List.foldlM_cons, hu hlayer]
      rfl
    · rw [if_neg hlayer, hk hlayer]
      rfl

lemma recomputedMetadata_push {transaction' : Transaction} {operation : Operation}
    {reservation metadata metadata' : ℕ}
    (hops : transaction'.operations = transaction.operations ++ [operation])
    (hopen : transaction.openRegular = none) (hopen' : transaction'.openRegular = none)
    (h : transaction.recomputedMetadata = .ok metadata)
    (hr : stagedOperationMetadataReservation operation.path operation.kind = .ok reservation)
    (hm : checkedRootfsMetadataReservation metadata reservation = .ok metadata') :
    transaction'.recomputedMetadata = .ok metadata' := by
  simp only [Transaction.recomputedMetadata, hopen, hopen', hops, List.foldlM_append,
    List.foldlM_cons, List.foldlM_nil, bind_ok, pure_ok, exists_eq_right] at h ⊢
  exact ⟨metadata, h, reservation, hr, hm⟩

lemma staged {host : Host} {source : SourceOrdinal} {path : Bytes} {mode byteLength : UInt64}
    {kind : OperationKind} {metadata : ℕ} {canonical : ChangesetTranscript} {sources : List ℕ}
    {transcript : Bytes} (h : Intact sha256 transaction) (hk : ∀ k, kind ≠ .regular k)
    (hs : Stages host transaction source path mode byteLength kind metadata canonical sources
      transcript) :
    Intact sha256 (transaction.staged ⟨source, path, mode.toUInt32, byteLength, kind⟩
      (canonicalReplayEntry path mode byteLength kind) metadata canonical sources transcript) := by
  obtain ⟨hlt, hunsealed, hcount, sources', hsources, hlength⟩ := validateNextSource_ok.mp hs.pushes.next
  rw [hs.pushes.sources_at] at hsources
  cases hsources
  have hlayers := fun layer => h.filed.layerOperations_push hs.pushes.sources_at layer
  have hreplay : Operation.replayEntry ⟨source, path, mode.toUInt32, byteLength, kind⟩ =
      canonicalReplayEntry path mode byteLength kind := by
    rw [Operation.replayEntry, toUInt64_toUInt32 hs.mode_lt]
  have hpayload : ∀ transaction : Transaction,
      transaction.payload ⟨source, path, mode.toUInt32, byteLength, kind⟩ = [] := by
    intro transaction
    cases kind with
    | regular k => exact absurd rfl (hk k)
    | directory | symbolicLink | remove | opaqueDirectory => rfl
  obtain ⟨hc1, hc2, hc3, hc4, hc5⟩ := h.cardinality
  have hopen : (transaction.staged ⟨source, path, mode.toUInt32, byteLength, kind⟩
      (canonicalReplayEntry path mode byteLength kind) metadata canonical sources
      transcript).openRegular = none := hs.noOpen
  exact {
    filed := h.filed.push hs.pushes.sources_at hlength
    referenced := h.referenced.push_inert hk sources
    cardinality := by
      refine ⟨hc1, ?_, hc3, ?_, hc5⟩
      · exact (List.length_set ..).trans hc2
      · exact (List.length_set ..).trans hc4
    tiled := h.tiled
    covered := h.covered
    hashed := h.hashed
    spooled := h.spooled
    identities := by
      intro operation ho
      rcases List.mem_append.mp ho with ho | ho
      · exact h.identities operation ho
      · cases List.mem_singleton.mp ho
        exact hs.identity
    count := by
      refine le_trans (le_of_eq ?_) hs.count
      exact List.length_append.trans rfl
    bytes := h.bytes
    metadata := by
      obtain ⟨reservation, hreservation, hmetadata⟩ := hs.metadata_eq
      exact recomputedMetadata_push rfl hs.noOpen hopen h.metadata hreservation hmetadata
    noInert := hs.noInert
    transcripts := by
      intro layer transcript' ht
      obtain ⟨captured, hcaptured, hupdate⟩ := hs.pushes.transcript_eq
      rcases (getElem?_set_eq_some (List.getElem?_eq_some_iff.mp hcaptured).1).mp ht with
        ⟨hl, rfl⟩ | ⟨hl, ht⟩
      · have hold := h.transcripts _ captured hcaptured
        rw [hl] at hold
        exact layerTranscript_push transaction _ (List.append_nil _).symm (hlayers layer) hold
          (fun _ => hupdate) fun hne => absurd hl hne
      · exact layerTranscript_push transaction _ (List.append_nil _).symm (hlayers layer)
          (h.transcripts _ _ ht) (fun heq => absurd heq hl) fun _ => rfl
    changesets := by
      intro layer canonical' hc
      have hbytes : (transaction.staged ⟨source, path, mode.toUInt32, byteLength, kind⟩
          (canonicalReplayEntry path mode byteLength kind) metadata canonical sources
          transcript).changesetBytes layer = _ :=
        changesetBytes_push transaction ⟨source, path, mode.toUInt32, byteLength, kind⟩
          (fun _ _ => rfl) (hlayers layer)
      rw [changeset_closed hopen, hbytes]
      have hold := h.changesets _ canonical hs.canonical_at
      rw [changeset_closed hs.noOpen] at hold
      rcases (getElem?_set_eq_some (List.getElem?_eq_some_iff.mp hs.canonical_at).1).mp hc with
        ⟨hl, rfl⟩ | ⟨hl, hc⟩
      · rw [if_pos hl, hold, ChangesetTranscript.absorb, hreplay, hpayload, hl]
        simp only [List.append_assoc]
      · rw [if_neg hl, List.append_nil, ← changeset_closed hs.noOpen]
        exact h.changesets _ _ hc
    seals := by
      intro layer hlayer
      refine Transaction.SealedOver.keep (h.seals layer hlayer) hunsealed ?_ ?_ ?_ ?_
      · rfl
      · rfl
      · rfl
      · intro hne
        exact ⟨List.getElem?_set_ne hne, List.getElem?_set_ne hne, List.getElem?_set_ne hne⟩
    opened := by
      intro opened ho
      rw [hopen] at ho
      cases ho }

lemma changeset_open {opened : OpenRegularExtent} (hopen : transaction.openRegular = some opened)
    (layer : ℕ) : transaction.changeset layer =
      if opened.source.semanticLayerIndex = layer then
        ⟨transaction.changesetBytes layer ++ ChangesetTranscript.entryBytes opened.replayEntry ++
          opened.digest, true, some (opened.expectedByteLength.toNat - opened.writtenByteLength)⟩
      else ⟨transaction.changesetBytes layer, false, none⟩ := by
  rw [Transaction.changeset, hopen, Option.filter_some]
  by_cases h : opened.source.semanticLayerIndex = layer
  · rw [if_pos (decide_eq_true h), if_pos h]
  · rw [if_neg h, if_neg (by simpa using h)]

lemma payload_append (h : Intact sha256 transaction) (transaction' : Transaction)
    {more : List RegularExtent} {bytes : Bytes} (hextents : transaction'.physicalRegularExtents =
      transaction.physicalRegularExtents ++ more)
    (hspool : transaction'.spool = transaction.spool ++ bytes) {operation : Operation}
    (ho : operation ∈ transaction.operations) :
    transaction'.payload operation = transaction.payload operation := by
  unfold Transaction.payload
  cases hk : operation.kind with
  | regular k =>
    obtain ⟨i, hi⟩ := List.mem_iff_getElem?.mp ho
    obtain ⟨extent, hextent, _⟩ := h.referenced.agrees i operation k hi hk
    have hinside := h.extent_inside (List.mem_of_getElem? hextent)
    simp only [hextents, hspool]
    rw [List.getElem?_append_left (List.getElem?_eq_some_iff.mp hextent).1, hextent]
    exact slice_append hinside bytes
  | directory | symbolicLink | remove | opaqueDirectory => rfl

lemma validateNormalizedRootfsPath_ok {path : Bytes} {label : String} :
    validateNormalizedRootfsPath path label = .ok () ↔
      (1 ≤ path.length ∧ path.length ≤ layerPathMaxBytes) ∧ 0 ∉ path ∧ path.head? ≠ some slash ∧
        ((components path).all fun component =>
          component ≠ [] && component ≠ [dot] && component ≠ [dot, dot]) = true := by
  simp only [validateNormalizedRootfsPath, bind_ok, exists_unit, report_ok, ensure_ok]

lemma regular_identity {path : Bytes} {mode : UInt32} {byteLength : UInt64} {extentIndex : ℕ} :
    validateStagedOperationIdentity path mode byteLength (.regular extentIndex) = .ok () ↔
      validateNormalizedRootfsPath path "OCI rootfs regular-file path" = .ok () ∧
        parseRootfsWhiteout path = .ok none ∧ regularFileMode mode.toNat = true ∧
          byteLength.toNat ≤ layerStream.maximumRegularFilePayloadBytes := by
  simp only [validateStagedOperationIdentity, bind_ok, exists_unit, report_ok, ensure_ok,
    validateRegularFilePayloadBytes_ok, validateNormalizedRootfsPath_ok]
  constructor
  · rintro ⟨hpath, parsed, hparsed, rfl, hmode, hbytes⟩
    exact ⟨hpath, hparsed, hmode, hbytes⟩
  · rintro ⟨hpath, hparsed, hmode, hbytes⟩
    exact ⟨hpath, none, hparsed, rfl, hmode, hbytes⟩

lemma toNat_toUInt32 {mode : UInt64} (h : mode.toNat < 2 ^ 32) : mode.toUInt32.toNat = mode.toNat := by
  rw [UInt64.toNat_toUInt32, Nat.mod_eq_of_lt h]

lemma openRegular {host : Host} {source : SourceOrdinal} {path : Bytes} {mode byteLength : UInt64}
    {metadata : ℕ} {canonical : ChangesetTranscript} (h : Intact sha256 transaction)
    (ho : Opens host transaction source path mode byteLength metadata canonical) :
    Intact sha256 (transaction.opened source path mode byteLength metadata canonical) := by
  obtain ⟨hlt, hunsealed, -⟩ := validateNextSource_ok.mp ho.next
  have hmode := regularFileMode_lt ho.mode_ok
  have hspooled := h.spooled
  rw [ho.noOpen, Option.map_none, Option.getD_none, Nat.add_zero] at hspooled
  obtain ⟨hc1, hc2, hc3, hc4, hc5⟩ := h.cardinality
  have hreplay : OpenRegularExtent.replayEntry ⟨source, path, transaction.physicalRegularBytes,
      byteLength, 0, mode.toUInt32, []⟩ = ⟨path, .regularFile mode byteLength⟩ := by
    rw [OpenRegularExtent.replayEntry, toUInt64_toUInt32 hmode]
  exact {
    filed := h.filed
    referenced := h.referenced
    cardinality := ⟨hc1, hc2, hc3, (List.length_set ..).trans hc4, hc5⟩
    tiled := h.tiled
    covered := h.covered
    hashed := h.hashed
    spooled := hspooled
    identities := h.identities
    count := h.count
    bytes := h.bytes
    metadata := by
      obtain ⟨reservation, hreservation, hmetadata⟩ := ho.metadata_eq
      have hold := h.metadata
      simp only [Transaction.recomputedMetadata, ho.noOpen, bind_ok, pure_ok, exists_eq_right] at hold
      simp only [Transaction.recomputedMetadata, Transaction.opened, bind_ok]
      exact ⟨_, hold, reservation, hreservation, hmetadata⟩
    noInert := ho.noInert
    transcripts := h.transcripts
    changesets := by
      intro layer canonical' hc
      have hold := h.changesets _ canonical ho.canonical_at
      rw [changeset_closed ho.noOpen] at hold
      have hopen : (transaction.opened source path mode byteLength metadata canonical).openRegular =
        some ⟨source, path, transaction.physicalRegularBytes, byteLength, 0, mode.toUInt32, []⟩ := rfl
      rw [changeset_open hopen]
      rcases (getElem?_set_eq_some (List.getElem?_eq_some_iff.mp ho.canonical_at).1).mp hc with
        ⟨hl, rfl⟩ | ⟨hl, hc⟩
      · rw [if_pos hl, hold, hreplay, List.append_nil, hl]
        rfl
      · rw [if_neg hl, h.changesets layer canonical' hc, changeset_closed ho.noOpen]
        rfl
    seals := by
      intro layer hlayer
      refine Transaction.SealedOver.keep (h.seals layer hlayer) hunsealed ?_ ?_ ?_ ?_
      · rfl
      · rfl
      · rfl
      · intro hne
        exact ⟨rfl, rfl, List.getElem?_set_ne hne⟩
    opened := by
      intro opened hopened
      cases hopened
      exact {
        next := ho.next
        offset := rfl
        digest := List.drop_eq_nil_of_le hspooled.le
        written := rfl
        declared := Nat.zero_le _
        identity := fun k => regular_identity.mpr
          ⟨ho.path_ok, ho.whiteout, by rw [toNat_toUInt32 hmode]; exact ho.mode_ok, ho.payload⟩
        count := ho.count
        bytes := ho.bytes } }

lemma wrote {host : Host} {chunk : Bytes} {opened : OpenRegularExtent}
    {canonical : ChangesetTranscript} (h : Intact sha256 transaction)
    (hw : Writes host transaction chunk opened canonical) :
    Intact sha256 (transaction.wrote chunk opened canonical) := by
  have hopened := h.opened opened hw.opened_at
  obtain ⟨hlt, hunsealed, -⟩ := validateNextSource_ok.mp hopened.next
  have hspooled := h.spooled
  rw [hw.opened_at, Option.map_some, Option.getD_some] at hspooled
  obtain ⟨hc1, hc2, hc3, hc4, hc5⟩ := h.cardinality
  have hbytes : ∀ layer, (transaction.wrote chunk opened canonical).changesetBytes layer =
      transaction.changesetBytes layer := by
    intro layer
    rw [Transaction.changesetBytes, Transaction.changesetBytes]
    congr 1
    apply List.flatMap_congr
    intro operation ho
    have hp : (transaction.wrote chunk opened canonical).payload operation = _ :=
      h.payload_append (transaction.wrote chunk opened canonical) (List.append_nil _).symm rfl
        (mem_operations ho)
    rw [hp]
  exact {
    filed := h.filed
    referenced := h.referenced
    cardinality := ⟨hc1, hc2, hc3, (List.length_set ..).trans hc4, hc5⟩
    tiled := h.tiled
    covered := h.covered
    hashed := by
      intro extent hm
      rw [h.hashed extent hm]
      exact congrArg sha256 (slice_append (h.extent_inside hm) chunk).symm
    spooled := by
      refine (List.length_append).trans ?_
      rw [hspooled]
      exact Nat.add_assoc _ _ _
    identities := h.identities
    count := h.count
    bytes := h.bytes
    metadata := by
      have hold := h.metadata
      simp only [Transaction.recomputedMetadata, hw.opened_at, bind_ok] at hold
      simp only [Transaction.recomputedMetadata, Transaction.wrote, bind_ok]
      exact hold
    noInert := h.noInert
    transcripts := h.transcripts
    changesets := by
      intro layer canonical' hc
      have hold := h.changesets _ canonical hw.canonical_at
      rw [changeset_open hw.opened_at, if_pos rfl] at hold
      have hopen : (transaction.wrote chunk opened canonical).openRegular = some { opened with
        digest := opened.digest ++ chunk
        writtenByteLength := opened.writtenByteLength + chunk.length } := rfl
      rw [changeset_open hopen, hbytes]
      rcases (getElem?_set_eq_some (List.getElem?_eq_some_iff.mp hw.canonical_at).1).mp hc with
        ⟨hl, rfl⟩ | ⟨hl, hc⟩
      · rw [if_pos hl, hold, ← hl, Option.map_some, Nat.sub_sub, List.append_assoc]
        rfl
      · rw [if_neg hl, h.changesets layer canonical' hc, changeset_open hw.opened_at, if_neg hl]
    seals := by
      intro layer hlayer
      refine Transaction.SealedOver.keep (h.seals layer hlayer) hunsealed ?_ ?_ ?_ ?_
      · rfl
      · rfl
      · rfl
      · intro hne
        exact ⟨rfl, rfl, List.getElem?_set_ne hne⟩
    opened := by
      intro opened' hopened'
      cases hopened'
      exact {
        next := hopened.next
        offset := hopened.offset
        digest := by
          have hle : transaction.physicalRegularBytes ≤ transaction.spool.length := by omega
          exact (List.drop_append_of_le_length hle).trans (by rw [hopened.digest])
        written := by rw [List.length_append, hopened.written]
        declared := hw.declared
        identity := hopened.identity
        count := hopened.count
        bytes := hopened.bytes } }

lemma finished {host : Host} {opened : OpenRegularExtent} {canonical : ChangesetTranscript}
    {sources : List ℕ} {transcript : Bytes} (h : Intact sha256 transaction)
    (hf : Finishes sha256 host transaction opened canonical sources transcript) :
    Intact sha256 (transaction.finished sha256 opened canonical sources transcript) := by
  have hopened := h.opened opened hf.opened_at
  obtain ⟨hlt, hunsealed, hcount, -⟩ := validateNextSource_ok.mp hopened.next
  obtain ⟨-, -, -, sources', hsources, hlength⟩ := validateNextSource_ok.mp hf.pushes.next
  rw [hf.pushes.sources_at] at hsources
  cases hsources
  have hspooled := h.spooled
  rw [hf.opened_at, Option.map_some, Option.getD_some, hf.complete] at hspooled
  obtain ⟨hc1, hc2, hc3, hc4, hc5⟩ := h.cardinality
  have hlayers := fun layer =>
    (h.filed.extend (opened.extent sha256)).layerOperations_push hf.pushes.sources_at layer
  have hslice : (opened.extent sha256).slice transaction.spool = opened.digest := by
    rw [RegularExtent.slice, OpenRegularExtent.extent, hopened.offset, hopened.digest,
      ← hf.complete, ← hopened.written, List.take_length]
  have hopen : (transaction.finished sha256 opened canonical sources transcript).openRegular =
    none := rfl
  have hpayload : (transaction.finished sha256 opened canonical sources transcript).payload
      (opened.operation transaction.physicalRegularExtents.length) = opened.digest := by
    rw [← hslice]
    change ((transaction.physicalRegularExtents ++ [opened.extent sha256])[
      transaction.physicalRegularExtents.length]?.map _).getD [] = _
    rw [List.getElem?_concat_length]
    rfl
  have hold : ∀ operation ∈ transaction.operations,
      (transaction.finished sha256 opened canonical sources transcript).payload operation =
        transaction.payload operation :=
    fun operation ho =>
      h.payload_append (transaction.finished sha256 opened canonical sources transcript) rfl
        (List.append_nil _).symm ho
  exact {
    filed := (h.filed.extend (opened.extent sha256)).push hf.pushes.sources_at hlength
    referenced := h.referenced.push_regular rfl ⟨rfl, rfl, rfl⟩ sources
    cardinality := by
      refine ⟨hc1, ?_, hc3, ?_, hc5⟩
      · exact (List.length_set ..).trans hc2
      · exact (List.length_set ..).trans hc4
    tiled := by
      intro k extent hk
      change extent.offset = (extentLengths ((transaction.physicalRegularExtents ++
        [opened.extent sha256]).take k)).sum
      rcases getElem?_concat_eq_some.mp hk with hk | ⟨rfl, rfl⟩
      · rw [List.take_append_of_le_length (List.getElem?_eq_some_iff.mp hk).1.le]
        exact h.tiled k extent hk
      · rw [List.take_left', h.covered]
        · exact hopened.offset
        · rfl
    covered := by
      change (extentLengths (transaction.physicalRegularExtents ++ [opened.extent sha256])).sum = _
      rw [extentLengths, List.map_append, List.sum_append, ← extentLengths, h.covered,
        ← hopened.offset, List.map_singleton, List.sum_singleton]
      rfl
    hashed := by
      intro extent hm
      rcases List.mem_append.mp hm with hm | hm
      · exact h.hashed extent hm
      · cases List.mem_singleton.mp hm
        exact (congrArg sha256 hslice).symm
    spooled := by
      change transaction.spool.length = opened.offset + opened.expectedByteLength.toNat + 0
      rw [hspooled, hopened.offset, Nat.add_zero]
    identities := by
      intro operation ho
      rcases List.mem_append.mp ho with ho | ho
      · exact h.identities operation ho
      · cases List.mem_singleton.mp ho
        exact hopened.identity _
    count := by
      refine le_trans (le_of_eq ?_) hopened.count
      exact List.length_append.trans rfl
    bytes := by
      change opened.offset + opened.expectedByteLength.toNat ≤ _
      rw [hopened.offset]
      exact hopened.bytes
    metadata := by
      have hrecomputed := h.metadata
      simp only [Transaction.recomputedMetadata, hf.opened_at, bind_ok] at hrecomputed
      obtain ⟨recomputed, hrecomputed, reservation, hreservation, hmetadata⟩ := hrecomputed
      have hops : (transaction.finished sha256 opened canonical sources transcript).operations =
        transaction.operations ++ [opened.operation transaction.physicalRegularExtents.length] := rfl
      simp only [Transaction.recomputedMetadata, hopen, hops, List.foldlM_append, List.foldlM_cons,
        List.foldlM_nil, bind_ok, pure_ok, exists_eq_right]
      exact ⟨recomputed, hrecomputed, reservation, hreservation, hmetadata⟩
    noInert := h.noInert
    transcripts := by
      intro layer transcript' ht
      obtain ⟨captured, hcaptured, hupdate⟩ := hf.pushes.transcript_eq
      rcases (getElem?_set_eq_some (List.getElem?_eq_some_iff.mp hcaptured).1).mp ht with
        ⟨hl, rfl⟩ | ⟨hl, ht⟩
      · have hbefore := h.transcripts _ captured hcaptured
        rw [hl] at hbefore
        exact layerTranscript_push transaction _ rfl (hlayers layer) hbefore
          (fun _ => hupdate) fun hne => absurd hl hne
      · exact layerTranscript_push transaction _ rfl (hlayers layer)
          (h.transcripts _ _ ht) (fun heq => absurd heq hl) fun _ => rfl
    changesets := by
      intro layer canonical' hc
      have hbytes : (transaction.finished sha256 opened canonical sources
          transcript).changesetBytes layer = _ :=
        changesetBytes_push transaction (opened.operation transaction.physicalRegularExtents.length)
          hold (hlayers layer)
      rw [changeset_closed hopen, hbytes, hpayload]
      have hbefore := h.changesets _ canonical hf.canonical_at
      rw [changeset_open hf.opened_at, if_pos rfl] at hbefore
      rcases (getElem?_set_eq_some (List.getElem?_eq_some_iff.mp hf.canonical_at).1).mp hc with
        ⟨hl, rfl⟩ | ⟨hl, hc⟩
      · have hl' : (opened.operation transaction.physicalRegularExtents.length).source.semanticLayerIndex =
          layer := hl
        rw [if_pos hl', hbefore, ← hl]
        simp only [List.append_assoc]
        rfl
      · have hl' : (opened.operation transaction.physicalRegularExtents.length).source.semanticLayerIndex ≠
          layer := hl
        rw [if_neg hl', List.append_nil, h.changesets layer canonical' hc,
          changeset_open hf.opened_at, if_neg hl]
    seals := by
      intro layer hlayer
      refine Transaction.SealedOver.keep (h.seals layer hlayer) hunsealed ?_ ?_ ?_ ?_
      · rfl
      · rfl
      · rfl
      · intro hne
        exact ⟨List.getElem?_set_ne hne, List.getElem?_set_ne hne, List.getElem?_set_ne hne⟩
    opened := by
      intro opened' ho
      rw [hopen] at ho
      cases ho }

lemma layerSealed {layerSeal : LayerSeal} {canonical : ChangesetTranscript} {transcript : Bytes}
    (h : Intact sha256 transaction)
    (hs : Seals sha256 transaction layerSeal canonical transcript) :
    Intact sha256 (transaction.layerSealed sha256 layerSeal transcript) := by
  obtain ⟨hc1, hc2, hc3, hc4, hc5⟩ := h.cardinality
  have hlt1 : layerSeal.semanticLayerIndex < transaction.sealedLayerEntries.length := hc1 ▸ hs.layer
  have hlt3 : layerSeal.semanticLayerIndex < transaction.sealedLayerTranscripts.length :=
    hc3 ▸ hs.layer
  have hlt5 : layerSeal.semanticLayerIndex <
    transaction.authenticatedCanonicalLayerTranscripts.length := hc5 ▸ hs.layer
  exact {
    filed := h.filed
    referenced := h.referenced
    cardinality := ⟨(List.length_set ..).trans hc1, hc2, (List.length_set ..).trans hc3, hc4,
      (List.length_set ..).trans hc5⟩
    tiled := h.tiled
    covered := h.covered
    hashed := h.hashed
    spooled := h.spooled
    identities := h.identities
    count := h.count
    bytes := h.bytes
    metadata := h.metadata
    noInert := h.noInert
    transcripts := h.transcripts
    changesets := h.changesets
    seals := by
      intro layer hlayer
      by_cases hl : layerSeal.semanticLayerIndex = layer
      · subst hl
        right
        refine ⟨_, transcript, canonical, hs.captured, List.getElem?_set_self hlt1, hs.transcript_at,
          List.getElem?_set_self hlt3, hs.canonical_at, hs.closed, ?_⟩
        rw [hs.digest_eq]
        exact List.getElem?_set_self hlt5
      · rw [Transaction.SealedOver]
        simp only [Transaction.layerSealed, List.getElem?_set_ne hl]
        exact h.seals layer hlayer
    opened := by
      intro opened ho
      have hnone : transaction.openRegular = none := hs.noOpen
      have hsome : transaction.openRegular = some opened := ho
      rw [hnone] at hsome
      cases hsome }

lemma begin {expected : ℕ} (h : Transaction.begin expected = .ok transaction) :
    Intact sha256 transaction ∧ transaction.poisoned = false := by
  simp only [Transaction.begin, bind_ok, exists_unit, report_ok, ensure_ok, pure_ok] at h
  obtain ⟨_, _, _, rfl⟩ := h
  have hreplicate : ∀ {α : Type} {x y : α} {layer : ℕ},
      (List.replicate expected x)[layer]? = some y → layer < expected ∧ x = y := by
    intro α x y layer h
    rwa [List.getElem?_replicate, Option.ite_none_right_eq_some, Option.some.injEq] at h
  have hlayers : ∀ layer : ℕ, (((List.replicate expected ([] : List ℕ))[layer]?.getD []).filterMap
      (([] : List Operation)[·]?)) = [] := by
    intro layer
    apply List.filterMap_eq_nil_iff.mpr
    intro i _
    exact List.getElem?_nil
  constructor
  · exact {
      filed := by
        refine ⟨List.length_replicate, List.length_replicate, ?_, ?_, ?_, ?_⟩
        · intro layer sources hs
          obtain ⟨hlt, rfl⟩ := hreplicate hs
          exact List.getElem?_replicate_of_lt hlt
        · intro layer sources hs index i hi
          obtain ⟨-, rfl⟩ := hreplicate hs
          simp at hi
        · intro i operation hop
          simp at hop
        · simp
      referenced := by
        refine ⟨?_, ?_, ?_⟩
        · intro i operation k hop
          simp at hop
        · intro i i' operation operation' k hop
          simp at hop
        · intro k hk
          simp at hk
      cardinality := by simp
      tiled := by
        intro k extent hk
        simp at hk
      covered := rfl
      hashed := by simp
      spooled := rfl
      identities := by simp
      count := Nat.zero_le _
      bytes := Nat.zero_le _
      metadata := rfl
      noInert := rfl
      transcripts := by
        intro layer transcript ht
        rw [List.getElem?_map] at ht
        obtain ⟨layer', hl, rfl⟩ := Option.map_eq_some_iff.mp ht
        rw [Transaction.layerTranscript, Journal.layerOperations, hlayers]
        obtain ⟨_, rfl⟩ := List.getElem?_eq_some_iff.mp hl
        rw [List.getElem_range]
        rfl
      changesets := by
        intro layer canonical hc
        obtain ⟨-, rfl⟩ := hreplicate hc
        rw [changeset_closed rfl, Transaction.changesetBytes, Journal.layerOperations, hlayers]
        rfl
      seals := by
        intro layer hlayer
        left
        exact ⟨List.getElem?_replicate_of_lt hlayer, List.getElem?_replicate_of_lt hlayer,
          List.getElem?_replicate_of_lt hlayer⟩
      opened := by
        intro opened ho
        cases ho }
  · rfl

end Intact

end Eip0045.Rootfs
