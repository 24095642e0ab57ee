import Mathlib
import Eip0045.Rootfs.Staging

/-! What a successful call changes in the transaction, and nothing else. -/

namespace Eip0045.Rootfs

open Checked Stateful

namespace Transaction

variable (transaction : Transaction)

/-- One more completed operation, at the end of its layer. -/
def push (operation : Operation) (sources : List ℕ) (transcript : Bytes) (entries : ℕ) :
    Transaction := { transaction with
  operationsBySource := transaction.operationsBySource.set operation.source.semanticLayerIndex
    (sources ++ [transaction.operations.length])
  operations := transaction.operations ++ [operation]
  capturedLayerTranscripts :=
    transaction.capturedLayerTranscripts.set operation.source.semanticLayerIndex transcript
  capturedLayerEntries :=
    transaction.capturedLayerEntries.set operation.source.semanticLayerIndex entries }

def setChangeset (layer : ℕ) (transcript : ChangesetTranscript) : Transaction := { transaction with
  capturedCanonicalLayerTranscripts :=
    transaction.capturedCanonicalLayerTranscripts.set layer transcript }

end Transaction

variable {sha256 : Bytes → Digest} {host : Host} {transaction transaction' : Transaction}
  {source : SourceOrdinal} {path : Bytes} {mode byteLength : UInt64}

lemma checkNoOpenEntry_ok : transaction.checkNoOpenEntry = .ok () ↔
    transaction.openRegular = none ∧ transaction.openInertEntry = false := by
  simp only [Transaction.checkNoOpenEntry, bind_ok, exists_unit, report_ok, ensure_ok,
    Option.isNone_iff_eq_none]

lemma validateNextSource_ok : transaction.validateNextSource source = .ok () ↔
    source.semanticLayerIndex < transaction.expectedSemanticLayers ∧
      transaction.sealedLayerEntries[source.semanticLayerIndex]? = some none ∧
      transaction.capturedLayerEntries[source.semanticLayerIndex]? =
        some source.archiveEntryIndex ∧
      ∃ sources, transaction.operationsBySource[source.semanticLayerIndex]? = some sources ∧
        sources.length = source.archiveEntryIndex := by
  simp only [Transaction.validateNextSource, Journal.semanticLayerSlot, bind_ok, exists_unit,
    report_ok, ensure_ok, pure_ok, item_ok, context_ok]
  constructor
  · rintro ⟨_, ⟨hlt, rfl⟩, _, hsealed, rfl, _, hcaptured, rfl, sources, hsources, hlength⟩
    exact ⟨hlt, hsealed, hcaptured, sources, hsources, hlength⟩
  · rintro ⟨hlt, hsealed, hcaptured, sources, hsources, hlength⟩
    exact ⟨_, ⟨hlt, rfl⟩, none, hsealed, rfl, _, hcaptured, rfl, sources, hsources, hlength⟩

/-- The guard of an operation that completes: its layer is open, and the transcript takes it. -/
structure Pushes (host : Host) (transaction : Transaction) (operation : Operation)
    (sources : List ℕ) (transcript : Bytes) : Prop where
  next : transaction.validateNextSource operation.source = .ok ()
  sources_at : transaction.operationsBySource[operation.source.semanticLayerIndex]? = some sources
  transcript_eq : ∃ captured,
    transaction.capturedLayerTranscripts[operation.source.semanticLayerIndex]? = some captured ∧
      updateLayerOperationTranscript captured operation transaction.physicalRegularExtents =
        .ok transcript
  reserve : host.reserve "cannot reserve the OCI rootfs per-layer source index" = .ok ()
  bounded : operation.source.archiveEntryIndex + 1 < 2 ^ 64

lemma pushCompletedOperation_ok {operation : Operation} :
    exec (pushCompletedOperation host operation) transaction = (.ok (), transaction') ↔
      ∃ sources transcript, Pushes host transaction operation sources transcript ∧
        transaction' = transaction.push operation sources transcript
          (operation.source.archiveEntryIndex + 1) := by
  simp only [pushCompletedOperation, exec_get_bind, exec_modify_bind, exec_lift_bind_ok,
    exec_modify_ok, exists_unit, report_ok, context_ok, item_ok, checkedAdd_eq_some,
    Journal.semanticLayerSlot, bind_ok, ensure_ok, pure_ok, and_assoc, exists_and_left,
    exists_eq_left']
  constructor
  · rintro ⟨hnext, hlt, captured, hcaptured, transcript, htranscript, sources, hsources, hreserve,
      entries, hentries, hbound, heq⟩
    obtain ⟨_, _, hcount, _⟩ := validateNextSource_ok.mp hnext
    rw [hcount] at hentries
    cases hentries
    exact ⟨sources, transcript,
      ⟨hnext, hsources, ⟨captured, hcaptured, htranscript⟩, hreserve, hbound⟩, heq.symm⟩
  · rintro ⟨sources, transcript, ⟨hnext, hsources, ⟨captured, hcaptured, htranscript⟩, hreserve,
      hbound⟩, rfl⟩
    obtain ⟨hlt, _, hcount, _⟩ := validateNextSource_ok.mp hnext
    exact ⟨hnext, hlt, captured, hcaptured, transcript, htranscript, sources, hsources, hreserve, _,
      hcount, hbound, rfl⟩

lemma payloadOf_inert {kind : OperationKind} (hk : ∀ k, kind ≠ .regular k) :
    ChangesetTranscript.payloadOf (canonicalReplayEntry path mode byteLength kind) = none := by
  cases kind with
  | regular k => exact absurd rfl (hk k)
  | directory | symbolicLink | remove | opaqueDirectory => rfl

def ChangesetTranscript.absorb (transcript : ChangesetTranscript) (entry : ReplayEntry)
    (payload : Bytes) : ChangesetTranscript where
  sha256 := transcript.sha256 ++ ChangesetTranscript.entryBytes entry ++ payload ++ [0xff]
  entryOpen := false
  regularBytesRemaining := none

/-- The guard of a call that stages an inert operation. -/
structure Stages (host : Host) (transaction : Transaction) (source : SourceOrdinal) (path : Bytes)
    (mode byteLength : UInt64) (kind : OperationKind) (metadata : ℕ)
    (canonical : ChangesetTranscript) (sources : List ℕ) (transcript : Bytes) : Prop where
  noOpen : transaction.openRegular = none
  noInert : transaction.openInertEntry = false
  mode_lt : mode.toNat < 2 ^ 32
  metadata_eq : ∃ reservation, stagedOperationMetadataReservation path kind = .ok reservation ∧
    checkedRootfsMetadataReservation transaction.logicalMetadataBytes reservation = .ok metadata
  identity : validateStagedOperationIdentity path mode.toUInt32 byteLength kind = .ok ()
  count : transaction.operations.length + 1 ≤ layerStream.maximumTarEntries
  reserve : host.reserve "cannot reserve the physical OCI rootfs operation journal" = .ok () ∧
    host.reserve "cannot reserve OCI rootfs operation path" = .ok ()
  canonical_at :
    transaction.capturedCanonicalLayerTranscripts[source.semanticLayerIndex]? = some canonical
  closed : canonical.entryOpen = false
  pushes : Pushes host transaction ⟨source, path, mode.toUInt32, byteLength, kind⟩ sources transcript

/-- The transaction after an inert operation. -/
def Transaction.staged (transaction : Transaction) (operation : Operation) (entry : ReplayEntry)
    (metadata : ℕ) (canonical : ChangesetTranscript) (sources : List ℕ) (transcript : Bytes) :
    Transaction :=
  { (transaction.setChangeset operation.source.semanticLayerIndex (canonical.absorb entry [])).push
      operation sources transcript (operation.source.archiveEntryIndex + 1) with
    logicalMetadataBytes := metadata }

lemma checkedAddTarEntries_ok {current additional total : ℕ} {label : String} :
    layerStream.checkedAddTarEntries current additional label = .ok total ↔
      current + additional ≤ layerStream.maximumTarEntries ∧ total = current + additional :=
  checkedSum_ok (by norm_num [layerStream])

lemma checkedAddUncompressedTarBytes_ok {current additional total : ℕ} {label : String} :
    layerStream.checkedAddUncompressedTarBytes current additional label = .ok total ↔
      current + additional ≤ layerStream.maximumUncompressedTarBytes ∧
        total = current + additional :=
  checkedSum_ok (by norm_num [layerStream])

lemma beginEntry_ok {canonical next : ChangesetTranscript} {entry : ReplayEntry} :
    canonical.beginEntry entry = .ok next ↔ canonical.entryOpen = false ∧
      next = ⟨canonical.sha256 ++ ChangesetTranscript.entryBytes entry, true,
        ChangesetTranscript.payloadOf entry⟩ := by
  simp only [ChangesetTranscript.beginEntry, bind_ok, exists_unit, report_ok, ensure_ok, pure_ok]
  rw [eq_comm (a := next)]

lemma finishEntry_ok {canonical next : ChangesetTranscript} :
    canonical.finishEntry = .ok next ↔ canonical.entryOpen = true ∧
      canonical.regularBytesRemaining.getD 0 = 0 ∧
        next = ⟨canonical.sha256 ++ [0xff], false, none⟩ := by
  simp only [ChangesetTranscript.finishEntry, bind_ok, exists_unit, report_ok, ensure_ok, pure_ok]
  rw [eq_comm (a := next)]

lemma stageInertOperationInner_ok {kind : OperationKind} (hk : ∀ k, kind ≠ .regular k) :
    exec (stageInertOperationInner host source path mode byteLength kind) transaction =
        (.ok (), transaction') ↔
      ∃ metadata canonical sources transcript,
        Stages host transaction source path mode byteLength kind metadata canonical sources
            transcript ∧
          transaction' = transaction.staged ⟨source, path, mode.toUInt32, byteLength, kind⟩
            (canonicalReplayEntry path mode byteLength kind) metadata canonical sources transcript := by
  simp only [stageInertOperationInner, exec_get_bind, exec_modify_bind, exec_lift_bind_ok,
    exists_unit, report_ok, ensure_ok, item_ok, checkNoOpenEntry_ok, checkedAddTarEntries_ok,
    Journal.semanticLayerSlot, bind_ok, pure_ok, beginEntry_ok, finishEntry_ok, payloadOf_inert hk,
    and_assoc, exists_and_left, exists_eq_left, exists_eq_left', Option.getD_none, true_and]
  simp only [exec_bind_ok, exec_modify_ok, exists_unit, pushCompletedOperation_ok]
  constructor
  · rintro ⟨hopen, hinert, hnext, hmode, reservation, hreservation, metadata, hmetadata, hidentity,
      hcount, hreserve, hreserve', hlt, canonical, hcanonical, hclosed, _,
      ⟨sources, transcript, hpush, rfl⟩, rfl⟩
    refine ⟨metadata, canonical, sources, transcript,
      ⟨hopen, hinert, hmode, ⟨reservation, hreservation, hmetadata⟩, hidentity, hcount,
        ⟨hreserve, hreserve'⟩, hcanonical, hclosed,
        ⟨hpush.1, hpush.2, hpush.3, hpush.4, hpush.5⟩⟩, ?_⟩
    simp only [Transaction.staged, Transaction.push, Transaction.setChangeset,
      ChangesetTranscript.absorb, List.set_set, List.append_nil]
  · rintro ⟨metadata, canonical, sources, transcript, ⟨hopen, hinert, hmode,
      ⟨reservation, hreservation, hmetadata⟩, hidentity, hcount, ⟨hreserve, hreserve'⟩, hcanonical,
      hclosed, hpush⟩, rfl⟩
    have hlt := (validateNextSource_ok.mp hpush.next).1
    refine ⟨hopen, hinert, hpush.next, hmode, reservation, hreservation, metadata, hmetadata,
      hidentity, hcount, hreserve, hreserve', hlt, canonical, hcanonical, hclosed, _,
      ⟨sources, transcript, ⟨hpush.1, hpush.2, hpush.3, hpush.4, hpush.5⟩, rfl⟩, ?_⟩
    simp only [Transaction.staged, Transaction.push, Transaction.setChangeset,
      ChangesetTranscript.absorb, List.set_set, List.append_nil]

/-- The guard of a call that opens a regular file. -/
structure Opens (host : Host) (transaction : Transaction) (source : SourceOrdinal) (path : Bytes)
    (mode byteLength : UInt64) (metadata : ℕ) (canonical : ChangesetTranscript) : Prop where
  descriptor : ∃ length, transaction.physicalSpoolByteLength = .ok length ∧
    host.spoolDescriptor length = .ok ()
  noOpen : transaction.openRegular = none
  noInert : transaction.openInertEntry = false
  next : transaction.validateNextSource source = .ok ()
  metadata_eq : ∃ reservation, stagedOperationMetadataReservationParts path none true =
      .ok reservation ∧
    checkedRootfsMetadataReservation transaction.logicalMetadataBytes reservation = .ok metadata
  path_ok : validateNormalizedRootfsPath path "OCI rootfs regular-file path" = .ok ()
  whiteout : parseRootfsWhiteout path = .ok none
  mode_ok : regularFileMode mode.toNat = true
  payload : byteLength.toNat ≤ layerStream.maximumRegularFilePayloadBytes
  count : transaction.operations.length + 1 ≤ layerStream.maximumTarEntries
  bytes : transaction.physicalRegularBytes + byteLength.toNat ≤
    layerStream.maximumUncompressedTarBytes
  reserve : host.reserve "cannot reserve OCI rootfs regular-file path" = .ok () ∧
    host.reserve "cannot reserve the physical OCI rootfs extent journal" = .ok () ∧
    host.reserve "cannot reserve the physical OCI rootfs operation journal" = .ok ()
  canonical_at :
    transaction.capturedCanonicalLayerTranscripts[source.semanticLayerIndex]? = some canonical
  closed : canonical.entryOpen = false

/-- The transaction with a regular file opened at the end of the spool. -/
def Transaction.opened (transaction : Transaction) (source : SourceOrdinal) (path : Bytes)
    (mode byteLength : UInt64) (metadata : ℕ) (canonical : ChangesetTranscript) : Transaction :=
  { transaction.setChangeset source.semanticLayerIndex
      ⟨canonical.sha256 ++ ChangesetTranscript.entryBytes ⟨path, .regularFile mode byteLength⟩, true,
        some byteLength.toNat⟩ with
    openRegular := some ⟨source, path, transaction.physicalRegularBytes, byteLength, 0,
      mode.toUInt32, []⟩
    logicalMetadataBytes := metadata }

lemma validateRegularFilePayloadBytes_ok {bytes : ℕ} {label : String} :
    layerStream.validateRegularFilePayloadBytes bytes label = .ok () ↔
      bytes ≤ layerStream.maximumRegularFilePayloadBytes :=
  validateCeiling_ok

lemma openRegular_ok :
    exec (do
        preEffectCheck host
        beginRegularInner host source path mode byteLength) transaction = (.ok (), transaction') ↔
      ∃ metadata canonical, Opens host transaction source path mode byteLength metadata canonical ∧
        transaction' = transaction.opened source path mode byteLength metadata canonical := by
  rw [exec_bind_ok]
  simp only [preEffectCheck, beginRegularInner, exec_get_bind, exec_modify_bind, exec_lift_bind_ok,
    exec_lift_ok, exec_modify_ok, exists_unit, report_ok, ensure_ok, item_ok, checkNoOpenEntry_ok,
    checkedAddTarEntries_ok, checkedAddUncompressedTarBytes_ok, validateRegularFilePayloadBytes_ok,
    Journal.semanticLayerSlot, bind_ok, pure_ok, beginEntry_ok, and_assoc, exists_and_left,
    exists_eq_left, exists_eq_left', exists_and_right]
  constructor
  · rintro ⟨_, ⟨length, hlength, hdescriptor, rfl⟩, hopen, hinert, hnext, reservation, hreservation,
      metadata, hmetadata, hpath, whiteout, hwhiteout, rfl, hmode, hpayload, hcount, hbytes, h1, h2,
      h3, hlt, canonical, hcanonical, hclosed, rfl⟩
    exact ⟨metadata, canonical, ⟨⟨length, hlength, hdescriptor⟩, hopen, hinert, hnext,
      ⟨reservation, hreservation, hmetadata⟩, hpath, hwhiteout, hmode, hpayload, hcount, hbytes,
      ⟨h1, h2, h3⟩, hcanonical, hclosed⟩, rfl⟩
  · rintro ⟨metadata, canonical, ⟨⟨length, hlength, hdescriptor⟩, hopen, hinert, hnext,
      ⟨reservation, hreservation, hmetadata⟩, hpath, hwhiteout, hmode, hpayload, hcount, hbytes,
      ⟨h1, h2, h3⟩, hcanonical, hclosed⟩, rfl⟩
    have hlt := (validateNextSource_ok.mp hnext).1
    exact ⟨_, ⟨length, hlength, hdescriptor, rfl⟩, hopen, hinert, hnext, reservation, hreservation,
      metadata, hmetadata, hpath, none, hwhiteout, rfl, hmode, hpayload, hcount, hbytes, h1, h2,
      h3, hlt, canonical, hcanonical, hclosed, rfl⟩

section Writing

lemma spoolWrite_end (spool bytes : Bytes) : spoolWrite spool spool.length bytes = spool ++ bytes := by
  simp [spoolWrite]

lemma writeAllAt_append (transaction : Transaction) {bytes : Bytes}
    (h : exec (writeAllAt host bytes transaction.spool.length) transaction = (.ok (), transaction')) :
    transaction' = { transaction with spool := transaction.spool ++ bytes } := by
  induction hn : bytes.length using Nat.strong_induction_on generalizing bytes transaction with
  | _ n ih =>
    rw [writeAllAt] at h
    by_cases hb : bytes = []
    · rw [if_pos hb, exec_pure_ok] at h
      rw [hb, List.append_nil, h.2]
    · rw [if_neg hb] at h
      split at h
      · simp [exec_lift] at h
      · simp [exec_lift] at h
      · next written _ =>
        simp only [exec_bind_ok, exec_modify_ok, exec_lift_ok, report_ok, context_ok,
          checkedAdd_eq_some, exists_unit, spoolWrite_end] at h
        obtain ⟨_, rfl, _, _, ⟨⟨_, rfl⟩, rfl⟩, hrest⟩ := h
        by_cases hlen : bytes.length < written + 1
        · rw [if_pos hlen] at hrest
          simp [exec_lift] at hrest
        · rw [if_neg hlen] at hrest
          have htake : (bytes.take (written + 1)).length = written + 1 := by
            rw [List.length_take]
            omega
          have hoffset : transaction.spool.length + (written + 1) =
              (transaction.spool ++ bytes.take (written + 1)).length := by
            rw [List.length_append, htake]
          rw [hoffset] at hrest
          have hdrop : (bytes.drop (written + 1)).length < n := by
            rw [List.length_drop]
            omega
          rw [ih _ hdrop { transaction with
            spool := transaction.spool ++ bytes.take (written + 1) } hrest rfl]
          simp [List.append_assoc]

/-- A host whose checks pass and whose writes and reads make progress. -/
structure Host.Healthy (host : Host) : Prop where
  mountNamespace : host.mountNamespace = .ok ()
  spoolDescriptor : ∀ length, host.spoolDescriptor length = .ok ()
  parent : host.parent = .ok ()
  finalNameAbsent : host.finalNameAbsent = .ok ()
  reserve : ∀ label, host.reserve label = .ok ()
  pwrite : ∀ offset length, length ≠ 0 → ∃ written, host.pwrite offset length = .ok (written + 1) ∧
    written + 1 ≤ length
  pread : ∀ offset length, length ≠ 0 → ∃ read, host.pread offset length = .ok (read + 1)
  syncAll : host.syncAll = .ok ()

lemma writeAllAt_healthy (hh : host.Healthy) (transaction : Transaction) {bytes : Bytes}
    (hb : transaction.spool.length + bytes.length < 2 ^ 64) :
    exec (writeAllAt host bytes transaction.spool.length) transaction =
      (.ok (), { transaction with spool := transaction.spool ++ bytes }) := by
  induction hn : bytes.length using Nat.strong_induction_on generalizing bytes transaction with
  | _ n ih =>
    rw [writeAllAt]
    by_cases hnil : bytes = []
    · rw [if_pos hnil, exec_pure_ok, hnil, List.append_nil]
      exact ⟨rfl, rfl⟩
    · rw [if_neg hnil]
      have hpos := List.length_pos_iff.mpr hnil
      obtain ⟨written, hwrite, hle⟩ := hh.pwrite transaction.spool.length bytes.length hpos.ne'
      rw [hwrite]
      have htake : (bytes.take (written + 1)).length = written + 1 := by
        rw [List.length_take]
        omega
      have hoffset : transaction.spool.length + (written + 1) =
          (transaction.spool ++ bytes.take (written + 1)).length := by
        rw [List.length_append, htake]
      have hdrop : (bytes.drop (written + 1)).length = bytes.length - (written + 1) :=
        List.length_drop
      simp only [exec_bind_ok, exec_modify_ok, exec_lift_ok, report_ok, context_ok,
        checkedAdd_eq_some, exists_unit, spoolWrite_end]
      refine ⟨_, rfl, _, _, ⟨⟨by omega, rfl⟩, rfl⟩, ?_⟩
      rw [if_neg (by omega), hoffset, ih _ (by omega) { transaction with
        spool := transaction.spool ++ bytes.take (written + 1) } (by
          rw [← hoffset, hdrop]
          omega) rfl]
      simp [List.append_assoc]

end Writing

/-- The guard of a call that writes a chunk, apart from the write itself. -/
structure Writes (host : Host) (transaction : Transaction) (chunk : Bytes)
    (opened : OpenRegularExtent) (canonical : ChangesetTranscript) : Prop where
  chunk_ok : 1 ≤ chunk.length ∧ chunk.length ≤ ioBufferBytes
  mountNamespace : host.mountNamespace = .ok ()
  opened_at : transaction.openRegular = some opened
  layer : opened.source.semanticLayerIndex < transaction.expectedSemanticLayers
  fits : opened.writtenByteLength + chunk.length < 2 ^ 64
  declared : opened.writtenByteLength + chunk.length ≤ opened.expectedByteLength.toNat
  offset : opened.offset + opened.writtenByteLength < 2 ^ 64
  canonical_at : transaction.capturedCanonicalLayerTranscripts[opened.source.semanticLayerIndex]? =
    some canonical
  entryOpen : canonical.entryOpen = true
  remaining : ∃ remaining, canonical.regularBytesRemaining = some remaining ∧
    chunk.length ≤ remaining

/-- The transaction after a chunk of the open file. -/
def Transaction.wrote (transaction : Transaction) (chunk : Bytes) (opened : OpenRegularExtent)
    (canonical : ChangesetTranscript) : Transaction :=
  { transaction.setChangeset opened.source.semanticLayerIndex
      ⟨canonical.sha256 ++ chunk, canonical.entryOpen,
        canonical.regularBytesRemaining.map (· - chunk.length)⟩ with
    spool := transaction.spool ++ chunk
    openRegular := some { opened with
      digest := opened.digest ++ chunk
      writtenByteLength := opened.writtenByteLength + chunk.length } }

lemma writeRegularFileChunk_ok {canonical next : ChangesetTranscript} {chunk : Bytes} :
    canonical.writeRegularFileChunk chunk = .ok next ↔ canonical.entryOpen = true ∧
      (chunk ≠ [] ∧ chunk.length ≤ ioBufferBytes) ∧
      (∃ remaining, canonical.regularBytesRemaining = some remaining ∧ chunk.length ≤ remaining) ∧
      next = ⟨canonical.sha256 ++ chunk, canonical.entryOpen,
        canonical.regularBytesRemaining.map (· - chunk.length)⟩ := by
  simp only [ChangesetTranscript.writeRegularFileChunk, bind_ok, exists_unit, report_ok, ensure_ok,
    context_ok, pure_ok]
  constructor
  · rintro ⟨hopen, hchunk, remaining, hremaining, hle, rfl⟩
    exact ⟨hopen, hchunk, ⟨remaining, hremaining, hle⟩, by rw [hremaining]; rfl⟩
  · rintro ⟨hopen, hchunk, ⟨remaining, hremaining, hle⟩, rfl⟩
    exact ⟨hopen, hchunk, remaining, hremaining, hle, by rw [hremaining]; rfl⟩

lemma writeRegularChunkInner_ok {chunk : Bytes}
    (hend : ∀ opened, transaction.openRegular = some opened →
      opened.offset + opened.writtenByteLength = transaction.spool.length) :
    (exec (writeRegularChunkInner host chunk) transaction = (.ok (), transaction') →
      ∃ opened canonical, Writes host transaction chunk opened canonical ∧
        transaction' = transaction.wrote chunk opened canonical) ∧
    (∀ opened canonical, host.Healthy → Writes host transaction chunk opened canonical →
      transaction.spool.length + chunk.length < 2 ^ 64 →
      exec (writeRegularChunkInner host chunk) transaction =
        (.ok (), transaction.wrote chunk opened canonical)) := by
  simp only [writeRegularChunkInner, exec_get_bind, exec_lift_bind_ok, exists_unit, report_ok,
    ensure_ok, context_ok, checkedAdd_eq_some, Journal.semanticLayerSlot, bind_ok, pure_ok,
    and_assoc, exists_and_left, exists_eq_left']
  simp only [exec_bind_ok, exec_modify_bind, exec_modify_ok, exists_unit, item_ok,
    writeRegularFileChunk_ok, exec_lift_ok, and_assoc, exists_and_left, exists_eq_left,
    exists_eq_left']
  constructor
  · rintro ⟨hpos, hlen, hnamespace, opened, hopened, hlayer, hfits, hdeclared, hoffset, _, hwrite,
      canonical, hcanonical, hopen, _, _, hremaining, rfl⟩
    rw [hend opened hopened] at hwrite
    have hspool := writeAllAt_append transaction hwrite
    subst hspool
    exact ⟨opened, canonical, ⟨⟨hpos, hlen⟩, hnamespace, hopened, hlayer, hfits, hdeclared, hoffset,
      hcanonical, hopen, hremaining⟩, rfl⟩
  · rintro opened canonical hh ⟨hchunk, hnamespace, hopened, hlayer, hfits, hdeclared, hoffset,
      hcanonical, hopen, hremaining⟩ hbound
    have hne : chunk ≠ [] := List.length_pos_iff.mp hchunk.1
    have hwrite := writeAllAt_healthy hh transaction hbound
    rw [← hend opened hopened] at hwrite
    exact ⟨hchunk.1, hchunk.2, hnamespace, opened, hopened, hlayer, hfits, hdeclared, hoffset, _,
      hwrite, canonical, hcanonical, hopen, hne, hchunk.2, hremaining, rfl⟩

def OpenRegularExtent.extent (sha256 : Bytes → Digest) (opened : OpenRegularExtent) :
    RegularExtent where
  source := opened.source
  offset := opened.offset
  byteLength := opened.expectedByteLength
  mode := opened.mode
  sha256 := sha256 opened.digest

def OpenRegularExtent.operation (opened : OpenRegularExtent) (extentIndex : ℕ) : Operation where
  source := opened.source
  path := opened.path
  mode := opened.mode
  byteLength := opened.expectedByteLength
  kind := .regular extentIndex

/-- The transaction between the extent of a finished file and its operation. -/
def Transaction.extended (sha256 : Bytes → Digest) (transaction : Transaction)
    (opened : OpenRegularExtent) : Transaction := { transaction with
  openRegular := none
  physicalRegularExtents := transaction.physicalRegularExtents ++ [opened.extent sha256] }

/-- The guard of a call that finishes a regular file. -/
structure Finishes (sha256 : Bytes → Digest) (host : Host) (transaction : Transaction)
    (opened : OpenRegularExtent) (canonical : ChangesetTranscript) (sources : List ℕ)
    (transcript : Bytes) : Prop where
  opened_at : transaction.openRegular = some opened
  complete : opened.writtenByteLength = opened.expectedByteLength.toNat
  fits : opened.offset + opened.expectedByteLength.toNat < 2 ^ 64
  terminal : transaction.physicalSpoolByteLength =
    .ok (opened.offset + opened.expectedByteLength.toNat)
  descriptor : host.spoolDescriptor (opened.offset + opened.expectedByteLength.toNat) = .ok ()
  pushes : Pushes host (transaction.extended sha256 opened)
    (opened.operation transaction.physicalRegularExtents.length) sources transcript
  canonical_at :
    transaction.capturedCanonicalLayerTranscripts[opened.source.semanticLayerIndex]? =
      some canonical
  entryOpen : canonical.entryOpen = true
  paid : canonical.regularBytesRemaining.getD 0 = 0

def Transaction.finished (sha256 : Bytes → Digest) (transaction : Transaction)
    (opened : OpenRegularExtent) (canonical : ChangesetTranscript) (sources : List ℕ)
    (transcript : Bytes) : Transaction :=
  { ((transaction.extended sha256 opened).setChangeset opened.source.semanticLayerIndex
        ⟨canonical.sha256 ++ [0xff], false, none⟩).push
      (opened.operation transaction.physicalRegularExtents.length) sources transcript
      (opened.source.archiveEntryIndex + 1) with
    physicalRegularBytes := opened.offset + opened.expectedByteLength.toNat }

lemma finishEntryInner_ok :
    exec (finishEntryInner sha256 host) transaction = (.ok (), transaction') ↔
      ∃ opened canonical sources transcript,
        Finishes sha256 host transaction opened canonical sources transcript ∧
          transaction' = transaction.finished sha256 opened canonical sources transcript := by
  simp only [finishEntryInner, exec_get_bind, exec_modify_bind, exec_lift_bind_ok, exists_unit,
    report_ok, ensure_ok, context_ok, checkedAdd_eq_some, and_assoc, exists_and_left,
    exists_eq_left']
  simp only [exec_bind_ok, exec_lift_ok, exec_modify_ok, exists_unit, pushCompletedOperation_ok,
    item_ok, Journal.semanticLayerSlot, report_ok, ensure_ok, bind_ok, pure_ok, finishEntry_ok]
  constructor
  · rintro ⟨opened, hopened, hcomplete, hfits, _, hterminal, rfl, hdescriptor, _,
      ⟨sources, transcript, hpush, rfl⟩, _, _, ⟨⟨_, rfl⟩, rfl⟩, canonical, _, ⟨hcanonical, rfl⟩, _, _,
      ⟨⟨hopen, hpaid, rfl⟩, rfl⟩, _, rfl, rfl⟩
    exact ⟨opened, canonical, sources, transcript, ⟨hopened, hcomplete, hfits, hterminal,
      hdescriptor, hpush, hcanonical, hopen, hpaid⟩, rfl⟩
  · rintro ⟨opened, canonical, sources, transcript, ⟨hopened, hcomplete, hfits, hterminal,
      hdescriptor, hpush, hcanonical, hopen, hpaid⟩, rfl⟩
    have hlt : opened.source.semanticLayerIndex < transaction.expectedSemanticLayers :=
      (validateNextSource_ok.mp hpush.next).1
    exact ⟨opened, hopened, hcomplete, hfits, _, hterminal, rfl, hdescriptor, _,
      ⟨sources, transcript, hpush, rfl⟩, _, _, ⟨⟨hlt, rfl⟩, rfl⟩, canonical, _, ⟨hcanonical, rfl⟩,
      _, _, ⟨⟨hopen, hpaid, rfl⟩, rfl⟩, _, rfl, rfl⟩

structure Seals (sha256 : Bytes → Digest) (transaction : Transaction) (layerSeal : LayerSeal)
    (canonical : ChangesetTranscript) (transcript : Bytes) : Prop where
  noOpen : transaction.openRegular = none
  noInert : transaction.openInertEntry = false
  layer : layerSeal.semanticLayerIndex < transaction.expectedSemanticLayers
  unsealed : transaction.sealedLayerEntries[layerSeal.semanticLayerIndex]? = some none
  unauthenticated :
    transaction.authenticatedCanonicalLayerTranscripts[layerSeal.semanticLayerIndex]? = some none
  count : layerSeal.authenticatedEntryCount ≤ layerStream.maximumTarEntries
  captured : transaction.capturedLayerEntries[layerSeal.semanticLayerIndex]? =
    some layerSeal.authenticatedEntryCount
  canonical_at :
    transaction.capturedCanonicalLayerTranscripts[layerSeal.semanticLayerIndex]? = some canonical
  closed : canonical.entryOpen = false
  digest_eq : sha256 canonical.sha256 = layerSeal.changesetTranscriptSha256
  transcript_at : transaction.capturedLayerTranscripts[layerSeal.semanticLayerIndex]? =
    some transcript

/-- The transaction with one more sealed layer. -/
def Transaction.layerSealed (sha256 : Bytes → Digest) (transaction : Transaction)
    (layerSeal : LayerSeal) (transcript : Bytes) : Transaction := { transaction with
  sealedLayerEntries := transaction.sealedLayerEntries.set layerSeal.semanticLayerIndex
    (some layerSeal.authenticatedEntryCount)
  sealedLayerTranscripts := transaction.sealedLayerTranscripts.set layerSeal.semanticLayerIndex
    (some (sha256 transcript))
  authenticatedCanonicalLayerTranscripts :=
    transaction.authenticatedCanonicalLayerTranscripts.set layerSeal.semanticLayerIndex
      (some layerSeal.changesetTranscriptSha256) }

lemma finish_ok {canonical : ChangesetTranscript} {digest : Digest} :
    canonical.finish sha256 = .ok digest ↔
      canonical.entryOpen = false ∧ digest = sha256 canonical.sha256 := by
  simp only [ChangesetTranscript.finish, bind_ok, exists_unit, report_ok, ensure_ok, pure_ok]
  rw [eq_comm (a := digest)]

lemma sealAuthenticatedSemanticLayerInner_ok {layerSeal : LayerSeal} :
    exec (sealAuthenticatedSemanticLayerInner sha256 layerSeal) transaction =
        (.ok (), transaction') ↔
      ∃ canonical transcript, Seals sha256 transaction layerSeal canonical transcript ∧
        transaction' = transaction.layerSealed sha256 layerSeal transcript := by
  simp only [sealAuthenticatedSemanticLayerInner, exec_get_bind, exec_modify_bind,
    exec_lift_bind_ok, exec_modify_ok, exists_unit, report_ok, ensure_ok, item_ok,
    checkedAddTarEntries_ok, Journal.semanticLayerSlot, bind_ok, pure_ok, finish_ok,
    Option.isNone_iff_eq_none, and_assoc, exists_and_left, exists_eq_left, exists_eq_left',
    Nat.zero_add]
  constructor
  · rintro ⟨hopen, hinert, hlt, _, hsealed, rfl, _, hauthenticated, rfl, hcount, _, hcaptured, rfl,
      canonical, hcanonical, hclosed, hdigest, transcript, htranscript, rfl⟩
    exact ⟨canonical, transcript, ⟨hopen, hinert, hlt, hsealed, hauthenticated, hcount, hcaptured,
      hcanonical, hclosed, hdigest, htranscript⟩, rfl⟩
  · rintro ⟨canonical, transcript, ⟨hopen, hinert, hlt, hsealed, hauthenticated, hcount, hcaptured,
      hcanonical, hclosed, hdigest, htranscript⟩, rfl⟩
    exact ⟨hopen, hinert, hlt, none, hsealed, rfl, none, hauthenticated, rfl, hcount, _, hcaptured,
      rfl, canonical, hcanonical, hclosed, hdigest, transcript, htranscript, rfl⟩

end Eip0045.Rootfs
