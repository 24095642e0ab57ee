import Mathlib
import Eip0045.Layer.Authenticated
import Eip0045.Rootfs.Candidate
import Eip0045.Rootfs.Calls

/-! What a replay delivers to the staging of a root filesystem, and the seals that follow it. -/

namespace Eip0045.Layer

open Bytes Checked Stateful
open Rootfs (Result ReplayEntry ReplayEntryKind ChangesetTranscript SourceOrdinal Transaction Host LayerSeal Call Intact
  perform sealAuthenticatedSemanticLayer sealAll ioBufferBytes)
open Oci (OciExpectedLayer)

section Sink

inductive OciRootfsReplayEntryState
  | none
  | regular
  | inert
  deriving DecidableEq

/-- The sink of one layer over a transaction, and what the host answers to each of its calls. -/
structure LayerReplaySink where
  transaction : Transaction
  semanticLayerIndex : ℕ
  entryState : OciRootfsReplayEntryState
  hosts : ℕ → Host

/-- The call that an entry of a replay makes. -/
def callOf (source : SourceOrdinal) (entry : ReplayEntry) : Call :=
  match entry.kind with
  | .regularFile mode byteLength => .beginRegular source entry.path mode byteLength
  | .directory mode byteLength => .stageDirectory source entry.path mode byteLength
  | .symbolicLink mode byteLength target => .stageSymbolicLink source entry.path mode byteLength target
  | .whiteout mode byteLength (.remove target) => .stageRemove source entry.path mode byteLength target
  | .whiteout mode byteLength (.opaqueDirectory path) => .stageOpaqueDirectory source entry.path mode byteLength path

def stateOf (entry : ReplayEntry) : OciRootfsReplayEntryState :=
  match entry.kind with
  | .regularFile .. => .regular
  | .directory .. | .symbolicLink .. | .whiteout .. => .inert

variable (sha256 : Bytes → Digest)

def LayerReplaySink.call (s : LayerReplaySink) (call : Call) : Result LayerReplaySink :=
  match exec (perform sha256 (s.hosts 0) call) s.transaction with
  | (.ok _, transaction) => .ok { s with transaction, hosts := fun k => s.hosts (k + 1) }
  | (.error e, _) => .error e

def LayerReplaySink.setInert (s : LayerReplaySink) (inert : Bool) : LayerReplaySink :=
  { s with transaction := { s.transaction with openInertEntry := inert } }

def rootfsReplaySink : ReplaySink LayerReplaySink where
  beginEntry entry s := do
    report (ensure (s.entryState = .none) "OCI rootfs replay sink already has an open entry")
    let layer ← s.transaction.semanticLayerSlot s.semanticLayerIndex
    let archiveEntryIndex ← item s.transaction.capturedLayerEntries layer
    let s ← s.call sha256 (callOf ⟨s.semanticLayerIndex, archiveEntryIndex⟩ entry)
    let s := if stateOf entry = .inert then s.setInert true else s
    pure { s with entryState := stateOf entry }
  writeRegularFileChunk chunk s := do
    report (ensure (s.entryState = .regular) "OCI rootfs replay sink payload does not belong to a regular entry")
    s.call sha256 (.writeRegularChunk chunk)
  finishEntry s := do
    let s ←
      match s.entryState with
      | .regular => s.call sha256 .finishEntry
      | .inert => do
        report (ensure (s.transaction.openInertEntry = true) "OCI rootfs replay inert-entry state was lost")
        pure (s.setInert false)
      | .none => .error (.reported "OCI rootfs replay sink has no open entry")
    pure { s with entryState := .none }

variable (inflate : Bytes → Inflated) (crc32 : Bytes → UInt32)

end Sink

section Captured

variable {sha256 : Bytes → Digest} {start transaction : Transaction} {s s' : LayerReplaySink} {index entries : ℕ}
  {bytes : Bytes} {m : Member} {members : List Member}

/-- Since the start one layer has captured some entries, of which its transcript holds the bytes, and no other has. -/
structure Captured (sha256 : Bytes → Digest) (start : Transaction) (index entries : ℕ) (bytes : Bytes)
    (transaction : Transaction) : Prop where
  intact : Intact sha256 transaction
  unpoisoned : transaction.poisoned = false
  layers : transaction.expectedSemanticLayers = start.expectedSemanticLayers
  unsealed : transaction.sealedLayerEntries = start.sealedLayerEntries
  entries_at : transaction.capturedLayerEntries[index]? = some entries
  canonical_at : ∃ entryOpen remaining,
    transaction.capturedCanonicalLayerTranscripts[index]? = some ⟨bytes, entryOpen, remaining⟩
  others : ∀ layer ≠ index, transaction.capturedLayerEntries[layer]? = start.capturedLayerEntries[layer]? ∧
    transaction.capturedCanonicalLayerTranscripts[layer]? = start.capturedCanonicalLayerTranscripts[layer]?

structure Between (sha256 : Bytes → Digest) (start : Transaction) (index entries : ℕ) (bytes : Bytes)
    (s : LayerReplaySink) : Prop where
  captured : Captured sha256 start index entries bytes s.transaction
  index_eq : s.semanticLayerIndex = index
  state : s.entryState = .none
  noOpen : s.transaction.openRegular = none

structure Inside (sha256 : Bytes → Digest) (start : Transaction) (index entries : ℕ) (bytes : Bytes)
    (s : LayerReplaySink) : Prop where
  captured : Captured sha256 start index entries bytes s.transaction
  index_eq : s.semanticLayerIndex = index
  state : s.entryState = .regular
  opened : s.transaction.openRegular.map (fun opened => opened.source) = some ⟨index, entries⟩

lemma call_ok {call : Call} : s.call sha256 call = .ok s' ↔ s.transaction.poisoned = false ∧
    ∃ transaction, exec (call.inner sha256 (s.hosts 0)) s.transaction = (.ok (), transaction) ∧
      s' = { s with transaction, hosts := fun k => s.hosts (k + 1) } := by
  rw [LayerReplaySink.call]
  cases h : exec (perform sha256 (s.hosts 0) call) s.transaction with
  | mk outcome transaction =>
    cases outcome with
    | ok u =>
      obtain ⟨hpoisoned, hinner⟩ := Rootfs.perform_ok.mp h
      simp only [Except.ok.injEq]
      constructor
      · rintro rfl
        exact ⟨hpoisoned, transaction, hinner, rfl⟩
      · rintro ⟨-, transaction', hinner', rfl⟩
        rw [hinner, Prod.mk.injEq] at hinner'
        rw [hinner'.2]
    | error e =>
      constructor
      · intro h'
        cases h'
      · rintro ⟨hpoisoned, transaction', hinner, rfl⟩
        rw [Rootfs.perform_ok.mpr ⟨hpoisoned, hinner⟩] at h
        cases h

lemma Between.openRegular {path : Bytes} {mode byteLength : UInt64} (h : Between sha256 start index entries bytes s)
    (hok : (rootfsReplaySink sha256).beginEntry ⟨path, .regularFile mode byteLength⟩ s = .ok s') :
    Inside sha256 start index entries (bytes ++ ChangesetTranscript.entryBytes ⟨path, .regularFile mode byteLength⟩)
      s' := by
  have hstate : stateOf ⟨path, .regularFile mode byteLength⟩ = .regular := rfl
  simp only [rootfsReplaySink, bind_ok, exists_unit, report_ok, ensure_ok, item_ok, call_ok, pure_ok,
    Rootfs.Journal.semanticLayerSlot, hstate, reduceCtorEq, if_false] at hok
  obtain ⟨-, _, ⟨-, rfl⟩, captured, hcaptured, _, ⟨-, transaction, hinner, rfl⟩, rfl⟩ := hok
  rw [h.index_eq] at hcaptured hinner
  obtain rfl := Option.some.inj (h.captured.entries_at.symm.trans hcaptured)
  obtain ⟨hintact, hpoisoned⟩ := h.captured.intact.inner hinner
  obtain ⟨metadata, canonical, hopens, rfl⟩ := Rootfs.openRegular_ok.mp hinner
  obtain ⟨entryOpen, remaining, hcanonical⟩ := h.captured.canonical_at
  obtain rfl := Option.some.inj (hcanonical.symm.trans hopens.canonical_at)
  have hlt := (List.getElem?_eq_some_iff.mp hcanonical).1
  refine ⟨⟨hintact, hpoisoned.trans h.captured.unpoisoned, h.captured.layers, h.captured.unsealed,
    h.captured.entries_at, ⟨true, some byteLength.toNat, List.getElem?_set_self hlt⟩, ?_⟩, h.index_eq, rfl, rfl⟩
  intro layer hne
  obtain ⟨hentries, hothers⟩ := h.captured.others layer hne
  exact ⟨hentries, (List.getElem?_set_ne hne.symm).trans hothers⟩

lemma Inside.write {chunk : Bytes} (h : Inside sha256 start index entries bytes s)
    (hok : (rootfsReplaySink sha256).writeRegularFileChunk chunk s = .ok s') :
    Inside sha256 start index entries (bytes ++ chunk) s' := by
  simp only [rootfsReplaySink, bind_ok, exists_unit, report_ok, ensure_ok, call_ok] at hok
  obtain ⟨-, -, transaction, hinner, rfl⟩ := hok
  have hend : ∀ opened, s.transaction.openRegular = some opened →
      opened.offset + opened.writtenByteLength = s.transaction.spool.length := by
    intro opened ho
    rw [h.captured.intact.spooled, ho, (h.captured.intact.opened opened ho).offset]
    rfl
  obtain ⟨hintact, hpoisoned⟩ := h.captured.intact.inner hinner
  obtain ⟨opened, canonical, hwrites, rfl⟩ := (Rootfs.writeRegularChunkInner_ok hend).1 hinner
  have hsource := h.opened
  rw [hwrites.opened_at] at hsource
  have hsource' : opened.source = ⟨index, entries⟩ := Option.some.inj hsource
  have hlayer : opened.source.semanticLayerIndex = index := congrArg SourceOrdinal.semanticLayerIndex hsource'
  have hat := hwrites.canonical_at
  rw [hlayer] at hat
  obtain ⟨entryOpen, remaining, hcanonical⟩ := h.captured.canonical_at
  obtain rfl := Option.some.inj (hcanonical.symm.trans hat)
  have hlt := (List.getElem?_eq_some_iff.mp hcanonical).1
  refine ⟨⟨hintact, hpoisoned.trans h.captured.unpoisoned, h.captured.layers, h.captured.unsealed,
    h.captured.entries_at, ⟨entryOpen, remaining.map (· - chunk.length), ?_⟩, ?_⟩, h.index_eq, h.state, ?_⟩
  · change (s.transaction.capturedCanonicalLayerTranscripts.set opened.source.semanticLayerIndex _)[index]? = _
    rw [hlayer, List.getElem?_set_self hlt]
  · intro layer hne
    obtain ⟨hentries, hothers⟩ := h.captured.others layer hne
    refine ⟨hentries, ?_⟩
    change (s.transaction.capturedCanonicalLayerTranscripts.set opened.source.semanticLayerIndex _)[layer]? = _
    rw [hlayer, List.getElem?_set_ne hne.symm, hothers]
  · exact congrArg some hsource'

lemma Inside.writes {pieces : List Bytes} (h : Inside sha256 start index entries bytes s)
    (hrun : (rootfsReplaySink sha256).run s (pieces.map .chunk) = .ok s') :
    Inside sha256 start index entries (bytes ++ pieces.flatten) s' := by
  induction pieces generalizing s bytes with
  | nil =>
    cases hrun
    rw [List.flatten_nil, List.append_nil]
    exact h
  | cons piece pieces ih =>
    rw [List.map_cons, ReplaySink.run, List.foldlM_cons, bind_ok] at hrun
    obtain ⟨t, hwrite, hrest⟩ := hrun
    rw [List.flatten_cons, ← List.append_assoc]
    exact ih (h.write hwrite) hrest

lemma Inside.finish (h : Inside sha256 start index entries bytes s)
    (hok : (rootfsReplaySink sha256).finishEntry s = .ok s') :
    Between sha256 start index (entries + 1) (bytes ++ [0xff]) s' := by
  simp only [rootfsReplaySink, h.state, bind_ok, call_ok, pure_ok] at hok
  obtain ⟨_, ⟨-, transaction, hinner, rfl⟩, rfl⟩ := hok
  obtain ⟨hintact, hpoisoned⟩ := h.captured.intact.inner hinner
  obtain ⟨opened, canonical, sources, transcript, hfinishes, rfl⟩ := Rootfs.finishEntryInner_ok.mp hinner
  have hsource := h.opened
  rw [hfinishes.opened_at] at hsource
  have hsource' : opened.source = ⟨index, entries⟩ := Option.some.inj hsource
  have hlayer : opened.source.semanticLayerIndex = index := congrArg SourceOrdinal.semanticLayerIndex hsource'
  have hentry : opened.source.archiveEntryIndex = entries := congrArg SourceOrdinal.archiveEntryIndex hsource'
  have hat := hfinishes.canonical_at
  rw [hlayer] at hat
  obtain ⟨entryOpen, remaining, hcanonical⟩ := h.captured.canonical_at
  obtain rfl := Option.some.inj (hcanonical.symm.trans hat)
  have hlt := (List.getElem?_eq_some_iff.mp hcanonical).1
  have hltEntries := (List.getElem?_eq_some_iff.mp h.captured.entries_at).1
  refine ⟨⟨hintact, hpoisoned.trans h.captured.unpoisoned, h.captured.layers, h.captured.unsealed, ?_,
    ⟨false, none, ?_⟩, ?_⟩, h.index_eq, rfl, rfl⟩
  · change (s.transaction.capturedLayerEntries.set opened.source.semanticLayerIndex
      (opened.source.archiveEntryIndex + 1))[index]? = _
    rw [hlayer, hentry, List.getElem?_set_self hltEntries]
  · change (s.transaction.capturedCanonicalLayerTranscripts.set opened.source.semanticLayerIndex _)[index]? = _
    rw [hlayer, List.getElem?_set_self hlt]
  · intro layer hne
    obtain ⟨hentries, hothers⟩ := h.captured.others layer hne
    constructor
    · change (s.transaction.capturedLayerEntries.set opened.source.semanticLayerIndex _)[layer]? = _
      rw [hlayer, List.getElem?_set_ne hne.symm, hentries]
    · change (s.transaction.capturedCanonicalLayerTranscripts.set opened.source.semanticLayerIndex _)[layer]? = _
      rw [hlayer, List.getElem?_set_ne hne.symm, hothers]

lemma callOf_inert (sha256 : Bytes → Digest) {entry : ReplayEntry} (h : stateOf entry = .inert) :
    ∃ mode byteLength kind, (∀ k, kind ≠ .regular k) ∧
      Rootfs.canonicalReplayEntry entry.path mode byteLength kind = entry ∧
      ∀ source host, (callOf source entry).inner sha256 host =
        Rootfs.stageInertOperationInner host source entry.path mode byteLength kind := by
  obtain ⟨path, kind⟩ := entry
  cases kind with
  | regularFile mode byteLength => cases h
  | directory mode byteLength => exact ⟨mode, byteLength, .directory, by simp, rfl, fun _ _ => rfl⟩
  | symbolicLink mode byteLength target =>
    exact ⟨mode, byteLength, .symbolicLink target, by simp, rfl, fun _ _ => rfl⟩
  | whiteout mode byteLength operation =>
    cases operation with
    | remove target => exact ⟨mode, byteLength, .remove target, by simp, rfl, fun _ _ => rfl⟩
    | opaqueDirectory subject => exact ⟨mode, byteLength, .opaqueDirectory subject, by simp, rfl, fun _ _ => rfl⟩

lemma Between.stage {entry : ReplayEntry} {t : LayerReplaySink} (h : Between sha256 start index entries bytes s)
    (hinert : stateOf entry = .inert) (hbegin : (rootfsReplaySink sha256).beginEntry entry s = .ok t)
    (hfinish : (rootfsReplaySink sha256).finishEntry t = .ok s') :
    Between sha256 start index (entries + 1) (bytes ++ (ChangesetTranscript.entryBytes entry ++ [0xff])) s' := by
  obtain ⟨mode, byteLength, kind, hk, hentry, hcall⟩ := callOf_inert sha256 hinert
  simp only [rootfsReplaySink, bind_ok, exists_unit, report_ok, ensure_ok, item_ok, call_ok, pure_ok,
    Rootfs.Journal.semanticLayerSlot, hinert, if_true] at hbegin
  obtain ⟨-, _, ⟨-, rfl⟩, captured, hcaptured, _, ⟨-, transaction, hinner, rfl⟩, rfl⟩ := hbegin
  rw [h.index_eq] at hcaptured hinner
  obtain rfl := Option.some.inj (h.captured.entries_at.symm.trans hcaptured)
  obtain ⟨hintact, hpoisoned⟩ := h.captured.intact.inner hinner
  rw [hcall] at hinner
  obtain ⟨metadata, canonical, sources, transcript, hstages, rfl⟩ := (Rootfs.stageInertOperationInner_ok hk).mp hinner
  rw [hentry] at hfinish hintact hpoisoned
  obtain ⟨entryOpen, remaining, hcanonical⟩ := h.captured.canonical_at
  obtain rfl := Option.some.inj (hcanonical.symm.trans hstages.canonical_at)
  have hlt := (List.getElem?_eq_some_iff.mp hcanonical).1
  have hltEntries := (List.getElem?_eq_some_iff.mp h.captured.entries_at).1
  simp only [rootfsReplaySink, bind_ok, exists_unit, report_ok, ensure_ok, pure_ok] at hfinish
  obtain ⟨-, _, rfl, rfl⟩ := hfinish
  have hcleared : ∀ t : Transaction, t.openInertEntry = false →
      { { t with openInertEntry := true } with openInertEntry := false } = t := by
    rintro ⟨⟩ rfl
    rfl
  have hstaged : Captured sha256 start index (entries + 1) (bytes ++ (ChangesetTranscript.entryBytes entry ++ [0xff]))
      (s.transaction.staged ⟨⟨index, entries⟩, entry.path, mode.toUInt32, byteLength, kind⟩ entry metadata
        ⟨bytes, entryOpen, remaining⟩ sources transcript) := by
    refine ⟨hintact, hpoisoned.trans h.captured.unpoisoned, h.captured.layers, h.captured.unsealed,
      List.getElem?_set_self hltEntries, ⟨false, none, ?_⟩, ?_⟩
    · refine (List.getElem?_set_self hlt).trans ?_
      simp only [ChangesetTranscript.absorb, List.append_nil, List.append_assoc]
    · intro layer hne
      obtain ⟨hentries, hothers⟩ := h.captured.others layer hne
      exact ⟨(List.getElem?_set_ne hne.symm).trans hentries, (List.getElem?_set_ne hne.symm).trans hothers⟩
  rw [← hcleared _ hintact.noInert] at hstaged
  exact ⟨hstaged, h.index_eq, rfl, hstages.noOpen⟩

lemma chunks_flatten (payload : Bytes) : (chunks payload).flatten = payload := by
  induction hlength : payload.length using Nat.strong_induction_on generalizing payload with
  | _ n ih =>
    by_cases hnil : payload = []
    · rw [hnil, chunks_nil]
      rfl
    · have hpositive := List.length_pos_of_ne_nil hnil
      have hbuffer : 0 < ioBufferBytes := by decide
      rw [chunks_cons hnil, List.flatten_cons, ih (payload.drop ioBufferBytes).length ?_ _ rfl, List.take_append_drop]
      rw [List.length_drop]
      omega

lemma transcript_empty (h : m.content.payload = []) :
    m.transcript = ChangesetTranscript.entryBytes m.entry ++ [0xff] := by
  rw [Member.transcript, h, List.append_nil]

lemma Between.member (h : Between sha256 start index entries bytes s)
    (hrun : (rootfsReplaySink sha256).run s m.events = .ok s') :
    Between sha256 start index (entries + 1) (bytes ++ m.transcript) s' := by
  obtain ⟨t, hbegin, u, hchunks, hend⟩ := run_member.mp hrun
  obtain ⟨path, content⟩ := m
  cases content with
  | regularFile executable payload =>
    have hfinished := ((h.openRegular hbegin).writes hchunks).finish hend
    rw [chunks_flatten, List.append_assoc, List.append_assoc, ← List.append_assoc (ChangesetTranscript.entryBytes _)]
      at hfinished
    exact hfinished
  | directory =>
    change (rootfsReplaySink sha256).run t ((chunks []).map .chunk) = .ok u at hchunks
    rw [chunks_nil] at hchunks
    cases hchunks
    rw [transcript_empty rfl]
    exact h.stage rfl hbegin hend
  | symbolicLink target =>
    change (rootfsReplaySink sha256).run t ((chunks []).map .chunk) = .ok u at hchunks
    rw [chunks_nil] at hchunks
    cases hchunks
    rw [transcript_empty rfl]
    exact h.stage rfl hbegin hend
  | whiteout operation =>
    change (rootfsReplaySink sha256).run t ((chunks []).map .chunk) = .ok u at hchunks
    rw [chunks_nil] at hchunks
    cases hchunks
    rw [transcript_empty rfl]
    exact h.stage rfl hbegin hend

lemma Between.run_layer (h : Between sha256 start index entries bytes s)
    (hrun : (rootfsReplaySink sha256).run s (members.flatMap Member.events) = .ok s') :
    Between sha256 start index (entries + members.length) (bytes ++ members.flatMap Member.transcript) s' := by
  induction members generalizing s entries bytes with
  | nil =>
    cases hrun
    rw [List.flatMap_nil, List.append_nil]
    exact h
  | cons m members ih =>
    obtain ⟨t, hfirst, hrest⟩ := run_cons.mp hrun
    have hmembers := ih (h.member hfirst) hrest
    rw [List.length_cons, List.flatMap_cons, ← List.append_assoc, Nat.add_right_comm, Nat.add_assoc] at *
    exact hmembers

end Captured

section Seals

variable {sha256 : Bytes → Digest} {inflate : Bytes → Inflated} {crc32 : Bytes → UInt32}
  {start transaction transaction' : Transaction} {replay : LayerReplay} {replays : List LayerReplay}
  {layerSeal : LayerSeal} {done seals : List LayerSeal} {layers : ℕ}

/-- A seal says of a layer what the transaction has captured of it. -/
structure Recorded (sha256 : Bytes → Digest) (transaction : Transaction) (layerSeal : LayerSeal) : Prop where
  layer : layerSeal.semanticLayerIndex < transaction.expectedSemanticLayers
  count : layerSeal.authenticatedEntryCount ≤ Rootfs.layerStream.maximumTarEntries
  captured : transaction.capturedLayerEntries[layerSeal.semanticLayerIndex]? = some layerSeal.authenticatedEntryCount
  canonical : ∃ canonical,
    transaction.capturedCanonicalLayerTranscripts[layerSeal.semanticLayerIndex]? = some canonical ∧
    sha256 canonical.sha256 = layerSeal.changesetTranscriptSha256

end Seals

section First

end First

section Identity

/-- The check that a staging makes of an entry before it takes it. -/
def entryIdentity (entry : ReplayEntry) : Result Unit :=
  match entry.kind with
  | .regularFile mode byteLength =>
    Rootfs.validateStagedOperationIdentity entry.path mode.toUInt32 byteLength (.regular 0)
  | .directory mode byteLength => Rootfs.validateStagedOperationIdentity entry.path mode.toUInt32 byteLength .directory
  | .symbolicLink mode byteLength target =>
    Rootfs.validateStagedOperationIdentity entry.path mode.toUInt32 byteLength (.symbolicLink target)
  | .whiteout mode byteLength (.remove target) =>
    Rootfs.validateStagedOperationIdentity entry.path mode.toUInt32 byteLength (.remove target)
  | .whiteout mode byteLength (.opaqueDirectory path) =>
    Rootfs.validateStagedOperationIdentity entry.path mode.toUInt32 byteLength (.opaqueDirectory path)

def identitySink : ReplaySink Unit where
  beginEntry entry _ := entryIdentity entry
  writeRegularFileChunk _ _ := pure ()
  finishEntry _ := pure ()

variable {path target subject : Bytes} {m : Member} {resolved : List Bytes}

lemma resolveTargetComponent_agree {start : List Bytes} {component : Bytes} :
    resolveTargetComponent start component = .ok resolved ↔
      Rootfs.resolveTargetComponent start component = .ok resolved := by
  rw [resolveTargetComponent, Rootfs.resolveTargetComponent]
  split_ifs
  · exact Iff.rfl
  · simp only [bind_ok, exists_unit, report_ok, ensure_ok]
  · exact Iff.rfl

lemma resolve_agree {components start : List Bytes} : components.foldlM resolveTargetComponent start = .ok resolved ↔
    components.foldlM Rootfs.resolveTargetComponent start = .ok resolved := by
  induction components generalizing start with
  | nil => exact Iff.rfl
  | cons component components ih => simp only [List.foldlM_cons, bind_ok, resolveTargetComponent_agree, ih]

lemma symlink_agree (h : validateSymlinkTarget path target = .ok ()) (hlength : target.length ≤ 100)
    (hzero : 0 ∉ target) :
    Rootfs.validateSymlinkTarget path target = .ok () := by
  simp only [validateSymlinkTarget, Rootfs.validateSymlinkTarget, bind_ok, exists_unit, report_ok, ensure_ok, pure_ok,
    resolve_agree] at h ⊢
  exact ⟨h.1, hlength, hzero, h.2⟩

lemma Contained.normalized {label : String} (h : Contained path) (hlength : path.length ≤ 240) (hzero : 0 ∉ path) :
    Rootfs.validateNormalizedRootfsPath path label = .ok () := by
  refine Intact.validateNormalizedRootfsPath_ok.mpr ⟨⟨List.length_pos_of_ne_nil h.ne_nil, hlength⟩, hzero, h.head, ?_⟩
  simp only [List.all_eq_true, Bool.and_eq_true, decide_eq_true_eq, and_assoc]
  exact h

lemma parse_plain (h : whiteoutTarget path = .ok none) : Rootfs.parseRootfsWhiteout path = .ok none :=
  if_pos (whiteoutTarget_none.mp h)

lemma parse_opaque (h : (parentAndBasename path).2 = Rootfs.opaqueMarker) :
    Rootfs.parseRootfsWhiteout path = .ok (some (.opaqueDirectory (parentAndBasename path).1)) := by
  have hmarked : Rootfs.whiteoutPrefix <+: (parentAndBasename path).2 := by
    rw [h]
    exact List.prefix_append _ _
  exact (if_neg (not_not.mpr hmarked)).trans (if_pos h)

lemma parse_remove {name : Bytes} (h : (parentAndBasename path).2 = Rootfs.whiteoutPrefix ++ name) (hname : name ≠ [])
    (hother : (parentAndBasename path).2 ≠ Rootfs.opaqueMarker) (hlength : path.length ≤ 240) :
    Rootfs.parseRootfsWhiteout path = .ok (some (.remove (parentAndBasename path).1 name)) := by
  have hmarked : Rootfs.whiteoutPrefix <+: (parentAndBasename path).2 := ⟨name, h.symm⟩
  have hdrop : (parentAndBasename path).2.drop 4 = name := by
    rw [h]
    rfl
  have hbase := congrArg List.length h
  rw [List.length_append] at hbase
  have hfits : (parentAndBasename path).1.length + (if (parentAndBasename path).1 = [] then 0 else 1) + name.length ≤
      Rootfs.layerPathMaxBytes := by
    change _ ≤ 240
    obtain ⟨hpath, hnil⟩ | hpath := parentAndBasename_eq path
    · have hwhole := congrArg List.length hpath
      rw [hnil, List.length_nil, if_pos rfl]
      omega
    · have hwhole := congrArg List.length hpath
      rw [List.length_append, List.length_cons] at hwhole
      split_ifs <;> omega
  refine (if_neg (not_not.mpr hmarked)).trans ((if_neg hother).trans ?_)
  simp only [bind_ok, exists_unit, report_ok, ensure_ok, pure_ok]
  change (parentAndBasename path).2.drop 4 ≠ [] ∧ (parentAndBasename path).1.length + _ +
    ((parentAndBasename path).2.drop 4).length ≤ _ ∧
      some (Rootfs.ParsedWhiteout.remove _ ((parentAndBasename path).2.drop 4)) = _
  rw [hdrop]
  exact ⟨hname, hfits, rfl⟩

lemma Contained.parent (h : Contained path) (hne : (parentAndBasename path).1 ≠ []) :
    Contained (parentAndBasename path).1 := by
  obtain ⟨-, hnil⟩ | hpath := parentAndBasename_eq path
  · exact absurd hnil hne
  · intro c hc
    apply h c
    rw [hpath, Rootfs.components, List.splitOn_append_cons_self]
    exact List.mem_append_left _ hc

lemma parent_length (path : Bytes) : (parentAndBasename path).1.length ≤ path.length := by
  obtain ⟨-, hnil⟩ | hpath := parentAndBasename_eq path
  · simp [hnil]
  · have hwhole := congrArg List.length hpath
    rw [List.length_append] at hwhole
    omega

lemma zero_mem_parent (h : 0 ∈ (parentAndBasename path).1) : 0 ∈ path := by
  obtain ⟨-, hnil⟩ | hpath := parentAndBasename_eq path
  · rw [hnil] at h
    cases h
  · rw [hpath]
    exact List.mem_append_left _ h

lemma Member.Valid.identity (h : m.Valid Rootfs.layerStream) : entryIdentity m.entry = .ok () := by
  obtain ⟨hcanonical, hsuits⟩ := h
  have hlength : m.path.length ≤ 240 := (length_le_headerPath _ _).trans hcanonical.pathLength
  have hpath : ∀ label, Rootfs.validateNormalizedRootfsPath m.path label = .ok () :=
    fun _ => hcanonical.contained.normalized hlength hcanonical.pathZero
  have hwhiteout := hcanonical.whiteout
  have hlinkLength := hcanonical.linkLength
  have hlinkZero := hcanonical.linkZero
  have hpayload := payload_lt hcanonical
  obtain ⟨path, content⟩ := m
  cases content with
  | regularFile executable payload =>
    change Rootfs.validateStagedOperationIdentity path (UInt64.ofNat (if executable then 0o555 else 0o444)).toUInt32
      (UInt64.ofNat payload.length) (.regular 0) = .ok ()
    rw [Intact.regular_identity]
    refine ⟨hpath _, parse_plain hwhiteout, ?_, ?_⟩
    · cases executable <;> rfl
    · change payload.length < 2 ^ 64 at hpayload
      rw [UInt64.toNat_ofNat', Nat.mod_eq_of_lt hpayload]
      exact hsuits
  | directory =>
    simp only [Member.entry, Content.kind, entryIdentity, Rootfs.validateStagedOperationIdentity, bind_ok, exists_unit,
      report_ok, ensure_ok]
    exact ⟨hpath _, none, parse_plain hwhiteout, rfl, rfl, rfl⟩
  | symbolicLink target =>
    simp only [Member.entry, Content.kind, entryIdentity, Rootfs.validateStagedOperationIdentity, bind_ok, exists_unit,
      report_ok, ensure_ok]
    exact ⟨hpath _, none, parse_plain hwhiteout, rfl, rfl, rfl, symlink_agree hsuits hlinkLength hlinkZero⟩
  | whiteout operation =>
    cases operation with
    | remove target =>
      have hother : (parentAndBasename path).2 ≠ Rootfs.opaqueMarker := hsuits
      have htarget : whiteoutTarget path = .ok (some target) := hwhiteout
      obtain ⟨hmarker, -⟩ | ⟨-, name, hname, hbase, -, rfl⟩ := whiteoutTarget_some.mp htarget
      · exact absurd hmarker hother
      · simp only [Member.entry, Content.kind, entryIdentity, Rootfs.validateStagedOperationIdentity, bind_ok,
          exists_unit, report_ok, ensure_ok]
        refine ⟨hpath _, _, parse_remove hbase hname hother hlength, rfl, rfl, ?_⟩
        rw [Rootfs.parsedWhiteoutRemoveMatches, joinParts]
        split_ifs with hnil <;> simp
    | opaqueDirectory subject =>
      have hmarker : (parentAndBasename path).2 = Rootfs.opaqueMarker := hsuits
      have hsubject : whiteoutTarget path = .ok (some subject) := hwhiteout
      obtain ⟨-, rfl⟩ | ⟨hother, -⟩ := whiteoutTarget_some.mp hsubject
      · simp only [Member.entry, Content.kind, entryIdentity, Rootfs.validateStagedOperationIdentity, bind_ok,
          exists_unit, report_ok, ensure_ok]
        refine ⟨hpath _, _, parse_opaque hmarker, rfl, rfl, ?_⟩
        split_ifs with hnil
        · exact report_ok.mpr (ensure_ok.mpr rfl)
        · have hparent : Contained (parentAndBasename path).1 := hcanonical.contained.parent hnil
          have hparentLength : (parentAndBasename path).1.length ≤ 240 := (parent_length _).trans hlength
          have hparentZero : 0 ∉ (parentAndBasename path).1 := fun hmem => hcanonical.pathZero (zero_mem_parent hmem)
          exact bind_ok.mpr ⟨(), hparent.normalized hparentLength hparentZero, report_ok.mpr (ensure_ok.mpr rfl)⟩
      · exact absurd hmarker hother

lemma run_identity {members : List Member} (h : ∀ m ∈ members, m.Valid Rootfs.layerStream) :
    identitySink.run () (members.flatMap Member.events) = .ok () := by
  induction members with
  | nil => rfl
  | cons m members ih =>
    obtain ⟨hm, hmembers⟩ := List.forall_mem_cons.mp h
    have hchunks : ∀ pieces : List Bytes, identitySink.run () (pieces.map .chunk) = .ok () := by
      intro pieces
      induction pieces with
      | nil => rfl
      | cons piece pieces ih => exact ih
    exact run_cons.mpr ⟨(), run_member.mpr ⟨(), hm.identity, (), hchunks _, rfl⟩, ih hmembers⟩

/-- The parser of a layer and the staging check entries separately, and whatever the parser accepts the staging's check
accepts: a sink that makes that check never stops an inspection. -/
theorem staging_accepts_parsed_entries (sha256 : Bytes → Digest) (source rest : Bytes) (inspection : LayerInspection) :
    inspectExactUstar sha256 Rootfs.layerStream identitySink () source = .ok (inspection, (), rest) ↔
      inspectExactUstar sha256 Rootfs.layerStream .absent () source = .ok (inspection, (), rest) := by
  rw [inspectExactUstar_ok, inspectExactUstar_ok]
  apply exists_congr
  intro members
  apply and_congr_right
  intro hvalid
  rw [run_identity hvalid.each, run_absent]

end Identity

end Eip0045.Layer
