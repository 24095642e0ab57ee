import Mathlib
import Eip0045.Layer.Ustar

/-! The archives that the parser accepts: one archive for each list of members, and nothing else. -/

namespace Eip0045.Layer

open Bytes Checked
open Rootfs (slash Result ReplayEntry ReplayEntryKind ReplayWhiteout ChangesetTranscript OciLayerStreamLimits
  ioBufferBytes opaqueMarker Overlap)

section Members

inductive Content
  | regularFile (executable : Bool) (payload : Bytes)
  | directory
  | symbolicLink (target : Bytes)
  | whiteout (operation : ReplayWhiteout)
  deriving DecidableEq

structure Member where
  path : Bytes
  content : Content
  deriving DecidableEq

namespace Content

def typeflag : Content → UInt8
  | .regularFile .. | .whiteout _ => regularType
  | .directory => directoryType
  | .symbolicLink _ => symbolicLinkType

def mode : Content → ℕ
  | .regularFile executable _ => if executable then 0o555 else 0o444
  | .directory => 0o555
  | .symbolicLink _ => 0o777
  | .whiteout _ => 0

def payload : Content → Bytes
  | .regularFile _ payload => payload
  | .directory | .symbolicLink _ | .whiteout _ => []

def linkname : Content → Bytes
  | .symbolicLink target => target
  | .regularFile .. | .directory | .whiteout _ => []

def subject : Content → Option Bytes
  | .whiteout (.remove target) => some target
  | .whiteout (.opaqueDirectory path) => some path
  | .regularFile .. | .directory | .symbolicLink _ => none

def kind (content : Content) : ReplayEntryKind :=
  let mode := UInt64.ofNat content.mode
  let byteLength := UInt64.ofNat content.payload.length
  match content with
  | .regularFile .. => .regularFile mode byteLength
  | .directory => .directory mode byteLength
  | .symbolicLink target => .symbolicLink mode byteLength target
  | .whiteout operation => .whiteout mode byteLength operation

def isRegular : Content → Bool
  | .regularFile .. => true
  | .directory | .symbolicLink _ | .whiteout _ => false

def isDirectory : Content → Bool
  | .directory => true
  | .regularFile .. | .symbolicLink _ | .whiteout _ => false

def isSymbolicLink : Content → Bool
  | .symbolicLink _ => true
  | .regularFile .. | .directory | .whiteout _ => false

def isWhiteout : Content → Bool
  | .whiteout _ => true
  | .regularFile .. | .directory | .symbolicLink _ => false

end Content

namespace Member

variable (m : Member)

def parsed : ParsedUstarHeader where
  path := m.path
  typeflag := m.content.typeflag
  mode := m.content.mode
  payloadBytes := m.content.payload.length
  linkname := m.content.linkname
  whiteoutTarget := m.content.subject

def entry : ReplayEntry := ⟨m.path, m.content.kind⟩

/-- The marker of an opaque directory hides what lies under its directory, any other marker its namesake. -/
def marks : ReplayWhiteout → Prop
  | .opaqueDirectory _ => (parentAndBasename m.path).2 = opaqueMarker
  | .remove _ => (parentAndBasename m.path).2 ≠ opaqueMarker

/-- What a member's content asks for beside what its header can carry. -/
def Suits (limits : OciLayerStreamLimits) : Prop :=
  match m.content with
  | .regularFile _ payload => payload.length ≤ limits.maximumRegularFilePayloadBytes
  | .directory => True
  | .symbolicLink target => validateSymlinkTarget m.path target = .ok ()
  | .whiteout operation => m.marks operation

structure Valid (limits : OciLayerStreamLimits) : Prop where
  canonical : m.parsed.Canonical
  suits : m.Suits limits

def padding : ℕ := (ustarBlockBytes - m.content.payload.length % ustarBlockBytes) % ustarBlockBytes

def block : Bytes := m.parsed.header.encode ++ (m.content.payload ++ List.replicate m.padding 0)

def transcript : Bytes := ChangesetTranscript.entryBytes m.entry ++ m.content.payload ++ [0xff]

end Member

/-- The members of a layer, and behind them two blocks of zeros. -/
def archive (members : List Member) : Bytes := members.flatMap Member.block ++ List.replicate 1024 0

def transcribed (members : List Member) : Bytes := Rootfs.changesetTranscriptDomain ++ members.flatMap Member.transcript

def subjects (members : List Member) : List Bytes := members.filterMap fun m => m.content.subject

def regularBytes (members : List Member) : ℕ := (members.map fun m => m.content.payload.length).sum

def counted (members : List Member) : LayerCounters where
  entryCount := members.length
  regularFileCount := members.countP fun m => m.content.isRegular
  directoryCount := members.countP fun m => m.content.isDirectory
  symbolicLinkCount := members.countP fun m => m.content.isSymbolicLink
  whiteoutCount := members.countP fun m => m.content.isWhiteout
  regularFileBytes := regularBytes members

structure ValidLayer (limits : OciLayerStreamLimits) (members : List Member) : Prop where
  each : ∀ m ∈ members, m.Valid limits
  ordered : members.Pairwise fun m n => compare m.path n.path = .lt
  apart : (subjects members).Pairwise fun p q => ¬Overlap p q
  count : members.length ≤ limits.maximumTarEntries
  bytes : regularBytes members ≤ limits.maximumUncompressedTarBytes

end Members

section Validation

variable {limits : OciLayerStreamLimits} {m : Member} {counters counters' : LayerCounters}
  {targets targets' : SortedMap Bytes Unit}

def LayerCounters.add (counters : LayerCounters) (content : Content) : LayerCounters where
  entryCount := counters.entryCount + 1
  regularFileCount := counters.regularFileCount + content.isRegular.toNat
  directoryCount := counters.directoryCount + content.isDirectory.toNat
  symbolicLinkCount := counters.symbolicLinkCount + content.isSymbolicLink.toNat
  whiteoutCount := counters.whiteoutCount + content.isWhiteout.toNat
  regularFileBytes := counters.regularFileBytes + content.payload.length

/-- No counter of a kind is ahead of the counter of all entries, and the bytes are within their limit. -/
structure LayerCounters.Bounded (limits : OciLayerStreamLimits) (counters : LayerCounters) : Prop where
  regular : counters.regularFileCount ≤ counters.entryCount
  directory : counters.directoryCount ≤ counters.entryCount
  symbolicLink : counters.symbolicLinkCount ≤ counters.entryCount
  whiteout : counters.whiteoutCount ≤ counters.entryCount
  bytes : counters.regularFileBytes ≤ limits.maximumUncompressedTarBytes

/-- Limits that machine words of 64 bits hold. -/
structure Words (limits : OciLayerStreamLimits) : Prop where
  entries : limits.maximumTarEntries < 2 ^ 64
  bytes : limits.maximumUncompressedTarBytes < 2 ^ 64

lemma layerStream_words : Words Rootfs.layerStream := ⟨by decide, by decide⟩

/-- What the validation of an entry comes down to for the header of a member. -/
structure Fits (limits : OciLayerStreamLimits) (counters : LayerCounters) (targets : SortedMap Bytes Unit) (m : Member) :
    Prop where
  entries : counters.entryCount + 1 ≤ limits.maximumTarEntries
  bytes : counters.regularFileBytes + m.content.payload.length ≤ limits.maximumUncompressedTarBytes
  apart : ∀ subject ∈ m.content.subject, ∀ other, targets[other]? = some () → ¬Overlap other subject

def hide (targets : SortedMap Bytes Unit) (content : Content) : SortedMap Bytes Unit :=
  match content.subject with
  | some subject => targets.insert subject ()
  | none => targets

lemma addEntry_ok (hl : Words limits) : counters.addEntry limits = .ok counters' ↔
    counters.entryCount + 1 ≤ limits.maximumTarEntries ∧
      counters' = { counters with entryCount := counters.entryCount + 1 } := by
  simp only [LayerCounters.addEntry, bind_ok, OciLayerStreamLimits.checkedAddTarEntries, Rootfs.checkedSum_ok hl.entries,
    pure_ok]
  constructor
  · intro h
    obtain ⟨_, ⟨hle, rfl⟩, rfl⟩ := h
    exact ⟨hle, rfl⟩
  · intro h
    obtain ⟨hle, rfl⟩ := h
    exact ⟨_, ⟨hle, rfl⟩, rfl⟩

lemma addRegular_ok {byteLength : ℕ} (hl : Words limits) (hcount : counters.regularFileCount + 1 < 2 ^ 64) :
    counters.addRegular limits byteLength = .ok counters' ↔ byteLength ≤ limits.maximumRegularFilePayloadBytes ∧
      counters.regularFileBytes + byteLength ≤ limits.maximumUncompressedTarBytes ∧
      counters' = { counters with
        regularFileCount := counters.regularFileCount + 1
        regularFileBytes := counters.regularFileBytes + byteLength } := by
  have hbytes := hl.bytes
  simp only [LayerCounters.addRegular, bind_ok, exists_unit, OciLayerStreamLimits.validateRegularFilePayloadBytes,
    Rootfs.validateCeiling_ok, report_ok, context_ok, checkedAdd_eq_some, ensure_ok, pure_ok]
  constructor
  · intro h
    obtain ⟨hle, _, ⟨-, rfl⟩, _, ⟨-, rfl⟩, hbound, rfl⟩ := h
    exact ⟨hle, hbound, rfl⟩
  · intro h
    obtain ⟨hle, hbound, rfl⟩ := h
    exact ⟨hle, _, ⟨hcount, rfl⟩, _, ⟨by omega, rfl⟩, hbound, rfl⟩

lemma count_ok {label : String} {count count' : ℕ} (hcount : count + 1 < 2 ^ 64) :
    report (context label (checkedAdd count 1)) = .ok count' ↔ count' = count + 1 := by
  rw [report_ok, context_ok, checkedAdd_eq_some]
  omega

variable {path : Bytes}

lemma validate_regularFile {executable : Bool} {payload : Bytes} (hl : Words limits) (hb : counters.Bounded limits) :
    validateAndCountUstarEntry limits (Member.parsed ⟨path, .regularFile executable payload⟩) counters targets =
        .ok (counters', targets') ↔
      payload.length ≤ limits.maximumRegularFilePayloadBytes ∧ counters.entryCount + 1 ≤ limits.maximumTarEntries ∧
        counters.regularFileBytes + payload.length ≤ limits.maximumUncompressedTarBytes ∧
        counters' = counters.add (.regularFile executable payload) ∧ targets' = targets := by
  have hcount : counters.entryCount + 1 ≤ limits.maximumTarEntries → counters.regularFileCount + 1 < 2 ^ 64 := by
    have := hl.entries
    have := hb.regular
    omega
  have hmode : (if executable then 0o555 else 0o444) = 0o444 ∨ (if executable then 0o555 else 0o444) = 0o555 := by
    cases executable <;> simp
  simp only [validateAndCountUstarEntry, Member.parsed, Content.subject, Content.typeflag, Content.mode,
    Content.linkname, Content.payload, if_true, bind_ok, exists_unit, report_ok, ensure_ok, addEntry_ok hl, hmode,
    true_and, pure_ok, Prod.mk.injEq]
  constructor
  · intro h
    obtain ⟨_, ⟨hle, rfl⟩, _, hadd, rfl, rfl⟩ := h
    obtain ⟨hpayload, hbytes, rfl⟩ := (addRegular_ok hl (by exact hcount hle)).mp hadd
    exact ⟨hpayload, hle, hbytes, rfl, rfl⟩
  · intro h
    obtain ⟨hpayload, hle, hbytes, rfl, rfl⟩ := h
    exact ⟨_, ⟨hle, rfl⟩, _, (addRegular_ok hl (by exact hcount hle)).mpr ⟨hpayload, hbytes, rfl⟩, rfl, rfl⟩

lemma validate_directory (hl : Words limits) (hb : counters.Bounded limits) :
    validateAndCountUstarEntry limits (Member.parsed ⟨path, .directory⟩) counters targets = .ok (counters', targets') ↔
      counters.entryCount + 1 ≤ limits.maximumTarEntries ∧ counters' = counters.add .directory ∧
        targets' = targets := by
  have hcount : counters.entryCount + 1 ≤ limits.maximumTarEntries → counters.directoryCount + 1 < 2 ^ 64 := by
    have := hl.entries
    have := hb.directory
    omega
  have htype : directoryType ≠ regularType := by decide
  simp only [validateAndCountUstarEntry, Member.parsed, Content.subject, Content.typeflag, Content.mode,
    Content.linkname, Content.payload, List.length_nil, if_true, if_neg htype, bind_ok, exists_unit, report_ok,
    ensure_ok, addEntry_ok hl, true_and, pure_ok, Prod.mk.injEq, LayerCounters.addDirectory]
  constructor
  · intro h
    obtain ⟨_, ⟨hle, rfl⟩, _, ⟨_, hadd, rfl⟩, rfl, rfl⟩ := h
    obtain rfl := (count_ok (hcount hle)).mp (report_ok.mpr hadd)
    exact ⟨hle, rfl, rfl⟩
  · intro h
    obtain ⟨hle, rfl, rfl⟩ := h
    exact ⟨_, ⟨hle, rfl⟩, _, ⟨_, report_ok.mp ((count_ok (hcount hle)).mpr rfl), rfl⟩, rfl, rfl⟩

lemma validate_symbolicLink {target : Bytes} (hl : Words limits) (hb : counters.Bounded limits) :
    validateAndCountUstarEntry limits (Member.parsed ⟨path, .symbolicLink target⟩) counters targets =
        .ok (counters', targets') ↔
      validateSymlinkTarget path target = .ok () ∧ counters.entryCount + 1 ≤ limits.maximumTarEntries ∧
        counters' = counters.add (.symbolicLink target) ∧ targets' = targets := by
  have hcount : counters.entryCount + 1 ≤ limits.maximumTarEntries → counters.symbolicLinkCount + 1 < 2 ^ 64 := by
    have := hl.entries
    have := hb.symbolicLink
    omega
  have hregular : symbolicLinkType ≠ regularType := by decide
  have hdirectory : symbolicLinkType ≠ directoryType := by decide
  simp only [validateAndCountUstarEntry, Member.parsed, Content.subject, Content.typeflag, Content.mode,
    Content.linkname, Content.payload, List.length_nil, if_true, if_neg hregular, if_neg hdirectory, bind_ok,
    exists_unit, report_ok, ensure_ok, addEntry_ok hl, true_and, pure_ok, Prod.mk.injEq, LayerCounters.addSymbolicLink]
  constructor
  · intro h
    obtain ⟨_, ⟨hle, rfl⟩, htarget, _, ⟨_, hadd, rfl⟩, rfl, rfl⟩ := h
    obtain rfl := (count_ok (hcount hle)).mp (report_ok.mpr hadd)
    exact ⟨htarget, hle, rfl, rfl⟩
  · intro h
    obtain ⟨htarget, hle, rfl, rfl⟩ := h
    exact ⟨_, ⟨hle, rfl⟩, htarget, _, ⟨_, report_ok.mp ((count_ok (hcount hle)).mpr rfl), rfl⟩, rfl, rfl⟩

lemma validate_whiteout {operation : ReplayWhiteout} {subject : Bytes} (hl : Words limits) (hb : counters.Bounded limits)
    (hsubject : Content.subject (.whiteout operation) = some subject) :
    validateAndCountUstarEntry limits (Member.parsed ⟨path, .whiteout operation⟩) counters targets =
        .ok (counters', targets') ↔
      counters.entryCount + 1 ≤ limits.maximumTarEntries ∧
        (∀ other, targets[other]? = some () → ¬Overlap other subject) ∧
        counters' = counters.add (.whiteout operation) ∧ targets' = targets.insert subject () := by
  have hcount : counters.entryCount + 1 ≤ limits.maximumTarEntries → counters.whiteoutCount + 1 < 2 ^ 64 := by
    have := hl.entries
    have := hb.whiteout
    omega
  simp only [validateAndCountUstarEntry, Member.parsed, hsubject, Content.typeflag, Content.mode,
    Content.linkname, Content.payload, List.length_nil, bind_ok, exists_unit, report_ok,
    ensure_ok, addEntry_ok hl, true_and, pure_ok, Prod.mk.injEq, LayerCounters.addWhiteout,
    insertNonoverlappingWhiteout_eq, Rootfs.insertNonoverlappingWhiteout_ok]
  constructor
  · intro h
    obtain ⟨_, ⟨hle, rfl⟩, _, ⟨hapart, rfl⟩, _, ⟨_, hadd, rfl⟩, rfl, rfl⟩ := h
    obtain rfl := (count_ok (hcount hle)).mp (report_ok.mpr hadd)
    exact ⟨hle, hapart, rfl, rfl⟩
  · intro h
    obtain ⟨hle, hapart, rfl, rfl⟩ := h
    exact ⟨_, ⟨hle, rfl⟩, _, ⟨hapart, rfl⟩, _, ⟨_, report_ok.mp ((count_ok (hcount hle)).mpr rfl), rfl⟩, rfl, rfl⟩

lemma validate_member (hl : Words limits) (hb : counters.Bounded limits)
    (hmarks : ∀ operation, m.content = .whiteout operation → m.marks operation) :
    validateAndCountUstarEntry limits m.parsed counters targets = .ok (counters', targets') ↔
      m.Suits limits ∧ Fits limits counters targets m ∧ counters' = counters.add m.content ∧
        targets' = hide targets m.content := by
  have hbytes := hb.bytes
  obtain ⟨path, content⟩ := m
  cases content with
  | regularFile executable payload =>
    rw [validate_regularFile hl hb]
    constructor
    · intro h
      obtain ⟨hpayload, hle, hsum, hcounters, htargets⟩ := h
      exact ⟨hpayload, ⟨hle, hsum, fun _ hnone => (by cases hnone)⟩, hcounters, htargets⟩
    · intro h
      obtain ⟨hpayload, hfits, hcounters, htargets⟩ := h
      exact ⟨hpayload, hfits.entries, hfits.bytes, hcounters, htargets⟩
  | directory =>
    rw [validate_directory hl hb]
    constructor
    · intro h
      obtain ⟨hle, hcounters, htargets⟩ := h
      exact ⟨trivial, ⟨hle, hbytes, fun _ hnone => (by cases hnone)⟩, hcounters, htargets⟩
    · intro h
      obtain ⟨-, hfits, hcounters, htargets⟩ := h
      exact ⟨hfits.entries, hcounters, htargets⟩
  | symbolicLink target =>
    rw [validate_symbolicLink hl hb]
    constructor
    · intro h
      obtain ⟨htarget, hle, hcounters, htargets⟩ := h
      exact ⟨htarget, ⟨hle, hbytes, fun _ hnone => (by cases hnone)⟩, hcounters, htargets⟩
    · intro h
      obtain ⟨htarget, hfits, hcounters, htargets⟩ := h
      exact ⟨htarget, hfits.entries, hcounters, htargets⟩
  | whiteout operation =>
    obtain ⟨subject, hsubject⟩ : ∃ subject, Content.subject (.whiteout operation) = some subject := by
      cases operation <;> exact ⟨_, rfl⟩
    have hhide : hide targets (.whiteout operation) = targets.insert subject () := by rw [hide, hsubject]
    rw [validate_whiteout hl hb hsubject, hhide]
    constructor
    · intro h
      obtain ⟨hle, hapart, hcounters, htargets⟩ := h
      refine ⟨hmarks operation rfl, ⟨hle, hbytes, ?_⟩, hcounters, htargets⟩
      intro _ hmem
      obtain rfl := Option.some.inj (hsubject.symm.trans hmem)
      exact hapart
    · intro h
      obtain ⟨-, hfits, hcounters, htargets⟩ := h
      exact ⟨hfits.entries, hfits.apart subject hsubject, hcounters, htargets⟩

lemma member_of_validated {parsed : ParsedUstarHeader} {payload : Bytes}
    (h : validateAndCountUstarEntry limits parsed counters targets = .ok (counters', targets'))
    (hlength : payload.length = parsed.payloadBytes) :
    ∃ m : Member, m.parsed = parsed ∧ m.content.payload = payload ∧
      ∀ operation, m.content = .whiteout operation → m.marks operation := by
  obtain ⟨path, typeflag, mode, payloadBytes, linkname, whiteoutTarget⟩ := parsed
  obtain rfl := hlength
  simp only [validateAndCountUstarEntry, bind_ok] at h
  obtain ⟨_, -, h⟩ := h
  cases whiteoutTarget with
  | some target =>
    simp only [bind_ok, exists_unit, report_ok, ensure_ok, List.length_eq_zero_iff] at h
    obtain ⟨rfl, rfl, rfl, rfl, -⟩ := h
    by_cases hopaque : (parentAndBasename path).2 = opaqueMarker
    · refine ⟨⟨path, .whiteout (.opaqueDirectory target)⟩, rfl, rfl, ?_⟩
      intro operation heq
      cases heq
      exact hopaque
    · refine ⟨⟨path, .whiteout (.remove target)⟩, rfl, rfl, ?_⟩
      intro operation heq
      cases heq
      exact hopaque
  | none =>
    simp only at h
    split_ifs at h with hregular hdirectory hlink
    · simp only [bind_ok, exists_unit, report_ok, ensure_ok] at h
      obtain ⟨hmode, rfl, -⟩ := h
      subst hregular
      obtain rfl | rfl := hmode
      · exact ⟨⟨path, .regularFile false payload⟩, rfl, rfl, fun _ heq => (by cases heq)⟩
      · exact ⟨⟨path, .regularFile true payload⟩, rfl, rfl, fun _ heq => (by cases heq)⟩
    · simp only [bind_ok, exists_unit, report_ok, ensure_ok, List.length_eq_zero_iff] at h
      obtain ⟨rfl, rfl, rfl, -⟩ := h
      subst hdirectory
      exact ⟨⟨path, .directory⟩, rfl, rfl, fun _ heq => (by cases heq)⟩
    · simp only [bind_ok, exists_unit, report_ok, ensure_ok, List.length_eq_zero_iff] at h
      obtain ⟨rfl, rfl, -⟩ := h
      subst hlink
      exact ⟨⟨path, .symbolicLink linkname⟩, rfl, rfl, fun _ heq => (by cases heq)⟩
    · cases h

lemma replayEntry_member (hmarks : ∀ operation, m.content = .whiteout operation → m.marks operation) :
    replayEntry m.parsed = .ok m.entry := by
  obtain ⟨path, content⟩ := m
  cases content with
  | regularFile executable payload => rfl
  | directory => rfl
  | symbolicLink target => rfl
  | whiteout operation =>
    have hmark := hmarks operation rfl
    cases operation with
    | remove target =>
      have hother : (parentAndBasename path).2 ≠ opaqueMarker := hmark
      simp [replayEntry, Member.parsed, Content.subject, Member.entry, Content.kind, hother, pure, Except.pure]
    | opaqueDirectory subject =>
      have hopaque : (parentAndBasename path).2 = opaqueMarker := hmark
      simp [replayEntry, Member.parsed, Content.subject, Member.entry, Content.kind, hopaque, pure, Except.pure]

end Validation

section Payloads

def chunks (payload : Bytes) : List Bytes :=
  if payload = [] then [] else payload.take ioBufferBytes :: chunks (payload.drop ioBufferBytes)
termination_by payload.length
decreasing_by
  have : 0 < payload.length := List.length_pos_of_ne_nil (by assumption)
  have : 0 < ioBufferBytes := by decide
  rw [List.length_drop]
  omega

lemma chunks_nil : chunks [] = [] := by rw [chunks, if_pos rfl]

lemma chunks_cons {payload : Bytes} (h : payload ≠ []) :
    chunks payload = payload.take ioBufferBytes :: chunks (payload.drop ioBufferBytes) := by
  rw [chunks, if_neg h]

lemma chunks_append {chunk payload : Bytes} (hne : chunk ≠ [])
    (h : chunk.length = min ioBufferBytes (chunk.length + payload.length)) :
    chunks (chunk ++ payload) = chunk :: chunks payload := by
  rw [chunks_cons (List.append_ne_nil_of_left_ne_nil hne _)]
  by_cases hfull : chunk.length = ioBufferBytes
  · rw [List.take_left' hfull, List.drop_left' hfull]
  · obtain rfl : payload = [] := List.eq_nil_of_length_eq_zero (by omega)
    rw [List.append_nil, List.take_of_length_le (by omega), List.drop_of_length_le (by omega)]

inductive ReplayEvent
  | beginEntry (entry : ReplayEntry)
  | chunk (bytes : Bytes)
  | finishEntry
  deriving DecidableEq

variable {σ : Type}

def ReplaySink.step (sink : ReplaySink σ) (s : σ) : ReplayEvent → Result σ
  | .beginEntry entry => sink.beginEntry entry s
  | .chunk bytes => sink.writeRegularFileChunk bytes s
  | .finishEntry => sink.finishEntry s

def ReplaySink.run (sink : ReplaySink σ) (s : σ) (events : List ReplayEvent) : Result σ := events.foldlM sink.step s

def Member.events (m : Member) : List ReplayEvent :=
  .beginEntry m.entry :: ((chunks m.content.payload).map .chunk ++ [.finishEntry])

variable {sink : ReplaySink σ} {transcript transcript' : ChangesetTranscript} {s s' : σ} {source rest : Bytes}

lemma ReplaySink.run_append {events events' : List ReplayEvent} :
    sink.run s (events ++ events') = .ok s' ↔ ∃ t, sink.run s events = .ok t ∧ sink.run t events' = .ok s' := by
  rw [ReplaySink.run, List.foldlM_append, bind_ok]
  rfl

lemma readExact_ok {length : ℕ} {error : String} {result : Bytes × Bytes} :
    readExact source length error = .ok result ↔ result.1.length = length ∧ source = result.1 ++ result.2 := by
  rw [readExact]
  obtain ⟨taken, left⟩ := result
  split_ifs with hle
  · rw [Except.ok.injEq, Prod.mk.injEq]
    constructor
    · rintro ⟨rfl, rfl⟩
      exact ⟨List.length_take_of_le hle, (List.take_append_drop _ _).symm⟩
    · rintro ⟨rfl, rfl⟩
      exact ⟨List.take_left, List.drop_left⟩
  · constructor
    · intro h
      cases h
    · rintro ⟨rfl, rfl⟩
      simp at hle

/-- A transcript that a regular file's payload is being written to. -/
def writing (bytes : Bytes) (remaining : ℕ) : ChangesetTranscript := ⟨bytes, true, some remaining⟩

lemma writeRegularFileChunk_ok {bytes chunk : Bytes} {remaining : ℕ} :
    (writing bytes remaining).writeRegularFileChunk chunk = .ok transcript' ↔ chunk ≠ [] ∧
      chunk.length ≤ ioBufferBytes ∧ chunk.length ≤ remaining ∧
      transcript' = writing (bytes ++ chunk) (remaining - chunk.length) := by
  simp only [ChangesetTranscript.writeRegularFileChunk, writing, bind_ok, exists_unit, report_ok, ensure_ok, context_ok,
    Option.some.injEq, exists_eq_left', true_and, pure_ok, and_assoc, eq_comm (a := transcript')]

lemma consumePayload_ok {bytes : Bytes} {n : ℕ} :
    consumePayload sink n (writing bytes n) s source = .ok (transcript', s', rest) ↔ ∃ payload : Bytes,
      payload.length = n ∧ source = payload ++ rest ∧ transcript' = writing (bytes ++ payload) 0 ∧
        sink.run s ((chunks payload).map .chunk) = .ok s' := by
  induction n using Nat.strong_induction_on generalizing bytes s source with
  | _ n ih =>
    rw [consumePayload]
    split_ifs with hzero
    · subst hzero
      rw [pure_ok, Prod.mk.injEq, Prod.mk.injEq]
      constructor
      · rintro ⟨rfl, rfl, rfl⟩
        refine ⟨[], rfl, rfl, by rw [List.append_nil], ?_⟩
        rw [chunks_nil]
        rfl
      · rintro ⟨payload, hlength, rfl, rfl, hrun⟩
        obtain rfl := List.length_eq_zero_iff.mp hlength
        rw [chunks_nil] at hrun
        cases hrun
        exact ⟨by rw [List.append_nil], rfl, rfl⟩
    · have hbuffer : 0 < ioBufferBytes := by decide
      have hsmaller : n - min ioBufferBytes n < n := by omega
      simp only [bind_ok, readExact_ok, Prod.exists, mapFault_ok, writeRegularFileChunk_ok]
      constructor
      · intro h
        obtain ⟨chunk, source, ⟨hchunk, rfl⟩, _, ⟨hne, -, -, rfl⟩, t, hwrite, hrest⟩ := h
        rw [hchunk, ih _ hsmaller] at hrest
        obtain ⟨payload, hlength, rfl, rfl, hrun⟩ := hrest
        refine ⟨chunk ++ payload, ?_, (List.append_assoc _ _ _).symm, by rw [List.append_assoc], ?_⟩
        · rw [List.length_append]
          omega
        · rw [chunks_append hne (by omega)]
          exact bind_ok.mpr ⟨t, hwrite, hrun⟩
      · intro h
        obtain ⟨payload, hlength, rfl, rfl, hrun⟩ := h
        have hnonempty : payload ≠ [] := List.ne_nil_of_length_pos (by omega)
        rw [chunks_cons hnonempty] at hrun
        obtain ⟨t, hwrite, hrun⟩ := bind_ok.mp hrun
        have htaken : (payload.take ioBufferBytes).length = min ioBufferBytes n := by rw [List.length_take, hlength]
        refine ⟨payload.take ioBufferBytes, payload.drop ioBufferBytes ++ rest, ⟨htaken, ?_⟩, _,
          ⟨List.ne_nil_of_length_pos (by omega), by omega, by omega, rfl⟩, t, hwrite, ?_⟩
        · rw [← List.append_assoc, List.take_append_drop]
        · rw [htaken, ih _ hsmaller]
          refine ⟨payload.drop ioBufferBytes, ?_, rfl, ?_, hrun⟩
          · rw [List.length_drop]
            omega
          · rw [List.append_assoc, List.take_append_drop]

def paddingOf (n : ℕ) : ℕ := (ustarBlockBytes - n % ustarBlockBytes) % ustarBlockBytes

lemma consumePayloadAndPadding_ok {bytes : Bytes} {n : ℕ} {owed : Option ℕ} (howed : owed = some n ∨ owed = none ∧ n = 0) :
    consumePayloadAndPadding sink n ⟨bytes, true, owed⟩ s source = .ok (transcript', s', rest) ↔ ∃ payload : Bytes,
      payload.length = n ∧ source = payload ++ (List.replicate (paddingOf n) 0 ++ rest) ∧
        transcript' = ⟨bytes ++ payload, true, owed.map fun _ => 0⟩ ∧
        sink.run s ((chunks payload).map .chunk) = .ok s' := by
  have hpayload : ∀ t t' left, consumePayload sink n ⟨bytes, true, owed⟩ s source = .ok (t, t', left) ↔ ∃ payload : Bytes,
      payload.length = n ∧ source = payload ++ left ∧ t = ⟨bytes ++ payload, true, owed.map fun _ => 0⟩ ∧
        sink.run s ((chunks payload).map .chunk) = .ok t' := by
    intro t t' left
    obtain rfl | ⟨rfl, rfl⟩ := howed
    · exact consumePayload_ok
    · rw [consumePayload, if_pos rfl, pure_ok, Prod.mk.injEq, Prod.mk.injEq]
      constructor
      · rintro ⟨rfl, rfl, rfl⟩
        refine ⟨[], rfl, rfl, by rw [List.append_nil]; rfl, ?_⟩
        rw [chunks_nil]
        rfl
      · rintro ⟨payload, hlength, rfl, rfl, hrun⟩
        obtain rfl := List.length_eq_zero_iff.mp hlength
        rw [chunks_nil] at hrun
        cases hrun
        exact ⟨by rw [List.append_nil]; rfl, rfl, rfl⟩
  simp only [consumePayloadAndPadding, bind_ok, Prod.exists, hpayload, readExact_ok, exists_unit, report_ok, ensure_ok,
    pure_ok, Prod.mk.injEq]
  constructor
  · intro h
    obtain ⟨_, _, _, ⟨payload, hlength, rfl, rfl, hrun⟩, filler, _, ⟨hfiller, rfl⟩, hzeros, rfl, rfl, rfl⟩ := h
    obtain rfl := List.eq_replicate_iff.mpr ⟨hfiller, hzeros⟩
    exact ⟨payload, hlength, rfl, rfl, hrun⟩
  · intro h
    obtain ⟨payload, hlength, rfl, rfl, hrun⟩ := h
    exact ⟨_, _, _, ⟨payload, hlength, rfl, rfl, hrun⟩, _, _, ⟨List.length_replicate, rfl⟩,
      fun _ hmem => List.eq_of_mem_replicate hmem, rfl, rfl, rfl⟩

lemma owed_member {m : Member} (hlt : m.content.payload.length < 2 ^ 64) :
    ChangesetTranscript.payloadOf m.entry = some m.content.payload.length ∨
      ChangesetTranscript.payloadOf m.entry = none ∧ m.content.payload.length = 0 := by
  obtain ⟨path, content⟩ := m
  cases content with
  | regularFile executable payload =>
    have hword : payload.length < 2 ^ 64 := hlt
    left
    change some (UInt64.ofNat payload.length).toNat = some payload.length
    rw [UInt64.toNat_ofNat', Nat.mod_eq_of_lt hword]
  | directory => exact Or.inr ⟨rfl, rfl⟩
  | symbolicLink target => exact Or.inr ⟨rfl, rfl⟩
  | whiteout operation => exact Or.inr ⟨rfl, rfl⟩

lemma beginEntry_ok {bytes : Bytes} {entry : ReplayEntry} :
    ChangesetTranscript.beginEntry ⟨bytes, false, none⟩ entry = .ok transcript' ↔
      transcript' = ⟨bytes ++ ChangesetTranscript.entryBytes entry, true, ChangesetTranscript.payloadOf entry⟩ := by
  simp only [ChangesetTranscript.beginEntry, bind_ok, exists_unit, report_ok, ensure_ok, true_and, pure_ok,
    eq_comm (a := transcript')]

lemma finishEntry_ok {bytes : Bytes} {owed : Option ℕ} :
    ChangesetTranscript.finishEntry ⟨bytes, true, owed.map fun _ => 0⟩ = .ok transcript' ↔
      transcript' = ⟨bytes ++ [0xff], false, none⟩ := by
  have hpaid : (owed.map fun _ => 0).getD 0 = 0 := by cases owed <;> rfl
  simp only [ChangesetTranscript.finishEntry, bind_ok, exists_unit, report_ok, ensure_ok, hpaid, true_and, pure_ok,
    eq_comm (a := transcript')]

end Payloads

section Steps

variable {σ : Type} {limits : OciLayerStreamLimits} {done : List Member} {m : Member}

def hiddenBy (members : List Member) : SortedMap Bytes Unit := members.foldl (fun targets m => hide targets m.content) ∅

/-- Where an inspection stands behind some members. -/
def stateAfter (members : List Member) (s : σ) : LayerState σ where
  counters := counted members
  previousPath := members.getLast?.map Member.path
  whiteoutTargets := hiddenBy members
  transcript := ⟨transcribed members, false, none⟩
  sink := s

lemma counted_snoc : counted (done ++ [m]) = (counted done).add m.content := by
  simp only [counted, LayerCounters.add, regularBytes, List.length_append, List.length_singleton, List.countP_append,
    List.countP_singleton, List.map_append, List.sum_append, List.map_cons, List.map_nil, List.sum_singleton]
  cases m.content <;> rfl

lemma counted_bounded (hbytes : regularBytes done ≤ limits.maximumUncompressedTarBytes) :
    (counted done).Bounded limits where
  regular := List.countP_le_length
  directory := List.countP_le_length
  symbolicLink := List.countP_le_length
  whiteout := List.countP_le_length
  bytes := hbytes

lemma hiddenBy_snoc : hiddenBy (done ++ [m]) = hide (hiddenBy done) m.content := by
  rw [hiddenBy, List.foldl_append]
  rfl

lemma subjects_snoc : subjects (done ++ [m]) = subjects done ++ m.content.subject.toList := by
  rw [subjects, List.filterMap_append]
  cases h : m.content.subject <;> simp [subjects, h]

lemma mem_hiddenBy {subject : Bytes} : (hiddenBy done)[subject]? = some () ↔ subject ∈ subjects done := by
  induction done using List.reverseRecOn with
  | nil => simp [hiddenBy, subjects]
  | append_singleton done m ih =>
    rw [hiddenBy_snoc, subjects_snoc, List.mem_append, hide]
    cases h : m.content.subject with
    | none => simp [ih]
    | some hidden => simp [mem_insert_subject, ih, or_comm]

lemma transcribed_snoc : transcribed (done ++ [m]) = transcribed done ++ m.transcript := by
  simp [transcribed]

lemma ordered_snoc : (done ++ [m]).Pairwise (fun a b => compare a.path b.path = .lt) ↔
    done.Pairwise (fun a b => compare a.path b.path = .lt) ∧
      ∀ previous ∈ done.getLast?.map Member.path, compare previous m.path = .lt := by
  rw [List.pairwise_append]
  simp only [List.pairwise_singleton, true_and, List.mem_singleton, forall_eq]
  apply and_congr_right
  intro hordered
  cases done using List.reverseRecOn with
  | nil => simp
  | append_singleton done last =>
    rw [List.pairwise_append] at hordered
    simp only [List.mem_append, List.mem_singleton, List.getLast?_append, List.getLast?_singleton, Option.some_or,
      Option.map_some, Option.mem_some_iff, forall_eq']
    constructor
    · intro h
      exact h last (Or.inr rfl)
    · rintro h a (ha | rfl)
      · exact Std.TransCmp.lt_trans (hordered.2.2 a ha last List.mem_cons_self) h
      · exact h

lemma ValidLayer.of_append {members : List Member} (h : ValidLayer limits (done ++ members)) : ValidLayer limits done where
  each a ha := h.each a (List.mem_append_left _ ha)
  ordered := (List.pairwise_append.mp h.ordered).1
  apart := by
    have hapart := h.apart
    rw [subjects, List.filterMap_append, List.pairwise_append] at hapart
    exact hapart.1
  count := by
    have hcount := h.count
    rw [List.length_append] at hcount
    omega
  bytes := by
    have hbytes := h.bytes
    rw [regularBytes, List.map_append, List.sum_append] at hbytes
    rw [regularBytes]
    omega

lemma validLayer_snoc : ValidLayer limits (done ++ [m]) ↔ ValidLayer limits done ∧ m.Valid limits ∧
    (∀ previous ∈ done.getLast?.map Member.path, compare previous m.path = .lt) ∧
      Fits limits (counted done) (hiddenBy done) m := by
  have hcount : (done ++ [m]).length = (counted done).entryCount + 1 := by simp [counted]
  have hbytes : regularBytes (done ++ [m]) = (counted done).regularFileBytes + m.content.payload.length := by
    simp [counted, regularBytes]
  constructor
  · intro h
    refine ⟨h.of_append, h.each m (by simp), (ordered_snoc.mp h.ordered).2, hcount ▸ h.count, hbytes ▸ h.bytes, ?_⟩
    intro subject hsubject other hother
    have hapart := h.apart
    rw [subjects_snoc, List.pairwise_append] at hapart
    exact hapart.2.2 other (mem_hiddenBy.mp hother) subject (Option.mem_toList.mpr hsubject)
  · intro h
    obtain ⟨hdone, hm, hlast, hfits⟩ := h
    refine ⟨?_, ordered_snoc.mpr ⟨hdone.ordered, hlast⟩, ?_, hcount ▸ hfits.entries, hbytes ▸ hfits.bytes⟩
    · simp only [List.forall_mem_append, List.forall_mem_singleton]
      exact ⟨hdone.each, hm⟩
    · rw [subjects_snoc, List.pairwise_append]
      refine ⟨hdone.apart, by cases m.content.subject <;> simp, ?_⟩
      intro other hother subject hsubject
      exact hfits.apart subject (Option.mem_toList.mp hsubject) other (mem_hiddenBy.mpr hother)

variable {sha256 : Bytes → Digest} {sink : ReplaySink σ} {header source rest : Bytes} {s s' : σ} {state' : LayerState σ}

lemma payload_lt (h : m.parsed.Canonical) : m.content.payload.length < 2 ^ 64 :=
  lt_trans h.payloadBytes (by decide)

lemma stateAfter_snoc : stateAfter (done ++ [m]) s = ⟨(counted done).add m.content, some m.path,
    hide (hiddenBy done) m.content, ⟨transcribed done ++ m.transcript, false, none⟩, s⟩ := by
  rw [stateAfter, counted_snoc, hiddenBy_snoc, transcribed_snoc]
  simp

lemma run_member : sink.run s m.events = .ok s' ↔ ∃ t, sink.beginEntry m.entry s = .ok t ∧
    ∃ u, sink.run t ((chunks m.content.payload).map .chunk) = .ok u ∧ sink.finishEntry u = .ok s' := by
  have hend : ∀ u, sink.run u [.finishEntry] = sink.finishEntry u := by
    intro u
    exact bind_pure (sink.finishEntry u)
  rw [Member.events, ReplaySink.run, List.foldlM_cons, bind_ok]
  apply exists_congr
  intro t
  apply and_congr_right
  intro _
  simp only [← hend]
  exact ReplaySink.run_append

lemma Member.Valid.marks (h : m.Valid limits) : ∀ operation, m.content = .whiteout operation → m.marks operation := by
  intro operation heq
  have hsuits := h.suits
  rw [Member.Suits, heq] at hsuits
  exact hsuits

lemma inspectEntry_ok (hl : Words limits) (hdone : ValidLayer limits done) (hheader : header.length = 512) :
    inspectEntry limits sink header (stateAfter done s) source = .ok (state', rest) ↔ ∃ m s',
      ValidLayer limits (done ++ [m]) ∧ header = m.parsed.header.encode ∧
        source = m.content.payload ++ (List.replicate m.padding 0 ++ rest) ∧ sink.run s m.events = .ok s' ∧
        state' = stateAfter (done ++ [m]) s' := by
  have hbounded : (counted done).Bounded limits := counted_bounded hdone.bytes
  simp only [inspectEntry, stateAfter, bind_ok, Prod.exists, parseUstarHeader_ok hheader, beginEntry_ok, mapFault_ok,
    pure_ok, Prod.mk.injEq]
  constructor
  · intro h
    obtain ⟨parsed, ⟨hcanonical, horder, hencode⟩, counters, targets, hvalidate, entry, hentry, _, rfl, s₁, hbegin,
      t, s₂, left, hconsume, t', hfinish, s₃, hend, rfl, rfl⟩ := h
    -- the header alone is that of a member with some payload, and that one's entry owes the same bytes
    have hblank : (List.replicate parsed.payloadBytes (0 : UInt8)).length = parsed.payloadBytes := List.length_replicate
    obtain ⟨blank, rfl, -, hblankMarks⟩ := member_of_validated hvalidate hblank
    obtain rfl := Except.ok.inj ((replayEntry_member hblankMarks).symm.trans hentry)
    obtain ⟨payload, hlength, rfl, rfl, hrun⟩ :=
      (consumePayloadAndPadding_ok (owed_member (payload_lt hcanonical))).mp hconsume
    obtain rfl := finishEntry_ok.mp hfinish
    obtain ⟨m, hparsed, rfl, hmarks⟩ := member_of_validated hvalidate hlength
    have hentries : m.entry = blank.entry := by
      apply Except.ok.inj
      rw [← replayEntry_member hmarks, hparsed, replayEntry_member hblankMarks]
    rw [← hparsed] at hvalidate hcanonical horder hencode
    obtain ⟨hsuits, hfits, rfl, rfl⟩ := (validate_member hl hbounded hmarks).mp hvalidate
    refine ⟨m, s₃, validLayer_snoc.mpr ⟨hdone, ⟨hcanonical, hsuits⟩, horder, hfits⟩, hencode, ?_, ?_, ?_⟩
    · rw [Member.padding, hlength]
      rfl
    · rw [run_member, hentries]
      exact ⟨s₁, hbegin, s₂, hrun, hend⟩
    · have hpath : blank.parsed.path = m.path := congrArg ParsedUstarHeader.path hparsed.symm
      change _ = stateAfter (done ++ [m]) s₃
      rw [stateAfter_snoc, ← hentries, hpath, Member.transcript]
      simp only [List.append_assoc]
  · intro h
    obtain ⟨m, s', hvalid, hencode, rfl, hrun, rfl⟩ := h
    obtain ⟨-, hm, horder, hfits⟩ := validLayer_snoc.mp hvalid
    obtain ⟨s₁, hbegin, s₂, hwrite, hend⟩ := run_member.mp hrun
    refine ⟨m.parsed, ⟨hm.canonical, horder, hencode⟩, _, _,
      (validate_member hl hbounded hm.marks).mpr ⟨hm.suits, hfits, rfl, rfl⟩, m.entry, replayEntry_member hm.marks, _, rfl,
      s₁, hbegin, _, s₂, rest,
      (consumePayloadAndPadding_ok (owed_member (payload_lt hm.canonical))).mpr
        ⟨m.content.payload, rfl, rfl, rfl, hwrite⟩, _, finishEntry_ok.mpr rfl, s', hend, ?_, rfl⟩
    change _ = stateAfter (done ++ [m]) s'
    rw [stateAfter_snoc, Member.transcript]
    simp only [List.append_assoc]
    rfl

lemma archive_cons {members : List Member} : archive (m :: members) =
    m.parsed.header.encode ++ (m.content.payload ++ (List.replicate m.padding 0 ++ archive members)) := by
  simp only [archive, Member.block, List.flatMap_cons, List.append_assoc]

lemma run_cons {members : List Member} : sink.run s ((m :: members).flatMap Member.events) = .ok s' ↔
    ∃ t, sink.run s m.events = .ok t ∧ sink.run t (members.flatMap Member.events) = .ok s' := by
  rw [List.flatMap_cons, ReplaySink.run_append]

lemma inspectEntries_ok {passes : ℕ} {inspection : LayerInspection} (hl : Words limits) (hdone : ValidLayer limits done)
    (hpasses : source.length < passes) :
    inspectEntries sha256 limits sink passes (stateAfter done s) source = .ok (inspection, s', rest) ↔
      ∃ members, ValidLayer limits (done ++ members) ∧ source = archive members ++ rest ∧
        inspection = ⟨counted (done ++ members), sha256 (transcribed (done ++ members))⟩ ∧
        sink.run s (members.flatMap Member.events) = .ok s' := by
  induction passes generalizing done source s with
  | zero => exact absurd hpasses (Nat.not_lt_zero _)
  | succ passes ih =>
    simp only [inspectEntries, bind_ok, Prod.exists, readExact_ok]
    constructor
    · intro h
      obtain ⟨header, left, ⟨hheader, rfl⟩, h⟩ := h
      rw [List.length_append, hheader, ustarBlockBytes] at hpasses
      split_ifs at h with hzero
      · simp only [bind_ok, Prod.exists, readExact_ok, exists_unit, report_ok, ensure_ok, pure_ok, Prod.mk.injEq] at h
        obtain ⟨second, left, ⟨hsecond, rfl⟩, hsecondZero, digest, hdigest, rfl, rfl, rfl⟩ := h
        obtain rfl := List.eq_replicate_iff.mpr ⟨hheader, hzero⟩
        obtain rfl := List.eq_replicate_iff.mpr ⟨hsecond, hsecondZero⟩
        refine ⟨[], by rwa [List.append_nil], ?_, ?_, rfl⟩
        · rw [← List.append_assoc, List.replicate_append_replicate]
          rfl
        · cases hdigest
          rw [List.append_nil]
          rfl
      · simp only [bind_ok, Prod.exists] at h
        obtain ⟨state, source, hentry, hrest⟩ := h
        obtain ⟨m, t, hvalid, rfl, rfl, hrun, rfl⟩ := (inspectEntry_ok hl hdone hheader).mp hentry
        have hshorter : source.length < passes := by
          simp only [List.length_append] at hpasses
          omega
        obtain ⟨members, hmembers, rfl, hinspection, hruns⟩ := (ih hvalid hshorter).mp hrest
        rw [List.append_assoc, List.singleton_append] at hmembers hinspection
        refine ⟨m :: members, hmembers, ?_, hinspection, run_cons.mpr ⟨t, hrun, hruns⟩⟩
        simp only [archive_cons, List.append_assoc]
    · intro h
      obtain ⟨members, hmembers, rfl, rfl, hruns⟩ := h
      cases members with
      | nil =>
        cases hruns
        refine ⟨List.replicate 512 0, List.replicate 512 0 ++ rest, ⟨List.length_replicate, ?_⟩, ?_⟩
        · rw [← List.append_assoc, List.replicate_append_replicate]
          rfl
        · rw [if_pos fun _ hmem => List.eq_of_mem_replicate hmem]
          simp only [bind_ok, Prod.exists, readExact_ok, exists_unit, report_ok, ensure_ok, pure_ok, Prod.mk.injEq]
          refine ⟨List.replicate 512 0, rest, ⟨List.length_replicate, rfl⟩, fun _ hmem => List.eq_of_mem_replicate hmem,
            sha256 (transcribed done), rfl, ?_, rfl, rfl⟩
          rw [List.append_nil]
          rfl
      | cons m members =>
        obtain ⟨t, hrun, hruns⟩ := run_cons.mp hruns
        rw [← List.singleton_append, ← List.append_assoc] at hmembers
        have hvalid : ValidLayer limits (done ++ [m]) := hmembers.of_append
        have hlength := Ustar.Header.encode_length (hvalid.each m (by simp)).canonical.fits
        rw [archive_cons] at hpasses ⊢
        simp only [List.length_append, hlength] at hpasses
        refine ⟨m.parsed.header.encode, _, ⟨hlength, by rw [List.append_assoc]⟩, ?_⟩
        rw [if_neg Ustar.Header.encode_nonzero]
        simp only [bind_ok, Prod.exists]
        refine ⟨_, archive members ++ rest, (inspectEntry_ok hl hdone hlength).mpr
          ⟨m, t, hvalid, rfl, by simp only [List.append_assoc], hrun, rfl⟩, ?_⟩
        rw [ih hvalid (by rw [List.length_append]; omega)]
        exact ⟨members, hmembers, rfl, by rw [List.append_assoc, List.singleton_append], hruns⟩

lemma validLayer_nil : ValidLayer limits [] where
  each _ h := by cases h
  ordered := List.Pairwise.nil
  apart := List.Pairwise.nil
  count := Nat.zero_le _
  bytes := Nat.zero_le _

lemma inspectExactUstar_ok {inspection : LayerInspection} :
    inspectExactUstar sha256 Rootfs.layerStream sink s source = .ok (inspection, s', rest) ↔
      ∃ members, ValidLayer Rootfs.layerStream members ∧ source = archive members ++ rest ∧
        inspection = ⟨counted members, sha256 (transcribed members)⟩ ∧
        sink.run s (members.flatMap Member.events) = .ok s' := by
  have hstart : stateAfter [] s = ⟨.initial, none, ∅, .new, s⟩ := by
    simp [stateAfter, hiddenBy, transcribed, counted, regularBytes, LayerCounters.initial, ChangesetTranscript.new]
  rw [inspectExactUstar, ← hstart]
  exact inspectEntries_ok layerStream_words validLayer_nil (Nat.lt_succ_self _)

end Steps

section Transcripts

namespace Content

/-- What tells the kinds apart in a transcript. -/
def tag : Content → UInt8
  | .regularFile .. => 0x10
  | .directory => 0x11
  | .symbolicLink _ => 0x12
  | .whiteout (.remove _) => 0x13
  | .whiteout (.opaqueDirectory _) => 0x14

/-- The path that a link or a whiteout leads to. -/
def reference : Content → Option Bytes
  | .symbolicLink target => some target
  | .whiteout (.remove target) => some target
  | .whiteout (.opaqueDirectory path) => some path
  | .regularFile .. | .directory => none

def referenceBytes (content : Content) : Bytes :=
  match content.reference with
  | some path => ChangesetTranscript.updateString path
  | none => []

lemma mode_lt (content : Content) : content.mode < 2 ^ 64 := by
  cases content with
  | regularFile executable payload =>
    rw [mode]
    split_ifs <;> omega
  | directory => exact Nat.lt_of_lt_of_le (show 0o555 < 1000 by omega) (by omega)
  | symbolicLink target => exact Nat.lt_of_lt_of_le (show 0o777 < 1000 by omega) (by omega)
  | whiteout operation => exact Nat.two_pow_pos 64

/-- A content out of what its transcript holds. -/
def ofParts (tag : UInt8) (mode : ℕ) (reference : Option Bytes) (payload : Bytes) : Content :=
  if tag = 0x10 then .regularFile (mode = 0o555) payload
  else if tag = 0x11 then .directory
  else if tag = 0x12 then .symbolicLink (reference.getD [])
  else if tag = 0x13 then .whiteout (.remove (reference.getD []))
  else .whiteout (.opaqueDirectory (reference.getD []))

lemma ofParts_eq (content : Content) :
    ofParts content.tag content.mode content.reference content.payload = content := by
  cases content with
  | regularFile executable payload => cases executable <;> rfl
  | directory => rfl
  | symbolicLink target => rfl
  | whiteout operation => cases operation <;> rfl

lemma reference_isSome (content : Content) : content.reference.isSome = (content.tag = 0x12 ∨ content.tag = 0x13 ∨
    content.tag = 0x14 : Bool) := by
  cases content with
  | regularFile executable payload => rfl
  | directory => rfl
  | symbolicLink target => rfl
  | whiteout operation => cases operation <;> rfl

end Content

variable {limits : OciLayerStreamLimits} {m n : Member} {u v : Bytes}

lemma length_le_headerPath (path : Bytes) (typeflag : UInt8) : path.length ≤ (headerPath path typeflag).length := by
  rw [headerPath]
  split_ifs <;> simp

lemma transcript_eq (h : m.parsed.Canonical) : m.transcript = 0x01 :: m.content.tag ::
    (ChangesetTranscript.updateString m.path ++ (leBytes 8 m.content.mode ++ (leBytes 8 m.content.payload.length ++
      (m.content.referenceBytes ++ (m.content.payload ++ [0xff]))))) := by
  have hmode : (UInt64.ofNat m.content.mode).toNat = m.content.mode := by
    rw [UInt64.toNat_ofNat', Nat.mod_eq_of_lt m.content.mode_lt]
  have hlength : (UInt64.ofNat m.content.payload.length).toNat = m.content.payload.length := by
    rw [UInt64.toNat_ofNat', Nat.mod_eq_of_lt (payload_lt h)]
  have hentry : ChangesetTranscript.entryBytes m.entry = 0x01 :: m.content.tag ::
      (ChangesetTranscript.updateEntryIdentity m.path (UInt64.ofNat m.content.mode)
        (UInt64.ofNat m.content.payload.length) ++ m.content.referenceBytes) := by
    obtain ⟨path, content⟩ := m
    cases content with
    | regularFile executable payload => exact congrArg _ (congrArg _ (List.append_nil _).symm)
    | directory => exact congrArg _ (congrArg _ (List.append_nil _).symm)
    | symbolicLink target => rfl
    | whiteout operation => cases operation <;> rfl
  rw [Member.transcript, hentry, ChangesetTranscript.updateEntryIdentity, hmode, hlength]
  simp only [List.cons_append, List.append_assoc]

lemma reference_length (h : m.Valid limits) : ∀ path ∈ m.content.reference, path.length < 256 ^ 8 := by
  obtain ⟨hcanonical, -⟩ := h
  have hpath : m.path.length ≤ ustarPathMaxBytes := (length_le_headerPath _ _).trans hcanonical.pathLength
  have hlink := hcanonical.linkLength
  have hwhiteout := hcanonical.whiteout
  obtain ⟨path, content⟩ := m
  have hsubject : ∀ subject, content.subject = some subject → subject.length < 256 ^ 8 := by
    intro subject hsubject
    have hle := whiteoutTarget_length (hwhiteout.trans (congrArg Except.ok hsubject))
    exact (hle.trans hpath).trans_lt (by decide)
  cases content with
  | regularFile executable payload => exact fun _ hnone => (by cases hnone)
  | directory => exact fun _ hnone => (by cases hnone)
  | symbolicLink target =>
    rintro _ ⟨rfl⟩
    exact lt_of_le_of_lt hlink (by decide)
  | whiteout operation =>
    cases operation with
    | remove target =>
      rintro _ ⟨rfl⟩
      exact hsubject target rfl
    | opaqueDirectory subject =>
      rintro _ ⟨rfl⟩
      exact hsubject subject rfl

lemma transcript_cancel (hm : m.Valid limits) (hn : n.Valid limits) (h : m.transcript ++ u = n.transcript ++ v) :
    m = n ∧ u = v := by
  have hpath : ∀ k : Member, k.Valid limits → k.path.length < 256 ^ 8 := fun k hk =>
    ((length_le_headerPath _ _).trans hk.canonical.pathLength).trans_lt (by decide)
  rw [transcript_eq hm.canonical, transcript_eq hn.canonical] at h
  simp only [List.cons_append, List.append_assoc, List.cons.injEq, true_and] at h
  obtain ⟨htag, h⟩ := h
  obtain ⟨hpaths, h⟩ := Frames.sized_cancel (hpath m hm) (hpath n hn) h
  obtain ⟨hmodes, h⟩ := List.append_inj h (by rw [leBytes_length, leBytes_length])
  obtain ⟨hlengths, h⟩ := List.append_inj h (by rw [leBytes_length, leBytes_length])
  have hmode := leBytes_injective (by exact m.content.mode_lt) (by exact n.content.mode_lt) hmodes
  have hlength := leBytes_injective (by exact payload_lt hm.canonical) (by exact payload_lt hn.canonical) hlengths
  obtain ⟨hreference, h⟩ : m.content.reference = n.content.reference ∧
      m.content.payload ++ ([0xff] ++ u) = n.content.payload ++ ([0xff] ++ v) := by
    have hsome : m.content.reference.isSome = n.content.reference.isSome := by
      rw [Content.reference_isSome, Content.reference_isSome, htag]
    have hmReference := reference_length hm
    have hnReference := reference_length hn
    rw [Content.referenceBytes, Content.referenceBytes] at h
    generalize m.content.reference = a at *
    generalize n.content.reference = b at *
    cases a with
    | none =>
      cases b with
      | none => exact ⟨rfl, h⟩
      | some y => cases hsome
    | some x =>
      cases b with
      | none => cases hsome
      | some y =>
        obtain ⟨rfl, hrest⟩ := Frames.sized_cancel (hmReference x rfl) (hnReference y rfl) h
        exact ⟨rfl, hrest⟩
  obtain ⟨hpayload, h⟩ := List.append_inj h hlength
  have hcontent : m.content = n.content := by
    rw [← m.content.ofParts_eq, htag, hmode, hreference, hpayload, n.content.ofParts_eq]
  refine ⟨?_, List.append_cancel_left h⟩
  cases m
  cases n
  exact congrArg₂ Member.mk hpaths hcontent

lemma transcribed_injective {members others : List Member} (hm : ∀ m ∈ members, m.Valid limits)
    (hn : ∀ n ∈ others, n.Valid limits) (h : transcribed members = transcribed others) : members = others := by
  replace h := List.append_cancel_left h
  induction members generalizing others with
  | nil =>
    cases others with
    | nil => rfl
    | cons n others =>
      rw [List.flatMap_cons, transcript_eq (hn n List.mem_cons_self).canonical] at h
      cases h
  | cons m members ih =>
    obtain ⟨hfirst, hrest⟩ := List.forall_mem_cons.mp hm
    cases others with
    | nil =>
      rw [List.flatMap_cons, transcript_eq hfirst.canonical] at h
      cases h
    | cons n others =>
      obtain ⟨hother, hothers⟩ := List.forall_mem_cons.mp hn
      rw [List.flatMap_cons, List.flatMap_cons] at h
      obtain ⟨rfl, hsame⟩ := transcript_cancel hfirst hother h
      rw [ih hrest hothers hsame]

end Transcripts

end Eip0045.Layer
