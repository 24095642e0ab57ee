import Mathlib
import Eip0045.Library.Bytes
import Eip0045.Library.Stateful

/-! The reader through which an inspector sees a retained file, against an arbitrary outside. -/

namespace Eip0045.Custody

open Bytes Checked Stateful

section Data

structure PhysicalIdentity where
  device : UInt64
  inode : UInt64
  deriving DecidableEq

structure FileMetadata where
  identity : PhysicalIdentity
  mountId : UInt64
  byteLength : UInt64
  hardLinkCount : UInt64
  mode : UInt32
  modifiedSeconds : Int64
  modifiedNanoseconds : UInt64
  changedSeconds : Int64
  changedNanoseconds : UInt64
  deriving DecidableEq

inductive SnapshotFileRole
  | generic
  | ociImageLayoutUstar
  deriving DecidableEq

structure StableFileSnapshot where
  role : SnapshotFileRole
  metadata : FileMetadata
  sha256 : Digest

/-- `io::ErrorKind`. -/
inductive ErrorKind
  | invalidData
  | unexpectedEof
  | other (name : String)

structure IoError where
  kind : ErrorKind
  text : String

structure StreamingReadFailure where
  kind : ErrorKind
  detail : String

inductive FailurePair
  | inspectionAndRead
  | inspectionAndFilePostcheck
  | inspectionAndPreDeliveryPostcheck
  | deliveryAndPostcheck

/-- `anyhow::Error`. -/
inductive Failure
  | message (text : String)
  | context (text : String) (cause : Failure)
  | read (failure : StreamingReadFailure)
  | combined (pair : FailurePair) (earlier later : Failure)

inductive ReadStage
  | pathPinned
  | dataOpened
  | bytesRead
  | fileRepinned

/-- The three descriptors whose metadata are observed. -/
inductive Probe
  | path
  | opened
  | repinned
  deriving DecidableEq

/-- The steps outside the stream that succeed or fail. -/
inductive Action
  | recheck
  | validateLength (byteLength : UInt64)
  | openPath
  | openData
  | hook (stage : ReadStage)
  | seek
  | repin
  | between

inductive Callback
  | retainFirst
  | deliver

inductive Event
  | file (request : ℕ) (answer : Except IoError Bytes)
  | handed (size : ℕ) (answer : Except StreamingReadFailure Bytes)
  | inspected
  | acted (action : Action) (answer : Except Failure Unit)
  | metadata (probe : Probe) (answer : Except Failure FileMetadata)
  | called (callback : Callback) (byteLength : UInt64) (sha256 : Digest)

abbrev History := List Event

/-- What the outside answers after a history. A read returns at most the requested bytes. -/
structure Outside where
  readFile : History → (request : ℕ) → Except IoError {b : Bytes // b.length ≤ request}
  act : History → Action → Except Failure Unit
  metadata : History → Probe → Except Failure FileMetadata

end Data

section Reader

/-- `AuthenticatedStreamingReader`; the hasher is given by the bytes that went into it. -/
structure Reader where
  diagnostic : String
  expected : StableFileSnapshot
  observedByteLength : ℕ
  hashed : Bytes
  eofObserved : Bool
  stickyFailure : Option StreamingReadFailure

structure StreamState where
  reader : Reader
  history : History

abbrev Reading := Stateful StreamingReadFailure StreamState

variable (outside : Outside)

def readFile (request : ℕ) : Reading (Except IoError Bytes) := do
  let s ← get
  let answer := (outside.readFile s.history request).map Subtype.val
  modify fun s => { s with history := s.history ++ [.file request answer] }
  pure answer

/-- `Err(self.sticky_error(..))`. -/
def stickyError (kind : ErrorKind) (detail : String) : Reading Bytes := do
  let s ← get
  let failure := s.reader.stickyFailure.getD ⟨kind, detail⟩
  modify fun s => { s with reader := { s.reader with stickyFailure := some failure } }
  throw failure

/-- The read at the retained length, which proves the end of the file. -/
def probeEof : Reading Bytes := do
  let s ← get
  let answer ← readFile outside 1
  match answer with
  | .ok [] => do
    modify fun s => { s with reader := { s.reader with eofObserved := true } }
    pure []
  | .ok _ =>
    stickyError .invalidData
      s!"authenticated immutable-root stream {s.reader.diagnostic} grew beyond its retained length"
  | .error error =>
    stickyError error.kind
      s!"cannot probe authenticated immutable-root stream {s.reader.diagnostic} EOF: {error.text}"

/-- The read of at most `request` of the remaining bytes. -/
def readRemaining (request : ℕ) : Reading Bytes := do
  let s ← get
  let answer ← readFile outside request
  match answer with
  | .ok [] =>
    stickyError .unexpectedEof
      s!"authenticated immutable-root stream {s.reader.diagnostic} ended before its retained length"
  | .ok bytes =>
    let observed := s.reader.observedByteLength + bytes.length
    if 2 ^ 64 ≤ observed then
      stickyError .invalidData "authenticated stream byte count overflowed"
    else if s.reader.expected.metadata.byteLength.toNat < observed then
      stickyError .invalidData
        s!"authenticated immutable-root stream {s.reader.diagnostic} exceeded its retained length"
    else do
      modify fun s => { s with reader := { s.reader with
        observedByteLength := observed
        hashed := s.reader.hashed ++ bytes } }
      pure bytes
  | .error error =>
    stickyError error.kind
      s!"cannot read authenticated immutable-root stream {s.reader.diagnostic}: {error.text}"

/-- `read` into a buffer of a size; the result is what it puts at the front of the buffer. -/
def read (size : ℕ) : Reading Bytes := do
  let s ← get
  match s.reader.stickyFailure with
  | some failure => throw failure
  | none =>
    if size = 0 then pure []
    else if s.reader.expected.metadata.byteLength.toNat < s.reader.observedByteLength then
      stickyError .invalidData "authenticated stream length underflowed"
    else
      let remaining := s.reader.expected.metadata.byteLength.toNat - s.reader.observedByteLength
      if remaining = 0 then probeEof outside else readRemaining outside (min remaining size)

/-- A read of the inspector, with its result. -/
def serve (size : ℕ) : Stateful Failure StreamState (Except StreamingReadFailure Bytes) := do
  let answer ← attempt (read outside size)
  modify fun s => { s with history := s.history ++ [.handed size answer] }
  pure answer

/-- An inspector: any adaptive sequence of reads, and any result. -/
inductive Inspector (α : Type)
  | done (result : Except Failure α)
  | read (size : ℕ) (next : Except StreamingReadFailure Bytes → Inspector α)

def Inspector.run {α : Type} : Inspector α → Stateful Failure StreamState α
  | .done result => lift result
  | .read size next => do
    let answer ← serve outside size
    Inspector.run (next answer)

end Reader

section Steps

variable {outside : Outside} {s s' : StreamState} {bytes : Bytes}

def Event.isFile : Event → Prop
  | .file _ _ => True
  | _ => False

def Event.isGoodFile : Event → Prop
  | .file _ (.ok _) => True
  | _ => False

/-- What a read that returns does: it feeds the hasher with what it returns. -/
structure ReadOk (s s' : StreamState) (bytes : Bytes) : Prop where
  clean : s.reader.stickyFailure = none ∧ s'.reader.stickyFailure = none
  expected : s'.reader.expected = s.reader.expected
  observed : s'.reader.observedByteLength = s.reader.observedByteLength + bytes.length
  hashed : s'.reader.hashed = s.reader.hashed ++ bytes
  bound : s.reader.observedByteLength ≤ s.reader.expected.metadata.byteLength.toNat →
    s'.reader.observedByteLength ≤ s.reader.expected.metadata.byteLength.toNat
  files : ∃ files : History, s'.history = s.history ++ files ∧ (∀ event ∈ files, event.isGoodFile) ∧
    (s'.reader.eofObserved = true → s.reader.eofObserved = true ∨
      files = [.file 1 (.ok [])] ∧
        s.reader.observedByteLength = s.reader.expected.metadata.byteLength.toNat)

/-- What a read that fails does: its failure sticks. -/
structure ReadFailed (s s' : StreamState) (failure : StreamingReadFailure) : Prop where
  reader : s'.reader = { s.reader with stickyFailure := some failure }
  first : ∀ earlier, s.reader.stickyFailure = some earlier → failure = earlier
  files : ∃ files : History, s'.history = s.history ++ files ∧ ∀ event ∈ files, event.isFile

lemma stickyError_ends {kind : ErrorKind} {detail : String} {files : History} {Q : Bytes → StreamState → Prop}
    (hreader : s'.reader = s.reader) (hhistory : s'.history = s.history ++ files)
    (hfiles : ∀ event ∈ files, event.isFile) :
    Ends (stickyError kind detail) s' Q (fun f s'' => ReadFailed s s'' f) := by
  rw [stickyError, ends_bind, ends_get, ends_bind, ends_modify, ends_throw]
  refine ⟨by rw [hreader], ?_, files, hhistory, hfiles⟩
  intro earlier hearlier
  rw [hreader, hearlier]
  rfl

lemma readFile_ends {request : ℕ} {α : Type} {f : Except IoError Bytes → Reading α}
    {Q : α → StreamState → Prop} {E : StreamingReadFailure → StreamState → Prop}
    (h : ∀ answer, Ends (f answer) { s with history := s.history ++ [.file request answer] } Q E) :
    Ends (readFile outside request >>= f) s Q E := by
  rw [ends_bind, readFile, ends_bind, ends_get, ends_bind, ends_modify, ends_pure]
  apply h

lemma singleFile {request : ℕ} {answer : Except IoError Bytes} :
    ∀ event ∈ [Event.file request answer], event.isFile := by
  intro event hevent
  rw [List.mem_singleton.mp hevent]
  trivial

lemma probeEof_ends (hclean : s.reader.stickyFailure = none)
    (hobserved : s.reader.observedByteLength = s.reader.expected.metadata.byteLength.toNat) :
    Ends (probeEof outside) s
      (fun bytes s' => ReadOk s s' bytes ∧ s'.history = s.history ++ [.file 1 (.ok [])])
      (fun f s' => ReadFailed s s' f) := by
  rw [probeEof, ends_bind, ends_get]
  apply readFile_ends
  intro answer
  cases answer with
  | error error => exact stickyError_ends rfl rfl singleFile
  | ok bytes =>
    cases bytes with
    | nil =>
      rw [ends_bind, ends_modify, ends_pure]
      refine ⟨⟨⟨hclean, hclean⟩, rfl, rfl, (List.append_nil _).symm, fun h => h, _, rfl, ?_, ?_⟩, rfl⟩
      · intro event hevent
        rw [List.mem_singleton.mp hevent]
        trivial
      · intro _
        exact .inr ⟨rfl, hobserved⟩
    | cons byte bytes => exact stickyError_ends rfl rfl singleFile

lemma readRemaining_ends {request : ℕ} (hclean : s.reader.stickyFailure = none) :
    Ends (readRemaining outside request) s (fun bytes s' => ReadOk s s' bytes)
      (fun f s' => ReadFailed s s' f) := by
  rw [readRemaining, ends_bind, ends_get]
  apply readFile_ends
  intro answer
  cases answer with
  | error error => exact stickyError_ends rfl rfl singleFile
  | ok bytes =>
    cases bytes with
    | nil => exact stickyError_ends rfl rfl singleFile
    | cons byte bytes =>
      dsimp only
      split
      · exact stickyError_ends rfl rfl singleFile
      split
      · exact stickyError_ends rfl rfl singleFile
      rw [ends_bind, ends_modify, ends_pure]
      refine ⟨⟨hclean, hclean⟩, rfl, rfl, rfl, fun _ => ?_, _, rfl, ?_, .inl⟩
      · dsimp only
        omega
      · intro event hevent
        rw [List.mem_singleton.mp hevent]
        trivial

lemma read_ends (size : ℕ) : Ends (read outside size) s (fun bytes s' => ReadOk s s' bytes)
    (fun f s' => ReadFailed s s' f) := by
  rw [read, ends_bind, ends_get]
  cases hclean : s.reader.stickyFailure with
  | some failure =>
    rw [ends_throw]
    refine ⟨by rw [← hclean], ?_, [], (List.append_nil _).symm, fun _ h => absurd h List.not_mem_nil⟩
    intro earlier hearlier
    rw [hclean] at hearlier
    exact Option.some.inj hearlier
  | none =>
    dsimp only
    split
    · rw [ends_pure]
      exact ⟨⟨hclean, hclean⟩, rfl, rfl, (List.append_nil _).symm, fun h => h, [], (List.append_nil _).symm,
        fun _ h => absurd h List.not_mem_nil, .inl⟩
    split
    · exact stickyError_ends rfl (List.append_nil _).symm fun _ h => absurd h List.not_mem_nil
    split
    · exact (probeEof_ends hclean (by omega)).imp (fun _ _ h => h.1) fun _ _ h => h
    · exact readRemaining_ends hclean

lemma read_full_ends {size : ℕ} (hsize : size ≠ 0) (hclean : s.reader.stickyFailure = none)
    (hobserved : s.reader.observedByteLength = s.reader.expected.metadata.byteLength.toNat) :
    Ends (read outside size) s
      (fun bytes s' => ReadOk s s' bytes ∧ s'.history = s.history ++ [.file 1 (.ok [])])
      (fun f s' => ReadFailed s s' f) := by
  rw [read, ends_bind, ends_get, hclean]
  dsimp only
  rw [if_neg hsize, if_neg (by omega), if_pos (by omega)]
  exact probeEof_ends hclean hobserved

end Steps

section Session

variable {outside : Outside} {expected : StableFileSnapshot} {s s' : StreamState} {h t : History}

def Event.handedPart : Event → Bytes
  | .handed _ (.ok bytes) => bytes
  | _ => []

def handedBytes (t : History) : Bytes := t.flatMap Event.handedPart

def Event.answer : Event → Option (Except StreamingReadFailure Bytes)
  | .handed _ answer => some answer
  | _ => none

def answers (t : History) : List (Except StreamingReadFailure Bytes) := t.filterMap Event.answer

/-- Once an answer is a failure, a later one is a failure of the same kind. -/
def Persists (a b : Except StreamingReadFailure Bytes) : Prop :=
  ∀ f, a = .error f → ∃ g, b = .error g ∧ g.kind = f.kind

/-- The end of the file was seen after all bytes that are handed out. -/
def EofProven (t : History) : Prop :=
  ∃ before after, t = before ++ .file 1 (.ok []) :: after ∧ handedBytes before = handedBytes t

def Event.isRead : Event → Prop
  | .file _ _ | .handed _ _ => True
  | _ => False

def Event.isGoodRead : Event → Prop
  | .file _ (.ok _) | .handed _ (.ok _) => True
  | _ => False

/-- The session that a reader has seen since it was opened after `h`. -/
structure Tracks (expected : StableFileSnapshot) (s : StreamState) (h t : History) : Prop where
  history : s.history = h ++ t
  snapshot : s.reader.expected = expected
  hashed : s.reader.hashed = handedBytes t
  observed : s.reader.observedByteLength = (handedBytes t).length
  bound : (handedBytes t).length ≤ expected.metadata.byteLength.toNat
  reads : ∀ event ∈ t, event.isRead
  clean : s.reader.stickyFailure = none → ∀ event ∈ t, event.isGoodRead
  persists : (answers t).Pairwise Persists
  failed : ∀ f, .error f ∈ answers t → s.reader.stickyFailure = some f
  eof : s.reader.eofObserved = true →
    (handedBytes t).length = expected.metadata.byteLength.toNat ∧ EofProven t

@[simp] lemma handedBytes_append (t u : History) : handedBytes (t ++ u) = handedBytes t ++ handedBytes u :=
  List.flatMap_append

@[simp] lemma answers_append (t u : History) : answers (t ++ u) = answers t ++ answers u :=
  List.filterMap_append

lemma isFile_of_isGoodFile {event : Event} (h : event.isGoodFile) : event.isFile := by
  cases event with
  | file request answer => trivial
  | _ => exact h.elim

lemma handedBytes_files {files : History} (h : ∀ event ∈ files, event.isFile) : handedBytes files = [] := by
  apply List.flatMap_eq_nil_iff.mpr
  intro event hevent
  have hfile := h event hevent
  cases event with
  | file request answer => rfl
  | _ => exact hfile.elim

lemma answers_files {files : History} (h : ∀ event ∈ files, event.isFile) : answers files = [] := by
  apply List.filterMap_eq_nil_iff.mpr
  intro event hevent
  have hfile := h event hevent
  cases event with
  | file request answer => rfl
  | _ => exact hfile.elim

lemma EofProven.append {u : History} (h : EofProven t) (hu : handedBytes u = []) : EofProven (t ++ u) := by
  obtain ⟨before, after, rfl, hbefore⟩ := h
  refine ⟨before, after ++ u, by simp, ?_⟩
  rw [handedBytes_append, hu, List.append_nil, ← hbefore]

lemma handedBytes_read {files : History} {size : ℕ} {answer : Except StreamingReadFailure Bytes}
    (h : ∀ event ∈ files, event.isFile) : handedBytes (t ++ files ++ [.handed size answer]) =
      handedBytes t ++ (Event.handed size answer).handedPart := by
  rw [handedBytes_append, handedBytes_append, handedBytes_files h, List.append_nil]
  exact congrArg (handedBytes t ++ ·) (List.append_nil _)

lemma answers_read {files : History} {size : ℕ} {answer : Except StreamingReadFailure Bytes}
    (h : ∀ event ∈ files, event.isFile) :
    answers (t ++ files ++ [.handed size answer]) = answers t ++ [answer] := by
  rw [answers_append, answers_append, answers_files h, List.append_nil]
  rfl

lemma forall_mem_read {P : Event → Prop} {files : History} {last : Event} (ht : ∀ event ∈ t, P event)
    (hfiles : ∀ event ∈ files, P event) (hlast : P last) : ∀ event ∈ t ++ files ++ [last], P event := by
  intro event hevent
  obtain hevent | hevent := List.mem_append.mp hevent
  · obtain hevent | hevent := List.mem_append.mp hevent
    · exact ht event hevent
    · exact hfiles event hevent
  · rwa [List.mem_singleton.mp hevent]

lemma isRead_of_isFile {event : Event} (h : event.isFile) : event.isRead := by
  cases event with
  | file request answer => trivial
  | _ => exact h.elim

lemma isGoodRead_of_isGoodFile {event : Event} (h : event.isGoodFile) : event.isGoodRead := by
  cases event with
  | file request answer =>
    cases answer with
    | ok bytes => trivial
    | error e => exact h.elim
  | _ => exact h.elim

lemma reads_read {files : History} {size : ℕ} {answer : Except StreamingReadFailure Bytes}
    (ht : ∀ event ∈ t, event.isRead) (hfiles : ∀ event ∈ files, event.isFile) :
    ∀ event ∈ t ++ files ++ [.handed size answer], event.isRead :=
  forall_mem_read ht (fun event hevent => isRead_of_isFile (hfiles event hevent)) trivial

lemma Tracks.no_failure (ht : Tracks expected s h t) (hclean : s.reader.stickyFailure = none)
    (f : StreamingReadFailure) : .error f ∉ answers t := by
  intro hf
  have hsticky := ht.failed f hf
  rw [hclean] at hsticky
  cases hsticky

lemma Tracks.readOk {size : ℕ} {bytes : Bytes} (ht : Tracks expected s h t) (hread : ReadOk s s' bytes) :
    ∃ t', Tracks expected { s' with history := s'.history ++ [.handed size (.ok bytes)] } h t' := by
  obtain ⟨files, hhistory, hgood, heof⟩ := hread.files
  have hfile : ∀ event ∈ files, event.isFile := fun event hevent => isFile_of_isGoodFile (hgood event hevent)
  have hhanded : handedBytes (t ++ files ++ [.handed size (.ok bytes)]) = handedBytes t ++ bytes :=
    handedBytes_read hfile
  have hbound := hread.bound (by rw [ht.snapshot, ht.observed]; exact ht.bound)
  rw [hread.observed, ht.observed, ht.snapshot] at hbound
  refine ⟨t ++ files ++ [.handed size (.ok bytes)], ?_, hread.expected.trans ht.snapshot, ?_, ?_, ?_,
    reads_read ht.reads hfile, ?_, ?_, ?_, ?_⟩
  · rw [hhistory, ht.history]
    simp only [List.append_assoc]
  · rw [hhanded, ← ht.hashed]
    exact hread.hashed
  · rw [hhanded, List.length_append, ← ht.observed]
    exact hread.observed
  · rw [hhanded, List.length_append]
    exact hbound
  · intro _
    exact forall_mem_read (ht.clean hread.clean.1)
      (fun event hevent => isGoodRead_of_isGoodFile (hgood event hevent)) trivial
  · rw [answers_read hfile]
    refine List.pairwise_append.mpr ⟨ht.persists, List.pairwise_singleton _ _, ?_⟩
    intro a ha b _ f hf
    subst hf
    exact absurd ha (ht.no_failure hread.clean.1 f)
  · intro f hf
    rw [answers_read hfile] at hf
    obtain hf | hf := List.mem_append.mp hf
    · exact absurd hf (ht.no_failure hread.clean.1 f)
    · cases List.mem_singleton.mp hf
  · intro hobserved
    have hfull : (handedBytes t).length = expected.metadata.byteLength.toNat ∧
        EofProven (t ++ files ++ [.handed size (.ok [])]) := by
      obtain hbefore | ⟨rfl, hnow⟩ := heof hobserved
      · obtain ⟨hlength, hproven⟩ := ht.eof hbefore
        refine ⟨hlength, ?_⟩
        rw [List.append_assoc]
        apply hproven.append
        rw [handedBytes_append, handedBytes_files hfile]
        rfl
      · rw [ht.observed, ht.snapshot] at hnow
        refine ⟨hnow, t, [.handed size (.ok [])], by simp, ?_⟩
        rw [handedBytes_read hfile]
        exact (List.append_nil _).symm
    obtain ⟨hlength, hproven⟩ := hfull
    have hempty : bytes = [] := List.length_eq_zero_iff.mp (by omega)
    subst hempty
    rw [hhanded, List.append_nil]
    exact ⟨hlength, hproven⟩

lemma Tracks.readFailed {size : ℕ} {f : StreamingReadFailure} (ht : Tracks expected s h t)
    (hread : ReadFailed s s' f) :
    ∃ t', Tracks expected { s' with history := s'.history ++ [.handed size (.error f)] } h t' := by
  obtain ⟨files, hhistory, hfile⟩ := hread.files
  have hhanded : handedBytes (t ++ files ++ [.handed size (.error f)]) = handedBytes t := by
    rw [handedBytes_read hfile]
    exact List.append_nil _
  have hsame : ∀ g, .error g ∈ answers t → f = g := fun g hg => hread.first g (ht.failed g hg)
  refine ⟨t ++ files ++ [.handed size (.error f)], ?_, ?_, ?_, ?_, ?_,
    reads_read ht.reads hfile, ?_, ?_, ?_, ?_⟩
  · rw [hhistory, ht.history]
    simp only [List.append_assoc]
  · rw [hread.reader]
    exact ht.snapshot
  · rw [hhanded, hread.reader]
    exact ht.hashed
  · rw [hhanded, hread.reader]
    exact ht.observed
  · rw [hhanded]
    exact ht.bound
  · intro hclean
    rw [hread.reader] at hclean
    cases hclean
  · rw [answers_read hfile]
    refine List.pairwise_append.mpr ⟨ht.persists, List.pairwise_singleton _ _, ?_⟩
    intro a ha b hb g hg
    subst hg
    rw [List.mem_singleton.mp hb, hsame g ha]
    exact ⟨g, rfl, rfl⟩
  · intro g hg
    rw [answers_read hfile] at hg
    rw [hread.reader]
    obtain hg | hg := List.mem_append.mp hg
    · rw [hsame g hg]
    · cases List.mem_singleton.mp hg
      rfl
  · intro hobserved
    rw [hread.reader] at hobserved
    obtain ⟨hlength, hproven⟩ := ht.eof hobserved
    rw [hhanded]
    refine ⟨hlength, ?_⟩
    rw [List.append_assoc]
    apply hproven.append
    rw [handedBytes_append, handedBytes_files hfile]
    rfl

lemma serve_ends {size : ℕ} {Q : Except StreamingReadFailure Bytes → StreamState → Prop}
    {E : Failure → StreamState → Prop} (ht : Tracks expected s h t)
    (hq : ∀ answer s' t', Tracks expected s' h t' → Q answer s') : Ends (serve outside size) s Q E := by
  rw [serve, ends_bind, ends_attempt]
  refine (read_ends size).imp ?_ ?_
  · intro bytes s' hread
    rw [ends_bind, ends_modify, ends_pure]
    obtain ⟨t', ht'⟩ := ht.readOk hread
    exact hq _ _ t' ht'
  · intro f s' hread
    rw [ends_bind, ends_modify, ends_pure]
    obtain ⟨t', ht'⟩ := ht.readFailed hread
    exact hq _ _ t' ht'

lemma Inspector.run_ends {α : Type} (inspector : Inspector α) (ht : Tracks expected s h t) :
    Ends (inspector.run outside) s (fun _ s' => ∃ t', Tracks expected s' h t')
      (fun _ s' => ∃ t', Tracks expected s' h t') := by
  induction inspector generalizing s t with
  | done result =>
    cases result with
    | ok a => exact ⟨t, ht⟩
    | error e => exact ⟨t, ht⟩
  | read size next ih =>
    rw [Inspector.run, ends_bind]
    apply serve_ends ht
    intro answer s' t' ht'
    exact ih answer ht'

def Reader.new (diagnostic : String) (expected : StableFileSnapshot) : Reader :=
  ⟨diagnostic, expected, 0, [], false, none⟩

lemma tracks_new (diagnostic : String) (expected : StableFileSnapshot) (h : History) :
    Tracks expected ⟨Reader.new diagnostic expected, h⟩ h [] where
  history := (List.append_nil h).symm
  snapshot := rfl
  hashed := rfl
  observed := rfl
  bound := Nat.zero_le _
  reads := fun _ hevent => absurd hevent List.not_mem_nil
  clean := fun _ _ hevent => absurd hevent List.not_mem_nil
  persists := List.Pairwise.nil
  failed := fun _ hf => absurd hf List.not_mem_nil
  eof := fun hobserved => absurd hobserved Bool.false_ne_true

end Session

end Eip0045.Custody
