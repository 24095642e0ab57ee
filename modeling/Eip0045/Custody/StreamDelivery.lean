import Mathlib
import Eip0045.Custody.AuthenticatedStream

/-! A callback receives a streamed file only behind every check of its authentication. -/

namespace Eip0045.Custody

open Bytes Checked Stateful

section Events

def Event.isCall : Event → Bool
  | .called _ _ _ => true
  | _ => false

def Event.Accepted (expected : StableFileSnapshot) : Event → Prop
  | .file _ (.ok _) => True
  | .handed _ (.ok _) => True
  | .inspected => True
  | .acted _ (.ok _) => True
  | .metadata _ (.ok m) => m = expected.metadata
  | _ => False

def Event.Quiet (expected : StableFileSnapshot) (event : Event) : Prop :=
  event.Accepted expected ∧ event.handedPart = []

/-- Between two histories there are only events with a property. -/
def Grows (P : Event → Prop) (h h' : History) : Prop := ∃ t, h' = h ++ t ∧ ∀ event ∈ t, P event

def Uncalled (h h' : History) : Prop := Grows (fun event => event.isCall = false) h h'

variable {P R : Event → Prop} {expected : StableFileSnapshot} {h h' h'' t : History}

lemma Grows.refl (h : History) : Grows P h h :=
  ⟨[], (List.append_nil h).symm, fun _ hevent => absurd hevent List.not_mem_nil⟩

lemma Grows.trans (hg : Grows P h h') (hg' : Grows P h' h'') : Grows P h h'' := by
  obtain ⟨t, rfl, ht⟩ := hg
  obtain ⟨u, rfl, hu⟩ := hg'
  exact ⟨t ++ u, List.append_assoc _ _ _, fun event hevent =>
    (List.mem_append.mp hevent).elim (ht event) (hu event)⟩

lemma Grows.imp (hg : Grows P h h') (himp : ∀ event, P event → R event) : Grows R h h' := by
  obtain ⟨t, rfl, ht⟩ := hg
  exact ⟨t, rfl, fun event hevent => himp event (ht event hevent)⟩

lemma Grows.snoc {event : Event} (hg : Grows P h h') (hevent : P event) : Grows P h (h' ++ [event]) :=
  hg.trans ⟨[event], rfl, fun e he => by rwa [List.mem_singleton.mp he]⟩

lemma isCall_of_accepted {event : Event} (h : event.Accepted expected) : event.isCall = false := by
  cases event with
  | called callback byteLength sha256 => exact h.elim
  | _ => rfl

lemma isCall_of_isRead {event : Event} (h : event.isRead) : event.isCall = false := by
  cases event with
  | called callback byteLength sha256 => exact h.elim
  | _ => rfl

lemma accepted_of_isGoodRead {event : Event} (h : event.isGoodRead) : event.Accepted expected := by
  cases event with
  | file request answer =>
    cases answer with
    | ok bytes => exact True.intro
    | error e => exact h.elim
  | handed size answer =>
    cases answer with
    | ok bytes => exact True.intro
    | error e => exact h.elim
  | _ => exact h.elim

/-- Quiet steps, among which some metadata were found to be the retained ones. -/
def Observes (expected : StableFileSnapshot) (probes : List Probe) (h h' : History) : Prop :=
  ∃ t, h' = h ++ t ∧ (∀ event ∈ t, event.Quiet expected) ∧
    ∀ probe ∈ probes, .metadata probe (.ok expected.metadata) ∈ t

lemma Observes.refl (expected : StableFileSnapshot) (h : History) : Observes expected [] h h :=
  ⟨[], (List.append_nil h).symm, fun _ hevent => absurd hevent List.not_mem_nil,
    fun _ hprobe => absurd hprobe List.not_mem_nil⟩

variable {probes : List Probe}

lemma Observes.uncalled (ho : Observes expected probes h h') : Uncalled h h' := by
  obtain ⟨t, ht, hquiet, -⟩ := ho
  exact ⟨t, ht, fun event hevent => isCall_of_accepted (hquiet event hevent).1⟩

lemma Observes.act (ho : Observes expected probes h h') (action : Action) :
    Observes expected probes h (h' ++ [.acted action (.ok ())]) := by
  obtain ⟨t, rfl, hquiet, hprobes⟩ := ho
  refine ⟨t ++ [.acted action (.ok ())], List.append_assoc _ _ _, ?_, ?_⟩
  · intro event hevent
    obtain hevent | hevent := List.mem_append.mp hevent
    · exact hquiet event hevent
    · rw [List.mem_singleton.mp hevent]
      exact ⟨True.intro, rfl⟩
  · intro probe hprobe
    exact List.mem_append_left _ (hprobes probe hprobe)

lemma Observes.observe (ho : Observes expected probes h h') (probe : Probe) :
    Observes expected (probe :: probes) h (h' ++ [.metadata probe (.ok expected.metadata)]) := by
  obtain ⟨t, rfl, hquiet, hprobes⟩ := ho
  refine ⟨t ++ [.metadata probe (.ok expected.metadata)], List.append_assoc _ _ _, ?_, ?_⟩
  · intro event hevent
    obtain hevent | hevent := List.mem_append.mp hevent
    · exact hquiet event hevent
    · rw [List.mem_singleton.mp hevent]
      exact ⟨rfl, rfl⟩
  · exact List.forall_mem_cons.mpr ⟨List.mem_append_right _ List.mem_cons_self,
      fun seen hseen => List.mem_append_left _ (hprobes seen hseen)⟩

end Events

section Steps

variable {outside : Outside} {expected : StableFileSnapshot} {probes : List Probe}
  {h₀ h : History} {α : Type}

lemma act_exact {action : Action} :
    Ends (act outside action) h (fun _ h' => h' = h ++ [.acted action (.ok ())])
      (fun e h' => h' = h ++ [.acted action (.error e)]) := by
  rw [act, ends_bind, ends_get, ends_bind, ends_modify, ends_lift]
  refine ⟨?_, ?_⟩
  · intro _ hanswer
    rw [hanswer]
  · intro e hanswer
    rw [hanswer]

lemma act_ends {action : Action} (ho : Observes expected probes h₀ h) :
    Ends (act outside action) h (fun _ h' => Observes expected probes h₀ h')
      (fun _ h' => Uncalled h₀ h') := by
  refine act_exact.imp ?_ ?_
  · intro _ h' hh'
    rw [hh']
    exact ho.act action
  · intro e h' hh'
    rw [hh']
    exact ho.uncalled.snoc rfl

lemma contextual_ends {σ : Type} {s : σ} {text : String} {x : Stateful Failure σ α} {Q : α → σ → Prop}
    {E : σ → Prop} (hx : Ends x s Q (fun _ s' => E s')) :
    Ends (contextual text x) s Q (fun _ s' => E s') := by
  rw [contextual, ends_bind, ends_attempt]
  exact hx.imp (fun _ _ hq => hq) fun _ _ he => he

lemma requireMetadata_ends {probe : Probe} {error : String} (ho : Observes expected probes h₀ h) :
    Ends (requireMetadata outside probe expected error) h
      (fun _ h' => Observes expected (probe :: probes) h₀ h') (fun _ h' => Uncalled h₀ h') := by
  rw [requireMetadata, ends_bind, observe, ends_bind, ends_get, ends_bind, ends_modify, ends_lift]
  refine ⟨?_, fun e _ => ho.uncalled.snoc rfl⟩
  intro metadata hanswer
  rw [ends_ensure]
  refine ⟨?_, fun _ => ho.uncalled.snoc rfl⟩
  intro hmetadata
  rw [hanswer, hmetadata]
  exact ho.observe probe

lemma openFileStream_ends {maxBytes : ℕ} {root : RootSnapshot} {role : StreamRole} {relative : Bytes} :
    Ends (openFileStream outside maxBytes root role relative) h
      (fun expected h' => root[relative]? = some expected ∧ Observes expected [.opened, .path] h h')
      (fun _ h' => Uncalled h h') := by
  have hu : Uncalled h h := Grows.refl h
  rw [openFileStream, ends_bind, ends_lift]
  refine ⟨fun _ _ => ?_, fun _ _ => hu⟩
  rw [ends_bind, ends_lift]
  refine ⟨fun expected hexpected => ?_, fun _ _ => hu⟩
  rw [ends_bind, ends_lift]
  refine ⟨fun _ _ => ?_, fun _ _ => hu⟩
  apply (act_ends (Observes.refl expected h)).bind
  · intro _ h₁ ho
    rw [ends_bind, ends_ensure]
    refine ⟨fun _ => ?_, fun _ => ho.uncalled⟩
    rw [ends_bind, ends_lift]
    refine ⟨fun _ _ => ?_, fun _ _ => ho.uncalled⟩
    refine (contextual_ends (act_ends ho)).bind ?_ fun _ _ he => he
    intro _ h₂ ho
    refine (requireMetadata_ends ho).bind ?_ fun _ _ he => he
    intro _ h₃ ho
    refine (act_ends ho).bind ?_ fun _ _ he => he
    intro _ h₄ ho
    refine (contextual_ends (act_ends ho)).bind ?_ fun _ _ he => he
    intro _ h₅ ho
    refine (requireMetadata_ends ho).bind ?_ fun _ _ he => he
    intro _ h₆ ho
    refine (act_ends ho).bind ?_ fun _ _ he => he
    intro _ h₇ ho
    exact ⟨context_ok.mp hexpected, ho⟩
  · intro _ _ he
    exact he

lemma filePostcheck_ends :
    Ends (filePostcheck outside expected) h
      (fun _ h' => Observes expected [.repinned, .path, .opened] h h') (fun _ h' => Uncalled h h') := by
  rw [filePostcheck]
  refine (requireMetadata_ends (Observes.refl expected h)).bind ?_ fun _ _ he => he
  intro _ h₁ ho
  refine (requireMetadata_ends ho).bind ?_ fun _ _ he => he
  intro _ h₂ ho
  refine (contextual_ends (act_ends ho)).bind ?_ fun _ _ he => he
  intro _ h₃ ho
  refine (requireMetadata_ends ho).bind ?_ fun _ _ he => he
  intro _ h₄ ho
  exact act_ends ho

end Steps

section Finish

variable {outside : Outside} {sha256 : Bytes → Digest} {expected : StableFileSnapshot} {s s' : StreamState}
  {h h' t : History} {α : Type}

/-- What is known of a session behind which `finish` has succeeded with the events `probe`. -/
structure Finished (sha256 : Bytes → Digest) (expected : StableFileSnapshot) (t probe : History) : Prop where
  good : ∀ event ∈ t, event.isGoodRead
  length : (handedBytes t).length = expected.metadata.byteLength.toNat
  digest : sha256 (handedBytes t) = expected.sha256
  eof : probe = [] ∧ EofProven t ∨ probe = [.file 1 (.ok [])]

lemma finishEof_ends (ht : Tracks expected s' h' t) (hreader : s.reader = s'.reader)
    (hclean : s.reader.stickyFailure = none)
    (hobserved : s.reader.observedByteLength = s.reader.expected.metadata.byteLength.toNat) :
    Ends (finishEof outside) s
      (fun _ s'' => ∃ probe, s''.history = s.history ++ probe ∧
        (probe = [] ∧ EofProven t ∨ probe = [.file 1 (.ok [])]) ∧
          s''.reader.hashed = s.reader.hashed ∧ s''.reader.expected = s.reader.expected)
      (fun _ s'' => Uncalled s.history s''.history) := by
  rw [finishEof, ends_bind, ends_get]
  split
  case isTrue heof =>
    rw [ends_pure]
    rw [hreader] at heof
    exact ⟨[], (List.append_nil _).symm, .inl ⟨rfl, (ht.eof heof).2⟩, rfl, rfl⟩
  case isFalse heof =>
    rw [ends_bind, ends_attempt]
    refine (read_full_ends Nat.one_ne_zero hclean hobserved).imp ?_ ?_
    · intro bytes s₁ hread
      rw [ends_ensure]
      refine ⟨?_, fun _ => ?_⟩
      · intro hempty
        refine ⟨_, hread.2, .inr rfl, ?_, hread.1.expected⟩
        rw [hread.1.hashed, hempty, List.append_nil]
      · refine ⟨_, hread.2, ?_⟩
        intro event hevent
        rw [List.mem_singleton.mp hevent]
        rfl
    · intro f s₁ hread
      obtain ⟨files, hfiles, hfile⟩ := hread.files
      exact ⟨files, hfiles, fun event hevent => isCall_of_isRead (isRead_of_isFile (hfile event hevent))⟩

lemma finish_ends (ht : Tracks expected s' h' t) (hreader : s.reader = s'.reader) :
    Ends (finish outside sha256) s
      (fun _ s'' => ∃ probe, s''.history = s.history ++ probe ∧ Finished sha256 expected t probe)
      (fun _ s'' => Uncalled s.history s''.history) := by
  have hu : Uncalled s.history s.history := Grows.refl s.history
  rw [finish, ends_bind, ends_get, ends_bind, ends_ensure]
  refine ⟨fun hclean => ?_, fun _ => hu⟩
  have hclean := Option.isNone_iff_eq_none.mp hclean
  rw [ends_bind, ends_ensure]
  refine ⟨fun hlength => ?_, fun _ => hu⟩
  apply (finishEof_ends ht hreader hclean hlength).bind
  · intro _ s₁ heof
    obtain ⟨probe, hprobe, hproven, hhashed, hexpected⟩ := heof
    rw [ends_bind, ends_get, ends_ensure]
    refine ⟨fun hdigest => ⟨probe, hprobe, ?_⟩, fun _ => ⟨probe, hprobe, ?_⟩⟩
    · rw [hreader] at hlength hhashed hexpected hclean
      rw [ht.observed, ht.snapshot] at hlength
      rw [hhashed, hexpected, ht.hashed, ht.snapshot] at hdigest
      exact ⟨ht.clean hclean, hlength, hdigest, hproven⟩
    · intro event hevent
      obtain ⟨rfl, -⟩ | rfl := hproven
      · cases hevent
      · rw [List.mem_singleton.mp hevent]
        rfl
  · intro _ _ he
    exact he

end Finish

section Inspection

variable {outside : Outside} {sha256 : Bytes → Digest} {expected : StableFileSnapshot}
  {h h₀ t : History} {α : Type}

/-- The events of a file inspection that has succeeded. -/
structure InspectedFile (sha256 : Bytes → Digest) (expected : StableFileSnapshot)
    (opening session closing : History) : Prop where
  accepted : ∀ event ∈ opening ++ session ++ [.inspected] ++ closing, event.Accepted expected
  handed : handedBytes (opening ++ session ++ [.inspected] ++ closing) = handedBytes session
  probes : ∀ probe, .metadata probe (.ok expected.metadata) ∈ closing
  length : (handedBytes session).length = expected.metadata.byteLength.toNat
  digest : sha256 (handedBytes session) = expected.sha256
  eof : EofProven (session ++ [.inspected] ++ closing)

lemma streaming_ends {ε : Type} {reader : Reader} {x : Stateful ε StreamState α}
    {Q : Except ε α × Reader → History → Prop} {E : Failure → History → Prop} :
    Ends (streaming reader x) h Q E ↔
      Ends x ⟨reader, h⟩ (fun a s => Q (.ok a, s.reader) s.history)
        (fun e s => Q (.error e, s.reader) s.history) := by
  have hrun : exec (streaming reader x) h = (.ok ((exec x ⟨reader, h⟩).1, (exec x ⟨reader, h⟩).2.reader),
      (exec x ⟨reader, h⟩).2.history) := rfl
  rw [Ends, hrun, Ends]
  rcases exec x ⟨reader, h⟩ with ⟨_ | a, s⟩ <;> rfl

lemma isCall_of_reads (h : ∀ event ∈ t, event.isRead) : ∀ event ∈ t, event.isCall = false :=
  fun event hevent => isCall_of_isRead (h event hevent)

lemma inspectionOutcome_ends {s : StreamState} {inspection : Except Failure α}
    (ht : Tracks expected s h t) :
    Ends (inspectionOutcome outside sha256 s.reader inspection) s.history
      (fun r h' => (r.1 = expected.metadata.byteLength ∧ r.2.1 = expected.sha256) ∧
        ∃ probe, Observes expected [] (h ++ t ++ [.inspected] ++ probe) h' ∧
          Finished sha256 expected t probe ∧ Uncalled h h')
      (fun _ h' => Uncalled h h') := by
  have hu : Uncalled h s.history := ⟨t, ht.history, isCall_of_reads ht.reads⟩
  cases inspection with
  | error e =>
    rw [inspectionOutcome]
    split
    · exact hu
    · exact hu
  | ok parsed =>
    have hinspected : Uncalled h (s.history ++ [.inspected]) := hu.snoc rfl
    rw [inspectionOutcome, ends_bind, ends_modify, ends_bind, streaming_ends]
    refine (@finish_ends outside sha256 expected ⟨s.reader, s.history ++ [.inspected]⟩ s h t ht rfl).imp ?_ ?_
    · intro _ s₁ hfinish
      obtain ⟨probe, hprobe, hfinished⟩ := hfinish
      rw [ht.history] at hprobe
      rw [ends_bind, ends_lift]
      refine ⟨fun _ _ => ?_, fun _ h => (by cases h)⟩
      have hcalls : Uncalled h (h ++ t ++ [.inspected] ++ probe) := by
        rw [← ht.history]
        refine hinspected.trans ⟨probe, rfl, ?_⟩
        intro event hevent
        obtain ⟨rfl, -⟩ | rfl := hfinished.eof
        · cases hevent
        · rw [List.mem_singleton.mp hevent]
          rfl
      apply (act_ends (Observes.refl expected s₁.history)).bind
      · intro _ h₁ ho
        rw [ends_pure]
        rw [hprobe] at ho
        rw [ht.snapshot]
        exact ⟨⟨rfl, rfl⟩, probe, ho, hfinished, hcalls.trans ho.uncalled⟩
      · intro e h₁ he
        rw [hprobe] at he
        exact hcalls.trans he
    · intro e s₁ he
      rw [ends_bind, ends_lift]
      exact ⟨fun _ h => (by cases h), fun _ _ => hinspected.trans he⟩

lemma finishFileInspection_error {e : Failure} {postcheck : Except Failure Unit} :
    ∀ a, finishFileInspection (.error e : Except Failure α) postcheck ≠ .ok a := by
  intro a h
  cases postcheck <;> cases h

lemma handedBytes_quiet (ht : ∀ event ∈ t, event.Quiet expected) : handedBytes t = [] :=
  List.flatMap_eq_nil_iff.mpr fun event hevent => (ht event hevent).2

lemma inspectedFile_of_finished {opening probe hook post : History}
    (hopening : ∀ event ∈ opening, event.Quiet expected) (hfinished : Finished sha256 expected t probe) (hhook : ∀ event ∈ hook, event.Quiet expected)
    (hpost : ∀ event ∈ post, event.Quiet expected)
    (hprobes : ∀ probe, .metadata probe (.ok expected.metadata) ∈ post) :
    InspectedFile sha256 expected opening t (probe ++ hook ++ post) := by
  have hprobe : ∀ event ∈ probe, event.Quiet expected := by
    intro event hevent
    obtain ⟨rfl, -⟩ | rfl := hfinished.eof
    · cases hevent
    · rw [List.mem_singleton.mp hevent]
      exact ⟨True.intro, rfl⟩
  have hclosing : ∀ event ∈ probe ++ hook ++ post, event.Quiet expected :=
    List.forall_mem_append.mpr ⟨List.forall_mem_append.mpr ⟨hprobe, hhook⟩, hpost⟩
  refine ⟨?_, ?_, fun p => List.mem_append_right _ (hprobes p), hfinished.length, hfinished.digest, ?_⟩
  · refine List.forall_mem_append.mpr ⟨List.forall_mem_append.mpr ⟨List.forall_mem_append.mpr
      ⟨?_, ?_⟩, ?_⟩, fun event hevent => (hclosing event hevent).1⟩
    · exact fun event hevent => (hopening event hevent).1
    · exact fun event hevent => accepted_of_isGoodRead (hfinished.good event hevent)
    · intro event hevent
      rw [List.mem_singleton.mp hevent]
      exact True.intro
  · rw [handedBytes_append, handedBytes_append, handedBytes_append, handedBytes_quiet hopening,
      handedBytes_quiet hclosing]
    simp [handedBytes, Event.handedPart]
  · obtain ⟨rfl, hproven⟩ | rfl := hfinished.eof
    · rw [List.append_assoc]
      apply hproven.append
      rw [handedBytes_append, handedBytes_quiet hclosing]
      rfl
    · refine ⟨t ++ [.inspected], hook ++ post, by simp, ?_⟩
      rw [handedBytes_append (t ++ [Event.inspected]), handedBytes_quiet hclosing, List.append_nil]

lemma inspectFileStream_ends {Parsed : Type} {maxBytes : ℕ} {root : RootSnapshot} {role : StreamRole}
    {relative : Bytes} {inspect : UInt64 → Digest → Inspector Parsed} :
    Ends (inspectFileStream outside sha256 maxBytes root role relative inspect) h
      (fun r h' => ∃ expected opening session closing, root[relative]? = some expected ∧
        r.1 = expected.metadata.byteLength ∧ r.2.1 = expected.sha256 ∧
        h' = h ++ (opening ++ session ++ [.inspected] ++ closing) ∧
        InspectedFile sha256 expected opening session closing)
      (fun _ h' => Uncalled h h') := by
  rw [inspectFileStream]
  refine openFileStream_ends.bind ?_ fun _ _ he => he
  intro expected h₁ hopen
  obtain ⟨hexpected, ho⟩ := hopen
  refine (contextual_ends (act_ends ho)).bind ?_ fun _ _ he => he
  intro _ h₂ ho
  obtain ⟨opening, hopening, hquiet, -⟩ := id ho
  rw [ends_bind, streaming_ends]
  have hsession : ∀ (inspection : Except Failure Parsed) (s : StreamState),
      (∃ t, Tracks expected s h₂ t) →
        Ends (do
          let outcome ← attempt (inspectionOutcome outside sha256 s.reader inspection)
          let postcheck ← attempt (filePostcheck outside expected)
          lift (finishFileInspection outcome postcheck)) s.history
          (fun r h' => ∃ expected opening session closing, root[relative]? = some expected ∧
            r.1 = expected.metadata.byteLength ∧ r.2.1 = expected.sha256 ∧
            h' = h ++ (opening ++ session ++ [.inspected] ++ closing) ∧
            InspectedFile sha256 expected opening session closing)
          (fun _ h' => Uncalled h h') := by
    intro inspection s htracks
    obtain ⟨t, ht⟩ := htracks
    rw [ends_bind, ends_attempt]
    refine (inspectionOutcome_ends ht).imp ?_ ?_
    · intro r h₃ houtcome
      obtain ⟨⟨hbytes, hdigest⟩, probe, hhook, hfinished, hu⟩ := houtcome
      have hu := ho.uncalled.trans hu
      rw [ends_bind, ends_attempt]
      refine filePostcheck_ends.imp ?_ ?_
      · intro _ h₄ hpost
        rw [ends_lift]
        refine ⟨?_, fun _ herror => (by cases herror)⟩
        intro a ha
        obtain rfl := Except.ok.inj ha
        obtain ⟨hooked, rfl, hhooked, -⟩ := hhook
        obtain ⟨post, rfl, hposted, hprobes⟩ := hpost
        refine ⟨expected, opening, t, probe ++ hooked ++ post, hexpected, hbytes, hdigest, ?_,
          inspectedFile_of_finished hquiet hfinished hhooked hposted ?_⟩
        · rw [hopening]
          simp only [List.append_assoc]
        · intro p
          apply hprobes
          cases p <;> decide
      · intro e h₄ he
        rw [ends_lift]
        exact ⟨fun _ h => (by cases h), fun _ _ => hu.trans he⟩
    · intro e h₃ he
      have hu := ho.uncalled.trans he
      rw [ends_bind, ends_attempt]
      refine filePostcheck_ends.imp ?_ ?_
      · intro _ h₄ hpost
        rw [ends_lift]
        exact ⟨fun a ha => absurd ha (finishFileInspection_error a), fun _ _ => hu.trans hpost.uncalled⟩
      · intro e h₄ he
        rw [ends_lift]
        exact ⟨fun a ha => absurd ha (finishFileInspection_error a), fun _ _ => hu.trans he⟩
  exact (Inspector.run_ends (inspect expected.metadata.byteLength expected.sha256)
    (tracks_new (text relative) expected h₂)).imp (fun a s ht => hsession (.ok a) s ht)
      fun e s ht => hsession (.error e) s ht

end Inspection

section Delivery

variable {outside : Outside} {sha256 : Bytes → Digest} {roots : List RootSnapshot} {request : StreamRequest}
  {h : History}

/-- Everything that authenticates a stream has succeeded, in its order. -/
structure Authenticated (sha256 : Bytes → Digest) (expected : StableFileSnapshot) (t : History) : Prop where
  accepted : ∀ event ∈ t, event.Accepted expected
  phases : ∃ opening session closing, t = [.acted .recheck (.ok ())] ++ opening ++ session ++ [.inspected] ++
    closing ++ [.acted .recheck (.ok ())] ∧ handedBytes session = handedBytes t ∧
      ∀ probe, .metadata probe (.ok expected.metadata) ∈ closing
  length : (handedBytes t).length = expected.metadata.byteLength.toNat
  digest : sha256 (handedBytes t) = expected.sha256
  eof : EofProven t

def requested (roots : List RootSnapshot) (request : StreamRequest) : Option StableFileSnapshot :=
  roots[request.rootIndex]?.bind fun root => root[request.relative]?

/-- One call of the callback, with the retained file, behind its authentication. -/
def Delivered (sha256 : Bytes → Digest) (roots : List RootSnapshot) (request : StreamRequest)
    (callback : Callback) (t : History) : Prop :=
  ∃ expected pre post, requested roots request = some expected ∧
    t = pre ++ [.called callback expected.metadata.byteLength expected.sha256] ++ post ∧
    Authenticated sha256 expected pre ∧ ∀ event ∈ post, event.isCall = false

lemma EofProven.prepend {t : History} (ht : EofProven t) (u : History) : EofProven (u ++ t) := by
  obtain ⟨before, after, rfl, hbefore⟩ := ht
  refine ⟨u ++ before, after, (List.append_assoc _ _ _).symm, ?_⟩
  rw [handedBytes_append, handedBytes_append, hbefore]

lemma authenticated_of_inspectedFile {expected : StableFileSnapshot} {opening session closing : History}
    (hi : InspectedFile sha256 expected opening session closing) :
    Authenticated sha256 expected ([.acted .recheck (.ok ())] ++
      (opening ++ session ++ [.inspected] ++ closing) ++ [.acted .recheck (.ok ())]) := by
  have hrecheck : handedBytes [Event.acted .recheck (.ok ())] = [] := rfl
  have hhanded : handedBytes ([.acted .recheck (.ok ())] ++ (opening ++ session ++ [.inspected] ++ closing) ++
      [.acted .recheck (.ok ())]) = handedBytes session := by
    rw [handedBytes_append, handedBytes_append, hrecheck, hi.handed, List.append_nil, List.nil_append]
  refine ⟨?_, ⟨opening, session, closing, ?_, hhanded.symm, hi.probes⟩, ?_, ?_, ?_⟩
  · refine List.forall_mem_append.mpr ⟨List.forall_mem_append.mpr ⟨?_, hi.accepted⟩, ?_⟩
    · exact List.forall_mem_singleton.mpr True.intro
    · exact List.forall_mem_singleton.mpr True.intro
  · simp only [List.append_assoc]
  · rw [hhanded]
    exact hi.length
  · rw [hhanded]
    exact hi.digest
  · apply EofProven.append _ hrecheck
    apply EofProven.prepend
    rw [List.append_assoc, List.append_assoc, ← List.append_assoc session]
    exact hi.eof.prepend opening

lemma settleInspection_ok {Parsed : Type} {reject : Parsed → Failure → Failure}
    {inspection : Except Failure (UInt64 × Digest × Parsed)} {postcheck : Except Failure Unit}
    {r : UInt64 × Digest × Parsed} :
    settleInspection reject inspection postcheck = .ok r ↔ inspection = .ok r ∧ postcheck = .ok () := by
  cases inspection <;> cases postcheck <;> simp [settleInspection]

lemma deliver_ends {α : Type} {callback : Callback} {byteLength : UInt64} {digest : Digest}
    {answer : History → Except Failure α} {Q : History → Prop}
    (hq : ∀ r, Q (h ++ [.called callback byteLength digest] ++ [.acted .recheck r])) :
    Ends (do
      let outcome ← attempt (call callback byteLength digest answer)
      let deliveryPostcheck ← attempt (act outside .recheck)
      lift (settleDelivery outcome deliveryPostcheck)) h (fun _ h' => Q h') (fun _ h' => Q h') := by
  have hsettle : ∀ outcome : Except Failure α,
      Ends (do
        let deliveryPostcheck ← attempt (act outside .recheck)
        lift (settleDelivery outcome deliveryPostcheck)) (h ++ [.called callback byteLength digest])
          (fun _ h' => Q h') (fun _ h' => Q h') := by
    intro outcome
    rw [ends_bind, ends_attempt]
    refine act_exact.imp ?_ ?_
    · intro _ h' hh'
      rw [ends_lift, hh']
      exact ⟨fun _ _ => hq _, fun _ _ => hq _⟩
    · intro e h' hh'
      rw [ends_lift, hh']
      exact ⟨fun _ _ => hq _, fun _ _ => hq _⟩
  rw [ends_bind, ends_attempt, call, ends_bind, ends_modify, ends_bind, ends_get, ends_lift]
  exact ⟨fun a _ => hsettle (.ok a), fun e _ => hsettle (.error e)⟩

lemma withFileStream_ends {Parsed α : Type} {callback : Callback} {maxBytes : ℕ} {client : Client Parsed α} :
    Ends (withFileStreamWithRejection outside sha256 callback maxBytes roots request client) h
      (fun _ h' => ∃ t, h' = h ++ t ∧ Delivered sha256 roots request callback t)
      (fun _ h' => Uncalled h h' ∨ ∃ t, h' = h ++ t ∧ Delivered sha256 roots request callback t) := by
  have hu : Uncalled h h := Grows.refl h
  rw [withFileStreamWithRejection, ends_bind, ends_lift]
  refine ⟨?_, fun _ _ => .inl hu⟩
  intro root hroot
  have hroot := context_ok.mp hroot
  apply act_exact.bind
  · intro _ h₁ hh₁
    subst hh₁
    have hu := hu.snoc (@rfl _ (Event.acted .recheck (.ok ())).isCall)
    have hfailed : ∀ (e : Failure) (h₂ : History), Uncalled h h₂ →
        Ends (do
          let postcheck ← attempt (act outside .recheck)
          let authenticated ← lift (settleInspection client.reject (.error e) postcheck)
          let outcome ← attempt (call callback authenticated.1 authenticated.2.1
            (client.deliver authenticated.1 authenticated.2.1 authenticated.2.2))
          let deliveryPostcheck ← attempt (act outside .recheck)
          lift (settleDelivery outcome deliveryPostcheck)) h₂
          (fun _ h' => ∃ t, h' = h ++ t ∧ Delivered sha256 roots request callback t)
          (fun _ h' => Uncalled h h' ∨ ∃ t, h' = h ++ t ∧ Delivered sha256 roots request callback t) := by
      intro e h₂ hu
      rw [ends_bind, ends_attempt]
      refine act_exact.imp ?_ ?_
      · intro _ h₃ hh₃
        rw [ends_bind, ends_lift, hh₃]
        exact ⟨fun r hr => absurd (settleInspection_ok.mp hr).1 (by simp), fun _ _ => .inl (hu.snoc rfl)⟩
      · intro e h₃ hh₃
        rw [ends_bind, ends_lift, hh₃]
        exact ⟨fun r hr => absurd (settleInspection_ok.mp hr).1 (by simp), fun _ _ => .inl (hu.snoc rfl)⟩
    rw [ends_bind, ends_attempt]
    refine inspectFileStream_ends.imp ?_ ?_
    · intro r h₂ hinspected
      obtain ⟨expected, opening, session, closing, hexpected, hbytes, hdigest, hh₂, hi⟩ := hinspected
      subst hh₂
      have hu := hu.trans ⟨_, rfl, fun event hevent => isCall_of_accepted (hi.accepted event hevent)⟩
      rw [ends_bind, ends_attempt]
      refine act_exact.imp ?_ ?_
      · intro _ h₃ hh₃
        rw [ends_bind, ends_lift, hh₃]
        refine ⟨?_, fun _ _ => .inl (hu.snoc rfl)⟩
        intro a ha
        obtain rfl := Except.ok.inj (settleInspection_ok.mp ha).1
        refine (@deliver_ends outside _ α callback _ _ _
          (fun h' => ∃ t, h' = h ++ t ∧ Delivered sha256 roots request callback t) ?_).imp
          (fun _ _ hq => hq) fun _ _ hq => .inr hq
        intro answer
        refine ⟨_, ?_, expected, _, [.acted .recheck answer], ?_, rfl, authenticated_of_inspectedFile hi, ?_⟩
        · rw [hbytes, hdigest]
          simp only [List.append_assoc]
        · rw [requested, hroot]
          exact hexpected
        · exact List.forall_mem_singleton.mpr rfl
      · intro e h₃ hh₃
        rw [ends_bind, ends_lift, hh₃]
        exact ⟨fun a ha => absurd (settleInspection_ok.mp ha).2 (by simp), fun _ _ => .inl (hu.snoc rfl)⟩
    · intro e h₂ he
      exact hfailed e h₂ (hu.trans he)
  · intro e h₁ hh₁
    rw [hh₁]
    exact .inl (hu.snoc rfl)

/-- Two replays that each authenticate the file. -/
def DeliveredTwice (sha256 : Bytes → Digest) (roots : List RootSnapshot) (request : StreamRequest)
    (t : History) : Prop :=
  ∃ first second, t = first ++ [.acted .between (.ok ())] ++ [.acted .recheck (.ok ())] ++ second ∧
    Delivered sha256 roots request .retainFirst first ∧ Delivered sha256 roots request .deliver second

def Undelivered (t : History) : Prop := ∀ byteLength digest, .called .deliver byteLength digest ∉ t

lemma undelivered_of_uncalled {t : History} (ht : ∀ event ∈ t, event.isCall = false) : Undelivered t := by
  intro byteLength digest hevent
  have hcall := ht _ hevent
  cases hcall

lemma undelivered_append {t u : History} (ht : Undelivered t) (hu : Undelivered u) : Undelivered (t ++ u) :=
  fun byteLength digest hevent =>
    (List.mem_append.mp hevent).elim (ht byteLength digest) (hu byteLength digest)

lemma undelivered_of_retained {t : History} (ht : Delivered sha256 roots request .retainFirst t) :
    Undelivered t := by
  obtain ⟨expected, pre, post, -, rfl, hauthenticated, hpost⟩ := ht
  refine undelivered_append (undelivered_append ?_ ?_) (undelivered_of_uncalled hpost)
  · exact undelivered_of_uncalled fun event hevent =>
      isCall_of_accepted (hauthenticated.accepted event hevent)
  · intro byteLength digest hevent
    cases List.mem_singleton.mp hevent

lemma withFileReplayStreams_ends {First Retained Replay α : Type} {maxBytes : ℕ}
    {client : ReplayClient First Retained Replay α} :
    Ends (withFileReplayStreamsWithRejection outside sha256 maxBytes roots request client) []
      (fun _ t => DeliveredTwice sha256 roots request t)
      (fun _ t => Undelivered t ∨ DeliveredTwice sha256 roots request t) := by
  rw [withFileReplayStreamsWithRejection]
  apply withFileStream_ends.bind
  · intro retained h₁ hfirst
    obtain ⟨_, rfl, hfirst⟩ := hfirst
    have hretained := undelivered_of_retained hfirst
    have hsnoc : ∀ {t : History} (event : Event), Undelivered t → event.isCall = false →
        Undelivered (t ++ [event]) := fun event ht hevent =>
      undelivered_append ht (undelivered_of_uncalled (List.forall_mem_singleton.mpr hevent))
    apply act_exact.bind
    · intro _ h₂ hh₂
      subst hh₂
      have hbetween := hsnoc (.acted .between (.ok ())) hretained rfl
      apply act_exact.bind
      · intro _ h₃ hh₃
        subst hh₃
        have hrecheck := hsnoc (.acted .recheck (.ok ())) hbetween rfl
        refine withFileStream_ends.imp ?_ ?_
        · intro _ h₄ hsecond
          obtain ⟨second, rfl, hsecond⟩ := hsecond
          exact ⟨h₁, second, rfl, hfirst, hsecond⟩
        · intro e h₄ hsecond
          obtain hsecond | hsecond := hsecond
          · obtain ⟨t, rfl, ht⟩ := hsecond
            exact .inl (undelivered_append hrecheck (undelivered_of_uncalled ht))
          · obtain ⟨second, rfl, hsecond⟩ := hsecond
            exact .inr ⟨h₁, second, rfl, hfirst, hsecond⟩
      · intro e h₃ hh₃
        rw [hh₃]
        exact .inl (hsnoc _ hbetween rfl)
    · intro e h₂ hh₂
      rw [hh₂]
      exact .inl (hsnoc _ hretained rfl)
  · intro e h₁ he
    obtain he | he := he
    · obtain ⟨t, rfl, ht⟩ := he
      exact .inl (undelivered_of_uncalled ht)
    · obtain ⟨t, rfl, ht⟩ := he
      exact .inl (undelivered_of_retained ht)

/-- Authenticated streaming delivers exactly the retained file or nothing. -/
theorem authenticated_streaming (outside : Outside) (sha256 : Bytes → Digest) :
    (∀ (α : Type) (inspector : Inspector α) (diagnostic : String) (expected : StableFileSnapshot)
      (h : History) (r : Except Failure α) (s : StreamState),
      exec (inspector.run outside) ⟨Reader.new diagnostic expected, h⟩ = (r, s) →
        ∃ session, s.history = h ++ session ∧
          (handedBytes session).length ≤ expected.metadata.byteLength.toNat ∧
          s.reader.hashed = handedBytes session ∧ (answers session).Pairwise Persists) ∧
    (∀ (Parsed α : Type) (callback : Callback) (maxBytes : ℕ) (roots : List RootSnapshot)
      (request : StreamRequest) (client : Client Parsed α) (r : Except Failure α) (t : History),
      exec (withFileStreamWithRejection outside sha256 callback maxBytes roots request client) [] = (r, t) →
        (∀ event ∈ t, event.isCall = false) ∨ Delivered sha256 roots request callback t) ∧
    ∀ (First Retained Replay α : Type) (maxBytes : ℕ) (roots : List RootSnapshot)
      (request : StreamRequest) (client : ReplayClient First Retained Replay α) (r : Except Failure α)
      (t : History),
      exec (withFileReplayStreamsWithRejection outside sha256 maxBytes roots request client) [] = (r, t) →
        Undelivered t ∨ DeliveredTwice sha256 roots request t := by
  refine ⟨?_, ?_, ?_⟩
  · intro α inspector diagnostic expected h r s hrun
    have hends : Ends (inspector.run outside) ⟨Reader.new diagnostic expected, h⟩
        (fun _ s' => ∃ t, Tracks expected s' h t) (fun _ s' => ∃ t, Tracks expected s' h t) :=
      inspector.run_ends (tracks_new diagnostic expected h)
    obtain ⟨t, ht⟩ : ∃ t, Tracks expected s h t := by
      cases r with
      | ok a => exact hends.ok hrun
      | error e => exact hends.error hrun
    exact ⟨t, ht.history, ht.bound, ht.hashed, ht.persists⟩
  · intro Parsed α callback maxBytes roots request client r t hrun
    have hends := @withFileStream_ends outside sha256 roots request [] Parsed α callback maxBytes client
    cases r with
    | ok a =>
      obtain ⟨t, rfl, ht⟩ := hends.ok hrun
      exact .inr ht
    | error e =>
      obtain he | he := hends.error hrun
      · obtain ⟨t, rfl, ht⟩ := he
        exact .inl ht
      · obtain ⟨t, rfl, ht⟩ := he
        exact .inr ht
  · intro First Retained Replay α maxBytes roots request client r t hrun
    have hends := @withFileReplayStreams_ends outside sha256 roots request First Retained Replay α maxBytes client
    cases r with
    | ok a => exact .inr (hends.ok hrun)
    | error e => exact hends.error hrun

end Delivery

end Eip0045.Custody
