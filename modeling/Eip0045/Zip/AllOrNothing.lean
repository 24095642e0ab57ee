import Eip0045.Zip.Acceptance

/-! The writer rejects before its first write, or emits one string on every stream. -/

namespace Eip0045.CanonicalZip

open Bytes Checked Packed

variable {L : Library} {S : Stream} {α β : Type}

section Rejecting

/-- Whatever the check raises is a rejection. -/
def Rejecting (x : Result α) : Prop :=
  ∀ raised, x = .error raised → ∃ code detail, raised = .zipRejection code detail

lemma rejecting_ok (a : α) : Rejecting (.ok a : Result α) := by
  intro raised h
  cases h

lemma rejecting_require {c : Prop} [Decidable c] {code : String} : Rejecting (require c code) := by
  intro raised h
  rw [require, ensure] at h
  split at h
  · cases h
  · exact ⟨code, "", (Except.error.inj h).symm⟩

lemma rejecting_context {code detail : String} {o : Option α} :
    Rejecting (context (.zipRejection code detail) o : Result α) := by
  intro raised h
  cases o with
  | none => exact ⟨code, detail, (Except.error.inj h).symm⟩
  | some a => cases h

lemma Rejecting.bind {x : Result α} {f : α → Result β} (hx : Rejecting x)
    (hf : ∀ a, x = .ok a → Rejecting (f a)) : Rejecting (x >>= f) := by
  intro raised h
  cases hrun : x with
  | error e =>
    rw [hrun] at h
    cases Except.error.inj h
    exact hx raised hrun
  | ok a =>
    rw [hrun] at h
    exact hf a hrun raised h

lemma rejecting_then {c : Prop} [Decidable c] {code : String} {y : Unit → Result β}
    (hy : c → Rejecting (y ())) : Rejecting (require c code >>= y) := by
  apply rejecting_require.bind
  intro _ h
  rw [require, ensure_ok] at h
  exact hy h

lemma decodeAscii_printable {rawName : Bytes}
    (h : rawName.all fun value => 0x20 ≤ value ∧ value ≤ 0x7e) :
    ∃ name, decodeAscii rawName = .ok name := by
  have hascii : rawName.all (fun value => value < 128) := by
    rw [List.all_eq_true] at h ⊢
    intro value hvalue
    have hle := (of_decide_eq_true (h value hvalue)).2
    rw [decide_eq_true_eq]
    rw [UInt8.le_iff_toNat_le] at hle
    rw [UInt8.lt_iff_toNat_lt]
    exact Nat.lt_of_le_of_lt hle (by decide)
  exact ⟨_, by rw [decodeAscii, ensure_pass hascii]; rfl⟩

lemma validateName_rejecting (rawName : Bytes) : Rejecting (validateName rawName) := by
  apply rejecting_then
  intro _
  apply rejecting_then
  intro hprintable
  obtain ⟨name, hname⟩ := decodeAscii_printable hprintable
  apply rejecting_then
  intro _
  apply rejecting_then
  intro _
  apply rejecting_then
  intro _
  rw [hname]
  exact rejecting_ok _

lemma coerceWriteName_rejecting (name : WriteName) : Rejecting (coerceWriteName name) := by
  have hencode : Rejecting (encodeName name) := by
    cases name with
    | str name => exact rejecting_context
    | bytes rawName => exact rejecting_ok _
  apply hencode.bind
  intro rawName _
  apply (validateName_rejecting rawName).bind
  intro decoded _
  apply rejecting_then
  intro _
  exact rejecting_ok _

lemma collectEntry_rejecting (exactNames foldedNames : List Bytes) (total : ℕ)
    (source : SourceEntry) : Rejecting (collectEntry L exactNames foldedNames total source) := by
  apply (coerceWriteName_rejecting source.name).bind
  intro named _
  apply rejecting_then
  intro _
  apply rejecting_then
  intro _
  apply rejecting_then
  intro _
  apply rejecting_then
  intro _
  apply rejecting_then
  intro _
  exact rejecting_ok _

lemma collectEntries_rejecting (sources : List SourceEntry) (exactNames foldedNames : List Bytes)
    (total count : ℕ) : Rejecting (collectEntries L sources exactNames foldedNames total count) := by
  induction sources generalizing exactNames foldedNames total count with
  | nil => exact rejecting_ok _
  | cons source sources ih =>
    apply (collectEntry_rejecting exactNames foldedNames total source).bind
    intro entry _
    apply rejecting_then
    intro _
    apply (ih _ _ _ _).bind
    intro entries _
    exact rejecting_ok _

lemma validateWriteOrder_rejecting (entries : List Collected) :
    Rejecting (validateWriteOrder entries) := by
  apply rejecting_then
  intro hcount
  cases entries with
  | nil => exact absurd hcount.1 (by decide)
  | cons first rest =>
    apply rejecting_then
    intro _
    exact rejecting_require

lemma placeEntries_rejecting (entries : List Collected) (cursor : ℕ) :
    Rejecting (placeEntries entries cursor) := by
  induction entries generalizing cursor with
  | nil => exact rejecting_ok _
  | cons entry entries ih =>
    apply rejecting_then
    intro _
    apply (ih _).bind
    intro placed _
    exact rejecting_ok _

lemma prepare_rejecting (sources : List SourceEntry) :
    Rejecting (prepareWriteEntries L sources) := by
  apply (collectEntries_rejecting sources [] [] 0 0).bind
  intro collected _
  apply (validateWriteOrder_rejecting collected).bind
  intro _ _
  apply (placeEntries_rejecting collected 0).bind
  intro placed _
  apply rejecting_then
  intro _
  exact rejecting_ok _

end Rejecting

section Emits

/-- The run took all of these bytes, or it raised after the first of them; a rejection came from
the stream. -/
def Ended (bytes : Bytes) (sink : Sink S) : Result α × Sink S → Prop
  | (.ok _, next) => Took sink next bytes
  | (.error raised, next) => (∃ taken, taken <+: bytes ∧ Took sink next taken) ∧
      ∀ code detail, raised = .zipRejection code detail →
        ∃ earlier view, S.write earlier view = (.error raised, next.state)

def Emits (w : Writer S α) (bytes : Bytes) : Prop := ∀ sink, Ended bytes sink (w sink)

lemma Ended.prefixed {bytes : Bytes} {sink : Sink S} {run : Result α × Sink S}
    (h : Ended bytes sink run) : ∃ taken, taken <+: bytes ∧ Took sink run.2 taken := by
  obtain ⟨result, next⟩ := run
  cases result with
  | ok a => exact ⟨bytes, List.prefix_rfl, h⟩
  | error raised => exact h.1

lemma Ended.after {x y : Bytes} {sink middle : Sink S} {run : Result α × Sink S}
    (hx : Took sink middle x) (h : Ended y middle run) : Ended (x ++ y) sink run := by
  obtain ⟨result, next⟩ := run
  cases result with
  | ok a => exact hx.trans h
  | error raised =>
    obtain ⟨⟨taken, htaken, htook⟩, hraised⟩ := h
    have hinitial : x ++ taken <+: x ++ y := (List.prefix_append_right_inj x).mpr htaken
    exact ⟨⟨x ++ taken, hinitial, hx.trans htook⟩, hraised⟩

lemma Emits.bind {w : Writer S α} {f : α → Writer S β} {x y : Bytes} (hw : Emits w x)
    (hf : ∀ a, Emits (f a) y) : Emits (w >>= f) (x ++ y) := by
  intro sink
  have hrun := hw sink
  change Ended (x ++ y) sink (Writer.bind w f sink)
  rw [Writer.bind]
  cases hws : w sink with
  | mk result middle =>
    rw [hws] at hrun
    cases result with
    | error raised =>
      obtain ⟨⟨taken, htaken, htook⟩, hraised⟩ := hrun
      exact ⟨⟨taken, htaken.trans (List.prefix_append x y), htook⟩, hraised⟩
    | ok a => exact Ended.after hrun (hf a middle)

lemma emits_pure (a : α) : Emits (pure a : Writer S α) [] := fun sink => Took.refl sink

lemma writeExact_emits (view : Bytes) : Emits (writeExact S view) view := by
  intro sink
  have hnone : ∀ (sink : Sink S) (view : Bytes) (state : S.State),
      ∃ taken, taken <+: view ∧ Took sink { sink with state } taken :=
    fun sink view state => ⟨[], List.nil_prefix, by simp, by simp⟩
  fun_induction writeExact S view sink with
  | case1 sink => exact Took.refl sink
  | case2 view sink hview message state hwrite =>
    refine ⟨hnone sink view state, ?_⟩
    intro code detail h
    cases h
  | case3 view sink hview raised state hwrite hother =>
    refine ⟨hnone sink view state, ?_⟩
    intro code detail h
    exact ⟨sink.state, view, hother⟩
  | case4 view sink hview state hwrite =>
    refine ⟨hnone sink view state, ?_⟩
    intro code detail h
    cases h
  | case5 view sink hview written state hwrite hwritten taken ih =>
    have htaken : Took sink ⟨state, sink.delivered ++ taken, sink.digest ++ taken⟩ taken :=
      ⟨rfl, rfl⟩
    have hrest := Ended.after htaken ih
    rwa [List.take_append_drop] at hrest
  | case6 view sink hview written state hwrite hwritten =>
    refine ⟨hnone sink view state, ?_⟩
    intro code detail h
    cases h

lemma writeAll_emits (views : List Bytes) : Emits (writeAll S views) views.flatten := by
  induction views with
  | nil => exact emits_pure ()
  | cons view rest ih => exact (writeExact_emits view).bind fun _ => ih

lemma writeHeader_emits {format : Format} {fields : List ℕ} {header : Bytes}
    (h : pack format fields = some header) : Emits (writeHeader S format fields) header := by
  intro sink
  rw [writeHeader, h]
  exact writeExact_emits header sink

lemma writeLocals_emits {entries : List WriteEntry} {bytes : Bytes}
    (h : LocalsWritten entries bytes) : Emits (writeLocals S entries) bytes := by
  induction entries generalizing bytes with
  | nil =>
    cases h
    exact emits_pure ()
  | cons entry entries ih =>
    obtain ⟨rest, hrest, header, hpack, rfl⟩ := h
    have hdata := writeAll_emits (S := S) (dataChunks entry.data)
    rw [dataChunks_flatten] at hdata
    apply (writeHeader_emits hpack).bind
    intro _
    apply (writeExact_emits entry.rawName).bind
    intro _
    apply hdata.bind
    intro _
    exact ih hrest

lemma writeCentrals_emits {entries : List WriteEntry} {bytes : Bytes}
    (h : CentralsWritten entries bytes) : Emits (writeCentrals S entries) bytes := by
  induction entries generalizing bytes with
  | nil =>
    cases h
    exact emits_pure ()
  | cons entry entries ih =>
    obtain ⟨rest, hrest, header, hpack, rfl⟩ := h
    apply (writeHeader_emits hpack).bind
    intro _
    apply (writeExact_emits entry.rawName).bind
    intro _
    exact ih hrest

lemma writePrepared_emits {prepared : Prepared} {raw : Bytes}
    (h : ∀ entry ∈ prepared.entries, Writable L entry) (hraw : ArchiveWritten prepared raw) :
    Emits (writePrepared L S prepared) raw := by
  obtain ⟨locals, centrals, eocd, hlocals, hcentrals, heocd, rfl⟩ := hraw.parts
  obtain ⟨aggregate, haggregate⟩ := aggregate_returns h
  have hreport : ∀ u : Unit, Emits (do
      let artifactSha256 ← reportDigest L S
      let entriesAggregateSha256 ← Writer.lift (entriesAggregate L prepared.entries)
      pure (WriteReport.mk artifactSha256 prepared.outputSize prepared.entries.length
        (prepared.entries.map fun entry => entry.data.length).sum entriesAggregateSha256)) [] := by
    intro _ sink
    rw [haggregate]
    exact Took.refl sink
  have hend := (writeHeader_emits (S := S) heocd).bind hreport
  rw [List.append_nil] at hend
  apply (writeLocals_emits hlocals).bind
  intro _
  apply (writeCentrals_emits hcentrals).bind
  intro _
  exact hend

end Emits

section Canonical

lemma writeCanonical_cases (sources : List SourceEntry) (state : S.State) :
    (∃ raised, writeCanonical L S sources state = (.error raised, ⟨state, [], []⟩) ∧
      ((∃ code detail, raised = .zipRejection code detail) ∨ S.tell state = none)) ∨
    ∃ prepared, prepareWriteEntries L sources = .ok prepared ∧ S.tell state = some 0 ∧
      writeCanonical L S sources state = writePrepared L S prepared ⟨state, [], []⟩ := by
  cases hprepare : prepareWriteEntries L sources with
  | error raised =>
    have hrun : writeCanonical L S sources state = (.error raised, ⟨state, [], []⟩) := by
      rw [writeCanonical, writeCanonicalTo, hprepare]
      rfl
    exact .inl ⟨raised, hrun, .inl (prepare_rejecting sources raised hprepare)⟩
  | ok prepared =>
    have hrun : writeCanonical L S sources state =
        Writer.bind (requireStart S) (fun _ => writePrepared L S prepared) ⟨state, [], []⟩ := by
      rw [writeCanonical, writeCanonicalTo, hprepare]
      rfl
    cases htell : S.tell state with
    | none =>
      refine .inl ⟨.typeError "output must expose tell() and start at position zero", ?_, .inr rfl⟩
      rw [hrun, Writer.bind, requireStart]
      simp only [htell]
    | some position =>
      by_cases hzero : position = 0
      · refine .inr ⟨prepared, rfl, by rw [hzero], ?_⟩
        rw [hrun, Writer.bind, requireStart]
        simp only [htell, require, ensure_pass hzero]
      · refine .inl ⟨.zipRejection "output_not_empty" "", ?_, .inl ⟨_, _, rfl⟩⟩
        rw [hrun, Writer.bind, requireStart]
        simp only [htell, require, ensure, if_neg hzero]

lemma archive_exists {sources : List SourceEntry} {prepared : Prepared}
    (h : prepareWriteEntries L sources = .ok prepared) : ∃ raw, ArchiveWritten prepared raw := by
  obtain ⟨report, sink, hrun⟩ := memory_returns h
  rcases writeCanonical_cases sources emptyMemory with ⟨raised, hraised, -⟩ | ⟨again, hagain, -, hwrite⟩
  · rw [hrun] at hraised
    cases (Prod.mk.inj hraised).1
  · cases Except.ok.inj (h.symm.trans hagain)
    rw [hrun] at hwrite
    obtain ⟨raw, hraw, -⟩ := writePrepared_ok hwrite.symm
    exact ⟨raw, hraw⟩

/-- The writer rejects with its stream untouched, unless the stream itself raises the rejection. On
every stream it takes a first part of one string; on a stream that always makes progress it rejects
or takes that string whole, of the size computed beforehand, and reports its digest. -/
theorem writes_all_or_nothing (L : Library) (sources : List SourceEntry) :
    (∀ (S : Stream) (state : S.State) (code detail : String) (sink : Sink S),
      writeCanonical L S sources state = (.error (.zipRejection code detail), sink) →
        sink = ⟨state, [], []⟩ ∨ ∃ earlier view,
          S.write earlier view = (.error (.zipRejection code detail), sink.state)) ∧
    ∃ raw : Bytes, ∀ (S : Stream) (state : S.State),
      (writeCanonical L S sources state).2.delivered <+: raw ∧
      (Healthy S → S.tell state ≠ none →
        (∃ code detail, writeCanonical L S sources state =
          (.error (.zipRejection code detail), ⟨state, [], []⟩)) ∨
        ∃ prepared report sink, prepareWriteEntries L sources = .ok prepared ∧
          writeCanonical L S sources state = (.ok report, sink) ∧ sink.delivered = raw ∧
          raw.length = prepared.outputSize ∧ report.byteSize = raw.length ∧
          report.artifactSha256 = L.sha256 raw) := by
  refine ⟨?_, ?_⟩
  · intro S state code detail sink hrun
    rcases writeCanonical_cases (L := L) sources state with
      ⟨raised, hraised, -⟩ | ⟨prepared, hprepare, -, hwrite⟩
    · rw [hrun] at hraised
      exact .inl (Prod.mk.inj hraised).2
    · obtain ⟨raw, hraw⟩ := archive_exists hprepare
      have hended := writePrepared_emits (S := S) (prepare_ok hprepare).writable hraw ⟨state, [], []⟩
      rw [← hwrite, hrun] at hended
      exact .inr (hended.2 code detail rfl)
  · cases hprepare : prepareWriteEntries L sources with
    | error raised =>
      refine ⟨[], ?_⟩
      intro S state
      rcases writeCanonical_cases (L := L) sources state with
        ⟨raised', hraised, hwhy⟩ | ⟨prepared, hok, -⟩
      · rw [hraised]
        refine ⟨List.prefix_rfl, ?_⟩
        intro _ htell
        obtain ⟨code, detail, rfl⟩ := hwhy.resolve_right htell
        exact .inl ⟨code, detail, rfl⟩
      · rw [hprepare] at hok
        cases hok
    | ok prepared =>
      obtain ⟨raw, hraw⟩ := archive_exists hprepare
      refine ⟨raw, ?_⟩
      intro S state
      rcases writeCanonical_cases (L := L) sources state with
        ⟨raised', hraised, hwhy⟩ | ⟨again, hagain, htell, hwrite⟩
      · rw [hraised]
        refine ⟨List.nil_prefix, ?_⟩
        intro _ htell
        obtain ⟨code, detail, rfl⟩ := hwhy.resolve_right htell
        exact .inl ⟨code, detail, rfl⟩
      · cases Except.ok.inj (hprepare.symm.trans hagain)
        have hwell := prepare_ok hprepare
        have hended := writePrepared_emits (S := S) hwell.writable hraw ⟨state, [], []⟩
        rw [← hwrite] at hended
        obtain ⟨taken, htaken, htook⟩ := hended.prefixed
        have hdelivered : (writeCanonical L S sources state).2.delivered = taken := htook.delivered
        refine ⟨hdelivered ▸ htaken, ?_⟩
        intro hS _
        obtain ⟨report, sink, hrun⟩ := writeCanonical_returns hS htell hprepare
        rw [hrun] at hended hwrite
        have hsink : sink.delivered = raw := hended.delivered
        obtain ⟨again, -, htookAgain, hreport⟩ := writePrepared_ok hwrite.symm
        have hsame : sink.delivered = again := htookAgain.delivered
        have hreported := hreport rfl
        rw [← hsame, hsink] at hreported
        have hlength := written_length hwell hraw
        exact .inr ⟨prepared, report, sink, rfl, hrun, hsink, hlength,
          hreported.byteSize.trans hlength.symm, hreported.artifactSha256⟩

end Canonical

end Eip0045.CanonicalZip
