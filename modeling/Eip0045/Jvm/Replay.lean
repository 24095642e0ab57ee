import Mathlib
import Eip0045.Jvm.Manifest
import Eip0045.Library.SortedMap
import Eip0045.Library.Keyed

/-! What an accepted COPY-ONLY manifest says of the archive that is copied from its inputs. -/

namespace Eip0045.JvmPackaging

open Bytes Checked Jcs

section Loop

structure Entry where
  name : Bytes
  source : Bytes
  byteLength : ℕ

structure Reads (json : Json) (e : Entry) : Prop where
  name : stringField json "name" = .ok e.name
  sourceName : stringField json "sourceEntryName" = .ok e.name
  source : stringField json "sourceInputId" = .ok e.source
  byteLength : u64Field json "byteLength" = .ok e.byteLength

/-- What the loop has established of the entries read so far. -/
structure Facts (mainClassEntry : Bytes) (es : List Entry) (scan : Scan) : Prop where
  names : scan.outputNames = (es.map Entry.name).reverse
  folded : scan.foldedOutputNames = (es.map fun e => B4Tree.toAsciiLowercase e.name).reverse
  distinct : (es.map fun e => B4Tree.toAsciiLowercase e.name).Nodup
  previous : scan.previousNonManifestName = (es.tail.map Entry.name).getLast?
  increasing : (es.tail.map Entry.name).IsChain (· < ·)
  entrypoints : ∀ e ∈ es, e.name = manifestName ∨ e.name = mainClassEntry → e.source = application
  applications : scan.applicationEntries = es.countP fun e => e.source = application
  total : scan.totalBytes = (es.map Entry.byteLength).sum
  largest : scan.largestEntry = (es.map Entry.byteLength).foldl max 0
  classes : scan.classEntries = es.countP fun e => isClass e.name
  manifest : ∀ e ∈ es, e.name = manifestName → scan.manifestEntryLength = some e.byteLength

lemma addChecked_ok {a b c : ℕ} {overflow : String} : addChecked a b overflow = .ok c ↔ a + b < 2 ^ 64 ∧ a + b = c := by
  rw [addChecked, context_ok, checkedAdd_eq_some]

lemma countWhen_ok {c : Prop} [Decidable c] {count next : ℕ} {overflow : String}
    (h : countWhen c count overflow = .ok next) : next = count + if c then 1 else 0 := by
  rw [countWhen] at h
  by_cases hc : c
  · rw [if_pos hc] at h
    rw [if_pos hc, (addChecked_ok.mp h).2]
  · rw [if_neg hc] at h
    rw [if_neg hc, Except.ok.inj h, Nat.add_zero]

lemma facts_empty (mainClassEntry : Bytes) : Facts mainClassEntry [] Scan.empty where
  names := rfl
  folded := rfl
  distinct := List.nodup_nil
  previous := rfl
  increasing := .nil
  entrypoints _ h := absurd h List.not_mem_nil
  applications := rfl
  total := rfl
  largest := rfl
  classes := rfl
  manifest _ h := absurd h List.not_mem_nil

lemma Facts.names_nodup {mainClassEntry : Bytes} {es : List Entry} {scan : Scan} (h : Facts mainClassEntry es scan) :
    (es.map Entry.name).Nodup := by
  have hmap : (es.map fun e => B4Tree.toAsciiLowercase e.name) = (es.map Entry.name).map B4Tree.toAsciiLowercase := by
    rw [List.map_map]
    rfl
  exact (hmap ▸ h.distinct).of_map _

lemma Facts.step {inputIds : List Bytes} {mainClassEntry : Bytes} {es : List Entry} {scan scan' : Scan} {json : Json}
    (h : Facts mainClassEntry es scan) (hscan : scanEntry inputIds mainClassEntry scan (json, es.length) = .ok scan') :
    ∃ e, Reads json e ∧ e.source ∈ inputIds ∧ Facts mainClassEntry (es ++ [e]) scan' := by
  simp only [scanEntry, bind_ok, exists_unit, ensure_ok, pure_ok] at hscan
  obtain ⟨name, hname, hnew, hfolded, horder, sourceName, hsourceName, hsame, source, hsource, hknown, hentry,
    applications, happlications, selected, -, -, byteLength, hlength, total, htotal, classes, hclasses, rfl⟩ := hscan
  subst hsame
  obtain ⟨-, rfl⟩ := addChecked_ok.mp htotal
  have happlications' := countWhen_ok happlications
  have hclasses' := countWhen_ok hclasses
  refine ⟨⟨sourceName, source, byteLength⟩, ⟨hname, hsourceName, hsource, hlength⟩, hknown, ?_⟩
  refine ⟨?_, ?_, ?_, ?_, ?_, ?_, ?_, ?_, ?_, ?_, ?_⟩
  · simp [h.names]
  · simp [h.folded]
  · rw [h.folded, List.mem_reverse] at hfolded
    rw [List.map_append, List.nodup_append]
    refine ⟨h.distinct, List.nodup_singleton _, fun a ha b hb heq => ?_⟩
    rw [List.map_singleton, List.mem_singleton] at hb
    exact hfolded (hb ▸ heq ▸ ha)
  · cases es with
    | nil => simp [h.previous]
    | cons first rest => simp
  · cases es with
    | nil => exact .nil
    | cons first rest =>
      simp only [List.cons_append, List.tail_cons, List.map_append, List.map_singleton]
      rw [List.isChain_append]
      refine ⟨h.increasing, .singleton _, fun a ha b hb => ?_⟩
      rw [List.head?_singleton, Option.mem_some_iff] at hb
      subst hb
      have hprevious := horder.resolve_left (by simp)
      rw [h.previous] at hprevious
      exact hprevious a ha
  · intro e he hentrypoint
    obtain he | he := List.mem_append.mp he
    · exact h.entrypoints e he hentrypoint
    · rw [List.mem_singleton] at he
      subst he
      exact hentry.resolve_left fun hnot => hnot hentrypoint
  · rw [List.countP_append, ← h.applications, List.countP_singleton, happlications']
    simp
  · simp [h.total]
  · simp [h.largest]
  · rw [List.countP_append, ← h.classes, List.countP_singleton, hclasses']
  · intro e he hmanifest
    obtain hold | hlast := List.mem_append.mp he
    · have hother : sourceName ≠ manifestName := by
        intro heq
        rw [h.names, List.mem_reverse] at hnew
        exact hnew (List.mem_map.mpr ⟨e, hold, hmanifest.trans heq.symm⟩)
      simp only [if_neg hother]
      exact h.manifest e hold hmanifest
    · rw [List.mem_singleton] at hlast
      subst hlast
      simp only at hmanifest
      simp [hmanifest]

lemma Facts.run {inputIds : List Bytes} {mainClassEntry : Bytes} {es : List Entry} {scan scan' : Scan}
    {entries : List Json} (h : Facts mainClassEntry es scan)
    (hscan : (entries.zipIdx es.length).foldlM (scanEntry inputIds mainClassEntry) scan = .ok scan') :
    ∃ es', List.Forall₂ Reads entries es' ∧ (∀ e ∈ es', e.source ∈ inputIds) ∧
      Facts mainClassEntry (es ++ es') scan' := by
  induction entries generalizing es scan with
  | nil =>
    rw [List.zipIdx_nil, List.foldlM_nil, pure_ok] at hscan
    subst hscan
    exact ⟨[], .nil, fun _ he => absurd he List.not_mem_nil, by rwa [List.append_nil]⟩
  | cons json entries ih =>
    rw [List.zipIdx_cons, List.foldlM_cons, bind_ok] at hscan
    obtain ⟨scan₁, hstep, hrest⟩ := hscan
    obtain ⟨e, hreads, hknown, hfacts⟩ := h.step hstep
    have hlength : es.length + 1 = (es ++ [e]).length := by simp
    rw [hlength] at hrest
    obtain ⟨es', hes', hsources, hall⟩ := ih hfacts hrest
    refine ⟨e :: es', .cons hreads hes', List.forall_mem_cons.mpr ⟨hknown, hsources⟩, ?_⟩
    rwa [List.append_assoc, List.singleton_append] at hall

end Loop

section Accepted

/-- The figures that the descriptor declares of an archive. -/
structure Figures (artifact : Json) (entryCount : ℕ) (scan : Scan) : Prop where
  directories : declared artifact "archive" "directoryEntryCount" = .ok 0
  regular : declared artifact "archive" "regularFileEntryCount" = .ok entryCount
  entries : declared artifact "archive" "entryCount" = .ok entryCount
  total : declared artifact "archive" "uncompressedByteLength" = .ok scan.totalBytes
  largest : declared artifact "archive" "largestEntryUncompressedByteLength" = .ok scan.largestEntry
  classes : declared artifact "classFiles" "classEntryCount" = .ok scan.classEntries
  others : declared artifact "nonClassFiles" "regularEntryCount" = .ok (entryCount - scan.classEntries)
  manifest : ∃ length, declared artifact "manifest" "manifestByteLength" = .ok length ∧
    scan.manifestEntryLength = some length

lemma checkFigures_ok {artifact : Json} {entryCount : ℕ} {scan : Scan}
    (h : checkFigures artifact entryCount scan = .ok ()) : Figures artifact entryCount scan ∧
      ∃ figures mainClassEntry, field artifact "manifest" = .ok figures ∧
        stringField figures "mainClassEntry" = .ok mainClassEntry ∧ mainClassEntry ∈ scan.outputNames := by
  simp only [checkFigures, bind_ok, exists_unit, ensure_ok] at h
  obtain ⟨_, hdirectories, rfl, -, _, hregular, rfl, _, hentries, rfl, _, htotal, rfl, _, hlargest, rfl, others, hothers,
    agree, hagree, rfl, length, hlength, hmanifest, figures, hfigures, mainClassEntry, hmain, hmem⟩ := h
  have hsubtract : others = entryCount - scan.classEntries := by
    rw [subtract] at hothers
    split at hothers
    · exact (Except.ok.inj hothers).symm
    · cases hothers
  simp only [classFiguresAgree, bind_ok] at hagree
  obtain ⟨classFiles, hclasses, hagree⟩ := hagree
  by_cases hsame : scan.classEntries = classFiles
  · subst hsame
    rw [if_pos rfl, bind_ok] at hagree
    obtain ⟨nonClassFiles, hnonClass, hagree⟩ := hagree
    rw [pure_ok, beq_iff_eq] at hagree
    subst hagree
    subst hsubtract
    exact ⟨⟨hdirectories, hregular, hentries, htotal, hlargest, hclasses, hnonClass, length, hlength, hmanifest⟩,
      figures, mainClassEntry, hfigures, hmain, hmem⟩
  · rw [if_neg hsame, pure_ok] at hagree
    cases hagree

/-- What an accepted manifest has established, entry by entry. -/
structure Accepted (manifest : BoundDocument) (artifact : Json) (entries : List Json) (es : List Entry)
    (scan : Scan) (mainClassEntry : Bytes) : Prop where
  listed : arrayField manifest.value "entries" = .ok entries
  reads : List.Forall₂ Reads entries es
  facts : Facts mainClassEntry es scan
  first : ∃ first rest, entries = first :: rest ∧ stringField first "name" = .ok manifestName
  figures : Figures artifact entries.length scan
  application : ∃ inputs input, arrayField manifest.value "inputs" = .ok inputs ∧ inputs[0]? = some input ∧
    u64Field input "regularEntryCount" = .ok scan.applicationEntries
  mainClass : ∃ manifestFigures, field artifact "manifest" = .ok manifestFigures ∧
    stringField manifestFigures "mainClassEntry" = .ok mainClassEntry
  mainClassListed : mainClassEntry ∈ scan.outputNames

lemma validate_accepted {manifest : BoundDocument} {descriptor : Json}
    (h : validateJvmCopyOnlyInclusionManifest manifest descriptor = .ok ()) :
    ∃ artifact entries es scan mainClassEntry, field descriptor "artifact" = .ok artifact ∧
      Accepted manifest artifact entries es scan mainClassEntry := by
  simp only [validateJvmCopyOnlyInclusionManifest, bind_ok, exists_unit, ensure_ok, item_ok] at h
  obtain ⟨artifact, hartifact, packaging, -, -, inputs, hinputs, closure, -, dependencies, -, -, input, hinput, -, -,
    generated, -, -, entries, hentries, first, hfirst, firstName, hfirstName, rfl, inputIds, -, -, manifestFigures,
    hmanifestFigures, mainClassEntry, hmain, scan, hscan, regular, hregular, rfl, -, -, -, hfigures, -, -, -⟩ := h
  obtain ⟨es, hreads, -, hfacts⟩ := (facts_empty mainClassEntry).run hscan
  obtain ⟨hfigures, figures, mainClassEntry', hsame, hmain', hlisted⟩ := checkFigures_ok hfigures
  rw [hmanifestFigures, Except.ok.injEq] at hsame
  subst hsame
  rw [hmain, Except.ok.injEq] at hmain'
  subst hmain'
  refine ⟨artifact, entries, es, scan, mainClassEntry, hartifact, hentries, hreads, hfacts, ?_, hfigures,
    ⟨inputs, input, hinputs, hinput, hregular⟩, ⟨manifestFigures, hmanifestFigures, hmain⟩, hlisted⟩
  cases entries with
  | nil => cases hfirst
  | cons other rest =>
    rw [List.getElem?_cons_zero, Option.some.injEq] at hfirst
    exact ⟨other, rest, rfl, hfirst ▸ hfirstName⟩

end Accepted

section Archives

abbrev Archives := Bytes → SortedMap Bytes Bytes

/-- An entry copied from the archive of its input, where it has the declared length. -/
def Copied (archives : Archives) (json : Json) (output : Bytes × Bytes) : Prop :=
  ∃ source sourceName, stringField json "name" = .ok output.1 ∧ stringField json "sourceInputId" = .ok source ∧
    stringField json "sourceEntryName" = .ok sourceName ∧ (archives source)[sourceName]? = some output.2 ∧
    u64Field json "byteLength" = .ok output.2.length

/-- The archive that is copied entry by entry in the order of the manifest. -/
def Copies (archives : Archives) (manifest : Json) (output : List (Bytes × Bytes)) : Prop :=
  ∃ entries, arrayField manifest "entries" = .ok entries ∧ List.Forall₂ (Copied archives) entries output

/-- The application archive has as many entries as its input declares. -/
def ApplicationSize (archives : Archives) (manifest : Json) : Prop :=
  ∃ inputs input, arrayField manifest "inputs" = .ok inputs ∧ inputs[0]? = some input ∧
    u64Field input "regularEntryCount" = .ok (archives application).size

/-- The copied archive, name by name and figure by figure. -/
structure ExactReplay (archives : Archives) (manifest artifact : Json) (output : List (Bytes × Bytes)) : Prop where
  folded : (output.map fun entry => B4Tree.toAsciiLowercase entry.1).Nodup
  ordered : ∃ content rest, output = (manifestName, content) :: rest ∧ (rest.map Prod.fst).Pairwise (· < ·)
  application : ∀ name content, (archives application)[name]? = some content → output.count (name, content) = 1
  listed : ∀ entry ∈ output, ∃ entries json, arrayField manifest "entries" = .ok entries ∧ json ∈ entries ∧
    Copied archives json entry
  entrypoints : ∃ figures mainClassEntry, field artifact "manifest" = .ok figures ∧
    stringField figures "mainClassEntry" = .ok mainClassEntry ∧ mainClassEntry ∈ output.map Prod.fst ∧
    ∀ entry ∈ output, entry.1 = manifestName ∨ entry.1 = mainClassEntry →
      (archives JvmPackaging.application)[entry.1]? = some entry.2
  directories : declared artifact "archive" "directoryEntryCount" = .ok 0
  regular : declared artifact "archive" "regularFileEntryCount" = .ok output.length
  entries : declared artifact "archive" "entryCount" = .ok output.length
  total : declared artifact "archive" "uncompressedByteLength" = .ok (output.map fun entry => entry.2.length).sum
  largest : declared artifact "archive" "largestEntryUncompressedByteLength" =
    .ok ((output.map fun entry => entry.2.length).foldl max 0)
  classes : declared artifact "classFiles" "classEntryCount" = .ok (output.countP fun entry => isClass entry.1)
  others : declared artifact "nonClassFiles" "regularEntryCount" = .ok (output.countP fun entry => !isClass entry.1)
  manifestLength : ∀ entry ∈ output, entry.1 = manifestName →
    declared artifact "manifest" "manifestByteLength" = .ok entry.2.length

/-- The copy of an entry that the loop has read. -/
structure CopyOf (archives : Archives) (e : Entry) (output : Bytes × Bytes) : Prop where
  name : output.1 = e.name
  found : (archives e.source)[output.1]? = some output.2
  byteLength : output.2.length = e.byteLength

variable {archives : Archives} {manifest : BoundDocument} {artifact : Json} {entries : List Json} {es : List Entry}
  {scan : Scan} {mainClassEntry : Bytes} {output : List (Bytes × Bytes)}

lemma copyOf {json : Json} {e : Entry} {entry : Bytes × Bytes} (hreads : Reads json e)
    (h : Copied archives json entry) : CopyOf archives e entry := by
  obtain ⟨source, sourceName, hname, hsource, hsourceName, hfound, hlength⟩ := h
  have hsame : entry.1 = e.name := Except.ok.inj (hname.symm.trans hreads.name)
  have hsourceSame : source = e.source := Except.ok.inj (hsource.symm.trans hreads.source)
  have hsourceNameSame : sourceName = e.name := Except.ok.inj (hsourceName.symm.trans hreads.sourceName)
  refine ⟨hsame, ?_, Except.ok.inj (hlength.symm.trans hreads.byteLength)⟩
  rw [hsame, ← hsourceNameSame, ← hsourceSame]
  exact hfound

lemma copies_of (hreads : List.Forall₂ Reads entries es) (h : List.Forall₂ (Copied archives) entries output) :
    List.Forall₂ (CopyOf archives) es output := by
  induction hreads generalizing output with
  | nil =>
    rw [List.forall₂_nil_left_iff.mp h]
    exact .nil
  | cons hfirst _ ih =>
    obtain ⟨entry, rest, hentry, hrest, rfl⟩ := List.forall₂_cons_left_iff.mp h
    exact .cons (copyOf hfirst hentry) (ih hrest)

lemma map_copies {α : Type} {f : Entry → α} {g : Bytes × Bytes → α} (h : List.Forall₂ (CopyOf archives) es output)
    (hfg : ∀ e entry, CopyOf archives e entry → f e = g entry) : es.map f = output.map g := by
  induction h with
  | nil => rfl
  | cons hentry _ ih => rw [List.map_cons, List.map_cons, hfg _ _ hentry, ih]

lemma countP_copies {p : Entry → Bool} {q : Bytes × Bytes → Bool} (h : List.Forall₂ (CopyOf archives) es output)
    (hpq : ∀ e entry, CopyOf archives e entry → p e = q entry) : es.countP p = output.countP q := by
  have hmap : es.map p = output.map q := map_copies h hpq
  have hcount : ∀ {β : Type} (r : β → Bool) (xs : List β), xs.countP r = (xs.map r).countP id := by
    intro β r xs
    rw [List.countP_map]
    rfl
  rw [hcount p, hcount q, hmap]

lemma application_selected (h : Accepted manifest artifact entries es scan mainClassEntry)
    (hcopies : List.Forall₂ (CopyOf archives) es output) (hsize : ApplicationSize archives manifest.value) {name : Bytes}
    (hname : name ∈ (archives application).toList.map Prod.fst) :
    ∃ e ∈ es, e.name = name ∧ e.source = application := by
  have hcount : (archives application).size = es.countP fun e => e.source = application := by
    obtain ⟨inputs, input, hinputs, hinput, hdeclared⟩ := hsize
    obtain ⟨inputs', input', hinputs', hinput', hdeclared'⟩ := h.application
    rw [hinputs, Except.ok.injEq] at hinputs'
    subst hinputs'
    rw [hinput, Option.some.injEq] at hinput'
    subst hinput'
    rw [hdeclared, Except.ok.injEq] at hdeclared'
    rw [hdeclared', h.facts.applications]
  have hselected : ((es.filter fun e => e.source = application).map Entry.name).Nodup :=
    h.facts.names_nodup.sublist (List.filter_sublist.map _)
  have hsubset : (es.filter fun e => e.source = application).map Entry.name ⊆
      (archives application).toList.map Prod.fst := by
    intro other hother
    obtain ⟨e, he, rfl⟩ := List.mem_map.mp hother
    obtain ⟨he, hsource⟩ := List.mem_filter.mp he
    obtain ⟨entry, -, hentry⟩ := Keyed.forall₂_mem_left hcopies he
    have hfound := hentry.found
    rw [of_decide_eq_true hsource, hentry.name] at hfound
    rw [SortedMap.mem_keys, hfound]
    exact Option.some_ne_none _
  have hperm := (List.subperm_of_subset hselected hsubset).perm_of_length_le (by
    rw [List.length_map, List.length_map, Std.ExtTreeMap.length_toList, hcount, List.countP_eq_length_filter])
  obtain ⟨e, he, heq⟩ := List.mem_map.mp (hperm.mem_iff.mpr hname)
  obtain ⟨he, hsource⟩ := List.mem_filter.mp he
  exact ⟨e, he, heq, of_decide_eq_true hsource⟩

lemma exactReplay (h : Accepted manifest artifact entries es scan mainClassEntry)
    (hcopied : List.Forall₂ (Copied archives) entries output) (hsize : ApplicationSize archives manifest.value) :
    ExactReplay archives manifest.value artifact output := by
  have hcopies := copies_of h.reads hcopied
  have hnames : es.map Entry.name = output.map Prod.fst := map_copies hcopies fun _ _ hentry => hentry.name.symm
  have hlengths : es.map Entry.byteLength = output.map fun entry => entry.2.length :=
    map_copies hcopies fun _ _ hentry => hentry.byteLength.symm
  have hlength : entries.length = output.length := hcopied.length_eq
  have hnodup : (output.map Prod.fst).Nodup := hnames ▸ h.facts.names_nodup
  have hclasses : (es.countP fun e => isClass e.name) = output.countP fun entry => isClass entry.1 :=
    countP_copies hcopies fun _ _ hentry => by rw [hentry.name]
  have hbehind : ∀ entry ∈ output, ∃ e ∈ es, CopyOf archives e entry := by
    intro entry hentry
    obtain ⟨e, he, hcopy⟩ := Keyed.forall₂_mem_left hcopies.flip hentry
    exact ⟨e, he, hcopy⟩
  obtain ⟨figures, hfigures, hmain⟩ := h.mainClass
  refine ⟨?_, ?_, ?_, ?_, ⟨figures, mainClassEntry, hfigures, hmain, ?_, ?_⟩, h.figures.directories, ?_, ?_, ?_, ?_, ?_, ?_,
    ?_⟩
  · rw [← map_copies hcopies fun e entry hentry => by rw [hentry.name]]
    exact h.facts.distinct
  · obtain ⟨first, rest, rfl, hfirst⟩ := h.first
    obtain ⟨e, es', hreads, -, rfl⟩ := List.forall₂_cons_left_iff.mp h.reads
    obtain ⟨entry, output', hentry, -, rfl⟩ := List.forall₂_cons_left_iff.mp hcopies
    have hname : e.name = manifestName := Except.ok.inj (hreads.name.symm.trans hfirst)
    rw [List.map_cons, List.map_cons, List.cons.injEq] at hnames
    refine ⟨entry.2, output', by rw [← hname, ← hentry.name], ?_⟩
    rw [← hnames.2]
    exact List.isChain_iff_pairwise.mp h.facts.increasing
  · intro name content hmem
    have hkey : name ∈ (archives application).toList.map Prod.fst := by
      rw [SortedMap.mem_keys, hmem]
      exact Option.some_ne_none _
    obtain ⟨e, he, rfl, hsource⟩ := application_selected h hcopies hsize hkey
    obtain ⟨entry, hentry, hcopy⟩ := Keyed.forall₂_mem_left hcopies he
    have hfound := hcopy.found
    rw [hsource, hcopy.name, hmem, Option.some.injEq] at hfound
    have heq : entry = (e.name, content) := Prod.ext hcopy.name hfound.symm
    exact List.count_eq_one_of_mem (hnodup.of_map _) (heq ▸ hentry)
  · intro entry hentry
    obtain ⟨json, hjson, hcopy⟩ := Keyed.forall₂_mem_left hcopied.flip hentry
    exact ⟨entries, json, h.listed, hjson, hcopy⟩
  · have hlisted := h.mainClassListed
    rw [h.facts.names, List.mem_reverse, hnames] at hlisted
    exact hlisted
  · intro entry hentry hentrypoint
    obtain ⟨e, he, hcopy⟩ := hbehind entry hentry
    rw [← h.facts.entrypoints e he (hcopy.name ▸ hentrypoint)]
    exact hcopy.found
  · rw [← hlength]
    exact h.figures.regular
  · rw [← hlength]
    exact h.figures.entries
  · rw [← hlengths, ← h.facts.total]
    exact h.figures.total
  · rw [← hlengths, ← h.facts.largest]
    exact h.figures.largest
  · rw [← hclasses, ← h.facts.classes]
    exact h.figures.classes
  · have hsplit : output.length = (output.countP fun entry => isClass entry.1) +
        output.countP fun entry => !isClass entry.1 := by
      rw [List.length_eq_countP_add_countP fun entry => isClass entry.1]
      simp
    have hothers : entries.length - scan.classEntries = output.countP fun entry => !isClass entry.1 := by
      rw [h.facts.classes, hclasses, hlength, hsplit, Nat.add_sub_cancel_left]
    rw [← hothers]
    exact h.figures.others
  · intro entry hentry hmanifest
    obtain ⟨e, he, hcopy⟩ := hbehind entry hentry
    obtain ⟨length, hdeclared, hscan⟩ := h.figures.manifest
    rw [h.facts.manifest e he (hcopy.name ▸ hmanifest), Option.some.injEq] at hscan
    rw [hcopy.byteLength, hscan, hdeclared]

end Archives

section Panics

lemma field_ne_outOfRange (value : Json) (key : String) : field value key ≠ .error .outOfRange := by
  cases value with
  | object fields =>
    rw [field]
    cases fields.lookup (utf8 key) <;> simp [context]
  | _ => simp [field]

lemma arrayField_ne_outOfRange (value : Json) (key : String) : arrayField value key ≠ .error .outOfRange :=
  bind_ne_error (field_ne_outOfRange value key) fun found _ => by cases found <;> simp [asArray]

lemma stringField_ne_outOfRange (value : Json) (key : String) : stringField value key ≠ .error .outOfRange :=
  bind_ne_error (field_ne_outOfRange value key) fun found _ => by cases found <;> simp [asString]

lemma ensure_ne_outOfRange {c : Prop} [Decidable c] {message : String} :
    (ensure c (.reported message) : Result Unit) ≠ .error .outOfRange := by
  rw [ensure]
  split <;> simp

lemma u64Field_ne_outOfRange (value : Json) (key : String) : u64Field value key ≠ .error .outOfRange := by
  refine bind_ne_error (field_ne_outOfRange value key) fun found _ => ?_
  cases found with
  | unsigned n => exact bind_ne_error ensure_ne_outOfRange fun _ _ hpure => (by cases hpure)
  | _ => simp [asU64]

lemma requireStringEq_ne_outOfRange (value : Json) (key expected : String) :
    requireStringEq value key expected ≠ .error .outOfRange :=
  bind_ne_error (stringField_ne_outOfRange value key) fun _ _ => ensure_ne_outOfRange

lemma requireSame_ne_outOfRange (actual expected : Json) (key message : String) :
    requireSame actual expected key message ≠ .error .outOfRange :=
  bind_ne_error (field_ne_outOfRange actual key) fun _ _ =>
    bind_ne_error (field_ne_outOfRange expected key) fun _ _ => ensure_ne_outOfRange

lemma requireArchiveIdentityFields_ne_outOfRange (actual expected : Json) (format : Bool) (label : String) :
    requireArchiveIdentityFields actual expected format label ≠ .error .outOfRange := by
  refine bind_ne_error (forM_ne_error fun key _ => requireSame_ne_outOfRange _ _ _ _) fun _ _ => ?_
  cases format with
  | true => exact requireSame_ne_outOfRange _ _ _ _
  | false => simp

lemma addChecked_ne_outOfRange (a b : ℕ) (overflow : String) : addChecked a b overflow ≠ .error .outOfRange := by
  rw [addChecked]
  cases checkedAdd a b <;> simp [context]

lemma countWhen_ne_outOfRange {c : Prop} [Decidable c] (count : ℕ) (overflow : String) :
    countWhen c count overflow ≠ .error .outOfRange := by
  rw [countWhen]
  split
  · exact addChecked_ne_outOfRange _ _ _
  · simp

lemma scanEntry_ne_outOfRange (inputIds : List Bytes) (mainClassEntry : Bytes) (scan : Scan) (indexed : Json × ℕ) :
    scanEntry inputIds mainClassEntry scan indexed ≠ .error .outOfRange := by
  refine bind_ne_error (stringField_ne_outOfRange _ _) fun _ _ => ?_
  refine bind_ne_error ensure_ne_outOfRange fun _ _ => ?_
  refine bind_ne_error ensure_ne_outOfRange fun _ _ => ?_
  refine bind_ne_error ensure_ne_outOfRange fun _ _ => ?_
  refine bind_ne_error (stringField_ne_outOfRange _ _) fun _ _ => ?_
  refine bind_ne_error ensure_ne_outOfRange fun _ _ => ?_
  refine bind_ne_error (stringField_ne_outOfRange _ _) fun _ _ => ?_
  refine bind_ne_error ensure_ne_outOfRange fun _ _ => ?_
  refine bind_ne_error ensure_ne_outOfRange fun _ _ => ?_
  refine bind_ne_error (countWhen_ne_outOfRange _ _) fun _ _ => ?_
  refine bind_ne_error (addChecked_ne_outOfRange _ _ _) fun _ _ => ?_
  refine bind_ne_error ensure_ne_outOfRange fun _ _ => ?_
  refine bind_ne_error (u64Field_ne_outOfRange _ _) fun _ _ => ?_
  refine bind_ne_error (addChecked_ne_outOfRange _ _ _) fun _ _ => ?_
  exact bind_ne_error (countWhen_ne_outOfRange _ _) fun _ _ hpure => (by cases hpure)

lemma foldlM_ne_error {α β ε : Type} {f : β → α → Except ε β} {e : ε} {xs : List α} (h : ∀ b, ∀ x ∈ xs, f b x ≠ .error e)
    (b : β) : xs.foldlM f b ≠ .error e := by
  induction xs generalizing b with
  | nil => exact fun hnil => (by cases hnil)
  | cons x xs ih =>
    rw [List.foldlM_cons]
    exact bind_ne_error (h b x List.mem_cons_self) fun b' _ => ih (fun b y hy => h b y (List.mem_cons_of_mem x hy)) b'

lemma checkDependency_ne_outOfRange {inputs : List Json} {indexed : Json × ℕ} (h : indexed.2 + 1 < inputs.length) :
    checkDependency inputs indexed ≠ .error .outOfRange := by
  refine bind_ne_error (stringField_ne_outOfRange _ _) fun _ _ => ?_
  refine bind_ne_error ensure_ne_outOfRange fun _ _ => ?_
  refine bind_ne_error (item_ne_outOfRange h) fun _ _ => ?_
  refine bind_ne_error (stringField_ne_outOfRange _ _) fun _ _ => ?_
  refine bind_ne_error ensure_ne_outOfRange fun _ _ => ?_
  refine bind_ne_error (requireStringEq_ne_outOfRange _ _ _) fun _ _ => ?_
  exact bind_ne_error (field_ne_outOfRange _ _) fun _ _ => requireArchiveIdentityFields_ne_outOfRange _ _ _ _

lemma checkPolicy_ne_outOfRange (manifest : BoundDocument) (packaging : Json) :
    checkPolicy manifest packaging ≠ .error .outOfRange := by
  refine bind_ne_error (requireStringEq_ne_outOfRange _ _ _) fun _ _ => ?_
  refine bind_ne_error (requireStringEq_ne_outOfRange _ _ _) fun _ _ => ?_
  refine bind_ne_error (requireStringEq_ne_outOfRange _ _ _) fun _ _ => ?_
  refine bind_ne_error (requireStringEq_ne_outOfRange _ _ _) fun _ _ => ?_
  refine bind_ne_error (requireStringEq_ne_outOfRange _ _ _) fun _ _ => ?_
  exact bind_ne_error (field_ne_outOfRange _ _) fun _ _ => ensure_ne_outOfRange

lemma checkApplication_ne_outOfRange (input packaging : Json) : checkApplication input packaging ≠ .error .outOfRange := by
  refine bind_ne_error (requireStringEq_ne_outOfRange _ _ _) fun _ _ => ?_
  refine bind_ne_error (requireStringEq_ne_outOfRange _ _ _) fun _ _ => ?_
  refine bind_ne_error (field_ne_outOfRange _ _) fun _ _ => ?_
  refine bind_ne_error (requireArchiveIdentityFields_ne_outOfRange _ _ _ _) fun _ _ => ?_
  exact bind_ne_error (field_ne_outOfRange _ _) fun _ _ => requireSame_ne_outOfRange _ _ _ _

lemma checkSelected_ne_outOfRange (scan : Scan) (input : Json) : checkSelected scan input ≠ .error .outOfRange := by
  refine bind_ne_error (stringField_ne_outOfRange _ _) fun _ _ => ?_
  exact bind_ne_error (u64Field_ne_outOfRange _ _) fun _ _ => ensure_ne_outOfRange

lemma declared_ne_outOfRange (artifact : Json) (part key : String) : declared artifact part key ≠ .error .outOfRange :=
  bind_ne_error (field_ne_outOfRange _ _) fun _ _ => u64Field_ne_outOfRange _ _

lemma classFiguresAgree_ne_outOfRange (artifact : Json) (classEntries nonClassEntries : ℕ) :
    classFiguresAgree artifact classEntries nonClassEntries ≠ .error .outOfRange := by
  refine bind_ne_error (declared_ne_outOfRange _ _ _) fun _ _ => ?_
  split
  · exact bind_ne_error (declared_ne_outOfRange _ _ _) fun _ _ hpure => (by cases hpure)
  · exact fun hpure => (by cases hpure)

lemma checkFigures_ne_outOfRange {artifact : Json} {entryCount : ℕ} {scan : Scan} (h : scan.classEntries ≤ entryCount) :
    checkFigures artifact entryCount scan ≠ .error .outOfRange := by
  have hsubtract : subtract entryCount scan.classEntries ≠ .error .outOfRange := by
    rw [subtract, if_pos h]
    exact fun hok => (by cases hok)
  refine bind_ne_error (declared_ne_outOfRange _ _ _) fun _ _ => ?_
  refine bind_ne_error ensure_ne_outOfRange fun _ _ => ?_
  refine bind_ne_error ensure_ne_outOfRange fun _ _ => ?_
  refine bind_ne_error (declared_ne_outOfRange _ _ _) fun _ _ => ?_
  refine bind_ne_error ensure_ne_outOfRange fun _ _ => ?_
  refine bind_ne_error (declared_ne_outOfRange _ _ _) fun _ _ => ?_
  refine bind_ne_error ensure_ne_outOfRange fun _ _ => ?_
  refine bind_ne_error (declared_ne_outOfRange _ _ _) fun _ _ => ?_
  refine bind_ne_error ensure_ne_outOfRange fun _ _ => ?_
  refine bind_ne_error (declared_ne_outOfRange _ _ _) fun _ _ => ?_
  refine bind_ne_error ensure_ne_outOfRange fun _ _ => ?_
  refine bind_ne_error hsubtract fun _ _ => ?_
  refine bind_ne_error (classFiguresAgree_ne_outOfRange _ _ _) fun _ _ => ?_
  refine bind_ne_error ensure_ne_outOfRange fun _ _ => ?_
  refine bind_ne_error (declared_ne_outOfRange _ _ _) fun _ _ => ?_
  refine bind_ne_error ensure_ne_outOfRange fun _ _ => ?_
  refine bind_ne_error (field_ne_outOfRange _ _) fun _ _ => ?_
  exact bind_ne_error (stringField_ne_outOfRange _ _) fun _ _ => ensure_ne_outOfRange

lemma validate_ne_outOfRange {manifest : BoundDocument} {descriptor : Json}
    (h : arrayField manifest.value "entries" ≠ .ok []) :
    validateJvmCopyOnlyInclusionManifest manifest descriptor ≠ .error .outOfRange := by
  refine bind_ne_error (field_ne_outOfRange _ _) fun artifact _ => ?_
  refine bind_ne_error (field_ne_outOfRange _ _) fun packaging _ => ?_
  refine bind_ne_error (checkPolicy_ne_outOfRange _ _) fun _ _ => ?_
  refine bind_ne_error (arrayField_ne_outOfRange _ _) fun inputs _ => ?_
  refine bind_ne_error (field_ne_outOfRange _ _) fun _ _ => ?_
  refine bind_ne_error (arrayField_ne_outOfRange _ _) fun dependencies _ => ?_
  refine bind_ne_error ensure_ne_outOfRange fun _ hcount => ?_
  rw [ensure_ok] at hcount
  refine bind_ne_error (item_ne_outOfRange (by omega)) fun input _ => ?_
  refine bind_ne_error (checkApplication_ne_outOfRange _ _) fun _ _ => ?_
  refine bind_ne_error (forM_ne_error fun indexed hindexed => checkDependency_ne_outOfRange ?_) fun _ _ => ?_
  · have hindex := List.snd_lt_of_mem_zipIdx hindexed
    omega
  refine bind_ne_error (arrayField_ne_outOfRange _ _) fun _ _ => ?_
  refine bind_ne_error ensure_ne_outOfRange fun _ _ => ?_
  refine bind_ne_error (arrayField_ne_outOfRange _ _) fun entries hentries => ?_
  have hpos : 0 < entries.length := by
    rw [List.length_pos_iff]
    rintro rfl
    exact h hentries
  refine bind_ne_error (item_ne_outOfRange hpos) fun _ _ => ?_
  refine bind_ne_error (stringField_ne_outOfRange _ _) fun _ _ => ?_
  refine bind_ne_error ensure_ne_outOfRange fun _ _ => ?_
  refine bind_ne_error (mapM_ne_error fun _ _ => stringField_ne_outOfRange _ _) fun inputIds _ => ?_
  refine bind_ne_error ensure_ne_outOfRange fun _ _ => ?_
  refine bind_ne_error (field_ne_outOfRange _ _) fun _ _ => ?_
  refine bind_ne_error (stringField_ne_outOfRange _ _) fun mainClassEntry _ => ?_
  refine bind_ne_error (foldlM_ne_error (fun _ _ _ => scanEntry_ne_outOfRange _ _ _ _) _) fun scan hscan => ?_
  refine bind_ne_error (u64Field_ne_outOfRange _ _) fun _ _ => ?_
  refine bind_ne_error ensure_ne_outOfRange fun _ _ => ?_
  refine bind_ne_error (forM_ne_error fun _ _ => checkSelected_ne_outOfRange _ _) fun _ _ => ?_
  refine bind_ne_error (field_ne_outOfRange _ _) fun _ _ => ?_
  refine bind_ne_error (checkFigures_ne_outOfRange ?_) fun _ _ => ?_
  · obtain ⟨es, hreads, -, hfacts⟩ := (facts_empty mainClassEntry).run hscan
    rw [hfacts.classes, hreads.length_eq]
    exact List.countP_le_length
  · exact bind_ne_error (field_ne_outOfRange _ _) fun _ _ => requireArchiveIdentityFields_ne_outOfRange _ _ _ _

end Panics

/-- Copying the entries of an accepted manifest from any fitting input archives gives the archive that the descriptor
describes; and with an entry to start from the check neither indexes nor subtracts out of range. -/
theorem copy_only_replay_exact :
    (∀ manifest descriptor, validateJvmCopyOnlyInclusionManifest manifest descriptor = .ok () →
      ∃ artifact, field descriptor "artifact" = .ok artifact ∧ ∀ archives output,
        Copies archives manifest.value output → ApplicationSize archives manifest.value →
        ExactReplay archives manifest.value artifact output) ∧
    ∀ manifest descriptor, arrayField manifest.value "entries" ≠ .ok [] →
      validateJvmCopyOnlyInclusionManifest manifest descriptor ≠ .error .outOfRange := by
  refine ⟨fun manifest descriptor h => ?_, fun _ _ => validate_ne_outOfRange⟩
  obtain ⟨artifact, entries, es, scan, mainClassEntry, hartifact, haccepted⟩ := validate_accepted h
  refine ⟨artifact, hartifact, fun archives output hcopies hsize => ?_⟩
  obtain ⟨entries', hentries, hcopied⟩ := hcopies
  rw [haccepted.listed, Except.ok.injEq] at hentries
  subst hentries
  exact exactReplay haccepted hcopied hsize

end Eip0045.JvmPackaging
