import Mathlib
import Eip0045.Rootfs.Entries

/-! The projection of a journal is the overlay of its layers. -/

namespace Eip0045.Rootfs

open Checked

/-- The entries of a layer in the order of the archive, each path after the one before it. -/
structure Layer where
  entries : List Entry
  ordered : entries.Pairwise fun a b => compare a.path b.path = .lt

section Order

variable {live live' : Live} {entry : Entry} {entries : List Entry}

lemma not_inside_of_lt {subject path : Bytes} (h : compare path subject = .lt) :
    ¬Inside subject path := by
  have hle : Paths.Below slash subject path → (compare subject path).isLE := by
    rintro ⟨s, rfl⟩
    rw [List.append_assoc]
    exact Paths.isLE_prefix subject _
  have hswap : compare subject path = (compare path subject).swap := Std.OrientedCmp.eq_swap
  rintro (rfl | rfl | hb)
  · cases path with
    | nil => simp at h
    | cons b path => cases h
  · simp at h
  · have := hle hb
    simp [hswap, h] at this

lemma overlayEntry_keeps {path : Bytes} {other : Entry} (h : overlayEntry live entry = some live')
    (hl : live[path]? = some other) (hlt : compare path entry.path = .lt) :
    live'[path]? = some other := by
  have hne : entry.path ≠ path := by
    rintro rfl
    simp at hlt
  unfold overlayEntry at h
  cases hk : entry.kind <;> simp only [hk, Option.ite_none_right_eq_some, Option.some.injEq] at h
  case regular | symbolicLink =>
    rw [← h.2, SortedMap.getElem?_insert', if_neg hne, SortedMap.getElem?_without_eq_some]
    exact ⟨decide_eq_false (not_inside_of_lt hlt), hl⟩
  case directory =>
    rw [← h.2, SortedMap.getElem?_insert', if_neg hne]
    exact hl
  all_goals exact h ▸ hl

lemma overlayEntry_sets (h : overlayEntry live entry = some live')
    (hs : entry.whiteoutSubject = none) : live'[entry.path]? = some entry := by
  unfold overlayEntry at h
  unfold Entry.whiteoutSubject at hs
  cases hk : entry.kind <;> simp only [hk, Option.ite_none_right_eq_some, Option.some.injEq] at h hs
  case regular | symbolicLink | directory =>
    rw [← h.2, SortedMap.getElem?_insert', if_pos rfl]
  all_goals cases hs

def staged (entries : List Entry) : List Entry := entries.filter fun entry => entry.whiteoutSubject = none

lemma overlayEntry_bound (h : overlayEntry live entry = some live') (weight : Entry → ℕ) :
    live'.tallyOf weight ≤ ((staged [entry]).map weight).sum + live.tallyOf weight := by
  unfold overlayEntry at h
  cases hk : entry.kind <;> simp only [hk, Option.ite_none_right_eq_some, Option.some.injEq] at h
  case regular | symbolicLink =>
    have hs : staged [entry] = [entry] := by simp [staged, Entry.whiteoutSubject, hk]
    rw [← h.2, hs, List.map_singleton, List.sum_singleton]
    have hle := live.tallyOf_without_le (fun path => Inside entry.path path) weight
    have hin := SortedMap.total_insert_le (w := fun _ e => weight e) (k := entry.path) (v := entry)
      (m := SortedMap.without (fun path => decide (Inside entry.path path)) live)
    unfold Live.tallyOf at hle ⊢
    omega
  case directory =>
    have hs : staged [entry] = [entry] := by simp [staged, Entry.whiteoutSubject, hk]
    rw [← h.2, hs, List.map_singleton, List.sum_singleton]
    exact SortedMap.total_insert_le
  all_goals
    rw [← h]
    exact Nat.le_add_left _ _

lemma overlayEntries_keep {path : Bytes} {other : Entry}
    (h : entries.foldlM overlayEntry live = some live') (hl : live[path]? = some other)
    (hlt : ∀ entry ∈ entries, compare path entry.path = .lt) : live'[path]? = some other := by
  induction entries generalizing live with
  | nil =>
    cases h
    exact hl
  | cons entry entries ih =>
    rw [List.foldlM_cons] at h
    obtain ⟨next, hnext, hrest⟩ := Option.bind_eq_some_iff.mp h
    rw [List.forall_mem_cons] at hlt
    exact ih hrest (overlayEntry_keeps hnext hl hlt.1) hlt.2

lemma overlayEntries_live (hord : entries.Pairwise fun a b => compare a.path b.path = .lt)
    (h : entries.foldlM overlayEntry live = some live') :
    ∀ entry ∈ staged entries, live'[entry.path]? = some entry := by
  induction entries generalizing live with
  | nil => simp [staged]
  | cons entry entries ih =>
    rw [List.foldlM_cons] at h
    obtain ⟨next, hnext, hrest⟩ := Option.bind_eq_some_iff.mp h
    rw [List.pairwise_cons] at hord
    intro other ho
    rw [staged, List.mem_filter, List.mem_cons] at ho
    obtain ⟨rfl | ho, hs⟩ := ho
    · exact overlayEntries_keep hrest (overlayEntry_sets hnext (of_decide_eq_true hs)) hord.1
    · exact ih hord.2 hrest other (List.mem_filter.mpr ⟨ho, hs⟩)

lemma staged_le (hord : entries.Pairwise fun a b => compare a.path b.path = .lt)
    (h : entries.foldlM overlayEntry live = some live') (weight : Entry → ℕ) :
    ((staged entries).map weight).sum ≤ live'.tallyOf weight := by
  have hlive := overlayEntries_live hord h
  have hd : ((staged entries).map fun entry => (entry.path, entry)).Nodup := by
    rw [List.nodup_iff_pairwise_ne, List.pairwise_map]
    apply (hord.sublist List.filter_sublist).imp
    intro a b hab heq
    rw [(Prod.mk.inj heq).1] at hab
    simp at hab
  have hsum := SortedMap.sum_le_total (w := fun _ e => weight e) (m := live') hd (by
    intro b hb
    obtain ⟨entry, he, rfl⟩ := List.mem_map.mp hb
    exact hlive entry he)
  rwa [List.map_map] at hsum

lemma staged_cons (weight : Entry → ℕ) : ((staged (entry :: entries)).map weight).sum =
    ((staged [entry]).map weight).sum + ((staged entries).map weight).sum := by
  have : staged (entry :: entries) = staged [entry] ++ staged entries := by
    rw [staged, staged, staged, ← List.filter_append]
    rfl
  rw [this, List.map_append, List.sum_append]

def ceilingWeights : List (Entry → ℕ) :=
  [fun entry => entry.counts.entryCount, fun entry => entry.counts.regularFileBytes]

lemma fits_of_bounds {live : Live} (h : ∀ weight ∈ ceilingWeights, live.tallyOf weight < 2 ^ 64) :
    live.tally.Fits :=
  ⟨h (fun entry => entry.counts.entryCount) (by simp [ceilingWeights]),
    h (fun entry => entry.counts.regularFileBytes) (by simp [ceilingWeights])⟩

lemma overlayEntries_fit (h : entries.foldlM overlayEntry live = some live')
    (hb : ∀ weight ∈ ceilingWeights, ((staged entries).map weight).sum + live.tallyOf weight < 2 ^ 64) :
    entries.foldlM overlayEntryFit live = some live' := by
  induction entries generalizing live with
  | nil => exact h
  | cons entry entries ih =>
    rw [List.foldlM_cons] at h ⊢
    obtain ⟨next, hnext, hrest⟩ := Option.bind_eq_some_iff.mp h
    have hbound : ∀ weight ∈ ceilingWeights, ((staged entries).map weight).sum + next.tallyOf weight < 2 ^ 64 := by
      intro weight hw
      have h1 := hb weight hw
      have h2 := overlayEntry_bound hnext weight
      rw [staged_cons] at h1
      omega
    have hfit : next.tally.Fits :=
      fits_of_bounds fun weight hw => (Nat.le_add_left _ _).trans_lt (hbound weight hw)
    rw [overlayEntryFit, hnext, Option.filter_some, if_pos (decide_eq_true hfit)]
    exact ih hrest hbound

lemma overlayEntries_of_fit (h : entries.foldlM overlayEntryFit live = some live') :
    entries.foldlM overlayEntry live = some live' := by
  induction entries generalizing live with
  | nil => exact h
  | cons entry entries ih =>
    rw [List.foldlM_cons] at h ⊢
    obtain ⟨next, hnext, hrest⟩ := Option.bind_eq_some_iff.mp h
    rw [overlayEntryFit] at hnext
    rw [(Option.filter_eq_some_iff.mp hnext).1]
    exact ih hrest

end Order

/-- The state between two layers: a sound projection within the ceilings. -/
def Rested (journal : Journal) (projection : Projection) (live : Live) : Prop :=
  Sound journal projection live ∧ withinCeilings live

lemma withinCeilings.lt {live : Live} (h : withinCeilings live) :
    ∀ weight ∈ ceilingWeights, live.tallyOf weight < 2 ^ 63 := by
  intro weight hw
  have h1 : live.tallyOf (fun entry => entry.counts.entryCount) ≤ 1000000 := h.1
  have h2 : live.tallyOf (fun entry => entry.counts.regularFileBytes) ≤ 34359738368 := h.2
  rcases List.mem_pair.mp hw with rfl | rfl <;> omega

/-- Facts about a projection that each operation of a layer carries on: `whitening` through the
whiteout phase and `entering` through the entry phase, at a layer and a position in it. -/
structure Tracks (journal : Journal) (layers : List Layer)
    (whitening entering : ℕ → ℕ → Projection → Prop) : Prop where
  whitened : ∀ index layer position entry operationIndex operation before after,
    layers[index]? = some layer → layer.entries[position]? = some entry →
    journal.operationAtSource index position = .ok (operationIndex, operation) →
    operation.entry journal.physicalRegularExtents = some entry → whitening index position before →
    Sound.Whitened journal before after operationIndex operation entry →
      whitening index (position + 1) after
  turned : ∀ index layer projection, layers[index]? = some layer →
    whitening index layer.entries.length projection → entering index 0 projection
  entered : ∀ index layer position entry operationIndex operation before after,
    layers[index]? = some layer → layer.entries[position]? = some entry →
    journal.operationAtSource index position = .ok (operationIndex, operation) →
    operation.entry journal.physicalRegularExtents = some entry → entering index position before →
    Sound.Entered before after operationIndex operation entry → entering index (position + 1) after
  closed : ∀ index layer projection, layers[index]? = some layer →
    entering index layer.entries.length projection → whitening (index + 1) 0 projection

lemma Tracks.nothing (journal : Journal) (layers : List Layer) :
    Tracks journal layers (fun _ _ _ => True) fun _ _ _ => True := by
  constructor <;> intros <;> trivial

section Agreement

variable {journal : Journal} {layers : List Layer} {index : ℕ} {layer : Layer}
  {projection : Projection} {lower : Live} {whitening entering : ℕ → ℕ → Projection → Prop}

lemma entries_at (hlayer : layers[index]? = some layer) :
    (layers.map Layer.entries)[index]? = some layer.entries := by
  rw [List.getElem?_map, hlayer]
  rfl

lemma applyLayerEntryPhase_agrees (h : Sound journal projection lower) (hf : lower.tally.Fits)
    (hold : journal.Holds (layers.map Layer.entries)) (hlayer : layers[index]? = some layer)
    (ht : Tracks journal layers whitening entering) (h0 : entering index 0 projection) :
    Agrees (fun projection' live' => Sound journal projection' live' ∧ live'.tally.Fits ∧
      entering index layer.entries.length projection')
      (journal.applyLayerEntryPhase projection index layer.entries.length)
      (layer.entries.foldlM overlayEntryFit lower) := by
  apply Agrees.foldlM_range (R := fun position projection live =>
    Sound journal projection live ∧ live.tally.Fits ∧ entering index position projection)
  · rintro position entry before live' hentry ⟨hsound, hfits, hbefore⟩
    obtain ⟨operationIndex, operation, hat, hstaged⟩ :=
      hold index layer.entries (entries_at hlayer) position entry hentry
    rw [hat, ok_bind]
    apply (hsound.applyEntry_agrees hfits (Journal.operationAtSource_ok hat).1 hstaged).mono
    rintro after live'' - - ⟨hafter, hfit, hentered⟩
    exact ⟨hafter, hfit, ht.entered index layer position entry operationIndex operation before after
      hlayer hentry hat hstaged hbefore hentered⟩
  · exact ⟨h, hf, h0⟩

lemma projectLayer_agrees (h : Rested journal projection lower)
    (hold : journal.Holds (layers.map Layer.entries)) (hlayer : layers[index]? = some layer)
    (ht : Tracks journal layers whitening entering) (h0 : whitening index 0 projection) :
    Agrees (fun projection' live' => Rested journal projection' live' ∧
      whitening (index + 1) 0 projection')
      (journal.projectLayer projection index layer.entries.length)
      (overlayLayer lower layer.entries) := by
  obtain ⟨hsound, hceilings⟩ := h
  have hcheck := hsound.validateLayerWhiteouts_ok hold (entries_at hlayer)
  by_cases hadmissible : whiteoutsAdmissible lower layer.entries
  · obtain ⟨whitened, hphase, hwhitened, hend⟩ :=
      hsound.applyLayerWhiteoutPhase_ok hold (entries_at hlayer) hadmissible
        (I := whitening index) h0 fun position entry operationIndex operation before after hentry =>
          ht.whitened index layer position entry operationIndex operation before after hlayer hentry
    have hfits : lower.tally.Fits :=
      fits_of_bounds fun weight hw => (hceilings.lt weight hw).trans (by norm_num)
    have hphases := applyLayerEntryPhase_agrees hwhitened (Live.fits_without hfits _) hold hlayer ht
      (ht.turned index layer whitened hlayer hend)
    have hcode : journal.projectLayer projection index layer.entries.length = (do
        let projection ← journal.applyLayerEntryPhase whitened index layer.entries.length
        validateLiveCounters projection.counters
        pure projection) := by
      rw [Journal.projectLayer, hcheck.mpr hadmissible, ok_bind, hphase, ok_bind]
    have hcounters : ∀ after live', Sound journal after live' →
        (validateLiveCounters after.counters = .ok () ↔ withinCeilings live') := by
      intro after live' hafter
      rw [validateLiveCounters_ok (hafter.counted.counters ▸ hafter.typed), hafter.counted.counters]
      rfl
    rw [hcode, overlayLayer, if_pos hadmissible]
    constructor
    · intro projection' hok
      simp only [bind_ok, exists_unit, pure_ok] at hok
      obtain ⟨after, hentries, hvalid, rfl⟩ := hok
      obtain ⟨live', hfold, hafter, _, hentered⟩ := hphases.1 after hentries
      have hwithin := (hcounters after live' hafter).mp hvalid
      refine ⟨live', ?_, ⟨hafter, hwithin⟩, ht.closed index layer after hlayer hentered⟩
      rw [overlayEntries_of_fit hfold, Option.filter_some, if_pos (decide_eq_true hwithin)]
    · intro live' hover
      obtain ⟨hfold, hdecide⟩ := Option.filter_eq_some_iff.mp hover
      have hwithin := of_decide_eq_true hdecide
      have hfit := overlayEntries_fit hfold (by
        intro weight hw
        have h1 := staged_le layer.ordered hfold weight
        have h2 := hwithin.lt weight hw
        have h3 := hceilings.lt weight hw
        have h4 := lower.tallyOf_without_le
          (fun path => layer.entries.any fun entry => entry.deletes path) weight
        omega)
      obtain ⟨after, hentries, hafter, _, hentered⟩ := hphases.2 live' hfit
      refine ⟨after, ?_, ⟨hafter, hwithin⟩, ht.closed index layer after hlayer hentered⟩
      simp only [bind_ok, exists_unit, pure_ok]
      exact ⟨after, hentries, (hcounters after live' hafter).mpr hwithin, rfl⟩
  · rw [overlayLayer, if_neg hadmissible]
    apply Agrees.none
    intro projection' hok
    rw [Journal.projectLayer] at hok
    simp only [bind_ok, exists_unit] at hok
    exact hadmissible (hcheck.mp hok.1)

lemma withinCeilings_empty : withinCeilings ∅ := by
  rw [withinCeilings, Live.tally_empty]
  exact ⟨Nat.zero_le _, Nat.zero_le _⟩

lemma projectOperationJournal_agrees (hold : journal.Holds (layers.map Layer.entries))
    (ht : Tracks journal layers whitening entering) (h0 : whitening 0 0 Projection.default) :
    Agrees (fun projection live => Rested journal projection live ∧
      whitening layers.length 0 projection)
      (journal.projectOperationJournal (layers.map fun layer => layer.entries.length))
      (overlay (layers.map Layer.entries)) := by
  rw [overlay, List.foldlM_map]
  apply Agrees.foldlM_zipIdx (R := fun index projection live =>
    Rested journal projection live ∧ whitening index 0 projection)
    (fun layer : Layer => layer.entries.length)
  · rintro index layer projection live hlayer ⟨hrested, hwhitening⟩
    exact projectLayer_agrees hrested hold hlayer ht hwhitening
  · exact ⟨⟨Sound.default, withinCeilings_empty⟩, h0⟩

end Agreement

/-- The live map of a projection, from each path to the entry that its definition stages. -/
def Journal.liveMap (journal : Journal) (projection : Projection) : Live :=
  projection.paths.filterMap fun _ state => journal.entryAt state.liveDefinition

lemma Counted.liveMap_eq {journal : Journal} {projection : Projection} {live : Live}
    (h : Counted journal projection.paths projection.counters live) :
    journal.liveMap projection = live := by
  apply Std.ExtTreeMap.ext_getElem?
  intro path
  rw [Journal.liveMap, Std.ExtTreeMap.getElem?_filterMap', h.shows]

lemma Counted.mem_paths {journal : Journal} {projection : Projection} {live : Live} {path : Bytes}
    (h : Counted journal projection.paths projection.counters live) :
    path ∈ projection.paths ↔ path ∈ live := by
  rw [Std.ExtTreeMap.mem_iff_isSome_getElem?, Std.ExtTreeMap.mem_iff_isSome_getElem?,
    ← not_iff_not, Option.not_isSome_iff_eq_none, Option.not_isSome_iff_eq_none, h.path_none]

section Existence

variable (layers : List (List Entry))

def Journal.stride : ℕ := (layers.map List.length).sum + 1

/-- The operation that stages an entry at a source position, with the extent of its own number. -/
def Journal.operationOf (operationIndex : ℕ) (source : SourceOrdinal) (entry : Entry) : Operation where
  source := source
  path := entry.path
  mode := entry.mode
  byteLength := entry.byteLength
  kind := match entry.kind with
    | .regular _ => .regular operationIndex
    | .directory => .directory
    | .symbolicLink target => .symbolicLink target
    | .remove target => .remove target
    | .opaqueDirectory path => .opaqueDirectory path

def Journal.extentOf (source : SourceOrdinal) (entry : Entry) : RegularExtent where
  source := source
  offset := 0
  byteLength := entry.byteLength
  mode := entry.mode
  sha256 := match entry.kind with
    | .regular sha256 => sha256
    | _ => ByteArr.zero 32

def Journal.numbered (operationIndex : ℕ) : SourceOrdinal × Entry :=
  (⟨operationIndex / stride layers, operationIndex % stride layers⟩,
    ((layers[operationIndex / stride layers]?.bind fun entries =>
      entries[operationIndex % stride layers]?).getD ⟨[], 0, 0, .directory⟩))

/-- A journal in which the entry at position `j` of layer `i` is operation `i * stride + j`. -/
def Journal.ofLayers : Journal where
  expectedSemanticLayers := layers.length
  physicalRegularExtents := (List.range (layers.length * stride layers)).map fun i =>
    extentOf (numbered layers i).1 (numbered layers i).2
  operations := (List.range (layers.length * stride layers)).map fun i =>
    operationOf i (numbered layers i).1 (numbered layers i).2
  operationsBySource := layers.zipIdx.map fun layer =>
    (List.range layer.1.length).map fun index => layer.2 * stride layers + index

lemma Journal.operationOf_entry {extents : List RegularExtent} {operationIndex : ℕ}
    {source : SourceOrdinal} {entry : Entry}
    (h : extents[operationIndex]? = some (extentOf source entry)) :
    (operationOf operationIndex source entry).entry extents = some entry := by
  obtain ⟨path, mode, byteLength, kind⟩ := entry
  cases kind <;> simp [operationOf, Operation.entry, h, extentOf]

lemma Journal.ofLayers_holds : (Journal.ofLayers layers).Holds layers := by
  intro layer entries hlayer index entry hentry
  obtain ⟨hlayerLt, -⟩ := List.getElem?_eq_some_iff.mp hlayer
  obtain ⟨hindexLt, -⟩ := List.getElem?_eq_some_iff.mp hentry
  have hlength : entries.length < stride layers := by
    have := List.le_sum_of_mem (List.mem_map_of_mem (f := List.length) (List.mem_of_getElem? hlayer))
    rw [stride]
    omega
  have hstride : index < stride layers := hindexLt.trans hlength
  have hbound : layer * stride layers + index < layers.length * stride layers := by
    calc layer * stride layers + index < (layer + 1) * stride layers := by rw [Nat.succ_mul]; omega
      _ ≤ layers.length * stride layers := Nat.mul_le_mul_right _ hlayerLt
  have hnumbered : numbered layers (layer * stride layers + index) = (⟨layer, index⟩, entry) := by
    have hdiv : (layer * stride layers + index) / stride layers = layer := by
      rw [Nat.mul_comm, Nat.mul_add_div (by omega), Nat.div_eq_of_lt hstride, Nat.add_zero]
    have hmod : (layer * stride layers + index) % stride layers = index := by
      rw [Nat.mul_comm, Nat.mul_add_mod, Nat.mod_eq_of_lt hstride]
    rw [numbered, hdiv, hmod, hlayer, Option.bind_some, hentry, Option.getD_some]
  refine ⟨layer * stride layers + index,
    operationOf (layer * stride layers + index) ⟨layer, index⟩ entry, ?_, ?_⟩
  · simp only [operationAtSource, semanticLayerSlot, bind_ok, exists_unit, report_ok, ensure_ok,
      context_ok, item_ok, pure_ok]
    refine ⟨layer, ⟨hlayerLt, rfl⟩, (List.range entries.length).map fun index =>
      layer * stride layers + index, ?_, layer * stride layers + index, ?_,
      operationOf (layer * stride layers + index) ⟨layer, index⟩ entry, ?_, rfl, rfl⟩
    · simp [ofLayers, hlayer]
    · simp [hindexLt]
    · simp [ofLayers, hbound, hnumbered]
  · apply operationOf_entry
    simp [ofLayers, hbound, hnumbered]

end Existence

/-- The projection of a journal of ordered layers succeeds exactly when their overlay does, after
every number of layers, with the same live map, live parents, no live whiteout and exact counters. -/
theorem projection_is_overlay (layers : List Layer) :
    (∃ journal : Journal, journal.Holds (layers.map Layer.entries)) ∧
    ∀ journal : Journal, journal.Holds (layers.map Layer.entries) → ∀ count : ℕ,
      ((∃ projection, journal.projectOperationJournal
          ((layers.take count).map fun layer => layer.entries.length) = .ok projection) ↔
        ∃ live, overlay ((layers.take count).map Layer.entries) = some live) ∧
      ∀ projection live, journal.projectOperationJournal
          ((layers.take count).map fun layer => layer.entries.length) = .ok projection →
        overlay ((layers.take count).map Layer.entries) = some live →
          journal.liveMap projection = live ∧ (∀ path, path ∈ projection.paths ↔ path ∈ live) ∧
            ParentClosed live ∧ NoWhiteoutLive live ∧ projection.counters = live.tally := by
  refine ⟨⟨_, Journal.ofLayers_holds _⟩, ?_⟩
  intro journal hold count
  have htake : journal.Holds ((layers.take count).map Layer.entries) := by
    intro layer entries hlayer
    rw [List.map_take, List.getElem?_take] at hlayer
    exact hold layer entries (Option.ite_none_right_eq_some.mp hlayer).2
  have hagree := projectOperationJournal_agrees htake (Tracks.nothing journal _) trivial
  constructor
  · constructor
    · rintro ⟨projection, hok⟩
      obtain ⟨live, hlive, _⟩ := hagree.1 projection hok
      exact ⟨live, hlive⟩
    · rintro ⟨live, hlive⟩
      obtain ⟨projection, hok, _⟩ := hagree.2 live hlive
      exact ⟨projection, hok⟩
  · intro projection live hok hlive
    obtain ⟨live', hlive', ⟨hsound, _⟩, _⟩ := hagree.1 projection hok
    rw [hlive] at hlive'
    cases hlive'
    exact ⟨hsound.counted.liveMap_eq, fun _ => hsound.counted.mem_paths, hsound.parentClosed,
      hsound.counted.noWhiteout, hsound.counted.counters⟩

end Eip0045.Rootfs
