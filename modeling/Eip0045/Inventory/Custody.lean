import Mathlib
import Eip0045.Inventory.Slots

/-! Every affine value of the inventory is consumed once, whatever the calls answer. -/

namespace Eip0045.Inventory

open Ledger

variable {S : PhysicalRootfsInventorySlot}

namespace Event

def slot? : Event S → Option S.Slot
  | authenticated slot _ => some slot
  | discarded slot => some slot
  | retriedAcquisition .. | closed .. => none

end Event

open Event

section Discard

lemma discard_emits (slots : List S.Slot) (error : S.Error) :
    Emits (discardPhysicalRootfsSlotsAfterError slots error) fun _ events =>
      events = slots.reverse.map .discarded := by
  have hloop : ∀ (slots : List S.Slot) (error : S.Error),
      Emits (slots.foldlM (fun error slot => discardAfterError slot error) error) fun _ events =>
        events = slots.map .discarded := by
    intro slots
    induction slots with
    | nil => exact fun _ => emits_pure rfl
    | cons slot slots ih =>
      intro error
      rw [List.foldlM_cons]
      apply Emits.bind (P := fun _ events => events = [.discarded slot]) (emits_call fun _ => rfl)
      rintro next _ rfl
      apply (ih next).mono
      rintro _ _ rfl
      rfl
  exact hloop slots.reverse error

lemma discardRemaining_emits (slots : List S.Slot) :
    Emits (discardRemainingPhysicalRootfsSlots slots) fun _ events =>
      events = slots.reverse.map .discarded := by
  unfold discardRemainingPhysicalRootfsSlots
  cases slots with
  | nil => exact emits_pure rfl
  | cons slot slots =>
    apply (discard_emits (slot :: slots) _).bind
    rintro error _ rfl
    exact emits_pure (List.append_nil _)

end Discard

section Cleanup

/-- The first cleanup of a retained slot, with its outcome. -/
def firstCleanup (outcomes : Slots (Option (CleanupOutcome S)))
    (numbered : Fin authenticatedOciInventorySize × S.Retained) : Option (Event S) :=
  (outcomes numbered.1).map (.closed numbered.1 (.inl numbered.2))

lemma cleanupRetained_emits (numbered : List (Fin authenticatedOciInventorySize × S.Retained))
    (outcomes : Slots (Option (CleanupOutcome S))) (hd : (numbered.map Prod.fst).Nodup) :
    Emits (cleanupRetained outcomes numbered) fun outcomes' events =>
      events.map some = numbered.map (firstCleanup outcomes') ∧
        ∀ index, index ∉ numbered.map Prod.fst → outcomes' index = outcomes index := by
  induction numbered generalizing outcomes with
  | nil => exact emits_pure ⟨rfl, fun _ _ => rfl⟩
  | cons first rest ih =>
    obtain ⟨index, retained⟩ := first
    rw [List.map_cons, List.nodup_cons] at hd
    apply Emits.bind (P := fun outcome events => events = [.closed index (.inl retained) outcome])
      (emits_call fun _ => rfl)
    rintro outcome _ rfl
    apply (ih (Function.update outcomes index (some outcome)) hd.2).mono
    rintro outcomes' events ⟨hevents, hkeep⟩
    have hindex : outcomes' index = some outcome := by
      rw [hkeep index hd.1, Function.update_self]
    refine ⟨?_, ?_⟩
    · rw [List.map_append, List.map_cons, List.map_nil, List.map_cons, hevents, firstCleanup, hindex]
      rfl
    · intro other ho
      rw [List.map_cons, List.mem_cons, not_or] at ho
      rw [hkeep other ho.2, Function.update_of_ne ho.1]

lemma map_fst_zip_take {α β : Type} (xs : List α) (ys : List β) :
    (xs.zip ys).map Prod.fst = xs.take ys.length := by
  induction xs generalizing ys with
  | nil => rw [List.zip_nil_left, List.map_nil, List.take_nil]
  | cons x xs ih =>
    cases ys with
    | nil => rfl
    | cons y ys => rw [List.zip_cons_cons, List.map_cons, ih, List.length_cons, List.take_succ_cons]

lemma enumerate_nodup {α : Type} (values : List α) : ((enumerate values).map Prod.fst).Nodup := by
  rw [enumerate, map_fst_zip_take]
  exact (List.take_sublist _ _).nodup (List.nodup_finRange _)

/-- What a failure holds of the slots that were retained: each is cleaned once, from the last to the
first, and its outcome is kept at its index. -/
structure CleansUp (retained : List S.Retained) (outcomes : Slots (Option (CleanupOutcome S)))
    (events : List (Event S)) : Prop where
  once : events.map some = (enumerate retained).reverse.map (firstCleanup outcomes)
  others : ∀ index : Fin authenticatedOciInventorySize, retained.length ≤ index →
    outcomes index = none

lemma cleanupPreservingPrimary_emits (retained : List S.Retained)
    (primary : PhysicalRootfsInventoryAcquisitionPrimaryState S) (secondary : List S.Error) :
    Emits (cleanupRetainedPhysicalRootfsSlotsPreservingPrimary retained primary secondary)
      fun failure events => failure.primary = primary ∧ failure.secondary = secondary ∧
        CleansUp retained failure.cleanupOutcomes events := by
  apply (cleanupRetained_emits (enumerate retained).reverse (fun _ => none) (by
    rw [List.map_reverse]
    exact List.nodup_reverse.mpr (enumerate_nodup retained))).bind
  rintro outcomes events ⟨hevents, hkeep⟩
  apply emits_pure
  refine ⟨rfl, rfl, ?_, ?_⟩
  · rw [List.append_nil]
    exact hevents
  · intro index hindex
    apply hkeep
    rw [List.map_reverse, List.mem_reverse, enumerate, map_fst_zip_take]
    intro hmem
    obtain ⟨k, hk, heq⟩ := List.mem_take_iff_getElem.mp hmem
    have hlt : (index : ℕ) < retained.length := by
      rw [← heq, List.getElem_finRange]
      simp only [Fin.val_cast]
      omega
    omega

end Cleanup

section Acquisition

/-- The successful acquisitions of slots, one for each retained rootfs. -/
def retentions (slots : List S.Slot) (retained : List S.Retained) : List (Event S) :=
  List.zipWith (fun slot kept => .authenticated slot (.ok kept)) slots retained

/-- What an acquisition does with the slots: all are retained; or the earlier ones are retained and
cleaned and the others are discarded, from the last back, after a failed acquisition or without. -/
inductive Acquires (slots : Slots S.Slot) : Acquisition S → List (Event S) → Prop
  | retained (kept : Slots S.Retained) :
    Acquires slots (.ok kept) (retentions (List.ofFn slots) (List.ofFn kept))
  | refused (earlier later : List S.Slot) (kept : List S.Retained) (closing : List (Event S))
    (failure : PhysicalRootfsInventoryAcquisitionFailure S) (primary : S.Error)
    (hslots : List.ofFn slots = earlier ++ later) (hkept : earlier.length = kept.length)
    (hprimary : failure.primary = .nonRetry primary)
    (hcleans : CleansUp kept failure.cleanupOutcomes closing) :
    Acquires slots (.error failure)
      (retentions earlier kept ++ (later.reverse.map .discarded ++ closing))
  | failed (earlier later : List S.Slot) (slot : S.Slot) (kept : List S.Retained)
    (closing : List (Event S)) (failure : PhysicalRootfsInventoryAcquisitionFailure S)
    (currentSlot : S.AcquisitionFailure)
    (hslots : List.ofFn slots = earlier ++ slot :: later) (hkept : earlier.length = kept.length)
    (hprimary : failure.primary = .currentSlot currentSlot)
    (hcleans : CleansUp kept failure.cleanupOutcomes closing) :
    Acquires slots (.error failure)
      (retentions earlier kept ++ (.authenticated slot (.error currentSlot) ::
        (later.reverse.map .discarded ++ closing)))

lemma retentions_concat {slots : List S.Slot} {retained : List S.Retained} (slot : S.Slot)
    (kept : S.Retained) (h : slots.length = retained.length) :
    retentions (slots ++ [slot]) (retained ++ [kept]) =
      retentions slots retained ++ [.authenticated slot (.ok kept)] := by
  rw [retentions, List.zipWith_append h]
  rfl

lemma acquireRemaining_emits (slots : Slots S.Slot) (earlier : List S.Slot)
    (retained : List S.Retained) (remaining : List (S.Slot × S.Expectation × Rootfs.PositiveRunnerRole))
    (hslots : List.ofFn slots = earlier ++ remaining.map Prod.fst)
    (hkept : earlier.length = retained.length) :
    Emits (acquireRemaining retained remaining) fun acquisition events =>
      Acquires slots acquisition (retentions earlier retained ++ events) := by
  induction remaining generalizing earlier retained with
  | nil =>
    rw [List.map_nil, List.append_nil] at hslots
    have hlen : retained.length = authenticatedOciInventorySize := by
      rw [← hkept, ← hslots, List.length_ofFn]
    rw [acquireRemaining, finishAcquisition, dif_pos hlen]
    have hall : List.ofFn (fun index => retained.get (Fin.cast hlen.symm index)) = retained := by
      rw [← List.ofFn_congr hlen, List.ofFn_get]
    apply emits_pure
    have hacquires : Acquires slots
        (.ok fun index => retained.get (Fin.cast hlen.symm index)) _ := .retained _
    rw [hall, hslots] at hacquires
    rwa [List.append_nil]
  | cons first remaining ih =>
    obtain ⟨slot, expectation, expectedRole⟩ := first
    rw [List.map_cons] at hslots
    rw [acquireRemaining]
    split
    · apply (discard_emits (slot :: remaining.map Prod.fst) _).bind
      rintro primary _ rfl
      apply (cleanupPreservingPrimary_emits retained (.nonRetry primary) []).bind
      rintro failure closing ⟨hprimary, -, hcleans⟩
      apply emits_pure
      rw [List.append_nil]
      exact .refused earlier _ retained closing failure primary hslots hkept hprimary hcleans
    · apply Emits.bind (P := fun outcome events => events = [.authenticated slot outcome])
        (emits_call fun _ => rfl)
      rintro outcome _ rfl
      cases outcome with
      | ok kept =>
        have hnext : List.ofFn slots = (earlier ++ [slot]) ++ remaining.map Prod.fst := by
          rw [hslots, List.append_assoc, List.singleton_append]
        have hlen : (earlier ++ [slot]).length = (retained ++ [kept]).length := by
          simp only [List.length_append, List.length_singleton, hkept]
        apply (ih _ _ hnext hlen).mono
        intro acquisition events hacquires
        rw [retentions_concat slot kept hkept, List.append_assoc] at hacquires
        exact hacquires
      | error currentSlot =>
        apply (discardRemaining_emits (remaining.map Prod.fst)).bind
        rintro secondary _ rfl
        apply (cleanupPreservingPrimary_emits retained (.currentSlot currentSlot) secondary).bind
        rintro failure closing ⟨hprimary, -, hcleans⟩
        apply emits_pure
        rw [List.append_nil]
        exact .failed earlier _ slot retained closing failure currentSlot hslots hkept hprimary hcleans

lemma acquisition_emits (slots : Slots S.Slot) (expectations : Slots S.Expectation) :
    Emits (authenticatePhysicalRootfsInventorySlots slots expectations) (Acquires slots) := by
  unfold authenticatePhysicalRootfsInventorySlots
  split
  · apply (discard_emits (List.ofFn slots) _).bind
    rintro primary _ rfl
    apply emits_pure
    exact .refused [] (List.ofFn slots) [] [] _ primary rfl rfl rfl ⟨rfl, fun _ _ => rfl⟩
  · apply acquireRemaining_emits slots [] []
    · rw [List.nil_append, List.map_ofFn]
      rfl
    · rfl

lemma CleansUp.no_slot {retained : List S.Retained} {outcomes : Slots (Option (CleanupOutcome S))}
    {closing : List (Event S)} (h : CleansUp retained outcomes closing) :
    closing.filterMap slot? = [] := by
  rw [List.filterMap_eq_nil_iff]
  intro event hevent
  have hmem : some event ∈ (enumerate retained).reverse.map (firstCleanup outcomes) := by
    rw [← h.once]
    exact List.mem_map_of_mem hevent
  obtain ⟨numbered, -, hfirst⟩ := List.mem_map.mp hmem
  obtain ⟨outcome, -, rfl⟩ := Option.map_eq_some_iff.mp hfirst
  rfl

lemma filterMap_retentions {slots : List S.Slot} {retained : List S.Retained}
    (h : slots.length = retained.length) : (retentions slots retained).filterMap slot? = slots := by
  induction slots generalizing retained with
  | nil => rfl
  | cons slot slots ih =>
    cases retained with
    | nil => cases h
    | cons kept retained =>
      rw [List.length_cons, List.length_cons, Nat.succ_inj] at h
      have hrest := ih h
      rw [retentions, List.zipWith_cons_cons, List.filterMap_cons_some (f := slot?) rfl]
      exact congrArg (slot :: ·) hrest

lemma filterMap_discarded (slots : List S.Slot) :
    (slots.map (Event.discarded (S := S))).filterMap slot? = slots := by
  rw [List.filterMap_map]
  exact List.filterMap_some

lemma Acquires.consumes_each_slot {slots : Slots S.Slot} {acquisition : Acquisition S}
    {events : List (Event S)} (h : Acquires slots acquisition events) :
    (events.filterMap slot?).Perm (List.ofFn slots) := by
  cases h with
  | retained kept =>
    rw [filterMap_retentions (by rw [List.length_ofFn, List.length_ofFn])]
  | refused earlier later kept closing failure primary hslots hkept hprimary hcleans =>
    rw [List.filterMap_append, List.filterMap_append, filterMap_retentions hkept,
      filterMap_discarded, hcleans.no_slot, List.append_nil, hslots]
    exact (List.reverse_perm later).append_left earlier
  | failed earlier later slot kept closing failure currentSlot hslots hkept hprimary hcleans =>
    rw [List.filterMap_append, List.filterMap_cons_some (f := slot?) rfl, List.filterMap_append,
      filterMap_retentions hkept, filterMap_discarded, hcleans.no_slot, List.append_nil, hslots]
    exact ((List.reverse_perm later).cons slot).append_left earlier

end Acquisition

end Eip0045.Inventory
