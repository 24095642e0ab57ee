import Eip0045.Library.Strides
import Eip0045.Metadata.Subjects

/-! A packet is accepted exactly when its subjects and its cells are those of one inventory. -/

namespace Eip0045.Metadata

open Checked Strides
open Rootfs (PositiveRunnerRole)

variable {W : WordSize} {packet : RetainedRootfsMetadataPacket}

section Cells

/-- The words of a cell: an observed class has its bit in the mask and not in the attributes, and
a structural one has neither. -/
def WordsMatch (cell : MetadataCellRecord) («class» : ProhibitedMetadataClass) :
    ExpectedMetadataMode → Prop
  | .observedAbsentComplete => ∃ mask attributes position,
      cell.attributeMask = some mask ∧ cell.attributes = some attributes ∧
      «class».observedStatxBit = some (2 ^ position) ∧ mask.testBit position ∧
      ¬attributes.testBit position
  | .structurallyUnrepresentable => cell.attributeMask = none ∧ cell.attributes = none

structure CellMatches (packet : RetainedRootfsMetadataPacket)
    (key : MetadataSubjectIdentity × ProhibitedMetadataClass) (cell : MetadataCellRecord) : Prop where
  subject : cell.subject = key.1
  «class» : cell.class = key.2
  table : cell.expectedModeTableSha256 = packet.profile.expectedModeTableSha256
  profile : cell.profileIdentitySha256 = packet.profile.profileIdentitySha256
  mode : ⟨key.2, key.1.kind, cell.mode⟩ ∈ expectedModeTable
  words : WordsMatch cell key.2 cell.mode

lemma classes_complete («class» : ProhibitedMetadataClass) : «class» ∈ prohibitedMetadataClasses := by
  cases «class» <;> decide

lemma kinds_complete (kind : MetadataSubjectKind) : kind ∈ metadataSubjectKinds := by
  cases kind <;> decide

lemma mem_expectedModeTable {«class» : ProhibitedMetadataClass} {kind : MetadataSubjectKind}
    {mode : ExpectedMetadataMode} :
    ⟨«class», kind, mode⟩ ∈ expectedModeTable ↔ mode = expectedMetadataMode «class» kind := by
  simp only [expectedModeTable, List.mem_flatMap, List.mem_map, ExpectedModeCell.mk.injEq]
  constructor
  · intro h
    obtain ⟨c, -, k, -, rfl, rfl, rfl⟩ := h
    rfl
  · intro h
    exact ⟨_, classes_complete _, _, kinds_complete _, rfl, rfl, h.symm⟩

lemma and_two_pow_eq {mask position : ℕ} :
    mask &&& 2 ^ position = 2 ^ position ↔ mask.testBit position := by
  rw [Nat.and_two_pow]
  cases mask.testBit position <;> simp [(Nat.two_pow_pos position).ne]

lemma and_two_pow_zero {mask position : ℕ} :
    mask &&& 2 ^ position = 0 ↔ ¬mask.testBit position := by
  rw [Nat.and_two_pow]
  cases mask.testBit position <;> simp

lemma observed_position {«class» : ProhibitedMetadataClass} {kind : MetadataSubjectKind}
    (h : expectedMetadataMode «class» kind = .observedAbsentComplete) :
    ∃ position, «class».observedStatxBit = some (2 ^ position) := by
  cases «class» <;> first | exact ⟨4, rfl⟩ | exact ⟨5, rfl⟩ | cases h

lemma validateObservation_ok {cell : MetadataCellRecord} {«class» : ProhibitedMetadataClass}
    {kind : MetadataSubjectKind} {ordinal : ℕ} :
    validateObservation cell «class» ordinal (expectedMetadataMode «class» kind) = .ok () ↔
      WordsMatch cell «class» (expectedMetadataMode «class» kind) := by
  cases hmode : expectedMetadataMode «class» kind with
  | structurallyUnrepresentable =>
    simp only [validateObservation, WordsMatch, ensure_ok, not_or, Bool.not_eq_true,
      Option.isSome_eq_false_iff, Option.isNone_iff_eq_none]
  | observedAbsentComplete =>
    obtain ⟨position, hbit⟩ := observed_position hmode
    simp only [validateObservation, WordsMatch, hbit, bind_ok, exists_unit, context_ok, ensure_ok,
      Option.some.injEq]
    constructor
    · intro h
      obtain ⟨mask, hmask, attributes, hattributes, _, rfl, hknown, habsent⟩ := h
      exact ⟨mask, attributes, position, hmask, hattributes, rfl, and_two_pow_eq.mp hknown,
        and_two_pow_zero.mp habsent⟩
    · intro h
      obtain ⟨mask, attributes, position', hmask, hattributes, hposition, hknown, habsent⟩ := h
      refine ⟨mask, hmask, attributes, hattributes, _, rfl, ?_, ?_⟩
      · rw [hposition]
        exact and_two_pow_eq.mpr hknown
      · rw [hposition]
        exact and_two_pow_zero.mpr habsent

lemma validateCell_ok {cell : MetadataCellRecord} {subject : MetadataSubjectIdentity}
    {«class» : ProhibitedMetadataClass} {ordinal : ℕ} :
    validateCell packet cell subject «class» ordinal = .ok () ↔
      CellMatches packet (subject, «class») cell := by
  simp only [validateCell, bind_ok, exists_unit, ensure_ok, validateObservation_ok]
  constructor
  · intro h
    obtain ⟨hsubject, hclass, htable, hprofile, hmode, hwords⟩ := h
    exact ⟨hsubject, hclass, htable, hprofile, mem_expectedModeTable.mpr hmode, hmode ▸ hwords⟩
  · intro h
    have hmode := mem_expectedModeTable.mp h.mode
    exact ⟨h.subject, h.class, h.table, h.profile, hmode, hmode ▸ h.words⟩

lemma validateCellAt_ok {subject : MetadataSubjectIdentity} {«class» : ProhibitedMetadataClass}
    {i j : ℕ} : validateCellAt W packet subject i «class» j = .ok () ↔
      (W.holds (i * prohibitedMetadataClasses.length) ∧
        W.holds (i * prohibitedMetadataClasses.length + j)) ∧
      ∃ cell, packet.cells[i * prohibitedMetadataClasses.length + j]? = some cell ∧
        CellMatches packet (subject, «class») cell := by
  simp only [validateCellAt, bind_ok, report_ok, context_ok, item_ok, validateCell_ok,
    Option.bind_eq_some_iff, WordSize.checkedMul, WordSize.checkedAdd, WordSize.checked_eq_some]
  constructor
  · intro h
    obtain ⟨_, ⟨_, ⟨hmul, rfl⟩, hadd, rfl⟩, hcell⟩ := h
    exact ⟨⟨hmul, hadd⟩, hcell⟩
  · intro h
    obtain ⟨⟨hmul, hadd⟩, hcell⟩ := h
    exact ⟨_, ⟨_, ⟨hmul, rfl⟩, hadd, rfl⟩, hcell⟩

lemma validateCells_ok : validateCells W packet = .ok () ↔
    ∀ subject i, packet.subjects[i]? = some subject →
      ∀ «class» j, prohibitedMetadataClasses[j]? = some «class» →
        validateCellAt W packet subject i «class» j = .ok () := by
  simp only [validateCells, forM_ok, Prod.forall, List.mem_zipIdx_iff_getElem?]

end Cells

section Packets

structure WellFormed (packet : RetainedRootfsMetadataPacket) : Prop where
  rootSeed : packet.rootSeed = some ⟨0, 0⟩
  subjects : ∃ inventory : Inventory, SubjectsListed packet.subjects inventory ∧
    packet.claimedCounts = inventory.totals canonicalRoles
  cells : List.Forall₂ (CellMatches packet) (packet.subjects ×ˢ prohibitedMetadataClasses)
    packet.cells

lemma validateRootSeed_ok {seed : Option MountRootSeed} :
    validateRootSeed seed = .ok () ↔ seed = some ⟨0, 0⟩ := by
  simp only [validateRootSeed, bind_ok, context_ok, ensure_ok, not_or, ne_eq, not_not]
  constructor
  · intro h
    obtain ⟨⟨flags, fsflags⟩, rfl, rfl, rfl⟩ := h
    rfl
  · intro h
    exact ⟨_, h, rfl, rfl⟩

lemma expectedPhysicalCellCount_eq {counts : DynamicSubjectCounts} {n : ℕ}
    (h : expectedPhysicalCellCount W counts = .ok n) :
    n = (1 + canonicalRoles.length + counts.total) * prohibitedMetadataClasses.length := by
  simp only [expectedPhysicalCellCount, bind_ok, context_ok, Option.bind_eq_some_iff,
    WordSize.checkedMul, WordSize.checkedAdd, WordSize.checked_eq_some] at h
  obtain ⟨_, ⟨_, ⟨-, rfl⟩, -, rfl⟩, _, ⟨_, ⟨-, rfl⟩, -, rfl⟩, -, rfl⟩ := h
  rfl

lemma cardinalities_agree {counts : DynamicSubjectCounts} {claimed inventory : ℕ}
    (hsubjects : validateSubjects W packet.subjects = .ok counts)
    (hcounts : counts = packet.claimedCounts)
    (hclaimed : expectedPhysicalCellCount W packet.claimedCounts = .ok claimed)
    (hinventory : W.checkedMul packet.subjects.length prohibitedMetadataClasses.length =
      some inventory) : claimed = inventory := by
  obtain ⟨listing, hlisted, htotals⟩ := validateSubjects_sound hsubjects
  obtain ⟨-, rfl⟩ := WordSize.checked_eq_some.mp hinventory
  rw [expectedPhysicalCellCount_eq hclaimed, ← hcounts, htotals, hlisted.length]

lemma accepted_wellFormed (h : validateRetainedRootfsMetadataPacket W packet = .ok ()) :
    WellFormed packet := by
  simp only [validateRetainedRootfsMetadataPacket, bind_ok, exists_unit, report_ok, ensure_ok,
    context_ok] at h
  obtain ⟨hseed, counts, hsubjects, hcounts, claimed, -, inventory, hinventory, ⟨-, hlength⟩,
    hcells⟩ := h
  obtain ⟨-, rfl⟩ := WordSize.checked_eq_some.mp hinventory
  obtain ⟨listing, hlisted, htotals⟩ := validateSubjects_sound hsubjects
  refine ⟨validateRootSeed_ok.mp hseed, ⟨listing, hlisted, hcounts ▸ htotals⟩, ?_⟩
  apply forall₂_product.mpr
  refine ⟨hlength, ?_⟩
  intro subject i hsubject «class» j hclass
  exact (validateCellAt_ok.mp (validateCells_ok.mp hcells subject i hsubject «class» j hclass)).2

/-- Words that hold every number that the validator counts to. -/
def Holds (W : WordSize) (packet : RetainedRootfsMetadataPacket) : Prop :=
  ∀ n ≤ packet.subjects.length * prohibitedMetadataClasses.length, W.holds n

lemma expectedPhysicalCellCount_ok {counts : DynamicSubjectCounts} (hW : Holds W packet)
    (h : packet.subjects.length = 1 + canonicalRoles.length + counts.total) :
    expectedPhysicalCellCount W counts =
      .ok (packet.subjects.length * prohibitedMetadataClasses.length) := by
  have hroles : canonicalRoles.length = 4 := rfl
  have hclasses : prohibitedMetadataClasses.length = 11 := rfl
  rw [hroles, DynamicSubjectCounts.total] at h
  simp only [Holds, hclasses] at hW
  simp only [expectedPhysicalCellCount, bind_ok, context_ok, Option.bind_eq_some_iff,
    WordSize.checkedMul, WordSize.checkedAdd, WordSize.checked_eq_some, hroles, hclasses]
  refine ⟨_, ⟨_, ⟨hW _ (by omega), rfl⟩, hW _ (by omega), rfl⟩, _,
    ⟨_, ⟨hW _ (by omega), rfl⟩, hW _ (by omega), rfl⟩, hW _ (by omega), by omega⟩

lemma wellFormed_accepted (hW : Holds W packet) (h : WellFormed packet) :
    validateRetainedRootfsMetadataPacket W packet = .ok () := by
  obtain ⟨inventory, hlisted, hclaimed⟩ := h.subjects
  obtain ⟨hlength, hcells⟩ := forall₂_product.mp h.cells
  have hspans : Spans W packet.subjects := by
    intro n hn
    exact hW n (hn.trans (Nat.le_mul_of_pos_right _ (by decide)))
  have hsubjects := validateSubjects_complete hspans hlisted
  have hcount := hlisted.length
  rw [← hclaimed] at hsubjects hcount
  have hclaimedCells := expectedPhysicalCellCount_ok hW hcount
  have hcellsRun : validateCells W packet = .ok () := by
    apply validateCells_ok.mpr
    intro subject i hsubject «class» j hclass
    obtain ⟨cell, hcell, hmatch⟩ := hcells subject i hsubject «class» j hclass
    have hbound := (List.getElem?_eq_some_iff.mp hcell).1
    rw [hlength] at hbound
    exact validateCellAt_ok.mpr ⟨⟨hW _ (by omega), hW _ (by omega)⟩, cell, hcell, hmatch⟩
  simp only [validateRetainedRootfsMetadataPacket, bind_ok, exists_unit, report_ok, ensure_ok,
    context_ok]
  exact ⟨validateRootSeed_ok.mpr h.rootSeed, _, hsubjects, rfl, _, hclaimedCells, _,
    WordSize.checked_eq_some.mpr ⟨hW _ (le_refl _), rfl⟩, ⟨rfl, hlength⟩, hcellsRun⟩

lemma validateCells_inside
    (h : packet.cells.length = packet.subjects.length * prohibitedMetadataClasses.length) :
    validateCells W packet ≠ .error .outOfRange := by
  apply forM_ne_error
  intro subject hsubject
  apply forM_ne_error
  intro key hkey
  obtain ⟨hi, -⟩ := List.getElem?_eq_some_iff.mp (List.mem_zipIdx_iff_getElem?.mp hsubject)
  obtain ⟨hj, -⟩ := List.getElem?_eq_some_iff.mp (List.mem_zipIdx_iff_getElem?.mp hkey)
  apply bind_ne_error (report_ne_outOfRange _)
  intro ordinal hordinal
  simp only [report_ok, context_ok, Option.bind_eq_some_iff, WordSize.checkedMul,
    WordSize.checkedAdd, WordSize.checked_eq_some] at hordinal
  obtain ⟨_, ⟨-, rfl⟩, -, rfl⟩ := hordinal
  have hrow : (subject.2 + 1) * prohibitedMetadataClasses.length ≤
      packet.subjects.length * prohibitedMetadataClasses.length := Nat.mul_le_mul_right _ hi
  have hlt : subject.2 * prohibitedMetadataClasses.length + key.2 < packet.cells.length := by
    rw [Nat.succ_mul] at hrow
    omega
  apply bind_ne_error
  · rw [item, List.getElem?_eq_getElem hlt]
    intro heq
    cases heq
  · intro cell _
    exact report_ne_outOfRange _

lemma validate_inside (W : WordSize) (packet : RetainedRootfsMetadataPacket) :
    validateRetainedRootfsMetadataPacket W packet ≠ .error .outOfRange := by
  apply bind_ne_error (report_ne_outOfRange _)
  intro _ _
  apply bind_ne_error (report_ne_outOfRange _)
  intro counts _
  apply bind_ne_error
  · rw [ensure]
    split <;> exact fun h => (by cases h)
  intro _ _
  apply bind_ne_error (report_ne_outOfRange _)
  intro claimed _
  apply bind_ne_error (report_ne_outOfRange _)
  intro inventory hinventory
  rw [report_ok, context_ok] at hinventory
  obtain ⟨-, rfl⟩ := WordSize.checked_eq_some.mp hinventory
  apply bind_ne_error
  · rw [ensure]
    split <;> exact fun h => (by cases h)
  intro _ hlength
  rw [ensure_ok] at hlength
  exact validateCells_inside hlength.2

/-- A word that holds a number holds every smaller one. -/
def WordSize.Downward (W : WordSize) : Prop := ∀ n m, n ≤ m → W.holds m → W.holds n

lemma ensure_ne_error {ε : Type} {c : Prop} [Decidable c] {e e' : ε} (h : e ≠ e') :
    ensure c e ≠ .error e' := by
  rw [ensure]
  split
  · exact fun heq => (by cases heq)
  · exact fun heq => h (Except.error.inj heq)

lemma context_ne_error {α ε : Type} {o : Option α} {e e' : ε} (h : e ≠ e') :
    context e o ≠ .error e' := by
  cases o with
  | none => exact fun heq => h (Except.error.inj heq)
  | some a => exact fun heq => (by cases heq)

lemma validateCell_ne_overflow {cell : MetadataCellRecord} {subject : MetadataSubjectIdentity}
    {«class» : ProhibitedMetadataClass} {ordinal : ℕ} :
    validateCell packet cell subject «class» ordinal ≠ .error .cardinalityOverflow := by
  iterate 5
    apply bind_ne_error (ensure_ne_error (fun h => (by cases h)))
    intro _ _
  cases expectedMetadataMode «class» subject.kind with
  | structurallyUnrepresentable => exact ensure_ne_error fun h => (by cases h)
  | observedAbsentComplete =>
    iterate 3
      apply bind_ne_error (context_ne_error (fun h => (by cases h)))
      intro _ _
    apply bind_ne_error (ensure_ne_error (fun h => (by cases h)))
    intro _ _
    exact ensure_ne_error fun h => (by cases h)

lemma report_ne_reported {α ε : Type} {x : Except ε α} {e : ε} (h : x ≠ .error e) :
    report x ≠ .error (.reported e) := by
  cases x with
  | ok a => exact fun heq => (by cases heq)
  | error e' =>
    intro heq
    cases heq
    exact h rfl

lemma validateCells_ne_overflow (hW : W.Downward)
    (h : W.holds (packet.subjects.length * prohibitedMetadataClasses.length)) :
    validateCells W packet ≠ .error (.reported .cardinalityOverflow) := by
  apply forM_ne_error
  intro subject hsubject
  apply forM_ne_error
  intro key hkey
  obtain ⟨hi, -⟩ := List.getElem?_eq_some_iff.mp (List.mem_zipIdx_iff_getElem?.mp hsubject)
  obtain ⟨hj, -⟩ := List.getElem?_eq_some_iff.mp (List.mem_zipIdx_iff_getElem?.mp hkey)
  have hrow : (subject.2 + 1) * prohibitedMetadataClasses.length ≤
      packet.subjects.length * prohibitedMetadataClasses.length := Nat.mul_le_mul_right _ hi
  rw [Nat.succ_mul] at hrow
  have hordinal : ((W.checkedMul subject.2 prohibitedMetadataClasses.length).bind
      fun value => W.checkedAdd value key.2) =
      some (subject.2 * prohibitedMetadataClasses.length + key.2) := by
    rw [Option.bind_eq_some_iff]
    exact ⟨_, WordSize.checked_eq_some.mpr ⟨hW _ _ (by omega) h, rfl⟩,
      WordSize.checked_eq_some.mpr ⟨hW _ _ (by omega) h, rfl⟩⟩
  change validateCellAt W packet subject.1 subject.2 key.1 key.2 ≠ _
  rw [validateCellAt, hordinal]
  apply bind_ne_error (fun heq => (by cases heq))
  intro ordinal _
  apply bind_ne_error
  · rw [item]
    split <;> exact fun heq => (by cases heq)
  · intro cell _
    exact report_ne_reported validateCell_ne_overflow

/-- With unbounded words a packet is accepted exactly when it is well formed, and so it is with
words of 64 bits that hold its number of cells. The claimed number of cells is that of the
inventory whenever both are reached; no packet takes the walk outside its cells, nor past its
words once the number of cells fits. -/
theorem metadata_packets_exact (packet : RetainedRootfsMetadataPacket) :
    (validateRetainedRootfsMetadataPacket .unbounded packet = .ok () ↔ WellFormed packet) ∧
    (packet.subjects.length * prohibitedMetadataClasses.length < 2 ^ 64 →
      (validateRetainedRootfsMetadataPacket .bits64 packet = .ok () ↔ WellFormed packet)) ∧
    ∀ W : WordSize,
      (∀ counts claimed inventory, validateSubjects W packet.subjects = .ok counts →
        counts = packet.claimedCounts →
        expectedPhysicalCellCount W packet.claimedCounts = .ok claimed →
        W.checkedMul packet.subjects.length prohibitedMetadataClasses.length = some inventory →
          claimed = inventory) ∧
      validateRetainedRootfsMetadataPacket W packet ≠ .error .outOfRange ∧
      (W.Downward → W.holds (packet.subjects.length * prohibitedMetadataClasses.length) →
        validateCells W packet ≠ .error (.reported .cardinalityOverflow)) := by
  refine ⟨⟨accepted_wellFormed, wellFormed_accepted fun _ _ => rfl⟩, ?_, ?_⟩
  · intro hwords
    refine ⟨accepted_wellFormed, wellFormed_accepted ?_⟩
    intro n hn
    exact decide_eq_true (hn.trans_lt hwords)
  · intro W
    exact ⟨fun _ _ _ => cardinalities_agree, validate_inside W packet, validateCells_ne_overflow⟩

end Packets

end Eip0045.Metadata
