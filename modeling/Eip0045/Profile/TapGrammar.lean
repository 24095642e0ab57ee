import Mathlib
import Eip0045.Profile.ConstantsArtifact

/-! The grammar of tap tables, and that the register walk accepts exactly its tables. -/

namespace Eip0045.B2Codec

open Bytes Checked

section Grammar

def headOf (run : List Tap) : Tap := run.headD ⟨0, 0, 0, 0, 0⟩

def column (run : List Tap) : UInt8 × UInt8 := ((headOf run).group, (headOf run).offset)

def combo (run : List Tap) : ℕ := (headOf run).combo.toNat

def backs (run : List Tap) : Bytes := run.map Tap.back

structure IsRun (run : List Tap) : Prop where
  nonempty : run ≠ []
  uniform : ∀ tap ∈ run, tap.group = (headOf run).group ∧ tap.offset = (headOf run).offset ∧
    tap.combo = (headOf run).combo ∧ tap.skip = (headOf run).skip
  skip : (headOf run).skip.toNat = run.length
  increasing : (backs run).Pairwise (· < ·)

/-- The columns of the three groups in lexicographic order. -/
def ColumnLt (a b : UInt8 × UInt8) : Prop := a.1 < b.1 ∨ a.1 = b.1 ∧ a.2 < b.2

def IsColumn (taps : TapDataSet) (c : UInt8 × UInt8) : Prop :=
  c.1.toNat < 3 ∧ c.2 < taps.groupSizes.toList.getD c.1.toNat 0

/-- The back list of a combo, as its first register has it. -/
def comboBacks (runs : List (List Tap)) (c : ℕ) : Bytes :=
  ((runs.find? fun run => combo run = c).map backs).getD []

/-- The clauses on registers and combos that a table cut into runs meets. -/
structure RunGrammar (taps : TapDataSet) (runs : List (List Tap)) : Prop where
  split : taps.records = runs.flatten
  wellFormed : ∀ run ∈ runs, IsRun run
  ordered : (runs.map column).Pairwise ColumnLt
  complete : ∀ c, c ∈ runs.map column ↔ IsColumn taps c
  agree : ∀ run ∈ runs, ∀ run' ∈ runs, combo run = combo run' → backs run = backs run'
  occur : ∀ c < taps.combosCount.toNat, ∃ run ∈ runs, combo run = c
  distinct : ∀ run ∈ runs, ∀ run' ∈ runs, backs run = backs run' → combo run = combo run'
  total : ((List.range taps.combosCount.toNat).map fun c => (comboBacks runs c).length).sum =
    taps.totalComboBacks.toNat

/-- The grammar of tap tables, with the bound on combos. -/
structure TapGrammar (taps : TapDataSet) (runs : List (List Tap)) : Prop extends RunGrammar taps runs where
  combosBelow : ∀ run ∈ runs, combo run < taps.combosCount.toNat

end Grammar

section Columns

variable {taps : TapDataSet}

lemma mem_expectedRegisters {c : UInt8 × UInt8} : c ∈ expectedRegisters taps ↔ IsColumn taps c := by
  obtain ⟨group, offset⟩ := c
  simp only [expectedRegisters, List.mem_flatMap, List.mem_map, List.mem_range, Prod.mk.injEq, IsColumn]
  constructor
  · intro h
    obtain ⟨g, hg, o, ho, rfl, rfl⟩ := h
    have hgroup : (UInt8.ofNat g).toNat = g := by
      rw [UInt8.toNat_ofNat']
      exact Nat.mod_eq_of_lt (by omega)
    have hsize := (taps.groupSizes.toList.getD g 0).toNat_lt
    rw [hgroup, UInt8.lt_iff_toNat_lt, UInt8.toNat_ofNat', Nat.mod_eq_of_lt (by omega)]
    exact ⟨hg, ho⟩
  · intro h
    obtain ⟨hgroup, hoffset⟩ := h
    exact ⟨group.toNat, hgroup, offset.toNat, UInt8.lt_iff_toNat_lt.mp hoffset, UInt8.ofNat_toNat,
      UInt8.ofNat_toNat⟩

lemma expectedRegisters_ordered : (expectedRegisters taps).Pairwise ColumnLt := by
  have hbyte : ∀ {m n : ℕ}, n < 256 → m < n → UInt8.ofNat m < UInt8.ofNat n := by
    intro m n hn hmn
    rw [UInt8.lt_iff_toNat_lt, UInt8.toNat_ofNat', UInt8.toNat_ofNat', Nat.mod_eq_of_lt (by omega),
      Nat.mod_eq_of_lt (by omega)]
    exact hmn
  rw [expectedRegisters, List.pairwise_flatMap]
  refine ⟨?_, ?_⟩
  · intro g _
    apply List.pairwise_map.mpr
    refine List.pairwise_lt_range.imp_of_mem fun {m n} _ hn hmn => .inr ⟨rfl, hbyte ?_ hmn⟩
    have hsize := (taps.groupSizes.toList.getD g 0).toNat_lt
    have hn := List.mem_range.mp hn
    omega
  · refine List.pairwise_lt_range.imp_of_mem fun {g k} _ hk hgk => ?_
    intro a ha b hb
    obtain ⟨m, -, rfl⟩ := List.mem_map.mp ha
    obtain ⟨n, -, rfl⟩ := List.mem_map.mp hb
    exact .inl (hbyte (by have := List.mem_range.mp hk; omega) hgk)

lemma columnLt_irrefl (c : UInt8 × UInt8) : ¬ColumnLt c c := by
  intro h
  obtain h | h := h
  · exact UInt8.lt_irrefl _ h
  · exact UInt8.lt_irrefl _ h.2

lemma columnLt_asymm {a b : UInt8 × UInt8} (h : ColumnLt a b) : ¬ColumnLt b a := by
  intro h'
  obtain h | h := h <;> obtain h' | h' := h'
  · exact UInt8.lt_asymm h h'
  · rw [h'.1] at h
    exact UInt8.lt_irrefl _ h
  · rw [h.1] at h'
    exact UInt8.lt_irrefl _ h'
  · exact UInt8.lt_asymm h.2 h'.2

lemma eq_expectedRegisters {columns : List (UInt8 × UInt8)} :
    columns = expectedRegisters taps ↔
      columns.Pairwise ColumnLt ∧ ∀ c, c ∈ columns ↔ IsColumn taps c := by
  constructor
  · intro h
    subst h
    exact ⟨expectedRegisters_ordered, fun c => mem_expectedRegisters⟩
  · intro h
    obtain ⟨hordered, hmem⟩ := h
    have hnodup : ∀ {xs : List (UInt8 × UInt8)}, xs.Pairwise ColumnLt → xs.Nodup := by
      intro xs hxs
      refine hxs.imp fun {a b} hab heq => ?_
      rw [heq] at hab
      exact columnLt_irrefl b hab
    have hperm := (List.perm_ext_iff_of_nodup (hnodup hordered)
      (hnodup (@expectedRegisters_ordered taps))).mpr fun c => (hmem c).trans mem_expectedRegisters.symm
    refine hperm.eq_of_pairwise ?_ hordered expectedRegisters_ordered
    intro a b _ _ hab hba
    exact absurd hba (columnLt_asymm hab)

lemma expectedRegisters_length : (expectedRegisters taps).length ≤ 3 * 256 := by
  have hlength : ∀ group ∈ List.range 3,
      ((List.range (taps.groupSizes.toList.getD group 0).toNat).map fun offset =>
        (UInt8.ofNat group, UInt8.ofNat offset)).length ≤ 256 := by
    intro group _
    rw [List.length_map, List.length_range]
    exact Nat.le_of_lt (taps.groupSizes.toList.getD group 0).toNat_lt
  rw [expectedRegisters, List.length_flatMap]
  apply (List.sum_le_card_nsmul _ 256 ?_).trans_eq
  · simp
  · intro n hn
    obtain ⟨group, hgroup, rfl⟩ := List.mem_map.mp hn
    exact hlength group hgroup

end Columns

section Runs

variable {total : ℕ}

lemma tapRunBacks_ok {head : Tap} {run : List Tap} {seen out : Bytes} (hseen : seen.Pairwise (· < ·)) :
    tapRunBacks head run seen = .ok out ↔
      (∀ tap ∈ run, tap.group = head.group ∧ tap.offset = head.offset ∧ tap.combo = head.combo ∧
        tap.skip = head.skip) ∧ (seen ++ backs run).Pairwise (· < ·) ∧ out = seen ++ backs run := by
  induction run generalizing seen with
  | nil => simp [tapRunBacks, backs, hseen, eq_comm]
  | cons tap run ih =>
    have hlast : (∀ previous ∈ seen.getLast?, previous < tap.back) ↔
        (seen ++ [tap.back]).Pairwise (· < ·) := by
      rw [List.pairwise_append]
      constructor
      · intro h
        refine ⟨hseen, List.pairwise_singleton _ _, ?_⟩
        intro a ha b hb
        rw [List.mem_singleton.mp hb]
        obtain ⟨initial, last, rfl⟩ := List.eq_nil_or_concat' seen |>.resolve_left (List.ne_nil_of_mem ha)
        have hback := h last (by simp)
        obtain ha | ha := List.mem_append.mp ha
        · exact UInt8.lt_trans ((List.pairwise_append.mp hseen).2.2 a ha last (by simp)) hback
        · rwa [List.mem_singleton.mp ha]
      · intro h previous hprevious
        exact h.2.2 previous (List.mem_of_getLast? hprevious) tap.back (by simp)
    have hbacks : seen ++ backs (tap :: run) = (seen ++ [tap.back]) ++ backs run := by simp [backs]
    simp only [tapRunBacks, bind_ok, exists_unit, ensure_ok, hlast, List.forall_mem_cons, hbacks]
    constructor
    · intro h
      obtain ⟨htap, hnext, hrest⟩ := h
      obtain ⟨hrun, hsorted, hout⟩ := (ih hnext).mp hrest
      exact ⟨⟨htap, hrun⟩, hsorted, hout⟩
    · intro h
      obtain ⟨⟨htap, hrun⟩, hsorted, hout⟩ := h
      have hnext := (List.pairwise_append.mp hsorted).1
      exact ⟨htap, hnext, (ih hnext).mpr ⟨hrun, hsorted, hout⟩⟩

def setComboShapes (shapes : List (Option Bytes)) (runs : List (List Tap)) :
    Except String (List (Option Bytes)) :=
  runs.foldlM (fun shapes run => setComboShape shapes (combo run) (backs run)) shapes

lemma walkTaps_sound {records : List Tap} {walk last : TapWalk}
    (h : walkTaps total records walk = .ok last) (htotal : walk.position + records.length = total)
    (hskip : ∀ tap ∈ records, tap.skip > 0) :
    ∃ runs : List (List Tap), records = runs.flatten ∧ (∀ run ∈ runs, IsRun run) ∧
      walk.expected = runs.map column ++ last.expected ∧ last.position = total ∧
        setComboShapes walk.shapes runs = .ok last.shapes := by
  induction hlength : records.length using Nat.strong_induction_on generalizing records walk with
  | _ n ih =>
    subst hlength
    cases records with
    | nil =>
      rw [walkTaps] at h
      cases h
      exact ⟨[], rfl, fun _ hrun => absurd hrun List.not_mem_nil, rfl, by simpa using htotal, rfl⟩
    | cons head rest =>
      rw [walkTaps] at h
      simp only [bind_ok, exists_unit, ensure_ok, context_ok, Option.map_eq_some_iff] at h
      obtain ⟨-, hend, _, ⟨first, hfirst, rfl⟩, hcolumn, found, hfound, shapes, hshapes, hrest⟩ := h
      have hpositive : 0 < head.skip.toNat := UInt8.lt_iff_toNat_lt.mp (hskip head List.mem_cons_self)
      rw [List.length_cons] at htotal
      have hwidth : (head :: rest.take (head.skip.toNat - 1)).length = head.skip.toNat := by
        rw [List.length_cons, List.length_take]
        omega
      have hdrop : (rest.drop (head.skip.toNat - 1)).length = rest.length - (head.skip.toNat - 1) :=
        List.length_drop
      obtain ⟨huniform, hsorted, hbacks⟩ := (tapRunBacks_ok List.Pairwise.nil).mp hfound
      rw [List.nil_append] at hsorted hbacks
      obtain ⟨runs, hruns, hall, hexpected, hposition, hset⟩ := ih _ (by
        rw [hdrop, List.length_cons]
        omega) hrest (by dsimp only; omega) (fun tap htap =>
          hskip tap (List.mem_cons_of_mem head (List.mem_of_mem_drop htap))) rfl
      refine ⟨(head :: rest.take (head.skip.toNat - 1)) :: runs, ?_, ?_, ?_, hposition, ?_⟩
      · rw [List.flatten_cons, ← hruns, List.cons_append, List.take_append_drop]
      · exact List.forall_mem_cons.mpr ⟨⟨List.cons_ne_nil _ _, huniform, hwidth.symm, hsorted⟩, hall⟩
      · obtain ⟨columns, hcolumns⟩ := List.head?_eq_some_iff.mp hfirst
        rw [hcolumns, List.tail_cons] at hexpected
        rw [hcolumns, List.map_cons, List.cons_append, ← hexpected]
        exact congrArg (· :: columns) hcolumn.symm
      · rw [setComboShapes, List.foldlM_cons, bind_ok]
        rw [hbacks] at hshapes
        exact ⟨shapes, hshapes, hset⟩

lemma walkTaps_complete {runs : List (List Tap)} {walk : TapWalk} {later : List (UInt8 × UInt8)}
    {shapes : List (Option Bytes)} (hruns : ∀ run ∈ runs, IsRun run)
    (hexpected : walk.expected = runs.map column ++ later)
    (hshapes : setComboShapes walk.shapes runs = .ok shapes)
    (htotal : walk.position + runs.flatten.length = total) (hlt : total < 2 ^ 64) :
    walkTaps total runs.flatten walk = .ok ⟨total, later, shapes⟩ := by
  induction runs generalizing walk with
  | nil =>
    cases Except.ok.inj hshapes
    rw [List.flatten_nil, walkTaps, ← htotal]
    rw [List.map_nil, List.nil_append] at hexpected
    rw [← hexpected]
    rfl
  | cons run runs ih =>
    obtain ⟨hrun, hothers⟩ := List.forall_mem_cons.mp hruns
    obtain ⟨head, tail, rfl⟩ := List.exists_cons_of_ne_nil hrun.nonempty
    rw [setComboShapes, List.foldlM_cons, bind_ok] at hshapes
    obtain ⟨next, hnext, hrest⟩ := hshapes
    have hskip : head.skip.toNat = tail.length + 1 := hrun.skip
    have htail : (tail ++ runs.flatten).take (head.skip.toNat - 1) = tail := by
      rw [hskip, Nat.add_sub_cancel, List.take_left]
    have hlater : (tail ++ runs.flatten).drop (head.skip.toNat - 1) = runs.flatten := by
      rw [hskip, Nat.add_sub_cancel, List.drop_left]
    rw [List.flatten_cons, List.length_append, List.length_cons] at htotal
    rw [List.flatten_cons, List.cons_append, walkTaps, htail, hlater, hexpected]
    simp only [bind_ok, exists_unit, ensure_ok, context_ok, Option.map_eq_some_iff]
    refine ⟨by omega, by omega, (column (head :: tail), runs.map column ++ later), ⟨_, rfl, rfl⟩, rfl,
      backs (head :: tail), (tapRunBacks_ok List.Pairwise.nil).mpr ⟨hrun.uniform, hrun.increasing, rfl⟩,
      next, hnext, ih hothers rfl hrest ?_⟩
    dsimp only
    omega

end Runs

section Shapes

variable {shapes shapes' target : List (Option Bytes)} {runs : List (List Tap)}

/-- What the combo table holds after some runs: their back lists, over what it held before. -/
structure Recorded (shapes : List (Option Bytes)) (runs : List (List Tap))
    (shapes' : List (Option Bytes)) : Prop where
  length : shapes'.length = shapes.length
  recorded : ∀ run ∈ runs, shapes'[combo run]? = some (some (backs run))
  kept : ∀ (c : ℕ) (b : Bytes), shapes[c]? = some (some b) → shapes'[c]? = some (some b)
  absent : ∀ c : ℕ, shapes[c]? = some none → (∀ run ∈ runs, combo run ≠ c) → shapes'[c]? = some none

lemma setComboShape_ok {c : ℕ} {b : Bytes} (hc : c < shapes.length) :
    setComboShape shapes c b = .ok shapes' ↔
      (shapes[c]? = some (some b) ∧ shapes' = shapes) ∨
        (shapes[c]? = some none ∧ shapes' = shapes.set c (some b)) := by
  rw [setComboShape, List.getD_eq_getElem _ _ hc, List.getElem?_eq_getElem hc]
  cases shapes[c] with
  | none => simp [eq_comm]
  | some previous =>
    simp only [bind_ok, exists_unit, ensure_ok, pure_ok, Option.some.injEq, reduceCtorEq, false_and,
      or_false]
    exact and_congr_right' eq_comm

lemma recorded_of_setComboShapes (hbelow : ∀ run ∈ runs, combo run < shapes.length)
    (h : setComboShapes shapes runs = .ok shapes') : Recorded shapes runs shapes' := by
  induction runs generalizing shapes with
  | nil =>
    cases Except.ok.inj h
    exact ⟨rfl, fun _ hrun => absurd hrun List.not_mem_nil, fun _ _ h => h, fun _ h _ => h⟩
  | cons run runs ih =>
    rw [setComboShapes, List.foldlM_cons, bind_ok] at h
    obtain ⟨next, hnext, hrest⟩ := h
    obtain ⟨hrun, hothers⟩ := List.forall_mem_cons.mp hbelow
    obtain ⟨hfound, rfl⟩ | ⟨hfound, rfl⟩ := (setComboShape_ok hrun).mp hnext
    · have hrecorded := ih hothers hrest
      refine ⟨hrecorded.length, List.forall_mem_cons.mpr ⟨hrecorded.kept _ _ hfound, hrecorded.recorded⟩,
        hrecorded.kept, ?_⟩
      intro c hc hno
      exact hrecorded.absent c hc fun r hr => hno r (List.mem_cons_of_mem run hr)
    · have hrecorded := ih (by simpa using hothers) hrest
      have hself := hrecorded.kept (combo run) (backs run) (by
        rw [List.getElem?_set_self hrun])
      refine ⟨by rw [hrecorded.length, List.length_set],
        List.forall_mem_cons.mpr ⟨hself, hrecorded.recorded⟩, ?_, ?_⟩
      · intro c b hc
        have hne : combo run ≠ c := by
          rintro rfl
          rw [hfound] at hc
          cases hc
        exact hrecorded.kept c b (by rwa [List.getElem?_set_ne hne])
      · intro c hc hno
        have hne := hno run List.mem_cons_self
        exact hrecorded.absent c (by rwa [List.getElem?_set_ne hne])
          fun r hr => hno r (List.mem_cons_of_mem run hr)

lemma exists_setComboShapes (hlength : target.length = shapes.length)
    (hruns : ∀ run ∈ runs, target[combo run]? = some (some (backs run)))
    (hkept : ∀ (c : ℕ) (b : Bytes), shapes[c]? = some (some b) → target[c]? = some (some b)) :
    ∃ shapes', setComboShapes shapes runs = .ok shapes' := by
  induction runs generalizing shapes with
  | nil => exact ⟨shapes, rfl⟩
  | cons run runs ih =>
    obtain ⟨hrun, hothers⟩ := List.forall_mem_cons.mp hruns
    have hbelow : combo run < shapes.length := by
      rw [← hlength]
      exact (List.getElem?_eq_some_iff.mp hrun).1
    obtain ⟨found, hfound⟩ : ∃ found, shapes[combo run]? = some found :=
      ⟨_, List.getElem?_eq_getElem hbelow⟩
    cases found with
    | some b =>
      have hb := hkept _ _ hfound
      rw [hrun] at hb
      obtain rfl := Option.some.inj (Option.some.inj hb)
      obtain ⟨shapes', hshapes⟩ := ih hlength hothers hkept
      refine ⟨shapes', ?_⟩
      rw [setComboShapes, List.foldlM_cons, (setComboShape_ok hbelow).mpr (.inl ⟨hfound, rfl⟩), ok_bind]
      exact hshapes
    | none =>
      obtain ⟨shapes', hshapes⟩ := @ih (shapes.set (combo run) (some (backs run))) (by simpa using hlength)
        hothers (by
          intro c b hc
          by_cases hne : combo run = c
          · subst hne
            rw [List.getElem?_set_self hbelow] at hc
            cases hc
            exact hrun
          · rw [List.getElem?_set_ne hne] at hc
            exact hkept c b hc)
      refine ⟨shapes', ?_⟩
      rw [setComboShapes, List.foldlM_cons, (setComboShape_ok hbelow).mpr (.inr ⟨hfound, rfl⟩), ok_bind]
      exact hshapes

lemma comboBacks_eq {run : List Tap} (hrun : run ∈ runs)
    (hagree : ∀ run ∈ runs, ∀ run' ∈ runs, combo run = combo run' → backs run = backs run') :
    comboBacks runs (combo run) = backs run := by
  rw [comboBacks]
  cases hfind : runs.find? fun r => combo r = combo run with
  | none =>
    have hno := List.find?_eq_none.mp hfind run hrun
    exact absurd (decide_eq_true rfl) hno
  | some first =>
    have hcombo : combo first = combo run := by simpa using List.find?_some hfind
    exact hagree first (List.mem_of_find?_eq_some hfind) run hrun hcombo

def comboTable (runs : List (List Tap)) (count : ℕ) : List (Option Bytes) :=
  (List.range count).map fun c => some (comboBacks runs c)

lemma comboTable_getElem? {count c : ℕ} (hc : c < count) :
    (comboTable runs count)[c]? = some (some (comboBacks runs c)) := by
  rw [comboTable, List.getElem?_map, List.getElem?_range hc]
  rfl

lemma comboTable_of_recorded {count : ℕ}
    (h : Recorded (List.replicate count none) runs shapes) (hsome : ∀ shape ∈ shapes, shape.isSome) :
    shapes = comboTable runs count ∧ (∀ c < count, ∃ run ∈ runs, combo run = c) ∧
      ∀ run ∈ runs, ∀ run' ∈ runs, combo run = combo run' → backs run = backs run' := by
  have hagree : ∀ run ∈ runs, ∀ run' ∈ runs, combo run = combo run' → backs run = backs run' := by
    intro run hrun run' hrun' hcombo
    have hshape := h.recorded run hrun
    rw [hcombo, h.recorded run' hrun'] at hshape
    exact (Option.some.inj (Option.some.inj hshape)).symm
  have hoccur : ∀ c < count, ∃ run ∈ runs, combo run = c := by
    intro c hc
    by_contra hno
    have hunused : ∀ run ∈ runs, combo run ≠ c := fun run hrun heq => hno ⟨run, hrun, heq⟩
    have habsent := h.absent c (by rw [List.getElem?_replicate, if_pos hc]) hunused
    have hshape := hsome none (List.mem_of_getElem? habsent)
    cases hshape
  refine ⟨?_, hoccur, hagree⟩
  have hlength : shapes.length = count := by rw [h.length, List.length_replicate]
  apply List.ext_getElem?
  intro c
  by_cases hc : c < count
  · obtain ⟨run, hrun, rfl⟩ := hoccur c hc
    rw [h.recorded run hrun, comboTable_getElem? hc, comboBacks_eq hrun hagree]
  · rw [List.getElem?_eq_none (by omega), List.getElem?_eq_none (by rw [comboTable]; simpa using hc)]

end Shapes

section Table

variable {taps : TapDataSet} {runs : List (List Tap)}

lemma runs_length_le (hruns : ∀ run ∈ runs, IsRun run) (hcolumns : runs.map column = expectedRegisters taps) :
    runs.flatten.length < 2 ^ 64 := by
  have hcount : runs.length ≤ 3 * 256 := by
    rw [← @List.length_map _ _ _ column, hcolumns]
    exact expectedRegisters_length
  have hsum : (runs.map List.length).sum ≤ (runs.map List.length).length • 256 := by
    apply List.sum_le_card_nsmul
    intro n hn
    obtain ⟨run, hrun, rfl⟩ := List.mem_map.mp hn
    rw [← (hruns run hrun).skip]
    exact Nat.le_of_lt (headOf run).skip.toNat_lt
  rw [List.length_map, smul_eq_mul] at hsum
  rw [List.length_flatten]
  have hproduct : runs.length * 256 ≤ 3 * 256 * 256 := Nat.mul_le_mul_right 256 hcount
  omega

lemma validateTapRecords_ok : ((taps.records.zipIdx).forM fun b => validateTapRecord taps b.2 b.1) =
      .ok () ↔ ∀ tap ∈ taps.records, IsColumn taps (tap.group, tap.offset) ∧
        tap.combo < taps.combosCount ∧ tap.skip > 0 := by
  rw [forM_ok]
  simp only [validateTapRecord, bind_ok, exists_unit, ensure_ok, IsColumn]
  constructor
  · intro h tap htap
    obtain ⟨index, hindex⟩ := List.getElem?_of_mem htap
    have hrecord := h (tap, index) (List.mem_zipIdx_iff_getElem?.mpr hindex)
    exact ⟨⟨hrecord.1, hrecord.2.1⟩, hrecord.2.2⟩
  · intro h b hb
    have htap := h b.1 (List.mem_of_getElem? (List.mem_zipIdx_iff_getElem?.mp hb))
    exact ⟨htap.1.1, htap.1.2, htap.2⟩

lemma comboTable_nodup {count : ℕ} : (comboTable runs count).Nodup ↔
    ∀ c < count, ∀ c' < count, comboBacks runs c = comboBacks runs c' → c = c' := by
  rw [comboTable, List.nodup_map_iff_inj_on List.nodup_range]
  simp only [List.mem_range, Option.some.injEq]

lemma comboTable_total {count : ℕ} : (comboTable runs count).map (fun shape => (shape.getD []).length) =
    (List.range count).map fun c => (comboBacks runs c).length := by
  rw [comboTable, List.map_map]
  rfl

/-- What is left of the grammar for runs that have the columns of the table. -/
structure ComboRules (taps : TapDataSet) (runs : List (List Tap)) : Prop where
  agree : ∀ run ∈ runs, ∀ run' ∈ runs, combo run = combo run' → backs run = backs run'
  occur : ∀ c < taps.combosCount.toNat, ∃ run ∈ runs, combo run = c
  distinct : ∀ run ∈ runs, ∀ run' ∈ runs, backs run = backs run' → combo run = combo run'
  total : ((List.range taps.combosCount.toNat).map fun c => (comboBacks runs c).length).sum =
    taps.totalComboBacks.toNat

lemma comboTable_checks (hbelow : ∀ run ∈ runs, combo run < taps.combosCount.toNat) :
    (∃ shapes, setComboShapes (List.replicate taps.combosCount.toNat none) runs = .ok shapes ∧
      (∀ shape ∈ shapes, shape.isSome) ∧ shapes.Nodup ∧
        (shapes.map fun shape => (shape.getD []).length).sum = taps.totalComboBacks.toNat) ↔
      ComboRules taps runs := by
  have hlength : ∀ run ∈ runs, combo run < (List.replicate taps.combosCount.toNat (@none Bytes)).length := by
    intro run hrun
    rw [List.length_replicate]
    exact hbelow run hrun
  constructor
  · intro h
    obtain ⟨shapes, hshapes, hsome, hnodup, htotal⟩ := h
    obtain ⟨rfl, hoccur, hagree⟩ :=
      comboTable_of_recorded (recorded_of_setComboShapes hlength hshapes) hsome
    rw [comboTable_total] at htotal
    refine ⟨hagree, hoccur, ?_, htotal⟩
    intro run hrun run' hrun' hbacks
    apply comboTable_nodup.mp hnodup _ (hbelow run hrun) _ (hbelow run' hrun')
    rw [comboBacks_eq hrun hagree, comboBacks_eq hrun' hagree, hbacks]
  · intro h
    obtain ⟨shapes, hshapes⟩ := @exists_setComboShapes (List.replicate taps.combosCount.toNat none)
      (comboTable runs taps.combosCount.toNat) runs (by simp [comboTable]) (by
        intro run hrun
        rw [comboTable_getElem? (hbelow run hrun), comboBacks_eq hrun h.agree]) (by
        intro c b hc
        rw [List.getElem?_replicate] at hc
        split at hc <;> cases hc)
    have hsome : ∀ shape ∈ shapes, shape.isSome := by
      intro shape hshape
      obtain ⟨c, hc⟩ := List.getElem?_of_mem hshape
      have hrecorded := recorded_of_setComboShapes hlength hshapes
      have hlt := (List.getElem?_eq_some_iff.mp hc).1
      rw [hrecorded.length, List.length_replicate] at hlt
      obtain ⟨run, hrun, rfl⟩ := h.occur c hlt
      rw [hrecorded.recorded run hrun] at hc
      rw [← Option.some.inj hc]
      rfl
    obtain ⟨rfl, -, -⟩ := comboTable_of_recorded (recorded_of_setComboShapes hlength hshapes) hsome
    refine ⟨_, hshapes, hsome, comboTable_nodup.mpr ?_, by rw [comboTable_total, h.total]⟩
    intro c hc c' hc' hbacks
    obtain ⟨run, hrun, rfl⟩ := h.occur c hc
    obtain ⟨run', hrun', rfl⟩ := h.occur c' hc'
    rw [comboBacks_eq hrun h.agree, comboBacks_eq hrun' h.agree] at hbacks
    exact h.distinct run hrun run' hrun' hbacks

end Table

section Acceptance

variable {taps : TapDataSet}

lemma headOf_mem {run : List Tap} (h : run ≠ []) : headOf run ∈ run := by
  obtain ⟨head, tail, rfl⟩ := List.exists_cons_of_ne_nil h
  exact List.mem_cons_self

lemma tapGrammar_of_walk {walk : TapWalk} (hrecords : ∀ tap ∈ taps.records,
      IsColumn taps (tap.group, tap.offset) ∧ tap.combo < taps.combosCount ∧ tap.skip > 0)
    (hwalk : walkTaps taps.records.length taps.records
      ⟨0, expectedRegisters taps, List.replicate taps.combosCount.toNat none⟩ = .ok walk)
    (hexpected : walk.expected = []) (hsome : ∀ shape ∈ walk.shapes, shape.isSome)
    (hnodup : walk.shapes.Nodup) (htotal : (walk.shapes.map fun shape => (shape.getD []).length).sum =
      taps.totalComboBacks.toNat) : ∃ runs, TapGrammar taps runs := by
  obtain ⟨runs, hsplit, hruns, hcolumns, -, hshapes⟩ :=
    walkTaps_sound hwalk (by simp) fun tap htap => (hrecords tap htap).2.2
  rw [hexpected, List.append_nil] at hcolumns
  have hbelow : ∀ run ∈ runs, combo run < taps.combosCount.toNat := by
    intro run hrun
    have hhead : headOf run ∈ taps.records := by
      rw [hsplit]
      exact List.mem_flatten.mpr ⟨run, hrun, headOf_mem (hruns run hrun).nonempty⟩
    exact UInt8.lt_iff_toNat_lt.mp (hrecords _ hhead).2.1
  obtain ⟨hordered, hcomplete⟩ := eq_expectedRegisters.mp hcolumns.symm
  have hrules := (comboTable_checks hbelow).mp ⟨walk.shapes, hshapes, hsome, hnodup, htotal⟩
  exact ⟨runs, ⟨hsplit, hruns, hordered, hcomplete, hrules.agree, hrules.occur, hrules.distinct,
    hrules.total⟩, hbelow⟩

lemma TapGrammar.records {runs : List (List Tap)} (h : TapGrammar taps runs) :
    ∀ tap ∈ taps.records, IsColumn taps (tap.group, tap.offset) ∧ tap.combo < taps.combosCount ∧
      tap.skip > 0 := by
  intro tap htap
  rw [h.split] at htap
  obtain ⟨run, hrun, htap⟩ := List.mem_flatten.mp htap
  have hwell := h.wellFormed run hrun
  obtain ⟨hgroup, hoffset, hcombo, hskip⟩ := hwell.uniform tap htap
  rw [hgroup, hoffset, hcombo, hskip]
  refine ⟨(h.complete _).mp (List.mem_map_of_mem hrun), ?_, ?_⟩
  · exact UInt8.lt_iff_toNat_lt.mpr (h.combosBelow run hrun)
  · apply UInt8.lt_iff_toNat_lt.mpr
    rw [hwell.skip]
    exact List.length_pos_of_ne_nil hwell.nonempty

lemma TapGrammar.walk {runs : List (List Tap)} (h : TapGrammar taps runs) :
    ∃ shapes, walkTaps taps.records.length taps.records
        ⟨0, expectedRegisters taps, List.replicate taps.combosCount.toNat none⟩ =
          .ok ⟨taps.records.length, [], shapes⟩ ∧
      (∀ shape ∈ shapes, shape.isSome) ∧ shapes.Nodup ∧
        (shapes.map fun shape => (shape.getD []).length).sum = taps.totalComboBacks.toNat := by
  have hcolumns := eq_expectedRegisters.mpr ⟨h.ordered, h.complete⟩
  obtain ⟨shapes, hshapes, hchecks⟩ :=
    (comboTable_checks h.combosBelow).mpr ⟨h.agree, h.occur, h.distinct, h.total⟩
  refine ⟨shapes, ?_, hchecks⟩
  have hlt := runs_length_le h.wellFormed hcolumns
  rw [h.split]
  exact walkTaps_complete h.wellFormed (by rw [hcolumns, List.append_nil]) hshapes (by simp) hlt

/-- Tap validation accepts exactly the tables of the grammar. -/
theorem validateTaps_iff (taps : TapDataSet) : validateTaps taps = .ok () ↔ ∃ runs, TapGrammar taps runs := by
  simp only [validateTaps, bind_ok, exists_unit, ensure_ok]
  constructor
  · intro h
    obtain ⟨hrecords, walk, hwalk, hexpected, -, hsome, hnodup, htotal⟩ := h
    exact tapGrammar_of_walk (validateTapRecords_ok.mp hrecords) hwalk hexpected hsome hnodup htotal
  · intro h
    obtain ⟨runs, hgrammar⟩ := h
    obtain ⟨shapes, hwalk, hchecks⟩ := hgrammar.walk
    exact ⟨validateTapRecords_ok.mpr hgrammar.records, _, hwalk, rfl, rfl, hchecks⟩

/-- One register whose combo the table does not count. -/
def uncountedCombo : TapDataSet := ⟨⟨[1, 0, 0], rfl⟩, 0, 0, [⟨0, 0, 0, 0, 1⟩]⟩

lemma uncountedCombo_runs : RunGrammar uncountedCombo [[⟨0, 0, 0, 0, 1⟩]] where
  split := rfl
  wellFormed := by
    intro run hrun
    obtain rfl := List.mem_singleton.mp hrun
    exact ⟨List.cons_ne_nil _ _, by decide, rfl, List.pairwise_singleton _ _⟩
  ordered := List.pairwise_singleton _ _
  complete := by
    intro c
    rw [← mem_expectedRegisters]
    exact Iff.rfl
  agree := by decide
  occur := by
    intro c hc
    exact absurd hc (Nat.not_lt_zero c)
  distinct := by decide
  total := rfl

theorem runGrammar_not_exact : ¬∀ taps, validateTaps taps = .ok () ↔ ∃ runs, RunGrammar taps runs := by
  intro h
  have haccepted := (h uncountedCombo).mpr ⟨_, uncountedCombo_runs⟩
  simp only [validateTaps, bind_ok, exists_unit, ensure_ok] at haccepted
  have hrecord := validateTapRecords_ok.mp haccepted.1 ⟨0, 0, 0, 0, 1⟩ List.mem_cons_self
  exact absurd hrecord.2.1 (UInt8.lt_irrefl 0)

end Acceptance

end Eip0045.B2Codec
