import Eip0045.Calibration.Report

/-! Derived calibration records: verified by a second derivation, and by it alone; and kept by their
canonical encoding. -/

namespace Eip0045.Calibration

open Bytes Checked Stateful Bracketing CanonicalJson Jcs

section Encoding

variable {codec : Codec} {recipe : RecursiveCalibrationRecipe} {given : RecursiveCalibrationReport}

/-- A report that may be encoded under a recipe. -/
structure Encodable (recipe : RecursiveCalibrationRecipe) (given : RecursiveCalibrationReport) : Prop where
  static : given.validateStaticWithRecipe recipe = .ok ()
  word : given.workloadIterations < 2 ^ 32

lemma segmentLimitPo2_le (recipe : RecursiveCalibrationRecipe) : recipe.segmentLimitPo2 ≤ 22 := by
  cases recipe <;> decide

def sortedNames : List Bytes := [utf8 "assumptionWorkloadIterations", utf8 "elfSha256", utf8 "family",
  utf8 "imageId", utf8 "lifecycle", utf8 "schema", utf8 "segmentLimitPo2", utf8 "segmentPo2",
  utf8 "statementSha256", utf8 "workloadIterations"]

lemma fields_names (given : RecursiveCalibrationReport) : given.fields.map Prod.fst = sortedNames := rfl

lemma texts_checked : ascending sortedNames = true ∧
    (sortedNames.all fun key => plainCodes key && Nat.ble key.length 28) = true ∧
    (∀ key ∈ sortedNames, key ∈ RecursiveCalibrationReport.names) ∧
    (plainCodes recursiveCalibrationLifecycle = true ∧ recursiveCalibrationLifecycle.length ≤ 64) ∧
    plainCodes recursiveCalibrationSchema = true ∧ recursiveCalibrationSchema.length ≤ 64 := by
  decide

lemma keys_increasing (given : RecursiveCalibrationReport) :
    (given.fields.map Prod.fst).Pairwise (· < ·) ∧
      ∀ key ∈ given.fields.map Prod.fst, PlainText key ∧ key.length ≤ 28 := by
  rw [fields_names]
  exact ⟨increasing_of_ascending texts_checked.1, plain_keys texts_checked.2.1⟩

lemma decimal_word_length {n : ℕ} (h : n < 2 ^ 32) : (decimal n).length ≤ 10 :=
  decimal_length (by decide) (by omega)

lemma Encodable.values (h : Encodable recipe given) :
    ∀ field ∈ given.fields, Plain field.2 ∧ (render field.2).length ≤ 66 := by
  obtain ⟨-, -, -, hlifecycle, hschema⟩ := texts_checked
  have hshape := shaped_of_validateStatic h.static
  obtain ⟨count, hcount, hfamily, hlength⟩ := hshape.family
  have hfamily' := families_plain _ hfamily
  dsimp only at hfamily'
  have hlimit := segmentLimitPo2_le recipe
  have hword := h.word
  have hsegments : ∀ item ∈ given.segmentPo2.map JsonValue.number,
      Plain item ∧ (render item).length ≤ 10 := by
    intro item hitem
    obtain ⟨n, hn, rfl⟩ := List.mem_map.mp hitem
    have hle := hshape.segments n hn
    rw [maxSourceSegmentPo2] at hle
    exact ⟨show n < 2 ^ 53 by omega, decimal_word_length (by omega)⟩
  have hlower : ∀ {value : Bytes}, (value.length = 64 ∧ ∀ c ∈ value, Hex.IsLower c) →
      Plain (.string value) ∧ (render (.string value)).length ≤ 66 := by
    intro value hvalue
    refine ⟨plainText_lower hvalue.2, ?_⟩
    rw [render, quoted_length, hvalue.1]
  simp only [RecursiveCalibrationReport.fields, List.forall_mem_cons, hshape.schema, hshape.lifecycle,
    hshape.limit, hshape.assumption]
  refine ⟨⟨?_, ?_⟩, hlower hshape.elf, ⟨hfamily'.1, ?_⟩, hlower hshape.image, ⟨?_, ?_⟩, ⟨?_, ?_⟩,
    ⟨?_, ?_⟩, ⟨?_, ?_⟩, hlower hshape.statement, ⟨?_, ?_⟩, by simp⟩
  · exact Nat.two_pow_pos 53
  · have hzero : (decimal 0).length ≤ 10 := decimal_word_length (by decide)
    exact hzero.trans (by decide)
  · rw [render, quoted_length]
    omega
  · exact plainText_of_codes hlifecycle.1
  · rw [render, quoted_length]
    omega
  · exact plainText_of_codes hschema.1
  · rw [render, quoted_length]
    omega
  · change recipe.segmentLimitPo2 < 2 ^ 53
    omega
  · have hshort : (decimal recipe.segmentLimitPo2).length ≤ 10 := decimal_word_length (by omega)
    exact hshort.trans (by decide)
  · exact plain_array fun item hitem => (hsegments item hitem).1
  · refine (render_array_length_le fun item hitem => (hsegments item hitem).2).trans ?_
    rw [List.length_map]
    omega
  · change given.workloadIterations < 2 ^ 53
    omega
  · exact (decimal_word_length hword).trans (by decide)

lemma Encodable.plain (h : Encodable recipe given) : Plain given.toValue :=
  plain_object (keys_increasing given).1 (fun key hkey => ((keys_increasing given).2 key hkey).1)
    fun field hfield => (h.values field hfield).1

lemma Encodable.render_length (h : Encodable recipe given) :
    (render given.toValue).length ≤ recursiveCalibrationMaxBytes := by
  have hkeys : ∀ field ∈ given.fields, field.1.length ≤ 28 := fun field hfield =>
    ((keys_increasing given).2 _ (List.mem_map_of_mem hfield)).2
  have hlength := render_object_length_le hkeys fun field hfield => (h.values field hfield).2
  refine hlength.trans ?_
  have hcount : given.fields.length = 10 := rfl
  rw [hcount]
  decide

lemma readSegments {values : List ℕ} (h : ∀ n ∈ values, n < 2 ^ 32) :
    readArray (readUnsigned (2 ^ 32)) (ofValue (.array (values.map .number))) = .ok values := by
  rw [ofValue, ofItems_eq, List.map_map, readArray, mapM_forall₂, List.forall₂_map_left_iff,
    List.forall₂_same]
  intro n hn
  exact readUnsigned_ok.mpr ⟨rfl, h n hn⟩

lemma Encodable.fromValue (h : Encodable recipe given) :
    RecursiveCalibrationReport.fromValue (ofValue given.toValue) = .ok given := by
  have hshape := shaped_of_validateStatic h.static
  have hlimit := segmentLimitPo2_le recipe
  have hkeys : ((given.fields.map fun field => (field.1, ofValue field.2)).map Prod.fst).Nodup := by
    rw [List.map_map]
    exact increasing_nodup (keys_increasing given).1
  have hmember : ∀ name v, (name, v) ∈ given.fields →
      member RecursiveCalibrationReport.names (ofValue given.toValue) name = .ok (ofValue v) := by
    intro name v hmem
    rw [RecursiveCalibrationReport.toValue, ofValue, ofMembers_eq]
    exact member_object hkeys (List.mem_map.mpr ⟨(name, v), hmem, rfl⟩)
  have hclosed : closed RecursiveCalibrationReport.names (ofValue given.toValue) = .ok () := by
    rw [RecursiveCalibrationReport.toValue, ofValue, ofMembers_eq, closed, ensure_ok]
    intro field hfield
    obtain ⟨original, horiginal, rfl⟩ := List.mem_map.mp hfield
    exact texts_checked.2.2.1 _ (fields_names given ▸ List.mem_map_of_mem horiginal)
  have hsegments : ∀ n ∈ given.segmentPo2, n < 2 ^ 32 := by
    intro n hn
    have hle := hshape.segments n hn
    rw [maxSourceSegmentPo2] at hle
    omega
  have hnumber : ∀ n, n < 2 ^ 32 → readUnsigned (2 ^ 32) (ofValue (.number n)) = .ok n :=
    fun n hn => readUnsigned_ok.mpr ⟨rfl, hn⟩
  rw [RecursiveCalibrationReport.fromValue, hclosed, ok_bind,
    hmember (utf8 "schema") (.string given.schema) (by simp [RecursiveCalibrationReport.fields]),
    hmember (utf8 "lifecycle") (.string given.lifecycle) (by simp [RecursiveCalibrationReport.fields]),
    hmember (utf8 "elfSha256") (.string given.elfSha256) (by simp [RecursiveCalibrationReport.fields]),
    hmember (utf8 "imageId") (.string given.imageId) (by simp [RecursiveCalibrationReport.fields]),
    hmember (utf8 "statementSha256") (.string given.statementSha256)
      (by simp [RecursiveCalibrationReport.fields]),
    hmember (utf8 "family") (.string given.family) (by simp [RecursiveCalibrationReport.fields]),
    hmember (utf8 "segmentLimitPo2") (.number given.segmentLimitPo2)
      (by simp [RecursiveCalibrationReport.fields]),
    hmember (utf8 "workloadIterations") (.number given.workloadIterations)
      (by simp [RecursiveCalibrationReport.fields]),
    hmember (utf8 "assumptionWorkloadIterations") (.number given.assumptionWorkloadIterations)
      (by simp [RecursiveCalibrationReport.fields]),
    hmember (utf8 "segmentPo2") (.array (given.segmentPo2.map .number))
      (by simp [RecursiveCalibrationReport.fields])]
  simp only [ok_bind, readSegments hsegments, hnumber _ h.word,
    hnumber given.segmentLimitPo2 (by rw [hshape.limit]; omega),
    hnumber given.assumptionWorkloadIterations (by rw [hshape.assumption]; exact Nat.two_pow_pos 32)]
  rfl

lemma Encodable.round_trip (h : Encodable recipe given) :
    given.toCanonicalJcsWithRecipe codec recipe = .ok (render given.toValue) ∧
      RecursiveCalibrationReport.fromCanonicalJcsWithRecipe codec (render given.toValue) recipe =
        .ok given := by
  have hto : given.toCanonicalJcsWithRecipe codec recipe = .ok (render given.toValue) := by
    rw [RecursiveCalibrationReport.toCanonicalJcsWithRecipe, h.static, ok_bind,
      codec.canonical _ h.plain, mapError, ok_bind, ensure_pass h.render_length, ok_bind]
    rfl
  refine ⟨hto, ?_⟩
  rw [RecursiveCalibrationReport.fromCanonicalJcsWithRecipe, ensure_pass h.render_length, ok_bind,
    validateCanonicalJsonSource_render h.plain]
  simp only [mapError, ok_bind, h.fromValue, h.static, hto, ensure_pass]
  rfl

lemma Encodable.rejected (h : Encodable recipe given) {other : RecursiveCalibrationRecipe}
    (hother : other ≠ recipe) :
    (∀ source, given.toCanonicalJcsWithRecipe codec other ≠ .ok source) ∧
      ∀ read, RecursiveCalibrationReport.fromCanonicalJcsWithRecipe codec (render given.toValue) other ≠
        .ok read := by
  have hstatic : given.validateStaticWithRecipe other ≠ .ok () := by
    intro hok
    apply hother
    apply segmentLimitPo2_injective
    rw [← (shaped_of_validateStatic hok).limit, ← (shaped_of_validateStatic h.static).limit]
  constructor
  · intro source hsource
    rw [RecursiveCalibrationReport.toCanonicalJcsWithRecipe, bind_ok] at hsource
    obtain ⟨_, hok, -⟩ := hsource
    exact hstatic hok
  · intro read hread
    rw [RecursiveCalibrationReport.fromCanonicalJcsWithRecipe, ensure_pass h.render_length, ok_bind,
      validateCanonicalJsonSource_render h.plain] at hread
    simp only [mapError, ok_bind, h.fromValue, bind_ok, exists_unit] at hread
    exact hstatic hread.1

end Encoding

section Derivation

variable {sha256 : Bytes → Digest} {observe : Observer (List ℕ)} {elf statement family : Bytes}
  {imageId : Digest} {recipe : RecursiveCalibrationRecipe} {given : RecursiveCalibrationReport}

lemma exec_fst_ok {σ α : Type} {x : Stateful (Fault String) σ α} {s : σ} {a : α} :
    (exec x s).1 = .ok a ↔ ∃ s', exec x s = (.ok a, s') := by
  constructor
  · intro h
    exact ⟨_, Prod.ext h rfl⟩
  · rintro ⟨s', h⟩
    rw [h]

structure Names (sha256 : Bytes → Digest) (elf : Bytes) (imageId : Digest) (statement family : Bytes)
    (given : RecursiveCalibrationReport) : Prop where
  family : given.family = family
  elf : given.elfSha256 = sha256Hex sha256 elf
  image : given.imageId = Hex.encode imageId.val
  statement : given.statementSha256 = sha256Hex sha256 statement

lemma derive_ok (h : (exec (deriveRecursiveCalibrationBoundWithRecipe sha256 observe elf imageId
    statement family recipe) []).1 = .ok given) :
    Encodable recipe given ∧ Names sha256 elf imageId statement family given := by
  obtain ⟨log, hlog⟩ := exec_fst_ok.mp h
  simp only [deriveRecursiveCalibrationBoundWithRecipe, exec_lift_bind_ok, report_ok] at hlog
  obtain ⟨-, -, count, -, hlog⟩ := hlog
  obtain ⟨selected, log', hselected, hlog⟩ := exec_bind_ok.mp hlog
  obtain ⟨replay, log'', -, hlog⟩ := exec_bind_ok.mp hlog
  simp only [exec_lift_bind_ok, report_ok, exec_pure_ok] at hlog
  obtain ⟨_, -, _, -, _, hstatic, rfl, -⟩ := hlog
  have hruns := (@runs_selectRecursiveWorkload (ceilinged observe recipe) count).ok selected
    (by rw [hselected])
  exact ⟨⟨hstatic, hruns.2.word⟩, ⟨rfl, rfl, rfl, rfl⟩⟩

lemma verify_ok : (exec (verifyRecursiveCalibrationBoundWithRecipe sha256 observe given elf imageId
    statement family recipe) []).1 = .ok () ↔
      (exec (deriveRecursiveCalibrationBoundWithRecipe sha256 observe elf imageId statement family
        recipe) []).1 = .ok given := by
  rw [exec_fst_ok]
  constructor
  · rintro ⟨log, hlog⟩
    simp only [verifyRecursiveCalibrationBoundWithRecipe, exec_lift_bind_ok, report_ok] at hlog
    obtain ⟨-, -, -, -, -, -, -, -, -, -, hlog⟩ := hlog
    obtain ⟨derived, log', hderived, hlog⟩ := exec_bind_ok.mp hlog
    obtain ⟨hequal, -⟩ := exec_lift_ok.mp hlog
    rw [report_ok, ensure_ok] at hequal
    rw [hderived, hequal]
  · intro h
    obtain ⟨hencodable, hnames⟩ := derive_ok h
    obtain ⟨log, hlog⟩ := exec_fst_ok.mp h
    refine ⟨log, ?_⟩
    simp only [verifyRecursiveCalibrationBoundWithRecipe, exec_lift_bind_ok, report_ok, ensure_ok]
    refine ⟨(), hencodable.static, (), hnames.family, (), hnames.elf, (), hnames.image, (),
      hnames.statement, ?_⟩
    exact exec_bind_ok.mpr ⟨given, log, hlog, by rw [exec_lift_ok, report_ok, ensure_ok]; simp⟩

end Derivation

section Selectors

/-- What a selector's run over an observer shows: few observations, no wrapped word, and a returned
workload that was observed to be exact, the one before it being below. -/
structure SoundSearch {Obs α : Type} (observe : Observer Obs) (selector : Search Obs α)
    (workload : α → ℕ) (observation : α → Obs) (exact below : Obs → Prop) : Prop where
  answered : Grown observe [] (exec selector []).2
  bounded : (exec selector []).2.length ≤ 65
  unwrapped : (exec selector []).1 ≠ .error .outOfRange
  selected : ∀ a, (exec selector []).1 = .ok a →
    Selected exact below (exec selector []).2 (workload a) (observation a)

lemma SoundSearch.of_runs {Obs α : Type} {observe : Observer Obs} {selector : Search Obs α}
    {workload : α → ℕ} {observation : α → Obs} {exact below : Obs → Prop} {E : Log Obs → Prop}
    (h : Runs observe selector [] (fun a log => log.length ≤ 65 ∧
      Selected exact below log (workload a) (observation a)) fun log => log.length ≤ 65 ∧ E log) :
    SoundSearch observe selector workload observation exact below where
  answered := h.grown
  bounded := by
    cases hresult : (exec selector []).1 with
    | ok a => exact (h.ok a hresult).1
    | error e => exact (h.error e hresult).2.1
  unwrapped := fun herror => (h.error _ herror).1 rfl
  selected a ha := (h.ok a ha).2

lemma selectCanonicalIterations_unsupported {observe : Observer SegmentObservation} {targetPo2 : ℕ}
    (htarget : validateSegmentPo2 targetPo2 ≠ .ok ()) :
    ∃ message, exec (selectCanonicalIterations observe targetPo2) [] = (.error (.reported message), []) := by
  cases hresult : validateSegmentPo2 targetPo2 with
  | ok u => exact absurd hresult htarget
  | error message =>
    refine ⟨message, ?_⟩
    rw [selectCanonicalIterations, hresult, exec_bind, exec_lift]
    rfl

lemma canonical_sound (observe : Observer SegmentObservation) (targetPo2 : ℕ) :
    SoundSearch observe (selectCanonicalIterations observe targetPo2)
      CanonicalCalibrationSelection.workloadIterations CanonicalCalibrationSelection.observation
      (fun o => classify o targetPo2 = .ok .exact) (fun o => classify o targetPo2 = .ok .below) := by
  by_cases htarget : validateSegmentPo2 targetPo2 = .ok ()
  · exact .of_runs (runs_selectCanonicalIterations htarget)
  · obtain ⟨message, hexec⟩ := @selectCanonicalIterations_unsupported observe targetPo2 htarget
    refine ⟨?_, ?_, ?_, ?_⟩
    · rw [hexec]
      exact .refl []
    · rw [hexec]
      exact Nat.zero_le 65
    · rw [hexec]
      simp
    · intro a ha
      rw [hexec] at ha
      cases ha

/-- Selection is sound and bounded for every observer; it finds the least exact workload of a rising
one; and a record is verified exactly when it is the one derived, and is kept by its encoding. -/
theorem calibration_selection_sound :
    (∀ (observe : Observer SegmentObservation) targetPo2,
      SoundSearch observe (selectCanonicalIterations observe targetPo2)
        CanonicalCalibrationSelection.workloadIterations CanonicalCalibrationSelection.observation
        (fun o => classify o targetPo2 = .ok .exact) (fun o => classify o targetPo2 = .ok .below)) ∧
    (∀ (observe : Observer (List ℕ)) expectedCount,
      SoundSearch observe (selectRecursiveWorkload observe expectedCount) Prod.fst Prod.snd
        (fun o => classifyObservation o expectedCount = .ok .exact)
        (fun o => classifyObservation o expectedCount = .ok .below)) ∧
    (∀ targetPo2, validateSegmentPo2 targetPo2 = .ok () →
      ∀ answer : ℕ → SegmentObservation, Rising OrderingClass.place (classify · targetPo2) answer →
      let result := (exec (selectCanonicalIterations (pureObserver fun w => .ok (answer w)) targetPo2)
        []).1
      ((∃ selection, result = .ok selection) ↔
          ∃ w < 2 ^ 32, classify (answer w) targetPo2 = .ok .exact) ∧
        ∀ selection, result = .ok selection →
          IsLeast {w | w < 2 ^ 32 ∧ classify (answer w) targetPo2 = .ok .exact}
            selection.workloadIterations) ∧
    (∀ (expectedCount : ℕ) (answer : ℕ → List ℕ),
      Rising CalibrationObservationRank.place (classifyObservation · expectedCount) answer →
      let result := (exec (selectRecursiveWorkload (pureObserver fun w => .ok (answer w)) expectedCount)
        []).1
      ((∃ selected, result = .ok selected) ↔
          ∃ w < 2 ^ 32, classifyObservation (answer w) expectedCount = .ok .exact) ∧
        ∀ selected, result = .ok selected →
          IsLeast {w | w < 2 ^ 32 ∧ classifyObservation (answer w) expectedCount = .ok .exact}
            selected.1) ∧
    ∀ (codec : Codec) (sha256 : Bytes → Digest) (observe : Observer (List ℕ)) (elf : Bytes)
      (imageId : Digest) (statement family : Bytes) (recipe : RecursiveCalibrationRecipe)
      (given : RecursiveCalibrationReport),
      let derived := (exec (deriveRecursiveCalibrationBoundWithRecipe sha256 observe elf imageId
        statement family recipe) []).1
      ((exec (verifyRecursiveCalibrationBoundWithRecipe sha256 observe given elf imageId statement
          family recipe) []).1 = .ok () ↔ derived = .ok given) ∧
        (derived = .ok given →
          (∃ source, given.toCanonicalJcsWithRecipe codec recipe = .ok source ∧
            RecursiveCalibrationReport.fromCanonicalJcsWithRecipe codec source recipe = .ok given ∧
            ∀ other ≠ recipe, ∀ read,
              RecursiveCalibrationReport.fromCanonicalJcsWithRecipe codec source other ≠ .ok read) ∧
          ∀ other ≠ recipe, ∀ source, given.toCanonicalJcsWithRecipe codec other ≠ .ok source) := by
  refine ⟨canonical_sound, ?_, ?_, ?_, ?_⟩
  · intro observe expectedCount
    exact .of_runs runs_selectRecursiveWorkload
  · intro targetPo2 htarget answer hrising
    exact selectCanonicalIterations_rising htarget hrising
  · intro expectedCount answer hrising
    exact selectRecursiveWorkload_rising hrising
  · intro codec sha256 observe elf imageId statement family recipe given
    refine ⟨verify_ok, ?_⟩
    intro h
    obtain ⟨hencodable, -⟩ := derive_ok h
    obtain ⟨hto, hfrom⟩ : given.toCanonicalJcsWithRecipe codec recipe = .ok (render given.toValue) ∧
        RecursiveCalibrationReport.fromCanonicalJcsWithRecipe codec (render given.toValue) recipe =
          .ok given := hencodable.round_trip
    refine ⟨⟨render given.toValue, hto, hfrom, ?_⟩, ?_⟩
    · intro other hother
      exact (hencodable.rejected hother).2
    · intro other hother
      exact (hencodable.rejected hother).1

/-- A target that is not supported is refused before anything is observed, although every workload is
exact. -/
theorem unsupported_target_refused : ¬∀ (targetPo2 : ℕ) (answer : ℕ → SegmentObservation),
    Rising OrderingClass.place (classify · targetPo2) answer →
    ((∃ selection, (exec (selectCanonicalIterations (pureObserver fun w => .ok (answer w)) targetPo2)
      []).1 = .ok selection) ↔ ∃ w < 2 ^ 32, classify (answer w) targetPo2 = .ok .exact) := by
  intro h
  have hclass : classify ⟨1, some 30⟩ 30 = .ok .exact := rfl
  have hrising : Rising OrderingClass.place (classify · 30) fun _ => ⟨1, some 30⟩ :=
    ⟨fun _ => .exact, fun _ _ => hclass, fun _ _ _ _ => le_rfl⟩
  obtain ⟨selection, hselection⟩ := (h 30 (fun _ => ⟨1, some 30⟩) hrising).mpr
    ⟨0, Nat.two_pow_pos 32, hclass⟩
  cases hselection

end Selectors

end Eip0045.Calibration
