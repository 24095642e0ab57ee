import Eip0045.Ancestry.Projection
import Eip0045.Calibration.Selection
import Eip0045.Library.Jcs

/-! Calibration records of the recursive families: their derivation, their verification by a second
derivation, and their canonical encoding. -/

namespace Eip0045.Calibration

open Bytes Checked Stateful Bracketing CanonicalJson Jcs
open RecursiveAncestry (validateLowerHexExact)

section Constants

def recursiveCalibrationSchema : Bytes := utf8 "Eip0045B4RecursiveCalibrationV1"
def recursiveCalibrationLifecycle : Bytes := utf8 "non-final-b4-recursive-candidate"
def recursiveCalibrationSegmentLimitPo2 : ℕ := 22
def recursiveAssumptionWorkloadIterations : ℕ := 0
def recursiveCalibrationMaxBytes : ℕ := 4096

end Constants

inductive RecursiveCalibrationRecipe
  | fixed22
  | join21
  deriving DecidableEq

def expectedSegmentCount (family : Bytes) : Except String ℕ :=
  if family = utf8 "terminal-resolve" then .ok 1
  else if family = utf8 "terminal-join" ∨ family = utf8 "resolve-then-join" then .ok 2
  else .error s!"unknown recursive family \"{text family}\"; expected terminal-join, terminal-resolve, or resolve-then-join"

namespace RecursiveCalibrationRecipe

def segmentLimitPo2 : RecursiveCalibrationRecipe → ℕ
  | fixed22 => recursiveCalibrationSegmentLimitPo2
  | join21 => 21

def validateFamily (recipe : RecursiveCalibrationRecipe) (family : Bytes) : Except String Unit := do
  let _ ← expectedSegmentCount family
  ensure (recipe = fixed22 ∨ family = utf8 "terminal-join" ∨ family = utf8 "resolve-then-join")
    "Join21 permits only terminal-join and resolve-then-join"

def validateCeiling (recipe : RecursiveCalibrationRecipe) (segments : List ℕ) : Except String Unit :=
  ensure (∀ po2 ∈ segments, po2 ≤ recipe.segmentLimitPo2)
    "recursive calibration source segment exceeds its declared recipe ceiling"

end RecursiveCalibrationRecipe

structure RecursiveCalibrationReport where
  schema : Bytes
  lifecycle : Bytes
  elfSha256 : Bytes
  imageId : Bytes
  statementSha256 : Bytes
  family : Bytes
  segmentLimitPo2 : ℕ
  workloadIterations : ℕ
  assumptionWorkloadIterations : ℕ
  segmentPo2 : List ℕ
  deriving DecidableEq

namespace RecursiveCalibrationReport

def validateStaticWithRecipe (report : RecursiveCalibrationReport)
    (recipe : RecursiveCalibrationRecipe) : Except String Unit := do
  recipe.validateFamily report.family
  ensure (report.schema = recursiveCalibrationSchema) "wrong recursive calibration schema"
  ensure (report.lifecycle = recursiveCalibrationLifecycle) "wrong recursive calibration lifecycle"
  mapError "invalid recursive calibration ELF SHA-256" (validateLowerHexExact report.elfSha256 32)
  mapError "invalid recursive calibration image ID" (validateLowerHexExact report.imageId 32)
  mapError "invalid recursive calibration statement SHA-256"
    (validateLowerHexExact report.statementSha256 32)
  let expectedCount ← expectedSegmentCount report.family
  ensure (report.segmentLimitPo2 = recipe.segmentLimitPo2)
    "recursive calibration segment ceiling is not the fixed B4 value"
  ensure (report.assumptionWorkloadIterations = recursiveAssumptionWorkloadIterations)
    "recursive calibration assumption workload is not fixed at zero"
  recipe.validateCeiling report.segmentPo2
  validateExactSegmentSequence report.segmentPo2 expectedCount

/-- The members of the wire form, in the order of their declaration. -/
def names : List Bytes := [utf8 "schema", utf8 "lifecycle", utf8 "elfSha256", utf8 "imageId",
  utf8 "statementSha256", utf8 "family", utf8 "segmentLimitPo2", utf8 "workloadIterations",
  utf8 "assumptionWorkloadIterations", utf8 "segmentPo2"]

/-- The members of the wire form in the order of their keys. -/
def fields (report : RecursiveCalibrationReport) : List (Bytes × JsonValue) := [
  (utf8 "assumptionWorkloadIterations", .number report.assumptionWorkloadIterations),
  (utf8 "elfSha256", .string report.elfSha256),
  (utf8 "family", .string report.family),
  (utf8 "imageId", .string report.imageId),
  (utf8 "lifecycle", .string report.lifecycle),
  (utf8 "schema", .string report.schema),
  (utf8 "segmentLimitPo2", .number report.segmentLimitPo2),
  (utf8 "segmentPo2", .array (report.segmentPo2.map .number)),
  (utf8 "statementSha256", .string report.statementSha256),
  (utf8 "workloadIterations", .number report.workloadIterations)]

def toValue (report : RecursiveCalibrationReport) : JsonValue := .object report.fields

def fromValue (value : Json) : Except String RecursiveCalibrationReport := do
  closed names value
  let schema ← member names value (utf8 "schema") >>= readString
  let lifecycle ← member names value (utf8 "lifecycle") >>= readString
  let elfSha256 ← member names value (utf8 "elfSha256") >>= readString
  let imageId ← member names value (utf8 "imageId") >>= readString
  let statementSha256 ← member names value (utf8 "statementSha256") >>= readString
  let family ← member names value (utf8 "family") >>= readString
  let segmentLimitPo2 ← member names value (utf8 "segmentLimitPo2") >>= readUnsigned (2 ^ 32)
  let workloadIterations ← member names value (utf8 "workloadIterations") >>= readUnsigned (2 ^ 32)
  let assumptionWorkloadIterations ←
    member names value (utf8 "assumptionWorkloadIterations") >>= readUnsigned (2 ^ 32)
  let segmentPo2 ← member names value (utf8 "segmentPo2") >>= readArray (readUnsigned (2 ^ 32))
  pure ⟨schema, lifecycle, elfSha256, imageId, statementSha256, family, segmentLimitPo2,
    workloadIterations, assumptionWorkloadIterations, segmentPo2⟩

variable (codec : Codec)

def toCanonicalJcsWithRecipe (report : RecursiveCalibrationReport)
    (recipe : RecursiveCalibrationRecipe) : Except String Bytes := do
  report.validateStaticWithRecipe recipe
  let bytes ← mapError "cannot canonicalize recursive calibration report"
    (codec.canonicalJsonBytes (ofValue report.toValue))
  ensure (bytes.length ≤ recursiveCalibrationMaxBytes)
    "recursive calibration report exceeds its byte limit"
  pure bytes

def fromCanonicalJcsWithRecipe (source : Bytes) (recipe : RecursiveCalibrationRecipe) :
    Except String RecursiveCalibrationReport := do
  ensure (source.length ≤ recursiveCalibrationMaxBytes)
    "recursive calibration report exceeds its byte limit"
  let value ← mapError "recursive calibration report is not exact RFC 8785 JCS"
    (codec.validateCanonicalJsonSource source)
  let report ← mapError "invalid recursive calibration report shape" (fromValue value)
  report.validateStaticWithRecipe recipe
  let bytes ← report.toCanonicalJcsWithRecipe codec recipe
  ensure (bytes = source) "recursive calibration report does not round-trip byte-exactly"
  pure report

end RecursiveCalibrationReport

section Derivation

variable (sha256 : Bytes → Digest) (observe : Observer (List ℕ))

def sha256Hex (bytes : Bytes) : Bytes := Hex.encode (sha256 bytes).val

/-- The observer of a recipe, which checks what it has observed. -/
def ceilinged (recipe : RecursiveCalibrationRecipe) : Observer (List ℕ) := fun log workload => do
  let segments ← observe log workload
  if recipe = .join21 then recipe.validateCeiling segments
  pure segments

def deriveRecursiveCalibrationBoundWithRecipe (elf : Bytes) (imageId : Digest)
    (statement family : Bytes) (recipe : RecursiveCalibrationRecipe) :
    Search (List ℕ) RecursiveCalibrationReport := do
  lift (report (recipe.validateFamily family))
  let expectedCount ← lift (report (expectedSegmentCount family))
  let selected ← selectRecursiveWorkload (ceilinged observe recipe) expectedCount
  let workloadIterations := selected.1
  let replay ← observeAt (ceilinged observe recipe)
    s!"failed to replay selected recursive workload {workloadIterations}" workloadIterations
  lift (report (validateExactSegmentSequence replay expectedCount))
  lift (report (ensure (replay = selected.2)
    "selected recursive workload produced a nondeterministic segment sequence"))
  let derived : RecursiveCalibrationReport := {
    schema := recursiveCalibrationSchema
    lifecycle := recursiveCalibrationLifecycle
    elfSha256 := sha256Hex sha256 elf
    imageId := Hex.encode imageId.val
    statementSha256 := sha256Hex sha256 statement
    family
    segmentLimitPo2 := recipe.segmentLimitPo2
    workloadIterations
    assumptionWorkloadIterations := recursiveAssumptionWorkloadIterations
    segmentPo2 := selected.2 }
  lift (report (derived.validateStaticWithRecipe recipe))
  pure derived

def verifyRecursiveCalibrationBoundWithRecipe (given : RecursiveCalibrationReport) (elf : Bytes)
    (imageId : Digest) (statement expectedFamily : Bytes) (recipe : RecursiveCalibrationRecipe) :
    Search (List ℕ) Unit := do
  lift (report (given.validateStaticWithRecipe recipe))
  lift (report (ensure (given.family = expectedFamily)
    "recursive calibration family differs from the requested proof family"))
  lift (report (ensure (given.elfSha256 = sha256Hex sha256 elf)
    "recursive calibration ELF SHA-256 differs"))
  lift (report (ensure (given.imageId = Hex.encode imageId.val)
    "recursive calibration image ID differs"))
  lift (report (ensure (given.statementSha256 = sha256Hex sha256 statement)
    "recursive calibration statement SHA-256 differs"))
  let derived ← deriveRecursiveCalibrationBoundWithRecipe sha256 observe elf imageId statement
    expectedFamily recipe
  lift (report (ensure (derived = given)
    "recursive calibration report differs from deterministic rederivation"))

end Derivation

section Shape

variable {family : Bytes} {count : ℕ} {recipe : RecursiveCalibrationRecipe} {po2 : ℕ}

lemma validateLowerHexExact_digest {value : Bytes} : validateLowerHexExact value 32 = .ok () ↔
    value.length = 64 ∧ ∀ c ∈ value, Hex.IsLower c := by
  have hmul : Statement.checkedMul 32 2 = some 64 := by decide
  simp [validateLowerHexExact, hmul, bind_ok, context]

/-- The families with their number of segments. -/
def families : List (Bytes × ℕ) :=
  [(utf8 "terminal-resolve", 1), (utf8 "terminal-join", 2), (utf8 "resolve-then-join", 2)]

lemma expectedSegmentCount_ok : expectedSegmentCount family = .ok count → (family, count) ∈ families := by
  intro h
  rw [expectedSegmentCount] at h
  split at h
  · rename_i hfamily
    rw [hfamily, ← Except.ok.inj h]
    exact List.mem_cons_self
  · split at h
    · rename_i hfamily
      rw [← Except.ok.inj h]
      rcases hfamily with rfl | rfl
      · exact List.mem_cons_of_mem _ List.mem_cons_self
      · exact List.mem_cons_of_mem _ (List.mem_cons_of_mem _ List.mem_cons_self)
    · cases h

lemma families_plain : ∀ entry ∈ families, PlainText entry.1 ∧ entry.1.length ≤ 64 ∧ entry.2 ≤ 2 := by
  intro entry hentry
  have hcodes : (families.all fun entry =>
      plainCodes entry.1 && Nat.ble entry.1.length 64 && Nat.ble entry.2 2) = true := by decide
  have hcode := List.all_eq_true.mp hcodes entry hentry
  rw [Bool.and_eq_true, Bool.and_eq_true, Nat.ble_eq, Nat.ble_eq] at hcode
  exact ⟨plainText_of_codes hcode.1.1, hcode.1.2, hcode.2⟩

lemma classifySegments_ok {segments : List ℕ} {early : Option CalibrationObservationRank}
    (h : classifySegments segments = .ok early) (hearly : early ≠ some .below) :
    ∀ po2 ∈ segments, po2 ≤ maxSourceSegmentPo2 := by
  induction segments with
  | nil => simp
  | cons first rest ih =>
    simp only [classifySegments, bind_ok, exists_unit, ensure_ok] at h
    obtain ⟨hfirst, h⟩ := h
    split at h
    · simp only [bind_ok, exists_unit, ensure_ok, pure_ok] at h
      exact absurd h.2.symm hearly
    · rw [List.forall_mem_cons]
      exact ⟨hfirst, ih h⟩

lemma classifyObservation_exact {segments : List ℕ} (h : classifyObservation segments count = .ok .exact) :
    segments.length ≤ count ∧ ∀ po2 ∈ segments, po2 ≤ maxSourceSegmentPo2 := by
  simp only [classifyObservation, bind_ok, exists_unit, ensure_ok, pure_ok] at h
  obtain ⟨-, hlength, early, hearly, hexact⟩ := h
  refine ⟨hlength, classifySegments_ok hearly ?_⟩
  rintro rfl
  cases hexact

/-- What the static checks leave of a report. -/
structure Shaped (recipe : RecursiveCalibrationRecipe) (report : RecursiveCalibrationReport) : Prop where
  family : ∃ count ≤ 2, (report.family, count) ∈ families ∧ report.segmentPo2.length ≤ count
  schema : report.schema = recursiveCalibrationSchema
  lifecycle : report.lifecycle = recursiveCalibrationLifecycle
  elf : report.elfSha256.length = 64 ∧ ∀ c ∈ report.elfSha256, Hex.IsLower c
  image : report.imageId.length = 64 ∧ ∀ c ∈ report.imageId, Hex.IsLower c
  statement : report.statementSha256.length = 64 ∧ ∀ c ∈ report.statementSha256, Hex.IsLower c
  limit : report.segmentLimitPo2 = recipe.segmentLimitPo2
  assumption : report.assumptionWorkloadIterations = 0
  segments : ∀ po2 ∈ report.segmentPo2, po2 ≤ maxSourceSegmentPo2

lemma shaped_of_validateStatic {given : RecursiveCalibrationReport}
    (h : given.validateStaticWithRecipe recipe = .ok ()) : Shaped recipe given := by
  simp only [RecursiveCalibrationReport.validateStaticWithRecipe, bind_ok, exists_unit, ensure_ok,
    mapError_ok, validateLowerHexExact_digest, validateExactSegmentSequence_ok] at h
  obtain ⟨-, hschema, hlifecycle, helf, himage, hstatement, count, hcount, hlimit, hassumption, -,
    hexact⟩ := h
  obtain ⟨hlength, hsegments⟩ := classifyObservation_exact hexact
  have hmem := expectedSegmentCount_ok hcount
  exact ⟨⟨count, (families_plain _ hmem).2.2, hmem, hlength⟩, hschema, hlifecycle, helf, himage,
    hstatement, hlimit, hassumption, hsegments⟩

lemma segmentLimitPo2_injective : Function.Injective RecursiveCalibrationRecipe.segmentLimitPo2 := by
  intro recipe recipe' h
  cases recipe <;> cases recipe' <;> first | rfl | exact absurd h (by decide)

end Shape

end Eip0045.Calibration
