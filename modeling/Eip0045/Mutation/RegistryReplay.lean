import Mathlib
import Eip0045.Library.Keyed
import Eip0045.Mutation.ByteRecipes
import Eip0045.Mutation.SequenceRecipes

/-! Registry sources as sequences: their projection, their edits, and the replay of these edits. -/

namespace Eip0045.Mutation

open Bytes Checked SequenceSubject
open RawSeal.Producer (B4ByteOperation)

section Values

/-- JSON values, an object being a map in the order of its keys. -/
inductive Value (Number : Type)
  | null
  | bool (value : Bool)
  | number (value : Number)
  | string (text : Bytes)
  | array (items : List (Value Number))
  | object (fields : List (Bytes × Value Number))

variable {Number : Type}

def Value.asObject : Value Number → Option (List (Bytes × Value Number))
  | .object fields => some fields
  | _ => none

def Value.asArray : Value Number → Option (List (Value Number))
  | .array items => some items
  | _ => none

def Value.asStr : Value Number → Option Bytes
  | .string text => some text
  | _ => none

/-- Values whose numbers are exact and whose objects have their keys in order. -/
inductive Value.Exact (exactNumber : Number → Prop) : Value Number → Prop
  | null : Value.Exact exactNumber .null
  | bool (value : Bool) : Value.Exact exactNumber (.bool value)
  | number (value : Number) (h : exactNumber value) : Value.Exact exactNumber (.number value)
  | string (text : Bytes) : Value.Exact exactNumber (.string text)
  | array (items : List (Value Number)) (h : ∀ item ∈ items, Value.Exact exactNumber item) :
    Value.Exact exactNumber (.array items)
  | object (fields : List (Bytes × Value Number)) (hkeys : (fields.map Prod.fst).Pairwise (· < ·))
    (h : ∀ field ∈ fields, Value.Exact exactNumber field.2) : Value.Exact exactNumber (.object fields)

variable (Number)

/-- Strict parsing and canonical printing. A value that a canonical source has is exact, and no text that
an exact value is printed as reads as another value. -/
structure JsonCodec where
  exactNumber : Number → Prop
  canonicalJsonBytes : Value Number → Except String Bytes
  parseJsonStrict : Bytes → Except String (Value Number)
  canonical : ∀ source value, parseJsonStrict source = .ok value → canonicalJsonBytes value = .ok source →
    value.Exact exactNumber
  inverse : ∀ source value other, value.Exact exactNumber → canonicalJsonBytes value = .ok source →
    parseJsonStrict source = .ok other → other = value

variable {Number}

def JsonCodec.validateCanonicalJsonSource (codec : JsonCodec Number) (source : Bytes) :
    Except String (Value Number) := do
  let value ← codec.parseJsonStrict source
  let canonical ← codec.canonicalJsonBytes value
  ensure (canonical = source) "JSON source is not the exact RFC 8785 canonical encoding"
  pure value

/-- What the check of a sequence element uses of it. -/
def JsonCodec.acceptsSource (codec : JsonCodec Number) (source : Bytes) : Except String Unit := do
  let _ ← codec.validateCanonicalJsonSource source
  pure ()

def arrayField (value : Value Number) (field : String) : Except String (List (Value Number)) := do
  let fields ← context "registry probe value is not an object" value.asObject
  let item ← context s!"registry probe value lacks {field}" (fields.lookup (utf8 field))
  context s!"registry probe field {field} is not an array" item.asArray

def stringField (value : Value Number) (field : String) : Except String Bytes := do
  let fields ← context "registry probe row is not an object" value.asObject
  let item ← context s!"registry probe row lacks {field}" (fields.lookup (utf8 field))
  context s!"registry probe row field {field} is not a string" item.asStr

/-- The members of an object with a new value for one key. -/
def withField (key : Bytes) (value : Value Number) (fields : List (Bytes × Value Number)) :
    List (Bytes × Value Number) :=
  fields.map fun field => if field.1 = key then (field.1, value) else field

/-- `*array_field_mut(&mut value, field)? = items`. -/
def setArrayField (value : Value Number) (field : String) (items : List (Value Number)) :
    Except String (Value Number) := do
  let fields ← context "registry probe value is not an object" value.asObject
  let item ← context s!"registry probe value lacks {field}" (fields.lookup (utf8 field))
  let _ ← context s!"registry probe field {field} is not an array" item.asArray
  pure (.object (withField (utf8 field) (.array items) fields))

end Values

section Recipes

inductive B4ProfileArtifact
  | algorithm | algorithmArtifactPreimage | constants | binaryDataArtifactPreimage | profileId
  | profileIdPreimage
  deriving DecidableEq

inductive B4ByteTarget
  | applicationPayload | ancestry | candidateRegistrySource | positiveCalibration | positiveMetadata
  | profileArtifact (artifact : B4ProfileArtifact)
  | profileManifest | profileId | programId | receiptOracle | rawSeal | statement | subjectCatalogEntry
  | terminalFixtureCatalogEntry | terminalMetadataRecord | terminalPolicyProbe
  deriving DecidableEq

/-- The three families that are refused here come without their data. -/
inductive B4NegativeMutation
  | alternateRootAssumptionSubstitution
  | ancestryInventoryEdit
  | ancestryWitnessSubstitution
  | byteEdit (edit : B4ByteOperation) (target : B4ByteTarget)
  | sequenceEdit (edit : B4SequenceOperation) (target : B4SequenceTarget)

inductive B4NegativeMaterialization
  | mutation (mutation : B4NegativeMutation)
  | fixtureSelection (fixtureId : Bytes)

def b4SyntheticRegistrySkeletonId : String := "synthetic-registry-skeleton-v1"
def b4SyntheticNegativeBindingIndexId : String := "synthetic-negative-binding-index-v1"

def projectionField (baseSelectorId : String) : B4SequenceTarget → Except String String
  | .registryPositiveCases => do
    ensure (baseSelectorId = b4SyntheticRegistrySkeletonId)
      "registry sequence target contradicts its independent base selector"
    pure "positiveCases"
  | .registryNegativeClasses => do
    ensure (baseSelectorId = b4SyntheticRegistrySkeletonId)
      "registry sequence target contradicts its independent base selector"
    pure "negativeClasses"
  | .registryNegativeBindings => do
    ensure (baseSelectorId = b4SyntheticNegativeBindingIndexId)
      "registry sequence target contradicts its independent base selector"
    pure "rows"
  | _ => .error "registry sequence target contradicts its independent base selector"

variable {Number : Type} (sha256 : Bytes → Digest) (codec : JsonCodec Number)

def bindingElementId (executionId : Bytes) : Bytes :=
  utf8 "binding-" ++ sha256Hex sha256 executionId

def projectionElementId (target : B4SequenceTarget) (value : Value Number) : Except String Bytes :=
  match target with
  | .registryPositiveCases => stringField value "caseId"
  | .registryNegativeClasses =>
    context "negative-class projection element is not a string" value.asStr
  | .registryNegativeBindings => do
    let executionId ← stringField value "executionId"
    pure (bindingElementId sha256 executionId)
  | _ => .error "unsupported registry sequence projection target"

def projectionElement (target : B4SequenceTarget) (value : Value Number) :
    Except String B4SequenceSubjectElement := do
  let elementId ← projectionElementId sha256 target value
  let bytes ← codec.canonicalJsonBytes value
  B4SequenceSubjectElement.fromBytes sha256 elementId bytes

def projectRegistrySequence (baseSelectorId : String) (source : Bytes) (target : B4SequenceTarget) :
    Except String Eip0045B4SequenceSubjectV1 := do
  let value ← mapError "registry sequence projection source is not exact canonical JCS"
    (codec.validateCanonicalJsonSource source)
  let field ← projectionField baseSelectorId target
  let items ← arrayField value field
  let elements ← items.mapM (projectionElement sha256 codec target)
  Eip0045B4SequenceSubjectV1.new sha256 codec.acceptsSource target elements

def deriveSequenceMutation (baseSelectorId : String) (base output : Bytes) (target : B4SequenceTarget)
    (kind : SequenceChangeKind) : Except String B4NegativeMutation := do
  let baseSubject ← projectRegistrySequence sha256 codec baseSelectorId base target
  let outputSubject ← projectRegistrySequence sha256 codec baseSelectorId output target
  let edit ← deriveSequenceOperation baseSubject.elements outputSubject.elements kind
  pure (.sequenceEdit edit target)

variable (parser : SubjectParser sha256 codec.acceptsSource)

def reconstructMutation (base : Bytes) : B4NegativeMutation → Result Bytes
  | .alternateRootAssumptionSubstitution => .error (.reported
      "generic mutation reconstruction refuses the fixed alternate-root assumption substitution")
  | .ancestryInventoryEdit => .error (.reported
      "generic mutation reconstruction refuses a domain-semantic ancestry-inventory edit")
  | .ancestryWitnessSubstitution => .error (.reported
      "generic mutation reconstruction refuses a domain-semantic ancestry-witness substitution")
  | .byteEdit edit _ => do
    report (validateByteOperation edit)
    reconstructByteEdit base edit
  | .sequenceEdit edit target => do
    report (validateSequenceOperation sha256 codec.acceptsSource target edit)
    report (reconstructSequenceEdit sha256 codec.acceptsSource parser base target edit)

def decodedElementValue (element : B4SequenceSubjectElement) : Except String (Value Number) := do
  let bytes ← element.decodedBytes sha256
  mapError "reconstructed registry sequence element is not exact canonical JCS"
    (codec.validateCanonicalJsonSource bytes)

def replayRegistrySequenceEdit (baseSelectorId : String) (base output : Bytes)
    (target : B4SequenceTarget) (edit : B4SequenceOperation) : Result Unit := do
  let baseValue ← report (mapError "registry sequence-replay base is not exact canonical JCS"
    (codec.validateCanonicalJsonSource base))
  let baseSubject ← report (projectRegistrySequence sha256 codec baseSelectorId base target)
  let subjectSource ← report (baseSubject.toCanonicalJcs sha256 codec.acceptsSource)
  let subjectOutput ← reconstructMutation sha256 codec parser subjectSource (.sequenceEdit edit target)
  let reconstructedSubject ← report (fromCanonicalJcs sha256 codec.acceptsSource parser subjectOutput)
  let reconstructedElements ← report
    (reconstructedSubject.elements.mapM (decodedElementValue sha256 codec))
  let field ← report (projectionField baseSelectorId target)
  let reconstructedValue ← report (setArrayField baseValue field reconstructedElements)
  let printed ← report (codec.canonicalJsonBytes reconstructedValue)
  report (ensure (printed = output)
    "registry sequence recipe does not inverse-project to the exact output")

def replayRecipe (baseSelectorId : String) (base output : Bytes) :
    B4NegativeMaterialization → Result Unit
  | .fixtureSelection _ => .error (.reported
      "registry-probe adapter received a fixture-selection recipe")
  | .mutation .alternateRootAssumptionSubstitution => .error (.reported
      "registry-probe adapter received an alternate-root assumption recipe")
  | .mutation .ancestryInventoryEdit => .error (.reported
      "registry-probe adapter received an ancestry-inventory recipe")
  | .mutation .ancestryWitnessSubstitution => .error (.reported
      "registry-probe adapter received an ancestry-witness substitution recipe")
  | .mutation (.byteEdit edit target) => do
    report (ensure (target = .candidateRegistrySource)
      "registry-probe byte recipe uses the wrong coarse target")
    let reconstructed ← reconstructMutation sha256 codec parser base (.byteEdit edit target)
    report (ensure (reconstructed = output)
      "registry-probe byte recipe does not reconstruct the exact output")
  | .mutation (.sequenceEdit edit target) =>
    replayRegistrySequenceEdit sha256 codec parser baseSelectorId base output target edit

end Recipes

section Fields

variable {Number : Type} {key : Bytes} {fields fields' : List (Bytes × Value Number)}
variable {value : Value Number} {items : List (Value Number)} {field : String}

lemma asObject_eq_some : value.asObject = some fields ↔ value = .object fields := by
  cases value with
  | object fields' => rw [Value.asObject, Option.some.injEq, Value.object.injEq]
  | _ => exact ⟨fun h => (by cases h), fun h => (by cases h)⟩

lemma asArray_eq_some : value.asArray = some items ↔ value = .array items := by
  cases value with
  | array items' => rw [Value.asArray, Option.some.injEq, Value.array.injEq]
  | _ => exact ⟨fun h => (by cases h), fun h => (by cases h)⟩

lemma arrayField_ok : arrayField value field = .ok items ↔
    ∃ fields, value = .object fields ∧ fields.lookup (utf8 field) = some (.array items) := by
  simp only [arrayField, bind_ok, context_ok, asObject_eq_some, asArray_eq_some]
  constructor
  · intro h
    obtain ⟨fields, hvalue, _, hlookup, rfl⟩ := h
    exact ⟨fields, hvalue, hlookup⟩
  · intro h
    obtain ⟨fields, hvalue, hlookup⟩ := h
    exact ⟨fields, hvalue, _, hlookup, rfl⟩

lemma setArrayField_ok {next : Value Number} : setArrayField value field items = .ok next ↔
    ∃ fields old, value = .object fields ∧ fields.lookup (utf8 field) = some (.array old) ∧
      next = .object (withField (utf8 field) (.array items) fields) := by
  simp only [setArrayField, bind_ok, context_ok, asObject_eq_some, asArray_eq_some, pure_ok]
  constructor
  · intro h
    obtain ⟨fields, hvalue, _, hlookup, old, rfl, rfl⟩ := h
    exact ⟨fields, old, hvalue, hlookup, rfl⟩
  · intro h
    obtain ⟨fields, old, hvalue, hlookup, rfl⟩ := h
    exact ⟨fields, hvalue, _, hlookup, old, rfl, rfl⟩

lemma withField_keys (key : Bytes) (value : Value Number) (fields : List (Bytes × Value Number)) :
    (withField key value fields).map Prod.fst = fields.map Prod.fst := by
  rw [withField, List.map_map]
  apply List.map_congr_left
  intro field _
  simp only [Function.comp_apply]
  split <;> rfl

lemma lookup_cons_eq {other : Bytes} {entry : Bytes × Value Number} :
    (entry :: fields).lookup other = if other = entry.1 then some entry.2 else fields.lookup other := by
  rw [List.lookup_cons]
  by_cases h : other = entry.1
  · rw [if_pos h, beq_iff_eq.mpr h]
  · rw [if_neg h, beq_eq_false_iff_ne.mpr h]

lemma lookup_absent {other : Bytes} (h : other ∉ fields.map Prod.fst) : fields.lookup other = none := by
  rw [List.lookup_eq_none_iff]
  intro entry hmem
  rw [bne_iff_ne]
  intro heq
  exact h (heq ▸ List.mem_map_of_mem hmem)

lemma withField_cons (entry : Bytes × Value Number) : withField key value (entry :: fields) =
    (if entry.1 = key then (entry.1, value) else entry) :: withField key value fields := rfl

lemma withField_lookup {old : Value Number} (h : fields.lookup key = some old) :
    (withField key value fields).lookup key = some value := by
  induction fields with
  | nil => cases h
  | cons entry fields ih =>
    rw [withField_cons, lookup_cons_eq]
    rw [lookup_cons_eq] at h
    by_cases hentry : key = entry.1
    · rw [if_pos hentry.symm, if_pos hentry]
    · rw [if_neg hentry] at h
      rw [if_neg (Ne.symm hentry), if_neg hentry, ih h]

lemma withField_lookup_other {other : Bytes} (h : other ≠ key) :
    (withField key value fields).lookup other = fields.lookup other := by
  induction fields with
  | nil => rfl
  | cons entry fields ih =>
    rw [withField_cons, lookup_cons_eq, lookup_cons_eq, ih]
    by_cases hentry : entry.1 = key
    · rw [if_pos hentry, hentry, if_neg h, if_neg h]
    · rw [if_neg hentry]

/-- The array of one field of an object is another, and the object is the same otherwise. -/
def ReplacesField (key : Bytes) (items : List (Value Number)) (base output : Value Number) : Prop :=
  ∃ fields fields', base = .object fields ∧ output = .object fields' ∧
    fields'.map Prod.fst = fields.map Prod.fst ∧ fields'.lookup key = some (.array items) ∧
    ∀ other, other ≠ key → fields'.lookup other = fields.lookup other

lemma fields_ext (hkeys : fields'.map Prod.fst = fields.map Prod.fst) (hnodup : (fields.map Prod.fst).Nodup)
    (h : ∀ key, fields'.lookup key = fields.lookup key) : fields' = fields := by
  induction fields generalizing fields' with
  | nil => exact List.map_eq_nil_iff.mp hkeys
  | cons entry fields ih =>
    cases fields' with
    | nil => cases hkeys
    | cons entry' fields' =>
      rw [List.map_cons, List.map_cons, List.cons.injEq] at hkeys
      rw [List.map_cons, List.nodup_cons] at hnodup
      have hentry : entry' = entry := by
        have hat := h entry.1
        rw [lookup_cons_eq, lookup_cons_eq, if_pos hkeys.1.symm, if_pos rfl, Option.some.injEq] at hat
        exact Prod.ext hkeys.1 hat
      rw [hentry, ih hkeys.2 hnodup.2]
      intro key
      have hat := h key
      rw [lookup_cons_eq, lookup_cons_eq, hentry] at hat
      by_cases hkey : key = entry.1
      · rw [hkey, lookup_absent hnodup.1, lookup_absent (hkeys.2 ▸ hnodup.1)]
      · rwa [if_neg hkey, if_neg hkey] at hat

lemma ReplacesField.eq_withField {base output : Value Number}
    (h : ReplacesField key items base output) (hnodup : ∀ fields, base = .object fields →
      (fields.map Prod.fst).Nodup) {old : Value Number}
    (hold : ∀ fields, base = .object fields → fields.lookup key = some old) :
    ∃ fields, base = .object fields ∧ output = .object (withField key (.array items) fields) := by
  obtain ⟨fields, fields', rfl, rfl, hkeys, hlookup, hothers⟩ := h
  refine ⟨fields, rfl, congrArg Value.object (fields_ext ?_ ?_ ?_)⟩
  · rw [hkeys, withField_keys]
  · rw [withField_keys]
    exact hnodup fields rfl
  · intro other
    by_cases hother : other = key
    · rw [hother, hlookup, withField_lookup (hold fields rfl)]
    · rw [hothers other hother, withField_lookup_other hother]

end Fields

section Projection

variable {Number : Type} {sha256 : Bytes → Digest} {codec : JsonCodec Number}
variable {source : Bytes} {value item : Value Number} {target : B4SequenceTarget}
variable {element : B4SequenceSubjectElement} {subject : Eip0045B4SequenceSubjectV1}
variable {baseSelectorId : String}

lemma validateCanonicalJsonSource_ok : codec.validateCanonicalJsonSource source = .ok value ↔
    codec.parseJsonStrict source = .ok value ∧ codec.canonicalJsonBytes value = .ok source := by
  simp only [JsonCodec.validateCanonicalJsonSource, bind_ok, exists_unit, ensure_ok, pure_ok]
  constructor
  · intro h
    obtain ⟨_, hparse, _, hprint, rfl, rfl⟩ := h
    exact ⟨hparse, hprint⟩
  · intro h
    exact ⟨value, h.1, source, h.2, rfl, rfl⟩

lemma exact_of_source (h : codec.validateCanonicalJsonSource source = .ok value) :
    value.Exact codec.exactNumber := by
  obtain ⟨hparse, hprint⟩ := validateCanonicalJsonSource_ok.mp h
  exact codec.canonical source value hparse hprint

lemma source_of_exact {bytes : Bytes} (h : value.Exact codec.exactNumber)
    (hprint : codec.canonicalJsonBytes value = .ok bytes) (haccepts : codec.acceptsSource bytes = .ok ()) :
    codec.validateCanonicalJsonSource bytes = .ok value := by
  simp only [JsonCodec.acceptsSource, bind_ok] at haccepts
  obtain ⟨other, hother, -⟩ := haccepts
  have hparse := (validateCanonicalJsonSource_ok.mp hother).1
  rwa [codec.inverse bytes value other h hprint hparse] at hother

lemma projectionField_target {field : String} (h : projectionField baseSelectorId target = .ok field) :
    target ≠ .proofChunks := by
  intro heq
  rw [heq] at h
  cases h

lemma fromBytes_payload {elementId bytes : Bytes}
    (h : B4SequenceSubjectElement.fromBytes sha256 elementId bytes = .ok element) :
    element.payload = bytes := by
  simp only [B4SequenceSubjectElement.fromBytes, bind_ok, exists_unit, pure_ok] at h
  obtain ⟨-, rfl⟩ := h
  rw [B4SequenceSubjectElement.payload, Hex.decode_encode, Option.getD_some]

lemma projectionElement_payload (h : projectionElement sha256 codec target item = .ok element) :
    codec.canonicalJsonBytes item = .ok element.payload := by
  simp only [projectionElement, bind_ok] at h
  obtain ⟨elementId, -, bytes, hbytes, h⟩ := h
  rwa [fromBytes_payload h]

lemma decodedElementValue_projected (hitem : item.Exact codec.exactNumber)
    (h : projectionElement sha256 codec target item = .ok element)
    (hfits : Fits sha256 codec.acceptsSource target element) (htarget : target ≠ .proofChunks) :
    decodedElementValue sha256 codec element = .ok item := by
  have hsource := source_of_exact hitem (projectionElement_payload h) (hfits.canonical htarget)
  rw [decodedElementValue, bind_ok]
  exact ⟨_, decodedBytes_ok.mpr ⟨hfits.authentic, rfl⟩, mapError_ok.mpr hsource⟩

/-- The array of a source behind the elements of a subject. -/
structure Projected (sha256 : Bytes → Digest) (codec : JsonCodec Number) (baseSelectorId : String)
    (source : Bytes) (target : B4SequenceTarget) (subject : Eip0045B4SequenceSubjectV1)
    (value : Value Number) (field : String) (items : List (Value Number)) : Prop where
  read : codec.validateCanonicalJsonSource source = .ok value
  named : projectionField baseSelectorId target = .ok field
  array : arrayField value field = .ok items
  projects : List.Forall₂ (fun item element => projectionElement sha256 codec target item = .ok element)
    items subject.elements
  same : subject.target = target
  valid : Valid sha256 codec.acceptsSource subject

lemma projectRegistrySequence_ok :
    projectRegistrySequence sha256 codec baseSelectorId source target = .ok subject ↔
      ∃ value field items,
        Projected sha256 codec baseSelectorId source target subject value field items := by
  simp only [projectRegistrySequence, Eip0045B4SequenceSubjectV1.new, bind_ok, exists_unit, mapError_ok,
    mapM_forall₂, validate_ok, pure_ok]
  constructor
  · intro h
    obtain ⟨value, hread, field, hfield, items, hitems, elements, helements, hvalid, rfl⟩ := h
    exact ⟨value, field, items, hread, hfield, hitems, helements, rfl, hvalid⟩
  · intro h
    obtain ⟨value, field, items, h⟩ := h
    have hsubject : subject = ⟨b4SequenceSubjectFormat, target, subject.elements⟩ := by
      rw [← h.same, ← h.valid.format]
    refine ⟨value, h.read, field, h.named, items, h.array, subject.elements, h.projects, ?_, hsubject.symm⟩
    rw [← hsubject]
    exact h.valid

variable {field : String} {items : List (Value Number)}

lemma Projected.exact_items (h : Projected sha256 codec baseSelectorId source target subject value field items)
    {item : Value Number} (hmem : item ∈ items) : item.Exact codec.exactNumber := by
  have hexact := exact_of_source h.read
  obtain ⟨fields, rfl, hlookup⟩ := arrayField_ok.mp h.array
  cases hexact with
  | object _ _ hfields =>
    obtain ⟨before, after, rfl, -⟩ := List.lookup_eq_some_iff.mp hlookup
    have harray := hfields (utf8 field, .array items) (by simp)
    cases harray with
    | array _ hitems => exact hitems item hmem

lemma Projected.decodes (h : Projected sha256 codec baseSelectorId source target subject value field items) :
    subject.elements.mapM (decodedElementValue sha256 codec) = .ok items := by
  have hpairs : ∀ pair ∈ items.zip subject.elements,
      decodedElementValue sha256 codec pair.2 = .ok pair.1 := by
    intro pair hpair
    have hproject := (List.forall₂_iff_zip.mp h.projects).2 hpair
    have hfits := h.same ▸ h.valid.fits pair.2 (List.of_mem_zip hpair).2
    exact decodedElementValue_projected (h.exact_items (List.of_mem_zip hpair).1) hproject hfits
      (projectionField_target h.named)
  rw [mapM_forall₂]
  exact (List.forall₂_iff_zip.mpr ⟨h.projects.length_eq, fun hmem => hpairs _ hmem⟩).flip

lemma decoded_reads {elements : List B4SequenceSubjectElement}
    (h : elements.mapM (decodedElementValue sha256 codec) = .ok items) :
    (payloads elements).mapM codec.validateCanonicalJsonSource = .ok items := by
  rw [payloads, mapM_forall₂, List.forall₂_map_left_iff]
  apply (mapM_forall₂.mp h).imp
  intro element item hdecode
  rw [decodedElementValue, bind_ok] at hdecode
  obtain ⟨bytes, hbytes, hread⟩ := hdecode
  rw [← (decodedBytes_ok.mp hbytes).2]
  exact mapError_ok.mp hread

lemma Projected.payloads_ne {source' : Bytes} {subject' : Eip0045B4SequenceSubjectV1}
    {value' : Value Number} {field' : String} {items' : List (Value Number)}
    (h : Projected sha256 codec baseSelectorId source target subject value field items)
    (h' : Projected sha256 codec baseSelectorId source' target subject' value' field' items')
    (hne : subject.elements ≠ subject'.elements) :
    payloads subject'.elements ≠ payloads subject.elements := by
  intro heq
  have hread := decoded_reads h'.decodes
  rw [heq, decoded_reads h.decodes] at hread
  obtain rfl := Except.ok.inj hread
  have hproject := mapM_forall₂.mpr h.projects
  rw [mapM_forall₂.mpr h'.projects] at hproject
  exact hne (Except.ok.inj hproject).symm

end Projection

section Agreement

variable {Number : Type} {sha256 : Bytes → Digest} {codec : JsonCodec Number}
variable {parser : SubjectParser sha256 codec.acceptsSource}
variable {baseSelectorId : String} {base output : Bytes} {target : B4SequenceTarget}
variable {edit : B4SequenceOperation}

lemma Describes.changes {elements elements' : List B4SequenceSubjectElement} {kind : SequenceChangeKind}
    (hnodup : (elements.map B4SequenceSubjectElement.elementId).Nodup)
    (h : Describes elements elements' edit kind) : elements ≠ elements' := by
  intro heq
  cases kind with
  | insert =>
    obtain ⟨index, element, hle, houtput, -⟩ := h
    have hlength := List.length_insertIdx_of_le_length hle element
    rw [← houtput, ← heq] at hlength
    omega
  | move =>
    obtain ⟨fromIndex, toIndex, element, hne, hat, hto, houtput, -⟩ := h
    have hat' := (moved hat hto).1
    rw [← houtput, ← heq] at hat'
    exact hne ((List.getElem?_inj (List.getElem?_eq_some_iff.mp hat).1 (List.Nodup.of_map _ hnodup)).mp
      (hat.trans hat'.symm))
  | «omit» =>
    obtain ⟨index, element, hat, houtput, -⟩ := h
    obtain ⟨hlt, -⟩ := List.getElem?_eq_some_iff.mp hat
    have hlength := List.length_eraseIdx_of_lt hlt
    rw [← houtput, ← heq] at hlength
    omega
  | replace =>
    obtain ⟨index, before, after, hat, hne, houtput, -⟩ := h
    obtain ⟨hlt, -⟩ := List.getElem?_eq_some_iff.mp hat
    have hat' := List.getElem?_set_self (a := after) hlt
    rw [← houtput, ← heq, hat, Option.some.injEq] at hat'
    exact hne hat'

/-- The payloads that the projections of two sources have. -/
def projectedPayloads (sha256 : Bytes → Digest) (codec : JsonCodec Number) (baseSelectorId : String)
    (base output : Bytes) (target : B4SequenceTarget) : Set Bytes :=
  {bytes | ∃ source subject, (source = base ∨ source = output) ∧
    projectRegistrySequence sha256 codec baseSelectorId source target = .ok subject ∧
    bytes ∈ payloads subject.elements}

lemma exact_withField {fields : List (Bytes × Value Number)} {items : List (Value Number)} {key : Bytes}
    (h : Value.Exact codec.exactNumber (.object fields))
    (hitems : ∀ item ∈ items, item.Exact codec.exactNumber) :
    Value.Exact codec.exactNumber (.object (withField key (.array items) fields)) := by
  cases h with
  | object _ hkeys hfields =>
    refine .object _ ?_ ?_
    · rwa [withField_keys]
    · intro entry hentry
      obtain ⟨entry, hmem, rfl⟩ := List.mem_map.mp hentry
      split
      · exact .array _ hitems
      · exact hfields entry hmem

lemma object_nodup {fields : List (Bytes × Value Number)}
    (h : Value.Exact codec.exactNumber (.object fields)) : (fields.map Prod.fst).Nodup := by
  cases h with
  | object _ hkeys _ =>
    apply List.Pairwise.imp _ hkeys
    intro key other hlt heq
    rw [heq] at hlt
    exact List.lt_irrefl other hlt

lemma replay_sound {outputValue : Value Number}
    (houtput : codec.validateCanonicalJsonSource output = .ok outputValue)
    (h : replayRegistrySequenceEdit sha256 codec parser baseSelectorId base output target edit = .ok ()) :
    ∃ baseValue baseSubject edited field items,
      codec.validateCanonicalJsonSource base = .ok baseValue ∧
      projectRegistrySequence sha256 codec baseSelectorId base target = .ok baseSubject ∧
      Edited target baseSubject.elements edited.elements edit ∧
      Valid sha256 codec.acceptsSource edited ∧
      (payloads edited.elements).mapM codec.validateCanonicalJsonSource = .ok items ∧
      projectionField baseSelectorId target = .ok field ∧
      ReplacesField (utf8 field) items baseValue outputValue := by
  simp only [replayRegistrySequenceEdit, reconstructMutation, bind_ok, exists_unit, report_ok, mapError_ok,
    toCanonicalJcs_ok, fromCanonicalJcs_ok, ensure_ok] at h
  obtain ⟨baseValue, hbase, baseSubject, hproject, _, ⟨hvalid, rfl⟩, subjectOutput, ⟨-, hreconstruct⟩,
    edited, ⟨hedited, rfl⟩, items, hitems, field, hfield, value, hset, printed, hprint, rfl⟩ := h
  obtain ⟨hoperation, subject, edited', hsubject, hsource, htarget, happly, hedited', -, hsource'⟩ :=
    reconstructSequenceEdit_ok.mp hreconstruct
  obtain rfl := toCanonicalJson_injective parser hsubject hvalid hsource
  obtain rfl := toCanonicalJson_injective parser hedited' hedited hsource'
  obtain ⟨hsame, hexact⟩ := applySequenceOperation_edited htarget hoperation happly
  have hreads := decoded_reads hitems
  have hexactItems : ∀ item ∈ items, item.Exact codec.exactNumber := by
    intro item hmem
    obtain ⟨bytes, -, hread⟩ := Keyed.forall₂_mem_left (mapM_forall₂.mp hreads).flip hmem
    exact exact_of_source hread
  obtain ⟨fields, old, rfl, hlookup, rfl⟩ := setArrayField_ok.mp hset
  have hvalue := @exact_withField _ codec fields items (utf8 field) (exact_of_source hbase) hexactItems
  have hparse := (validateCanonicalJsonSource_ok.mp houtput).1
  obtain rfl := codec.inverse _ _ _ hvalue hprint hparse
  refine ⟨_, baseSubject, edited, field, items, hbase, hproject, hexact, hedited, hreads, hfield, fields, _,
    rfl, rfl, withField_keys _ _ _, withField_lookup hlookup, ?_⟩
  intro other hother
  exact withField_lookup_other hother

lemma replay_complete {kind : SequenceChangeKind} {mutation : B4NegativeMutation}
    {baseValue outputValue : Value Number} {field : String} {items : List (Value Number)}
    (h : deriveSequenceMutation sha256 codec baseSelectorId base output target kind = .ok mutation)
    (hbase : codec.validateCanonicalJsonSource base = .ok baseValue)
    (houtput : codec.validateCanonicalJsonSource output = .ok outputValue)
    (hfield : projectionField baseSelectorId target = .ok field)
    (hreplaces : ReplacesField (utf8 field) items baseValue outputValue)
    (hinjective : kind = .replace →
      Set.InjOn sha256 (projectedPayloads sha256 codec baseSelectorId base output target)) :
    replayRecipe sha256 codec parser baseSelectorId base output (.mutation mutation) = .ok () := by
  simp only [deriveSequenceMutation, bind_ok, pure_ok] at h
  obtain ⟨baseSubject, hbaseProject, outputSubject, houtputProject, edit, hderive, rfl⟩ := h
  obtain ⟨value, field', baseItems, hb⟩ := projectRegistrySequence_ok.mp hbaseProject
  obtain ⟨value', field'', outputItems, ho⟩ := projectRegistrySequence_ok.mp houtputProject
  obtain rfl := Except.ok.inj (hb.read.symm.trans hbase)
  obtain rfl := Except.ok.inj (ho.read.symm.trans houtput)
  obtain rfl := Except.ok.inj (hb.named.symm.trans hfield)
  obtain rfl := Except.ok.inj (ho.named.symm.trans hfield)
  have hdescribes := deriveSequenceOperation_describes hderive
  have hne := hb.payloads_ne ho (hdescribes.changes hb.valid.identifiers)
  have htarget : outputSubject.target = baseSubject.target := ho.same.trans hb.same.symm
  have hdigests : kind = .replace → Set.InjOn sha256
      {bytes | bytes ∈ payloads baseSubject.elements ∨ bytes ∈ payloads outputSubject.elements} := by
    intro hkind
    apply (hinjective hkind).mono
    intro bytes hbytes
    obtain hbytes | hbytes := hbytes
    · exact ⟨base, baseSubject, .inl rfl, hbaseProject, hbytes⟩
    · exact ⟨output, outputSubject, .inr rfl, houtputProject, hbytes⟩
  have hoperation := (hdescribes.applies hb.valid ho.valid htarget hdigests).1
  have hreconstruct := @derived_reconstructs _ _ parser _ _ _ _ hb.valid ho.valid htarget hdigests hne hderive
  rw [hb.same] at hoperation hreconstruct
  obtain ⟨fields, rfl, hlookup⟩ := arrayField_ok.mp hb.array
  have hsame : outputItems = items := by
    obtain ⟨-, fields', -, rfl, -, hat, -⟩ := hreplaces
    obtain ⟨_, hfields', hlookup'⟩ := arrayField_ok.mp ho.array
    obtain rfl := Value.object.inj hfields'
    rw [hat, Option.some.injEq, Value.array.injEq] at hlookup'
    exact hlookup'.symm
  obtain ⟨_, hobject, hset⟩ := hreplaces.eq_withField
    (fun fields' hfields' => object_nodup (hfields' ▸ exact_of_source hbase))
    (fun fields' hfields' => (Value.object.inj hfields') ▸ hlookup)
  obtain rfl := Value.object.inj hobject
  have hprint := (validateCanonicalJsonSource_ok.mp houtput).2
  rw [hset] at hprint
  simp only [replayRecipe, replayRegistrySequenceEdit, reconstructMutation, bind_ok, exists_unit, report_ok,
    mapError_ok, toCanonicalJcs_ok, fromCanonicalJcs_ok, ensure_ok]
  exact ⟨_, hbase, baseSubject, hbaseProject, _, ⟨hb.valid, rfl⟩, _, ⟨hoperation, hreconstruct⟩,
    outputSubject, ⟨ho.valid, rfl⟩, items, hsame ▸ ho.decodes, _, hfield, _,
    setArrayField_ok.mpr ⟨fields, _, rfl, hlookup, rfl⟩, _, hprint, rfl⟩

variable (sha256 codec parser)

/-- Derivation and replay agree. For bytes: an output of one insertion, deletion or replacement has a derived
operation, which gives it, and no index or slice of the derivation fails. For subjects: an operation is derived
exactly for one step of its kind, and replays to the output if the payloads differ. For registry sources: an
accepted edit changes one array field to the edited list, and every derived edit of one such field is
accepted. A replacement is told by the digests of the payloads at hand. -/
theorem recipes_agree :
    (∀ base output, deriveExactByteOperation base output ≠ .error .outOfRange ∧
      ∀ operation, (∀ beforeHex newLength originalLength,
          operation ≠ .truncate beforeHex newLength originalLength) →
        reconstructByteEdit base operation = .ok output →
        ∃ derived, deriveExactByteOperation base output = .ok derived ∧
          reconstructByteEdit base derived = .ok output) ∧
    (∀ subject output kind, Valid sha256 codec.acceptsSource subject →
      Valid sha256 codec.acceptsSource output → output.target = subject.target →
      ((∃ operation, deriveSequenceOperation subject.elements output.elements kind = .ok operation) ↔
        Arises subject.elements output.elements kind) ∧
      ∀ operation, deriveSequenceOperation subject.elements output.elements kind = .ok operation →
        payloads output.elements ≠ payloads subject.elements →
        (kind = .replace → Set.InjOn sha256
          {bytes | bytes ∈ payloads subject.elements ∨ bytes ∈ payloads output.elements}) →
        reconstructSequenceEdit sha256 codec.acceptsSource parser subject.toCanonicalJson subject.target
          operation = .ok output.toCanonicalJson) ∧
    (∀ baseSelectorId base output target edit outputValue,
      codec.validateCanonicalJsonSource output = .ok outputValue →
      replayRecipe sha256 codec parser baseSelectorId base output
        (.mutation (.sequenceEdit edit target)) = .ok () →
      ∃ baseValue baseSubject edited field items,
        codec.validateCanonicalJsonSource base = .ok baseValue ∧
        projectRegistrySequence sha256 codec baseSelectorId base target = .ok baseSubject ∧
        Edited target baseSubject.elements edited.elements edit ∧
        Valid sha256 codec.acceptsSource edited ∧
        (payloads edited.elements).mapM codec.validateCanonicalJsonSource = .ok items ∧
        projectionField baseSelectorId target = .ok field ∧
        ReplacesField (utf8 field) items baseValue outputValue) ∧
    ∀ baseSelectorId base output target kind mutation baseValue outputValue field items,
      deriveSequenceMutation sha256 codec baseSelectorId base output target kind = .ok mutation →
      codec.validateCanonicalJsonSource base = .ok baseValue →
      codec.validateCanonicalJsonSource output = .ok outputValue →
      projectionField baseSelectorId target = .ok field →
      ReplacesField (utf8 field) items baseValue outputValue →
      (kind = .replace →
        Set.InjOn sha256 (projectedPayloads sha256 codec baseSelectorId base output target)) →
      replayRecipe sha256 codec parser baseSelectorId base output (.mutation mutation) = .ok () := by
  refine ⟨?_, ?_, ?_, ?_⟩
  · intro base output
    exact ⟨deriveExactByteOperation_ne_outOfRange base output, fun operation => derivation_complete⟩
  · intro subject output kind hsubject houtput htarget
    refine ⟨derives_iff_arises hsubject houtput, ?_⟩
    intro operation hderive hne hinjective
    exact derived_reconstructs hsubject houtput htarget hinjective hne hderive
  · intro baseSelectorId base output target edit outputValue houtput h
    exact replay_sound houtput h
  · intro baseSelectorId base output target kind mutation baseValue outputValue field items h hbase houtput
      hfield hreplaces hinjective
    exact replay_complete h hbase houtput hfield hreplaces hinjective

end Agreement

end Eip0045.Mutation
