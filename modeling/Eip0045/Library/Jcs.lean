import Mathlib
import Eip0045.Library.CanonicalJson
import Eip0045.Library.Checked
import Eip0045.Library.Hex
import Eip0045.Library.Keyed
import Eip0045.Library.Lexicographic

/-! Strictly parsed JSON, its canonical sources, and the closed structures that are read from it. -/

namespace Eip0045.Jcs

open Bytes Checked CanonicalJson

/-- A parsed value. An object is a map in the order of its keys. -/
inductive Json
  | null
  | bool (value : Bool)
  | unsigned (value : ℕ)
  | otherNumber (spelling : Bytes)
  | string (text : Bytes)
  | array (items : List Json)
  | object (fields : List (Bytes × Json))

section Values

mutual

def ofValue : JsonValue → Json
  | .string text => .string text
  | .number value => .unsigned value
  | .array items => .array (ofItems items)
  | .object fields => .object (ofMembers fields)

def ofItems : List JsonValue → List Json
  | [] => []
  | item :: items => ofValue item :: ofItems items

def ofMembers : List (Bytes × JsonValue) → List (Bytes × Json)
  | [] => []
  | (key, value) :: fields => (key, ofValue value) :: ofMembers fields

end

inductive Json.Sorted : Json → Prop
  | null : Sorted .null
  | bool (value : Bool) : Sorted (.bool value)
  | unsigned (value : ℕ) : Sorted (.unsigned value)
  | otherNumber (spelling : Bytes) : Sorted (.otherNumber spelling)
  | string (text : Bytes) : Sorted (.string text)
  | array (items : List Json) (h : ∀ item ∈ items, item.Sorted) : Sorted (.array items)
  | object (fields : List (Bytes × Json)) (hkeys : (fields.map Prod.fst).Pairwise (· < ·))
    (h : ∀ field ∈ fields, field.2.Sorted) : Sorted (.object fields)

lemma ofItems_eq (items : List JsonValue) : ofItems items = items.map ofValue := by
  induction items with
  | nil => rfl
  | cons item items ih => rw [ofItems, ih, List.map_cons]

lemma ofMembers_eq (fields : List (Bytes × JsonValue)) :
    ofMembers fields = fields.map fun field => (field.1, ofValue field.2) := by
  induction fields with
  | nil => rfl
  | cons field fields ih =>
    obtain ⟨key, value⟩ := field
    rw [ofMembers, ih, List.map_cons]

end Values

/-- Strict parsing and canonical printing after RFC 8785. Of the texts that are printed with escapes, or
with numbers that are not exact, nothing is known. -/
structure Codec where
  canonicalJsonBytes : Json → Except String Bytes
  parseJsonStrict : Bytes → Except String Json
  canonical : ∀ v, Plain v → canonicalJsonBytes (ofValue v) = .ok (render v)
  parsed : ∀ v, Plain v → parseJsonStrict (render v) = .ok (ofValue v)
  sorted : ∀ source value, parseJsonStrict source = .ok value → value.Sorted

section Sources

variable (codec : Codec)

def Codec.validateCanonicalJsonSource (source : Bytes) : Except String Json := do
  let value ← codec.parseJsonStrict source
  let canonical ← codec.canonicalJsonBytes value
  ensure (canonical = source) "JSON source is not the exact RFC 8785 canonical encoding"
  pure value

variable {codec} {source : Bytes} {value : Json}

lemma validateCanonicalJsonSource_ok : codec.validateCanonicalJsonSource source = .ok value ↔
    codec.parseJsonStrict source = .ok value ∧ codec.canonicalJsonBytes value = .ok source := by
  simp only [Codec.validateCanonicalJsonSource, bind_ok, exists_unit, ensure_ok, pure_ok]
  constructor
  · rintro ⟨_, hparse, _, hprint, rfl, rfl⟩
    exact ⟨hparse, hprint⟩
  · rintro ⟨hparse, hprint⟩
    exact ⟨_, hparse, _, hprint, rfl, rfl⟩

lemma validateCanonicalJsonSource_render {v : JsonValue} (h : Plain v) :
    codec.validateCanonicalJsonSource (render v) = .ok (ofValue v) :=
  validateCanonicalJsonSource_ok.mpr ⟨codec.parsed v h, codec.canonical v h⟩

lemma source_eq_render {v : JsonValue} (h : Plain v)
    (hsource : codec.validateCanonicalJsonSource source = .ok (ofValue v)) : source = render v := by
  obtain ⟨-, hprint⟩ := validateCanonicalJsonSource_ok.mp hsource
  rw [codec.canonical v h, Except.ok.injEq] at hprint
  exact hprint.symm

end Sources

section Structures

/-- A structure without further fields is read from an object, or from an array in the order of the
fields. -/
def closed (names : List Bytes) : Json → Except String Unit
  | .object fields => ensure (∀ field ∈ fields, field.1 ∈ names) "unknown field"
  | .array items => ensure (items.length = names.length) "invalid length"
  | _ => .error "invalid type"

def member (names : List Bytes) (value : Json) (name : Bytes) : Except String Json :=
  match value with
  | .object fields => context "missing field" (fields.lookup name)
  | .array items => context "invalid length" items[names.idxOf name]?
  | _ => .error "invalid type"

def readString : Json → Except String Bytes
  | .string text => .ok text
  | _ => .error "invalid type"

/-- A number of an unsigned type, below its bound. -/
def readUnsigned (bound : ℕ) : Json → Except String ℕ
  | .unsigned value => do
    ensure (value < bound) "invalid value"
    pure value
  | _ => .error "invalid type"

def readArray {α : Type} (read : Json → Except String α) : Json → Except String (List α)
  | .array items => items.mapM read
  | _ => .error "invalid type"

variable {names : List Bytes} {name text : Bytes} {value : Json} {fields : List (Bytes × Json)}
  {items : List Json} {n bound : ℕ}

lemma readString_ok : readString value = .ok text ↔ value = .string text := by
  cases value <;> simp [readString]

lemma readUnsigned_ok : readUnsigned bound value = .ok n ↔ value = .unsigned n ∧ n < bound := by
  cases value with
  | unsigned m =>
    simp only [readUnsigned, bind_ok, exists_unit, ensure_ok, pure_ok, Json.unsigned.injEq]
    constructor
    · rintro ⟨h, rfl⟩
      exact ⟨rfl, h⟩
    · rintro ⟨rfl, h⟩
      exact ⟨h, rfl⟩
  | _ => simp [readUnsigned]

lemma member_object_ok {item : Json} : member names (.object fields) name = .ok item ↔
    fields.lookup name = some item := context_ok

lemma member_object (hkeys : (fields.map Prod.fst).Nodup) {item : Json}
    (hmem : (name, item) ∈ fields) : member names (.object fields) name = .ok item :=
  context_ok.mpr (Keyed.lookup_of_mem hkeys hmem)

lemma member_array (hnames : names.Nodup) {k : ℕ} (hname : names[k]? = some name) {item : Json}
    (hitem : items[k]? = some item) : member names (.array items) name = .ok item := by
  obtain ⟨hk, rfl⟩ := List.getElem?_eq_some_iff.mp hname
  rw [member, hnames.idxOf_getElem k hk, hitem]
  rfl

lemma increasing_nodup {keys : List Bytes} (h : keys.Pairwise (· < ·)) : keys.Nodup := by
  refine List.Pairwise.imp ?_ h
  rintro a b hlt rfl
  exact Std.lt_irrefl hlt

lemma fields_eq {expected : List (Bytes × Json)} (hkeys : (fields.map Prod.fst).Pairwise (· < ·))
    (hexpected : (expected.map Prod.fst).Pairwise (· < ·))
    (hclosed : ∀ field ∈ fields, field.1 ∈ expected.map Prod.fst)
    (hmember : ∀ field ∈ expected, fields.lookup field.1 = some field.2) : fields = expected := by
  have hnodup := increasing_nodup hkeys
  have hnodup' := increasing_nodup hexpected
  have hperm : fields.Perm expected := by
    rw [List.perm_ext_iff_of_nodup hnodup.of_map hnodup'.of_map]
    intro field
    constructor
    · intro hfield
      obtain ⟨other, hother, hkey⟩ := List.mem_map.mp (hclosed field hfield)
      have hlookup := hmember other hother
      rw [hkey, Keyed.lookup_of_mem hnodup hfield, Option.some.injEq] at hlookup
      rwa [Prod.ext hkey.symm hlookup]
    · intro hfield
      exact Keyed.mem_of_lookup (hmember field hfield)
  exact Lexicographic.eq_of_increasing hperm (List.pairwise_map.mp hkeys) (List.pairwise_map.mp hexpected)

end Structures

section Objects

variable {names : List Bytes} {name : Bytes} {fields : List (Bytes × JsonValue)}
  {members : List (Bytes × Json)} {v : JsonValue} {items : List Json}

lemma closed_object : closed names (.object members) = .ok () ↔ ∀ field ∈ members, field.1 ∈ names :=
  ensure_ok

lemma keys_ofMembers (fields : List (Bytes × JsonValue)) :
    (ofMembers fields).map Prod.fst = fields.map Prod.fst := by
  rw [ofMembers_eq, List.map_map]
  rfl

lemma closed_ofMembers (h : ∀ key ∈ fields.map Prod.fst, key ∈ names) :
    ∀ field ∈ ofMembers fields, field.1 ∈ names := by
  rw [← keys_ofMembers] at h
  intro field hfield
  exact h _ (List.mem_map_of_mem hfield)

lemma lookup_ofMembers (hkeys : (fields.map Prod.fst).Pairwise (· < ·)) (hmem : (name, v) ∈ fields) :
    (ofMembers fields).lookup name = some (ofValue v) := by
  apply Keyed.lookup_of_mem
  · rw [keys_ofMembers]
    exact increasing_nodup hkeys
  · rw [ofMembers_eq]
    exact List.mem_map.mpr ⟨(name, v), hmem, rfl⟩

lemma members_eq (hsorted : (members.map Prod.fst).Pairwise (· < ·))
    (hkeys : (fields.map Prod.fst).Pairwise (· < ·))
    (hclosed : ∀ field ∈ members, field.1 ∈ fields.map Prod.fst)
    (hmember : ∀ field ∈ fields, members.lookup field.1 = some (ofValue field.2)) :
    members = ofMembers fields := by
  refine fields_eq hsorted (by rwa [keys_ofMembers]) (by rwa [keys_ofMembers]) ?_
  rw [ofMembers_eq]
  intro field hfield
  obtain ⟨original, horiginal, rfl⟩ := List.mem_map.mp hfield
  exact hmember original horiginal

lemma sorted_object (h : Json.Sorted (.object members)) :
    (members.map Prod.fst).Pairwise (· < ·) ∧ ∀ field ∈ members, field.2.Sorted := by
  cases h with
  | object _ hkeys hfields => exact ⟨hkeys, hfields⟩

lemma sorted_array (h : Json.Sorted (.array items)) : ∀ item ∈ items, item.Sorted := by
  cases h with
  | array _ hitems => exact hitems

def IsObject (value : Json) : Prop := ∃ members, value = .object members

end Objects

section Lengths

lemma quoted_length (text : Bytes) : (quoted text).length = text.length + 2 := by
  simp [quoted]

lemma renderItems_length_le {items : List JsonValue} {b : ℕ}
    (h : ∀ item ∈ items, (render item).length ≤ b) :
    (renderItems items).length ≤ items.length * (b + 1) := by
  induction items with
  | nil => simp [renderItems]
  | cons item items ih =>
    rw [List.forall_mem_cons] at h
    have hrest := ih h.2
    rw [renderItems, List.length_append, List.length_cons, Nat.add_mul]
    split
    · rw [List.length_nil]
      omega
    · rw [List.length_append, List.length_singleton]
      omega

lemma renderFields_length_le {fields : List (Bytes × JsonValue)} {k b : ℕ}
    (hkeys : ∀ field ∈ fields, field.1.length ≤ k)
    (hvalues : ∀ field ∈ fields, (render field.2).length ≤ b) :
    (renderFields fields).length ≤ fields.length * (k + b + 4) := by
  induction fields with
  | nil => simp [renderFields]
  | cons field fields ih =>
    obtain ⟨key, value⟩ := field
    rw [List.forall_mem_cons] at hkeys hvalues
    have hrest := ih hkeys.2 hvalues.2
    have hkey := hkeys.1
    have hvalue := hvalues.1
    dsimp only at hkey hvalue
    rw [renderFields, List.length_append, List.length_append, List.length_append, quoted_length,
      List.length_singleton, List.length_cons, Nat.add_mul]
    split
    · rw [List.length_nil]
      omega
    · rw [List.length_append, List.length_singleton]
      omega

lemma render_array_length_le {items : List JsonValue} {b : ℕ}
    (h : ∀ item ∈ items, (render item).length ≤ b) :
    (render (.array items)).length ≤ items.length * (b + 1) + 2 := by
  have hitems := renderItems_length_le h
  simp only [render, List.length_append, List.length_singleton]
  omega

lemma render_object_length_le {fields : List (Bytes × JsonValue)} {k b : ℕ}
    (hkeys : ∀ field ∈ fields, field.1.length ≤ k)
    (hvalues : ∀ field ∈ fields, (render field.2).length ≤ b) :
    (render (.object fields)).length ≤ fields.length * (k + b + 4) + 2 := by
  have hfields := renderFields_length_le hkeys hvalues
  simp only [render, List.length_append, List.length_singleton]
  omega

end Lengths

section PlainTexts

lemma plain_array {items : List JsonValue} (h : ∀ item ∈ items, Plain item) : Plain (.array items) := by
  rw [Plain]
  induction items with
  | nil => trivial
  | cons item items ih =>
    rw [List.forall_mem_cons] at h
    exact ⟨h.1, ih h.2⟩

lemma plain_object {fields : List (Bytes × JsonValue)} (hkeys : (fields.map Prod.fst).Pairwise (· < ·))
    (htexts : ∀ key ∈ fields.map Prod.fst, PlainText key) (h : ∀ field ∈ fields, Plain field.2) :
    Plain (.object fields) := by
  rw [Plain]
  refine ⟨hkeys, ?_⟩
  clear hkeys
  induction fields with
  | nil => trivial
  | cons field fields ih =>
    rw [List.map_cons, List.forall_mem_cons] at htexts
    rw [List.forall_mem_cons] at h
    exact ⟨htexts.1, h.1, ih htexts.2 h.2⟩

lemma plainText_lower {text : Bytes} (h : ∀ c ∈ text, Hex.IsLower c) : PlainText text := by
  have hall : ∀ c : UInt8, Hex.IsLower c → 0x20 ≤ c ∧ c ≤ 0x7e ∧ c ≠ quote ∧ c ≠ 92 := by
    apply Hex.forall_byte
    decide +kernel
  intro c hc
  exact hall c (h c hc)

end PlainTexts

section Codes

/-- Plain texts by the codes of their bytes, which the kernel compares as numbers. -/
def plainCodes (text : Bytes) : Bool := text.all fun c =>
  Nat.ble 32 c.toNat && Nat.ble c.toNat 126 && !Nat.beq c.toNat 34 && !Nat.beq c.toNat 92

/-- The order of two texts by the codes of their bytes. -/
def before : Bytes → Bytes → Bool
  | [], [] => false
  | [], _ :: _ => true
  | _ :: _, [] => false
  | a :: as, b :: bs => Nat.blt a.toNat b.toNat || (Nat.beq a.toNat b.toNat && before as bs)

def ascending : List Bytes → Bool
  | a :: b :: rest => before a b && ascending (b :: rest)
  | _ => true

lemma plainText_of_codes {text : Bytes} (h : plainCodes text = true) : PlainText text := by
  intro c hc
  have hcode := List.all_eq_true.mp h c hc
  simp only [Bool.and_eq_true, Nat.ble_eq, Bool.not_eq_true'] at hcode
  obtain ⟨⟨⟨hlow, hhigh⟩, hquote⟩, hslash⟩ := hcode
  refine ⟨UInt8.le_iff_toNat_le.mpr hlow, UInt8.le_iff_toNat_le.mpr hhigh, ?_, ?_⟩
  · rintro rfl
    exact absurd hquote (by decide)
  · rintro rfl
    exact absurd hslash (by decide)

lemma plain_keys {keys : List Bytes} {n : ℕ}
    (h : (keys.all fun key => plainCodes key && Nat.ble key.length n) = true) :
    ∀ key ∈ keys, PlainText key ∧ key.length ≤ n := by
  intro key hkey
  have hcodes := List.all_eq_true.mp h key hkey
  rw [Bool.and_eq_true, Nat.ble_eq] at hcodes
  exact ⟨plainText_of_codes hcodes.1, hcodes.2⟩

lemma lt_of_before {a b : Bytes} (h : before a b = true) : a < b := by
  induction a generalizing b with
  | nil =>
    cases b with
    | nil => cases h
    | cons c b => exact List.nil_lt_cons c b
  | cons c a ih =>
    cases b with
    | nil => cases h
    | cons d b =>
      rw [before, Bool.or_eq_true, Bool.and_eq_true, Nat.blt_eq, Nat.beq_eq] at h
      rw [List.cons_lt_cons_iff]
      obtain hlt | ⟨heq, hrest⟩ := h
      · exact .inl (UInt8.lt_iff_toNat_lt.mpr hlt)
      · exact .inr ⟨UInt8.toNat_inj.mp heq, ih hrest⟩

lemma increasing_of_ascending {keys : List Bytes} (h : ascending keys = true) :
    keys.Pairwise (· < ·) := by
  have hchain : keys.IsChain (· < ·) := by
    induction keys with
    | nil => exact .nil
    | cons a keys ih =>
      cases keys with
      | nil => exact .singleton a
      | cons b keys =>
        rw [ascending, Bool.and_eq_true] at h
        exact .cons_cons (lt_of_before h.1) (ih h.2)
  have htrans : IsTrans Bytes (· < ·) := ⟨fun _ _ _ hab hbc => Std.lt_trans hab hbc⟩
  exact hchain.pairwise

end Codes

end Eip0045.Jcs
