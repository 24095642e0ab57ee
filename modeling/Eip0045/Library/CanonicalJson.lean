import Mathlib
import Eip0045.Library.Bytes

/-! JSON values without escapes or fractions, and their canonical texts. -/

namespace Eip0045.CanonicalJson

open Bytes

inductive JsonValue
  | string (text : Bytes)
  | number (value : ℕ)
  | array (items : List JsonValue)
  | object (fields : List (Bytes × JsonValue))

/-- A map in the order of its keys, with a new value for one of them. -/
def insertKey {α : Type} (key : Bytes) (value : α) : List (Bytes × α) → List (Bytes × α)
  | [] => [(key, value)]
  | field :: fields =>
    if key < field.1 then (key, value) :: field :: fields
    else if key = field.1 then (key, value) :: fields
    else field :: insertKey key value fields

def ofFields (fields : List (Bytes × JsonValue)) : JsonValue :=
  .object (fields.foldl (fun map field => insertKey field.1 field.2 map) [])

section Text

def quote : UInt8 := 34
def comma : UInt8 := 44
def colon : UInt8 := 58

def decimal (value : ℕ) : Bytes :=
  if value = 0 then [48] else ((Nat.digits 10 value).map fun d => UInt8.ofNat (48 + d)).reverse

def quoted (text : Bytes) : Bytes := [quote] ++ text ++ [quote]

mutual

def render : JsonValue → Bytes
  | .string text => quoted text
  | .number value => decimal value
  | .array items => [91] ++ renderItems items ++ [93]
  | .object fields => [123] ++ renderFields fields ++ [125]

def renderItems : List JsonValue → Bytes
  | [] => []
  | item :: items => render item ++ if items.isEmpty then [] else [comma] ++ renderItems items

def renderFields : List (Bytes × JsonValue) → Bytes
  | [] => []
  | (key, value) :: fields =>
    quoted key ++ [colon] ++ render value ++
      if fields.isEmpty then [] else [comma] ++ renderFields fields

end

/-- A text that stands for itself between quotes. -/
def PlainText (text : Bytes) : Prop := ∀ c ∈ text, 0x20 ≤ c ∧ c ≤ 0x7e ∧ c ≠ quote ∧ c ≠ 92

instance (text : Bytes) : Decidable (PlainText text) := inferInstanceAs (Decidable (∀ _ ∈ _, _))

mutual

/-- The values whose canonical text needs no escapes and is exact in its numbers. -/
def Plain : JsonValue → Prop
  | .string text => PlainText text
  | .number value => value < 2 ^ 53
  | .array items => PlainItems items
  | .object fields => (fields.map Prod.fst).Pairwise (· < ·) ∧ PlainFields fields

def PlainItems : List JsonValue → Prop
  | [] => True
  | item :: items => Plain item ∧ PlainItems items

def PlainFields : List (Bytes × JsonValue) → Prop
  | [] => True
  | (key, value) :: fields => PlainText key ∧ Plain value ∧ PlainFields fields

end

/-- A canonicalizer after RFC 8785. Nothing is known of its text for the other values. -/
structure Canonicalizer where
  toVec : JsonValue → Bytes
  plain : ∀ v, Plain v → toVec v = render v

lemma decimal_length {value k : ℕ} (hk : 1 ≤ k) (h : value < 10 ^ k) : (decimal value).length ≤ k := by
  rw [decimal]
  split
  · exact hk
  · rw [List.length_reverse, List.length_map]
    exact (Nat.digits_length_le_iff (by decide) value).mpr h

end Text

end Eip0045.CanonicalJson
