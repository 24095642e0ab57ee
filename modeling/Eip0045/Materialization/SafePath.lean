import Mathlib
import Eip0045.Library.Bytes
import Eip0045.Library.Checked
import Eip0045.Library.Paths

/-! Safe relative paths of the campaign contract, their conflicts, and artifact identities. -/

namespace Eip0045.Materialization

open Bytes Checked

def maxRelativePathBytes : ℕ := 240

def maxAnyArtifactBytes : ℕ := 1024 * 1024 * 1024

def slash : UInt8 := 47

def dot : UInt8 := 46

def isAsciiLowercase (c : UInt8) : Bool := 97 ≤ c && c ≤ 122

def isAsciiDigit (c : UInt8) : Bool := 48 ≤ c && c ≤ 57

def isWindowsDeviceDigit : Bytes → Bool
  | [c] => 49 ≤ c && c ≤ 57
  | _ => false

def isWindowsDeviceName (component : Bytes) : Bool :=
  component == utf8 "con" || component == utf8 "prn" || component == utf8 "aux" ||
    component == utf8 "nul" ||
    ((utf8 "com").isPrefixOf? component).any isWindowsDeviceDigit ||
    ((utf8 "lpt").isPrefixOf? component).any isWindowsDeviceDigit

def isSameOrAncestor (ancestor descendant : Bytes) : Bool :=
  ancestor == descendant ||
    (ancestor.isPrefixOf? descendant).any fun suffix => suffix.head? == some slash

def b4PathsConflict (left right : Bytes) : Bool :=
  isSameOrAncestor left right || isSameOrAncestor right left

def validateComponent (component : Bytes) : Except String Unit := do
  ensure (component ≠ [] ∧ component ≠ utf8 "." ∧ component ≠ utf8 "..")
    "artifact path contains an empty, dot, or parent component"
  ensure (component.head?.any fun c => isAsciiLowercase c || isAsciiDigit c)
    "artifact path component must start with a lowercase letter or digit"
  ensure (component.getLast? ≠ some dot) "artifact path component has a trailing dot"
  ensure (isWindowsDeviceName ((component.splitOn dot).headD component) = false)
    "artifact path contains a reserved Windows device component"

def validateSafeRelativePath (path : Bytes) : Except String Unit := do
  ensure (1 ≤ path.length ∧ path.length ≤ maxRelativePathBytes)
    "artifact path length is outside the V1 bound"
  ensure (path.all fun c => c < 128) "artifact path must use the portable ASCII subset"
  ensure (path.head?.any fun c => isAsciiLowercase c || isAsciiDigit c)
    "artifact path must start with a lowercase letter or digit"
  ensure (path.all fun c => isAsciiLowercase c || isAsciiDigit c || c == 46 || c == 95 || c == 45 ||
    c == 47) "artifact path contains a non-portable character"
  ensure (path.getLast? ≠ some slash ∧ ¬[slash, slash] <:+: path)
    "artifact path has a non-canonical separator"
  (path.splitOn slash).forM validateComponent

def validateDigest (digest : Bytes) (label : String) : Except String Unit := do
  ensure (digest.length = 64 ∧ digest.all fun c => isAsciiDigit c || (97 ≤ c && c ≤ 102))
    s!"{label} must be exactly 32 lowercase hexadecimal bytes"
  ensure (digest.any fun c => c != 48) s!"{label} cannot be the all-zero placeholder"

structure B4ContractArtifactIdentity where
  path : Bytes
  byteLength : UInt64
  sha256 : Bytes

def B4ContractArtifactIdentity.validate (identity : B4ContractArtifactIdentity) :
    Except String Unit := do
  validateSafeRelativePath identity.path
  ensure (1 ≤ identity.byteLength.toNat ∧ identity.byteLength.toNat ≤ maxAnyArtifactBytes)
    "campaign artifact length is outside the V1 bound"
  validateDigest identity.sha256 "campaign artifact SHA-256"

lemma isSameOrAncestor_iff {p q : Bytes} :
    isSameOrAncestor p q = true ↔ p = q ∨ Paths.Below slash p q := by
  rw [isSameOrAncestor, Bool.or_eq_true, beq_iff_eq, Option.any_eq_true]
  apply or_congr_right
  constructor
  · rintro ⟨suffix, hsuffix, hslash⟩
    obtain rfl := List.isPrefixOf?_eq_some_iff_append_eq.mp hsuffix
    cases suffix with
    | nil => cases hslash
    | cons c suffix =>
      have hc : c = slash := by simpa using hslash
      exact ⟨suffix, by rw [hc]; simp⟩
  · rintro ⟨suffix, rfl⟩
    refine ⟨slash :: suffix, List.isPrefixOf?_eq_some_iff_append_eq.mpr ?_, rfl⟩
    rw [List.append_assoc, List.singleton_append]

lemma b4PathsConflict_iff {p q : Bytes} : b4PathsConflict p q = true ↔
    p.splitOn slash <+: q.splitOn slash ∨ q.splitOn slash <+: p.splitOn slash := by
  rw [b4PathsConflict, Bool.or_eq_true, isSameOrAncestor_iff, isSameOrAncestor_iff,
    Paths.splitOn_prefix_iff, Paths.splitOn_prefix_iff]

end Eip0045.Materialization
