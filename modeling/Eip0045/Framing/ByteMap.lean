import Eip0045.Constants
import Eip0045.Library.Checked

/-! The framing of exact path-to-payload maps, decoded against a handler's contract. -/

namespace Eip0045.ByteMap

open Bytes Checked Constants

def countBytes : ℕ := 2
def pathLengthBytes : ℕ := 2
def payloadLengthBytes : ℕ := 4
def maxPathBytes : ℕ := 512
def maxEncodedBytes : ℕ := 536870912

def exactByteMapMaximumEncodedBytes (paths : List Bytes) (maximumPayloadBytes : ℕ) : ℕ :=
  paths.foldl (fun total path =>
    total + pathLengthBytes + path.length + payloadLengthBytes + maximumPayloadBytes) countBytes

structure PayloadBounds where
  minimum : ℕ
  maximum : ℕ
  deriving DecidableEq

structure ShapeContract where
  payloadBounds : List PayloadBounds
  expectedPaths : List Bytes
  deriving DecidableEq

def ShapeContract.entryCount (shape : ShapeContract) : ℕ := shape.payloadBounds.length

structure Contract where
  shape : ShapeContract
  maximumEncodedBytes : ℕ
  deriving DecidableEq

structure Entry where
  path : Bytes
  payload : Bytes
  deriving DecidableEq

inductive Field
  | pathLength
  | path
  | payloadLength
  | payload
  deriving DecidableEq

inductive PathFailure
  | empty
  | nonGraphicAscii
  | backslash
  | absolute
  | emptyComponent
  | dotComponent
  | parentComponent
  | colon
  | trailingDot
  deriving DecidableEq

inductive ByteMapError
  | invalidContract
  | encodedTooLarge (actual maximum : ℕ)
  | truncatedCount
  | countNotAllowed (actual : ℕ)
  | truncatedPathLength (index : ℕ)
  | pathLengthOutOfBounds (index actual : ℕ)
  | lengthArithmeticOverflow (index : ℕ) (field : Field)
  | cumulativeEncodedLimitExceeded (index : ℕ) (field : Field)
  | truncatedPath (index : ℕ)
  | invalidPath (index : ℕ) (failure : PathFailure)
  | duplicatePath (index : ℕ)
  | pathOutOfOrder (index : ℕ)
  | expectedPathMismatch (index : ℕ)
  | truncatedPayloadLength (index : ℕ)
  | payloadLengthOutOfBounds (index actual minimum maximum : ℕ)
  | truncatedPayload (index : ℕ)
  | trailingBytes
  deriving DecidableEq

abbrev Result (α : Type) := Except (Fault ByteMapError) α

section Paths

def validateComponent (component : Bytes) : Except PathFailure Unit :=
  if component = [] then .error .emptyComponent
  else if component = utf8 "." then .error .dotComponent
  else if component = utf8 ".." then .error .parentComponent
  else if component.getLast? = some 46 then .error .trailingDot
  else .ok ()

def validatePath (path : Bytes) : Except PathFailure Unit := do
  ensure (path ≠ []) .empty
  ensure (path.all fun byte => 0x21 ≤ byte ∧ byte ≤ 0x7e) .nonGraphicAscii
  ensure (92 ∉ path) .backslash
  ensure (path.head? ≠ some 47) .absolute
  ensure (58 ∉ path) .colon
  (path.splitOn 47).forM validateComponent

end Paths

section ContractChecks

def checkedAdd128 (a b : ℕ) : Option ℕ := if a + b < 2 ^ 128 then some (a + b) else none

/-- Every expected path is valid and above its predecessor. -/
def validateExpectedPaths : Option Bytes → List Bytes → Result Unit
  | _, [] => pure ()
  | previous, path :: rest => do
    ensure (¬(path.length > maxPathBytes ∨ validatePath path ≠ .ok ()))
      (.reported .invalidContract)
    ensure (¬previous.any fun prior => compare path prior ≠ .gt) (.reported .invalidContract)
    validateExpectedPaths (some path) rest

/-- The smallest and the largest encoding that the bounds from an index on let through. -/
def encodedRange (expectedPaths : List Bytes) :
    ℕ → ℕ → ℕ → List PayloadBounds → Result (ℕ × ℕ)
  | _, minimum, maximum, [] => pure (minimum, maximum)
  | index, minimum, maximum, bounds :: rest => do
    ensure (¬(bounds.minimum > bounds.maximum ∨ bounds.maximum > 2 ^ 32 - 1))
      (.reported .invalidContract)
    let path ← item expectedPaths index
    let fixedOverhead := pathLengthBytes + path.length + payloadLengthBytes
    let minimum ← context (.reported .invalidContract)
      ((checkedAdd128 minimum fixedOverhead).bind fun total => checkedAdd128 total bounds.minimum)
    let maximum ← context (.reported .invalidContract)
      ((checkedAdd128 maximum fixedOverhead).bind fun total => checkedAdd128 total bounds.maximum)
    encodedRange expectedPaths (index + 1) minimum maximum rest

def validateShape (shape : ShapeContract) (maximumEncodedBytes : ℕ) : Result Unit := do
  ensure (¬shape.entryCount > 2 ^ 16 - 1) (.reported .invalidContract)
  ensure (shape.expectedPaths.length = shape.entryCount) (.reported .invalidContract)
  validateExpectedPaths none shape.expectedPaths
  let (minimum, maximum) ← encodedRange shape.expectedPaths 0 countBytes countBytes
    shape.payloadBounds
  ensure (¬(maximumEncodedBytes < minimum ∨ maximumEncodedBytes > maximum))
    (.reported .invalidContract)

def validateContract (contract : Contract) : Result Unit := do
  ensure (countBytes ≤ contract.maximumEncodedBytes ∧
    contract.maximumEncodedBytes ≤ maxEncodedBytes) (.reported .invalidContract)
  validateShape contract.shape contract.maximumEncodedBytes

end ContractChecks

section Decoding

variable (source : Bytes) (maximumEncodedBytes : ℕ)

def checkedEnd (cursor length index : ℕ) (field : Field) : Result ℕ := do
  let stop ← context (.reported (.lengthArithmeticOverflow index field)) (checkedAdd cursor length)
  ensure (¬stop > maximumEncodedBytes) (.reported (.cumulativeEncodedLimitExceeded index field))
  pure stop

def checkPathOrder (index : ℕ) (path : Bytes) : Option Bytes → Result Unit
  | none => pure ()
  | some previous =>
    match compare path previous with
    | .eq => .error (.reported (.duplicatePath index))
    | .lt => .error (.reported (.pathOutOfOrder index))
    | .gt => pure ()

/-- A failed path check reported at its entry. -/
def checkPath (index : ℕ) (path : Bytes) : Result Unit :=
  match validatePath path with
  | .ok () => pure ()
  | .error failure => .error (.reported (.invalidPath index failure))

def decodePath (cursor index : ℕ) (previousPath : Option Bytes) (expectedPath : Bytes) :
    Result (Bytes × ℕ) := do
  let lengthEnd ← checkedEnd maximumEncodedBytes cursor pathLengthBytes index .pathLength
  let lengthBytes ← context (.reported (.truncatedPathLength index))
    (getRange source cursor lengthEnd)
  let lengthArray ← context (.reported (.truncatedPathLength index))
    (ByteArr.ofBytes 2 lengthBytes)
  let length := (ofLe16 lengthArray.val).toNat
  ensure (1 ≤ length ∧ length ≤ maxPathBytes) (.reported (.pathLengthOutOfBounds index length))
  let pathEnd ← checkedEnd maximumEncodedBytes lengthEnd length index .path
  let path ← context (.reported (.truncatedPath index)) (getRange source lengthEnd pathEnd)
  checkPath index path
  checkPathOrder index path previousPath
  ensure (path = expectedPath) (.reported (.expectedPathMismatch index))
  pure (path, pathEnd)

def decodePayload (cursor index : ℕ) (bounds : PayloadBounds) : Result (Bytes × ℕ) := do
  let lengthEnd ← checkedEnd maximumEncodedBytes cursor payloadLengthBytes index .payloadLength
  let lengthBytes ← context (.reported (.truncatedPayloadLength index))
    (getRange source cursor lengthEnd)
  let lengthArray ← context (.reported (.truncatedPayloadLength index))
    (ByteArr.ofBytes 4 lengthBytes)
  let length := (ofLe32 lengthArray.val).toNat
  ensure (bounds.minimum ≤ length ∧ length ≤ bounds.maximum)
    (.reported (.payloadLengthOutOfBounds index length bounds.minimum bounds.maximum))
  let payloadEnd ← checkedEnd maximumEncodedBytes lengthEnd length index .payload
  let payload ← context (.reported (.truncatedPayload index)) (getRange source lengthEnd payloadEnd)
  pure (payload, payloadEnd)

/-- The loop over the payload bounds from an index on, with the cursor where it ends. -/
def decodeEntries (expectedPaths : List Bytes) :
    ℕ → ℕ → Option Bytes → List PayloadBounds → Result (List Entry × ℕ)
  | _, cursor, _, [] => pure ([], cursor)
  | index, cursor, previousPath, bounds :: rest => do
    let expectedPath ← item expectedPaths index
    let (path, pathEnd) ← decodePath source maximumEncodedBytes cursor index previousPath
      expectedPath
    let (payload, payloadEnd) ← decodePayload source maximumEncodedBytes pathEnd index bounds
    let (entries, stop) ← decodeEntries expectedPaths (index + 1) payloadEnd (some path) rest
    pure ({ path, payload } :: entries, stop)

end Decoding

def decodeByteMap (source : Bytes) (contract : Contract) : Result (List Entry) := do
  validateContract contract
  ensure (¬source.length > contract.maximumEncodedBytes)
    (.reported (.encodedTooLarge source.length contract.maximumEncodedBytes))
  let head ← context (.reported .truncatedCount) (getRange source 0 countBytes)
  let headArray ← context (.reported .truncatedCount) (ByteArr.ofBytes 2 head)
  let entryCount := (ofLe16 headArray.val).toNat
  ensure (contract.shape.entryCount = entryCount) (.reported (.countNotAllowed entryCount))
  let (entries, cursor) ← decodeEntries source contract.maximumEncodedBytes
    contract.shape.expectedPaths 0 countBytes none contract.shape.payloadBounds
  ensure (cursor = source.length) (.reported .trailingBytes)
  pure entries

section Decoded

variable {source : Bytes} {maximumEncodedBytes : ℕ}

lemma decodePath_ok {cursor index pathEnd : ℕ} {previousPath : Option Bytes}
    {expectedPath path : Bytes}
    (h : decodePath source maximumEncodedBytes cursor index previousPath expectedPath =
      .ok (path, pathEnd)) : path = expectedPath := by
  simp only [decodePath, bind_ok, exists_unit, ensure_ok, pure_ok, Prod.mk.injEq] at h
  obtain ⟨_, -, _, -, _, -, -, _, -, p, -, -, -, hp, rfl, -⟩ := h
  exact hp

lemma decodeEntries_ok {expectedPaths : List Bytes} {index cursor stop : ℕ}
    {previousPath : Option Bytes} {bounds : List PayloadBounds} {entries : List Entry}
    (h : decodeEntries source maximumEncodedBytes expectedPaths index cursor previousPath bounds =
      .ok (entries, stop)) :
    entries.length = bounds.length ∧ ∀ k entry, entries[k]? = some entry →
      expectedPaths[index + k]? = some entry.path := by
  induction bounds generalizing index cursor previousPath entries with
  | nil =>
    cases Except.ok.inj h
    exact ⟨rfl, fun k entry hk => absurd hk (by simp)⟩
  | cons b bounds ih =>
    simp only [decodeEntries, bind_ok, item_ok, pure_ok, Prod.mk.injEq] at h
    obtain ⟨expectedPath, hexpected, ⟨path, pathEnd⟩, hpath, ⟨payload, payloadEnd⟩, -,
      ⟨rest, last⟩, hrest, rfl, rfl⟩ := h
    obtain ⟨hlen, hpaths⟩ := ih hrest
    refine ⟨by rw [List.length_cons, List.length_cons, hlen], ?_⟩
    intro k entry hk
    cases k with
    | zero =>
      cases Option.some.inj hk
      rw [decodePath_ok hpath]
      exact hexpected
    | succ k =>
      rw [List.getElem?_cons_succ] at hk
      have hentry := hpaths k entry hk
      rwa [Nat.add_assoc, Nat.add_comm 1 k] at hentry

lemma decodeByteMap_paths {contract : Contract} {entries : List Entry}
    (h : decodeByteMap source contract = .ok entries) :
    entries.map Entry.path = contract.shape.expectedPaths := by
  simp only [decodeByteMap, validateContract, validateShape, bind_ok, exists_unit, ensure_ok,
    pure_ok] at h
  obtain ⟨⟨-, -, hcount, -, -⟩, -, _, -, _, -, -, ⟨decoded, cursor⟩, hdecoded, -, rfl⟩ := h
  obtain ⟨hlen, hpaths⟩ := decodeEntries_ok hdecoded
  apply List.ext_getElem
  · rw [List.length_map, hlen]
    exact hcount.symm
  · intro k hk hk'
    rw [List.length_map] at hk
    have hpath := hpaths k _ (List.getElem?_eq_getElem hk)
    rw [Nat.zero_add, List.getElem?_eq_getElem hk'] at hpath
    rw [List.getElem_map]
    exact (Option.some.inj hpath).symm

end Decoded

end Eip0045.ByteMap
