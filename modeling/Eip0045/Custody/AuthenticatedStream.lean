import Mathlib
import Eip0045.Custody.StreamReader

/-! Authenticated streaming of a retained file: open, inspect, check again, deliver. -/

namespace Eip0045.Custody

open Bytes Checked Stateful

abbrev Custodial := Stateful Failure History

section Primitives

variable (outside : Outside)

def act (action : Action) : Custodial Unit := do
  let h ← get
  let answer := outside.act h action
  modify fun h => h ++ [.acted action answer]
  lift answer

def observe (probe : Probe) : Custodial FileMetadata := do
  let h ← get
  let answer := outside.metadata h probe
  modify fun h => h ++ [.metadata probe answer]
  lift answer

/-- `.context(text)`. -/
def contextual {σ α : Type} (text : String) (x : Stateful Failure σ α) : Stateful Failure σ α := do
  let answer ← attempt x
  match answer with
  | .ok a => pure a
  | .error e => throw (.context text e)

/-- A computation on a reader of its own, with its outcome and the reader that it leaves. -/
def streaming {ε α : Type} (reader : Reader) (x : Stateful ε StreamState α) :
    Custodial (Except ε α × Reader) :=
  ExceptT.mk fun h =>
    (.ok ((exec x ⟨reader, h⟩).1, (exec x ⟨reader, h⟩).2.reader), (exec x ⟨reader, h⟩).2.history)

def call {α : Type} (callback : Callback) (byteLength : UInt64) (sha256 : Digest)
    (answer : History → Except Failure α) : Custodial α := do
  modify fun h => h ++ [.called callback byteLength sha256]
  let h ← get
  lift (answer h)

end Primitives

section Open

inductive StreamRole
  | generic
  | ociImageLayoutUstar
  deriving DecidableEq

structure StreamRequest where
  role : StreamRole
  rootIndex : ℕ
  relative : Bytes

abbrev RootSnapshot := Std.ExtTreeMap Bytes StableFileSnapshot

def maxImmutableSnapshotFileBytes : ℕ := 1073741824
def ociOuterUstarMaxBytes : ℕ := 17179869184
def maxAbsolutePathBytes : ℕ := 4096
def maxAbsolutePathComponents : ℕ := 64

def validateStreamFileCeiling (maximum : ℕ) : Except Failure Unit :=
  ensure (maximum ≤ maxImmutableSnapshotFileBytes)
    (.message "immutable-root stream exceeds the compiled snapshot-file bound")

/-- The limits of the layout role are 6144 and 17179869184 bytes in multiples of 512. -/
def validateAuthenticatedStreamRoleCeiling (role : StreamRole) (maximum : ℕ) : Except Failure Unit :=
  match role with
  | .generic => validateStreamFileCeiling maximum
  | .ociImageLayoutUstar =>
    ensure (maximum = ociOuterUstarMaxBytes)
      (.message "OCI image-layout stream ceiling differs from its closed role contract")

def slash : UInt8 := 47

def components (relative : Bytes) : List Bytes := relative.splitOn slash

/-- `Path::components` passes over empty parts and over `.` after the first, so the rebuilt path is the
given one where no part is empty, `.` or `..`. -/
def validatePortableRelativeFilePath (relative : Bytes) : Except Failure Unit := do
  ensure (relative ≠ [] ∧ relative.length ≤ maxAbsolutePathBytes)
    (.message "immutable-root relative file path is outside its byte bound")
  ensure (relative.head? ≠ some slash) (.message "immutable-root file path must be relative")
  ensure (∀ component ∈ components relative,
    component ≠ [] ∧ component ≠ utf8 "." ∧ component ≠ utf8 "..")
    (.message "immutable-root file path is not normalized relative")
  ensure ((components relative).length ≤ maxAbsolutePathComponents)
    (.message "immutable-root file path is not normalized relative")

def isAsciiLowercase (b : UInt8) : Bool := 97 ≤ b && b ≤ 122
def isAsciiDigit (b : UInt8) : Bool := 48 ≤ b && b ≤ 57

def isPortableComponent (component : Bytes) : Bool :=
  (component.head?.any fun b => isAsciiLowercase b || isAsciiDigit b) &&
    (component.all fun b => isAsciiLowercase b || isAsciiDigit b || [46, 95, 45].contains b) &&
    component != utf8 "." && component != utf8 ".." && component.getLast? != some 46

def validateProjectedOciRelativeFilePath (relative : Bytes) : Except Failure Unit := do
  validatePortableRelativeFilePath relative
  ensure (1 ≤ relative.length ∧ relative.length ≤ 240 ∧ ∀ b ∈ relative, b < 128)
    (.message "projected OCI image-layout path is outside its portable byte bound")
  ensure (∀ component ∈ components relative, isPortableComponent component)
    (.message "projected OCI image-layout path is outside the portable component subset")

variable (outside : Outside)

def validateRole (role : StreamRole) (expected : StableFileSnapshot) : Except Failure Unit :=
  match role with
  | .generic =>
    ensure (expected.role = .generic)
      (.message "projected OCI image-layout stream requires its closed role-specific importer")
  | .ociImageLayoutUstar =>
    ensure (expected.role = .ociImageLayoutUstar)
      (.message "OCI image-layout importer role differs from its retained capture plan")

def validateRelative (role : StreamRole) (relative : Bytes) : Except Failure Unit :=
  match role with
  | .generic => validatePortableRelativeFilePath relative
  | .ociImageLayoutUstar => validateProjectedOciRelativeFilePath relative

def requireMetadata (probe : Probe) (expected : StableFileSnapshot) (error : String) :
    Custodial Unit := do
  let metadata ← observe outside probe
  lift (ensure (metadata = expected.metadata) (.message error))

def openFileStream (maxBytes : ℕ) (root : RootSnapshot) (role : StreamRole) (relative : Bytes) :
    Custodial StableFileSnapshot := do
  lift (validateAuthenticatedStreamRoleCeiling role maxBytes)
  let expected ← lift (context
    (.message "immutable-root file is absent from the retained snapshot") root[relative]?)
  lift (validateRole role expected)
  act outside (.validateLength expected.metadata.byteLength)
  lift (ensure (expected.metadata.byteLength.toNat ≤ maxBytes)
    (.message "immutable-root file exceeds its caller-supplied stream bound"))
  lift (validateRelative role relative)
  contextual "cannot pin immutable-root stream relative to retained custody" (act outside .openPath)
  requireMetadata outside .path expected
    "immutable-root stream differs from its retained identity before reading"
  act outside (.hook .pathPinned)
  contextual "cannot open immutable-root stream relative to retained custody" (act outside .openData)
  requireMetadata outside .opened expected
    "immutable-root stream changed while opening its data descriptor"
  act outside (.hook .dataOpened)
  pure expected

end Open

section Inspect

variable (outside : Outside) (sha256 : Bytes → Digest)

/-- The proof of the exact end of the file, where no read of the inspector has given it. -/
def finishEof : Stateful Failure StreamState Unit := do
  let s ← get
  if s.reader.eofObserved then pure ()
  else do
    let answer ← attempt (read outside 1)
    match answer with
    | .error failure =>
      throw (.context s!"cannot prove exact EOF for {s.reader.diagnostic}" (.read failure))
    | .ok bytes =>
      lift (ensure (bytes = [])
        (.message "authenticated immutable-root EOF probe was not exact"))

def finish : Stateful Failure StreamState Unit := do
  let s ← get
  let detail := (s.reader.stickyFailure.map StreamingReadFailure.detail).getD "unknown failure"
  lift (ensure (s.reader.stickyFailure.isNone) (.message
    s!"authenticated immutable-root stream {s.reader.diagnostic} retained a read failure: {detail}"))
  lift (ensure (s.reader.observedByteLength = s.reader.expected.metadata.byteLength.toNat) (.message
    s!"authenticated immutable-root stream {s.reader.diagnostic} was not consumed to its retained length"))
  finishEof outside
  let s ← get
  lift (ensure (sha256 s.reader.hashed = s.reader.expected.sha256) (.message
    s!"authenticated immutable-root stream {s.reader.diagnostic} digest differs from retained custody"))

/-- The closure on the result of the inspector. -/
def inspectionOutcome {α : Type} (reader : Reader) (inspection : Except Failure α) :
    Custodial (UInt64 × Digest × α) :=
  match inspection with
  | .ok parsed => do
    modify fun h => h ++ [.inspected]
    let finished ← streaming reader (finish outside sha256)
    lift finished.1
    act outside (.hook .bytesRead)
    pure (reader.expected.metadata.byteLength, reader.expected.sha256, parsed)
  | .error inspection =>
    match reader.stickyFailure with
    | some failure => throw (.combined .inspectionAndRead inspection (.read failure))
    | none => throw inspection

/-- The second descriptor is observed only where the first has its retained metadata. -/
def filePostcheck (expected : StableFileSnapshot) : Custodial Unit := do
  requireMetadata outside .opened expected
    "immutable-root stream no longer matches its retained snapshot"
  requireMetadata outside .path expected
    "immutable-root stream no longer matches its retained snapshot"
  contextual "cannot repin immutable-root stream relative to retained custody" (act outside .repin)
  requireMetadata outside .repinned expected
    "named immutable-root stream no longer identifies retained custody"
  act outside (.hook .fileRepinned)

def finishFileInspection {α : Type} (outcome : Except Failure α) (filePostcheck : Except Failure Unit) :
    Except Failure α :=
  match outcome, filePostcheck with
  | .ok authenticated, .ok () => .ok authenticated
  | .error error, .ok () => .error error
  | .ok _, .error postcheck => .error (.context
    "immutable-root stream inspection completed but its file postcheck failed" postcheck)
  | .error inspection, .error postcheck =>
    .error (.combined .inspectionAndFilePostcheck inspection postcheck)

def inspectFileStream {Parsed : Type} (maxBytes : ℕ) (root : RootSnapshot) (role : StreamRole)
    (relative : Bytes) (inspect : UInt64 → Digest → Inspector Parsed) :
    Custodial (UInt64 × Digest × Parsed) := do
  let expected ← openFileStream outside maxBytes root role relative
  contextual s!"cannot seek immutable-root stream {text relative}" (act outside .seek)
  let inspection ← streaming (Reader.new (text relative) expected)
    ((inspect expected.metadata.byteLength expected.sha256).run outside)
  let outcome ← attempt (inspectionOutcome outside sha256 inspection.2 inspection.1)
  let postcheck ← attempt (filePostcheck outside expected)
  lift (finishFileInspection outcome postcheck)

end Inspect

section Deliver

variable (outside : Outside) (sha256 : Bytes → Digest)

/-- The result of the inspection and of the recheck before delivery. -/
def settleInspection {Parsed : Type} (reject : Parsed → Failure → Failure)
    (inspection : Except Failure (UInt64 × Digest × Parsed)) (postcheck : Except Failure Unit) :
    Except Failure (UInt64 × Digest × Parsed) :=
  match inspection, postcheck with
  | .ok authenticated, .ok () => .ok authenticated
  | .error error, .ok () => .error error
  | .ok authenticated, .error postcheck => .error (reject authenticated.2.2 (.context
    "immutable-root stream authenticated but its pre-delivery postcheck failed" postcheck))
  | .error inspection, .error postcheck =>
    .error (.combined .inspectionAndPreDeliveryPostcheck inspection postcheck)

def settleDelivery {α : Type} (outcome : Except Failure α) (postcheck : Except Failure Unit) :
    Except Failure α :=
  match outcome, postcheck with
  | .ok value, .ok () => .ok value
  | .error error, .ok () => .error error
  | .ok _, .error postcheck => .error (.context
    "authenticated immutable-root stream delivery completed but its postcheck failed" postcheck)
  | .error delivery, .error postcheck => .error (.combined .deliveryAndPostcheck delivery postcheck)

structure Client (Parsed α : Type) where
  inspect : UInt64 → Digest → Inspector Parsed
  reject : Parsed → Failure → Failure
  deliver : UInt64 → Digest → Parsed → History → Except Failure α

def withFileStreamWithRejection {Parsed α : Type} (callback : Callback) (maxBytes : ℕ)
    (roots : List RootSnapshot) (request : StreamRequest) (client : Client Parsed α) : Custodial α := do
  let root ← lift (context
    (.message "immutable-root index is outside the fixed root set") roots[request.rootIndex]?)
  act outside .recheck
  let inspection ← attempt
    (inspectFileStream outside sha256 maxBytes root request.role request.relative client.inspect)
  let postcheck ← attempt (act outside .recheck)
  let authenticated ← lift (settleInspection client.reject inspection postcheck)
  let outcome ← attempt (call callback authenticated.1 authenticated.2.1
    (client.deliver authenticated.1 authenticated.2.1 authenticated.2.2))
  let deliveryPostcheck ← attempt (act outside .recheck)
  lift (settleDelivery outcome deliveryPostcheck)

/-- What a caller supplies for two replays of one file. -/
structure ReplayClient (First Retained Replay α : Type) where
  inspectFirst : UInt64 → Digest → Inspector First
  retainFirst : UInt64 → Digest → First → History → Except Failure Retained
  inspectReplay : UInt64 → Digest → Inspector Replay
  rejectReplay : Replay → Failure → Failure
  deliver : Retained → UInt64 → Digest → Replay → History → Except Failure α

def withFileReplayStreamsWithRejection {First Retained Replay α : Type} (maxBytes : ℕ)
    (roots : List RootSnapshot) (request : StreamRequest)
    (client : ReplayClient First Retained Replay α) : Custodial α := do
  let retainedFirst ← withFileStreamWithRejection outside sha256 .retainFirst maxBytes roots request
    { inspect := client.inspectFirst, reject := fun _ error => error, deliver := client.retainFirst }
  act outside .between
  act outside .recheck
  withFileStreamWithRejection outside sha256 .deliver maxBytes roots request
    { inspect := client.inspectReplay, reject := client.rejectReplay
      deliver := client.deliver retainedFirst }

end Deliver

end Eip0045.Custody
