import Eip0045.Library.Scans
import Eip0045.Library.Windows
import Eip0045.Provider.Wire

/-! The ancillary data of a received message: its records, its descriptors, the receive that accepts them
and what the parser makes of the records. -/

namespace Eip0045.Ancillary

open Bytes Checked Windows Wire

section Expectation

inductive AncillaryReceiveErrorV1
  | frameLengthOutOfRange (length : ℕ)
  | tooManyFds (count : ℕ)
  | duplicateFdRole (role : FdRoleV1)
  | invalidPeerProcessId (processId : UInt32)
  | peerRoleDrift
  | missingControlCloseOnExec
  | messageTruncated
  | controlTruncated
  | unexpectedMessageFlags (flags : UInt32)
  | frameLengthDrift (actual expected : ℕ)
  | controlLengthOutOfRange (length : ℕ)
  | unknownControlRecord (level kind : Int32)
  | malformedControlRecord
  | controlRecordOrderDrift
  | credentialRecordCount (count : ℕ)
  | credentialDrift
  | rightsRecordCount (count : ℕ)
  | fdCountDrift (actual expected : ℕ)
  | invalidReceivedFd (descriptor : Int32)
  | duplicateReceivedFd (descriptor : Int32)
  | arithmeticOverflow
  | receiveFailed (code : Int32)
  | passcredNotEnabled
  deriving DecidableEq

/-- The process identifiers that a signed `pid_t` holds, without zero. -/
def ProcessIdentifier (processId : UInt32) : Prop := processId ≠ 0 ∧ processId ≤ 2147483647

instance (processId : UInt32) : Decidable (ProcessIdentifier processId) :=
  inferInstanceAs (Decidable (_ ∧ _))

structure ExpectedPeerCredentialsV1 where
  process : UInt32
  user : UInt32
  group : UInt32
  positive : ProcessIdentifier process

def ExpectedPeerCredentialsV1.tryNew (processId userId groupId : UInt32) :
    Except AncillaryReceiveErrorV1 ExpectedPeerCredentialsV1 :=
  if h : ProcessIdentifier processId then .ok ⟨processId, userId, groupId, h⟩
  else .error (.invalidPeerProcessId processId)

instance : DecidableEq ExpectedPeerCredentialsV1 := fun a b =>
  decidable_of_iff (a.process = b.process ∧ a.user = b.user ∧ a.group = b.group)
    (by cases a; cases b; simp)

inductive ExpectedPeerRoleV1
  | generator
  | worker
  | supervisorForGenerator
  | supervisorForWorker
  deriving DecidableEq

structure StrictReceiveExpectationV1 where
  peer : ExpectedPeerRoleV1
  frameLength : ℕ
  credentials : ExpectedPeerCredentialsV1
  orderedRoles : List FdRoleV1
  frameLength_bounds : 1 ≤ frameLength ∧ frameLength ≤ maxFrameBytesV1
  roles_length : orderedRoles.length ≤ maxFrameFdsV1
  roles_nodup : orderedRoles.Nodup

def refuseDuplicateRoles : List FdRoleV1 → List FdRoleV1 → Except AncillaryReceiveErrorV1 Unit
  | _, [] => .ok ()
  | before, role :: roles => do
    ensure (role ∉ before) (.duplicateFdRole role)
    refuseDuplicateRoles (before ++ [role]) roles

lemma refuseDuplicateRoles_ok {before roles : List FdRoleV1} :
    refuseDuplicateRoles before roles = .ok () ↔ Scans.Fresh before roles := by
  induction roles generalizing before with
  | nil => simp [refuseDuplicateRoles, Scans.fresh_nil]
  | cons role roles ih => rw [refuseDuplicateRoles, bind_ok, exists_unit, ensure_ok, ih, Scans.fresh_snoc]

def StrictReceiveExpectationV1.tryNew (peer : ExpectedPeerRoleV1) (frameLength : ℕ)
    (credentials : ExpectedPeerCredentialsV1) (orderedRoles : List FdRoleV1) :
    Except AncillaryReceiveErrorV1 StrictReceiveExpectationV1 :=
  if hframe : 1 ≤ frameLength ∧ frameLength ≤ maxFrameBytesV1 then
    if hcount : orderedRoles.length ≤ maxFrameFdsV1 then
      match hroles : refuseDuplicateRoles [] orderedRoles with
      | .ok () => .ok ⟨peer, frameLength, credentials, orderedRoles, hframe, hcount,
          Scans.fresh_start.mp (refuseDuplicateRoles_ok.mp hroles)⟩
      | .error error => .error error
    else .error (.tooManyFds orderedRoles.length)
  else .error (.frameLengthOutOfRange frameLength)

end Expectation

section Outcome

def cmsgHeaderBytesV1 : ℕ := 16
def ucredBytesV1 : ℕ := 12
def cmsgAlignmentV1 : ℕ := 8
def maxControlBytesV1 : ℕ := 112
def solSocketV1 : Int32 := 1
def scmRightsV1 : Int32 := 1
def scmCredentialsV1 : Int32 := 2
def msgCtruncV1 : UInt32 := 0x0008
def msgTruncV1 : UInt32 := 0x0020
def msgEorV1 : UInt32 := 0x0080
def msgCmsgCloexecReturnedV1 : UInt32 := 0x40000000

structure MessageEnvelopeV1 where
  receivedLength : ℕ
  returnedFlags : UInt32

inductive ControlRecordKindV1
  | credentials
  | rights
  deriving DecidableEq

structure ParsedControlV1 where
  credentials : List ExpectedPeerCredentialsV1
  rightsRecordCount : ℕ
  rawFds : List Int32
  order : List ControlRecordKindV1
  deriving DecidableEq

def ParsedControlV1.empty : ParsedControlV1 := ⟨[], 0, [], []⟩

structure ControlParseOutcomeV1 where
  parsed : ParsedControlV1
  error : Option AncillaryReceiveErrorV1
  deriving DecidableEq

def ControlParseOutcomeV1.recordError (outcome : ControlParseOutcomeV1) (error : AncillaryReceiveErrorV1) :
    ControlParseOutcomeV1 :=
  match outcome.error with
  | none => { outcome with error := some error }
  | some _ => outcome

def ControlParseOutcomeV1.recordErrorIf (outcome : ControlParseOutcomeV1) (c : Bool)
    (error : AncillaryReceiveErrorV1) : ControlParseOutcomeV1 :=
  if c then outcome.recordError error else outcome

@[simp] lemma recordError_parsed (outcome : ControlParseOutcomeV1) (error : AncillaryReceiveErrorV1) :
    (outcome.recordError error).parsed = outcome.parsed := by
  rw [ControlParseOutcomeV1.recordError]
  split <;> rfl

@[simp] lemma recordError_ne_none (outcome : ControlParseOutcomeV1) (error : AncillaryReceiveErrorV1) :
    (outcome.recordError error).error ≠ none := by
  rw [ControlParseOutcomeV1.recordError]
  split <;> simp_all

@[simp] lemma recordErrorIf_parsed (outcome : ControlParseOutcomeV1) (c : Bool)
    (error : AncillaryReceiveErrorV1) : (outcome.recordErrorIf c error).parsed = outcome.parsed := by
  cases c <;> simp [ControlParseOutcomeV1.recordErrorIf]

lemma recordErrorIf_none {outcome : ControlParseOutcomeV1} {c : Bool} {error : AncillaryReceiveErrorV1} :
    (outcome.recordErrorIf c error).error = none ↔ c = false ∧ outcome.error = none := by
  cases c <;> simp [ControlParseOutcomeV1.recordErrorIf]

end Outcome

section Parsing

/-- The end of a loop over the records, with an error recorded. -/
def stop (outcome : ControlParseOutcomeV1) (error : AncillaryReceiveErrorV1) : Fault ControlParseOutcomeV1 :=
  .reported (outcome.recordError error)

/-- `b[i..j]`. -/
def index (b : Bytes) (i j : ℕ) : Except (Fault ControlParseOutcomeV1) Bytes :=
  context .outOfRange (getRange b i j)

def cmsgAlignV1 (value : ℕ) : Except AncillaryReceiveErrorV1 ℕ :=
  context .arithmeticOverflow ((checkedAdd value (cmsgAlignmentV1 - 1)).map fun candidate =>
    candidate / cmsgAlignmentV1 * cmsgAlignmentV1)

def readU32V1 (b : Bytes) : Except AncillaryReceiveErrorV1 UInt32 :=
  if b.length = 4 then .ok (ofLe32 b) else .error .malformedControlRecord

def readI32V1 (b : Bytes) : Except AncillaryReceiveErrorV1 Int32 :=
  if b.length = 4 then .ok (ofLe32 b).toInt32 else .error .malformedControlRecord

def pushCredentials (outcome : ControlParseOutcomeV1) (processId userId groupId : UInt32) : ControlParseOutcomeV1 :=
  match ExpectedPeerCredentialsV1.tryNew processId userId groupId with
  | .ok credentials => { outcome with parsed := { outcome.parsed with
      credentials := outcome.parsed.credentials ++ [credentials] } }
  | .error error => outcome.recordError error

def pushOrder (outcome : ControlParseOutcomeV1) (kind : ControlRecordKindV1) : ControlParseOutcomeV1 :=
  { outcome with parsed := { outcome.parsed with order := outcome.parsed.order ++ [kind] } }

def parseCredentialsPayload (outcome : ControlParseOutcomeV1) (payload : Bytes) :
    Except (Fault ControlParseOutcomeV1) ControlParseOutcomeV1 := do
  let outcome := pushOrder outcome .credentials
  if payload.length ≠ ucredBytesV1 then pure (outcome.recordError .malformedControlRecord)
  else
    let processId := readU32V1 (← index payload 0 4)
    let userId := readU32V1 (← index payload 4 8)
    let groupId := readU32V1 (← index payload 8 12)
    match processId, userId, groupId with
    | .ok processId, .ok userId, .ok groupId => pure (pushCredentials outcome processId userId groupId)
    | _, _, _ => pure (outcome.recordError .malformedControlRecord)

def pushDescriptor (outcome : ControlParseOutcomeV1) (encoded : Bytes) : ControlParseOutcomeV1 :=
  match readI32V1 encoded with
  | .ok descriptor =>
    if 0 ≤ descriptor then { outcome with parsed := { outcome.parsed with
      rawFds := outcome.parsed.rawFds ++ [descriptor] } }
    else outcome.recordError (.invalidReceivedFd descriptor)
  | .error error => outcome.recordError error

def parseRightsPayload (outcome : ControlParseOutcomeV1) (payload : Bytes) : ControlParseOutcomeV1 :=
  let outcome := pushOrder outcome .rights
  let outcome := { outcome with parsed := { outcome.parsed with
    rightsRecordCount := outcome.parsed.rightsRecordCount + 1 } }
  if payload = [] ∨ ¬ 4 ∣ payload.length then outcome.recordError .malformedControlRecord
  else (chunksExact payload 4).foldl pushDescriptor outcome

def parseRecordPayloadV1 (outcome : ControlParseOutcomeV1) (level kind : Int32) (payload : Bytes) :
    Except (Fault ControlParseOutcomeV1) ControlParseOutcomeV1 :=
  if level = solSocketV1 ∧ kind = scmCredentialsV1 then parseCredentialsPayload outcome payload
  else if level = solSocketV1 ∧ kind = scmRightsV1 then .ok (parseRightsPayload outcome payload)
  else .ok (outcome.recordError (.unknownControlRecord level kind))

structure RecordFrame where
  header : Bytes
  headerEnd : ℕ
  recordEnd : ℕ
  alignedEnd : ℕ

def frameRecord (control : Bytes) (outcome : ControlParseOutcomeV1) (offset : ℕ) :
    Except (Fault ControlParseOutcomeV1) RecordFrame := do
  let headerEnd ← context (stop outcome .arithmeticOverflow) (checkedAdd offset cmsgHeaderBytesV1)
  let header ← context (stop outcome .malformedControlRecord) (getRange control offset headerEnd)
  let recordLengthU32 ← mapError (stop outcome .malformedControlRecord) (readU32V1 (← index header 0 4))
  let recordLength := recordLengthU32.toNat
  ensure (cmsgHeaderBytesV1 ≤ recordLength) (stop outcome .malformedControlRecord)
  let recordEnd ← context (stop outcome .arithmeticOverflow) (checkedAdd offset recordLength)
  let alignedLength ← mapError (stop outcome .arithmeticOverflow) (cmsgAlignV1 recordLength)
  let alignedEnd ← context (stop outcome .arithmeticOverflow) (checkedAdd offset alignedLength)
  ensure (recordEnd ≤ control.length ∧ alignedEnd ≤ control.length) (stop outcome .malformedControlRecord)
  pure ⟨header, headerEnd, recordEnd, alignedEnd⟩

/-- Whether padding of a record is not zero; what stands behind the record is read only if the
padding of its header is zero. -/
def padded (control : Bytes) (frame : RecordFrame) : Except (Fault ControlParseOutcomeV1) Bool := do
  let headerPadding ← index frame.header 4 8
  if headerPadding.any (· != 0) then pure true
  else do
    let padding ← index control frame.recordEnd frame.alignedEnd
    pure (padding.any (· != 0))

/-- One round of the loop: the outcome and the offset of the next record. -/
def parseStep (control : Bytes) (outcome : ControlParseOutcomeV1) (offset : ℕ) :
    Except (Fault ControlParseOutcomeV1) (ControlParseOutcomeV1 × ℕ) := do
  let frame ← frameRecord control outcome offset
  let outcome := outcome.recordErrorIf (← padded control frame) .malformedControlRecord
  let level ← mapError (stop outcome .malformedControlRecord) (readI32V1 (← index frame.header 8 12))
  let kind ← mapError (stop outcome .malformedControlRecord) (readI32V1 (← index frame.header 12 16))
  let payload ← index control frame.headerEnd frame.recordEnd
  let outcome ← parseRecordPayloadV1 outcome level kind payload
  pure (outcome, frame.alignedEnd)

lemma cmsgAlignV1_ok {value aligned : ℕ} : cmsgAlignV1 value = .ok aligned ↔
    value + 7 < 2 ^ 64 ∧ (value + 7) / 8 * 8 = aligned := by
  simp only [cmsgAlignV1, context_ok, Option.map_eq_some_iff, checkedAdd_eq_some, cmsgAlignmentV1]
  constructor
  · rintro ⟨candidate, ⟨h, rfl⟩, rfl⟩
    exact ⟨h, rfl⟩
  · intro h
    exact ⟨_, ⟨h.1, rfl⟩, h.2⟩

lemma readU32V1_ok {b : Bytes} {v : UInt32} : readU32V1 b = .ok v ↔ b = le32 v := by
  rw [readU32V1]
  constructor
  · intro h
    split_ifs at h with hlength
    cases h
    exact (le32_ofLe32 hlength).symm
  · rintro rfl
    simp

lemma readI32V1_ok {b : Bytes} {v : Int32} : readI32V1 b = .ok v ↔ b = le32 v.toUInt32 := by
  rw [readI32V1]
  constructor
  · intro h
    split_ifs at h with hlength
    cases h
    rw [UInt32.toUInt32_toInt32, le32_ofLe32 hlength]
  · rintro rfl
    simp

lemma index_ok {b v : Bytes} {i j : ℕ} :
    index b i j = .ok v ↔ i ≤ j ∧ j ≤ b.length ∧ slice b i (j - i) = v := by
  rw [index, context_ok, getRange_eq_some]

def align (length : ℕ) : ℕ := (length + 7) / 8 * 8

def RecordFrame.at (control : Bytes) (offset length : ℕ) : RecordFrame where
  header := slice control offset 16
  headerEnd := offset + 16
  recordEnd := offset + length
  alignedEnd := offset + align length

lemma frameRecord_ok {control : Bytes} {outcome : ControlParseOutcomeV1} {offset : ℕ} {frame : RecordFrame}
    (h : frameRecord control outcome offset = .ok frame) : ∃ length : UInt32,
      slice control offset 4 = le32 length ∧ 16 ≤ length.toNat ∧
        offset + align length.toNat ≤ control.length ∧ frame = .at control offset length.toNat := by
  simp only [frameRecord, bind_ok, context_ok, ensure_ok, mapError_ok, pure_ok, checkedAdd_eq_some,
    cmsgAlignV1_ok, readU32V1_ok, index_ok, getRange_eq_some, exists_unit] at h
  obtain ⟨headerEnd, ⟨-, rfl⟩, header, ⟨-, -, rfl⟩, _, ⟨-, -, rfl⟩, length, hlength, hheader, recordEnd,
    ⟨-, rfl⟩, aligned, ⟨-, rfl⟩, alignedEnd, ⟨-, rfl⟩, hbounds, rfl⟩ := h
  refine ⟨length, ?_, hheader, hbounds.2, ?_⟩
  · rw [← hlength]
    simp [slice, cmsgHeaderBytesV1, List.take_take]
  · simp [RecordFrame.at, align, cmsgHeaderBytesV1]

lemma parseStep_advances {control : Bytes} {outcome outcome' : ControlParseOutcomeV1} {offset next : ℕ}
    (h : parseStep control outcome offset = .ok (outcome', next)) : offset < next := by
  rw [parseStep, bind_ok] at h
  obtain ⟨frame, hframe, h⟩ := h
  obtain ⟨length, -, hlength, -, rfl⟩ := frameRecord_ok hframe
  simp only [bind_ok, pure_ok, Prod.mk.injEq] at h
  obtain ⟨_, -, _, -, _, -, _, -, _, -, _, -, _, -, -, rfl⟩ := h
  simp only [RecordFrame.at, align]
  omega

/-- The loop from an offset on; `none` where an index is out of range. -/
def parseLoop (control : Bytes) (outcome : ControlParseOutcomeV1) (offset : ℕ) :
    Option ControlParseOutcomeV1 :=
  if offset < control.length then
    match hstep : parseStep control outcome offset with
    | .ok (outcome, next) => parseLoop control outcome next
    | .error (.reported outcome) => some outcome
    | .error .outOfRange => none
  else some outcome
termination_by control.length - offset
decreasing_by
  have hadvances := parseStep_advances hstep
  omega

def parseControlV1 (control : Bytes) : Option ControlParseOutcomeV1 :=
  let outcome : ControlParseOutcomeV1 := ⟨.empty, none⟩
  if maxControlBytesV1 < control.length then
    some (outcome.recordError (.controlLengthOutOfRange control.length))
  else parseLoop control outcome 0

end Parsing

section Receive

def validateEnvelopeV1 (expectation : StrictReceiveExpectationV1) (envelope : MessageEnvelopeV1) :
    Except AncillaryReceiveErrorV1 Unit := do
  ensure (envelope.returnedFlags &&& msgTruncV1 = 0) .messageTruncated
  ensure (envelope.returnedFlags &&& msgCtruncV1 = 0) .controlTruncated
  ensure (envelope.returnedFlags &&& msgCmsgCloexecReturnedV1 ≠ 0) .missingControlCloseOnExec
  ensure (envelope.returnedFlags &&& ~~~(msgCmsgCloexecReturnedV1 ||| msgEorV1) = 0)
    (.unexpectedMessageFlags envelope.returnedFlags)
  ensure (envelope.receivedLength = expectation.frameLength)
    (.frameLengthDrift envelope.receivedLength expectation.frameLength)

structure ValidatedAncillaryV1 where
  credentials : ExpectedPeerCredentialsV1
  rawFds : List Int32
  orderedRoles : List FdRoleV1

def refuseRecorded : Option AncillaryReceiveErrorV1 → Except AncillaryReceiveErrorV1 Unit
  | none => .ok ()
  | some error => .error error

/-- `parsed.credentials[0]` behind the check that there is one. -/
def soleCredentials (credentials : List ExpectedPeerCredentialsV1) :
    Except AncillaryReceiveErrorV1 ExpectedPeerCredentialsV1 :=
  match credentials with
  | [sole] => .ok sole
  | _ => .error (.credentialRecordCount credentials.length)

def expectedOrder (expectedRightsCount : ℕ) : List ControlRecordKindV1 :=
  if expectedRightsCount = 0 then [.credentials] else [.credentials, .rights]

def validateParsedV1 (expectation : StrictReceiveExpectationV1) (envelope : MessageEnvelopeV1)
    (outcome : ControlParseOutcomeV1) : Except AncillaryReceiveErrorV1 ValidatedAncillaryV1 := do
  validateEnvelopeV1 expectation envelope
  refuseRecorded outcome.error
  let parsed := outcome.parsed
  let credentials ← soleCredentials parsed.credentials
  let expectedRightsCount := if expectation.orderedRoles = [] then 0 else 1
  ensure (parsed.rightsRecordCount = expectedRightsCount) (.rightsRecordCount parsed.rightsRecordCount)
  ensure (parsed.order = expectedOrder expectedRightsCount) .controlRecordOrderDrift
  ensure (credentials = expectation.credentials) .credentialDrift
  ensure (parsed.rawFds.length = expectation.orderedRoles.length)
    (.fdCountDrift parsed.rawFds.length expectation.orderedRoles.length)
  pure ⟨credentials, parsed.rawFds, expectation.orderedRoles⟩

def validateExpectedPeerRoleV1 (expectation : StrictReceiveExpectationV1) (actual : ExpectedPeerRoleV1) :
    Except AncillaryReceiveErrorV1 Unit :=
  ensure (expectation.peer = actual) .peerRoleDrift

/-- The descriptors that the process owns, and the first error about them. -/
structure Ownership where
  rawSeen : List Int32
  owned : List Int32
  firstError : Option AncillaryReceiveErrorV1

def Ownership.getOrInsert (ownership : Ownership) (error : AncillaryReceiveErrorV1) : Ownership :=
  { ownership with firstError := some (ownership.firstError.getD error) }

def Ownership.take (ownership : Ownership) (rawDescriptor : Int32) : Ownership :=
  if rawDescriptor < 0 then ownership.getOrInsert (.invalidReceivedFd rawDescriptor)
  else if rawDescriptor ∈ ownership.rawSeen then
    ownership.getOrInsert (.duplicateReceivedFd rawDescriptor)
  else { ownership with
    rawSeen := ownership.rawSeen ++ [rawDescriptor]
    owned := ownership.owned ++ [rawDescriptor] }

def takeReceivedRightsOwnershipV1 (rawFds : List Int32) : Ownership :=
  rawFds.foldl Ownership.take ⟨[], [], none⟩

structure ReceivedFdV1 where
  role : FdRoleV1
  descriptor : Int32

structure ReceivedFrameV1 where
  receivedLength : ℕ
  observedCredentials : ExpectedPeerCredentialsV1
  descriptors : List ReceivedFdV1

/-- What a receive has done: the descriptors it took ownership of, closed again on every failure,
and its result. -/
structure Receipt where
  owned : List Int32
  result : Except AncillaryReceiveErrorV1 ReceivedFrameV1

def ControlParseOutcomeV1.recordOwnership (outcome : ControlParseOutcomeV1) :
    Option AncillaryReceiveErrorV1 → ControlParseOutcomeV1
  | some error => outcome.recordError error
  | none => outcome

/-- The receive from the message that the kernel returned on. -/
def receiveMessage (expectation : StrictReceiveExpectationV1) (envelope : MessageEnvelopeV1)
    (control : Bytes) : Option Receipt :=
  (parseControlV1 control).map fun outcome =>
    let ownership := takeReceivedRightsOwnershipV1 outcome.parsed.rawFds
    let outcome := outcome.recordOwnership ownership.firstError
    ⟨ownership.owned, (validateParsedV1 expectation envelope outcome).map fun validated =>
      ⟨envelope.receivedLength, validated.credentials,
        List.zipWith ReceivedFdV1.mk validated.orderedRoles ownership.owned⟩⟩

/-- What the kernel returns of a message: its length, its flags, and the block of the control buffer
that it says it has filled. -/
structure KernelMessage where
  received : ℕ
  returnedFlags : UInt32
  controlLength : UInt32
  control : ByteArr maxControlBytesV1

def receiveForPeerV1 (peer : ExpectedPeerRoleV1) (expectation : StrictReceiveExpectationV1)
    (passcred : Option Bool) (recvmsg : Except Int32 KernelMessage) : Option Receipt :=
  match validateExpectedPeerRoleV1 expectation peer with
  | .error error => some ⟨[], .error error⟩
  | .ok () =>
    if passcred ≠ some true then some ⟨[], .error .passcredNotEnabled⟩
    else
      match recvmsg with
      | .error code => some ⟨[], .error (.receiveFailed code)⟩
      | .ok message =>
        if maxControlBytesV1 < message.controlLength.toNat then
          some ⟨[], .error (.controlLengthOutOfRange message.controlLength.toNat)⟩
        else
          receiveMessage expectation ⟨message.received, message.returnedFlags⟩
            (slice message.control.val 0 message.controlLength.toNat)

end Receive

section Records

lemma align_bounds (length : ℕ) : length ≤ align length ∧ align length ≤ length + 7 := by
  rw [align]
  omega

/-- A record as it lies in a block, with any padding. -/
structure ControlRecord where
  headerPadding : ByteArr 4
  level : Int32
  kind : Int32
  payload : Bytes
  padding : Bytes
  length_fits : 16 + payload.length < 2 ^ 32
  padding_length : 16 + payload.length + padding.length = align (16 + payload.length)

namespace ControlRecord

def length (r : ControlRecord) : UInt32 := UInt32.ofNat (16 + r.payload.length)

lemma length_toNat (r : ControlRecord) : r.length.toNat = 16 + r.payload.length := by
  rw [length, UInt32.toNat_ofNat', Nat.mod_eq_of_lt r.length_fits]

def encode (r : ControlRecord) : Bytes :=
  le32 r.length ++ r.headerPadding.val ++ le32 r.level.toUInt32 ++ le32 r.kind.toUInt32 ++ r.payload ++ r.padding

lemma encode_length (r : ControlRecord) : r.encode.length = align (16 + r.payload.length) := by
  rw [← r.padding_length]
  simp [encode]
  omega

def padded (r : ControlRecord) : Bool := r.headerPadding.val.any (· != 0) || r.padding.any (· != 0)

/-- The record lies in the block at the offset. -/
def At (control : Bytes) (offset : ℕ) (r : ControlRecord) : Prop :=
  offset + r.encode.length ≤ control.length ∧ slice control offset r.encode.length = r.encode

lemma at_iff {control : Bytes} {offset : ℕ} {r : ControlRecord} : r.At control offset ↔
    offset + align (16 + r.payload.length) ≤ control.length ∧
      slice control offset 4 = le32 r.length ∧ slice control (offset + 4) 4 = r.headerPadding.val ∧
      slice control (offset + 8) 4 = le32 r.level.toUInt32 ∧
      slice control (offset + 12) 4 = le32 r.kind.toUInt32 ∧
      slice control (offset + 16) r.payload.length = r.payload ∧
      slice control (offset + 16 + r.payload.length) r.padding.length = r.padding := by
  rw [At, r.encode_length]
  refine and_congr_right fun hbound => ?_
  have hpadding := r.padding_length
  have hpieces : slice control offset (align (16 + r.payload.length)) =
      slice control offset 4 ++ slice control (offset + 4) 4 ++ slice control (offset + 8) 4 ++
        slice control (offset + 12) 4 ++ slice control (offset + 16) r.payload.length ++
        slice control (offset + 16 + r.payload.length) r.padding.length := by
    rw [slice_append control rfl, slice_append control rfl, slice_append control rfl,
      slice_append control rfl, slice_append control (by omega), ← hpadding]
  rw [hpieces, encode]
  constructor
  · intro h
    obtain ⟨h, hpad⟩ := List.append_inj' h (slice_length (by omega))
    obtain ⟨h, hpayload⟩ := List.append_inj' h (slice_length (by omega))
    obtain ⟨h, hkind⟩ := List.append_inj' h (by rw [slice_length (by omega), le32_length])
    obtain ⟨h, hlevel⟩ := List.append_inj' h (by rw [slice_length (by omega), le32_length])
    obtain ⟨hlength, hheader⟩ := List.append_inj' h (by rw [slice_length (by omega), ByteArr.val_length])
    exact ⟨hlength, hheader, hlevel, hkind, hpayload, hpad⟩
  · rintro ⟨h0, h1, h2, h3, h4, h5⟩
    rw [h0, h1, h2, h3, h4, h5]

lemma drop_at {control : Bytes} {offset : ℕ} {r : ControlRecord} (h : r.At control offset) :
    control.drop offset = r.encode ++ control.drop (offset + r.encode.length) := by
  calc control.drop offset = (control.drop offset).take r.encode.length ++ (control.drop offset).drop r.encode.length :=
        (List.take_append_drop _ _).symm
    _ = r.encode ++ control.drop (offset + r.encode.length) := by
        rw [List.drop_drop]
        exact congrArg (· ++ _) h.2

lemma at_append (front back : Bytes) (r : ControlRecord) : r.At (front ++ r.encode ++ back) front.length := by
  refine ⟨?_, slice_between front r.encode back⟩
  rw [List.length_append, List.length_append]
  omega

end ControlRecord

lemma getRange_slice {b : Bytes} {i n : ℕ} (h : i + n ≤ b.length) : getRange b i (i + n) = some (slice b i n) :=
  getRange_eq_some.mpr ⟨Nat.le_add_right i n, h, by rw [Nat.add_sub_cancel_left]⟩

lemma index_slice {b : Bytes} {i n : ℕ} (h : i + n ≤ b.length) : index b i (i + n) = .ok (slice b i n) := by
  rw [index, getRange_slice h, context]

lemma index_header {control : Bytes} {offset i : ℕ} (hheader : offset + 16 ≤ control.length) (hi : i + 4 ≤ 16) :
    index (slice control offset 16) i (i + 4) = .ok (slice control (offset + i) 4) := by
  have hlength : (slice control offset 16).length = 16 := slice_length hheader
  rw [index_slice (by omega), slice_slice hi]

lemma frameRecord_of_at {control : Bytes} {outcome : ControlParseOutcomeV1} {offset : ℕ} {r : ControlRecord}
    (hcontrol : control.length ≤ maxControlBytesV1) (h : r.At control offset) :
    frameRecord control outcome offset = .ok (.at control offset (16 + r.payload.length)) := by
  obtain ⟨hbound, hlength, -⟩ := ControlRecord.at_iff.mp h
  have halign := align_bounds (16 + r.payload.length)
  have hheader : offset + 16 ≤ control.length := by omega
  have hrecord : offset + (16 + r.payload.length) ≤ control.length := by omega
  have hwords : control.length < 2 ^ 64 - 8 := lt_of_le_of_lt hcontrol (by decide)
  have hadd : ∀ a b, a + b ≤ control.length → checkedAdd a b = some (a + b) := fun a b hab =>
    checkedAdd_eq_some.mpr ⟨by omega, rfl⟩
  have hread : readU32V1 (slice control offset 4) = .ok r.length := readU32V1_ok.mpr hlength
  have haligned : cmsgAlignV1 (16 + r.payload.length) = .ok (align (16 + r.payload.length)) :=
    cmsgAlignV1_ok.mpr ⟨by omega, rfl⟩
  have hindex : index (slice control offset 16) 0 4 = .ok (slice control offset 4) :=
    index_header hheader (Nat.le_of_ble_eq_true rfl)
  simp only [frameRecord, cmsgHeaderBytesV1, hadd _ _ hheader, context, ok_bind, getRange_slice hheader, hindex,
    hread, mapError, r.length_toNat, hadd _ _ hrecord, haligned, hadd _ _ hbound,
    ensure_pass (Nat.le_add_right 16 _), ensure_pass (And.intro hrecord hbound)]
  rfl

lemma padded_of_at {control : Bytes} {offset : ℕ} {r : ControlRecord} (h : r.At control offset) :
    padded control (.at control offset (16 + r.payload.length)) = .ok r.padded := by
  obtain ⟨hbound, -, hheader, -, -, -, hpadding⟩ := ControlRecord.at_iff.mp h
  have halign := align_bounds (16 + r.payload.length)
  have hlength := r.padding_length
  have hfour : index (slice control offset 16) 4 8 = .ok (slice control (offset + 4) 4) :=
    index_header (by omega) (Nat.le_of_ble_eq_true rfl)
  have hend : offset + align (16 + r.payload.length) =
      offset + (16 + r.payload.length) + r.padding.length := by omega
  have hbehind : index control (offset + (16 + r.payload.length)) (offset + align (16 + r.payload.length)) =
      .ok (slice control (offset + (16 + r.payload.length)) r.padding.length) := by
    rw [hend, index_slice (by omega)]
  rw [← Nat.add_assoc, hpadding] at hbehind
  simp only [padded, RecordFrame.at, hfour, hheader, ok_bind, ControlRecord.padded]
  cases r.headerPadding.val.any (· != 0) with
  | true => rfl
  | false => rw [← Nat.add_assoc, hbehind]; rfl

lemma parseStep_of_at {control : Bytes} {offset : ℕ} {r : ControlRecord} (outcome : ControlParseOutcomeV1)
    (hcontrol : control.length ≤ maxControlBytesV1) (h : r.At control offset) :
    parseStep control outcome offset =
      (parseRecordPayloadV1 (outcome.recordErrorIf r.padded .malformedControlRecord) r.level r.kind r.payload >>=
        fun outcome' => pure (outcome', offset + r.encode.length)) := by
  obtain ⟨hbound, -, -, hlevel, hkind, hpayload, -⟩ := ControlRecord.at_iff.mp h
  have halign := align_bounds (16 + r.payload.length)
  have hheader : offset + 16 ≤ control.length := by omega
  have hlevelIndex : index (slice control offset 16) 8 12 = .ok (le32 r.level.toUInt32) := by
    rw [← hlevel]
    exact index_header hheader (Nat.le_of_ble_eq_true rfl)
  have hkindIndex : index (slice control offset 16) 12 16 = .ok (le32 r.kind.toUInt32) := by
    rw [← hkind]
    exact index_header hheader (Nat.le_of_ble_eq_true rfl)
  have hpayloadIndex : index control (offset + 16) (offset + (16 + r.payload.length)) = .ok r.payload := by
    rw [← Nat.add_assoc, index_slice (by omega), hpayload]
  rw [parseStep, frameRecord_of_at hcontrol h, ok_bind, padded_of_at h, ok_bind]
  simp only [RecordFrame.at, hlevelIndex, hkindIndex, hpayloadIndex, readI32V1_ok.mpr rfl, mapError, ok_bind,
    r.encode_length]

lemma exists_at {control : Bytes} {outcome : ControlParseOutcomeV1} {offset : ℕ} {frame : RecordFrame}
    (h : frameRecord control outcome offset = .ok frame) : ∃ r : ControlRecord, r.At control offset := by
  obtain ⟨length, hlength, hheader, hbound, -⟩ := frameRecord_ok h
  have halign := align_bounds length.toNat
  have hpayload : (slice control (offset + 16) (length.toNat - 16)).length = length.toNat - 16 :=
    slice_length (by omega)
  have hpadding : (slice control (offset + length.toNat) (align length.toNat - length.toNat)).length =
      align length.toNat - length.toNat := slice_length (by omega)
  have hsum : 16 + (length.toNat - 16) = length.toNat := by omega
  have hfour : ∀ i, offset + i + 4 ≤ control.length → (slice control (offset + i) 4).length = 4 :=
    fun i hi => slice_length hi
  have hfits : 16 + (slice control (offset + 16) (length.toNat - 16)).length < 2 ^ 32 := by
    rw [hpayload, hsum]
    exact length.toNat_lt
  have hends : 16 + (slice control (offset + 16) (length.toNat - 16)).length +
      (slice control (offset + length.toNat) (align length.toNat - length.toNat)).length =
        align (16 + (slice control (offset + 16) (length.toNat - 16)).length) := by
    rw [hpayload, hpadding, hsum]
    omega
  obtain ⟨r, hr1, hr2, hr3, hr4, hr5⟩ : ∃ r : ControlRecord, r.headerPadding.val = slice control (offset + 4) 4 ∧
      r.level = (ofLe32 (slice control (offset + 8) 4)).toInt32 ∧
      r.kind = (ofLe32 (slice control (offset + 12) 4)).toInt32 ∧
      r.payload = slice control (offset + 16) (length.toNat - 16) ∧
      r.padding = slice control (offset + length.toNat) (align length.toNat - length.toNat) :=
    ⟨⟨⟨slice control (offset + 4) 4, hfour 4 (by omega)⟩, _, _, slice control (offset + 16) (length.toNat - 16),
      slice control (offset + length.toNat) (align length.toNat - length.toNat), hfits, hends⟩,
      rfl, rfl, rfl, rfl, rfl⟩
  have hrecord : 16 + r.payload.length = length.toNat := by rw [hr4, hpayload, hsum]
  have hword : r.length = length := UInt32.toNat_inj.mp (by rw [r.length_toNat, hrecord])
  refine ⟨r, ControlRecord.at_iff.mpr ?_⟩
  rw [Nat.add_assoc offset 16, hrecord, hword, hr1, hr2, hr3, hr4, hr5, hpayload, hpadding, UInt32.toUInt32_toInt32,
    UInt32.toUInt32_toInt32, le32_ofLe32 (hfour 8 (by omega)), le32_ofLe32 (hfour 12 (by omega))]
  exact ⟨hbound, hlength, rfl, rfl, rfl, rfl, rfl⟩

def Recorded (fault : Fault ControlParseOutcomeV1) : Prop := ∃ outcome, fault = .reported outcome ∧ outcome.error ≠ none

lemma recorded_stop (outcome : ControlParseOutcomeV1) (error : AncillaryReceiveErrorV1) :
    Recorded (stop outcome error) := ⟨_, rfl, recordError_ne_none outcome error⟩

lemma context_recorded {α : Type} {o : Option α} {e f : Fault ControlParseOutcomeV1} (he : Recorded e)
    (hf : ¬ Recorded f) : context e o ≠ .error f := by
  cases o with
  | some a => simp [context]
  | none =>
    intro h
    cases h
    exact hf he

lemma mapError_recorded {α δ : Type} {x : Except δ α} {e f : Fault ControlParseOutcomeV1} (he : Recorded e)
    (hf : ¬ Recorded f) : mapError e x ≠ .error f := by
  cases x with
  | ok a => simp [mapError]
  | error e' =>
    intro h
    cases h
    exact hf he

lemma ensure_recorded {c : Prop} [Decidable c] {e f : Fault ControlParseOutcomeV1} (he : Recorded e)
    (hf : ¬ Recorded f) : ensure c e ≠ .error f := by
  by_cases hc : c
  · simp [ensure, hc]
  · intro h
    rw [ensure, if_neg hc] at h
    cases h
    exact hf he

lemma frameRecord_recorded {control : Bytes} {outcome : ControlParseOutcomeV1} {offset : ℕ}
    {f : Fault ControlParseOutcomeV1} (hf : ¬ Recorded f) : frameRecord control outcome offset ≠ .error f := by
  have hstop := recorded_stop outcome
  apply bind_ne_error (context_recorded (hstop _) hf)
  intro headerEnd hend
  rw [context_ok, checkedAdd_eq_some] at hend
  apply bind_ne_error (context_recorded (hstop _) hf)
  intro header hheader
  rw [context_ok, getRange_eq_some, ← hend.2, Nat.add_sub_cancel_left] at hheader
  obtain ⟨-, hbound, rfl⟩ := hheader
  have hindex : index (slice control offset cmsgHeaderBytesV1) 0 4 = .ok (slice control (offset + 0) 4) :=
    index_header hbound (Nat.le_of_ble_eq_true rfl)
  rw [hindex, ok_bind]
  apply bind_ne_error (mapError_recorded (hstop _) hf)
  intro length _
  apply bind_ne_error (ensure_recorded (hstop _) hf)
  intro _ _
  apply bind_ne_error (context_recorded (hstop _) hf)
  intro recordEnd _
  apply bind_ne_error (mapError_recorded (hstop _) hf)
  intro aligned _
  apply bind_ne_error (context_recorded (hstop _) hf)
  intro alignedEnd _
  apply bind_ne_error (ensure_recorded (hstop _) hf)
  intro _ _ h
  cases h

end Records

section Payloads

/-- The numbers in the payload of a rights record. -/
def descriptors (payload : Bytes) : List Int32 := (chunksExact payload 4).map fun chunk => (ofLe32 chunk).toInt32

lemma parseCredentialsPayload_of_length (outcome : ControlParseOutcomeV1) {payload : Bytes}
    (h : payload.length = ucredBytesV1) : parseCredentialsPayload outcome payload =
      .ok (pushCredentials (pushOrder outcome .credentials) (ofLe32 (slice payload 0 4)) (ofLe32 (slice payload 4 4))
        (ofLe32 (slice payload 8 4))) := by
  have hindex : ∀ i, i + 4 ≤ 12 → index payload i (i + 4) = .ok (slice payload i 4) :=
    fun i hi => index_slice (by rw [h]; exact hi)
  have hread : ∀ i, i + 4 ≤ 12 → readU32V1 (slice payload i 4) = .ok (ofLe32 (slice payload i 4)) := by
    intro i hi
    rw [readU32V1, if_pos (slice_length (by rw [h]; exact hi))]
  rw [parseCredentialsPayload, if_neg (not_not.mpr h), hindex 0 (by decide), ok_bind, hindex 4 (by decide), ok_bind,
    hindex 8 (by decide), ok_bind, hread 0 (by decide), hread 4 (by decide), hread 8 (by decide)]
  rfl

lemma pushCredentials_rawFds (outcome : ControlParseOutcomeV1) (processId userId groupId : UInt32) :
    (pushCredentials outcome processId userId groupId).parsed.rawFds = outcome.parsed.rawFds := by
  rw [pushCredentials]
  split
  · rfl
  · rw [recordError_parsed]

lemma parseCredentialsPayload_ok (outcome : ControlParseOutcomeV1) (payload : Bytes) :
    ∃ outcome', parseCredentialsPayload outcome payload = .ok outcome' ∧
      outcome'.parsed.rawFds = outcome.parsed.rawFds := by
  by_cases hlength : payload.length = ucredBytesV1
  · exact ⟨_, parseCredentialsPayload_of_length outcome hlength, pushCredentials_rawFds _ _ _ _⟩
  · rw [parseCredentialsPayload, if_pos hlength]
    exact ⟨_, rfl, by rw [recordError_parsed]; rfl⟩

lemma pushDescriptor_rawFds (outcome : ControlParseOutcomeV1) {chunk : Bytes} (h : chunk.length = 4) :
    (pushDescriptor outcome chunk).parsed.rawFds =
      outcome.parsed.rawFds ++ [(ofLe32 chunk).toInt32].filter (0 ≤ ·) := by
  rw [pushDescriptor, readI32V1, if_pos h]
  by_cases hfd : 0 ≤ (ofLe32 chunk).toInt32
  · simp [hfd]
  · simp [hfd]

lemma foldl_pushDescriptor_rawFds {chunks : List Bytes} (outcome : ControlParseOutcomeV1)
    (h : ∀ chunk ∈ chunks, chunk.length = 4) : (chunks.foldl pushDescriptor outcome).parsed.rawFds =
      outcome.parsed.rawFds ++ (chunks.map fun chunk => (ofLe32 chunk).toInt32).filter (0 ≤ ·) := by
  induction chunks generalizing outcome with
  | nil => simp
  | cons chunk chunks ih =>
    obtain ⟨hchunk, hchunks⟩ := List.forall_mem_cons.mp h
    rw [List.foldl_cons, ih _ hchunks, pushDescriptor_rawFds outcome hchunk, List.append_assoc, ← List.filter_append]
    rfl

/-- The descriptors of a record: those of a rights record that are not negative. -/
def ControlRecord.rawFds (r : ControlRecord) : List Int32 :=
  if r.level = solSocketV1 ∧ r.kind = scmRightsV1 then (descriptors r.payload).filter (0 ≤ ·) else []

def ControlRecord.Whole (r : ControlRecord) : Prop :=
  r.level = solSocketV1 → r.kind = scmRightsV1 → 4 ∣ r.payload.length

lemma parseRightsPayload_rawFds (outcome : ControlParseOutcomeV1) {payload : Bytes} (h : 4 ∣ payload.length) :
    (parseRightsPayload outcome payload).parsed.rawFds =
      outcome.parsed.rawFds ++ (descriptors payload).filter (0 ≤ ·) := by
  rw [parseRightsPayload]
  by_cases hnil : payload = []
  · simp [hnil, descriptors, chunksExact, pushOrder]
  · simp only [hnil, h, not_true, or_self, if_false]
    exact foldl_pushDescriptor_rawFds _ fun chunk => chunk_length

lemma parseRecordPayloadV1_ok (outcome : ControlParseOutcomeV1) (r : ControlRecord) :
    ∃ outcome', parseRecordPayloadV1 outcome r.level r.kind r.payload = .ok outcome' ∧
      (r.Whole → outcome'.parsed.rawFds = outcome.parsed.rawFds ++ r.rawFds) := by
  rw [parseRecordPayloadV1, ControlRecord.rawFds]
  by_cases hcredentials : r.level = solSocketV1 ∧ r.kind = scmCredentialsV1
  · have hkind : ¬(r.level = solSocketV1 ∧ r.kind = scmRightsV1) := by
      rw [hcredentials.2]
      exact fun h => absurd h.2 (by decide)
    rw [if_pos hcredentials, if_neg hkind]
    obtain ⟨outcome', hok, hfds⟩ := parseCredentialsPayload_ok outcome r.payload
    exact ⟨outcome', hok, fun _ => by rw [hfds, List.append_nil]⟩
  · rw [if_neg hcredentials]
    by_cases hrights : r.level = solSocketV1 ∧ r.kind = scmRightsV1
    · rw [if_pos hrights, if_pos hrights]
      exact ⟨_, rfl, fun hwhole => parseRightsPayload_rawFds outcome (hwhole hrights.1 hrights.2)⟩
    · rw [if_neg hrights, if_neg hrights]
      exact ⟨_, rfl, fun _ => by rw [recordError_parsed, List.append_nil]⟩

end Payloads

section Loop

lemma parseStep_recorded {control : Bytes} {outcome : ControlParseOutcomeV1} {offset : ℕ}
    {f : Fault ControlParseOutcomeV1} (hcontrol : control.length ≤ maxControlBytesV1)
    (h : parseStep control outcome offset = .error f) : Recorded f := by
  by_contra hf
  cases hframe : frameRecord control outcome offset with
  | error e =>
    rw [parseStep, hframe, error_bind] at h
    cases h
    exact frameRecord_recorded hf hframe
  | ok frame =>
    obtain ⟨r, hr⟩ := exists_at hframe
    obtain ⟨outcome', hok, -⟩ :=
      parseRecordPayloadV1_ok (outcome.recordErrorIf r.padded .malformedControlRecord) r
    rw [parseStep_of_at outcome hcontrol hr, hok, ok_bind] at h
    cases h

lemma parseStep_ok {control : Bytes} {outcome outcome' : ControlParseOutcomeV1} {offset next : ℕ}
    (hcontrol : control.length ≤ maxControlBytesV1) (h : parseStep control outcome offset = .ok (outcome', next)) :
    ∃ r : ControlRecord, r.At control offset ∧ next = offset + r.encode.length ∧
      parseRecordPayloadV1 (outcome.recordErrorIf r.padded .malformedControlRecord) r.level r.kind r.payload =
        .ok outcome' := by
  have hframe := h
  rw [parseStep, bind_ok] at hframe
  obtain ⟨frame, hframe, -⟩ := hframe
  obtain ⟨r, hr⟩ := exists_at hframe
  rw [parseStep_of_at outcome hcontrol hr] at h
  simp only [bind_ok, pure_ok, Prod.mk.injEq] at h
  obtain ⟨_, hok, rfl, rfl⟩ := h
  exact ⟨r, hr, rfl, hok⟩

lemma parseLoop_end {control : Bytes} {outcome : ControlParseOutcomeV1} {offset : ℕ}
    (h : control.length ≤ offset) : parseLoop control outcome offset = some outcome := by
  rw [parseLoop, if_neg (by omega)]

lemma parseLoop_next {control : Bytes} {outcome outcome' : ControlParseOutcomeV1} {offset next : ℕ}
    (hoffset : offset < control.length) (h : parseStep control outcome offset = .ok (outcome', next)) :
    parseLoop control outcome offset = parseLoop control outcome' next := by
  rw [parseLoop, if_pos hoffset]
  split <;> simp_all

lemma parseLoop_stop {control : Bytes} {outcome outcome' : ControlParseOutcomeV1} {offset : ℕ}
    (hoffset : offset < control.length) (h : parseStep control outcome offset = .error (.reported outcome')) :
    parseLoop control outcome offset = some outcome' := by
  rw [parseLoop, if_pos hoffset]
  split <;> simp_all

lemma parseLoop_isSome {control : Bytes} (hcontrol : control.length ≤ maxControlBytesV1)
    (outcome : ControlParseOutcomeV1) (offset : ℕ) : (parseLoop control outcome offset).isSome := by
  induction hleft : control.length - offset using Nat.strong_induction_on generalizing outcome offset with
  | _ left ih =>
    by_cases hoffset : offset < control.length
    · cases hstep : parseStep control outcome offset with
      | ok result =>
        have hadvances := parseStep_advances hstep
        rw [parseLoop_next hoffset hstep]
        exact ih (control.length - result.2) (by omega) result.1 result.2 rfl
      | error f =>
        obtain ⟨outcome', rfl, -⟩ := parseStep_recorded hcontrol hstep
        rw [parseLoop_stop hoffset hstep]
        rfl
    · rw [parseLoop_end (by omega)]
      rfl

lemma parseLoop_records {control : Bytes} (hcontrol : control.length ≤ maxControlBytesV1)
    {records : List ControlRecord} (hwhole : ∀ r ∈ records, r.Whole) (front : Bytes)
    (h : control = front ++ records.flatMap ControlRecord.encode) (outcome : ControlParseOutcomeV1) :
    ∃ outcome', parseLoop control outcome front.length = some outcome' ∧
      outcome'.parsed.rawFds = outcome.parsed.rawFds ++ records.flatMap ControlRecord.rawFds := by
  induction records generalizing front outcome with
  | nil =>
    rw [List.flatMap_nil, List.append_nil] at h
    exact ⟨outcome, parseLoop_end (by rw [h]), by simp⟩
  | cons r records ih =>
    obtain ⟨hr, hrecords⟩ := List.forall_mem_cons.mp hwhole
    rw [List.flatMap_cons, ← List.append_assoc] at h
    have hat : r.At control front.length := h ▸ ControlRecord.at_append front _ r
    have hoffset : front.length < control.length := by
      have hbound := hat.1
      rw [r.encode_length] at hbound
      have halign := align_bounds (16 + r.payload.length)
      omega
    obtain ⟨outcome₁, hok, hfds⟩ :=
      parseRecordPayloadV1_ok (outcome.recordErrorIf r.padded .malformedControlRecord) r
    have hstep := parseStep_of_at outcome hcontrol hat
    rw [hok, ok_bind, ← List.length_append] at hstep
    obtain ⟨outcome', hloop, hrest⟩ := ih hrecords _ h outcome₁
    refine ⟨outcome', by rw [parseLoop_next hoffset hstep, hloop], ?_⟩
    rw [hrest, hfds hr, recordErrorIf_parsed, List.flatMap_cons, List.append_assoc]

end Loop

end Eip0045.Ancillary
