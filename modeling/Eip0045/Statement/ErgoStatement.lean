import Eip0045.Constants
import Eip0045.Library.Checked

/-! The `ErgoStatementV1` codecs: the typed layout, the profile's builder, the generator's check. -/

namespace Eip0045.Statement

open Bytes Checked Constants

def statementVersion : UInt8 := 1

inductive ErgoStatementFieldV1
  | chainDomainId
  | profileId
  | programId
  | contractId
  | payloadLength
  | applicationPayload
  deriving DecidableEq

namespace ErgoStatementFieldV1

def all : List ErgoStatementFieldV1 :=
  [chainDomainId, profileId, programId, contractId, payloadLength, applicationPayload]

def ordinal : ErgoStatementFieldV1 → Fin 6
  | chainDomainId => 0
  | profileId => 1
  | programId => 2
  | contractId => 3
  | payloadLength => 4
  | applicationPayload => 5

def debug : ErgoStatementFieldV1 → String
  | chainDomainId => "ChainDomainId"
  | profileId => "ProfileId"
  | programId => "ProgramId"
  | contractId => "ContractId"
  | payloadLength => "PayloadLength"
  | applicationPayload => "ApplicationPayload"

end ErgoStatementFieldV1

structure ErgoStatementFieldSpanV1 where
  field : ErgoStatementFieldV1
  start : ℕ
  stop : ℕ
  deriving DecidableEq

namespace ErgoStatementFieldSpanV1

def len (s : ErgoStatementFieldSpanV1) : ℕ := s.stop - s.start

def bytes (s : ErgoStatementFieldSpanV1) (statement : Bytes) : Except String Bytes :=
  context s!"statement {s.field.debug} span is truncated"
    (if s.start ≤ s.stop ∧ s.stop ≤ statement.length then some (slice statement s.start s.len)
     else none)

end ErgoStatementFieldSpanV1

structure ErgoStatementLayoutV1 where
  spans : List.Vector ErgoStatementFieldSpanV1 6
  deriving DecidableEq

namespace ErgoStatementLayoutV1

def span (l : ErgoStatementLayoutV1) (field : ErgoStatementFieldV1) : ErgoStatementFieldSpanV1 :=
  l.spans.get field.ordinal

def payloadLength (l : ErgoStatementLayoutV1) : ℕ := (l.spans.get 5).len

def statementLength (l : ErgoStatementLayoutV1) : ℕ := (l.spans.get 5).stop

/-- The span of the next field, and the cursor behind it. -/
def next (cursor : ℕ) (field : ErgoStatementFieldV1) (width : ℕ) :
    Except String (ErgoStatementFieldSpanV1 × ℕ) := do
  let stop ← context "statement field span overflows" (checkedAdd cursor width)
  pure (⟨field, cursor, stop⟩, stop)

def forPayloadLength (payloadLength : ℕ) : Except String ErgoStatementLayoutV1 := do
  ensure (payloadLength ≤ maxApplicationPayloadBytes)
    s!"statement application payload has {payloadLength} bytes, maximum is {maxApplicationPayloadBytes}"
  let cursor ← context "statement domain/version span overflows"
    (checkedAdd ergoStatementDomain.length 1)
  let (chain, cursor) ← next cursor .chainDomainId digestBytes
  let (profile, cursor) ← next cursor .profileId digestBytes
  let (program, cursor) ← next cursor .programId digestBytes
  let (contract, cursor) ← next cursor .contractId digestBytes
  let (length, cursor) ← next cursor .payloadLength 4
  let (payload, _) ← next cursor .applicationPayload payloadLength
  ensure (payload.start = statementPrefixBytes ∧ payload.stop ≤ maxStatementBytes)
    "typed statement layout differs from the frozen prefix or maximum"
  pure ⟨⟨[chain, profile, program, contract, length, payload], rfl⟩⟩

end ErgoStatementLayoutV1

/-- A statement value. Its fields are private to the source's module, and `new` alone builds one. -/
@[ext] structure ErgoStatementV1 where
  chainDomainId : Digest
  profileId : Digest
  programId : Digest
  contractId : Digest
  applicationPayload : Bytes
  bounded : applicationPayload.length ≤ maxApplicationPayloadBytes

namespace ErgoStatementV1

def new (chainDomainId profileId programId contractId : Digest) (applicationPayload : Bytes) :
    Except String ErgoStatementV1 :=
  if h : applicationPayload.length ≤ maxApplicationPayloadBytes then
    .ok ⟨chainDomainId, profileId, programId, contractId, applicationPayload, h⟩
  else .error
    s!"statement application payload has {applicationPayload.length} bytes, maximum is {maxApplicationPayloadBytes}"

def layout (s : ErgoStatementV1) : Except String ErgoStatementLayoutV1 :=
  ErgoStatementLayoutV1.forPayloadLength s.applicationPayload.length

end ErgoStatementV1

def u32TryFrom (n : ℕ) : Option UInt32 := if n < 2 ^ 32 then some (UInt32.ofNat n) else none

def writeField (statement : Bytes) (span : ErgoStatementFieldSpanV1) (value : Bytes) :
    Except String Bytes := do
  ensure (span.len = value.length)
    s!"statement {span.field.debug} value width differs from its typed span"
  context s!"statement {span.field.debug} destination is truncated"
    (if span.start ≤ span.stop ∧ span.stop ≤ statement.length then
      some (overwrite statement span.start value) else none)

/-- `bytes[start..][..value.len()].copy_from_slice(value)`, which a range outside the buffer stops. -/
def copyFromSlice (b : Bytes) (start : ℕ) (value : Bytes) : Except (Fault String) Bytes :=
  if start + value.length ≤ b.length then .ok (overwrite b start value) else .error .outOfRange

def ErgoStatementV1.encode (s : ErgoStatementV1) : Except (Fault String) Bytes := do
  let payloadLength ← report <| context "statement application payload length exceeds u32"
    (u32TryFrom s.applicationPayload.length)
  let layout ← report s.layout
  let expectedLength := layout.statementLength
  let bytes := List.replicate expectedLength 0
  let bytes ← copyFromSlice bytes 0 ergoStatementDomain
  let bytes ← copyFromSlice bytes ergoStatementDomain.length [statementVersion]
  let bytes ← report <| writeField bytes (layout.span .chainDomainId) s.chainDomainId.val
  let bytes ← report <| writeField bytes (layout.span .profileId) s.profileId.val
  let bytes ← report <| writeField bytes (layout.span .programId) s.programId.val
  let bytes ← report <| writeField bytes (layout.span .contractId) s.contractId.val
  let bytes ← report <| writeField bytes (layout.span .payloadLength) (le32 payloadLength)
  let bytes ← report <| writeField bytes (layout.span .applicationPayload) s.applicationPayload
  report <| ensure (bytes.length = expectedLength)
    "encoded statement length differs from its fixed layout"
  pure bytes

def digestField (bytes : Bytes) (span : ErgoStatementFieldSpanV1) (label : String) :
    Except String Digest := do
  let field ← span.bytes bytes
  context s!"{label} has the wrong width" (ByteArr.ofBytes digestBytes field)

def parseErgoStatementV1 (bytes : Bytes) : Except (Fault String) ErgoStatementV1 := do
  report <| ensure (statementPrefixBytes ≤ bytes.length ∧ bytes.length ≤ maxStatementBytes)
    "statement length is outside the exact ErgoStatementV1 bounds"
  report <| ensure (ergoStatementDomain <+: bytes) "statement domain separator is invalid"
  report <| ensure (bytes[ergoStatementDomain.length]? = some statementVersion)
    "statement version is not V1"
  let actualPayloadLength ← report <| context "statement is shorter than its fixed prefix"
    (if statementPrefixBytes ≤ bytes.length then some (bytes.length - statementPrefixBytes)
     else none)
  let layout ← report <| ErgoStatementLayoutV1.forPayloadLength actualPayloadLength
  let chainDomainId ← report <|
    digestField bytes (layout.span .chainDomainId) "statement chain-domain ID"
  let profileId ← report <| digestField bytes (layout.span .profileId) "statement profile ID"
  let programId ← report <| digestField bytes (layout.span .programId) "statement program ID"
  let contractId ← report <| digestField bytes (layout.span .contractId) "statement contract ID"
  let lengthField ← report <| (layout.span .payloadLength).bytes bytes
  let lengthBytes ← report <| context "statement payload-length prefix has the wrong width"
    (ByteArr.ofBytes 4 lengthField)
  let payloadLength := ofLe32 lengthBytes.val
  let applicationPayload ← report <| (layout.span .applicationPayload).bytes bytes
  report <| ensure (payloadLength.toNat = applicationPayload.length)
    "statement payload length prefix differs from the exact trailing bytes"
  let statement ← report <|
    ErgoStatementV1.new chainDomainId profileId programId contractId applicationPayload
  let encoded ← statement.encode
  report <| ensure (encoded = bytes) "statement decode/re-encode changed bytes"
  pure statement

section ProfileBuilder

inductive ProfileConstructionError
  | applicationPayloadTooLarge (actual maximum : ℕ)
  | invalidManifestLength (actual expected : ℕ)
  | arithmeticOverflow (construct : String)
  | derivedLengthMismatch (construct : String) (actual expected : ℕ)
  deriving DecidableEq

def checkedMul (a b : ℕ) : Option ℕ := if a * b < 2 ^ 64 then some (a * b) else none

lemma checkedMul_eq_some {a b c : ℕ} : checkedMul a b = some c ↔ a * b < 2 ^ 64 ∧ a * b = c := by
  simp [checkedMul]

def requireLength (construct : String) (actual expected : ℕ) :
    Except ProfileConstructionError Unit :=
  ensure (actual = expected) (.derivedLengthMismatch construct actual expected)

def ergoStatementV1FromContractId (chainDomainId profileId programId contractId : Digest)
    (applicationPayload : Bytes) : Except ProfileConstructionError Bytes := do
  ensure (¬applicationPayload.length > maxApplicationPayloadBytes)
    (.applicationPayloadTooLarge applicationPayload.length maxApplicationPayloadBytes)
  let payloadLength ← context (.arithmeticOverflow "application payload length prefix")
    (u32TryFrom applicationPayload.length)
  let digestFieldsLength ← context (.arithmeticOverflow "statement digest fields")
    (checkedMul ergoStatementBoundDigests digestBytes)
  let derivedPrefixLength ← context (.arithmeticOverflow "statement prefix")
    ((checkedAdd ergoStatementDomain.length ergoStatementVersionBytes).bind fun length =>
      (checkedAdd length digestFieldsLength).bind fun length =>
        checkedAdd length payloadLengthPrefixBytes)
  requireLength "statement prefix" derivedPrefixLength statementPrefixBytes
  let expectedLength ← context (.arithmeticOverflow "complete statement")
    (checkedAdd derivedPrefixLength applicationPayload.length)
  ensure (¬expectedLength > maxStatementBytes)
    (.derivedLengthMismatch "maximum statement" expectedLength maxStatementBytes)
  let statement := ergoStatementDomain ++ [1] ++ chainDomainId.val ++ profileId.val ++
    programId.val ++ contractId.val ++ le32 payloadLength ++ applicationPayload
  requireLength "complete statement" statement.length expectedLength
  pure statement

end ProfileBuilder

section GeneratorCheck

def statementVersionOffset : ℕ := ergoStatementDomain.length
def statementChainDomainOffset : ℕ := statementVersionOffset + 1
def statementProfileIdOffset : ℕ := statementChainDomainOffset + digestBytes
def statementProgramIdOffset : ℕ := statementProfileIdOffset + digestBytes
def statementContractIdOffset : ℕ := statementProgramIdOffset + digestBytes
def statementPayloadLengthOffset : ℕ := statementContractIdOffset + digestBytes
def statementPayloadOffset : ℕ := statementPayloadLengthOffset + payloadLengthPrefixBytes

/-- `bytes[start..stop]`, which a range outside the buffer stops. -/
def sliceOf (b : Bytes) (start stop : ℕ) : Except (Fault String) Bytes :=
  if start ≤ stop ∧ stop ≤ b.length then .ok (slice b start (stop - start))
  else .error .outOfRange

/-- `bytes[i]`. -/
def indexOf (b : Bytes) (i : ℕ) : Except (Fault String) UInt8 :=
  match b[i]? with
  | some x => .ok x
  | none => .error .outOfRange

def validateErgoStatementV1 (statement : Bytes) (expectedProgramId : Digest) :
    Except (Fault String) Unit := do
  report <| ensure
    (statementPrefixBytes ≤ statement.length ∧ statement.length ≤ maxStatementBytes)
    s!"ErgoStatementV1 has {statement.length} bytes, expected {statementPrefixBytes}..={maxStatementBytes}"
  report <| ensure (statementPayloadOffset = statementPrefixBytes)
    "compiled ErgoStatementV1 offsets disagree with the frozen prefix length"
  report <| ensure (ergoStatementDomain <+: statement) "ErgoStatementV1 domain is not exact"
  let version ← indexOf statement statementVersionOffset
  report <| ensure (version = 1) "ErgoStatementV1 version is not 0x01"
  let programId ← sliceOf statement statementProgramIdOffset statementContractIdOffset
  report <| ensure (programId = expectedProgramId.val)
    "ErgoStatementV1 program ID differs from the expected guest image ID"
  let lengthField ← sliceOf statement statementPayloadLengthOffset statementPayloadOffset
  let payloadLengthBytes ← report <| context
    "ErgoStatementV1 payload-length field is not exactly four bytes"
    (ByteArr.ofBytes payloadLengthPrefixBytes lengthField)
  let payloadLength := (ofLe32 payloadLengthBytes.val).toNat
  report <| ensure (payloadLength ≤ maxApplicationPayloadBytes)
    s!"ErgoStatementV1 payload declares {payloadLength} bytes, maximum is {maxApplicationPayloadBytes}"
  let expectedStatementLength ← report <| context "ErgoStatementV1 length arithmetic overflow"
    (checkedAdd statementPrefixBytes payloadLength)
  report <| ensure (statement.length = expectedStatementLength)
    s!"ErgoStatementV1 payload declares {payloadLength} bytes but exact input length is {statement.length - statementPrefixBytes}"

end GeneratorCheck

end Eip0045.Statement
