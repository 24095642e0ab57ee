import Eip0045.Library.Jcs
import Eip0045.Sources.Manifest

/-! Runtime observations: the state that `runc` prints, and the identity of a process. Texts are their
UTF-8 bytes. -/

namespace Eip0045.Runtime

open Bytes Checked CanonicalJson Jcs
open SourceManifest (digitsValue)

abbrev Result (α : Type) := Except (Fault String) α

section Constants

def runcStateMaxSourceBytes : ℕ := 16384
def processIdentityMaxSourceBytes : ℕ := 128
def runcContainerIdMaxBytes : ℕ := 128
def runtimePathMaxBytes : ℕ := 4096
def runtimePathMaxComponents : ℕ := 64
def runtimePathComponentMaxBytes : ℕ := 128
def runcCreatedTimestampMaxBytes : ℕ := 30
def linuxPidMax : ℕ := 4194303
def ociVersion : Bytes := utf8 "1.3.0"

end Constants

section Wire

structure RuncStateWire where
  ociVersion : Bytes
  id : Bytes
  pid : ℕ
  status : Bytes
  bundle : Bytes
  rootfs : Bytes
  created : Bytes
  owner : Bytes
  deriving DecidableEq

structure ProcessIdentityWire where
  bootId : Bytes
  pid : ℕ
  startTimeTicks : Bytes
  deriving DecidableEq

def stateNames : List Bytes := [utf8 "ociVersion", utf8 "id", utf8 "pid", utf8 "status",
  utf8 "bundle", utf8 "rootfs", utf8 "created", utf8 "owner"]

def readState (value : Json) : Except String RuncStateWire := do
  closed stateNames value
  let ociVersion ← member stateNames value (utf8 "ociVersion") >>= readString
  let id ← member stateNames value (utf8 "id") >>= readString
  let pid ← member stateNames value (utf8 "pid") >>= readUnsigned (2 ^ 64)
  let status ← member stateNames value (utf8 "status") >>= readString
  let bundle ← member stateNames value (utf8 "bundle") >>= readString
  let rootfs ← member stateNames value (utf8 "rootfs") >>= readString
  let created ← member stateNames value (utf8 "created") >>= readString
  let owner ← member stateNames value (utf8 "owner") >>= readString
  pure ⟨ociVersion, id, pid, status, bundle, rootfs, created, owner⟩

def identityNames : List Bytes := [utf8 "bootId", utf8 "pid", utf8 "startTimeTicks"]

def readIdentity (value : Json) : Except String ProcessIdentityWire := do
  closed identityNames value
  let bootId ← member identityNames value (utf8 "bootId") >>= readString
  let pid ← member identityNames value (utf8 "pid") >>= readUnsigned (2 ^ 64)
  let startTimeTicks ← member identityNames value (utf8 "startTimeTicks") >>= readString
  pure ⟨bootId, pid, startTimeTicks⟩

end Wire

section Encoder

/-- What is pushed for a character of one byte. -/
def goJsonByte (c : UInt8) : Bytes :=
  if c = 34 then utf8 "\\\""
  else if c = 92 then utf8 "\\\\"
  else if c = 8 then utf8 "\\b"
  else if c = 12 then utf8 "\\f"
  else if c = 10 then utf8 "\\n"
  else if c = 13 then utf8 "\\r"
  else if c = 9 then utf8 "\\t"
  else if c = 60 then utf8 "\\u003c"
  else if c = 62 then utf8 "\\u003e"
  else if c = 38 then utf8 "\\u0026"
  else if c ≤ 0x1f then utf8 "\\u00" ++ Hex.encode [c]
  else [c]

/-- The line and paragraph separators have three bytes; the others of their lead stand for themselves. -/
def goJsonBody : Bytes → Bytes
  | 0xe2 :: 0x80 :: 0xa8 :: rest => utf8 "\\u2028" ++ goJsonBody rest
  | 0xe2 :: 0x80 :: 0xa9 :: rest => utf8 "\\u2029" ++ goJsonBody rest
  | c :: rest => goJsonByte c ++ goJsonBody rest
  | [] => []

def pushGoJsonString (value : Bytes) : Bytes := [quote] ++ goJsonBody value ++ [quote]

def encodeExactRuncState (wire : RuncStateWire) : Bytes :=
  utf8 "\x7b\n  \"ociVersion\": " ++ pushGoJsonString wire.ociVersion ++
  utf8 ",\n  \"id\": " ++ pushGoJsonString wire.id ++
  utf8 ",\n  \"pid\": " ++ decimal wire.pid ++
  utf8 ",\n  \"status\": " ++ pushGoJsonString wire.status ++
  utf8 ",\n  \"bundle\": " ++ pushGoJsonString wire.bundle ++
  utf8 ",\n  \"rootfs\": " ++ pushGoJsonString wire.rootfs ++
  utf8 ",\n  \"created\": " ++ pushGoJsonString wire.created ++
  utf8 ",\n  \"owner\": " ++ pushGoJsonString wire.owner ++ utf8 "\n\x7d"

end Encoder

section Texts

def IsPortable (c : UInt8) : Prop :=
  65 ≤ c ∧ c ≤ 90 ∨ 97 ≤ c ∧ c ≤ 122 ∨ 48 ≤ c ∧ c ≤ 57 ∨ c = 46 ∨ c = 95 ∨ c = 43 ∨ c = 45

instance (c : UInt8) : Decidable (IsPortable c) := inferInstanceAs (Decidable (_ ∨ _))

def dot : Bytes := [46]
def dotDot : Bytes := [46, 46]
def slash : UInt8 := 47

def validateRuncContainerId (value : Bytes) : Except String Unit := do
  ensure (1 ≤ value.length ∧ value.length ≤ runcContainerIdMaxBytes)
    "runc state ID is empty or exceeds 128 bytes"
  ensure (value ≠ dot ∧ value ≠ dotDot) "runc state ID is a dot path"
  ensure (∀ c ∈ value, IsPortable c) "runc state ID contains a non-runc character"

/-- The loop over the components of a path, with their number so far. -/
def validateComponents (label : String) : List Bytes → ℕ → Except String Unit
  | [], _ => pure ()
  | component :: rest, count => do
    let count ← context "runtime path component count overflowed" (checkedAdd count 1)
    ensure (count ≤ runtimePathMaxComponents)
      s!"{label} path exceeds {runtimePathMaxComponents} components"
    ensure (1 ≤ component.length ∧ component.length ≤ runtimePathComponentMaxBytes)
      s!"{label} component is empty or exceeds {runtimePathComponentMaxBytes} bytes"
    ensure (component ≠ dot ∧ component ≠ dotDot) s!"{label} path contains a dot component"
    ensure (∀ c ∈ component, IsPortable c) s!"{label} component is outside the portable ASCII subset"
    validateComponents label rest count

/-- `value[1..]` stops on an empty value, and where the first character has more bytes. -/
def behindFirst (value : Bytes) : Result Bytes :=
  match value with
  | [] => .error .outOfRange
  | c :: rest => if c < 0x80 then .ok rest else .error .outOfRange

def validateRuntimePath (value : Bytes) (label : String) : Result Unit := do
  report (ensure (2 ≤ value.length ∧ value.length ≤ runtimePathMaxBytes)
    s!"{label} path is outside 2..={runtimePathMaxBytes} bytes")
  report (ensure ([slash] <+: value) s!"{label} path is not absolute")
  report (ensure (¬[slash] <:+ value) s!"{label} path has a trailing slash")
  report (ensure (¬[slash, slash] <:+: value) s!"{label} path has an empty component")
  let rest ← behindFirst value
  report (validateComponents label (rest.splitOn slash) 0)

end Texts

section Timestamps

/-- `bytes[start..stop]`, which a range outside the buffer stops. -/
def rangeOf (bytes : Bytes) (start stop : ℕ) : Result Bytes :=
  match getRange bytes start stop with
  | some part => .ok part
  | none => .error .outOfRange

/-- A number of 32 bits times ten, and a digit added. -/
def pushDigit (value : ℕ) (byte : UInt8) : Option ℕ :=
  if value * 10 < 2 ^ 32 ∧ value * 10 + (byte.toNat - 48) < 2 ^ 32 then
    some (value * 10 + (byte.toNat - 48))
  else none

def decimalDigits (bytes : Bytes) : Option ℕ :=
  bytes.foldlM (fun value byte => if 48 ≤ byte ∧ byte ≤ 57 then pushDigit value byte else none) 0

def isLeapYear (year : ℕ) : Bool := year % 4 = 0 && (!(year % 100 = 0) || year % 400 = 0)

def daysInMonth (year month : ℕ) : ℕ :=
  if month ∈ [1, 3, 5, 7, 8, 10, 12] then 31
  else if month ∈ [4, 6, 9, 11] then 30
  else if month = 2 ∧ isLeapYear year then 29
  else if month = 2 then 28
  else 0

def fieldAt (bytes : Bytes) (start stop : ℕ) (error : String) : Result ℕ := do
  let part ← rangeOf bytes start stop
  report (context error (decimalDigits part))

def validateRfc3339NanoUtc (bytes : Bytes) : Result Unit := do
  report (ensure (bytes.length ≤ runcCreatedTimestampMaxBytes)
    "runc state created timestamp exceeds 30 bytes")
  let hasFraction := decide (22 ≤ bytes.length ∧ bytes.length ≤ runcCreatedTimestampMaxBytes)
  report (ensure (bytes.length = 20 ∨ hasFraction = true)
    "runc state created timestamp has a noncanonical length")
  let b4 ← item bytes 4
  let b7 ← item bytes 7
  let b10 ← item bytes 10
  let b13 ← item bytes 13
  let b16 ← item bytes 16
  report (ensure (b4 = 45 ∧ b7 = 45 ∧ b10 = 84 ∧ b13 = 58 ∧ b16 = 58)
    "runc state created timestamp has invalid separators")
  let year ← fieldAt bytes 0 4 "invalid timestamp year"
  let month ← fieldAt bytes 5 7 "invalid timestamp month"
  let day ← fieldAt bytes 8 10 "invalid timestamp day"
  let hour ← fieldAt bytes 11 13 "invalid timestamp hour"
  let minute ← fieldAt bytes 14 16 "invalid timestamp minute"
  let second ← fieldAt bytes 17 19 "invalid timestamp second"
  report (ensure (1 ≤ month ∧ month ≤ 12) "timestamp month is invalid")
  report (ensure (1 ≤ day ∧ day ≤ daysInMonth year month) "timestamp day is invalid")
  report (ensure (hour ≤ 23) "timestamp hour is invalid")
  report (ensure (minute ≤ 59) "timestamp minute is invalid")
  report (ensure (second ≤ 59) "timestamp second is invalid")
  if hasFraction = true then do
    let b19 ← item bytes 19
    let last ← item bytes (bytes.length - 1)
    report (ensure (b19 = 46 ∧ last = 90) "timestamp fraction is not UTC RFC3339Nano")
    let fraction ← rangeOf bytes 20 (bytes.length - 1)
    report (ensure (∀ c ∈ fraction, 48 ≤ c ∧ c ≤ 57) "timestamp fraction is not decimal")
    report (ensure (fraction.getLast? ≠ some 48)
      "timestamp fraction has a noncanonical trailing zero")
  else do
    let b19 ← item bytes 19
    report (ensure (b19 = 90) "timestamp is not canonical UTC")

end Timestamps

section Identities

def lowercaseHexNibble (byte : UInt8) : Option UInt8 :=
  if 48 ≤ byte ∧ byte ≤ 57 then some (byte - 48)
  else if 97 ≤ byte ∧ byte ≤ 102 then some (byte - 97 + 10)
  else none

/-- `decoded[index] = value`. -/
def store (decoded : Bytes) (index : ℕ) (value : UInt8) : Result Bytes :=
  if index < decoded.length then .ok (decoded.set index value) else .error .outOfRange

def hyphens : List ℕ := [8, 13, 18, 23]

def decodePairs (bytes : Bytes) (inputIndex outputIndex : ℕ) (decoded : Bytes) : Result Bytes :=
  if _h : inputIndex < bytes.length then
    if inputIndex ∈ hyphens then decodePairs bytes (inputIndex + 1) outputIndex decoded
    else do
      let first ← item bytes inputIndex
      let high ← report (context "bootId is not lowercase hex" (lowercaseHexNibble first))
      let second ← item bytes (inputIndex + 1)
      let low ← report (context "bootId is not lowercase hex" (lowercaseHexNibble second))
      let decoded ← store decoded outputIndex (high <<< 4 ||| low)
      decodePairs bytes (inputIndex + 2) (outputIndex + 1) decoded
  else pure decoded
termination_by bytes.length - inputIndex
decreasing_by all_goals omega

def decodeCanonicalBootUuid (bytes : Bytes) : Result Bytes := do
  report (ensure (bytes.length = 36) "bootId is not a 36-byte UUID")
  hyphens.forM fun index => do
    let byte ← item bytes index
    report (ensure (byte = 45) "bootId has a misplaced UUID separator")
  let b14 ← item bytes 14
  report (ensure (b14 = 52) "bootId is not a version-4 UUID")
  let b19 ← item bytes 19
  report (ensure (b19 ∈ utf8 "89ab") "bootId does not have the RFC 4122 variant")
  decodePairs bytes 0 0 (List.replicate 16 0)

/-- The first byte is looked at only when there is one. -/
def firstDigit (value : Bytes) : Result Bool :=
  if value = [] ∨ 20 < value.length then .ok false
  else do
    let first ← item value 0
    pure (decide (48 ≤ first ∧ first ≤ 57 ∧ first ≠ 48))

def parseNonzeroCanonicalU64 (value : Bytes) (label : String) : Result ℕ := do
  let first ← firstDigit value
  report (ensure (first = true ∧ ∀ c ∈ value, 48 ≤ c ∧ c ≤ 57)
    s!"{label} is not a canonical nonzero decimal u64")
  let parsed := digitsValue value
  report (ensure (parsed < 2 ^ 64) s!"{label} exceeds u64")
  report (ensure (parsed ≠ 0) s!"{label} is zero")
  pure parsed

end Identities

section Contracts

inductive RuncStateStatus
  | created
  | stopped
  deriving DecidableEq

structure ParsedRuncState where
  ociVersion : Bytes
  containerId : Bytes
  pid : ℕ
  status : RuncStateStatus
  bundle : Bytes
  rootfs : Bytes
  created : Bytes
  owner : Bytes
  deriving DecidableEq

structure ParsedProcessIdentity where
  bootId : Bytes
  pid : ℕ
  startTimeTicks : ℕ
  deriving DecidableEq

def u32OfU64 (value : ℕ) : Option ℕ := if value < 2 ^ 32 then some value else none

def parseStatus (status : Bytes) (pid : ℕ) : Except String RuncStateStatus :=
  if status = utf8 "created" then do
    ensure (pid ≠ 0) "created runc state has PID zero"
    pure .created
  else if status = utf8 "stopped" then do
    ensure (pid = 0) "stopped runc state has a live PID"
    pure .stopped
  else .error s!"unsupported runc state status \"{text status}\""

variable (codec : Codec)

def parseRuncState (source : Bytes) : Result ParsedRuncState := do
  report (ensure (source.length ≤ runcStateMaxSourceBytes) "runc state source exceeds 16384 bytes")
  let value ← report (mapError "invalid strict runc state JSON" (codec.parseJsonStrict source))
  let wire ← report (mapError "invalid closed runc state object" (readState value))
  report (ensure (encodeExactRuncState wire = source)
    "runc state source is not the exact Go MarshalIndent byte form")
  report (ensure (wire.ociVersion = ociVersion) "runc state ociVersion differs from 1.3.0")
  report (validateRuncContainerId wire.id)
  validateRuntimePath wire.bundle "runc state bundle"
  validateRuntimePath wire.rootfs "runc state rootfs"
  validateRfc3339NanoUtc wire.created
  report (ensure (wire.owner = []) "runc state owner is not empty")
  report (ensure (wire.pid ≤ linuxPidMax) "runc state PID exceeds 4194303")
  let pid ← report (context "runc state PID does not fit u32" (u32OfU64 wire.pid))
  let status ← report (parseStatus wire.status pid)
  pure ⟨wire.ociVersion, wire.id, pid, status, wire.bundle, wire.rootfs, wire.created, wire.owner⟩

def parseProcessIdentity (source : Bytes) : Result ParsedProcessIdentity := do
  report (ensure (source.length ≤ processIdentityMaxSourceBytes)
    "process-identity source exceeds 128 bytes")
  let value ← report (mapError "invalid canonical process-identity JSON"
    (codec.validateCanonicalJsonSource source))
  let wire ← report (mapError "invalid closed process-identity object" (readIdentity value))
  let bootId ← decodeCanonicalBootUuid wire.bootId
  report (ensure (wire.pid ≤ linuxPidMax) "process-identity PID exceeds 4194303")
  let pid ← report (context "process-identity PID does not fit u32" (u32OfU64 wire.pid))
  report (ensure (pid ≠ 0) "process-identity PID is zero")
  let startTimeTicks ← parseNonzeroCanonicalU64 wire.startTimeTicks "process-identity startTimeTicks"
  pure ⟨bootId, pid, startTimeTicks⟩

end Contracts

end Eip0045.Runtime
