import Eip0045.Ancestry.Projection
import Eip0045.Library.Jcs

/-! The manifest of a statement bundle: how the generator builds it, and how it is read and bound to a
statement. -/

namespace Eip0045.Statement

open Bytes Checked Constants CanonicalJson Jcs Receipt
open RecursiveAncestry (validateLowerHexExact)

section Constants

def statementBundleFormat : Bytes := utf8 "ErgoStatementBundleV1"
def statementBundleFormatVersion : ℕ := 1
def bundledStatementVersion : ℕ := 1
def maxManifestBytes : ℕ := 64 * 1024
def maxPropositionBytes : ℕ := 4096

end Constants

section Records

/-- Both crates declare these records, the one to write them and the other to read them. -/
structure RawArtifactIdentityV1 where
  length : ℕ
  path : Bytes
  role : Bytes
  sha256 : Bytes

structure RawClaimIdentityV1 where
  expectedClaim : Bytes
  journalDigest : Bytes
  output : Bytes
  post : Bytes

structure RawStatementIdentityV1 where
  applicationPayloadLength : ℕ
  chainDomainId : Bytes
  contractId : Bytes
  domainHex : Bytes
  profileId : Bytes
  programId : Bytes
  propositionBytesLength : ℕ
  statementLength : ℕ
  statementSha256 : Bytes
  version : ℕ

structure RawStatementManifestV1 where
  artifacts : List RawArtifactIdentityV1
  claim : RawClaimIdentityV1
  format : Bytes
  formatVersion : ℕ
  statement : RawStatementIdentityV1

def RawArtifactIdentityV1.fields (raw : RawArtifactIdentityV1) : List (Bytes × JsonValue) := [
  (utf8 "length", .number raw.length), (utf8 "path", .string raw.path),
  (utf8 "role", .string raw.role), (utf8 "sha256", .string raw.sha256)]

def RawClaimIdentityV1.fields (raw : RawClaimIdentityV1) : List (Bytes × JsonValue) := [
  (utf8 "expectedClaim", .string raw.expectedClaim),
  (utf8 "journalDigest", .string raw.journalDigest),
  (utf8 "output", .string raw.output), (utf8 "post", .string raw.post)]

def RawStatementIdentityV1.fields (raw : RawStatementIdentityV1) : List (Bytes × JsonValue) := [
  (utf8 "applicationPayloadLength", .number raw.applicationPayloadLength),
  (utf8 "chainDomainId", .string raw.chainDomainId),
  (utf8 "contractId", .string raw.contractId),
  (utf8 "domainHex", .string raw.domainHex),
  (utf8 "profileId", .string raw.profileId),
  (utf8 "programId", .string raw.programId),
  (utf8 "propositionBytesLength", .number raw.propositionBytesLength),
  (utf8 "statementLength", .number raw.statementLength),
  (utf8 "statementSha256", .string raw.statementSha256),
  (utf8 "version", .number raw.version)]

def RawStatementManifestV1.fields (raw : RawStatementManifestV1) : List (Bytes × JsonValue) := [
  (utf8 "artifacts", .array (raw.artifacts.map fun artifact => .object artifact.fields)),
  (utf8 "claim", .object raw.claim.fields),
  (utf8 "format", .string raw.format),
  (utf8 "formatVersion", .number raw.formatVersion),
  (utf8 "statement", .object raw.statement.fields)]

def RawStatementManifestV1.toValue (raw : RawStatementManifestV1) : JsonValue := .object raw.fields

def artifactNames : List Bytes := [utf8 "length", utf8 "path", utf8 "role", utf8 "sha256"]

def readArtifact (value : Json) : Except String RawArtifactIdentityV1 := do
  closed artifactNames value
  let length ← member artifactNames value (utf8 "length") >>= readUnsigned (2 ^ 64)
  let path ← member artifactNames value (utf8 "path") >>= readString
  let role ← member artifactNames value (utf8 "role") >>= readString
  let sha256 ← member artifactNames value (utf8 "sha256") >>= readString
  pure ⟨length, path, role, sha256⟩

def claimNames : List Bytes :=
  [utf8 "expectedClaim", utf8 "journalDigest", utf8 "output", utf8 "post"]

def readClaim (value : Json) : Except String RawClaimIdentityV1 := do
  closed claimNames value
  let expectedClaim ← member claimNames value (utf8 "expectedClaim") >>= readString
  let journalDigest ← member claimNames value (utf8 "journalDigest") >>= readString
  let output ← member claimNames value (utf8 "output") >>= readString
  let post ← member claimNames value (utf8 "post") >>= readString
  pure ⟨expectedClaim, journalDigest, output, post⟩

def statementNames : List Bytes := [utf8 "applicationPayloadLength", utf8 "chainDomainId",
  utf8 "contractId", utf8 "domainHex", utf8 "profileId", utf8 "programId",
  utf8 "propositionBytesLength", utf8 "statementLength", utf8 "statementSha256", utf8 "version"]

def readStatement (value : Json) : Except String RawStatementIdentityV1 := do
  closed statementNames value
  let applicationPayloadLength ←
    member statementNames value (utf8 "applicationPayloadLength") >>= readUnsigned (2 ^ 64)
  let chainDomainId ← member statementNames value (utf8 "chainDomainId") >>= readString
  let contractId ← member statementNames value (utf8 "contractId") >>= readString
  let domainHex ← member statementNames value (utf8 "domainHex") >>= readString
  let profileId ← member statementNames value (utf8 "profileId") >>= readString
  let programId ← member statementNames value (utf8 "programId") >>= readString
  let propositionBytesLength ←
    member statementNames value (utf8 "propositionBytesLength") >>= readUnsigned (2 ^ 64)
  let statementLength ←
    member statementNames value (utf8 "statementLength") >>= readUnsigned (2 ^ 64)
  let statementSha256 ← member statementNames value (utf8 "statementSha256") >>= readString
  let version ← member statementNames value (utf8 "version") >>= readUnsigned (2 ^ 8)
  pure ⟨applicationPayloadLength, chainDomainId, contractId, domainHex, profileId, programId,
    propositionBytesLength, statementLength, statementSha256, version⟩

def readArtifacts (value : Json) : Except String (List RawArtifactIdentityV1) := do
  let artifacts ← readArray readArtifact value
  ensure (artifacts.length = 11) "invalid length"
  pure artifacts

def manifestNames : List Bytes :=
  [utf8 "artifacts", utf8 "claim", utf8 "format", utf8 "formatVersion", utf8 "statement"]

def readManifest (value : Json) : Except String RawStatementManifestV1 := do
  closed manifestNames value
  let artifacts ← member manifestNames value (utf8 "artifacts") >>= readArtifacts
  let claim ← member manifestNames value (utf8 "claim") >>= readClaim
  let format ← member manifestNames value (utf8 "format") >>= readString
  let formatVersion ← member manifestNames value (utf8 "formatVersion") >>= readUnsigned (2 ^ 8)
  let statement ← member manifestNames value (utf8 "statement") >>= readStatement
  pure ⟨artifacts, claim, format, formatVersion, statement⟩

end Records

section Generator

variable (codec : Codec) (sha256 : Bytes → Digest)

def sha256Hex (bytes : Bytes) : Bytes := Hex.encode (sha256 bytes).val

def artifactIdentity (path role : String) (bytes : Bytes) : RawArtifactIdentityV1 :=
  ⟨bytes.length, utf8 path, utf8 role, sha256Hex sha256 bytes⟩

def buildManifest (chainDomainId profileId programId : Digest) (proposition applicationPayload : Bytes)
    (contractId : Digest) (statement : Bytes) (claim : ReceiptClaimDigests) :
    Except String Bytes := do
  let artifacts := [
    artifactIdentity sha256 "application-payload.bin" "application-payload" applicationPayload,
    artifactIdentity sha256 "chain-domain-id.bin" "chain-domain-id" chainDomainId.val,
    artifactIdentity sha256 "claim-digest.bin" "expected-claim-digest" claim.expectedClaim.val,
    artifactIdentity sha256 "contract-id.bin" "contract-id" contractId.val,
    artifactIdentity sha256 "journal-digest.bin" "journal-digest" claim.journalDigest.val,
    artifactIdentity sha256 "output-digest.bin" "receipt-output-digest" claim.output.val,
    artifactIdentity sha256 "post-digest.bin" "receipt-post-digest" claim.post.val,
    artifactIdentity sha256 "profile-id.bin" "stark-profile-id" profileId.val,
    artifactIdentity sha256 "program-id.bin" "guest-program-id" programId.val,
    artifactIdentity sha256 "proposition.bin" "self-proposition-bytes" proposition,
    artifactIdentity sha256 "statement.bin" "ergo-statement-v1" statement]
  let view : RawStatementManifestV1 := {
    artifacts
    claim := {
      expectedClaim := Hex.encode claim.expectedClaim.val
      journalDigest := Hex.encode claim.journalDigest.val
      output := Hex.encode claim.output.val
      post := Hex.encode claim.post.val }
    format := utf8 "ErgoStatementBundleV1"
    formatVersion := 1
    statement := {
      applicationPayloadLength := applicationPayload.length
      chainDomainId := Hex.encode chainDomainId.val
      contractId := Hex.encode contractId.val
      domainHex := Hex.encode ergoStatementDomain
      profileId := Hex.encode profileId.val
      programId := Hex.encode programId.val
      propositionBytesLength := proposition.length
      statementLength := statement.length
      statementSha256 := sha256Hex sha256 statement
      version := 1 } }
  let bytes ← codec.canonicalJsonBytes (ofValue view.toValue)
  ensure (bytes.length ≤ 64 * 1024) "statement manifest exceeds 65536 bytes"
  pure bytes

end Generator

section Reader

structure ArtifactSpec where
  path : Bytes
  role : Bytes
  minimumLength : ℕ
  maximumLength : ℕ

namespace ArtifactSpec

def digest (path role : String) : ArtifactSpec := ⟨utf8 path, utf8 role, digestBytes, digestBytes⟩

def applicationPayload : ArtifactSpec :=
  ⟨utf8 "application-payload.bin", utf8 "application-payload", 0, maxApplicationPayloadBytes⟩
def chainDomainId : ArtifactSpec := digest "chain-domain-id.bin" "chain-domain-id"
def expectedClaim : ArtifactSpec := digest "claim-digest.bin" "expected-claim-digest"
def contractId : ArtifactSpec := digest "contract-id.bin" "contract-id"
def journalDigest : ArtifactSpec := digest "journal-digest.bin" "journal-digest"
def outputDigest : ArtifactSpec := digest "output-digest.bin" "receipt-output-digest"
def postDigest : ArtifactSpec := digest "post-digest.bin" "receipt-post-digest"
def profileId : ArtifactSpec := digest "profile-id.bin" "stark-profile-id"
def programId : ArtifactSpec := digest "program-id.bin" "guest-program-id"
def proposition : ArtifactSpec :=
  ⟨utf8 "proposition.bin", utf8 "self-proposition-bytes", 1, maxPropositionBytes⟩
def statement : ArtifactSpec :=
  ⟨utf8 "statement.bin", utf8 "ergo-statement-v1", statementPrefixBytes, maxStatementBytes⟩

end ArtifactSpec

structure ArtifactBindingV1 where
  length : ℕ
  sha256 : Digest
  deriving DecidableEq

structure AuthenticatedArtifactInventoryV1 where
  applicationPayload : ArtifactBindingV1
  chainDomainId : ArtifactBindingV1
  expectedClaim : ArtifactBindingV1
  contractId : ArtifactBindingV1
  journalDigest : ArtifactBindingV1
  outputDigest : ArtifactBindingV1
  postDigest : ArtifactBindingV1
  profileId : ArtifactBindingV1
  programId : ArtifactBindingV1
  proposition : ArtifactBindingV1
  statement : ArtifactBindingV1

structure StatementBundleManifestV1 where
  applicationPayload : ArtifactBindingV1
  chainDomainId : Digest
  profileId : Digest
  programId : Digest
  contractId : Digest
  proposition : ArtifactBindingV1
  statement : ArtifactBindingV1
  claim : ReceiptClaimDigests
  deriving DecidableEq

def decodeDigest (value : Bytes) (label : String) : Except String Digest := do
  mapError s!"{label} is not exact lowercase hex" (validateLowerHexExact value digestBytes)
  let decoded ← context "invalid hex" (Hex.decode value)
  let count := decoded.length
  context s!"{label} has {count} decoded bytes" (ByteArr.ofBytes digestBytes decoded)

def authenticateArtifact (raw : RawArtifactIdentityV1) (spec : ArtifactSpec) :
    Except String ArtifactBindingV1 := do
  ensure (raw.path = spec.path)
    s!"statement-bundle artifact path differs from exact generator order: expected {text spec.path}, found {text raw.path}"
  ensure (raw.role = spec.role)
    s!"{text spec.path} role differs from exact generator role {text spec.role}"
  ensure (spec.minimumLength ≤ raw.length ∧ raw.length ≤ spec.maximumLength)
    s!"{text spec.path} has declared length {raw.length}, expected {spec.minimumLength}..={spec.maximumLength}"
  let sha256 ← decodeDigest raw.sha256 s!"{text spec.path} SHA-256"
  pure ⟨raw.length, sha256⟩

def authenticateArtifactInventory :
    List RawArtifactIdentityV1 → Except String AuthenticatedArtifactInventoryV1
  | [applicationPayload, chainDomainId, expectedClaim, contractId, journalDigest, outputDigest,
      postDigest, profileId, programId, proposition, statement] => do
    let applicationPayload ← authenticateArtifact applicationPayload .applicationPayload
    let chainDomainId ← authenticateArtifact chainDomainId .chainDomainId
    let expectedClaim ← authenticateArtifact expectedClaim .expectedClaim
    let contractId ← authenticateArtifact contractId .contractId
    let journalDigest ← authenticateArtifact journalDigest .journalDigest
    let outputDigest ← authenticateArtifact outputDigest .outputDigest
    let postDigest ← authenticateArtifact postDigest .postDigest
    let profileId ← authenticateArtifact profileId .profileId
    let programId ← authenticateArtifact programId .programId
    let proposition ← authenticateArtifact proposition .proposition
    let statement ← authenticateArtifact statement .statement
    pure ⟨applicationPayload, chainDomainId, expectedClaim, contractId, journalDigest, outputDigest,
      postDigest, profileId, programId, proposition, statement⟩
  | _ => .error "invalid length"

variable (sha256 : Bytes → Digest)

def bindRawDigestArtifact (artifact : ArtifactBindingV1) (digest : Digest) (label : String) :
    Except String Unit :=
  ensure (artifact.sha256 = sha256 digest.val)
    s!"{label} raw digest artifact SHA-256 differs from its decoded scalar"

def bindRawDigestArtifacts (artifacts : AuthenticatedArtifactInventoryV1)
    (chainDomainId profileId programId contractId : Digest) (claim : ReceiptClaimDigests) :
    Except String Unit := do
  bindRawDigestArtifact sha256 artifacts.chainDomainId chainDomainId "chain-domain ID"
  bindRawDigestArtifact sha256 artifacts.profileId profileId "profile ID"
  bindRawDigestArtifact sha256 artifacts.programId programId "program ID"
  bindRawDigestArtifact sha256 artifacts.contractId contractId "contract ID"
  bindRawDigestArtifact sha256 artifacts.expectedClaim claim.expectedClaim "expected claim"
  bindRawDigestArtifact sha256 artifacts.journalDigest claim.journalDigest "journal digest"
  bindRawDigestArtifact sha256 artifacts.outputDigest claim.output "output digest"
  bindRawDigestArtifact sha256 artifacts.postDigest claim.post "post digest"

namespace StatementBundleManifestV1

/-- The checks of a manifest that has been read. -/
def ofRaw (raw : RawStatementManifestV1) : Except String StatementBundleManifestV1 := do
  ensure (raw.format = statementBundleFormat) "statement-bundle manifest format is not exact"
  ensure (raw.formatVersion = statementBundleFormatVersion)
    "statement-bundle manifest format version is not V1"
  ensure (raw.statement.domainHex = Hex.encode ergoStatementDomain)
    "statement-bundle statement domain is not exact"
  ensure (raw.statement.version = bundledStatementVersion)
    "statement-bundle statement version is not V1"
  let artifacts ← authenticateArtifactInventory raw.artifacts
  let chainDomainId ← decodeDigest raw.statement.chainDomainId "statement-bundle chain-domain ID"
  let profileId ← decodeDigest raw.statement.profileId "statement-bundle profile ID"
  let programId ← decodeDigest raw.statement.programId "statement-bundle program ID"
  let contractId ← decodeDigest raw.statement.contractId "statement-bundle contract ID"
  let expectedClaim ← decodeDigest raw.claim.expectedClaim "statement-bundle expected claim"
  let journalDigest ← decodeDigest raw.claim.journalDigest "statement-bundle journal digest"
  let output ← decodeDigest raw.claim.output "statement-bundle output digest"
  let post ← decodeDigest raw.claim.post "statement-bundle post digest"
  let claim : ReceiptClaimDigests := ⟨journalDigest, post, output, expectedClaim⟩
  let statementSha256 ← decodeDigest raw.statement.statementSha256
    "statement-bundle statement SHA-256"
  ensure (artifacts.applicationPayload.length = raw.statement.applicationPayloadLength)
    "application-payload artifact length differs from the statement scalar"
  ensure (artifacts.proposition.length = raw.statement.propositionBytesLength)
    "proposition artifact length differs from the statement scalar"
  ensure (artifacts.statement.length = raw.statement.statementLength)
    "statement artifact length differs from the statement scalar"
  ensure (artifacts.statement.sha256 = statementSha256)
    "statement artifact SHA-256 differs from the statement scalar"
  let derivedStatementLength ← context "statement length arithmetic overflowed"
    (checkedAdd statementPrefixBytes raw.statement.applicationPayloadLength)
  ensure (raw.statement.statementLength = derivedStatementLength)
    "statement length is inconsistent with its application-payload length"
  ensure (claim.journalDigest = statementSha256)
    "journal digest differs from the exact statement SHA-256"
  bindRawDigestArtifacts sha256 artifacts chainDomainId profileId programId contractId claim
  pure ⟨artifacts.applicationPayload, chainDomainId, profileId, programId, contractId,
    artifacts.proposition, artifacts.statement, claim⟩

def fromCanonicalJcs (codec : Codec) (source : Bytes) : Except String StatementBundleManifestV1 := do
  ensure (source.length ≤ maxManifestBytes)
    s!"statement-bundle manifest has {source.length} bytes, maximum is {maxManifestBytes}"
  let value ← mapError "statement-bundle manifest is not exact RFC 8785 JCS"
    (codec.validateCanonicalJsonSource source)
  let raw ← mapError "statement-bundle manifest has an invalid closed shape" (readManifest value)
  ofRaw sha256 raw

end StatementBundleManifestV1

structure AuthenticatedStatementV1 where
  statement : ErgoStatementV1
  claim : ReceiptClaimDigests

variable (U : Upstream)

def StatementBundleManifestV1.authenticateStatement (manifest : StatementBundleManifestV1)
    (source : Bytes) : Except (Fault String) AuthenticatedStatementV1 := do
  let statement ← mapFault (fun _ => "statement-bundle statement is not strict ErgoStatementV1")
    (parseErgoStatementV1 source)
  let encoded ← statement.encode
  report <| ensure (encoded = source) "statement-bundle statement decode/re-encode changed bytes"
  report <| ensure (source.length = manifest.statement.length)
    "statement bytes differ from the manifest length"
  report <| ensure (U.sha256 source = manifest.statement.sha256)
    "statement bytes differ from the manifest SHA-256"
  report <| ensure (statement.chainDomainId = manifest.chainDomainId)
    "statement chain-domain ID differs from the manifest"
  report <| ensure (statement.profileId = manifest.profileId)
    "statement profile ID differs from the manifest"
  report <| ensure (statement.programId = manifest.programId)
    "statement program ID differs from the manifest"
  report <| ensure (statement.contractId = manifest.contractId)
    "statement contract ID differs from the manifest"
  report <| ensure (statement.applicationPayload.length = manifest.applicationPayload.length)
    "statement application-payload length differs from the manifest"
  report <| ensure (U.sha256 statement.applicationPayload = manifest.applicationPayload.sha256)
    "statement application-payload SHA-256 differs from the manifest"
  let claim ← report <| mapError "cannot derive the statement-bundle successful receipt claim"
    (okReceiptClaimDigests U statement.programId.val source)
  report <| ensure (claim = manifest.claim)
    "statement-derived receipt claim differs from the manifest"
  pure ⟨statement, claim⟩

end Reader

end Eip0045.Statement
