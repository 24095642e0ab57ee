import Eip0045.Library.JcsReference
import Eip0045.Statement.Agreement
import Eip0045.Statement.BundleRecords

/-! A bundle manifest is the one that the generator renders for its statement, when it is structured. -/

namespace Eip0045.Statement

open Bytes Checked Constants CanonicalJson Jcs Receipt
open RecursiveAncestry (validateLowerHexExact)

section Artifacts

variable {value : Bytes} {label : String} {digest : Digest}

lemma decodeDigest_ok : decodeDigest value label = .ok digest ↔ value = Hex.encode digest.val := by
  have hmul : checkedMul digestBytes 2 = some 64 := by decide
  simp only [decodeDigest, validateLowerHexExact, hmul, bind_ok, exists_unit, mapError_ok, context_ok,
    ensure_ok, Option.some.injEq, exists_eq_left', List.all_eq_true, decide_eq_true_eq]
  constructor
  · rintro ⟨⟨hlength, hlower⟩, decoded, hdecoded, hdigest⟩
    obtain ⟨bytes, hbytes, -, hencode⟩ := Hex.encode_decode hlower (n := 32) hlength
    rw [hdecoded, Option.some.injEq] at hbytes
    rw [← hencode, ← hbytes, ByteArr.ofBytes_eq_some.mp (context_ok.mp hdigest)]
  · rintro rfl
    refine ⟨⟨?_, Hex.encode_isLower _⟩, _, Hex.decode_encode _, context_ok.mpr (ByteArr.ofBytes_val _)⟩
    rw [Hex.encode_length, ByteArr.val_length]

/-- The record of an artifact under its specification. -/
def ArtifactSpec.raw (spec : ArtifactSpec) (binding : ArtifactBindingV1) : RawArtifactIdentityV1 :=
  ⟨binding.length, spec.path, spec.role, Hex.encode binding.sha256.val⟩

def ArtifactSpec.Admits (spec : ArtifactSpec) (binding : ArtifactBindingV1) : Prop :=
  spec.minimumLength ≤ binding.length ∧ binding.length ≤ spec.maximumLength

variable {given : RawArtifactIdentityV1} {spec : ArtifactSpec} {binding : ArtifactBindingV1}

lemma authenticateArtifact_ok : authenticateArtifact given spec = .ok binding ↔
    given = spec.raw binding ∧ spec.Admits binding := by
  simp only [authenticateArtifact, bind_ok, exists_unit, ensure_ok, decodeDigest_ok, pure_ok]
  obtain ⟨length, path, role, sha256⟩ := given
  constructor
  · rintro ⟨rfl, rfl, hlength, digest, rfl, rfl⟩
    exact ⟨rfl, hlength⟩
  · rintro ⟨hraw, hadmits⟩
    cases hraw
    exact ⟨rfl, rfl, hadmits, binding.sha256, rfl, rfl⟩

def AuthenticatedArtifactInventoryV1.raw (inventory : AuthenticatedArtifactInventoryV1) :
    List RawArtifactIdentityV1 := [
  ArtifactSpec.applicationPayload.raw inventory.applicationPayload,
  ArtifactSpec.chainDomainId.raw inventory.chainDomainId,
  ArtifactSpec.expectedClaim.raw inventory.expectedClaim,
  ArtifactSpec.contractId.raw inventory.contractId,
  ArtifactSpec.journalDigest.raw inventory.journalDigest,
  ArtifactSpec.outputDigest.raw inventory.outputDigest,
  ArtifactSpec.postDigest.raw inventory.postDigest,
  ArtifactSpec.profileId.raw inventory.profileId,
  ArtifactSpec.programId.raw inventory.programId,
  ArtifactSpec.proposition.raw inventory.proposition,
  ArtifactSpec.statement.raw inventory.statement]

/-- The lengths of an inventory are those of its specifications. -/
structure AuthenticatedArtifactInventoryV1.Admitted (inventory : AuthenticatedArtifactInventoryV1) :
    Prop where
  applicationPayload : ArtifactSpec.applicationPayload.Admits inventory.applicationPayload
  chainDomainId : inventory.chainDomainId.length = 32
  expectedClaim : inventory.expectedClaim.length = 32
  contractId : inventory.contractId.length = 32
  journalDigest : inventory.journalDigest.length = 32
  outputDigest : inventory.outputDigest.length = 32
  postDigest : inventory.postDigest.length = 32
  profileId : inventory.profileId.length = 32
  programId : inventory.programId.length = 32
  proposition : ArtifactSpec.proposition.Admits inventory.proposition
  statement : ArtifactSpec.statement.Admits inventory.statement

lemma admits_digest {path role : String} :
    (ArtifactSpec.digest path role).Admits binding ↔ binding.length = 32 := by
  change 32 ≤ binding.length ∧ binding.length ≤ 32 ↔ _
  omega

lemma authenticateArtifactInventory_ok {raws : List RawArtifactIdentityV1}
    {inventory : AuthenticatedArtifactInventoryV1} :
    authenticateArtifactInventory raws = .ok inventory ↔
      raws = inventory.raw ∧ inventory.Admitted := by
  constructor
  · intro h
    rw [authenticateArtifactInventory.eq_def] at h
    split at h
    · simp only [bind_ok, authenticateArtifact_ok, pure_ok] at h
      obtain ⟨_, ⟨rfl, h₁⟩, _, ⟨rfl, h₂⟩, _, ⟨rfl, h₃⟩, _, ⟨rfl, h₄⟩, _, ⟨rfl, h₅⟩, _, ⟨rfl, h₆⟩, _,
        ⟨rfl, h₇⟩, _, ⟨rfl, h₈⟩, _, ⟨rfl, h₉⟩, _, ⟨rfl, h₁₀⟩, _, ⟨rfl, h₁₁⟩, rfl⟩ := h
      exact ⟨rfl, h₁, admits_digest.mp h₂, admits_digest.mp h₃, admits_digest.mp h₄,
        admits_digest.mp h₅, admits_digest.mp h₆, admits_digest.mp h₇, admits_digest.mp h₈,
        admits_digest.mp h₉, h₁₀, h₁₁⟩
    · cases h
  · rintro ⟨rfl, h⟩
    simp only [AuthenticatedArtifactInventoryV1.raw, authenticateArtifactInventory, bind_ok,
      authenticateArtifact_ok, pure_ok]
    exact ⟨_, ⟨rfl, h.applicationPayload⟩, _, ⟨rfl, admits_digest.mpr h.chainDomainId⟩, _,
      ⟨rfl, admits_digest.mpr h.expectedClaim⟩, _, ⟨rfl, admits_digest.mpr h.contractId⟩, _,
      ⟨rfl, admits_digest.mpr h.journalDigest⟩, _, ⟨rfl, admits_digest.mpr h.outputDigest⟩, _,
      ⟨rfl, admits_digest.mpr h.postDigest⟩, _, ⟨rfl, admits_digest.mpr h.profileId⟩, _,
      ⟨rfl, admits_digest.mpr h.programId⟩, _, ⟨rfl, h.proposition⟩, _, ⟨rfl, h.statement⟩, rfl⟩

end Artifacts

section Manifests

variable (sha256 : Bytes → Digest)

def digestBinding (digest : Digest) : ArtifactBindingV1 := ⟨32, sha256 digest.val⟩

namespace StatementBundleManifestV1

def inventory (m : StatementBundleManifestV1) : AuthenticatedArtifactInventoryV1 where
  applicationPayload := m.applicationPayload
  chainDomainId := digestBinding sha256 m.chainDomainId
  expectedClaim := digestBinding sha256 m.claim.expectedClaim
  contractId := digestBinding sha256 m.contractId
  journalDigest := digestBinding sha256 m.claim.journalDigest
  outputDigest := digestBinding sha256 m.claim.output
  postDigest := digestBinding sha256 m.claim.post
  profileId := digestBinding sha256 m.profileId
  programId := digestBinding sha256 m.programId
  proposition := m.proposition
  statement := m.statement

/-- The record that a manifest has been read from. -/
def raw (m : StatementBundleManifestV1) : RawStatementManifestV1 where
  artifacts := (m.inventory sha256).raw
  claim := ⟨Hex.encode m.claim.expectedClaim.val, Hex.encode m.claim.journalDigest.val,
    Hex.encode m.claim.output.val, Hex.encode m.claim.post.val⟩
  format := statementBundleFormat
  formatVersion := statementBundleFormatVersion
  statement := ⟨m.applicationPayload.length, Hex.encode m.chainDomainId.val,
    Hex.encode m.contractId.val, Hex.encode ergoStatementDomain, Hex.encode m.profileId.val,
    Hex.encode m.programId.val, m.proposition.length, m.statement.length,
    Hex.encode m.statement.sha256.val, bundledStatementVersion⟩

structure Consistent (m : StatementBundleManifestV1) : Prop where
  applicationPayload : m.applicationPayload.length ≤ 16384
  proposition : 1 ≤ m.proposition.length ∧ m.proposition.length ≤ 4096
  statement : m.statement.length = 159 + m.applicationPayload.length
  journal : m.claim.journalDigest = m.statement.sha256

end StatementBundleManifestV1

variable {sha256} {given : RawStatementManifestV1} {m : StatementBundleManifestV1}

lemma bindRawDigestArtifacts_ok {artifacts : AuthenticatedArtifactInventoryV1}
    {chainDomainId profileId programId contractId : Digest} {claim : ReceiptClaimDigests} :
    bindRawDigestArtifacts sha256 artifacts chainDomainId profileId programId contractId claim = .ok () ↔
      artifacts.chainDomainId.sha256 = sha256 chainDomainId.val ∧
      artifacts.profileId.sha256 = sha256 profileId.val ∧
      artifacts.programId.sha256 = sha256 programId.val ∧
      artifacts.contractId.sha256 = sha256 contractId.val ∧
      artifacts.expectedClaim.sha256 = sha256 claim.expectedClaim.val ∧
      artifacts.journalDigest.sha256 = sha256 claim.journalDigest.val ∧
      artifacts.outputDigest.sha256 = sha256 claim.output.val ∧
      artifacts.postDigest.sha256 = sha256 claim.post.val := by
  simp only [bindRawDigestArtifacts, bindRawDigestArtifact, bind_ok, exists_unit, ensure_ok]

lemma ofRaw_ok : StatementBundleManifestV1.ofRaw sha256 given = .ok m ↔
    given = m.raw sha256 ∧ m.Consistent := by
  simp only [StatementBundleManifestV1.ofRaw, bind_ok, exists_unit, ensure_ok, decodeDigest_ok,
    authenticateArtifactInventory_ok, context_ok, checkedAdd_eq_some, bindRawDigestArtifacts_ok, pure_ok]
  obtain ⟨artifacts, ⟨expectedClaim, journalDigest, output, post⟩, format, formatVersion,
    ⟨applicationPayloadLength, chainDomainId, contractId, domainHex, profileId, programId,
      propositionBytesLength, statementLength, statementSha256, version⟩⟩ := given
  constructor
  · rintro ⟨rfl, rfl, rfl, rfl, ⟨b₁, ⟨l₂, s₂⟩, ⟨l₃, s₃⟩, ⟨l₄, s₄⟩, ⟨l₅, s₅⟩, ⟨l₆, s₆⟩, ⟨l₇, s₇⟩,
      ⟨l₈, s₈⟩, ⟨l₉, s₉⟩, b₁₀, b₁₁⟩, ⟨rfl, hadmitted⟩, chain, rfl, profile, rfl, program, rfl, contract,
      rfl, expected, rfl, journal, rfl, out, rfl, po, rfl, digest, rfl, hpayload, hproposition,
      hstatement, hdigest, derived, ⟨-, hsum⟩, hderived, hjournal,
      ⟨hc, hp, hg, ht, he, hj, ho, hpo⟩, rfl⟩
    have h₂ : l₂ = 32 := hadmitted.chainDomainId
    have h₃ : l₃ = 32 := hadmitted.expectedClaim
    have h₄ : l₄ = 32 := hadmitted.contractId
    have h₅ : l₅ = 32 := hadmitted.journalDigest
    have h₆ : l₆ = 32 := hadmitted.outputDigest
    have h₇ : l₇ = 32 := hadmitted.postDigest
    have h₈ : l₈ = 32 := hadmitted.profileId
    have h₉ : l₉ = 32 := hadmitted.programId
    dsimp only at hpayload hproposition hstatement hdigest hsum hderived hjournal hc hp hg ht he hj ho hpo
    subst hpayload hproposition hstatement hdigest hc hp hg ht he hj ho hpo h₂ h₃ h₄ h₅ h₆ h₇ h₈ h₉
    refine ⟨rfl, ⟨hadmitted.applicationPayload.2, hadmitted.proposition, ?_, hjournal⟩⟩
    rw [hderived, ← hsum]
    rfl
  · rintro ⟨hraw, hconsistent⟩
    cases hraw
    have hpayload := hconsistent.applicationPayload
    have hstatement := hconsistent.statement
    have hadmits : ArtifactSpec.statement.Admits m.statement := by
      change 159 ≤ m.statement.length ∧ m.statement.length ≤ 16543
      omega
    refine ⟨rfl, rfl, rfl, rfl, m.inventory sha256, ⟨rfl, ?_⟩, _, rfl, _, rfl, _, rfl, _, rfl, _, rfl,
      _, rfl, _, rfl, _, rfl, _, rfl, rfl, rfl, rfl, rfl, 159 + m.applicationPayload.length, ?_,
      hstatement, hconsistent.journal, ⟨rfl, rfl, rfl, rfl, rfl, rfl, rfl, rfl⟩, rfl⟩
    · exact ⟨⟨Nat.zero_le _, hpayload⟩, rfl, rfl, rfl, rfl, rfl, rfl, rfl, rfl, hconsistent.proposition,
        hadmits⟩
    · refine ⟨?_, rfl⟩
      change 159 + m.applicationPayload.length < 2 ^ 64
      omega

end Manifests

end Eip0045.Statement
