import Eip0045.Statement.BundleManifest

/-! The records of a bundle manifest as they are read from objects, and what an array in place of an
object leaves open. -/

namespace Eip0045.Statement

open Bytes Checked Constants CanonicalJson Jcs Receipt

section Leaves

variable {members : List (Bytes × Json)}

lemma names_checked :
    ([artifactNames, claimNames, statementNames, manifestNames].all fun names => ascending names) = true ∧
      (artifactNames.all fun key => plainCodes key && Nat.ble key.length 6) = true ∧
      (claimNames.all fun key => plainCodes key && Nat.ble key.length 13) = true ∧
      (statementNames.all fun key => plainCodes key && Nat.ble key.length 25) = true ∧
      (manifestNames.all fun key => plainCodes key && Nat.ble key.length 13) = true := by
  decide

lemma names_increasing : ∀ names ∈ [artifactNames, claimNames, statementNames, manifestNames],
    names.Pairwise (· < ·) :=
  fun names hnames => increasing_of_ascending (List.all_eq_true.mp names_checked.1 names hnames)

lemma artifact_keys (raw : RawArtifactIdentityV1) : (raw.fields.map Prod.fst).Pairwise (· < ·) := by
  simp only [RawArtifactIdentityV1.fields, List.map_cons, List.map_nil]
  exact names_increasing artifactNames (by simp)

lemma claim_keys (raw : RawClaimIdentityV1) : (raw.fields.map Prod.fst).Pairwise (· < ·) := by
  simp only [RawClaimIdentityV1.fields, List.map_cons, List.map_nil]
  exact names_increasing claimNames (by simp)

lemma statement_keys (raw : RawStatementIdentityV1) : (raw.fields.map Prod.fst).Pairwise (· < ·) := by
  simp only [RawStatementIdentityV1.fields, List.map_cons, List.map_nil]
  exact names_increasing statementNames (by simp)

lemma manifest_keys (raw : RawStatementManifestV1) : (raw.fields.map Prod.fst).Pairwise (· < ·) := by
  simp only [RawStatementManifestV1.fields, List.map_cons, List.map_nil]
  exact names_increasing manifestNames (by simp)

lemma readArtifact_object {raw : RawArtifactIdentityV1}
    (hsorted : (members.map Prod.fst).Pairwise (· < ·)) : readArtifact (.object members) = .ok raw ↔
      members = ofMembers raw.fields ∧ raw.length < 2 ^ 64 := by
  simp only [readArtifact, bind_ok, exists_unit, closed_object, member_object_ok, readString_ok,
    readUnsigned_ok, pure_ok]
  constructor
  · rintro ⟨hclosed, length, ⟨_, hlength, rfl, hbound⟩, path, ⟨_, hpath, rfl⟩, role, ⟨_, hrole, rfl⟩,
      sha256, ⟨_, hsha256, rfl⟩, rfl⟩
    refine ⟨members_eq hsorted (artifact_keys _) hclosed ?_, hbound⟩
    simp only [RawArtifactIdentityV1.fields, List.forall_mem_cons]
    exact ⟨hlength, hpath, hrole, hsha256, by simp⟩
  · rintro ⟨rfl, hbound⟩
    have hstring : ∀ name text, (name, .string text) ∈ raw.fields →
        (ofMembers raw.fields).lookup name = some (.string text) :=
      fun _ _ => lookup_ofMembers (artifact_keys raw)
    have hnumber : ∀ name n, (name, .number n) ∈ raw.fields →
        (ofMembers raw.fields).lookup name = some (.unsigned n) :=
      fun _ _ => lookup_ofMembers (artifact_keys raw)
    refine ⟨closed_ofMembers (fun _ h => h), raw.length, ⟨_, hnumber _ _ ?_, rfl, hbound⟩, raw.path,
      ⟨_, hstring _ _ ?_, rfl⟩, raw.role, ⟨_, hstring _ _ ?_, rfl⟩, raw.sha256,
      ⟨_, hstring _ _ ?_, rfl⟩, rfl⟩ <;> simp [RawArtifactIdentityV1.fields]

lemma readClaim_object {raw : RawClaimIdentityV1}
    (hsorted : (members.map Prod.fst).Pairwise (· < ·)) : readClaim (.object members) = .ok raw ↔
      members = ofMembers raw.fields := by
  simp only [readClaim, bind_ok, exists_unit, closed_object, member_object_ok, readString_ok, pure_ok]
  constructor
  · rintro ⟨hclosed, expectedClaim, ⟨_, hexpected, rfl⟩, journalDigest, ⟨_, hjournal, rfl⟩, output,
      ⟨_, houtput, rfl⟩, post, ⟨_, hpost, rfl⟩, rfl⟩
    refine members_eq hsorted (claim_keys _) hclosed ?_
    simp only [RawClaimIdentityV1.fields, List.forall_mem_cons]
    exact ⟨hexpected, hjournal, houtput, hpost, by simp⟩
  · rintro rfl
    have hstring : ∀ name text, (name, .string text) ∈ raw.fields →
        (ofMembers raw.fields).lookup name = some (.string text) :=
      fun _ _ => lookup_ofMembers (claim_keys raw)
    refine ⟨closed_ofMembers (fun _ h => h), raw.expectedClaim, ⟨_, hstring _ _ ?_, rfl⟩,
      raw.journalDigest, ⟨_, hstring _ _ ?_, rfl⟩, raw.output, ⟨_, hstring _ _ ?_, rfl⟩, raw.post,
      ⟨_, hstring _ _ ?_, rfl⟩, rfl⟩ <;> simp [RawClaimIdentityV1.fields]

/-- The numbers of a statement record are of their types. -/
structure RawStatementIdentityV1.Bounded (raw : RawStatementIdentityV1) : Prop where
  payload : raw.applicationPayloadLength < 2 ^ 64
  proposition : raw.propositionBytesLength < 2 ^ 64
  statement : raw.statementLength < 2 ^ 64
  version : raw.version < 2 ^ 8

lemma readStatement_object {raw : RawStatementIdentityV1}
    (hsorted : (members.map Prod.fst).Pairwise (· < ·)) : readStatement (.object members) = .ok raw ↔
      members = ofMembers raw.fields ∧ raw.Bounded := by
  simp only [readStatement, bind_ok, exists_unit, closed_object, member_object_ok, readString_ok,
    readUnsigned_ok, pure_ok]
  constructor
  · rintro ⟨hclosed, _, ⟨_, hpayload, rfl, hpayloadBound⟩, _, ⟨_, hchain, rfl⟩, _, ⟨_, hcontract, rfl⟩,
      _, ⟨_, hdomain, rfl⟩, _, ⟨_, hprofile, rfl⟩, _, ⟨_, hprogram, rfl⟩, _,
      ⟨_, hproposition, rfl, hpropositionBound⟩, _, ⟨_, hstatement, rfl, hstatementBound⟩, _,
      ⟨_, hsha256, rfl⟩, _, ⟨_, hversion, rfl, hversionBound⟩, rfl⟩
    refine ⟨members_eq hsorted (statement_keys _) hclosed ?_,
      ⟨hpayloadBound, hpropositionBound, hstatementBound, hversionBound⟩⟩
    simp only [RawStatementIdentityV1.fields, List.forall_mem_cons]
    exact ⟨hpayload, hchain, hcontract, hdomain, hprofile, hprogram, hproposition, hstatement, hsha256,
      hversion, by simp⟩
  · rintro ⟨rfl, hbounds⟩
    have hstring : ∀ name text, (name, .string text) ∈ raw.fields →
        (ofMembers raw.fields).lookup name = some (.string text) :=
      fun _ _ => lookup_ofMembers (statement_keys raw)
    have hnumber : ∀ name n, (name, .number n) ∈ raw.fields →
        (ofMembers raw.fields).lookup name = some (.unsigned n) :=
      fun _ _ => lookup_ofMembers (statement_keys raw)
    refine ⟨closed_ofMembers (fun _ h => h), raw.applicationPayloadLength,
      ⟨_, hnumber _ _ ?_, rfl, hbounds.payload⟩, raw.chainDomainId, ⟨_, hstring _ _ ?_, rfl⟩,
      raw.contractId, ⟨_, hstring _ _ ?_, rfl⟩, raw.domainHex, ⟨_, hstring _ _ ?_, rfl⟩,
      raw.profileId, ⟨_, hstring _ _ ?_, rfl⟩, raw.programId, ⟨_, hstring _ _ ?_, rfl⟩,
      raw.propositionBytesLength, ⟨_, hnumber _ _ ?_, rfl, hbounds.proposition⟩,
      raw.statementLength, ⟨_, hnumber _ _ ?_, rfl, hbounds.statement⟩, raw.statementSha256,
      ⟨_, hstring _ _ ?_, rfl⟩, raw.version, ⟨_, hnumber _ _ ?_, rfl, hbounds.version⟩, rfl⟩ <;>
      simp [RawStatementIdentityV1.fields]

end Leaves

section Manifest

variable {value : Json} {raw : RawStatementManifestV1} {items : List Json}
  {raws : List RawArtifactIdentityV1}

/-- A manifest has an object wherever its grammar has a structure. -/
structure Structured (value : Json) : Prop where
  manifest : IsObject value
  claim : ∀ item, member manifestNames value (utf8 "claim") = .ok item → IsObject item
  statement : ∀ item, member manifestNames value (utf8 "statement") = .ok item → IsObject item
  artifacts : ∀ items, member manifestNames value (utf8 "artifacts") = .ok (.array items) →
    ∀ item ∈ items, IsObject item

def artifactValue (raw : RawArtifactIdentityV1) : JsonValue := .object raw.fields

lemma readArtifacts_objects (hsorted : ∀ item ∈ items, item.Sorted)
    (hobjects : ∀ item ∈ items, IsObject item) : readArtifacts (.array items) = .ok raws ↔
      items = (raws.map artifactValue).map ofValue ∧ (∀ raw ∈ raws, raw.length < 2 ^ 64) ∧
        raws.length = 11 := by
  simp only [readArtifacts, readArray, bind_ok, exists_unit, ensure_ok, pure_ok]
  have hitem : ∀ item ∈ items, ∀ raw, readArtifact item = .ok raw ↔
      item = ofValue (artifactValue raw) ∧ raw.length < 2 ^ 64 := by
    intro item hmem raw
    obtain ⟨members, rfl⟩ := hobjects item hmem
    rw [readArtifact_object (sorted_object (hsorted _ hmem)).1, artifactValue, ofValue, Json.object.injEq]
  constructor
  · rintro ⟨_, hread, hlength, rfl⟩
    rw [mapM_forall₂] at hread
    refine ⟨?_, ?_, hlength⟩
    · rw [List.map_map]
      clear hlength
      induction hread with
      | nil => rfl
      | cons hfirst _ ih =>
        rw [List.forall_mem_cons] at hsorted hobjects hitem
        rw [List.map_cons, ← ih hsorted.2 hobjects.2 hitem.2, ((hitem.1 _).mp hfirst).1]
        rfl
    · clear hlength
      induction hread with
      | nil => simp
      | cons hfirst _ ih =>
        rw [List.forall_mem_cons] at hsorted hobjects hitem
        exact List.forall_mem_cons.mpr ⟨((hitem.1 _).mp hfirst).2, ih hsorted.2 hobjects.2 hitem.2⟩
  · rintro ⟨rfl, hbounds, hlength⟩
    refine ⟨raws, ?_, hlength, rfl⟩
    rw [mapM_forall₂, List.map_map, List.forall₂_map_left_iff, List.forall₂_same]
    intro raw hraw
    refine (hitem _ ?_ raw).mpr ⟨rfl, hbounds raw hraw⟩
    exact List.mem_map_of_mem (List.mem_map_of_mem hraw)

/-- The numbers of a manifest are of their types, and its artifacts eleven. -/
structure RawStatementManifestV1.Bounded (raw : RawStatementManifestV1) : Prop where
  artifacts : ∀ artifact ∈ raw.artifacts, artifact.length < 2 ^ 64
  count : raw.artifacts.length = 11
  format : raw.formatVersion < 2 ^ 8
  statement : raw.statement.Bounded

lemma manifest_fields_eq (raw : RawStatementManifestV1) : raw.fields = [
    (utf8 "artifacts", .array (raw.artifacts.map artifactValue)),
    (utf8 "claim", .object raw.claim.fields), (utf8 "format", .string raw.format),
    (utf8 "formatVersion", .number raw.formatVersion),
    (utf8 "statement", .object raw.statement.fields)] := rfl

lemma member_manifest {name : Bytes} {v : JsonValue} (hmem : (name, v) ∈ raw.fields) :
    member manifestNames (ofValue raw.toValue) name = .ok (ofValue v) :=
  context_ok.mpr (lookup_ofMembers (manifest_keys raw) hmem)

lemma structured_iff (hsorted : value.Sorted) (hread : readManifest value = .ok raw) :
    Structured value ↔ value = ofValue raw.toValue := by
  constructor
  · intro h
    obtain ⟨members, rfl⟩ := h.manifest
    obtain ⟨hkeys, hvalues⟩ := sorted_object hsorted
    simp only [readManifest, bind_ok, exists_unit, closed_object, pure_ok, readString_ok,
      readUnsigned_ok] at hread
    obtain ⟨hclosed, artifacts, ⟨artifactsValue, hartifacts, hreadArtifacts⟩, claim,
      ⟨claimValue, hclaim, hreadClaim⟩, format, ⟨_, hformat, rfl⟩, formatVersion,
      ⟨_, hversion, rfl, -⟩, statement, ⟨statementValue, hstatement, hreadStatement⟩, rfl⟩ := hread
    have hmember : ∀ {name item}, member manifestNames (.object members) name = .ok item →
        item.Sorted := fun hitem =>
      hvalues _ (Keyed.mem_of_lookup (member_object_ok.mp hitem))
    obtain ⟨claimMembers, rfl⟩ := h.claim _ hclaim
    obtain ⟨statementMembers, rfl⟩ := h.statement _ hstatement
    rw [readClaim_object (sorted_object (hmember hclaim)).1] at hreadClaim
    rw [readStatement_object (sorted_object (hmember hstatement)).1] at hreadStatement
    cases artifactsValue with
    | array items =>
      rw [readArtifacts_objects (sorted_array (hmember hartifacts)) (h.artifacts _ hartifacts)]
        at hreadArtifacts
      rw [RawStatementManifestV1.toValue, ofValue, Json.object.injEq]
      refine members_eq hkeys (manifest_keys _) hclosed ?_
      simp only [manifest_fields_eq, List.forall_mem_cons]
      refine ⟨?_, ?_, member_object_ok.mp hformat, member_object_ok.mp hversion, ?_, by simp⟩
      · rw [member_object_ok.mp hartifacts, ofValue, ofItems_eq, hreadArtifacts.1]
      · rw [member_object_ok.mp hclaim, ofValue, hreadClaim]
      · rw [member_object_ok.mp hstatement, ofValue, hreadStatement.1]
    | _ => simp [readArtifacts, readArray] at hreadArtifacts
  · intro h
    rw [h]
    refine ⟨⟨_, rfl⟩, ?_, ?_, ?_⟩
    · intro item hitem
      rw [member_manifest (v := .object raw.claim.fields) (by simp [manifest_fields_eq]),
        Except.ok.injEq] at hitem
      exact ⟨_, hitem.symm⟩
    · intro item hitem
      rw [member_manifest (v := .object raw.statement.fields) (by simp [manifest_fields_eq]),
        Except.ok.injEq] at hitem
      exact ⟨_, hitem.symm⟩
    · intro items hitems
      rw [member_manifest (v := .array (raw.artifacts.map artifactValue))
        (by simp [manifest_fields_eq]), ofValue, ofItems_eq, Except.ok.injEq, Json.array.injEq] at hitems
      subst hitems
      intro item hitem
      obtain ⟨_, hmem, rfl⟩ := List.mem_map.mp hitem
      obtain ⟨artifact, -, rfl⟩ := List.mem_map.mp hmem
      exact ⟨_, rfl⟩

lemma readManifest_toValue (h : raw.Bounded) (hsorted : (ofValue raw.toValue).Sorted) :
    readManifest (ofValue raw.toValue) = .ok raw := by
  obtain ⟨-, hvalues⟩ := sorted_object hsorted
  have hmember : ∀ {name v}, (name, v) ∈ raw.fields → (ofValue v).Sorted := fun hmem =>
    hvalues _ (Keyed.mem_of_lookup (lookup_ofMembers (manifest_keys raw) hmem))
  have hartifacts : (utf8 "artifacts", JsonValue.array (raw.artifacts.map artifactValue)) ∈ raw.fields := by
    simp [manifest_fields_eq]
  have hclaim : (utf8 "claim", JsonValue.object raw.claim.fields) ∈ raw.fields := by
    simp [manifest_fields_eq]
  have hstatement : (utf8 "statement", JsonValue.object raw.statement.fields) ∈ raw.fields := by
    simp [manifest_fields_eq]
  simp only [readManifest, bind_ok, exists_unit, pure_ok, readString_ok, readUnsigned_ok]
  refine ⟨closed_object.mpr (closed_ofMembers fun _ hkey => hkey), raw.artifacts,
    ⟨_, member_manifest hartifacts, ?_⟩, raw.claim, ⟨_, member_manifest hclaim, ?_⟩, raw.format,
    ⟨_, member_manifest (v := .string raw.format) (by simp [manifest_fields_eq]), rfl⟩,
    raw.formatVersion, ⟨_, member_manifest (v := .number raw.formatVersion)
      (by simp [manifest_fields_eq]), rfl, h.format⟩, raw.statement,
    ⟨_, member_manifest hstatement, ?_⟩, rfl⟩
  · have hsortedItems := hmember hartifacts
    rw [ofValue, ofItems_eq] at hsortedItems ⊢
    refine (readArtifacts_objects (sorted_array hsortedItems) ?_).mpr ⟨rfl, h.artifacts, h.count⟩
    intro item hitem
    obtain ⟨_, hmem, rfl⟩ := List.mem_map.mp hitem
    obtain ⟨artifact, -, rfl⟩ := List.mem_map.mp hmem
    exact ⟨_, rfl⟩
  · exact (readClaim_object (sorted_object (hmember hclaim)).1).mpr rfl
  · exact (readStatement_object (sorted_object (hmember hstatement)).1).mpr ⟨rfl, h.statement⟩

end Manifest

end Eip0045.Statement
