import Eip0045.Statement.BundleBinding

/-! The rendering of a consistent manifest is read back, and binds one statement. -/

namespace Eip0045.Statement

open Bytes Checked Constants CanonicalJson Jcs Receipt

section Rendering

variable {sha256 : Bytes → Digest} {m : StatementBundleManifestV1}

/-- A value that is written as it stands, in at most `bound` bytes. -/
def Short (bound : ℕ) (v : JsonValue) : Prop := Plain v ∧ (render v).length ≤ bound

lemma short_digest (digest : Digest) : Short 66 (.string (Hex.encode digest.val)) := by
  refine ⟨plainText_lower (Hex.encode_isLower _), ?_⟩
  rw [render, quoted_length, Hex.encode_length, ByteArr.val_length]

lemma short_text {text : Bytes} (h : PlainText text ∧ text.length ≤ 64) : Short 66 (.string text) := by
  refine ⟨h.1, ?_⟩
  rw [render, quoted_length]
  omega

lemma short_number {n : ℕ} (h : n ≤ 16543) : Short 66 (.number n) := by
  have hlength : (decimal n).length ≤ 5 := decimal_length (by decide) (by omega)
  exact ⟨show n < 2 ^ 53 by omega, hlength.trans (by decide)⟩

lemma short_object {fields : List (Bytes × JsonValue)} {n k b bound : ℕ} (hcount : fields.length = n)
    (hkeys : (fields.map Prod.fst).Pairwise (· < ·))
    (htexts : ∀ key ∈ fields.map Prod.fst, PlainText key ∧ key.length ≤ k)
    (h : ∀ field ∈ fields, Short b field.2) (hbound : n * (k + b + 4) + 2 ≤ bound) :
    Short bound (.object fields) := by
  subst hcount
  refine ⟨plain_object hkeys (fun key hkey => (htexts key hkey).1) fun field hfield => (h field hfield).1,
    (render_object_length_le ?_ fun field hfield => (h field hfield).2).trans hbound⟩
  intro field hfield
  exact (htexts _ (List.mem_map_of_mem hfield)).2

def artifactSpecs : List ArtifactSpec := [.applicationPayload, .chainDomainId, .expectedClaim,
  .contractId, .journalDigest, .outputDigest, .postDigest, .profileId, .programId, .proposition,
  .statement]

lemma texts_checked :
    ((artifactSpecs.map ArtifactSpec.path).all fun key => plainCodes key && Nat.ble key.length 64) = true ∧
      ((artifactSpecs.map ArtifactSpec.role).all fun key => plainCodes key && Nat.ble key.length 64) = true ∧
      (Hex.encode ergoStatementDomain).length ≤ 64 ∧ plainCodes statementBundleFormat = true ∧
      statementBundleFormat.length ≤ 64 := by
  decide

lemma artifactSpecs_plain : ∀ spec ∈ artifactSpecs,
    (PlainText spec.path ∧ spec.path.length ≤ 64) ∧ PlainText spec.role ∧ spec.role.length ≤ 64 := by
  have hpaths : ∀ path ∈ artifactSpecs.map ArtifactSpec.path, PlainText path ∧ path.length ≤ 64 :=
    plain_keys texts_checked.1
  have hroles : ∀ role ∈ artifactSpecs.map ArtifactSpec.role, PlainText role ∧ role.length ≤ 64 :=
    plain_keys texts_checked.2.1
  exact fun spec hspec => ⟨hpaths _ (List.mem_map_of_mem hspec), hroles _ (List.mem_map_of_mem hspec)⟩

lemma inventory_raw_specified {inventory : AuthenticatedArtifactInventoryV1} (h : inventory.Admitted) :
    ∀ given ∈ inventory.raw, ∃ spec ∈ artifactSpecs, ∃ binding : ArtifactBindingV1,
      given = spec.raw binding ∧ binding.length ≤ 16543 := by
  have hspec : ∀ spec : ArtifactSpec, spec ∈ artifactSpecs → ∀ binding : ArtifactBindingV1,
      binding.length ≤ 16543 → ∃ spec' ∈ artifactSpecs, ∃ binding' : ArtifactBindingV1,
        spec.raw binding = spec'.raw binding' ∧ binding'.length ≤ 16543 :=
    fun spec hspec binding hbinding => ⟨spec, hspec, binding, rfl, hbinding⟩
  have hpayload : inventory.applicationPayload.length ≤ 16384 := h.applicationPayload.2
  have hproposition : inventory.proposition.length ≤ 4096 := h.proposition.2
  have hstatement : inventory.statement.length ≤ 16543 := h.statement.2
  simp only [AuthenticatedArtifactInventoryV1.raw, List.forall_mem_cons]
  refine ⟨hspec _ ?_ _ (by omega), hspec _ ?_ _ (by rw [h.chainDomainId]; decide),
    hspec _ ?_ _ (by rw [h.expectedClaim]; decide), hspec _ ?_ _ (by rw [h.contractId]; decide),
    hspec _ ?_ _ (by rw [h.journalDigest]; decide), hspec _ ?_ _ (by rw [h.outputDigest]; decide),
    hspec _ ?_ _ (by rw [h.postDigest]; decide), hspec _ ?_ _ (by rw [h.profileId]; decide),
    hspec _ ?_ _ (by rw [h.programId]; decide), hspec _ ?_ _ (by omega), hspec _ ?_ _ hstatement,
    by simp⟩ <;> simp [artifactSpecs]

lemma short_artifact {spec : ArtifactSpec} (hspec : spec ∈ artifactSpecs) {binding : ArtifactBindingV1}
    (hbinding : binding.length ≤ 16543) : Short 306 (artifactValue (spec.raw binding)) := by
  obtain ⟨hpath, hrole⟩ := artifactSpecs_plain spec hspec
  have htexts : ∀ key ∈ (spec.raw binding).fields.map Prod.fst, PlainText key ∧ key.length ≤ 6 := by
    simp only [RawArtifactIdentityV1.fields, List.map_cons, List.map_nil]
    exact plain_keys names_checked.2.1
  refine short_object (n := 4) (b := 66) rfl (artifact_keys _) htexts ?_ (by decide)
  simp only [RawArtifactIdentityV1.fields, List.forall_mem_cons]
  exact ⟨short_number hbinding, short_text hpath, short_text hrole, short_digest _, by simp⟩

lemma admitted_inventory (h : m.Consistent) : (m.inventory sha256).Admitted := by
  have hpayload := h.applicationPayload
  have hstatement := h.statement
  refine ⟨⟨Nat.zero_le _, hpayload⟩, rfl, rfl, rfl, rfl, rfl, rfl, rfl, rfl, h.proposition, ?_⟩
  change 159 ≤ m.statement.length ∧ m.statement.length ≤ 16543
  omega

lemma short_claim (m : StatementBundleManifestV1) : Short 334 (.object (m.raw sha256).claim.fields) := by
  have htexts : ∀ key ∈ (m.raw sha256).claim.fields.map Prod.fst, PlainText key ∧ key.length ≤ 13 := by
    simp only [RawClaimIdentityV1.fields, List.map_cons, List.map_nil]
    exact plain_keys names_checked.2.2.1
  refine short_object (n := 4) (b := 66) rfl (claim_keys _) htexts ?_ (by decide)
  simp only [RawClaimIdentityV1.fields, List.forall_mem_cons]
  exact ⟨short_digest _, short_digest _, short_digest _, short_digest _, by simp⟩

lemma short_statement (h : m.Consistent) : Short 952 (.object (m.raw sha256).statement.fields) := by
  have hpayload := h.applicationPayload
  have hproposition := h.proposition
  have hstatement := h.statement
  have htexts : ∀ key ∈ (m.raw sha256).statement.fields.map Prod.fst,
      PlainText key ∧ key.length ≤ 25 := by
    simp only [RawStatementIdentityV1.fields, List.map_cons, List.map_nil]
    exact plain_keys names_checked.2.2.2.1
  have hdomain : PlainText (Hex.encode ergoStatementDomain) ∧
      (Hex.encode ergoStatementDomain).length ≤ 64 :=
    ⟨plainText_lower (Hex.encode_isLower _), texts_checked.2.2.1⟩
  refine short_object (n := 10) (b := 66) rfl (statement_keys _) htexts ?_ (by decide)
  simp only [RawStatementIdentityV1.fields, List.forall_mem_cons]
  exact ⟨short_number (show m.applicationPayload.length ≤ 16543 by omega), short_digest _,
    short_digest _, short_text hdomain, short_digest _, short_digest _,
    short_number (show m.proposition.length ≤ 16543 by omega),
    short_number (show m.statement.length ≤ 16543 by omega), short_digest _,
    short_number (show 1 ≤ 16543 by decide), by simp⟩

lemma short_members (h : m.Consistent) : ∀ field ∈ (m.raw sha256).fields, Short 3379 field.2 := by
  have hartifacts : Short 3379 (.array ((m.raw sha256).artifacts.map artifactValue)) := by
    have hall : ∀ item ∈ (m.raw sha256).artifacts.map artifactValue, Short 306 item := by
      intro item hitem
      obtain ⟨given, hgiven, rfl⟩ := List.mem_map.mp hitem
      obtain ⟨spec, hspec, binding, rfl, hbinding⟩ :=
        inventory_raw_specified (admitted_inventory h) given hgiven
      exact short_artifact hspec hbinding
    have hcount : ((m.raw sha256).artifacts.map artifactValue).length = 11 := rfl
    have hlength := render_array_length_le fun item hitem => (hall item hitem).2
    rw [hcount] at hlength
    exact ⟨plain_array fun item hitem => (hall item hitem).1, hlength⟩
  have hformat : PlainText statementBundleFormat ∧ statementBundleFormat.length ≤ 64 :=
    ⟨plainText_of_codes texts_checked.2.2.2.1, texts_checked.2.2.2.2⟩
  have hweaken : ∀ {a : ℕ} {v : JsonValue}, Short a v → a ≤ 3379 → Short 3379 v :=
    fun hshort hle => ⟨hshort.1, hshort.2.trans hle⟩
  rw [manifest_fields_eq]
  simp only [List.forall_mem_cons]
  exact ⟨hartifacts, hweaken (short_claim m) (by decide), hweaken (short_text hformat) (by decide),
    hweaken (short_number (show 1 ≤ 16543 by decide)) (by decide), hweaken (short_statement h) (by decide),
    by simp⟩

lemma short_manifest (h : m.Consistent) : Short maxManifestBytes (m.raw sha256).toValue := by
  have htexts : ∀ key ∈ (m.raw sha256).fields.map Prod.fst, PlainText key ∧ key.length ≤ 13 := by
    simp only [RawStatementManifestV1.fields, List.map_cons, List.map_nil]
    exact plain_keys names_checked.2.2.2.2
  exact short_object (n := 5) (b := 3379) rfl (manifest_keys _) htexts (short_members h) (by decide)

lemma bounded_raw (h : m.Consistent) : (m.raw sha256).Bounded := by
  have hpayload := h.applicationPayload
  have hproposition := h.proposition
  have hstatement := h.statement
  refine ⟨?_, rfl, show 1 < 2 ^ 8 by decide, ⟨?_, ?_, ?_, show 1 < 2 ^ 8 by decide⟩⟩
  · intro artifact hartifact
    obtain ⟨spec, -, binding, rfl, hbinding⟩ :=
      inventory_raw_specified (admitted_inventory h) artifact hartifact
    change binding.length < 2 ^ 64
    omega
  · change m.applicationPayload.length < 2 ^ 64
    omega
  · change m.proposition.length < 2 ^ 64
    omega
  · change m.statement.length < 2 ^ 64
    omega

variable {codec : Codec} {source : Bytes}

lemma fromCanonicalJcs_render (h : m.Consistent) :
    StatementBundleManifestV1.fromCanonicalJcs sha256 codec (render (m.raw sha256).toValue) = .ok m := by
  obtain ⟨hplain, hlength⟩ : Short maxManifestBytes (m.raw sha256).toValue := short_manifest h
  have hread := readManifest_toValue (bounded_raw h) (plain_sorted _ hplain)
  rw [StatementBundleManifestV1.fromCanonicalJcs, ensure_pass hlength, ok_bind,
    validateCanonicalJsonSource_render hplain]
  simp only [mapError, ok_bind, hread]
  exact ofRaw_ok.mpr ⟨rfl, h⟩

/-- Where a source has an array for a structure, its text is not the rendering. -/
def StructuredSource (codec : Codec) (source : Bytes) : Prop :=
  ∃ value, codec.parseJsonStrict source = .ok value ∧ Structured value

lemma fromCanonicalJcs_ok (h : StatementBundleManifestV1.fromCanonicalJcs sha256 codec source = .ok m) :
    m.Consistent ∧ (source = render (m.raw sha256).toValue ↔ StructuredSource codec source) := by
  simp only [StatementBundleManifestV1.fromCanonicalJcs, bind_ok, exists_unit, ensure_ok,
    mapError_ok] at h
  obtain ⟨-, value, hvalue, given, hread, hraw⟩ := h
  obtain ⟨rfl, hconsistent⟩ := ofRaw_ok.mp hraw
  obtain ⟨hparse, -⟩ := validateCanonicalJsonSource_ok.mp hvalue
  obtain ⟨hplain, -⟩ : Short maxManifestBytes (m.raw sha256).toValue := short_manifest hconsistent
  have hstructured := structured_iff (codec.sorted source value hparse) hread
  refine ⟨hconsistent, ?_⟩
  constructor
  · intro hsource
    have hparsed := codec.parsed _ hplain
    rw [← hsource, hparse, Except.ok.injEq] at hparsed
    exact ⟨value, hparse, hstructured.mpr hparsed⟩
  · rintro ⟨value', hparse', hvalue'⟩
    obtain rfl : value = value' := Except.ok.inj (hparse.symm.trans hparse')
    rw [hstructured.mp hvalue'] at hvalue
    exact source_eq_render hplain hvalue

end Rendering

end Eip0045.Statement
