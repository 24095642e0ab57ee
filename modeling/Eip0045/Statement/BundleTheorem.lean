import Eip0045.Statement.BundleEquivalence

/-! The manifests of a statement: the one that is built, and the ones that are accepted. -/

namespace Eip0045.Statement

open Bytes Checked Constants CanonicalJson Jcs Receipt

section Claims

variable (U : Upstream)

lemma taggedStructPreimageLength_ok {a b : ℕ} (ha : a ≤ 4) (hb : b ≤ 2) :
    taggedStructPreimageLength a b = .ok (UInt16.ofNat a, 32 + a * 32 + b * 4 + 2) := by
  have hdown : checkedMul a digestBytes = some (a * 32) := checkedMul_eq_some.mpr ⟨by
    change a * 32 < 2 ^ 64
    omega, rfl⟩
  have hdata : checkedMul b 4 = some (b * 4) := checkedMul_eq_some.mpr ⟨by omega, rfl⟩
  have hfirst : checkedAdd digestBytes (a * 32) = some (32 + a * 32) := checkedAdd_eq_some.mpr ⟨by
    change 32 + a * 32 < 2 ^ 64
    omega, rfl⟩
  have hsecond : checkedAdd (32 + a * 32) (b * 4) = some (32 + a * 32 + b * 4) :=
    checkedAdd_eq_some.mpr ⟨by omega, rfl⟩
  have hthird : checkedAdd (32 + a * 32 + b * 4) 2 = some (32 + a * 32 + b * 4 + 2) :=
    checkedAdd_eq_some.mpr ⟨by omega, rfl⟩
  have hcount : a < 2 ^ 16 := by omega
  simp only [taggedStructPreimageLength, if_pos hcount, hdown, hdata, hfirst, Option.bind_some, hsecond,
    hthird, context, ok_bind]
  rfl

lemma sha256Bytes_ok {construct : String} {bytes : Bytes} (h : bytes.length ≤ 2 ^ 32) :
    sha256Bytes U construct bytes = .ok (U.sha256 bytes) := by
  have hlength : bytes.length < 2 ^ 64 ∧ bytes.length * 8 < 2 ^ 64 := by omega
  rw [sha256Bytes, checkedSha256InputLength, ensure_pass hlength, ok_bind]
  rfl

lemma taggedStructSha256_ok {tag : Bytes} {down : List Digest} {data : List UInt32}
    (htag : tag.length ≤ 2 ^ 32) (hdown : down.length ≤ 4) (hdata : data.length ≤ 2) :
    ∃ digest, taggedStructSha256 U tag down data = .ok digest := by
  have hlength : 32 + down.length * 32 + data.length * 4 + 2 < 2 ^ 64 ∧
      (32 + down.length * 32 + data.length * 4 + 2) * 8 < 2 ^ 64 := by omega
  refine ⟨U.sha256 ((U.sha256 tag).val ++ down.flatMap (fun digest => digest.val) ++
    data.flatMap le32 ++ le16 (UInt16.ofNat down.length)), ?_⟩
  rw [taggedStructSha256, taggedStructPreimageLength_ok hdown hdata]
  simp only [ok_bind, checkedSha256InputLength, ensure_pass hlength, sha256Bytes_ok U htag]
  rfl

lemma okReceiptClaimDigests_ok (programId : Digest) {journal : Bytes} (h : journal.length ≤ 2 ^ 32) :
    ∃ claim, okReceiptClaimDigests U programId.val journal = .ok claim ∧
      claim.journalDigest = U.sha256 journal := by
  have hshort : ∀ tag ∈ [utf8 "risc0.SystemState", utf8 "risc0.Output", utf8 "risc0.ReceiptClaim"],
      tag.length ≤ 2 ^ 32 := by decide
  simp only [List.forall_mem_cons] at hshort
  obtain ⟨hpostTag, houtputTag, hclaimTag, -⟩ := hshort
  obtain ⟨post, hpost⟩ : ∃ post, okPostDigest U = .ok post :=
    taggedStructSha256_ok U hpostTag (by decide) (by decide)
  obtain ⟨output, houtput⟩ : ∃ output, okOutputDigest U (U.sha256 journal) = .ok output :=
    taggedStructSha256_ok U houtputTag (by simp) (by simp)
  obtain ⟨expected, hexpected⟩ := taggedStructSha256_ok U hclaimTag
    (show [zeroDigest, programId, post, output].length ≤ 4 by simp) (show [(0 : UInt32), 0].length ≤ 2 by simp)
  have hid : ByteArr.ofBytes digestBytes programId.val = some programId := ByteArr.ofBytes_val programId
  refine ⟨⟨U.sha256 journal, post, output, expected⟩, ?_, rfl⟩
  simp only [okReceiptClaimDigests, bind_ok, context_ok]
  exact ⟨programId, hid, _, sha256Bytes_ok U h, post, hpost, output, houtput, expected, hexpected, rfl⟩

end Claims

section Binding

variable {U : Upstream}

/-- The manifest of a statement and its claim, with a proposition of a length and a digest. -/
def boundManifest (sha256 : Bytes → Digest) (a : AuthenticatedStatementV1)
    (proposition : ArtifactBindingV1) : StatementBundleManifestV1 where
  applicationPayload := ⟨a.statement.applicationPayload.length, sha256 a.statement.applicationPayload⟩
  chainDomainId := a.statement.chainDomainId
  profileId := a.statement.profileId
  programId := a.statement.programId
  contractId := a.statement.contractId
  proposition := proposition
  statement := ⟨(statementBytes a.statement).length, sha256 (statementBytes a.statement)⟩
  claim := a.claim

/-- What the manifest of a statement and its claim is rendered as. -/
def manifestText (sha256 : Bytes → Digest) (a : AuthenticatedStatementV1)
    (proposition : ArtifactBindingV1) : Bytes :=
  render ((boundManifest sha256 a proposition).raw sha256).toValue

lemma artifactIdentity_digest (sha256 : Bytes → Digest) (path role : String) (digest : Digest) :
    artifactIdentity sha256 path role digest.val =
      (ArtifactSpec.digest path role).raw (digestBinding sha256 digest) := by
  rw [artifactIdentity, ByteArr.val_length]
  rfl

lemma authenticateStatement_ok {m : StatementBundleManifestV1} {source : Bytes}
    {a : AuthenticatedStatementV1} : m.authenticateStatement U source = .ok a ↔
      statementBytes a.statement = source ∧
      okReceiptClaimDigests U a.statement.programId.val source = .ok a.claim ∧
      m = boundManifest U.sha256 a m.proposition := by
  simp only [StatementBundleManifestV1.authenticateStatement, bind_ok, exists_unit, mapFault_ok,
    parse_ok, encode_eq, Except.ok.injEq, exists_eq_left', report_ok, ensure_ok, mapError_ok, pure_ok]
  obtain ⟨⟨payloadLength, payloadSha256⟩, chain, profile, program, contract, proposition,
    ⟨statementLength, statementSha256⟩, claim⟩ := m
  constructor
  · rintro ⟨s, rfl, -, hlength, hsha256, hchain, hprofile, hprogram, hcontract, hpayload, hdigest, _,
      hclaim, rfl, rfl⟩
    dsimp only at hlength hsha256 hchain hprofile hprogram hcontract hpayload hdigest
    subst hlength hsha256 hchain hprofile hprogram hcontract hpayload hdigest
    exact ⟨rfl, hclaim, rfl⟩
  · rintro ⟨rfl, hclaim, hm⟩
    cases hm
    exact ⟨a.statement, rfl, rfl, rfl, rfl, rfl, rfl, rfl, rfl, rfl, rfl, a.claim, hclaim, rfl, rfl⟩

lemma boundManifest_consistent {a : AuthenticatedStatementV1} {proposition : ArtifactBindingV1}
    (hclaim : okReceiptClaimDigests U a.statement.programId.val (statementBytes a.statement) = .ok a.claim)
    (hproposition : 1 ≤ proposition.length ∧ proposition.length ≤ 4096) :
    (boundManifest U.sha256 a proposition).Consistent := by
  have hbounded : a.statement.applicationPayload.length ≤ 16384 := a.statement.bounded
  have hlength := statementBytes_length a.statement
  have hshort : (statementBytes a.statement).length ≤ 2 ^ 32 := by omega
  obtain ⟨claim, hclaim', hjournal⟩ := okReceiptClaimDigests_ok U a.statement.programId hshort
  rw [← Except.ok.inj (hclaim.symm.trans hclaim')] at hjournal
  exact ⟨hbounded, hproposition, hlength, hjournal⟩

lemma buildManifest_ok (codec : Codec) {a : AuthenticatedStatementV1} {proposition : Bytes}
    (hclaim : okReceiptClaimDigests U a.statement.programId.val (statementBytes a.statement) = .ok a.claim)
    (hproposition : 1 ≤ proposition.length ∧ proposition.length ≤ 4096) :
    buildManifest codec U.sha256 a.statement.chainDomainId a.statement.profileId a.statement.programId
      proposition a.statement.applicationPayload a.statement.contractId (statementBytes a.statement)
      a.claim = .ok (manifestText U.sha256 a ⟨proposition.length, U.sha256 proposition⟩) := by
  have hconsistent : (boundManifest U.sha256 a ⟨proposition.length, U.sha256 proposition⟩).Consistent :=
    boundManifest_consistent hclaim hproposition
  obtain ⟨hplain, hlength⟩ : Short maxManifestBytes
      ((boundManifest U.sha256 a ⟨proposition.length, U.sha256 proposition⟩).raw U.sha256).toValue :=
    short_manifest hconsistent
  have hcanonical := codec.canonical _ hplain
  simp only [buildManifest, bind_ok, exists_unit, ensure_ok, pure_ok, artifactIdentity_digest]
  exact ⟨_, hcanonical, hlength, rfl⟩

end Binding

section Positional

variable {sha256 : Bytes → Digest} {m : StatementBundleManifestV1} {codec : Codec}

/-- The same record, as an array of its members. -/
def RawStatementManifestV1.positional (raw : RawStatementManifestV1) : JsonValue :=
  .array (raw.fields.map Prod.snd)

lemma readManifest_positional (h : m.Consistent) :
    readManifest (ofValue (m.raw sha256).positional) = .ok (m.raw sha256) := by
  have hnames : manifestNames.Nodup := increasing_nodup (names_increasing manifestNames (by simp))
  obtain ⟨hplain, -⟩ : Short maxManifestBytes (m.raw sha256).toValue := short_manifest h
  have hread := readManifest_toValue (bounded_raw h) (plain_sorted _ hplain)
  have hmember : ∀ (k : ℕ) name v, manifestNames[k]? = some name → (m.raw sha256).fields[k]? = some (name, v) →
      member manifestNames (ofValue (m.raw sha256).positional) name =
        member manifestNames (ofValue (m.raw sha256).toValue) name := by
    intro k name v hname hfield
    rw [member_manifest (List.mem_of_getElem? hfield), RawStatementManifestV1.positional, ofValue,
      ofItems_eq]
    refine member_array hnames hname ?_
    rw [List.getElem?_map, List.getElem?_map, hfield]
    rfl
  have hclosed : closed manifestNames (ofValue (m.raw sha256).positional) = .ok () :=
    ensure_pass rfl
  have hclosed' : closed manifestNames (ofValue (m.raw sha256).toValue) = .ok () :=
    closed_object.mpr (closed_ofMembers fun _ hkey => hkey)
  rw [readManifest, hclosed'] at hread
  rw [readManifest, hclosed, hmember 0 _ _ rfl rfl, hmember 1 _ _ rfl rfl, hmember 2 _ _ rfl rfl,
    hmember 3 _ _ rfl rfl, hmember 4 _ _ rfl rfl, hread]

lemma fromCanonicalJcs_positional (h : m.Consistent) :
    StatementBundleManifestV1.fromCanonicalJcs sha256 codec (render (m.raw sha256).positional) = .ok m ∧
      render (m.raw sha256).positional ≠ render (m.raw sha256).toValue := by
  have hvalues : ∀ item ∈ (m.raw sha256).fields.map Prod.snd, Short 3379 item := by
    intro item hitem
    obtain ⟨field, hfield, rfl⟩ := List.mem_map.mp hitem
    exact short_members h field hfield
  have hcount : ((m.raw sha256).fields.map Prod.snd).length = 5 := rfl
  have hplain : Plain (m.raw sha256).positional :=
    plain_array fun item hitem => (hvalues item hitem).1
  have hlength := render_array_length_le fun item hitem => (hvalues item hitem).2
  rw [hcount] at hlength
  have hbounded : (render (m.raw sha256).positional).length ≤ maxManifestBytes :=
    hlength.trans (by decide)
  constructor
  · rw [StatementBundleManifestV1.fromCanonicalJcs, ensure_pass hbounded, ok_bind,
      validateCanonicalJsonSource_render hplain]
    simp only [mapError, ok_bind, readManifest_positional h]
    exact ofRaw_ok.mpr ⟨rfl, h⟩
  · intro heq
    obtain ⟨hplain', -⟩ : Short maxManifestBytes (m.raw sha256).toValue := short_manifest h
    have hvalue := render_injOn hplain hplain' heq
    cases hvalue

end Positional

section Determined

lemma authenticate_bound {U : Upstream} {a : AuthenticatedStatementV1} {proposition : ArtifactBindingV1}
    (hclaim : okReceiptClaimDigests U a.statement.programId.val (statementBytes a.statement) = .ok a.claim) :
    (boundManifest U.sha256 a proposition).authenticateStatement U (statementBytes a.statement) = .ok a :=
  authenticateStatement_ok.mpr ⟨rfl, hclaim, rfl⟩

/-- The manifest that is built for a statement is accepted and binds it; and an accepted manifest is the
one that is built, with a proposition of the declared length and digest, exactly when it has an object
wherever the grammar has a structure. -/
theorem bundle_manifest_determined (U : Upstream) (codec : Codec) :
    (∀ (chainDomainId profileId programId contractId : Digest) (proposition applicationPayload : Bytes),
      1 ≤ proposition.length → proposition.length ≤ 4096 → applicationPayload.length ≤ 16384 →
      ∃ (a : AuthenticatedStatementV1) (source : Bytes) (m : StatementBundleManifestV1),
        a.statement.chainDomainId = chainDomainId ∧ a.statement.profileId = profileId ∧
        a.statement.programId = programId ∧ a.statement.contractId = contractId ∧
        a.statement.applicationPayload = applicationPayload ∧
        ergoStatementV1FromContractId chainDomainId profileId programId contractId applicationPayload =
          .ok (statementBytes a.statement) ∧
        okReceiptClaimDigests U programId.val (statementBytes a.statement) = .ok a.claim ∧
        buildManifest codec U.sha256 chainDomainId profileId programId proposition applicationPayload
          contractId (statementBytes a.statement) a.claim = .ok source ∧
        source = manifestText U.sha256 a ⟨proposition.length, U.sha256 proposition⟩ ∧
        StatementBundleManifestV1.fromCanonicalJcs U.sha256 codec source = .ok m ∧
        m.authenticateStatement U (statementBytes a.statement) = .ok a) ∧
    (∀ (source statement : Bytes) (m : StatementBundleManifestV1) (a : AuthenticatedStatementV1),
      StatementBundleManifestV1.fromCanonicalJcs U.sha256 codec source = .ok m →
      m.authenticateStatement U statement = .ok a →
      (source = manifestText U.sha256 a m.proposition ↔ StructuredSource codec source)) ∧
    ∀ (source source' statement : Bytes) (m m' : StatementBundleManifestV1)
      (a a' : AuthenticatedStatementV1),
      StatementBundleManifestV1.fromCanonicalJcs U.sha256 codec source = .ok m →
      StatementBundleManifestV1.fromCanonicalJcs U.sha256 codec source' = .ok m' →
      m.authenticateStatement U statement = .ok a → m'.authenticateStatement U statement = .ok a' →
      StructuredSource codec source → StructuredSource codec source' →
      m.proposition = m'.proposition → source = source' := by
  have htext : ∀ (source statement : Bytes) (m : StatementBundleManifestV1)
      (a : AuthenticatedStatementV1),
      StatementBundleManifestV1.fromCanonicalJcs U.sha256 codec source = .ok m →
      m.authenticateStatement U statement = .ok a →
      (source = manifestText U.sha256 a m.proposition ↔ StructuredSource codec source) := by
    intro source statement m a hm ha
    obtain ⟨-, -, hbound⟩ := authenticateStatement_ok.mp ha
    rw [manifestText, ← hbound]
    exact (fromCanonicalJcs_ok hm).2
  refine ⟨?_, htext, ?_⟩
  · intro chainDomainId profileId programId contractId proposition applicationPayload hfirst hlast hpayload
    set s : ErgoStatementV1 :=
      ⟨chainDomainId, profileId, programId, contractId, applicationPayload, hpayload⟩ with hs
    have hlength := statementBytes_length s
    have hshort : (statementBytes s).length ≤ 2 ^ 32 := by
      have hbounded : s.applicationPayload.length ≤ 16384 := hpayload
      omega
    obtain ⟨claim, hclaim, -⟩ := okReceiptClaimDigests_ok U programId hshort
    set a : AuthenticatedStatementV1 := ⟨s, claim⟩ with ha
    have hconsistent : (boundManifest U.sha256 a ⟨proposition.length, U.sha256 proposition⟩).Consistent :=
      boundManifest_consistent hclaim ⟨hfirst, hlast⟩
    have hbuilt := buildManifest_ok codec (a := a) hclaim ⟨hfirst, hlast⟩
    have hnew : ErgoStatementV1.new chainDomainId profileId programId contractId applicationPayload =
        .ok s := dif_pos hpayload
    exact ⟨a, _, boundManifest U.sha256 a ⟨proposition.length, U.sha256 proposition⟩, rfl, rfl, rfl, rfl,
      rfl, fromContractId_ok.mpr ⟨s, hnew, rfl⟩, hclaim, hbuilt, rfl, fromCanonicalJcs_render hconsistent,
      authenticate_bound hclaim⟩
  · intro source source' statement m m' a a' hm hm' ha ha' hsource hsource' hproposition
    obtain ⟨hstatement, hclaim, -⟩ := authenticateStatement_ok.mp ha
    obtain ⟨hstatement', hclaim', -⟩ := authenticateStatement_ok.mp ha'
    have hequal : a = a' := by
      obtain ⟨s, claim⟩ := a
      obtain ⟨s', claim'⟩ := a'
      obtain rfl : s = s' := statementBytes_injective (hstatement.trans hstatement'.symm)
      obtain rfl : claim = claim' := Except.ok.inj (hclaim.symm.trans hclaim')
      rfl
    rw [(htext source statement m a hm ha).mpr hsource,
      (htext source' statement m' a' hm' ha').mpr hsource', hequal, hproposition]

lemma positional_accepted (U : Upstream) (codec : Codec) (s : ErgoStatementV1) :
    ∃ source m a, StatementBundleManifestV1.fromCanonicalJcs U.sha256 codec source = .ok m ∧
      m.authenticateStatement U (statementBytes s) = .ok a ∧
      source ≠ manifestText U.sha256 a m.proposition := by
  have hshort : (statementBytes s).length ≤ 2 ^ 32 := by
    have hbounded : s.applicationPayload.length ≤ 16384 := s.bounded
    rw [statementBytes_length]
    omega
  obtain ⟨claim, hclaim, -⟩ := okReceiptClaimDigests_ok U s.programId hshort
  set a : AuthenticatedStatementV1 := ⟨s, claim⟩ with ha
  have hconsistent : (boundManifest U.sha256 a ⟨1, zeroDigest⟩).Consistent :=
    boundManifest_consistent hclaim ⟨le_refl 1, show 1 ≤ 4096 by decide⟩
  obtain ⟨haccepted, hdiffers⟩ := fromCanonicalJcs_positional hconsistent
  exact ⟨_, _, a, haccepted, authenticate_bound hclaim, hdiffers⟩

theorem positional_manifest_accepted : ¬∀ (U : Upstream) (codec : Codec) (source statement : Bytes)
    (m : StatementBundleManifestV1) (a : AuthenticatedStatementV1),
    StatementBundleManifestV1.fromCanonicalJcs U.sha256 codec source = .ok m →
    m.authenticateStatement U statement = .ok a → source = manifestText U.sha256 a m.proposition := by
  intro h
  obtain ⟨source, m, a, haccepted, hauthenticated, hdiffers⟩ :=
    positional_accepted (reference fun _ => zeroDigest) .reference
      ⟨zeroDigest, zeroDigest, zeroDigest, zeroDigest, [], Nat.zero_le _⟩
  exact hdiffers (h _ _ source _ m a haccepted hauthenticated)

end Determined

end Eip0045.Statement
