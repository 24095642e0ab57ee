import Mathlib
import Eip0045.Oci.H0Binding

/-! What two request projections with a common commitment have in common. -/

namespace Eip0045.Oci

open Bytes Checked CanonicalJson

variable {h0Sha256 : Bytes → Digest}

section Projections

/-- The runner profile as the artifact of its role. -/
def runnerArtifact (h0Sha256 : Bytes → Digest) (document : BoundDocument) (role : PositiveRunnerRole) :
    ArtifactIdentity where
  kind := 2 + UInt8.ofNat role.index
  encoding := 1
  path := document.relativePath
  byteLength := UInt64.ofNat document.bytes.length
  sha256 := h0Sha256 document.bytes

/-- What a projection has passed, part by part. -/
structure Projected (h0Sha256 : Bytes → Digest) (document : BoundDocument) (role : PositiveRunnerRole)
    (p : RoleRequestProjection) : Prop where
  runner : h0ArtifactIdentity h0Sha256 (runnerArtifact h0Sha256 document role) = .ok p.runnerIdentity
  archive : h0ArchiveIdentity h0Sha256 document.value.image.archive = .ok p.archiveIdentity
  layout : LayoutEncoded document.value.image (UInt8.ofNat role.index) p.archiveIdentity.commitment
    p.ociLayoutPreimage
  plan : PlanEncoded document.value role (UInt8.ofNat role.index) p.rootfsPlanPreimage
  layoutCommitment : p.ociLayoutCommitment = h0Sha256 p.ociLayoutPreimage
  planCommitment : p.rootfsPlanCommitment = h0Sha256 p.rootfsPlanPreimage

variable {document : BoundDocument} {role : PositiveRunnerRole} {p : RoleRequestProjection}

lemma projected (h : deriveH0RoleRequestProjection h0Sha256 document role = .ok p) :
    Projected h0Sha256 document role p := by
  simp only [deriveH0RoleRequestProjection, bind_ok, h0OciLayoutPreimage_ok, h0RootfsPlanPreimage_ok,
    pure_ok] at h
  obtain ⟨runner, hrunner, archive, harchive, layout, hlayout, plan, hplan, rfl⟩ := h
  exact ⟨hrunner, harchive, hlayout, hplan, rfl, rfl⟩

lemma deriveH0RoleRequestProjection_noDrift (document : BoundDocument) (role : PositiveRunnerRole) :
    NoDrift (deriveH0RoleRequestProjection h0Sha256 document role) := by
  rw [deriveH0RoleRequestProjection]
  apply noDrift_bind (h0ArtifactIdentity_noDrift _ _)
  intro runner _
  apply noDrift_bind
  · apply noDrift_bind (noDrift_u64Field _ _)
    intro byteLength _
    exact noDrift_bind (noDrift_reported _) fun _ _ => h0ArtifactIdentity_noDrift _ _
  · intro archive _
    apply noDrift_bind (h0OciLayoutPreimage_noDrift _ _ _)
    intro layout _
    exact noDrift_bind (h0RootfsPlanPreimage_noDrift _ _ _) fun _ _ => noDrift_pure _

lemma h0ArchiveIdentity_ok {archive : OciImageArchiveIdentity} {identity : ArtifactIdentityPreimage} :
    h0ArchiveIdentity h0Sha256 archive = .ok identity ↔ ∃ sha256 : Digest,
      archive.byteLength < 2 ^ 64 ∧ Hex.decode archive.sha256 = some sha256.val ∧
      h0ArtifactIdentity h0Sha256 ⟨8, 3, archive.path, UInt64.ofNat archive.byteLength, sha256⟩ =
        .ok identity := by
  simp only [h0ArchiveIdentity, bind_ok, u64Field_ok, reported_ok, decodeDigest_ok]
  constructor
  · intro h
    obtain ⟨_, ⟨hbytes, rfl⟩, sha256, hsha256, h⟩ := h
    exact ⟨sha256, hbytes, hsha256, h⟩
  · intro h
    obtain ⟨sha256, hbytes, hsha256, h⟩ := h
    exact ⟨_, ⟨hbytes, rfl⟩, sha256, hsha256, h⟩

lemma derive_accepted {canonicalizer : Canonicalizer}
    (h : validateV2RunnerProfile canonicalizer document.value role = .ok ()) :
    (∃ p, deriveH0RoleRequestProjection h0Sha256 document role = .ok p) ↔
      Materialization.validateSafeRelativePath document.relativePath = .ok () ∧
      Materialization.validateSafeRelativePath document.value.image.archive.path = .ok () := by
  constructor
  · intro hp
    obtain ⟨p, hp⟩ := hp
    have hproj := projected hp
    obtain ⟨sha256, -, -, harchive⟩ := h0ArchiveIdentity_ok.mp hproj.archive
    exact ⟨(h0ArtifactIdentity_ok.mp hproj.runner).2.1, (h0ArtifactIdentity_ok.mp harchive).2.1⟩
  · intro hpaths
    obtain ⟨hdocument, hpath⟩ := hpaths
    obtain ⟨hfacets, hrole⟩ := accepted h
    obtain ⟨-, -, -, -, -, ⟨-, hbytes, -, hhex, -⟩, -⟩ := hfacets.image
    obtain ⟨sha256, hsha256⟩ := decodeDigest_of_hex hhex
    have hlength := hbytes.2
    have hrunner : h0DocumentArtifactIdentity h0Sha256 document (2 + UInt8.ofNat role.index) = .ok _ :=
      h0ArtifactIdentity_ok.mpr ⟨runnerKind_compatible role, hdocument, rfl⟩
    have harchive : h0ArchiveIdentity h0Sha256 document.value.image.archive = .ok _ :=
      h0ArchiveIdentity_ok.mpr ⟨sha256, by omega, hsha256,
        h0ArtifactIdentity_ok.mpr ⟨Or.inr ⟨rfl, rfl⟩, hpath, rfl⟩⟩
    obtain ⟨layout, hlayout⟩ := h0OciLayoutPreimage_succeeds hfacets.image (UInt8.ofNat role.index)
      (h0Sha256 (artifactEncoding
        ⟨8, 3, document.value.image.archive.path, UInt64.ofNat document.value.image.archive.byteLength,
          sha256⟩))
    obtain ⟨plan, hplan⟩ := h0RootfsPlanPreimage_succeeds hfacets hrole (UInt8.ofNat role.index)
    simp only [deriveH0RoleRequestProjection, bind_ok, pure_ok]
    exact ⟨_, _, hrunner, _, harchive, layout, hlayout, plan, hplan, rfl⟩

end Projections

section Domains

/-- The letter of a domain after the part that all domains share. -/
def domainLetter (preimage : Bytes) : Bytes := (preimage.drop 11).take 1

lemma domainLetter_append {domain bytes : Bytes} (h : 12 ≤ domain.length) :
    domainLetter (domain ++ bytes) = domainLetter domain := by
  rw [domainLetter, List.drop_append_of_le_length (by omega),
    List.take_append_of_le_length (by rw [List.length_drop]; omega), domainLetter]

lemma artifactEncoding_letter (a : ArtifactIdentity) : domainLetter (artifactEncoding a) = utf8 "a" := by
  simp only [artifactEncoding, List.append_assoc]
  rw [domainLetter_append (by rw [artifactDomain_length]; decide)]
  exact domains_checked.2.1

lemma LayoutEncoded.letter {image : OciImageIdentity} {roleByte : UInt8} {commitment : Digest}
    {preimage : Bytes} (h : LayoutEncoded image roleByte commitment preimage) :
    domainLetter preimage = utf8 "o" := by
  obtain ⟨_, _, _, _, _, -, -, -, -, -, rfl⟩ := h.parts
  simp only [List.append_assoc]
  rw [domainLetter_append (by rw [layoutDomain_length]; decide)]
  exact domains_checked.2.2.1

lemma PlanEncoded.letter {profile : RunnerProfile} {role : PositiveRunnerRole} {roleByte : UInt8}
    {preimage : Bytes} (h : PlanEncoded profile role roleByte preimage) :
    domainLetter preimage = utf8 "r" := by
  obtain ⟨_, _, _, _, _, _, _, _, _, _, -, -, -, -, -, -, -, -, -, -, -, rfl⟩ := h.parts
  simp only [List.append_assoc]
  rw [domainLetter_append (by rw [planDomain_length]; decide)]
  exact domains_checked.2.2.2.1

lemma commitment_ne {s : Set Bytes} {x y : Bytes} (hs : Set.InjOn h0Sha256 s) (hx : x ∈ s) (hy : y ∈ s)
    (h : domainLetter x ≠ domainLetter y) : h0Sha256 x ≠ h0Sha256 y := by
  intro heq
  exact h (congrArg domainLetter (hs hx hy heq))

end Domains

section Binding

def RoleRequestProjection.preimages (p : RoleRequestProjection) : Set Bytes :=
  {p.archiveIdentity.encoded, p.ociLayoutPreimage, p.rootfsPlanPreimage}

variable {document document' : BoundDocument} {role role' : PositiveRunnerRole}
  {p q : RoleRequestProjection}

lemma roleByte_injective (h : UInt8.ofNat role.index = UInt8.ofNat role'.index) : role = role' := by
  apply index_injective
  cases role <;> cases role' <;> first | rfl | exact absurd h (by decide)

lemma artifact_binding {a b : ArtifactIdentity} {x y : ArtifactIdentityPreimage}
    (hx : h0ArtifactIdentity h0Sha256 a = .ok x) (hy : h0ArtifactIdentity h0Sha256 b = .ok y)
    (hs : Set.InjOn h0Sha256 {x.encoded, y.encoded}) (h : x.commitment = y.commitment) : a = b := by
  obtain ⟨-, -, rfl⟩ := h0ArtifactIdentity_ok.mp hx
  obtain ⟨-, -, rfl⟩ := h0ArtifactIdentity_ok.mp hy
  exact artifactEncoding_injective (hs (by simp) (by simp) h)

lemma archive_binding {a b : OciImageArchiveIdentity} {x y : ArtifactIdentityPreimage}
    (hx : h0ArchiveIdentity h0Sha256 a = .ok x) (hy : h0ArchiveIdentity h0Sha256 b = .ok y)
    (hs : Set.InjOn h0Sha256 {x.encoded, y.encoded}) (h : x.commitment = y.commitment) :
    SameArchive a b := by
  obtain ⟨c, hbytes, hc, hx⟩ := h0ArchiveIdentity_ok.mp hx
  obtain ⟨d, hbytes', hd, hy⟩ := h0ArchiveIdentity_ok.mp hy
  have heq := artifact_binding hx hy hs h
  rw [ArtifactIdentity.mk.injEq] at heq
  obtain ⟨-, -, hpath, hlength, hsha⟩ := heq
  exact {
    path := hpath
    byteLength := le64_ofNat_injective hbytes hbytes' (congrArg le64 hlength)
    sha256 := by rw [SameDigest, hc, hd, hsha] }

lemma layout_binding (hp : Projected h0Sha256 document role p)
    (hq : Projected h0Sha256 document' role' q) (hs : Set.InjOn h0Sha256 (p.preimages ∪ q.preimages))
    (h : p.ociLayoutCommitment = q.ociLayoutCommitment) :
    role = role' ∧ SameArchive document.value.image.archive document'.value.image.archive ∧
      SameGraph document.value.image document'.value.image := by
  rw [hp.layoutCommitment, hq.layoutCommitment] at h
  have hpreimage := hs (by simp [RoleRequestProjection.preimages])
    (by simp [RoleRequestProjection.preimages]) h
  obtain ⟨hrole, harchive, hgraph⟩ := hp.layout.injective (hpreimage ▸ hq.layout)
  refine ⟨roleByte_injective hrole, ?_, hgraph⟩
  apply archive_binding hp.archive hq.archive (hs.mono _) harchive
  intro x hx
  obtain hx | hx := hx
  · exact Or.inl (Or.inl hx)
  · exact Or.inr (Or.inl hx)

lemma plan_binding (hp : Projected h0Sha256 document role p)
    (hq : Projected h0Sha256 document' role' q) (hs : Set.InjOn h0Sha256 (p.preimages ∪ q.preimages))
    (h : p.rootfsPlanCommitment = q.rootfsPlanCommitment) :
    role = role' ∧ SamePlan document.value document'.value role role' := by
  rw [hp.planCommitment, hq.planCommitment] at h
  have hpreimage := hs (by simp [RoleRequestProjection.preimages])
    (by simp [RoleRequestProjection.preimages]) h
  obtain ⟨hrole, hplan⟩ := hp.plan.injective (hpreimage ▸ hq.plan)
  exact ⟨roleByte_injective hrole, hplan⟩

lemma sameLayers_eq {x y : List LayerIdentity} (hx : ∀ layer ∈ x, layer.Facets)
    (hy : ∀ layer ∈ y, layer.Facets) (h : List.Forall₂ SameLayer x y) : x = y := by
  induction h with
  | nil => rfl
  | cons hlayer _ ih =>
    rw [List.forall_mem_cons] at hx hy
    obtain ⟨⟨hdigest, -, -, -, hdiff⟩, hx⟩ := hx
    obtain ⟨⟨hdigest', -, -, -, hdiff'⟩, hy⟩ := hy
    rw [ih hx hy, List.cons_eq_cons, LayerIdentity.ext_iff]
    exact ⟨⟨sameOciDigest_eq hdigest hdigest' hlayer.digest, hlayer.size, hlayer.uncompressedBytes,
      sameOciDigest_eq hdiff hdiff' hlayer.diffId⟩, rfl⟩

lemma sameGraph_eq {a b : OciImageIdentity} {m n : String} (ha : a.Facets m) (hb : b.Facets n)
    (harchive : SameArchive a.archive b.archive) (h : SameGraph a b) :
    a.archive = b.archive ∧ a.manifest = b.manifest ∧ a.config = b.config ∧ a.layers = b.layers := by
  obtain ⟨-, -, -, -, -, ha, hma, hga, -, -, hla, -⟩ := ha
  obtain ⟨-, -, -, -, -, hb, hmb, hgb, -, -, hlb, -⟩ := hb
  refine ⟨?_, ?_, ?_, ?_⟩
  · rw [OciImageArchiveIdentity.ext_iff]
    exact ⟨harchive.path, harchive.byteLength, sameDigest_eq ha.2.2.2.1 hb.2.2.2.1 harchive.sha256,
      ha.2.2.2.2.trans hb.2.2.2.2.symm⟩
  · rw [OciDescriptor.ext_iff]
    exact ⟨hma.1.trans hmb.1.symm, sameOciDigest_eq hma.2.1 hmb.2.1 h.manifest.1, h.manifest.2⟩
  · rw [OciDescriptor.ext_iff]
    exact ⟨hga.1.trans hgb.1.symm, sameOciDigest_eq hga.2.1 hgb.2.1 h.config.1, h.config.2⟩
  · exact sameLayers_eq hla hlb h.layers

end Binding

section Claim

/-- A commitment determines what it covers, and the projection of an accepted profile fails only over
the path of the document or of the archive. -/
theorem h0_commitments_bind (h0Sha256 : Bytes → Digest) :
    (∀ a b x y, h0ArtifactIdentity h0Sha256 a = .ok x → h0ArtifactIdentity h0Sha256 b = .ok y →
      Set.InjOn h0Sha256 {x.encoded, y.encoded} → x.commitment = y.commitment → a = b) ∧
    (∀ d e r s p q, deriveH0RoleRequestProjection h0Sha256 d r = .ok p →
      deriveH0RoleRequestProjection h0Sha256 e s = .ok q →
      Set.InjOn h0Sha256 (p.preimages ∪ q.preimages) →
      (p.ociLayoutCommitment = q.ociLayoutCommitment →
        r = s ∧ SameArchive d.value.image.archive e.value.image.archive ∧
          SameGraph d.value.image e.value.image) ∧
      (p.rootfsPlanCommitment = q.rootfsPlanCommitment → r = s ∧ SamePlan d.value e.value r s)) ∧
    (∀ canonicalizer d e r s p q, validateV2RunnerProfile canonicalizer d.value r = .ok () →
      validateV2RunnerProfile canonicalizer e.value s = .ok () →
      deriveH0RoleRequestProjection h0Sha256 d r = .ok p →
      deriveH0RoleRequestProjection h0Sha256 e s = .ok q →
      Set.InjOn h0Sha256 (p.preimages ∪ q.preimages) → p.ociLayoutCommitment = q.ociLayoutCommitment →
      d.value.image.archive = e.value.image.archive ∧ d.value.image.manifest = e.value.image.manifest ∧
        d.value.image.config = e.value.image.config ∧ d.value.image.layers = e.value.image.layers) ∧
    (∀ a, NoDrift (h0ArtifactIdentity h0Sha256 a)) ∧
    (∀ d r, NoDrift (deriveH0RoleRequestProjection h0Sha256 d r)) ∧
    (∀ canonicalizer d r, validateV2RunnerProfile canonicalizer d.value r = .ok () →
      ((∃ p, deriveH0RoleRequestProjection h0Sha256 d r = .ok p) ↔
        Materialization.validateSafeRelativePath d.relativePath = .ok () ∧
        Materialization.validateSafeRelativePath d.value.image.archive.path = .ok ())) ∧
    ∀ a x d r p e s q, h0ArtifactIdentity h0Sha256 a = .ok x →
      deriveH0RoleRequestProjection h0Sha256 d r = .ok p →
      deriveH0RoleRequestProjection h0Sha256 e s = .ok q →
      Set.InjOn h0Sha256 {x.encoded, p.ociLayoutPreimage, q.rootfsPlanPreimage} →
      x.commitment ≠ p.ociLayoutCommitment ∧ x.commitment ≠ q.rootfsPlanCommitment ∧
        p.ociLayoutCommitment ≠ q.rootfsPlanCommitment := by
  refine ⟨fun a b x y => artifact_binding, ?_, ?_, h0ArtifactIdentity_noDrift h0Sha256,
    deriveH0RoleRequestProjection_noDrift, fun canonicalizer d r => derive_accepted, ?_⟩
  · intro d e r s p q hp hq hs
    exact ⟨layout_binding (projected hp) (projected hq) hs, plan_binding (projected hp) (projected hq) hs⟩
  · intro canonicalizer d e r s p q hd he hp hq hs h
    obtain ⟨-, harchive, hgraph⟩ := layout_binding (projected hp) (projected hq) hs h
    exact sameGraph_eq (accepted hd).1.image (accepted he).1.image harchive hgraph
  · intro a x d r p e s q hx hp hq hs
    have hp := projected hp
    have hq := projected hq
    obtain ⟨-, -, rfl⟩ := h0ArtifactIdentity_ok.mp hx
    rw [hp.layoutCommitment, hq.planCommitment]
    have hartifact := artifactEncoding_letter a
    have hlayout := hp.layout.letter
    have hplan := hq.plan.letter
    refine ⟨commitment_ne hs (by simp) (by simp) ?_, commitment_ne hs (by simp) (by simp) ?_,
      commitment_ne hs (by simp) (by simp) ?_⟩
    · rw [hartifact, hlayout]
      exact domains_checked.2.2.2.2.1
    · rw [hartifact, hplan]
      exact domains_checked.2.2.2.2.2.1
    · rw [hlayout, hplan]
      exact domains_checked.2.2.2.2.2.2

section UnderscoredArchive

def zeroDigest : Bytes := List.replicate 64 48
def ociDigest (c : UInt8) : Bytes := sha256Prefix ++ List.replicate 64 c

/-- The retained archive of this profile has a component that starts with an underscore. -/
def underscoredArchive : OciImageIdentity where
  policy := utf8 "eip0045-b4-oci-image-v1"
  retainedHostRootfsMetadataPolicy := utf8 retainedHostRootfsMetadataPolicyV2Id
  imageSpec := ⟨utf8 "1.1.1", utf8 "147f9c13cedb47a0c4d9a11a222961073d585877"⟩
  layoutVersion := utf8 "1.0.0"
  archive := ⟨utf8 "a/_b", 6144, zeroDigest, utf8 "eip0045-b4-oci-image-layout-ustar-v1"⟩
  manifest := ⟨ociManifestMediaType, ociDigest 48, 2⟩
  config := ⟨ociConfigMediaType, ociDigest 49, 2⟩
  platform := linuxAmd64
  layers := [⟨ociDigest 50, 20, 1024, ociDigest 51⟩]
  postChangesetRootfs := ⟨0, 0, 0, 0, 0⟩

def underscoredRuntime : OciRuntimeIdentity where
  name := utf8 "runc"
  version := utf8 "1.3.0"
  runtimeSpec := ⟨utf8 "1.3.0", utf8 "92249139eea7161e13745abd4cb6d0ea02a3227a"⟩
  configurationPolicy := utf8 runtimeConfigurationPolicyId
  observationSelectors :=
    runtimeObservationSelectors.map fun selector => (utf8 selector.1, utf8 selector.2)
  binary := {
    path := utf8 "runc"
    byteLength := 64
    sha256 := zeroDigest
    encoding := utf8 "raw-bytes"
    fileFormat := utf8 "elf64"
    architecture := utf8 "amd64"
    linkage := utf8 "static-no-interpreter"
    inspectionPolicy := utf8 "eip0045-b4-elf64-amd64-static-v1"
    elf := {
      policy := utf8 "eip0045-b4-elf64-amd64-structural-v1"
      elfType := utf8 "et-exec"
      osAbi := utf8 "sysv"
      programHeaderCount := 2
      sectionHeaderCount := 0
      loadSegmentCount := 1
      executableLoadSegmentCount := 1
      entryPointInExecutableLoad := true
      interpreterSegmentCount := 0
      dynamicSegmentCount := 0
      gnuStackSegmentCount := 1
      writableExecutableLoadSegmentCount := 0
      executableStackSegmentCount := 0
      overlappingLoadFileRangeCount := 0
      extendedNumberingCount := 0
      structuralParseFailureCount := 0 } }

def underscoredProfile : RunnerProfile where
  format := utf8 "Eip0045B4PositiveOciRunnerProfileV2"
  formatVersion := 2
  runnerProfileIndex := 2
  purpose := utf8 "rust-validator"
  retainedHostRootfsMetadataProvider := some {
    metadataPolicy := utf8 retainedHostRootfsMetadataPolicyV2Id
    providerProfile := utf8 tmpfsMetadataProviderProfileId
    sessionProtocol := utf8 supervisedFilesystemSessionProtocolId
    applianceProfile := utf8 buildrootApplianceProfileId
    expectedModeTableSha256 := zeroDigest
    canonicalRole := utf8 "RustVerifier" }
  platform := linuxAmd64
  image := underscoredArchive
  runtime := underscoredRuntime
  buildJdk := none
  javaRuntime := none
  policy := rolePolicy .rustVerifier

lemma paths_checked : sha256Prefix.length = 7 ∧ RelativePath (utf8 "a/_b") ∧ RelativePath (utf8 "runc") ∧
    Materialization.validateSafeRelativePath (utf8 "a/_b") ≠ .ok () := by
  decide +kernel

lemma zeroDigest_hex : Hex32 zeroDigest :=
  ⟨List.length_replicate, fun c hc => by rw [List.eq_of_mem_replicate hc]; decide⟩

lemma ociDigest_sha256 {c : UInt8} (hc : Hex.IsLower c) : Sha256Digest (ociDigest c) := by
  have hlength := paths_checked.1
  refine ⟨List.take_left' hlength, ?_⟩
  rw [ociDigest, List.drop_left' hlength]
  exact ⟨List.length_replicate, fun d hd => by rwa [List.eq_of_mem_replicate hd]⟩

lemma underscoredArchive_facets : underscoredArchive.Facets retainedHostRootfsMetadataPolicyV2Id := by
  have hpath := paths_checked.2.1
  have hlayer : LayerIdentity.Facets ⟨ociDigest 50, 20, 1024, ociDigest 51⟩ :=
    ⟨ociDigest_sha256 (by decide), by decide, by decide, by decide, ociDigest_sha256 (by decide)⟩
  exact ⟨rfl, rfl, rfl, rfl, rfl, ⟨hpath, by decide, by decide, zeroDigest_hex, rfl⟩,
    ⟨rfl, ociDigest_sha256 (by decide), by decide⟩, ⟨rfl, ociDigest_sha256 (by decide), by decide⟩, rfl,
    by decide, List.forall_mem_singleton.mpr hlayer, by decide⟩

lemma underscoredRuntime_facets : underscoredRuntime.Facets := by
  have hpath := paths_checked.2.2.1
  have helf : underscoredRuntime.binary.elf.Facets 0 0 :=
    ⟨rfl, List.mem_cons_self, List.mem_cons_self, by decide, by decide, by decide, by decide, rfl, rfl,
      rfl, rfl, rfl, rfl, rfl, rfl, rfl⟩
  exact ⟨rfl, rfl, rfl, rfl, rfl, rfl, hpath, by decide, zeroDigest_hex, rfl, rfl, rfl, rfl, rfl, helf⟩

lemma underscoredProfile_facets : Facets runnerProfileV2Schema underscoredProfile where
  format := rfl
  formatVersion := rfl
  provided := rfl
  provider := by
    intro provider hprovider
    obtain rfl := Option.some.inj hprovider
    exact ⟨rfl, rfl, rfl, rfl, zeroDigest_hex⟩
  platform := rfl
  image := underscoredArchive_facets
  runtime := underscoredRuntime_facets
  buildJdk := by simp [underscoredProfile]
  javaRuntime := by simp [underscoredProfile]
  role := by
    refine .inr (.inr (.inl ⟨rfl, rfl, rfl, by decide, by decide, ?_⟩))
    intro provider hprovider
    obtain rfl := Option.some.inj hprovider
    rfl

/-- The gate accepts the profile, and no projection of a document with it succeeds. -/
theorem underscoredArchive_refused :
    validateV2RunnerProfile ⟨render, fun _ _ => rfl⟩ underscoredProfile .rustVerifier = .ok () ∧
    ∀ (h0Sha256 : Bytes → Digest) (bytes : Bytes) (fits : bytes.length < 2 ^ 64) (p : _),
      deriveH0RoleRequestProjection h0Sha256 ⟨utf8 "runner.json", bytes, fits, underscoredProfile⟩
        .rustVerifier ≠ .ok p := by
  constructor
  · rw [validateV2RunnerProfile, ensure_pass underscoredProfile_facets, ok_bind]
    decide +kernel
  · intro h0Sha256 bytes fits p h
    obtain ⟨sha256, -, -, harchive⟩ := h0ArchiveIdentity_ok.mp (projected h).archive
    have hpath := (h0ArtifactIdentity_ok.mp harchive).2.1
    exact paths_checked.2.2.2 hpath

end UnderscoredArchive

end Claim

end Eip0045.Oci
