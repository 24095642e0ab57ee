import Mathlib
import Eip0045.Oci.ImageAgreement

/-! Images that the gate accepts are imported, and imported images pass the gate. -/

namespace Eip0045.Oci

open Bytes Checked CanonicalJson

section Spelling

lemma toNat_ofNat {n : ℕ} (h : n < 2 ^ 64) : (UInt64.ofNat n).toNat = n := UInt64.toNat_ofNat_of_lt' h

lemma exists_profileLayer {layer : LayerIdentity} (h : layer.Facets) :
    ∃ expected : OciExpectedLayer, expected.profileLayer = layer := by
  obtain ⟨hdigest, hsize, huncompressed, -, hdiff⟩ := h
  obtain ⟨digest, hdigest⟩ := sha256Digest_eq_format hdigest
  obtain ⟨diffId, hdiff⟩ := sha256Digest_eq_format hdiff
  have hsize' := hsize.2
  have huncompressed' := huncompressed.2
  refine ⟨⟨⟨digest, UInt64.ofNat layer.size⟩, UInt64.ofNat layer.uncompressedBytes, diffId⟩, ?_⟩
  rw [LayerIdentity.ext_iff]
  exact ⟨hdigest.symm, toNat_ofNat (by omega), toNat_ofNat (by omega), hdiff.symm⟩

lemma exists_profileLayers {layers : List LayerIdentity} (h : ∀ layer ∈ layers, layer.Facets) :
    ∃ expected : List OciExpectedLayer, expected.map OciExpectedLayer.profileLayer = layers := by
  have hrange : layers ∈ Set.range (List.map OciExpectedLayer.profileLayer) := by
    rw [Set.range_list_map]
    exact fun layer hlayer => exists_profileLayer (h layer hlayer)
  exact hrange

lemma exists_blob {descriptor : OciDescriptor} {mediaType : Bytes} (h : descriptor.Facets mediaType) :
    ∃ blob : OciBlobIdentity,
      descriptor = ⟨mediaType, formatSha256Digest blob.digest, blob.byteLength.toNat⟩ := by
  obtain ⟨hmediaType, hdigest, hsize⟩ := h
  obtain ⟨digest, hdigest⟩ := sha256Digest_eq_format hdigest
  have hsize' := hsize.2
  refine ⟨⟨digest, UInt64.ofNat descriptor.size⟩, ?_⟩
  rw [OciDescriptor.ext_iff]
  exact ⟨hmediaType, hdigest, (toNat_ofNat (by omega)).symm⟩

lemma exists_counts {rootfs : PostChangesetRootfs} (h : rootfs.Facets) :
    ∃ counts : OciRootfsCounts, rootfs = counts.profileRootfs := by
  obtain ⟨hentries, hregulars, hdirectories, hlinks, hbytes⟩ := h
  refine ⟨⟨UInt64.ofNat rootfs.entryCount, UInt64.ofNat rootfs.regularFileCount,
    UInt64.ofNat rootfs.directoryCount, UInt64.ofNat rootfs.symbolicLinkCount,
    UInt64.ofNat rootfs.regularFileBytes⟩, ?_⟩
  rw [PostChangesetRootfs.ext_iff]
  exact ⟨(toNat_ofNat (by omega)).symm, (toNat_ofNat (by omega)).symm, (toNat_ofNat (by omega)).symm,
    (toNat_ofNat (by omega)).symm, (toNat_ofNat (by omega)).symm⟩

lemma exists_profileImage {image : OciImageIdentity}
    (h : image.Facets retainedHostRootfsMetadataPolicyId) :
    ∃ e : OciOuterUstarExpectation, image = e.profileImage image.archive.path := by
  obtain ⟨hpolicy, hmetadata, hversion, hcommit, hlayout, ⟨-, hlength, -, hsha, hencoding⟩, hmanifest,
    hconfig, hplatform, -, hlayers, hrootfs⟩ := h
  obtain ⟨archiveSha256, hsha⟩ := hex32_eq_encode hsha
  obtain ⟨manifest, hmanifest⟩ := exists_blob hmanifest
  obtain ⟨config, hconfig⟩ := exists_blob hconfig
  obtain ⟨layers, hlayers⟩ := exists_profileLayers hlayers
  obtain ⟨rootfs, hrootfs⟩ := exists_counts hrootfs
  have hlength' := hlength.2
  refine ⟨⟨UInt64.ofNat image.archive.byteLength, archiveSha256, manifest, config, layers, rootfs⟩, ?_⟩
  rw [OciImageIdentity.ext_iff, SpecPin.ext_iff, OciImageArchiveIdentity.ext_iff]
  exact ⟨hpolicy, hmetadata, ⟨hversion, hcommit⟩, hlayout,
    ⟨rfl, (toNat_ofNat (by omega)).symm, hsha, hencoding⟩, hmanifest, hconfig, hplatform, hlayers.symm,
    hrootfs⟩

end Spelling

section Projection

lemma unsignedField_ok {value : ℕ} {key : String} {word : UInt64} :
    unsignedField value key = .ok word ↔ value < 2 ^ 64 ∧ UInt64.ofNat value = word := by
  simp only [unsignedField, bind_ok, exists_unit, ensure_ok, pure_ok]

lemma unsignedField_toNat (word : UInt64) (key : String) : unsignedField word.toNat key = .ok word :=
  unsignedField_ok.mpr ⟨word.toNat_lt, UInt64.ofNat_toNat⟩

lemma decodeDigest_encode (d : Digest) (label : String) : decodeDigest (Hex.encode d.val) label = .ok d :=
  decodeDigest_ok.mpr (Hex.decode_encode _)

lemma decodeOciSha256Digest_format (d : Digest) (label : String) :
    decodeOciSha256Digest (formatSha256Digest d) label = .ok d :=
  decodeOciSha256Digest_ok.mpr ⟨formatSha256Digest_take d, by
    rw [formatSha256Digest_drop, Hex.decode_encode]⟩

lemma projectOciBlob_format (blob : OciBlobIdentity) (label : String) :
    projectOciBlob (formatSha256Digest blob.digest) blob.byteLength.toNat label = .ok blob := by
  rw [projectOciBlob, decodeOciSha256Digest_format, ok_bind, unsignedField_toNat, ok_bind]
  rfl

lemma projectOciLayer_profile (role : PositiveRunnerRole) (layer : OciExpectedLayer) (index : ℕ) :
    projectOciLayer role layer.profileLayer index = .ok layer := by
  simp only [projectOciLayer, OciExpectedLayer.profileLayer, projectOciBlob_format, ok_bind,
    unsignedField_toNat, decodeOciSha256Digest_format]
  rfl

lemma projectLayers_profile (role : PositiveRunnerRole) (layers : List OciExpectedLayer) (k : ℕ) :
    (((layers.map OciExpectedLayer.profileLayer).zipIdx k).mapM fun layer =>
      projectOciLayer role layer.1 layer.2) = .ok layers := by
  induction layers generalizing k with
  | nil => rfl
  | cons layer layers ih =>
    rw [List.map_cons, List.zipIdx_cons, List.mapM_cons, projectOciLayer_profile, ok_bind, ih]
    rfl

lemma projectRootfsCounts_profile (rootfs : OciRootfsCounts) :
    projectRootfsCounts rootfs.profileRootfs = .ok rootfs := by
  simp only [projectRootfsCounts, OciRootfsCounts.profileRootfs, unsignedField_toNat, ok_bind]
  rfl

lemma validateElfProjection_label {elf : ElfInspection} {linkage : Option (ℕ × ℕ)} {label label' : String}
    (h : validateElfProjection elf linkage label = .ok ()) :
    validateElfProjection elf linkage label' = .ok () := by
  simp only [validateElfProjection, bind_ok, exists_unit, ensure_ok] at h ⊢
  obtain ⟨hexecutable, hload, classified, hclassified, hbound, hlinkage⟩ := h
  refine ⟨hexecutable, hload, classified, hclassified, hbound, ?_⟩
  cases linkage with
  | none => rfl
  | some counts =>
    simp only at hlinkage ⊢
    split at hlinkage
    · rename_i hneeded
      rw [if_pos hneeded]
      simp only [bind_ok, ensure_ok] at hlinkage ⊢
      exact hlinkage
    · rename_i hneeded
      rw [if_neg hneeded]
      rfl

lemma projectElfIdentity_succeeds {path sha256 : Bytes} {byteLength interpreters dynamics : ℕ}
    {elf : ElfInspection} (hlength : byteLength ≤ 1073741824) (hsha : Hex32 sha256)
    (h : elf.Facets interpreters dynamics) (label : String) :
    ∃ identity, projectElfIdentity path byteLength sha256 elf label = .ok identity := by
  obtain ⟨d, rfl⟩ := hex32_eq_encode hsha
  obtain ⟨-, -, -, hprograms, hsections, hloads, hexecutables, -, -, -, hstack, -⟩ := h
  have hprograms := hprograms.2
  have hloads := hloads.2
  have hexecutables := hexecutables.2
  simp only [projectElfIdentity, bind_ok, pure_ok, unsignedField_ok, decodeDigest_encode, Except.ok.injEq]
  exact ⟨_, _, ⟨by omega, rfl⟩, _, rfl, _, ⟨by omega, rfl⟩, _, ⟨by omega, rfl⟩, _, ⟨by omega, rfl⟩, _,
    ⟨by omega, rfl⟩, _, ⟨by omega, rfl⟩, rfl⟩

lemma projectRuntimeElf_succeeds {executable : ImageBinaryIdentity} {imagePath : String}
    (h : executable.Facets imagePath) (label : String) :
    ∃ identity, projectPositiveRuntimeElfIdentity executable label = .ok identity := by
  obtain ⟨-, hlength, hsha, helf, -, hdynamic, hneeded⟩ := h
  obtain ⟨identity, hidentity⟩ :=
    @projectElfIdentity_succeeds executable.imagePath _ _ _ _ _ hlength.2 hsha helf label
  have hdynamic := hdynamic.2
  simp only [projectPositiveRuntimeElfIdentity, bind_ok, pure_ok, unsignedField_ok]
  exact ⟨_, identity, hidentity, _, ⟨by omega, rfl⟩, _, ⟨by omega, rfl⟩, rfl⟩

lemma projectRelease_succeeds {release : JavaReleaseIdentity} (h : release.Facets) {featureVersion : ℕ}
    (hfeature : featureVersion = 21) (vendor version : Bytes) (label : String) :
    ∃ identity, projectPositiveJvmReleaseIdentity release featureVersion vendor version label =
      .ok identity := by
  obtain ⟨-, hlength, hsha⟩ := h
  obtain ⟨d, hd⟩ := hex32_eq_encode hsha
  have hlength := hlength.2
  simp only [projectPositiveJvmReleaseIdentity, bind_ok, pure_ok, unsignedField_ok, hd,
    decodeDigest_encode, Except.ok.injEq]
  exact ⟨_, _, ⟨by omega, rfl⟩, _, rfl, _, ⟨by omega, rfl⟩, rfl⟩

lemma buildJdkClosure_succeeds {jdk : BuildJdk} (h : jdk.Facets) :
    ∃ closure, buildJdkClosure jdk = .ok closure := by
  obtain ⟨hpolicy, hlauncher, hcompiler, -⟩ := h
  obtain ⟨launcher, hlauncher⟩ := projectRuntimeElf_succeeds hlauncher "JVM build launcher"
  obtain ⟨compiler, hcompiler⟩ := projectRuntimeElf_succeeds hcompiler "JVM build compiler"
  simp only [buildJdkClosure, projectPositiveStartupDependencyPolicy, bind_ok, exists_unit, ensure_ok,
    pure_ok]
  exact ⟨_, hpolicy, launcher, hlauncher, compiler, hcompiler, rfl⟩

lemma javaRuntimeClosure_succeeds {java : JavaRuntime} (h : java.Facets) :
    ∃ closure, javaRuntimeClosure java = .ok closure := by
  obtain ⟨hpolicy, hlauncher, -⟩ := h
  obtain ⟨launcher, hlauncher⟩ := projectRuntimeElf_succeeds hlauncher "JVM verifier launcher"
  simp only [javaRuntimeClosure, projectPositiveStartupDependencyPolicy, bind_ok, exists_unit, ensure_ok,
    pure_ok]
  exact ⟨_, hpolicy, launcher, hlauncher, rfl⟩

variable {profile : RunnerProfile} {role : PositiveRunnerRole} {schema : SchemaVersion}

lemma projectJvm_succeeds (h : Facets schema profile) (hrole : profile.RoleFacets role) :
    (∃ closure, projectPositiveJvmExecutableClosure profile role = .ok closure) ∧
      ∃ release, projectPositiveJvmRelease profile role = .ok release := by
  obtain ⟨-, -, -, hjdk, hjava, -⟩ := hrole
  cases role with
  | rustValidatorBuild => exact ⟨⟨none, rfl⟩, none, rfl⟩
  | rustVerifier => exact ⟨⟨none, rfl⟩, none, rfl⟩
  | jvmValidatorBuild =>
    obtain ⟨jdk, hsome⟩ := Option.isSome_iff_exists.mp (hjdk.mpr rfl)
    have hfacets := h.buildJdk jdk hsome
    obtain ⟨closure, hclosure⟩ := buildJdkClosure_succeeds hfacets
    obtain ⟨-, -, -, hrelease, hfeature⟩ := hfacets
    obtain ⟨release, hrelease⟩ :=
      projectRelease_succeeds hrelease hfeature jdk.vendor jdk.version "JVM build JDK release"
    simp only [projectPositiveJvmExecutableClosure, projectPositiveJvmRelease, requireBuildJdk, hsome,
      context, ok_bind, hclosure, hrelease]
    exact ⟨⟨_, rfl⟩, _, rfl⟩
  | jvmVerifier =>
    obtain ⟨java, hsome⟩ := Option.isSome_iff_exists.mp (hjava.mpr rfl)
    have hfacets := h.javaRuntime java hsome
    obtain ⟨closure, hclosure⟩ := javaRuntimeClosure_succeeds hfacets
    obtain ⟨-, -, hrelease, hfeature⟩ := hfacets
    obtain ⟨release, hrelease⟩ :=
      projectRelease_succeeds hrelease hfeature java.vendor java.version "JVM verifier release"
    simp only [projectPositiveJvmExecutableClosure, projectPositiveJvmRelease, requireJavaRuntime, hsome,
      context, ok_bind, hclosure, hrelease]
    exact ⟨⟨_, rfl⟩, _, rfl⟩

lemma selectors_accepted {selectors : List (Bytes × Bytes)}
    (h : selectors = runtimeObservationSelectors.map fun selector => (utf8 selector.1, utf8 selector.2)) :
    validateRuntimeObservationSelectors selectors = .ok () := by
  rw [h]
  decide

lemma projectRuntimeContract_succeeds (h : profile.runtime.Facets) {label : String}
    (hrole : requireRole profile role label = .ok ())
    (helf : validateElfProjection profile.runtime.binary.elf none label = .ok ()) :
    ∃ contract, projectPositiveOciRuntimeContract profile role = .ok contract := by
  obtain ⟨hname, hversion, hspec, hcommit, hpolicy, hselectors, hbinary⟩ := h
  obtain ⟨-, hlength, hsha, hencoding, hformat, harchitecture, hlinkage, hinspection, hfacets⟩ := hbinary
  obtain ⟨identity, hidentity⟩ := @projectElfIdentity_succeeds profile.runtime.binary.path _ _ _ _ _
    hlength.2 hsha hfacets s!"{role.purpose} OCI runtime binary"
  obtain ⟨hstructural, -, -, -, -, -, -, hentry, hinterpreters, hdynamics, hstack, hwritable,
    hexecutable, hoverlap, hextended, hfailures⟩ := hfacets
  simp only [projectPositiveOciRuntimeContract, bind_ok, exists_unit, requireRole_ok, requireStringEq_ok,
    ensure_ok, selectors_accepted hselectors, forM_ok, staticElfCounts, requireU64Eq, List.forall_mem_cons,
    pure_ok, true_and]
  exact ⟨_, requireRole_ok.mp hrole, hname, hversion, hspec, hcommit, hpolicy, hencoding, hformat,
    harchitecture, hlinkage, hinspection, hstructural, validateElfProjection_label helf,
    ⟨hinterpreters, hdynamics, hstack, hwritable, hexecutable, hoverlap, hextended, hfailures,
      fun _ h => (by cases h)⟩, hentry, identity, hidentity, rfl⟩

lemma projectImageLayout_succeeds {e : OciOuterUstarExpectation} {label : String}
    (h : Facets runnerProfileSchema profile) (hrole : profile.RoleFacets role)
    (himage : profile.image = e.profileImage profile.image.archive.path)
    (helf : validateElfProjection profile.runtime.binary.elf none label = .ok ()) :
    ∃ layout, projectPositiveOciImageLayout profile role = .ok layout ∧ layout.role = role ∧
      layout.archiveByteLength = e.archiveByteLength ∧ layout.archiveSha256 = e.archiveSha256 ∧
      (⟨layout.manifest, layout.config, layout.layers, layout.postChangesetRootfs⟩ :
        OciImageExpectation) = e.image := by
  have hrequired : ∀ label, requireRole profile role label = .ok () := fun _ =>
    requireRole_ok.mpr ⟨hrole.1, hrole.2.1⟩
  obtain ⟨contract, hcontract⟩ :=
    projectRuntimeContract_succeeds h.runtime (hrequired label) helf
  obtain ⟨⟨closure, hclosure⟩, release, hrelease⟩ := projectJvm_succeeds h hrole
  obtain ⟨requirements, -, -, hrequirements, -⟩ := rolePolicy_requirements role
  rw [← hrole.2.2.1] at hrequirements
  have hpolicy : profile.image.retainedHostRootfsMetadataPolicy =
      utf8 retainedHostRootfsMetadataPolicyId := h.image.2.1
  have hlayers := projectLayers_profile role e.image.layers 0
  simp only [projectPositiveOciImageLayout, projectPositiveRetainedHostRootfsMetadataPolicy, bind_ok,
    exists_unit, hrequired, hcontract, requireStringEq_ok, hpolicy, hclosure, hrelease, hrequirements,
    pure_ok, Except.ok.injEq, exists_eq_left', true_and]
  rw [himage]
  simp only [OciOuterUstarExpectation.profileImage, hlayers, unsignedField_toNat, decodeDigest_encode,
    projectOciBlob_format, projectRootfsCounts_profile, Except.ok.injEq, exists_eq_left']
  exact ⟨trivial, trivial, trivial, trivial⟩

end Projection

section Claim

lemma projectSlot_succeeds {canonicalizer : Canonicalizer} {e : OciOuterUstarExpectation}
    {layout : PositiveOciImageLayout} (hlength : layout.archiveByteLength = e.archiveByteLength)
    (hsha : layout.archiveSha256 = e.archiveSha256)
    (himage : (⟨layout.manifest, layout.config, layout.layers, layout.postChangesetRootfs⟩ :
      OciImageExpectation) = e.image)
    (h : validateOuterUstarExpectation canonicalizer e = .ok ()) (rootIndex : ℕ) (relativePath : Bytes) :
    ∃ slot, projectAuthenticatedOciOuterUstarSlot canonicalizer ⟨rootIndex, relativePath, layout⟩ =
      .ok slot ∧ slot.expectation = e := by
  obtain ⟨hb, hc⟩ := validateOuterUstarExpectation_ok.mp h
  have hvalid := validateOciImageExpectation_ok.mpr ⟨hb.manifest, hb.config, hb.layers, hc.config,
    hb.layer, hc.digests, hc.diffIds, hc.total, hb.entries, hc.typed, hc.bytes⟩
  simp only [projectAuthenticatedOciOuterUstarSlot, projectAuthenticatedOciImageExpectation, himage,
    hlength, hsha, bind_ok, exists_unit, hvalid, pure_ok, true_and, exists_eq_left']
  exact ⟨_, ⟨h, rfl⟩, rfl⟩

/-- The gate and the importer agree on the images of runner profiles, and on the lengths of their
archives. -/
theorem gate_and_importer_agree (canonicalizer : Canonicalizer) :
    (∀ profile role label policyId, Facets runnerProfileSchema profile →
      profile.runnerProfileIndex = role.index →
      validateRunnerProfileWithMetadataPolicy canonicalizer profile label policyId = .ok () →
      ∃ layout, projectPositiveOciImageLayout profile role = .ok layout ∧
        ∀ rootIndex relativePath, ∃ slot,
          projectAuthenticatedOciOuterUstarSlot canonicalizer ⟨rootIndex, relativePath, layout⟩ =
            .ok slot ∧
          (canonicalOciIndexBytes canonicalizer profile.image).length =
            (canonicalizer.toVec (expectedIndexValue slot.expectation.image)).length ∧
          expectedOciArchiveByteLength canonicalizer profile.image =
            .ok slot.expectation.archiveByteLength.toNat ∧
          outerUstarFootprint (canonicalizer.toVec (expectedIndexValue slot.expectation.image)).length
            slot.expectation.image = .ok slot.expectation.archiveByteLength.toNat) ∧
    ∀ e path profile label, validateOuterUstarExpectation canonicalizer e = .ok () →
      profile.platform = linuxAmd64 → profile.image = e.profileImage path →
      validateImage canonicalizer profile label retainedHostRootfsMetadataPolicyId = .ok () ∧
        (RelativePath path → profile.image.Facets retainedHostRootfsMetadataPolicyId) := by
  constructor
  · intro profile role label policyId hfacets hindex h
    simp only [validateRunnerProfileWithMetadataPolicy, bind_ok, exists_unit] at h
    obtain ⟨hgate, hruntimes⟩ := h
    obtain ⟨e, himage⟩ := exists_profileImage hfacets.image
    have hpolicy : utf8 retainedHostRootfsMetadataPolicyId = utf8 policyId := by
      simp only [validateImage, bind_ok, exists_unit, requireStringEq_ok] at hgate
      exact hfacets.image.2.1.symm.trans hgate.2.1
    have helf : ∃ label', validateElfProjection profile.runtime.binary.elf none label' = .ok () := by
      simp only [validateRuntimes, bind_ok, exists_unit] at hruntimes
      exact ⟨_, hruntimes.2.2.2.1⟩
    obtain ⟨_, helf⟩ := helf
    obtain ⟨-, hconsistent⟩ := (validateImage_ok himage hfacets.platform hpolicy).mp hgate
    have hbounded := bounded_of_facets (himage ▸ hfacets.image)
    have hvalid := validateOuterUstarExpectation_ok.mpr ⟨hbounded, hconsistent⟩
    obtain ⟨layout, hlayout, -, hlength, hsha, hprojected⟩ :=
      projectImageLayout_succeeds hfacets (hfacets.roleFacets hindex) himage helf
    refine ⟨layout, hlayout, ?_⟩
    intro rootIndex relativePath
    obtain ⟨slot, hslot, rfl⟩ :=
      projectSlot_succeeds hlength hsha hprojected hvalid rootIndex relativePath
    refine ⟨slot, hslot, ?_, ?_, hconsistent.footprint⟩
    · rw [himage, canonicalOciIndexBytes_eq]
    · rw [himage]
      exact (footprint_ok canonicalizer _ _).mpr hconsistent.footprint
  · intro e path profile label h hplatform himage
    obtain ⟨hb, hc⟩ := validateOuterUstarExpectation_ok.mp h
    refine ⟨(validateImage_ok himage hplatform rfl).mpr ⟨hb.layers, hc⟩, ?_⟩
    intro hpath
    rw [himage]
    exact facets_of_bounded hpath hb hc

end Claim

end Eip0045.Oci
