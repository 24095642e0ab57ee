import Mathlib
import Eip0045.Oci.H0Encoding

/-! The commitments of a request projection bind everything that they cover, and the projections of
accepted runner profiles. -/

namespace Eip0045.Oci

open Bytes Checked

section Layout

structure SameArchive (a b : OciImageArchiveIdentity) : Prop where
  path : a.path = b.path
  byteLength : a.byteLength = b.byteLength
  sha256 : SameDigest a.sha256 b.sha256

/-- The preimage of a layout, which a projection reaches only with these fields. -/
structure LayoutEncoded (image : OciImageIdentity) (roleByte : UInt8) (archiveCommitment : Digest)
    (preimage : Bytes) : Prop where
  bound : 1 ≤ image.layers.length ∧ image.layers.length ≤ 128
  parts : ∃ manifest config : Digest, ∃ manifestSize configSize : UInt64, ∃ layers : List Bytes,
    decodeOciSha256Digest image.manifest.digest "H0 OCI manifest digest" = .ok manifest ∧
    u64Field image.manifest.size "size" = .ok manifestSize ∧
    decodeOciSha256Digest image.config.digest "H0 OCI config digest" = .ok config ∧
    u64Field image.config.size "size" = .ok configSize ∧
    (image.layers.zipIdx.mapM fun layer => h0OciLayer layer.1 layer.2) = .ok layers ∧
    preimage = h0OciImageLayoutDomain ++ [roleByte] ++ archiveCommitment.val ++ manifest.val ++
      le64 manifestSize ++ config.val ++ le64 configSize ++
      le16 (UInt16.ofNat image.layers.length) ++ layers.flatten

lemma layoutDomain_length : h0OciImageLayoutDomain.length = 42 := domains_checked.1.2.1

lemma LayoutEncoded.length {image : OciImageIdentity} {roleByte : UInt8} {commitment : Digest}
    {preimage : Bytes} (h : LayoutEncoded image roleByte commitment preimage) :
    preimage.length = 157 + 80 * image.layers.length := by
  obtain ⟨_, _, _, _, layers, -, -, -, -, hlayers, rfl⟩ := h.parts
  simp only [List.length_append, layoutDomain_length, List.length_singleton, digest_length, le64_length,
    le16_length, layersEncoded_length (layersEncoded hlayers)]

lemma h0OciLayoutPreimage_ok {image : OciImageIdentity} {roleByte : UInt8} {commitment : Digest}
    {preimage : Bytes} : h0OciLayoutPreimage image roleByte commitment = .ok preimage ↔
      LayoutEncoded image roleByte commitment preimage := by
  simp only [h0OciLayoutPreimage, bind_ok, exists_unit, check_ok, require_ok, reported_ok, ensure_ok,
    Statement.checkedMul_eq_some, checkedAdd_eq_some, pure_ok]
  constructor
  · intro h
    obtain ⟨hbound, _, -, _, -, manifest, hmanifest, manifestSize, hmanifestSize, config, hconfig,
      configSize, hconfigSize, -, layers, hlayers, -, h⟩ := h
    exact ⟨hbound, manifest, config, manifestSize, configSize, layers, hmanifest, hmanifestSize, hconfig,
      hconfigSize, hlayers, h.symm⟩
  · intro h
    have hbound := h.bound
    have hlength := h.length
    obtain ⟨manifest, config, manifestSize, configSize, layers, hmanifest, hmanifestSize, hconfig,
      hconfigSize, hlayers, rfl⟩ := h.parts
    exact ⟨hbound, _, ⟨by omega, rfl⟩, _, ⟨by omega, rfl⟩, manifest, hmanifest, manifestSize,
      hmanifestSize, config, hconfig, configSize, hconfigSize, by omega, layers, hlayers, hlength, rfl⟩

lemma h0OciLayoutPreimage_noDrift (image : OciImageIdentity) (roleByte : UInt8) (commitment : Digest) :
    NoDrift (h0OciLayoutPreimage image roleByte commitment) := by
  rw [h0OciLayoutPreimage]
  apply noDrift_bind (noDrift_check _ _)
  intro _ hbound
  apply noDrift_bind (noDrift_require _ _)
  intro layerLength hlayerLength
  apply noDrift_bind (noDrift_require _ _)
  intro ociLength hociLength
  apply noDrift_bind (noDrift_reported _)
  intro manifest hmanifest
  apply noDrift_bind (noDrift_u64Field _ _)
  intro manifestSize hmanifestSize
  apply noDrift_bind (noDrift_reported _)
  intro config hconfig
  apply noDrift_bind (noDrift_u64Field _ _)
  intro configSize hconfigSize
  apply noDrift_bind (noDrift_check _ _)
  intro _ _
  apply noDrift_bind
  · apply noDrift_mapM
    intro layer
    apply noDrift_bind (noDrift_reported _)
    intro _ _
    apply noDrift_bind (noDrift_u64Field _ _)
    intro _ _
    apply noDrift_bind (noDrift_u64Field _ _)
    intro _ _
    exact noDrift_bind (noDrift_reported _) fun _ _ => noDrift_pure _
  · intro layers hlayers
    have hencoded : LayoutEncoded image roleByte commitment _ :=
      ⟨check_ok.mp hbound, manifest, config, manifestSize, configSize, layers,
        reported_ok.mp hmanifest, hmanifestSize, reported_ok.mp hconfig, hconfigSize,
        hlayers, rfl⟩
    rw [require_ok, checkedAdd_eq_some] at hociLength
    rw [require_ok, Statement.checkedMul_eq_some] at hlayerLength
    have hlength : 157 + 80 * image.layers.length = ociLength := by
      rw [← hociLength.2, ← hlayerLength.2]
    apply noDrift_bind (noDrift_ensure (hencoded.length.trans hlength))
    intro _ _
    exact noDrift_pure _

/-- What a layout commitment covers beside the archive. -/
structure SameGraph (a b : OciImageIdentity) : Prop where
  manifest : SameDescriptor a.manifest b.manifest
  config : SameDescriptor a.config b.config
  layers : List.Forall₂ SameLayer a.layers b.layers

lemma LayoutEncoded.injective {a b : OciImageIdentity} {r s : UInt8} {c d : Digest} {preimage : Bytes}
    (ha : LayoutEncoded a r c preimage) (hb : LayoutEncoded b s d preimage) :
    r = s ∧ c = d ∧ SameGraph a b := by
  have hlayers : a.layers.length = b.layers.length := by
    have hlength := ha.length.symm.trans hb.length
    omega
  obtain ⟨m, g, ms, gs, x, hm, hms, hg, hgs, hx, rfl⟩ := ha.parts
  obtain ⟨m', g', ms', gs', y, hm', hms', hg', hgs', hy, h⟩ := hb.parts
  obtain ⟨h, hflat⟩ := List.append_inj' h (by
    rw [layersEncoded_length (layersEncoded hx), layersEncoded_length (layersEncoded hy), hlayers])
  obtain ⟨h, -⟩ := List.append_inj' h (by simp)
  obtain ⟨h, hconfigSize⟩ := List.append_inj' h (by simp)
  obtain ⟨h, hconfig⟩ := List.append_inj' h (by simp)
  obtain ⟨h, hmanifestSize⟩ := List.append_inj' h (by simp)
  obtain ⟨h, hmanifest⟩ := List.append_inj' h (by simp)
  obtain ⟨h, hcommitment⟩ := List.append_inj' h (by simp)
  obtain ⟨-, hrole⟩ := List.append_inj' h rfl
  refine ⟨List.singleton_inj.mp hrole, Subtype.ext hcommitment, ?_⟩
  exact {
    manifest := ⟨decodeOciSha256Digest_injective hm hm' hmanifest,
      u64Field_injective hms hms' hmanifestSize⟩
    config := ⟨decodeOciSha256Digest_injective hg hg' hconfig, u64Field_injective hgs hgs' hconfigSize⟩
    layers := layersEncoded_injective (layersEncoded hx) (layersEncoded hy) hlayers hflat }

end Layout

section Plan

/-- The preimage of a plan, which a projection reaches only with these fields. -/
structure PlanEncoded (profile : RunnerProfile) (role : PositiveRunnerRole) (roleByte : UInt8)
    (preimage : Bytes) : Prop where
  parts : ∃ requirements measured provider, ∃ modeTable : Digest,
    ∃ entries regulars directories links bytes, ∃ encoded : List Bytes,
    projectPositiveRootfsPathRequirements profile.policy role = .ok requirements ∧
    (1 ≤ requirements.length ∧ requirements.length ≤ 16) ∧
    requirements.foldlM measureRequirement (none, 112) = .ok measured ∧ profile.retainedHostRootfsMetadataProvider = some provider ∧
    decodeDigest provider.expectedModeTableSha256 "H0 expected-mode-table SHA-256" = .ok modeTable ∧
    u64Field profile.image.postChangesetRootfs.entryCount "entryCount" = .ok entries ∧
    u64Field profile.image.postChangesetRootfs.regularFileCount "regularFileCount" = .ok regulars ∧
    u64Field profile.image.postChangesetRootfs.directoryCount "directoryCount" = .ok directories ∧
    u64Field profile.image.postChangesetRootfs.symbolicLinkCount "symbolicLinkCount" = .ok links ∧
    u64Field profile.image.postChangesetRootfs.regularFileBytes "regularFileBytes" = .ok bytes ∧
    requirements.mapM h0Requirement = .ok encoded ∧
    preimage = h0RootfsPlanDomain ++ [roleByte] ++ modeTable.val ++ le64 entries ++ le64 regulars ++
      le64 directories ++ le64 links ++ le64 bytes ++ le16 (UInt16.ofNat requirements.length) ++
      encoded.flatten

lemma planDomain_length : h0RootfsPlanDomain.length = 37 := domains_checked.1.2.2

lemma h0RootfsPlanPreimage_ok {profile : RunnerProfile} {role : PositiveRunnerRole} {roleByte : UInt8}
    {preimage : Bytes} : h0RootfsPlanPreimage profile role roleByte = .ok preimage ↔
      PlanEncoded profile role roleByte preimage := by
  simp only [h0RootfsPlanPreimage, requireProvider, bind_ok, exists_unit, check_ok, reported_ok,
    context_ok, ensure_ok, pure_ok]
  constructor
  · intro h
    obtain ⟨requirements, hrequirements, hbound, measured, hmeasured, provider, hprovider, modeTable,
      hmodeTable, entries, hentries, regulars, hregulars, directories, hdirectories, links, hlinks, bytes,
      hbytes, -, encoded, hencoded, -, h⟩ := h
    exact ⟨requirements, measured, provider, modeTable, entries, regulars, directories, links, bytes,
      encoded, hrequirements, hbound, hmeasured, hprovider, hmodeTable, hentries, hregulars, hdirectories,
      hlinks, hbytes, hencoded, h.symm⟩
  · intro h
    obtain ⟨requirements, measured, provider, modeTable, entries, regulars, directories, links, bytes,
      encoded, hrequirements, hbound, hmeasured, hprovider, hmodeTable, hentries, hregulars, hdirectories,
      hlinks, hbytes, hencoded, rfl⟩ := h.parts
    refine ⟨requirements, hrequirements, hbound, measured, hmeasured, provider, hprovider, modeTable,
      hmodeTable, entries, hentries, regulars, hregulars, directories, hdirectories, links, hlinks, bytes,
      hbytes, by omega, encoded, hencoded, ?_, rfl⟩
    simp only [List.length_append, planDomain_length, List.length_singleton, digest_length, le64_length,
      le16_length, requirements_length hencoded, measured_length hmeasured]

lemma noDrift_requirementPath (path : Bytes) : NoDrift (validateH0RootfsRequirementPath path) := by
  rw [validateH0RootfsRequirementPath]
  apply noDrift_bind (noDrift_check _ _)
  intro _ _
  apply noDrift_bind (noDrift_check _ _)
  intro _ _
  apply noDrift_bind (noDrift_check _ _)
  intro _ _
  exact noDrift_forM (fun _ => noDrift_check _ _) _

lemma noDrift_measure (seen : Option Bytes × ℕ) (requirement : Bytes × RootfsPathKind) :
    NoDrift (measureRequirement seen requirement) := by
  rw [measureRequirement]
  apply noDrift_bind (noDrift_requirementPath _)
  intro _ _
  apply noDrift_bind (noDrift_check _ _)
  intro _ _
  apply noDrift_bind (noDrift_require _ _)
  intro _ _
  apply noDrift_bind (noDrift_require _ _)
  intro _ _
  exact noDrift_pure _

lemma h0RootfsPlanPreimage_noDrift (profile : RunnerProfile) (role : PositiveRunnerRole)
    (roleByte : UInt8) : NoDrift (h0RootfsPlanPreimage profile role roleByte) := by
  rw [h0RootfsPlanPreimage]
  apply noDrift_bind (noDrift_reported _)
  intro requirements _
  apply noDrift_bind (noDrift_check _ _)
  intro _ _
  apply noDrift_bind (noDrift_foldlM noDrift_measure _ _)
  intro measured hmeasured
  apply noDrift_bind (noDrift_reported _)
  intro _ _
  apply noDrift_bind (noDrift_reported _)
  intro modeTable _
  apply noDrift_bind (noDrift_u64Field _ _)
  intro entries _
  apply noDrift_bind (noDrift_u64Field _ _)
  intro regulars _
  apply noDrift_bind (noDrift_u64Field _ _)
  intro directories _
  apply noDrift_bind (noDrift_u64Field _ _)
  intro links _
  apply noDrift_bind (noDrift_u64Field _ _)
  intro bytes _
  apply noDrift_bind (noDrift_check _ _)
  intro _ _
  apply noDrift_bind
  · apply noDrift_mapM
    intro requirement
    exact noDrift_bind (noDrift_check _ _) fun _ _ => noDrift_pure _
  · intro encoded hencoded
    have hlength : (h0RootfsPlanDomain ++ [roleByte] ++ modeTable.val ++ le64 entries ++ le64 regulars ++
        le64 directories ++ le64 links ++ le64 bytes ++ le16 (UInt16.ofNat requirements.length) ++
        encoded.flatten).length = measured.2 := by
      simp only [List.length_append, planDomain_length, List.length_singleton, digest_length,
        le64_length, le16_length, requirements_length hencoded, measured_length hmeasured]
    apply noDrift_bind (noDrift_ensure hlength)
    intro _ _
    exact noDrift_pure _

/-- What a plan commitment covers beside the role. -/
structure SamePlan (a b : RunnerProfile) (r s : PositiveRunnerRole) : Prop where
  modeTable : ∃ p q, a.retainedHostRootfsMetadataProvider = some p ∧
    b.retainedHostRootfsMetadataProvider = some q ∧
    SameDigest p.expectedModeTableSha256 q.expectedModeTableSha256
  rootfs : a.image.postChangesetRootfs = b.image.postChangesetRootfs
  requirements : projectPositiveRootfsPathRequirements a.policy r =
    projectPositiveRootfsPathRequirements b.policy s

lemma PlanEncoded.injective {a b : RunnerProfile} {r s : PositiveRunnerRole} {u v : UInt8}
    {preimage : Bytes} (ha : PlanEncoded a r u preimage) (hb : PlanEncoded b s v preimage) :
    u = v ∧ SamePlan a b r s := by
  obtain ⟨x, _, p, m, e, f, d, l, n, xs, hx, hxb, -, hp, hm, he, hf, hd, hl, hn, hxs, rfl⟩ := ha.parts
  obtain ⟨y, _, q, m', e', f', d', l', n', ys, hy, hyb, -, hq, hm', he', hf', hd', hl', hn', hys, h⟩ :=
    hb.parts
  simp only [List.append_assoc] at h
  obtain ⟨-, h⟩ := List.append_inj h rfl
  obtain ⟨hrole, h⟩ := List.append_inj h rfl
  obtain ⟨hmode, h⟩ := List.append_inj h (by simp)
  obtain ⟨hentries, h⟩ := List.append_inj h (by simp)
  obtain ⟨hregulars, h⟩ := List.append_inj h (by simp)
  obtain ⟨hdirectories, h⟩ := List.append_inj h (by simp)
  obtain ⟨hlinks, h⟩ := List.append_inj h (by simp)
  obtain ⟨hbytes, h⟩ := List.append_inj h (by simp)
  obtain ⟨hcount, hflat⟩ := List.append_inj h (by simp)
  have hlength : x.length = y.length := le16_ofNat_injective (by omega) (by omega) hcount
  have hxy := requirements_injective (mapM_forall₂.mp hxs) (mapM_forall₂.mp hys) hlength hflat
  refine ⟨List.singleton_inj.mp hrole, ?_⟩
  exact {
    modeTable := ⟨p, q, hp, hq, decodeDigest_injective hm hm' hmode⟩
    rootfs := by
      rw [PostChangesetRootfs.ext_iff]
      exact ⟨u64Field_injective he he' hentries, u64Field_injective hf hf' hregulars,
        u64Field_injective hd hd' hdirectories, u64Field_injective hl hl' hlinks,
        u64Field_injective hn hn' hbytes⟩
    requirements := by rw [hx, hy, hxy] }

end Plan

open CanonicalJson

section Acceptance

lemma index_injective : Function.Injective PositiveRunnerRole.index := by
  intro r s h
  cases r <;> cases s <;> first | rfl | exact absurd h (by decide)

lemma Facets.roleFacets {schema : SchemaVersion} {profile : RunnerProfile} {role : PositiveRunnerRole}
    (h : Facets schema profile) (hindex : profile.runnerProfileIndex = role.index) :
    profile.RoleFacets role := by
  have hany : ∃ r, profile.RoleFacets r := by
    obtain h | h | h | h := h.role
    · exact ⟨_, h⟩
    · exact ⟨_, h⟩
    · exact ⟨_, h⟩
    · exact ⟨_, h⟩
  obtain ⟨r, hr⟩ := hany
  rwa [index_injective (hr.1.symm.trans hindex)] at hr

lemma requireRole_ok {profile : RunnerProfile} {role : PositiveRunnerRole} {label : String} :
    requireRole profile role label = .ok () ↔
      profile.runnerProfileIndex = role.index ∧ profile.purpose = utf8 role.purpose := by
  simp only [requireRole, bind_ok, exists_unit, ensure_ok]

lemma accepted {canonicalizer : Canonicalizer} {profile : RunnerProfile} {role : PositiveRunnerRole}
    (h : validateV2RunnerProfile canonicalizer profile role = .ok ()) :
    Facets runnerProfileV2Schema profile ∧ profile.RoleFacets role := by
  simp only [validateV2RunnerProfile, bind_ok, exists_unit, ensure_ok, requireRole_ok] at h
  obtain ⟨hfacets, -, ⟨hindex, -⟩, -⟩ := h
  exact ⟨hfacets, hfacets.roleFacets hindex⟩

end Acceptance

section Success

lemma mapM_succeeds {ε α β : Type} {f : α → Except ε β} {xs : List α} (h : ∀ x ∈ xs, ∃ y, f x = .ok y) :
    ∃ ys, xs.mapM f = .ok ys := by
  induction xs with
  | nil => exact ⟨[], rfl⟩
  | cons x xs ih =>
    obtain ⟨y, hy⟩ := h x List.mem_cons_self
    obtain ⟨ys, hys⟩ := ih fun z hz => h z (List.mem_cons_of_mem x hz)
    refine ⟨y :: ys, ?_⟩
    rw [List.mapM_cons, hy, hys]
    rfl

lemma toOption_eq_some {ε α : Type} {x : Except ε α} {a : α} : x.toOption = some a ↔ x = .ok a := by
  cases x <;> simp [Except.toOption]

lemma decodeDigest_of_hex {value : Bytes} (h : Hex32 value) : ∃ digest : Digest,
    Hex.decode value = some digest.val := by
  obtain ⟨bytes, hbytes, hlength, -⟩ := Hex.encode_decode h.2 (n := 32) h.1
  exact ⟨⟨bytes, hlength⟩, hbytes⟩

lemma h0OciLayer_succeeds {layer : LayerIdentity} (h : layer.Facets) (index : ℕ) :
    ∃ bytes, h0OciLayer layer index = .ok bytes := by
  obtain ⟨⟨hdigest, hhex⟩, hsize, hbytes, -, hdiff, hhex'⟩ := h
  obtain ⟨digest, hdecoded⟩ := decodeDigest_of_hex hhex
  obtain ⟨diffId, hdecoded'⟩ := decodeDigest_of_hex hhex'
  have hsize' := hsize.2
  have hbytes' := hbytes.2
  exact ⟨_, h0OciLayer_ok.mpr
    ⟨digest, diffId, hdigest, hdecoded, by omega, by omega, hdiff, hdecoded', rfl⟩⟩

lemma h0OciLayoutPreimage_succeeds {image : OciImageIdentity} {metadataPolicy : String}
    (h : image.Facets metadataPolicy) (roleByte : UInt8) (commitment : Digest) :
    ∃ preimage, h0OciLayoutPreimage image roleByte commitment = .ok preimage := by
  obtain ⟨-, -, -, -, -, -, hmanifest, hconfig, -, hcount, hlayers, -⟩ := h
  obtain ⟨manifest, hm⟩ := decodeDigest_of_hex hmanifest.2.1.2
  obtain ⟨config, hg⟩ := decodeDigest_of_hex hconfig.2.1.2
  have hencoded : ∃ encoded,
      (image.layers.zipIdx.mapM fun layer => h0OciLayer layer.1 layer.2) = .ok encoded := by
    apply mapM_succeeds
    intro layer hlayer
    exact h0OciLayer_succeeds (hlayers layer.1 (List.fst_mem_of_mem_zipIdx hlayer)) layer.2
  obtain ⟨encoded, hencoded⟩ := hencoded
  have hmanifestSize := hmanifest.2.2.2
  have hconfigSize := hconfig.2.2.2
  have hlayout : LayoutEncoded image roleByte commitment _ := ⟨hcount, manifest, config, _, _, encoded,
    decodeOciSha256Digest_ok.mpr ⟨hmanifest.2.1.1, hm⟩, u64Field_ok.mpr ⟨by omega, rfl⟩,
    decodeOciSha256Digest_ok.mpr ⟨hconfig.2.1.1, hg⟩, u64Field_ok.mpr ⟨by omega, rfl⟩, hencoded, rfl⟩
  exact ⟨_, h0OciLayoutPreimage_ok.mpr hlayout⟩

lemma rolePolicy_requirements (role : PositiveRunnerRole) : ∃ requirements measured encoded,
    projectPositiveRootfsPathRequirements (rolePolicy role) role = .ok requirements ∧
    (1 ≤ requirements.length ∧ requirements.length ≤ 16) ∧
    requirements.foldlM measureRequirement (none, 112) = .ok measured ∧
    requirements.mapM h0Requirement = .ok encoded := by
  have hrun : (do
      let requirements ← reported (projectPositiveRootfsPathRequirements (rolePolicy role) role)
      check (1 ≤ requirements.length ∧ requirements.length ≤ 16) ""
      let measured ← requirements.foldlM measureRequirement (none, 112)
      let encoded ← requirements.mapM h0Requirement
      pure (measured, encoded)).toOption.isSome = true := by
    cases role <;> decide
  obtain ⟨_, hrun⟩ := Option.isSome_iff_exists.mp hrun
  rw [toOption_eq_some] at hrun
  simp only [bind_ok, exists_unit, reported_ok, check_ok] at hrun
  obtain ⟨requirements, hrequirements, hbound, measured, hmeasured, encoded, hencoded, -⟩ := hrun
  exact ⟨requirements, measured, encoded, hrequirements, hbound, hmeasured, hencoded⟩

lemma h0RootfsPlanPreimage_succeeds {profile : RunnerProfile} {role : PositiveRunnerRole}
    (h : Facets runnerProfileV2Schema profile) (hrole : profile.RoleFacets role) (roleByte : UInt8) :
    ∃ preimage, h0RootfsPlanPreimage profile role roleByte = .ok preimage := by
  obtain ⟨requirements, measured, encoded, hrequirements, hbound, hmeasured, hencoded⟩ :=
    rolePolicy_requirements role
  rw [← hrole.2.2.1] at hrequirements
  obtain ⟨provider, hprovider⟩ := Option.isSome_iff_exists.mp h.provided
  obtain ⟨-, -, -, -, hhex⟩ := h.provider provider hprovider
  obtain ⟨modeTable, hmodeTable⟩ := decodeDigest_of_hex hhex
  obtain ⟨-, -, -, -, -, -, -, -, -, -, -, hentries, hregulars, hdirectories, hlinks, hbytes⟩ := h.image
  have hplan : PlanEncoded profile role roleByte _ := ⟨requirements, measured, provider, modeTable, _, _, _,
    _, _, encoded, hrequirements, hbound, hmeasured, hprovider, decodeDigest_ok.mpr hmodeTable,
    u64Field_ok.mpr ⟨by omega, rfl⟩, u64Field_ok.mpr ⟨by omega, rfl⟩, u64Field_ok.mpr ⟨by omega, rfl⟩,
    u64Field_ok.mpr ⟨by omega, rfl⟩, u64Field_ok.mpr ⟨by omega, rfl⟩, hencoded, rfl⟩
  exact ⟨_, h0RootfsPlanPreimage_ok.mpr hplan⟩

lemma runnerKind_compatible (role : PositiveRunnerRole) : CompatiblePair (2 + UInt8.ofNat role.index) 1 := by
  cases role <;> decide

end Success

end Eip0045.Oci
