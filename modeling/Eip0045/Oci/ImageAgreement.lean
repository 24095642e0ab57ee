import Mathlib
import Eip0045.Library.Jcs
import Eip0045.Library.Scans
import Eip0045.Oci.H0Binding
import Eip0045.Oci.ImageImport

/-! The gate and the importer accept the same images. -/

namespace Eip0045.Oci

open Bytes Checked CanonicalJson Scans

section Scans

lemma scanLayer_ok {label : String} {scan next : LayerScan} {layer : LayerIdentity} :
    scanLayer label scan layer = .ok next ↔ layer.digest ∉ scan.blobDigests ∧
      layer.diffId ∉ scan.diffIds ∧ scan.uncompressedBytes + layer.uncompressedBytes < 2 ^ 64 ∧
      next = ⟨layer.digest :: scan.blobDigests, layer.diffId :: scan.diffIds,
        scan.uncompressedBytes + layer.uncompressedBytes⟩ := by
  simp only [scanLayer, bind_ok, exists_unit, ensure_ok, context_ok, checkedAdd_eq_some, pure_ok]
  constructor
  · intro h
    obtain ⟨hdigest, hdiff, _, ⟨hsum, rfl⟩, h⟩ := h
    exact ⟨hdigest, hdiff, hsum, h.symm⟩
  · intro h
    obtain ⟨hdigest, hdiff, hsum, h⟩ := h
    exact ⟨hdigest, hdiff, _, ⟨hsum, rfl⟩, h.symm⟩

def uncompressedTotal (layers : List LayerIdentity) : ℕ :=
  (layers.map LayerIdentity.uncompressedBytes).sum

lemma scanLayers_ok {label : String} {layers : List LayerIdentity} {scan : LayerScan} {total : ℕ}
    (hscan : scan.uncompressedBytes < 2 ^ 64) :
    (∃ last, layers.foldlM (scanLayer label) scan = .ok last ∧ last.uncompressedBytes = total) ↔
      Fresh scan.blobDigests (layers.map LayerIdentity.digest) ∧
      Fresh scan.diffIds (layers.map LayerIdentity.diffId) ∧
      scan.uncompressedBytes + uncompressedTotal layers < 2 ^ 64 ∧
      scan.uncompressedBytes + uncompressedTotal layers = total := by
  induction layers generalizing scan with
  | nil =>
    simp only [List.foldlM_nil, pure_ok, exists_eq_left', List.map_nil, fresh_nil, true_and,
      uncompressedTotal, List.sum_nil, Nat.add_zero, hscan]
  | cons layer layers ih =>
    simp only [List.foldlM_cons, bind_ok, scanLayer_ok, List.map_cons, fresh_cons, uncompressedTotal,
      List.sum_cons]
    constructor
    · intro h
      obtain ⟨last, ⟨next, ⟨hdigest, hdiff, hsum, rfl⟩, hlast⟩, htotal⟩ := h
      obtain ⟨hdigests, hdiffs, hbound, htotal⟩ := (ih hsum).mp ⟨last, hlast, htotal⟩
      rw [Nat.add_assoc] at hbound htotal
      exact ⟨⟨hdigest, hdigests⟩, ⟨hdiff, hdiffs⟩, hbound, htotal⟩
    · intro h
      obtain ⟨⟨hdigest, hdigests⟩, ⟨hdiff, hdiffs⟩, hbound, htotal⟩ := h
      rw [← Nat.add_assoc] at hbound htotal
      have hsum : scan.uncompressedBytes + layer.uncompressedBytes < 2 ^ 64 := by omega
      obtain ⟨last, hlast, htotal⟩ := (@ih ⟨layer.digest :: scan.blobDigests,
        layer.diffId :: scan.diffIds, scan.uncompressedBytes + layer.uncompressedBytes⟩ hsum).mpr
        ⟨hdigests, hdiffs, hbound, htotal⟩
      exact ⟨last, ⟨_, ⟨hdigest, hdiff, hsum, rfl⟩, hlast⟩, htotal⟩

/-- The bounds that the importer puts on a layer. -/
def LayerBounds (layer : OciExpectedLayer) : Prop :=
  (ociLayerMinBytes ≤ layer.compressed.byteLength.toNat ∧
      layer.compressed.byteLength.toNat ≤ ociLayerMaxBytes) ∧
    (ociLayerMinUncompressedBytes ≤ layer.uncompressedBytes.toNat ∧
      layer.uncompressedBytes.toNat ≤ ociLayerMaxUncompressedBytes) ∧
    layer.uncompressedBytes.toNat % 512 = 0

lemma scanExpectedLayer_ok {scan next : ExpectationScan} {layer : OciExpectedLayer} {index : ℕ} :
    scanExpectedLayer scan layer index = .ok next ↔ LayerBounds layer ∧
      layer.compressed.digest ∉ scan.compressedDigests ∧ layer.diffId ∉ scan.diffIds ∧
      (scan.aggregateUncompressedBytes + layer.uncompressedBytes.toNat ≤
        ociMaxAggregateUncompressedBytes) ∧
      next = ⟨layer.compressed.digest :: scan.compressedDigests, layer.diffId :: scan.diffIds,
        scan.aggregateUncompressedBytes + layer.uncompressedBytes.toNat⟩ := by
  simp only [scanExpectedLayer, validateInclusiveRange, bind_ok, exists_unit, ensure_ok, mapError_ok,
    context_ok, checkedAdd_eq_some, pure_ok]
  constructor
  · intro h
    obtain ⟨hbytes, huncompressed, hmultiple, hdigest, hdiff, _, ⟨-, rfl⟩, hmax, h⟩ := h
    exact ⟨⟨hbytes, huncompressed, hmultiple⟩, hdigest, hdiff, hmax, h.symm⟩
  · intro h
    obtain ⟨⟨hbytes, huncompressed, hmultiple⟩, hdigest, hdiff, hmax, h⟩ := h
    have hsmall : ociMaxAggregateUncompressedBytes < 2 ^ 64 := by decide
    exact ⟨hbytes, huncompressed, hmultiple, hdigest, hdiff, _, ⟨by omega, rfl⟩, hmax, h.symm⟩

def aggregateTotal (layers : List OciExpectedLayer) : ℕ :=
  (layers.map fun layer => layer.uncompressedBytes.toNat).sum

lemma scanExpectedLayers_ok {layers : List OciExpectedLayer} {scan : ExpectationScan} {total k : ℕ}
    (hscan : scan.aggregateUncompressedBytes ≤ ociMaxAggregateUncompressedBytes) :
    (∃ last, ((layers.zipIdx k).foldlM (fun scan layer => scanExpectedLayer scan layer.1 layer.2) scan) =
        .ok last ∧ last.aggregateUncompressedBytes = total) ↔
      (∀ layer ∈ layers, LayerBounds layer) ∧
      Fresh scan.compressedDigests (layers.map fun layer => layer.compressed.digest) ∧
      Fresh scan.diffIds (layers.map OciExpectedLayer.diffId) ∧
      scan.aggregateUncompressedBytes + aggregateTotal layers ≤ ociMaxAggregateUncompressedBytes ∧
      scan.aggregateUncompressedBytes + aggregateTotal layers = total := by
  induction layers generalizing scan k with
  | nil =>
    simp only [List.zipIdx_nil, List.foldlM_nil, pure_ok, exists_eq_left', List.map_nil, fresh_nil,
      true_and, aggregateTotal, List.sum_nil, Nat.add_zero, hscan, List.not_mem_nil, IsEmpty.forall_iff,
      implies_true]
  | cons layer layers ih =>
    simp only [List.zipIdx_cons, List.foldlM_cons, bind_ok, scanExpectedLayer_ok, List.map_cons,
      fresh_cons, aggregateTotal, List.sum_cons, List.forall_mem_cons]
    constructor
    · intro h
      obtain ⟨last, ⟨next, ⟨hlayer, hdigest, hdiff, hsum, rfl⟩, hlast⟩, htotal⟩ := h
      obtain ⟨hlayers, hdigests, hdiffs, hbound, htotal⟩ := (ih hsum).mp ⟨last, hlast, htotal⟩
      rw [Nat.add_assoc] at hbound htotal
      exact ⟨⟨hlayer, hlayers⟩, ⟨hdigest, hdigests⟩, ⟨hdiff, hdiffs⟩, hbound, htotal⟩
    · intro h
      obtain ⟨⟨hlayer, hlayers⟩, ⟨hdigest, hdigests⟩, ⟨hdiff, hdiffs⟩, hbound, htotal⟩ := h
      rw [← Nat.add_assoc] at hbound htotal
      have hsum : scan.aggregateUncompressedBytes + layer.uncompressedBytes.toNat ≤
          ociMaxAggregateUncompressedBytes := by omega
      obtain ⟨last, hlast, htotal⟩ := (@ih ⟨layer.compressed.digest :: scan.compressedDigests,
        layer.diffId :: scan.diffIds,
        scan.aggregateUncompressedBytes + layer.uncompressedBytes.toNat⟩ (k + 1) hsum).mpr
        ⟨hlayers, hdigests, hdiffs, hbound, htotal⟩
      exact ⟨last, ⟨_, ⟨hlayer, hdigest, hdiff, hsum, rfl⟩, hlast⟩, htotal⟩

end Scans

section Rendering

def OciExpectedLayer.profileLayer (layer : OciExpectedLayer) : LayerIdentity where
  digest := formatSha256Digest layer.compressed.digest
  size := layer.compressed.byteLength.toNat
  uncompressedBytes := layer.uncompressedBytes.toNat
  diffId := formatSha256Digest layer.diffId

def OciRootfsCounts.profileRootfs (rootfs : OciRootfsCounts) : PostChangesetRootfs where
  entryCount := rootfs.entryCount.toNat
  regularFileCount := rootfs.regularFileCount.toNat
  directoryCount := rootfs.directoryCount.toNat
  symbolicLinkCount := rootfs.symbolicLinkCount.toNat
  regularFileBytes := rootfs.regularFileBytes.toNat

/-- An expectation of an archive as a profile spells it. -/
def OciOuterUstarExpectation.profileImage (e : OciOuterUstarExpectation) (path : Bytes) :
    OciImageIdentity where
  policy := utf8 "eip0045-b4-oci-image-v1"
  retainedHostRootfsMetadataPolicy := utf8 retainedHostRootfsMetadataPolicyId
  imageSpec := ⟨utf8 "1.1.1", utf8 "147f9c13cedb47a0c4d9a11a222961073d585877"⟩
  layoutVersion := utf8 "1.0.0"
  archive := ⟨path, e.archiveByteLength.toNat, Hex.encode e.archiveSha256.val,
    utf8 "eip0045-b4-oci-image-layout-ustar-v1"⟩
  manifest := ⟨ociManifestMediaType, formatSha256Digest e.image.manifest.digest,
    e.image.manifest.byteLength.toNat⟩
  config := ⟨ociConfigMediaType, formatSha256Digest e.image.config.digest,
    e.image.config.byteLength.toNat⟩
  platform := linuxAmd64
  layers := e.image.layers.map OciExpectedLayer.profileLayer
  postChangesetRootfs := e.image.postChangesetRootfs.profileRootfs

lemma hex32_encode (d : Digest) : Hex32 (Hex.encode d.val) :=
  ⟨by rw [Hex.encode_length, digest_length], Hex.encode_isLower _⟩

lemma formatSha256Digest_injective : Function.Injective formatSha256Digest := by
  intro c d h
  exact Hex.encode_injective (List.append_cancel_left h)

lemma algorithm_checked : sha256Prefix.length = 7 ∧ Jcs.plainCodes sha256Prefix = true := by decide

lemma formatSha256Digest_drop (d : Digest) : (formatSha256Digest d).drop 7 = Hex.encode d.val :=
  List.drop_left' algorithm_checked.1

lemma formatSha256Digest_take (d : Digest) : (formatSha256Digest d).take 7 = sha256Prefix :=
  List.take_left' algorithm_checked.1

lemma sha256Digest_format (d : Digest) : Sha256Digest (formatSha256Digest d) :=
  ⟨formatSha256Digest_take d, by rw [formatSha256Digest_drop]; exact hex32_encode d⟩

lemma hex32_eq_encode {value : Bytes} (h : Hex32 value) : ∃ d : Digest, value = Hex.encode d.val := by
  obtain ⟨bytes, -, hlength, hvalue⟩ := Hex.encode_decode h.2 (n := 32) h.1
  exact ⟨⟨bytes, hlength⟩, hvalue.symm⟩

lemma sha256Digest_eq_format {value : Bytes} (h : Sha256Digest value) :
    ∃ d : Digest, value = formatSha256Digest d := by
  obtain ⟨d, hd⟩ := hex32_eq_encode h.2
  exact ⟨d, by rw [formatSha256Digest, ← hd, ← h.1, List.take_append_drop]⟩

end Rendering

section Index

/-- The index of an image, with its keys in their order. -/
def indexValue (digest : Bytes) (size : ℕ) : JsonValue :=
  .object [(utf8 "manifests", .array [.object [(utf8 "digest", .string digest),
      (utf8 "mediaType", .string ociManifestMediaType),
      (utf8 "platform", .object [(utf8 "architecture", .string (utf8 "amd64")),
        (utf8 "os", .string (utf8 "linux"))]), (utf8 "size", .number size)]]),
    (utf8 "mediaType", .string ociIndexMediaType), (utf8 "schemaVersion", .number 2)]

lemma expectedIndexValue_eq (e : OciImageExpectation) : expectedIndexValue e =
    indexValue (formatSha256Digest e.manifest.digest) e.manifest.byteLength.toNat := rfl

lemma canonicalOciIndexBytes_eq (canonicalizer : Canonicalizer) (e : OciOuterUstarExpectation)
    (path : Bytes) : canonicalOciIndexBytes canonicalizer (e.profileImage path) =
      canonicalizer.toVec (expectedIndexValue e.image) := rfl

lemma formatSha256Digest_plain (d : Digest) : PlainText (formatSha256Digest d) := by
  have hsha := Jcs.plainText_of_codes algorithm_checked.2
  intro c hc
  obtain hc | hc := List.mem_append.mp hc
  · exact hsha c hc
  · exact Jcs.plainText_lower (Hex.encode_isLower d.val) c hc

lemma index_checked :
    ([utf8 "manifests", utf8 "digest", utf8 "mediaType", utf8 "platform", utf8 "size", utf8 "architecture",
      utf8 "os", utf8 "amd64", utf8 "linux", utf8 "schemaVersion", ociManifestMediaType,
      ociIndexMediaType].all Jcs.plainCodes = true) ∧
    Jcs.ascending [utf8 "manifests", utf8 "mediaType", utf8 "schemaVersion"] = true ∧
    Jcs.ascending [utf8 "digest", utf8 "mediaType", utf8 "platform", utf8 "size"] = true ∧
    Jcs.ascending [utf8 "architecture", utf8 "os"] = true ∧
    (utf8 "manifests").length + (utf8 "digest").length + (utf8 "mediaType").length +
      (utf8 "platform").length + (utf8 "size").length + (utf8 "architecture").length +
      (utf8 "os").length + (utf8 "amd64").length + (utf8 "linux").length +
      (utf8 "schemaVersion").length + ociManifestMediaType.length + ociIndexMediaType.length ≤ 400 := by
  decide

lemma indexValue_plain {digest : Bytes} {size : ℕ} (hdigest : PlainText digest) (hsize : size < 2 ^ 53) :
    Plain (indexValue digest size) := by
  simp only [indexValue, Plain, PlainFields, PlainItems, List.map_cons, List.map_nil, and_true]
  obtain ⟨hwords, hindexKeys, hitemKeys, hplatformKeys, -⟩ := index_checked
  have hplain := fun word hword => Jcs.plainText_of_codes (List.all_eq_true.mp hwords word hword)
  simp only [List.forall_mem_cons] at hplain
  obtain ⟨hmanifests, hdigestKey, hmediaType, hplatform, hsizeKey, harchitecture, hos, hamd64, hlinux,
    hschema, hmanifest, hindex, -⟩ := hplain
  exact ⟨Jcs.increasing_of_ascending hindexKeys, hmanifests, ⟨Jcs.increasing_of_ascending hitemKeys,
    hdigestKey, hdigest, hmediaType, hmanifest,
    hplatform, ⟨Jcs.increasing_of_ascending hplatformKeys, harchitecture, hamd64, hos, hlinux⟩, hsizeKey, hsize⟩, hmediaType,
    hindex, hschema, by decide⟩

lemma indexValue_length {digest : Bytes} {size : ℕ} (hdigest : digest.length = 71) (hsize : size < 10 ^ 7) :
    2 ≤ (render (indexValue digest size)).length ∧ (render (indexValue digest size)).length ≤ 1048576 := by
  have hdecimal := decimal_length (by decide) hsize
  have htwo : (decimal 2).length ≤ 7 := decimal_length (by decide) (by decide)
  have hwords := index_checked.2.2.2.2
  simp only [indexValue, render, renderFields, renderItems, quoted, List.length_append,
    List.length_singleton, List.isEmpty_cons, List.isEmpty_nil, hdigest, if_true, if_false,
    Bool.false_eq_true, List.length_nil]
  omega

lemma formatSha256Digest_length (d : Digest) : (formatSha256Digest d).length = 71 := by
  rw [formatSha256Digest, List.length_append, Hex.encode_length, digest_length, algorithm_checked.1]

lemma expectedIndex_length (canonicalizer : Canonicalizer) {e : OciImageExpectation}
    (h : e.manifest.byteLength.toNat ≤ ociJsonMaxBytes) :
    ociJsonMinBytes ≤ (canonicalizer.toVec (expectedIndexValue e)).length ∧
      (canonicalizer.toVec (expectedIndexValue e)).length ≤ ociJsonMaxBytes := by
  have hbound : e.manifest.byteLength.toNat ≤ 1048576 := h
  rw [expectedIndexValue_eq,
    canonicalizer.plain _ (indexValue_plain (formatSha256Digest_plain _) (by omega))]
  exact indexValue_length (formatSha256Digest_length _) (by omega)

end Index

section Footprint

lemma ustarMemberExtent_ok {payloadBytes extent : ℕ} :
    ustarMemberExtent payloadBytes = .ok extent ↔ outerUstarMemberExtent payloadBytes = .ok extent := by
  simp only [ustarMemberExtent, outerUstarMemberExtent, bind_ok, context_ok]

lemma foldlM_ok_congr {ε α β : Type} {f g : α → β → Except ε α}
    (h : ∀ a b c, f a b = .ok c ↔ g a b = .ok c) {bs : List β} {a c : α} :
    bs.foldlM f a = .ok c ↔ bs.foldlM g a = .ok c := by
  induction bs generalizing a with
  | nil => rfl
  | cons b bs ih => simp only [List.foldlM_cons, bind_ok, h, ih]

lemma addMember_ok {overflow overflow' : String} (archiveBytes payloadBytes extent : ℕ) :
    addMember overflow archiveBytes payloadBytes = .ok extent ↔
      addOuterMember overflow' archiveBytes payloadBytes = .ok extent := by
  simp only [addMember, addOuterMember, bind_ok, context_ok, ustarMemberExtent_ok]

lemma footprint_ok (canonicalizer : Canonicalizer) (e : OciOuterUstarExpectation) (path : Bytes) {n : ℕ} :
    expectedOciArchiveByteLength canonicalizer (e.profileImage path) = .ok n ↔
      outerUstarFootprint (canonicalizer.toVec (expectedIndexValue e.image)).length e.image = .ok n := by
  have hsizes : (e.profileImage path).layers.map LayerIdentity.size =
      e.image.layers.map fun layer => layer.compressed.byteLength.toNat := List.map_map
  have hfixed : ∀ (sizes : List ℕ) (a b : ℕ),
      sizes.foldlM (addMember "OCI outer-ustar aggregate length overflow") a = .ok b ↔
        sizes.foldlM (addOuterMember "OCI outer-ustar fixed-member footprint overflowed") a = .ok b :=
    fun _ _ _ => foldlM_ok_congr addMember_ok
  have hlayer : ∀ (sizes : List ℕ) (a b : ℕ),
      sizes.foldlM (addMember "OCI outer-ustar aggregate layer length overflow") a = .ok b ↔
        sizes.foldlM (addOuterMember "OCI outer-ustar layer footprint overflowed") a = .ok b :=
    fun _ _ _ => foldlM_ok_congr addMember_ok
  simp only [expectedOciArchiveByteLength, outerUstarFootprint, canonicalOciIndexBytes_eq, bind_ok,
    context_ok, Statement.checkedMul_eq_some, hsizes, hfixed, hlayer]
  rfl

end Footprint

section Agreement

/-- What both sides ask of an image beside the bounds of its fields. -/
structure Consistent (e : OciOuterUstarExpectation) (indexLength : ℕ) : Prop where
  config : e.image.config.digest ≠ e.image.manifest.digest
  digests : Fresh [e.image.config.digest, e.image.manifest.digest]
    (e.image.layers.map fun layer => layer.compressed.digest)
  diffIds : Fresh [] (e.image.layers.map OciExpectedLayer.diffId)
  total : aggregateTotal e.image.layers ≤ ociMaxAggregateUncompressedBytes
  typed : e.image.postChangesetRootfs.regularFileCount.toNat +
    e.image.postChangesetRootfs.directoryCount.toNat +
    e.image.postChangesetRootfs.symbolicLinkCount.toNat =
      e.image.postChangesetRootfs.entryCount.toNat
  bytes : e.image.postChangesetRootfs.regularFileBytes.toNat ≤ aggregateTotal e.image.layers
  footprint : outerUstarFootprint indexLength e.image = .ok e.archiveByteLength.toNat

/-- The bounds of the fields, as the importer states them. -/
structure Bounded (e : OciOuterUstarExpectation) : Prop where
  archive : Within 6144 17179869184 e.archiveByteLength.toNat
  blocks : e.archiveByteLength.toNat % 512 = 0
  manifest : Within 2 1048576 e.image.manifest.byteLength.toNat
  config : Within 2 1048576 e.image.config.byteLength.toNat
  layers : Within 1 128 e.image.layers.length
  layer : ∀ layer ∈ e.image.layers, LayerBounds layer
  entries : ∀ count ∈ rootfsBounds e.image.postChangesetRootfs, count.1.toNat ≤ ociMaxRootfsEntries

lemma validateOciImageExpectation_ok {e : OciImageExpectation} :
    validateOciImageExpectation e = .ok () ↔
      Within 2 1048576 e.manifest.byteLength.toNat ∧ Within 2 1048576 e.config.byteLength.toNat ∧
      Within 1 128 e.layers.length ∧ e.config.digest ≠ e.manifest.digest ∧
      (∀ layer ∈ e.layers, LayerBounds layer) ∧
      Fresh [e.config.digest, e.manifest.digest] (e.layers.map fun layer => layer.compressed.digest) ∧
      Fresh [] (e.layers.map OciExpectedLayer.diffId) ∧
      aggregateTotal e.layers ≤ ociMaxAggregateUncompressedBytes ∧
      (∀ count ∈ rootfsBounds e.postChangesetRootfs, count.1.toNat ≤ ociMaxRootfsEntries) ∧
      e.postChangesetRootfs.regularFileCount.toNat + e.postChangesetRootfs.directoryCount.toNat +
        e.postChangesetRootfs.symbolicLinkCount.toNat = e.postChangesetRootfs.entryCount.toNat ∧
      e.postChangesetRootfs.regularFileBytes.toNat ≤ aggregateTotal e.layers := by
  simp only [validateOciImageExpectation, validateInclusiveRange, bind_ok, exists_unit, ensure_ok,
    context_ok, forM_ok]
  have hscan := fun total => @scanExpectedLayers_ok e.layers
    ⟨[e.config.digest, e.manifest.digest], [], 0⟩ total 0 (Nat.zero_le _)
  simp only [Nat.zero_add] at hscan
  constructor
  · intro h
    obtain ⟨hmanifest, hconfig, hcount, hne, scan, hfold, hentries, _, htyped, hentry, hbytes⟩ := h
    obtain ⟨hlayers, hdigests, hdiffs, htotal, hsum⟩ := (hscan _).mp ⟨scan, hfold, rfl⟩
    rw [Option.bind_eq_bind, Option.bind_eq_some_iff] at htyped
    obtain ⟨_, hfirst, hsecond⟩ := htyped
    obtain ⟨-, rfl⟩ := checkedAdd_eq_some.mp hfirst
    obtain ⟨-, rfl⟩ := checkedAdd_eq_some.mp hsecond
    exact ⟨hmanifest, hconfig, hcount, hne, hlayers, hdigests, hdiffs, htotal, hentries, hentry.symm,
      hsum ▸ hbytes⟩
  · intro h
    obtain ⟨hmanifest, hconfig, hcount, hne, hlayers, hdigests, hdiffs, htotal, hentries, hentry,
      hbytes⟩ := h
    obtain ⟨scan, hfold, hsum⟩ := (hscan _).mpr ⟨hlayers, hdigests, hdiffs, htotal, rfl⟩
    have hsmall := e.postChangesetRootfs.entryCount.toNat_lt
    refine ⟨hmanifest, hconfig, hcount, hne, scan, hfold, hentries, _, ?_, hentry.symm, hsum ▸ hbytes⟩
    rw [Option.bind_eq_bind, Option.bind_eq_some_iff]
    exact ⟨_, checkedAdd_eq_some.mpr ⟨by omega, rfl⟩, checkedAdd_eq_some.mpr ⟨by omega, rfl⟩⟩

lemma validateOuterUstarExpectation_ok {canonicalizer : Canonicalizer} {e : OciOuterUstarExpectation} :
    validateOuterUstarExpectation canonicalizer e = .ok () ↔ Bounded e ∧
      Consistent e (canonicalizer.toVec (expectedIndexValue e.image)).length := by
  simp only [validateOuterUstarExpectation, validateOciOuterUstarRoleContract,
    OciRoleLimits.validateEncodedLength, OciRoleLimits.validateJsonBytes, expectedIndexJsonByteLength,
    validateInclusiveRange, bind_ok, exists_unit, ensure_ok, pure_ok]
  constructor
  · intro h
    obtain ⟨_, ⟨-, ⟨harchive, hblocks⟩, rfl⟩, -, himage, _, ⟨-, -, rfl⟩, -, _, hfootprint, rfl⟩ := h
    obtain ⟨hmanifest, hconfig, hcount, hne, hlayers, hdigests, hdiffs, htotal, hentries, htyped,
      hbytes⟩ := validateOciImageExpectation_ok.mp himage
    exact ⟨⟨harchive, hblocks, hmanifest, hconfig, hcount, hlayers, hentries⟩,
      ⟨hne, hdigests, hdiffs, htotal, htyped, hbytes, hfootprint⟩⟩
  · intro h
    obtain ⟨hb, hc⟩ := h
    have himage := validateOciImageExpectation_ok.mpr ⟨hb.manifest, hb.config, hb.layers, hc.config,
      hb.layer, hc.digests, hc.diffIds, hc.total, hb.entries, hc.typed, hc.bytes⟩
    have hindex := expectedIndex_length canonicalizer hb.manifest.2
    exact ⟨_, ⟨by decide, ⟨hb.archive, hb.blocks⟩, rfl⟩, rfl, himage, _, ⟨himage, hindex, rfl⟩, hindex, _,
      hc.footprint, rfl⟩

lemma requireStringEq_ok {actual : Bytes} {key expected : String} :
    requireStringEq actual key expected = .ok () ↔ actual = utf8 expected := ensure_ok

lemma validateImage_ok {canonicalizer : Canonicalizer} {profile : RunnerProfile} {label policyId : String}
    {e : OciOuterUstarExpectation} {path : Bytes} (himage : profile.image = e.profileImage path)
    (hplatform : profile.platform = linuxAmd64)
    (hpolicy : utf8 retainedHostRootfsMetadataPolicyId = utf8 policyId) :
    validateImage canonicalizer profile label policyId = .ok () ↔ Within 1 128 e.image.layers.length ∧
      Consistent e (canonicalizer.toVec (expectedIndexValue e.image)).length := by
  have hdigests : (e.profileImage path).layers.map LayerIdentity.digest =
      (e.image.layers.map fun layer => layer.compressed.digest).map formatSha256Digest := by
    simp only [OciOuterUstarExpectation.profileImage, List.map_map]
    rfl
  have hdiffs : (e.profileImage path).layers.map LayerIdentity.diffId =
      (e.image.layers.map OciExpectedLayer.diffId).map formatSha256Digest := by
    simp only [OciOuterUstarExpectation.profileImage, List.map_map]
    rfl
  have htotal : uncompressedTotal (e.profileImage path).layers = aggregateTotal e.image.layers := by
    simp only [uncompressedTotal, OciOuterUstarExpectation.profileImage, List.map_map]
    rfl
  have hcount : (e.profileImage path).layers.length = e.image.layers.length := List.length_map _
  have hscan : ∀ total,
      (∃ last, (e.profileImage path).layers.foldlM (scanLayer label)
        ⟨[(e.profileImage path).config.digest, (e.profileImage path).manifest.digest], [], 0⟩ = .ok last ∧
        last.uncompressedBytes = total) ↔
      Fresh [e.image.config.digest, e.image.manifest.digest]
        (e.image.layers.map fun layer => layer.compressed.digest) ∧
      Fresh [] (e.image.layers.map OciExpectedLayer.diffId) ∧ aggregateTotal e.image.layers < 2 ^ 64 ∧
      aggregateTotal e.image.layers = total := by
    intro total
    apply (scanLayers_ok (Nat.two_pow_pos 64)).trans
    rw [hdigests, hdiffs, htotal, Nat.zero_add]
    apply and_congr (@fresh_map _ _ _ formatSha256Digest_injective
      [e.image.config.digest, e.image.manifest.digest] _)
    exact and_congr_left' (@fresh_map _ _ _ formatSha256Digest_injective [] _)
  have hsmall : ociMaxAggregateUncompressedBytes < 2 ^ 64 := by decide
  have hne : (e.profileImage path).config.digest ≠ (e.profileImage path).manifest.digest ↔
      e.image.config.digest ≠ e.image.manifest.digest := formatSha256Digest_injective.ne_iff
  have hentries := (e.image.postChangesetRootfs.entryCount).toNat_lt
  simp only [validateImage, validateOciLayers, himage, bind_ok, exists_unit, ensure_ok, context_ok,
    requireStringEq_ok, pure_ok, hplatform, footprint_ok, hne]
  constructor
  · intro h
    obtain ⟨-, -, -, -, -, -, -, hconfig, _, ⟨hlayers, scan, hfold, hmax, rfl⟩, _, hfootprint, hlength, _,
      htyped, hentry, hbytes⟩ := h
    obtain ⟨hfresh, hfresh', -, hsum⟩ := (hscan _).mp ⟨scan, hfold, rfl⟩
    rw [Option.bind_eq_bind, Option.bind_eq_some_iff] at htyped
    obtain ⟨_, hfirst, hsecond⟩ := htyped
    obtain ⟨-, rfl⟩ := checkedAdd_eq_some.mp hfirst
    obtain ⟨-, rfl⟩ := checkedAdd_eq_some.mp hsecond
    refine ⟨hcount ▸ hlayers, ?_⟩
    exact {
      config := hconfig
      digests := hfresh
      diffIds := hfresh'
      total := hsum ▸ hmax
      typed := hentry
      bytes := hsum ▸ hbytes
      footprint := hfootprint.trans (congrArg Except.ok hlength.symm) }
  · intro h
    obtain ⟨hlayers, hc⟩ := h
    have htotals := hc.total
    have htypes := hc.typed
    obtain ⟨scan, hfold, hsum⟩ := (hscan _).mpr ⟨hc.digests, hc.diffIds, by omega, rfl⟩
    refine ⟨rfl, hpolicy, rfl, rfl, rfl, rfl, rfl, hc.config, _, ⟨hcount ▸ hlayers, scan, hfold,
      hsum ▸ hc.total, rfl⟩, _, hc.footprint, rfl, _, ?_, hc.typed, hsum ▸ hc.bytes⟩
    rw [Option.bind_eq_bind, Option.bind_eq_some_iff]
    have htwo : e.image.postChangesetRootfs.regularFileCount.toNat +
        e.image.postChangesetRootfs.directoryCount.toNat < 2 ^ 64 := by omega
    have hthree : e.image.postChangesetRootfs.regularFileCount.toNat +
        e.image.postChangesetRootfs.directoryCount.toNat +
        e.image.postChangesetRootfs.symbolicLinkCount.toNat < 2 ^ 64 := by omega
    exact ⟨_, checkedAdd_eq_some.mpr ⟨htwo, rfl⟩, checkedAdd_eq_some.mpr ⟨hthree, rfl⟩⟩

lemma bounded_of_facets {e : OciOuterUstarExpectation} {path : Bytes} {policy : String}
    (h : (e.profileImage path).Facets policy) : Bounded e := by
  obtain ⟨-, -, -, -, -, harchive, hmanifest, hconfig, -, hcount, hlayers, hrootfs⟩ := h
  obtain ⟨-, hbytes, hblocks, -, -⟩ := harchive
  obtain ⟨hentries, hregulars, hdirectories, hlinks, -⟩ := hrootfs
  refine ⟨hbytes, hblocks, hmanifest.2.2, hconfig.2.2, ?_, ?_, ?_⟩
  · simpa only [OciOuterUstarExpectation.profileImage, List.length_map] using hcount
  · intro layer hlayer
    obtain ⟨-, hsize, huncompressed, hmultiple, -⟩ :=
      hlayers layer.profileLayer (List.mem_map_of_mem hlayer)
    exact ⟨hsize, huncompressed, hmultiple⟩
  · simp only [rootfsBounds, List.forall_mem_cons, List.not_mem_nil, IsEmpty.forall_iff, implies_true,
      and_true]
    exact ⟨hentries, hregulars, hdirectories, hlinks⟩

lemma facets_of_bounded {e : OciOuterUstarExpectation} {path : Bytes} {n : ℕ} (hpath : RelativePath path)
    (h : Bounded e) (hc : Consistent e n) :
    (e.profileImage path).Facets retainedHostRootfsMetadataPolicyId := by
  have hentries := h.entries
  simp only [rootfsBounds, List.forall_mem_cons, List.not_mem_nil, IsEmpty.forall_iff, implies_true,
    and_true] at hentries
  refine ⟨rfl, rfl, rfl, rfl, rfl, ⟨hpath, h.archive, h.blocks, hex32_encode _, rfl⟩,
    ⟨rfl, sha256Digest_format _, h.manifest⟩, ⟨rfl, sha256Digest_format _, h.config⟩, rfl, ?_, ?_,
    ⟨hentries.1, hentries.2.1, hentries.2.2.1, hentries.2.2.2, hc.bytes.trans hc.total⟩⟩
  · simpa only [OciOuterUstarExpectation.profileImage, List.length_map] using h.layers
  · intro layer hlayer
    obtain ⟨expected, hexpected, rfl⟩ := List.mem_map.mp hlayer
    obtain ⟨hsize, huncompressed, hmultiple⟩ := h.layer expected hexpected
    exact ⟨sha256Digest_format _, hsize, huncompressed, hmultiple, sha256Digest_format _⟩

end Agreement

end Eip0045.Oci
