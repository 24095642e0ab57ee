import Eip0045.Provider.Bootstrap

/-! The bootstrap of a worker on both sides: what the worker accepts is what the supervisor encodes. -/

namespace Eip0045.Wire

open Bytes Checked

variable {H : Bytes → Digest}

section Sessions

def sliceArray {m : ℕ} (bytes : ByteArr m) (i n : ℕ) (h : i + n ≤ m) : ByteArr n :=
  ⟨slice bytes.val i n, slice_length (by rwa [ByteArr.val_length])⟩

lemma sessionFromPreimage_ok {bytes : Bytes} {decoded : ProviderSessionMaterialV1 × UInt32} :
    g0ProviderSessionFromPreimageV1 H bytes = .ok decoded ↔
      ∃ facts : SessionFacts, bytes = facts.preimage.val ∧ decoded = (facts.material H, facts.supervisorPid) := by
  have hlength : ∀ n : UInt16, n.toNat = 43 ↔ n = 43 := fun n => (UInt16.toNat_inj (b := 43))
  simp (disch := simp) only [g0ProviderSessionFromPreimageV1, nonceCommitmentFromDigestV1, bind_ok, ensure_ok,
    exists_unit, context_ok, mapError_ok, pure_ok, g0U16LeV1_ok, g0U32LeV1_ok, g0U64LeV1_ok, getRange_array,
    g0FixedBytesV1_ok, hlength, ByteArr.val_length, ByteArr.ofBytes_eq_some]
  constructor
  · rintro ⟨preimage, rfl, hdomain, _, hprotocolLength, rfl, hprotocol, request, hrequest, gn, hgn, sn, hsn, pid, hpid,
      epoch, hepoch, hprocess, _, ⟨hgnonce, rfl⟩, _, ⟨hsnonce, rfl⟩, gch, hgch, wch, hwch, rfl⟩
    let facts : SessionFacts := ⟨request, sliceArray preimage 105 32 (by decide), sliceArray preimage 137 32 (by decide),
      sliceArray preimage 169 32 (by decide), sliceArray preimage 201 32 (by decide), gn, sn, pid, epoch, gch, wch,
      hprocess, hgnonce, hsnonce⟩
    have hfacts : preimage = facts.preimage := by
      rw [← array_initial]
      simp only [SessionFacts.preimage, Reading.append_prefix_iff, List.length_append, le16_length, le32_length,
        le64_length, ByteArr.val_length, and_assoc]
      exact ⟨hdomain, hprotocolLength, hprotocol, hrequest, List.take_prefix _ _, List.take_prefix _ _,
        List.take_prefix _ _, List.take_prefix _ _, hgn, hsn, hpid, hepoch, hgch, hwch⟩
    refine ⟨facts, congrArg Subtype.val hfacts, ?_⟩
    rw [SessionFacts.material, ← hfacts]
  · rintro ⟨facts, rfl, rfl⟩
    have hpreimage := List.prefix_refl facts.preimage.val
    nth_rewrite 1 [SessionFacts.preimage] at hpreimage
    simp only [Reading.append_prefix_iff, List.length_append, le16_length, le32_length, le64_length,
      ByteArr.val_length, and_assoc] at hpreimage
    obtain ⟨hdomain, hprotocolLength, hprotocol, hrequest, -, -, -, -, hgn, hsn, hpid, hepoch, hgch, hwch⟩ := hpreimage
    exact ⟨facts.preimage, rfl, hdomain, _, hprotocolLength, rfl, hprotocol, _, hrequest, _, hgn, _, hsn, _, hpid, _, hepoch,
      facts.process, _, ⟨facts.nonces.1, rfl⟩, _, ⟨facts.nonces.2, rfl⟩, _, hgch, _, hwch, rfl⟩

end Sessions

section Manifests

/-- A commitment to a memory file as its role is transferred. -/
def Transferred (role : FdRoleV1) (commitment : FdCommitmentV1) : Prop :=
  ∃ shape size digest, transferShape role = some shape ∧
    commitment = ⟨role, .memfd size digest shape.seals, shape.status⟩ ∧ commitment.validate = .ok ()

lemma transferShape_lengths {role : FdRoleV1} {shape : TransferShape} (h : transferShape role = some shape) :
    role.encode.length = shape.identityOffset ∧ shape.encodedLength = shape.identityOffset + 48 ∧
      shape.identityOffset < 2 ^ 8 := by
  cases role with
  | observation =>
    cases h
    exact ⟨rfl, rfl, by decide⟩
  | campaignInput index =>
    cases h
    exact ⟨rfl, rfl, by decide⟩
  | _ => cases h

lemma manifestMemfd_ok {bytes : Bytes} {role : FdRoleV1} {commitment : FdCommitmentV1} :
    g0WorkerManifestMemfdV1 bytes role = .ok commitment ↔ Transferred role commitment ∧ bytes = commitment.encode := by
  simp only [g0WorkerManifestMemfdV1, bind_ok, ensure_ok, exists_unit, context_ok, mapError_ok, FdCommitmentV1.tryNew,
    encodeFdCommitmentV1_ok, pure_ok]
  constructor
  · rintro ⟨shape, hshape, -, -, size, -, digest, -, _, ⟨hvalid, rfl⟩, _, ⟨-, rfl⟩, rfl, rfl⟩
    exact ⟨⟨shape, size, digest, hshape, rfl, hvalid⟩, rfl⟩
  · rintro ⟨⟨shape, size, digest, hshape, rfl, hvalid⟩, rfl⟩
    obtain ⟨hrole, hencoded, hsmall⟩ := transferShape_lengths hshape
    have hlength : (FdCommitmentV1.encode ⟨role, .memfd size digest shape.seals, shape.status⟩).length =
        shape.identityOffset + 48 := by
      simp [FdCommitmentV1.encode, FdIdentityV1.encode, MemfdSealsV1.encode, FdStatusV1.encode, hrole]
    have hprefix := List.prefix_refl (FdCommitmentV1.encode ⟨role, .memfd size digest shape.seals, shape.status⟩)
    nth_rewrite 1 [FdCommitmentV1.encode] at hprefix
    simp only [FdIdentityV1.encode, Reading.append_prefix_iff, List.length_append, le64_length, List.length_singleton,
      List.drop_drop, hrole, and_assoc] at hprefix
    obtain ⟨-, htag, hsize, hdigest, -, -⟩ := hprefix
    exact ⟨shape, hshape, hlength.trans hencoded.symm, Frames.getElem?_iff.mpr htag, size,
      (g0U64LeV1_ok (by omega) (by omega)).mpr hsize, digest, (g0FixedBytesV1_ok (by omega) (by omega)).mpr hdigest, _,
      ⟨hvalid, rfl⟩, _, ⟨hvalid, rfl⟩, rfl, rfl⟩

lemma Transferred.length {role : FdRoleV1} {shape : TransferShape} {commitment : FdCommitmentV1}
    (h : Transferred role commitment) (hshape : transferShape role = some shape) :
    commitment.encode.length = shape.encodedLength := by
  obtain ⟨shape', size, digest, hshape', rfl, -⟩ := h
  obtain rfl := Option.some.inj (hshape'.symm.trans hshape)
  obtain ⟨hrole, hencoded, -⟩ := transferShape_lengths hshape
  rw [hencoded]
  simp [FdCommitmentV1.encode, FdIdentityV1.encode, MemfdSealsV1.encode, FdStatusV1.encode, hrole]

lemma transferred_of_required {role : FdRoleV1} {shape : TransferShape} {length : UInt16} {field : G0ContractFieldV1}
    {admitted : MemfdSealsV1 → Prop} [DecidablePred admitted] {commitment : FdCommitmentV1}
    (hshape : transferShape role = some shape) (hseals : ∀ seals, admitted seals → seals = shape.seals)
    (hstatus : shape.status = ⟨role.requiredAccess, false, true⟩)
    (hrequired : requireTransferred role length field commitment = .ok ())
    (hadmitted : requireSeals admitted commitment = .ok ()) : Transferred role commitment := by
  simp only [requireTransferred, bind_ok, ensure_ok, exists_unit, encodedFdCommitmentLenV1_ok] at hrequired
  obtain ⟨rfl, hnonblocking, hclose, _, ⟨hvalid, -⟩, -⟩ := hrequired
  simp only [requireSeals, ensure_ok] at hadmitted
  obtain ⟨seals, hmem, hseal⟩ := hadmitted
  obtain ⟨role, identity, access, nonblocking, closeOnExec⟩ := commitment
  cases identity with
  | memfd size digest seals' =>
    cases hmem
    have haccess : access = role.requiredAccess := by
      simp only [FdCommitmentV1.validate, bind_ok, ensure_ok, exists_unit] at hvalid
      exact hvalid.2.2.2.1.1
    refine ⟨shape, size, digest, hshape, ?_, hvalid⟩
    rw [hstatus, ← hseals _ hseal, haccess]
    cases hnonblocking
    cases hclose
    rfl
  | _ => cases hmem

lemma observation_transferred {commitment : FdCommitmentV1} {field : G0ContractFieldV1}
    (hrequired : requireTransferred .observation 49 field commitment = .ok ())
    (hsealed : requireSizeFixedUnsealedObservationV1 commitment = .ok ()) : Transferred .observation commitment := by
  refine transferred_of_required rfl ?_ rfl hrequired hsealed
  rintro ⟨_, _, _, _⟩ ⟨rfl, rfl, rfl, rfl⟩
  rfl

lemma campaignInput_transferred {commitment : FdCommitmentV1} {index : ℕ}
    (h : requireCampaignInput commitment index = .ok ()) :
    Transferred (.campaignInput (UInt8.ofNat index)) commitment := by
  simp only [requireCampaignInput, bind_ok, ensure_ok, exists_unit] at h
  refine transferred_of_required rfl ?_ rfl h.2.1 h.2.2
  rintro ⟨_, _, _, _⟩ ⟨⟨rfl, rfl⟩, rfl, rfl⟩
  rfl

def campaignSlot (index : ℕ) : UInt8 := UInt8.ofNat (5 + index)

def manifestBytes (observation : FdCommitmentV1) (campaignInputs : List FdCommitmentV1) : Bytes :=
  le16 42 ++ workerTransferManifestDomainV1.val ++ le16 frameVersionV1 ++ [UInt8.ofNat (campaignInputs.length + 1)] ++
    commitmentRecord 4 observation ++ records campaignSlot 0 campaignInputs

lemma encodeRecord_ok {slot : UInt8} {commitment : FdCommitmentV1} {bytes : Bytes} :
    encodeRecord slot commitment = .ok bytes ↔
      commitment.validate = .ok () ∧ bytes = commitmentRecord slot commitment := by
  simp only [encodeRecord, bind_ok, encodeFdCommitmentV1_ok, encodedFdCommitmentLenV1_ok, pure_ok, commitmentRecord,
    sizedCommitment]
  constructor
  · rintro ⟨_, ⟨hvalid, rfl⟩, _, ⟨-, rfl⟩, rfl⟩
    exact ⟨hvalid, by rw [List.append_assoc]⟩
  · rintro ⟨hvalid, rfl⟩
    exact ⟨_, ⟨hvalid, rfl⟩, _, ⟨hvalid, rfl⟩, by rw [List.append_assoc]⟩

lemma encodeCampaignRecord_ok {entry : FdCommitmentV1 × ℕ} {bytes : Bytes} :
    encodeCampaignRecord entry.1 entry.2 = .ok bytes ↔
      (5 + entry.2 < 2 ^ 8 ∧ entry.1.validate = .ok ()) ∧ bytes = commitmentRecord (campaignSlot entry.2) entry.1 := by
  simp only [encodeCampaignRecord, bind_ok, ensure_ok, exists_unit, encodeRecord_ok, campaignSlot]
  tauto

/-- What a manifest is built of and what it holds. -/
structure WorkerTransferManifestV1.Of (H : Bytes → Digest) (manifest : WorkerTransferManifestV1)
    (observation : FdCommitmentV1) (campaignInputs : List FdCommitmentV1) : Prop where
  count : campaignInputs.length ≤ 15
  observed : Transferred .observation observation
  transferred : ∀ entry ∈ campaignInputs.zipIdx, Transferred (.campaignInput (UInt8.ofNat entry.2)) entry.1
  bytes : manifest.bytes = manifestBytes observation campaignInputs
  campaignCount : manifest.campaignCount = UInt8.ofNat campaignInputs.length
  length : manifest.bytes.length = workerManifestLength campaignInputs.length

lemma manifest_of {observation : FdCommitmentV1} {campaignInputs : List FdCommitmentV1}
    {manifest : WorkerTransferManifestV1} (h : WorkerTransferManifestV1.tryNew H observation campaignInputs = .ok manifest) :
    manifest.Of H observation campaignInputs := by
  simp only [WorkerTransferManifestV1.tryNew, bind_ok, ensure_ok, exists_unit, pure_ok, encodeRecord_ok,
    mapM_ok fun entry bytes => encodeCampaignRecord_ok, pushLp16V1_array (show 42 < 2 ^ 16 by decide), Except.ok.injEq] at h
  obtain ⟨hcount, hrequired, hsealed, hinputs, -, -, -, _, rfl, _, ⟨-, rfl⟩, _, ⟨-, rfl⟩, hlength, rfl⟩ := h
  exact ⟨hcount, observation_transferred hrequired hsealed,
    fun entry hentry => campaignInput_transferred (forM_ok.mp hinputs entry hentry), rfl, rfl, not_not.mp (not_or.mp hlength).1⟩

lemma commitmentRecord_length (slot : UInt8) (commitment : FdCommitmentV1) :
    (commitmentRecord slot commitment).length = 3 + commitment.encode.length := by
  simp [commitmentRecord, sizedCommitment]
  omega

lemma readCampaignRecord_ok {bytes : Bytes} {index : ℕ} {commitment : FdCommitmentV1}
    (hbytes : commitmentRecord (campaignSlot index) commitment <+: bytes.drop (99 + index * 53))
    (hcommitment : Transferred (.campaignInput (UInt8.ofNat index)) commitment) (hindex : index < 15)
    (hlength : 99 + index * 53 ≤ bytes.length) : readCampaignRecord bytes index = .ok commitment := by
  have hencoded : commitment.encode.length = 50 := hcommitment.length rfl
  have hrecord : (commitmentRecord (campaignSlot index) commitment).length = 53 := by
    rw [commitmentRecord_length, hencoded]
  have hread : getRange bytes (99 + index * 53) (99 + index * 53 + 53) =
      some (commitmentRecord (campaignSlot index) commitment) :=
    (Frames.getRange_iff hlength).mpr ⟨hrecord, hbytes⟩
  have hparts := List.prefix_refl (commitmentRecord (campaignSlot index) commitment)
  nth_rewrite 1 [commitmentRecord, sizedCommitment, hencoded] at hparts
  simp only [Reading.append_prefix_iff, List.length_singleton, le16_length] at hparts
  obtain ⟨hslot, hsize, -⟩ := hparts
  have hdrop : (commitmentRecord (campaignSlot index) commitment).drop 3 = commitment.encode := by
    rw [commitmentRecord, sizedCommitment, ← List.append_assoc]
    exact List.drop_left' rfl
  simp only [readCampaignRecord, bind_ok, ensure_ok, exists_unit, context_ok]
  refine ⟨_, hread, by omega, Frames.getElem?_iff.mpr hslot, 50, ?_, rfl, by omega, ?_⟩
  · exact (g0U16LeV1_ok (by omega) (by omega)).mpr hsize
  · rw [hdrop]
    exact manifestMemfd_ok.mpr ⟨hcommitment, rfl⟩

/-- Where the parts of an encoded manifest stand. -/
structure ManifestParts (bytes : Bytes) (observation : FdCommitmentV1) (campaignInputs : List FdCommitmentV1) : Prop where
  domainLength : le16 42 <+: bytes
  domain : workerTransferManifestDomainV1.val <+: bytes.drop 2
  version : le16 frameVersionV1 <+: bytes.drop 44
  count : [UInt8.ofNat (campaignInputs.length + 1)] <+: bytes.drop 46
  slot : [4] <+: bytes.drop 47
  observationLength : le16 49 <+: bytes.drop 48
  observation : observation.encode <+: bytes.drop 50
  records : records campaignSlot 0 campaignInputs <+: bytes.drop 99

variable {observation : FdCommitmentV1} {campaignInputs : List FdCommitmentV1} {manifest : WorkerTransferManifestV1}

lemma WorkerTransferManifestV1.Of.parts (h : manifest.Of H observation campaignInputs) :
    ManifestParts manifest.bytes observation campaignInputs := by
  have hencoded : observation.encode.length = 49 := h.observed.length rfl
  have hbytes := List.prefix_refl manifest.bytes
  nth_rewrite 1 [h.bytes, manifestBytes, commitmentRecord, sizedCommitment] at hbytes
  simp only [Reading.append_prefix_iff, List.length_append, le16_length, ByteArr.val_length, List.length_singleton,
    List.drop_drop, hencoded] at hbytes
  obtain ⟨⟨⟨⟨⟨hdomainLength, hdomain⟩, hversion⟩, hcount⟩, hslot, hlength, hobservation⟩, hrecords⟩ := hbytes
  exact ⟨hdomainLength, hdomain, hversion, hcount, hslot, hlength, hobservation, hrecords⟩

lemma WorkerTransferManifestV1.Of.head (h : manifest.Of H observation campaignInputs) :
    requireManifestHead manifest.bytes campaignInputs.length = .ok () := by
  have hlength : manifest.bytes.length = 99 + campaignInputs.length * 53 := h.length
  obtain ⟨hdomainLength, hdomain, hversion, hcount, hslot, hobservation, -, -⟩ := h.parts
  simp only [requireManifestHead, bind_ok, ensure_ok, exists_unit, context_ok]
  refine ⟨h.length, 42, (g0U16LeV1_ok (by omega) (by omega)).mpr hdomainLength, rfl,
    (getRange_array _ (by omega) rfl).mpr hdomain, _, (g0U16LeV1_ok (by omega) (by omega)).mpr hversion, rfl, _,
    Frames.getElem?_iff.mpr hcount, ?_, Frames.getElem?_iff.mpr hslot, _,
    (g0U16LeV1_ok (by omega) (by omega)).mpr hobservation, rfl⟩
  rw [UInt8.toNat_ofNat', Nat.mod_eq_of_lt]
  have hmax := h.count
  omega

lemma WorkerTransferManifestV1.Of.records (h : manifest.Of H observation campaignInputs) :
    (List.range campaignInputs.length).mapM (readCampaignRecord manifest.bytes) = .ok campaignInputs := by
  have hmax := h.count
  have hlength : manifest.bytes.length = 99 + campaignInputs.length * 53 := h.length
  refine mapM_forall₂.mpr (List.forall₂_iff_get.mpr ⟨List.length_range, ?_⟩)
  intro i hi hi'
  have hentry : campaignInputs.zipIdx[i]? = some (campaignInputs[i], i) := by
    rw [List.getElem?_zipIdx, List.getElem?_eq_getElem hi', Option.map_some, Nat.zero_add]
  have htransferred := h.transferred _ (List.mem_of_getElem? hentry)
  have hwidth : ∀ entry ∈ campaignInputs.zipIdx,
      (commitmentRecord (campaignSlot entry.2) entry.1).length = 53 := by
    intro entry hmem
    have hencoded : entry.1.encode.length = 50 := (h.transferred entry hmem).length rfl
    rw [commitmentRecord_length, hencoded]
  have hblock := (Frames.block_prefix hwidth hentry).trans (h.parts.records.drop (i * 53))
  rw [List.drop_drop] at hblock
  have hread := readCampaignRecord_ok hblock htransferred (hi'.trans_le hmax) (by omega)
  rwa [List.get_eq_getElem, List.getElem_range]

lemma manifestFromRaw_ok {bytes : Bytes} {campaignCount : ℕ} {decoded : WorkerTransferManifestV1 × List FdCommitmentV1} :
    g0WorkerManifestFromRawV1 H bytes campaignCount = .ok decoded ↔
      ∃ observation campaignInputs manifest, campaignInputs.length = campaignCount ∧
        WorkerTransferManifestV1.tryNew H observation campaignInputs = .ok manifest ∧ bytes = manifest.bytes ∧
          decoded = (manifest, observation :: campaignInputs) := by
  simp only [g0WorkerManifestFromRawV1, bind_ok, exists_unit, context_ok, ensure_ok, pure_ok]
  constructor
  · rintro ⟨-, _, -, observation, -, campaignInputs, hinputs, manifest, hmanifest, rfl, rfl⟩
    refine ⟨observation, campaignInputs, manifest, ?_, hmanifest, rfl, rfl⟩
    have hlength := (mapM_forall₂.mp hinputs).length_eq
    rw [List.length_range] at hlength
    exact hlength.symm
  · rintro ⟨observation, campaignInputs, manifest, rfl, hmanifest, rfl, rfl⟩
    have hof := manifest_of hmanifest
    have hlength : manifest.bytes.length = 99 + campaignInputs.length * 53 := hof.length
    have hencoded : observation.encode.length = 49 := hof.observed.length rfl
    exact ⟨hof.head, _, (Frames.getRange_iff (by omega)).mpr ⟨hencoded, hof.parts.observation⟩, observation,
      manifestMemfd_ok.mpr ⟨hof.observed, rfl⟩, _, hof.records, _, hmanifest, rfl, rfl⟩

end Manifests

section Inventories

variable {kind : ProcessInventoryKindV1} {entries : List ProcessInventoryEntryV1} {inventory : ProcessInventoryV1}

lemma inventory_kind (h : ProcessInventoryV1.tryNew H kind entries = .ok inventory) :
    inventory.kind = kind ∧ ∃ campaignCount, inventoryCampaignCount kind entries.length = .ok campaignCount ∧
      inventory.campaignCount = UInt8.ofNat campaignCount := by
  simp only [ProcessInventoryV1.tryNew, validateProcessInventoryV1, bind_ok, report_ok, ensure_ok, exists_unit,
    pure_ok] at h
  obtain ⟨_, ⟨campaignCount, hcount, -, -, -, -, rfl⟩, -, -, -, -, -, -, rfl⟩ := h
  exact ⟨rfl, campaignCount, hcount, rfl⟩

lemma workerInventories_kinds {endpointDigest : Digest} {commitments : List FdCommitmentV1}
    {inventories : ProcessInventoryV1 × ProcessInventoryV1}
    (h : workerInventories H endpointDigest commitments = .ok inventories) :
    inventories.1.kind = .workerInitialPostExec ∧ inventories.2.kind = .workerExpectedPostTransfer ∧
      inventories.2.campaignCount = UInt8.ofNat (commitments.length - 1) := by
  simp only [workerInventories, bind_ok, report_ok, pure_ok] at h
  obtain ⟨_, -, endpoint, -, initial, hinitial, entries, hentries, transfer, htransfer, rfl⟩ := h
  obtain ⟨htransferKind, campaignCount, hcount, hcampaign⟩ := inventory_kind htransfer
  refine ⟨(inventory_kind hinitial).1, htransferKind, ?_⟩
  have hlength := (mapM_forall₂.mp hentries).length_eq
  rw [List.length_zipIdx] at hlength
  simp only [inventoryCampaignCount, bind_ok, ensure_ok, exists_unit, pure_ok, List.length_cons, ← hlength] at hcount
  rw [hcampaign, ← hcount.2, Nat.add_sub_add_right]

end Inventories

section Descriptions

variable (H : Bytes → Digest)

structure BootstrapDescription where
  facts : SessionFacts
  acceptedGeneratorBoundDigest : Digest
  supervisorWorkerEndpoint : SeqpacketEndpointCommitmentV1
  supervisorReceiverUserNamespace : DescriptorIdentityV1
  workerReceiverViewUid : UInt32
  workerReceiverViewGid : UInt32
  workerEndpointDigest : Digest
  observation : FdCommitmentV1
  campaignInputs : List FdCommitmentV1

namespace BootstrapDescription

variable (d : BootstrapDescription)

def joined : BootstrapSession where
  acceptedGeneratorBoundDigest := d.acceptedGeneratorBoundDigest
  session := d.facts.material H
  supervisorWorkerEndpointDigest := d.supervisorWorkerEndpoint.digest
  supervisorReceiverUserNamespace := d.supervisorReceiverUserNamespace

def commitments : List FdCommitmentV1 := d.observation :: d.campaignInputs

def workerGenesis : Digest := (d.facts.material H).workerGenesis H d.acceptedGeneratorBoundDigest

def bodyInput (manifest : WorkerTransferManifestV1) (inventories : ProcessInventoryV1 × ProcessInventoryV1) :
    WorkerBootstrapBodyInputV1 where
  acceptedGeneratorBoundDigest := d.acceptedGeneratorBoundDigest
  session := d.facts.material H
  supervisorWorkerEndpoint := d.supervisorWorkerEndpoint
  supervisorReceiverUserNamespace := d.supervisorReceiverUserNamespace
  workerReceiverViewUid := d.workerReceiverViewUid
  workerReceiverViewGid := d.workerReceiverViewGid
  workerInitialInventory := inventories.1
  workerTransferInventory := inventories.2
  workerManifest := manifest

/-- The frame that the supervisor's constructors make of a description, and what the worker is to
recover of it. -/
def sent (credentials : PeerCredentialsV1) :
    Except (Fault WireErrorV1) (Bytes × G0WorkerBootstrapInboundCandidateV1) := do
  let manifest ← report (WorkerTransferManifestV1.tryNew H d.observation d.campaignInputs)
  let inventories ← workerInventories H d.workerEndpointDigest d.commitments
  let body ← report (WorkerBootstrapBodyV1.tryNew (d.bodyInput H manifest inventories))
  let frame ← report (WireFrameV1.tryNew (bootstrapInput (d.facts.material H) (d.workerGenesis H) body.bytes credentials
    d.commitments d.commitments.length))
  let raw ← report frame.encodeRawFrame
  let bootstrap ← report (G0TranscriptCandidateV1.prepare H (d.facts.material H) 0 (d.workerGenesis H) frame)
  pure (raw, ⟨d.facts.material H, bootstrap.digest, d.supervisorReceiverUserNamespace, d.workerReceiverViewUid,
    d.workerReceiverViewGid, inventories.1, inventories.2, manifest, d.commitments⟩)

/-- What the worker observes and holds is what the description says of it. -/
structure JoinedBy (input : G0WorkerBootstrapInboundInputV1) : Prop where
  rights : input.actualRightsCount = d.campaignInputs.length + 1
  process : input.observedCredentials.processId = d.facts.supervisorPid
  user : input.observedCredentials.userId = 0
  group : input.observedCredentials.groupId = 0
  role : input.localWorkerEndpoint.role = .worker
  endpoint : input.localWorkerEndpoint.digest = d.workerEndpointDigest
  channel : workerChannelDigest H d.supervisorWorkerEndpoint.digest d.workerEndpointDigest = d.facts.workerChannel
  uid : input.expectedOuterUid = d.workerReceiverViewUid
  gid : input.expectedOuterGid = d.workerReceiverViewGid

end BootstrapDescription

end Descriptions

section Bodies

variable {joined : BootstrapSession} {uid gid : UInt32} {inventories : ProcessInventoryV1 × ProcessInventoryV1}
  {manifest : WorkerTransferManifestV1}

/-- The bytes of a bootstrap's body before its manifest. -/
def bootstrapHead (joined : BootstrapSession) (uid gid : UInt32)
    (inventories : ProcessInventoryV1 × ProcessInventoryV1) : Bytes :=
  le16 39 ++ workerBootstrapBodyDomainV1.val ++ le16 frameVersionV1 ++ joined.acceptedGeneratorBoundDigest.val ++
    joined.session.preimage.val ++ joined.session.generatorNonceCommitment.val ++
      joined.session.supervisorNonceCommitment.val ++ joined.supervisorWorkerEndpointDigest.val ++
        joined.supervisorReceiverUserNamespace.encode ++ le32 uid ++ le32 gid ++ inventories.1.digest.val ++
          inventories.2.digest.val

def bootstrapBytes (joined : BootstrapSession) (uid gid : UInt32)
    (inventories : ProcessInventoryV1 × ProcessInventoryV1) (manifest : WorkerTransferManifestV1) : Bytes :=
  bootstrapHead joined uid gid inventories ++ le16 (UInt16.ofNat manifest.bytes.length) ++ manifest.bytes ++
    manifest.digest.val

lemma descriptorIdentity_length (identity : DescriptorIdentityV1) : identity.encode.length = 24 := by
  simp [DescriptorIdentityV1.encode]

lemma bootstrapHead_length : (bootstrapHead joined uid gid inventories).length = 640 := by
  simp [bootstrapHead, descriptorIdentity_length]

lemma bootstrapBytes_length : (bootstrapBytes joined uid gid inventories manifest).length =
    674 + manifest.bytes.length := by
  simp only [bootstrapBytes, List.length_append, bootstrapHead_length, le16_length, ByteArr.val_length]
  omega

lemma canonicalBootstrapBody_ok {input : G0WorkerBootstrapInboundInputV1} {length : ℕ} {body : Bytes}
    (hlength : manifest.bytes.length = length) :
    canonicalBootstrapBody input joined inventories manifest length = .ok body ↔
      length < 2 ^ 16 ∧ body = bootstrapBytes joined input.expectedOuterUid input.expectedOuterGid inventories manifest := by
  simp only [canonicalBootstrapBody, bind_ok, ensure_ok, exists_unit, pushLp16V1_array (show 39 < 2 ^ 16 by decide),
    Except.ok.injEq, exists_eq_left', pure_ok, bootstrapBytes, bootstrapHead, hlength, List.nil_append]
  rw [eq_comm (b := body)]
  rfl

lemma bootstrapBody_ok {d : BootstrapDescription} {body : WorkerBootstrapBodyV1}
    (hkinds : inventories.1.kind = .workerInitialPostExec ∧ inventories.2.kind = .workerExpectedPostTransfer ∧
      inventories.2.campaignCount = manifest.campaignCount) (hlength : manifest.bytes.length ≤ 894) :
    WorkerBootstrapBodyV1.tryNew (d.bodyInput H manifest inventories) = .ok body ↔
      d.supervisorWorkerEndpoint.role = .supervisorWorker ∧
        body = ⟨bootstrapBytes (d.joined H) d.workerReceiverViewUid d.workerReceiverViewGid inventories manifest⟩ := by
  have hbytes : (bootstrapBytes (d.joined H) d.workerReceiverViewUid d.workerReceiverViewGid inventories
      manifest).length = 674 + manifest.bytes.length := bootstrapBytes_length
  rw [WorkerBootstrapBodyV1.tryNew, pushLp16V1_array (show 39 < 2 ^ 16 by decide)]
  simp only [bind_ok]
  simp only [ensure_ok, exists_unit, context_ok, Except.ok.injEq, exists_eq_left']
  simp only [checkedAdd_eq_some, pure_ok]
  change (d.supervisorWorkerEndpoint.role = .supervisorWorker ∧ ¬(inventories.1.kind ≠ .workerInitialPostExec ∨
    inventories.2.kind ≠ .workerExpectedPostTransfer ∨ inventories.2.campaignCount ≠ manifest.campaignCount) ∧
      manifest.bytes.length < 2 ^ 16 ∧ ∃ length, (674 + manifest.bytes.length < 2 ^ 64 ∧
        674 + manifest.bytes.length = length) ∧ ¬((bootstrapBytes (d.joined H) d.workerReceiverViewUid
          d.workerReceiverViewGid inventories manifest).length ≠ length ∨ 1568 < (bootstrapBytes (d.joined H)
            d.workerReceiverViewUid d.workerReceiverViewGid inventories manifest).length) ∧
              (⟨bootstrapBytes (d.joined H) d.workerReceiverViewUid d.workerReceiverViewGid inventories manifest⟩ :
                WorkerBootstrapBodyV1) = body) ↔ _
  rw [hbytes]
  constructor
  · rintro ⟨hrole, -, -, _, -, -, rfl⟩
    exact ⟨hrole, rfl⟩
  · rintro ⟨hrole, rfl⟩
    exact ⟨hrole, by simp [hkinds], by omega, _, ⟨by omega, rfl⟩, by omega, rfl⟩

end Bodies

section Frames

variable {joined : BootstrapSession} {uid gid : UInt32} {inventories : ProcessInventoryV1 × ProcessInventoryV1}
  {manifest : WorkerTransferManifestV1}

/-- Where the parts of a bootstrap's body stand that the worker reads of the session. -/
structure BodyParts (body : Bytes) (joined : BootstrapSession) (uid gid : UInt32)
    (inventories : ProcessInventoryV1 × ProcessInventoryV1) (manifest : WorkerTransferManifestV1) : Prop where
  domainLength : le16 39 <+: body
  domain : workerBootstrapBodyDomainV1.val <+: body.drop 2
  version : le16 frameVersionV1 <+: body.drop 41
  bound : joined.acceptedGeneratorBoundDigest.val <+: body.drop 43
  preimage : joined.session.preimage.val <+: body.drop 75
  generatorNonce : joined.session.generatorNonceCommitment.val <+: body.drop 448
  supervisorNonce : joined.session.supervisorNonceCommitment.val <+: body.drop 480
  endpoint : joined.supervisorWorkerEndpointDigest.val <+: body.drop 512
  userNamespace : joined.supervisorReceiverUserNamespace.encode <+: body.drop 544
  uid : le32 uid <+: body.drop 568
  gid : le32 gid <+: body.drop 572
  initial : inventories.1.digest.val <+: body.drop 576
  transfer : inventories.2.digest.val <+: body.drop 608
  manifestLength : le16 (UInt16.ofNat manifest.bytes.length) <+: body.drop 640
  content : manifest.bytes <+: body.drop 642
  manifestDigest : manifest.digest.val <+: body.drop (642 + manifest.bytes.length)

lemma bootstrapBytes_parts (joined : BootstrapSession) (uid gid : UInt32)
    (inventories : ProcessInventoryV1 × ProcessInventoryV1) (manifest : WorkerTransferManifestV1) :
    BodyParts (bootstrapBytes joined uid gid inventories manifest) joined uid gid inventories manifest := by
  have hbody := List.prefix_refl (bootstrapBytes joined uid gid inventories manifest)
  nth_rewrite 1 [bootstrapBytes] at hbody
  simp only [Reading.append_prefix_iff, List.length_append, bootstrapHead_length, le16_length] at hbody
  obtain ⟨⟨⟨hhead, hlength⟩, hmanifest⟩, hdigest⟩ := hbody
  simp only [bootstrapHead, Reading.append_prefix_iff, List.length_append, le16_length, le32_length, ByteArr.val_length,
    descriptorIdentity_length, and_assoc] at hhead
  obtain ⟨hdomainLength, hdomain, hversion, hbound, hpreimage, hgn, hsn, hendpoint, hns, huid, hgid, hinitial,
    htransfer⟩ := hhead
  exact ⟨hdomainLength, hdomain, hversion, hbound, hpreimage, hgn, hsn, hendpoint, hns, huid, hgid, hinitial, htransfer,
    hlength, hmanifest, hdigest⟩

lemma readBootstrapSession_of {d : BootstrapDescription} {input : G0WorkerBootstrapInboundInputV1} {body : Bytes}
    (hjoined : d.JoinedBy H input)
    (hparts : BodyParts body (d.joined H) d.workerReceiverViewUid d.workerReceiverViewGid inventories manifest)
    (hlength : 674 ≤ body.length) (hbound : body.length < 2 ^ 16)
    (hsession : getRange input.receivedRawFrame 17 49 = some (d.facts.material H).sessionId.val) :
    readBootstrapSession H input body = .ok (d.joined H) := by
  obtain ⟨hrights, hprocess, huser, hgroup, hrole, hendpoint, hchannel, huid, hgid⟩ := hjoined
  have hchild : ∃ channel, ChannelIdentityV1.tryWorkerChild H input.localWorkerEndpoint
      d.supervisorWorkerEndpoint.digest (d.facts.material H) = .ok channel := by
    rw [← hendpoint] at hchannel
    rw [ChannelIdentityV1.tryWorkerChild, ensure_pass hrole, ok_bind]
    exact ⟨_, bind_ok.mpr ⟨(), ensure_ok.mpr hchannel, rfl⟩⟩
  obtain ⟨channel, hchild⟩ := hchild
  simp only [readBootstrapSession, bind_ok, ensure_ok, exists_unit, context_ok, mapError_ok, sessionFromPreimage_ok,
    pure_ok]
  refine ⟨39, (g0U16LeV1_ok (by omega) (by omega)).mpr hparts.domainLength, rfl,
    (getRange_array _ (by omega) rfl).mpr hparts.domain, _, (g0U16LeV1_ok (by omega) (by omega)).mpr hparts.version, rfl,
    _, (g0FixedBytesV1_ok (by omega) (by omega)).mpr hparts.bound, _,
    (getRange_array _ (by omega) rfl).mpr hparts.preimage, _, ⟨d.facts, rfl, rfl⟩, hsession,
    (getRange_array _ (by omega) rfl).mpr hparts.generatorNonce,
    (getRange_array _ (by omega) rfl).mpr hparts.supervisorNonce, hprocess, huser, hgroup, hrole, _,
    (g0U32LeV1_ok (by omega) (by omega)).mpr hparts.uid, huid.symm, _,
    (g0U32LeV1_ok (by omega) (by omega)).mpr hparts.gid, hgid.symm, _,
    (g0FixedBytesV1_ok (by omega) (by omega)).mpr hparts.endpoint, channel, hchild, _,
    (g0DescriptorIdentityV1_ok (by omega) (by omega)).mpr hparts.userNamespace, rfl⟩

lemma readBootstrapManifest_of {joined : BootstrapSession} {observation : FdCommitmentV1}
    {campaignInputs : List FdCommitmentV1} {body : Bytes}
    (hmanifest : WorkerTransferManifestV1.tryNew H observation campaignInputs = .ok manifest)
    (hparts : BodyParts body joined uid gid inventories manifest)
    (hlength : body.length = 674 + manifest.bytes.length) :
    readBootstrapManifest H body campaignInputs.length = .ok (manifest, observation :: campaignInputs) := by
  have hof := manifest_of hmanifest
  have hcount := hof.count
  have hbytes : manifest.bytes.length = 99 + campaignInputs.length * 53 := hof.length
  have hdeclared : (UInt16.ofNat manifest.bytes.length).toNat = manifest.bytes.length := by
    rw [UInt16.toNat_ofNat', Nat.mod_eq_of_lt (by omega)]
  simp only [readBootstrapManifest, bind_ok, ensure_ok, exists_unit, context_ok, pure_ok, manifestFromRaw_ok,
    workerManifestLength, ← hbytes]
  exact ⟨_, (g0U16LeV1_ok (by omega) (by omega)).mpr hparts.manifestLength, hdeclared, _,
    (Frames.getRange_iff (by omega)).mpr ⟨rfl, hparts.content⟩, _, ⟨observation, campaignInputs, manifest, rfl,
      hmanifest, rfl, rfl⟩, (getRange_array _ (by omega) rfl).mpr hparts.manifestDigest, rfl⟩

lemma Transferred.role_eq {role : FdRoleV1} {commitment : FdCommitmentV1} (h : Transferred role commitment) :
    commitment.role = role := by
  obtain ⟨_, _, _, _, rfl, -⟩ := h
  rfl

lemma WorkerTransferManifestV1.Of.role {observation : FdCommitmentV1} {campaignInputs : List FdCommitmentV1}
    (h : manifest.Of H observation campaignInputs) {i : ℕ} {commitment : FdCommitmentV1}
    (hi : campaignInputs[i]? = some commitment) : commitment.role = .campaignInput (UInt8.ofNat i) := by
  have hentry : campaignInputs.zipIdx[i]? = some (commitment, i) := by
    rw [List.getElem?_zipIdx, hi, Option.map_some, Nat.zero_add]
  exact (h.transferred _ (List.mem_of_getElem? hentry)).role_eq

def bootstrapRaw (session : ProviderSessionMaterialV1) (genesis : Digest) (campaignInputs : List FdCommitmentV1)
    (body : Bytes) : Bytes :=
  frameMagicV1.val ++ le16 frameVersionV1 ++ [FrameDirectionV1.supervisorToWorker.wireCode] ++ [0] ++
    [AttemptPhaseV1.userMapsVerified.wireCode] ++ le32 (UInt32.ofNat body.length) ++ session.sessionId.val ++
      genesis.val ++ [UInt8.ofNat (campaignInputs.length + 1)] ++ [8] ++
        campaignInputs.flatMap (fun commitment => commitment.role.encode) ++ body

lemma bootstrap_rawFrame {observation : FdCommitmentV1} (campaignInputs : List FdCommitmentV1)
    (h : observation.role = .observation) (session : ProviderSessionMaterialV1) (genesis : Digest) (body : Bytes)
    (credentials : PeerCredentialsV1) (count : ℕ) :
    (bootstrapInput session genesis body credentials (observation :: campaignInputs) count).frame.rawFrame =
      bootstrapRaw session genesis campaignInputs body := by
  have hroles : (observation :: campaignInputs).flatMap (fun commitment => commitment.role.encode) =
      [8] ++ campaignInputs.flatMap fun commitment => commitment.role.encode := by
    rw [List.flatMap_cons, h, FdRoleV1.encode]
  rw [bootstrapRaw, WireFrameV1.rawFrame, encodeRawFramePartsV1, FrameInputV1.frame, bootstrapInput, hroles,
    ← List.append_assoc]
  rfl

/-- Where the parts of a bootstrap's frame stand. -/
structure FrameParts (raw : Bytes) (session : ProviderSessionMaterialV1) (campaignInputs : List FdCommitmentV1)
    (body : Bytes) : Prop where
  magic : frameMagicV1.val <+: raw
  version : le16 frameVersionV1 <+: raw.drop 8
  direction : [FrameDirectionV1.supervisorToWorker.wireCode] <+: raw.drop 10
  ordinal : [0] <+: raw.drop 11
  phase : [AttemptPhaseV1.userMapsVerified.wireCode] <+: raw.drop 12
  bodyLength : le32 (UInt32.ofNat body.length) <+: raw.drop 13
  sessionId : session.sessionId.val <+: raw.drop 17
  count : [UInt8.ofNat (campaignInputs.length + 1)] <+: raw.drop 81
  observation : [8] <+: raw.drop 82
  roles : campaignInputs.flatMap (fun commitment => commitment.role.encode) <+: raw.drop 83
  content : body <+: raw.drop (83 + campaignInputs.length * 2)
  length : raw.length = 83 + campaignInputs.length * 2 + body.length

lemma bootstrapRaw_parts {campaignInputs : List FdCommitmentV1}
    (hroles : ∀ commitment ∈ campaignInputs, commitment.role.encode.length = 2) (session : ProviderSessionMaterialV1)
    (genesis : Digest) (body : Bytes) :
    FrameParts (bootstrapRaw session genesis campaignInputs body) session campaignInputs body := by
  have hlength : (campaignInputs.flatMap fun commitment => commitment.role.encode).length = campaignInputs.length * 2 := by
    rw [List.length_flatMap, List.map_congr_left hroles, List.map_const', List.sum_replicate, smul_eq_mul]
  have hraw := List.prefix_refl (bootstrapRaw session genesis campaignInputs body)
  nth_rewrite 1 [bootstrapRaw] at hraw
  simp only [Reading.append_prefix_iff, List.length_append, le16_length, le32_length, ByteArr.val_length,
    List.length_singleton, hlength, and_assoc] at hraw
  obtain ⟨hmagic, hversion, hdirection, hordinal, hphase, hbody, hsession, -, hcount, hobservation, hinputs, hcontent⟩ := hraw
  refine ⟨hmagic, hversion, hdirection, hordinal, hphase, hbody, hsession, hcount, hobservation, hinputs, hcontent, ?_⟩
  simp only [bootstrapRaw, List.length_append, le16_length, le32_length, ByteArr.val_length, List.length_singleton, hlength]

section Headers

variable {raw body : Bytes} {session : ProviderSessionMaterialV1} {campaignInputs : List FdCommitmentV1}

lemma bootstrapCampaignCount_of (h : FrameParts raw session campaignInputs body) (hcount : campaignInputs.length ≤ 15) :
    bootstrapCampaignCount raw (campaignInputs.length + 1) = .ok campaignInputs.length := by
  have hdeclared : (UInt8.ofNat (campaignInputs.length + 1)).toNat = campaignInputs.length + 1 := by
    rw [UInt8.toNat_ofNat', Nat.mod_eq_of_lt (by omega)]
  simp only [bootstrapCampaignCount, bind_ok, ensure_ok, exists_unit, context_ok, pure_ok]
  refine ⟨_, Frames.getElem?_iff.mpr h.count, ?_, ?_, ?_⟩
  · rw [hdeclared, maxFrameFdsV1]
    omega
  · rw [hdeclared, g0MaxIngressCountV1]
    omega
  · rw [hdeclared, Nat.add_sub_cancel]

lemma requireBootstrapHeader_of (h : FrameParts raw session campaignInputs body)
    (hcount : campaignInputs.length ≤ 15) (hbody : body.length = bootstrapBodyLength campaignInputs.length)
    (hroles : ∀ (i : ℕ) (commitment : FdCommitmentV1), campaignInputs[i]? = some commitment →
      commitment.role = .campaignInput (UInt8.ofNat i)) :
    requireBootstrapHeader raw campaignInputs.length = .ok () := by
  have hlength := h.length
  have hraw : raw.length = bootstrapBodyStart campaignInputs.length + bootstrapBodyLength campaignInputs.length := by
    rw [hlength, hbody, bootstrapBodyStart, frameFixedHeaderBytesV1]
    omega
  have hdeclared : (UInt32.ofNat body.length).toNat = bootstrapBodyLength campaignInputs.length := by
    have hsmall : body.length < 2 ^ 32 := by
      rw [hbody, bootstrapBodyLength, workerManifestLength, g0WorkerBootstrapFixedBodyBytesV1]
      omega
    rw [UInt32.toNat_ofNat', Nat.mod_eq_of_lt hsmall, hbody]
  have hwidth : ∀ commitment ∈ campaignInputs, commitment.role.encode.length = 2 := by
    intro commitment hmem
    obtain ⟨i, hi⟩ := List.getElem?_of_mem hmem
    rw [hroles i commitment hi]
    rfl
  simp only [requireBootstrapHeader, bind_ok, ensure_ok, exists_unit]
  refine ⟨hraw, (getRange_array _ (Nat.zero_le _) rfl).mpr h.magic, _, (g0U16LeV1_ok (by omega) (by omega)).mpr h.version, rfl,
    Frames.getElem?_iff.mpr h.direction, Frames.getElem?_iff.mpr h.ordinal, Frames.getElem?_iff.mpr h.phase, _,
    (g0U32LeV1_ok (by omega) (by omega)).mpr h.bodyLength, hdeclared, Frames.getElem?_iff.mpr h.observation, ?_⟩
  refine forM_ok.mpr fun i hi => ?_
  rw [List.mem_range] at hi
  have hget : campaignInputs[i]? = some campaignInputs[i] := List.getElem?_eq_getElem hi
  have hblock := (Frames.block_prefix hwidth hget).trans (h.roles.drop (i * 2))
  rw [List.drop_drop, hroles i _ hget] at hblock
  have hpair := Frames.getElem?_pair_iff.mpr hblock
  simp only [requireBootstrapRole, bind_ok, ensure_ok, exists_unit]
  exact ⟨hpair.1, by omega, hpair.2⟩

end Headers

end Frames

section Agreement

lemma bootstrapCampaignCount_sound {raw : Bytes} {rights campaignCount : ℕ}
    (h : bootstrapCampaignCount raw rights = .ok campaignCount) : rights = campaignCount + 1 := by
  simp only [bootstrapCampaignCount, bind_ok, ensure_ok, exists_unit, pure_ok] at h
  obtain ⟨declared, -, hdeclared, -, rfl⟩ := h
  obtain ⟨hzero, hrest⟩ := not_or.mp hdeclared
  obtain ⟨-, hrights⟩ := not_or.mp hrest
  rw [not_not.mp hrights]
  omega

lemma readBootstrapSession_sound {input : G0WorkerBootstrapInboundInputV1} {body : Bytes} {joined : BootstrapSession}
    (h : readBootstrapSession H input body = .ok joined) :
    ∃ facts : SessionFacts, joined.session = facts.material H ∧
      input.observedCredentials.processId = facts.supervisorPid ∧ input.observedCredentials.userId = 0 ∧
        input.observedCredentials.groupId = 0 ∧ input.localWorkerEndpoint.role = .worker ∧
          workerChannelDigest H joined.supervisorWorkerEndpointDigest input.localWorkerEndpoint.digest =
            facts.workerChannel := by
  simp only [readBootstrapSession, bind_ok, ensure_ok, exists_unit, context_ok, mapError_ok, sessionFromPreimage_ok,
    ChannelIdentityV1.tryWorkerChild, pure_ok] at h
  obtain ⟨_, -, -, -, _, -, -, _, -, _, -, _, ⟨facts, -, rfl⟩, -, -, -, hprocess, huser, hgroup, hrole, _, -, -, _, -, -, _, -,
    _, ⟨-, hchannel, -⟩, _, -, rfl⟩ := h
  exact ⟨facts, rfl, hprocess, huser, hgroup, hrole, hchannel⟩

lemma readBootstrapManifest_sound {body : Bytes} {campaignCount : ℕ}
    {decoded : WorkerTransferManifestV1 × List FdCommitmentV1}
    (h : readBootstrapManifest H body campaignCount = .ok decoded) :
    ∃ observation campaignInputs, campaignInputs.length = campaignCount ∧
      WorkerTransferManifestV1.tryNew H observation campaignInputs = .ok decoded.1 ∧
        decoded.2 = observation :: campaignInputs := by
  simp only [readBootstrapManifest, bind_ok, ensure_ok, exists_unit, pure_ok, manifestFromRaw_ok] at h
  obtain ⟨_, -, -, _, -, _, ⟨observation, campaignInputs, manifest, hlength, hmanifest, -, rfl⟩, -, rfl⟩ := h
  exact ⟨observation, campaignInputs, hlength, hmanifest, rfl⟩

lemma sent_body {d : BootstrapDescription} {manifest : WorkerTransferManifestV1}
    {inventories : ProcessInventoryV1 × ProcessInventoryV1} {body : WorkerBootstrapBodyV1}
    (hmanifest : WorkerTransferManifestV1.tryNew H d.observation d.campaignInputs = .ok manifest)
    (hinventories : workerInventories H d.workerEndpointDigest d.commitments = .ok inventories) :
    WorkerBootstrapBodyV1.tryNew (d.bodyInput H manifest inventories) = .ok body ↔
      d.supervisorWorkerEndpoint.role = .supervisorWorker ∧
        body = ⟨bootstrapBytes (d.joined H) d.workerReceiverViewUid d.workerReceiverViewGid inventories manifest⟩ := by
  have hof := manifest_of hmanifest
  have hcount := hof.count
  obtain ⟨hinitial, htransfer, hcampaign⟩ := workerInventories_kinds hinventories
  refine bootstrapBody_ok ⟨hinitial, htransfer, ?_⟩ ?_
  · rw [hcampaign, hof.campaignCount, BootstrapDescription.commitments, List.length_cons, Nat.add_sub_cancel]
  · rw [hof.length, workerManifestLength]
    omega

lemma bootstrap_sound {input : G0WorkerBootstrapInboundInputV1} {candidate : G0WorkerBootstrapInboundCandidateV1}
    (h : G0WorkerBootstrapInboundCandidateV1.tryNew H input = .ok candidate) :
    ∃ d : BootstrapDescription, d.JoinedBy H input ∧
      d.sent H input.observedCredentials = .ok (input.receivedRawFrame, candidate) := by
  simp only [G0WorkerBootstrapInboundCandidateV1.tryNew, bind_ok, report_ok, ensure_ok, exists_unit, context_ok,
    pure_ok] at h
  obtain ⟨campaignCount, hcount, -, body, -, joined, hjoined, decoded, hdecoded, inventories, hinventories, -, -,
    canonicalBody, hcanonical, -, frame, hframe, raw, hraw, rfl, bootstrap, hbootstrap, rfl⟩ := h
  obtain ⟨facts, hsession, hprocess, huser, hgroup, hrole, hchannel⟩ := readBootstrapSession_sound hjoined
  obtain ⟨observation, campaignInputs, rfl, hmanifest, hcommitments⟩ := readBootstrapManifest_sound hdecoded
  obtain ⟨bound, session, endpointDigest, userNamespace⟩ := joined
  obtain ⟨manifest, commitments⟩ := decoded
  obtain rfl : session = facts.material H := hsession
  obtain rfl : commitments = observation :: campaignInputs := hcommitments
  let d : BootstrapDescription := ⟨facts, bound, ⟨.supervisorWorker, ByteArr.zero 83, endpointDigest⟩, userNamespace,
    input.expectedOuterUid, input.expectedOuterGid, input.localWorkerEndpoint.digest, observation, campaignInputs⟩
  refine ⟨d, ⟨bootstrapCampaignCount_sound hcount, hprocess, huser, hgroup, hrole, rfl, hchannel, rfl, rfl⟩, ?_⟩
  obtain ⟨-, rfl⟩ := (canonicalBootstrapBody_ok (manifest_of hmanifest).length).mp hcanonical
  have hbody := (sent_body (d := d) hmanifest hinventories).mpr ⟨rfl, rfl⟩
  simp only [BootstrapDescription.sent, bind_ok, report_ok, pure_ok]
  exact ⟨manifest, hmanifest, inventories, hinventories, _, hbody, frame, hframe, _, hraw, bootstrap, hbootstrap, rfl⟩

lemma bootstrap_complete {d : BootstrapDescription} {input : G0WorkerBootstrapInboundInputV1}
    {candidate : G0WorkerBootstrapInboundCandidateV1} (hjoined : d.JoinedBy H input)
    (h : d.sent H input.observedCredentials = .ok (input.receivedRawFrame, candidate)) :
    G0WorkerBootstrapInboundCandidateV1.tryNew H input = .ok candidate := by
  simp only [BootstrapDescription.sent, bind_ok, report_ok, pure_ok] at h
  obtain ⟨manifest, hmanifest, inventories, hinventories, sent, hsent, frame, hframe, raw, hraw, bootstrap, hbootstrap,
    heq⟩ := h
  obtain ⟨rfl, rfl⟩ := Prod.mk.inj heq
  obtain ⟨-, rfl⟩ := (sent_body hmanifest hinventories).mp hsent
  have hof := manifest_of hmanifest
  have hcount := hof.count
  have hbytes : manifest.bytes.length = 99 + d.campaignInputs.length * 53 := hof.length
  have hparts := bootstrapBytes_parts (d.joined H) d.workerReceiverViewUid d.workerReceiverViewGid inventories manifest
  have hlength : (bootstrapBytes (d.joined H) d.workerReceiverViewUid d.workerReceiverViewGid inventories
      manifest).length = 674 + manifest.bytes.length := bootstrapBytes_length
  have hcanonical : canonicalBootstrapBody input (d.joined H) inventories manifest
      (workerManifestLength d.campaignInputs.length) =
        .ok (bootstrapBytes (d.joined H) d.workerReceiverViewUid d.workerReceiverViewGid inventories manifest) := by
    rw [canonicalBootstrapBody_ok hof.length, hjoined.uid, hjoined.gid, workerManifestLength]
    exact ⟨by omega, rfl⟩
  have hworker : workerInventories H input.localWorkerEndpoint.digest d.commitments = .ok inventories := by
    rw [hjoined.endpoint]
    exact hinventories
  -- behind the parts only the length of the body matters
  generalize bootstrapBytes (d.joined H) d.workerReceiverViewUid d.workerReceiverViewGid inventories manifest = body at *
  have hroles : ∀ commitment ∈ d.campaignInputs, commitment.role.encode.length = 2 := by
    intro commitment hmem
    obtain ⟨i, hi⟩ := List.getElem?_of_mem hmem
    rw [hof.role hi]
    rfl
  have hframeParts : FrameParts input.receivedRawFrame (d.facts.material H) d.campaignInputs body := by
    obtain ⟨-, hframeEq⟩ := tryNew_ok.mp hframe
    rw [(encodeRawFrame_ok.mp hraw).2, hframeEq, BootstrapDescription.commitments,
      bootstrap_rawFrame d.campaignInputs hof.observed.role_eq]
    exact bootstrapRaw_parts hroles _ _ _
  have hrawLength := hframeParts.length
  have hbodyLength : body.length = bootstrapBodyLength d.campaignInputs.length := by
    rw [hlength, hof.length, bootstrapBodyLength, g0WorkerBootstrapFixedBodyBytesV1]
  have hread : getRange input.receivedRawFrame (bootstrapBodyStart d.campaignInputs.length)
      input.receivedRawFrame.length = some body := by
    have hstart : bootstrapBodyStart d.campaignInputs.length = 83 + d.campaignInputs.length * 2 := by
      rw [bootstrapBodyStart, frameFixedHeaderBytesV1]
      omega
    rw [hrawLength, hstart]
    exact (Frames.getRange_iff (by omega)).mpr ⟨rfl, hframeParts.content⟩
  have hcampaign : bootstrapCampaignCount input.receivedRawFrame input.actualRightsCount = .ok d.campaignInputs.length := by
    rw [hjoined.rights]
    exact bootstrapCampaignCount_of hframeParts hcount
  have hheader := requireBootstrapHeader_of hframeParts hcount hbodyLength fun i commitment hi => hof.role hi
  have hsessionRead := readBootstrapSession_of hjoined hparts (by omega) (by omega)
    ((getRange_array _ (by omega) rfl).mpr hframeParts.sessionId)
  have hmanifestRead := readBootstrapManifest_of hmanifest hparts hlength
  have hinitial : getRange body 576 608 = some inventories.1.digest.val :=
    (getRange_array _ (by omega) rfl).mpr hparts.initial
  have htransfer : getRange body 608 640 = some inventories.2.digest.val :=
    (getRange_array _ (by omega) rfl).mpr hparts.transfer
  simp only [G0WorkerBootstrapInboundCandidateV1.tryNew, bind_ok, report_ok, ensure_ok, exists_unit, context_ok,
    pure_ok]
  refine ⟨_, hcampaign, hheader, body, hread, _, hsessionRead, _, hmanifestRead, inventories, hworker, hinitial, htransfer,
    body, hcanonical, rfl, _, hframe, _, hraw, rfl, bootstrap, hbootstrap, ?_⟩
  rw [hjoined.uid, hjoined.gid]
  rfl

/-- The worker accepts exactly the frames that the supervisor's constructors make of the session, the
endpoints and the commitments that the worker joins, and recovers what they were made of. -/
theorem bootstraps_accepted_exactly (input : G0WorkerBootstrapInboundInputV1)
    (candidate : G0WorkerBootstrapInboundCandidateV1) :
    G0WorkerBootstrapInboundCandidateV1.tryNew H input = .ok candidate ↔
      ∃ d : BootstrapDescription, d.JoinedBy H input ∧
        d.sent H input.observedCredentials = .ok (input.receivedRawFrame, candidate) := by
  constructor
  · exact bootstrap_sound
  · rintro ⟨d, hjoined, hsent⟩
    exact bootstrap_complete hjoined hsent

end Agreement

section Range

end Range

section Answers

variable {session : ProviderSessionMaterialV1} {initial transfer : ProcessInventoryV1}
  {manifest : WorkerTransferManifestV1} {body : WorkerExecBoundBodyV1} {bootstrapDigest : Digest}
  {credentials : PeerCredentialsV1}

def execBoundBytes (session : ProviderSessionMaterialV1) (initial transfer : ProcessInventoryV1)
    (manifest : WorkerTransferManifestV1) : ByteArr 236 :=
  ⟨le16 40 ++ workerExecBoundBodyDomainV1.val ++ le16 frameVersionV1 ++ session.requestCommitment.val ++
    session.generatorNonceCommitment.val ++ session.supervisorNonceCommitment.val ++ initial.digest.val ++
      transfer.digest.val ++ manifest.digest.val, by simp⟩

lemma execBoundBody_ok :
    WorkerExecBoundBodyV1.tryNew session initial transfer manifest = .ok body ↔
      ¬(initial.kind ≠ .workerInitialPostExec ∨ transfer.kind ≠ .workerExpectedPostTransfer ∨
        transfer.campaignCount ≠ manifest.campaignCount) ∧ body = ⟨execBoundBytes session initial transfer manifest⟩ := by
  simp only [WorkerExecBoundBodyV1.tryNew, bind_ok, ensure_ok, exists_unit, tryInto_ok, pure_ok,
    pushLp16V1_array (show 40 < 2 ^ 16 by decide), Except.ok.injEq]
  constructor
  · rintro ⟨hkinds, _, rfl, bytes, hbytes, rfl⟩
    exact ⟨hkinds, congrArg WorkerExecBoundBodyV1.mk (Subtype.ext hbytes.symm)⟩
  · rintro ⟨hkinds, rfl⟩
    exact ⟨hkinds, _, rfl, execBoundBytes session initial transfer manifest, rfl, rfl⟩

lemma execBoundBytes_validates :
    WorkerExecBoundBodyV1.validateSession ⟨execBoundBytes session initial transfer manifest⟩ session = .ok () := by
  have hbytes := List.prefix_refl (execBoundBytes session initial transfer manifest).val
  nth_rewrite 1 [execBoundBytes] at hbytes
  simp only [Reading.append_prefix_iff, List.length_append, le16_length, ByteArr.val_length] at hbytes
  obtain ⟨⟨⟨⟨⟨⟨-, hrequest⟩, hgenerator⟩, hsupervisor⟩, -⟩, -⟩, -⟩ := hbytes
  rw [WorkerExecBoundBodyV1.validateSession, slice_array hrequest, slice_array hgenerator, slice_array hsupervisor]
  simp [ensure]

lemma workerExecBoundInput_acceptable : (workerExecBoundInput session bootstrapDigest body credentials).Acceptable where
  ordinal := (by decide : (1 : UInt8) < maxSessionFramesV1)
  fdBound := Nat.zero_le _
  ancillary := rfl
  inventory := ⟨fun _ h => absurd h List.not_mem_nil, List.nodup_nil⟩
  bounded := by
    rw [workerExecBoundInput, ByteArr.val_length]
    simp [frameLength, rolesTotal, maxFrameBytesV1]

lemma workerExecBound_rawFrame (credentials : PeerCredentialsV1) :
    encodeRawFramePartsV1 frameMagicV1 frameVersionV1 .workerToSupervisor 1 .workerExecBound 236 session.sessionId
        bootstrapDigest 0 [] body.bytes.val =
      (workerExecBoundInput session bootstrapDigest body credentials).frame.rawFrame := by
  simp only [WireFrameV1.rawFrame, FrameInputV1.frame, workerExecBoundInput, ByteArr.val_length]
  rfl

def execBoundRaw (session : ProviderSessionMaterialV1) (bootstrapDigest : Digest) (body : WorkerExecBoundBodyV1)
    (credentials : PeerCredentialsV1) : ByteArr 318 :=
  ⟨(workerExecBoundInput session bootstrapDigest body credentials).frame.rawFrame, by
    rw [← workerExecBound_rawFrame credentials, encodeRawFramePartsV1]
    simp⟩

/-- The inventories and the manifest that a candidate retains belong together. -/
def G0WorkerBootstrapInboundCandidateV1.Consistent (candidate : G0WorkerBootstrapInboundCandidateV1) : Prop :=
  candidate.workerInitialInventory.kind = .workerInitialPostExec ∧
    candidate.workerTransferInventory.kind = .workerExpectedPostTransfer ∧
      candidate.workerTransferInventory.campaignCount = candidate.workerManifest.campaignCount

def G0WorkerBootstrapInboundCandidateV1.answer (candidate : G0WorkerBootstrapInboundCandidateV1)
    (credentials : PeerCredentialsV1) : WireFrameV1 :=
  (workerExecBoundInput candidate.session candidate.bootstrapDigest ⟨execBoundBytes candidate.session
    candidate.workerInitialInventory candidate.workerTransferInventory candidate.workerManifest⟩ credentials).frame

lemma prepareWorkerExecBound_ok {candidate : G0WorkerBootstrapInboundCandidateV1}
    {outbound : G0WorkerExecBoundOutboundCandidateV1} (hconsistent : candidate.Consistent) :
    candidate.prepareWorkerExecBoundOutboundV1 H credentials = .ok outbound ↔
      (credentials.userNamespace = candidate.supervisorReceiverUserNamespace ∧
        credentials.userId = candidate.expectedOuterUid ∧ credentials.groupId = candidate.expectedOuterGid) ∧
          outbound.rawFrame.val = (candidate.answer credentials).rawFrame ∧
            outbound.transcriptDigest = H (transcriptBytes (candidate.answer credentials)) := by
  obtain ⟨hinitial, htransfer, hcount⟩ := hconsistent
  have hacceptable : (workerExecBoundInput candidate.session candidate.bootstrapDigest ⟨execBoundBytes candidate.session
      candidate.workerInitialInventory candidate.workerTransferInventory candidate.workerManifest⟩
        credentials).Acceptable := workerExecBoundInput_acceptable
  have hordinal : (1 : UInt8) < maxSessionFramesV1 := by decide
  simp only [G0WorkerBootstrapInboundCandidateV1.prepareWorkerExecBoundOutboundV1, encodeWorkerExecBoundRawFrameV1,
    G0TranscriptCandidateV1.prepare, bind_ok, ensure_ok, exists_unit, execBoundBody_ok,
    workerExecBound_rawFrame credentials, tryInto_ok, tryNew_ok, encodeRawFrame_ok, prepareTranscriptBytesV1_ok, pure_ok]
  constructor
  · rintro ⟨hcredentials, _, ⟨-, rfl⟩, raw, ⟨-, hraw⟩, _, ⟨-, rfl⟩, _, ⟨-, rfl⟩, -, _, ⟨_, ⟨-, -, -, -, -, rfl⟩, rfl⟩, rfl⟩
    simp only [not_or, not_not] at hcredentials
    exact ⟨hcredentials, hraw.symm, rfl⟩
  · rintro ⟨hcredentials, hraw, hdigest⟩
    refine ⟨by simp [hcredentials], _, ⟨by simp [hinitial, htransfer, hcount], rfl⟩, outbound.rawFrame,
      ⟨execBoundBytes_validates, hraw.symm⟩, _, ⟨hacceptable, rfl⟩, _, ⟨hacceptable.valid, rfl⟩, hraw.symm, _,
      ⟨_, ⟨hacceptable.valid, hordinal, rfl, rfl, rfl, rfl⟩, rfl⟩, ?_⟩
    exact congrArg (G0WorkerExecBoundOutboundCandidateV1.mk _) hdigest.symm

/-- The worker's side of its channel: the bootstrap taken in, the frame bound to it sent out. -/
def workerAnswers (H : Bytes → Digest) (input : G0WorkerBootstrapInboundInputV1) (credentials : PeerCredentialsV1) :
    Except (Fault WireErrorV1) G0WorkerExecBoundOutboundCandidateV1 := do
  let candidate ← G0WorkerBootstrapInboundCandidateV1.tryNew H input
  report (candidate.prepareWorkerExecBoundOutboundV1 H credentials)

lemma sent_facts {d : BootstrapDescription} {raw : Bytes} {candidate : G0WorkerBootstrapInboundCandidateV1}
    (h : d.sent H credentials = .ok (raw, candidate)) :
    candidate.Consistent ∧ candidate.session = d.facts.material H ∧
      candidate.supervisorReceiverUserNamespace = d.supervisorReceiverUserNamespace ∧
        candidate.expectedOuterUid = d.workerReceiverViewUid ∧ candidate.expectedOuterGid = d.workerReceiverViewGid ∧
          ∃ bootstrap : WireFrameV1, bootstrap.Valid ∧ bootstrap.rawFrame = raw ∧ bootstrap.credentials = credentials ∧
            bootstrap.sessionId = (d.facts.material H).sessionId ∧ bootstrap.ordinal = 0 ∧
              bootstrap.previousHash = d.workerGenesis H ∧ candidate.bootstrapDigest = H (transcriptBytes bootstrap) := by
  simp only [BootstrapDescription.sent, G0TranscriptCandidateV1.prepare, bind_ok, report_ok, pure_ok, tryNew_ok,
    encodeRawFrame_ok, prepareTranscriptBytesV1_ok] at h
  obtain ⟨manifest, hmanifest, inventories, hinventories, body, hbody, frame, ⟨-, hframe⟩, _, ⟨hvalid, rfl⟩, _,
    ⟨_, ⟨-, -, hsession, hordinal, hprevious, rfl⟩, rfl⟩, heq⟩ := h
  obtain ⟨rfl, rfl⟩ := Prod.mk.inj heq
  have hof := manifest_of hmanifest
  obtain ⟨hinitial, htransfer, hcampaign⟩ := workerInventories_kinds hinventories
  refine ⟨⟨hinitial, htransfer, ?_⟩, rfl, rfl, rfl, rfl, frame, hvalid, rfl, by rw [hframe]; rfl, hsession, hordinal,
    hprevious, rfl⟩
  rw [hcampaign, hof.campaignCount, BootstrapDescription.commitments, List.length_cons, Nat.add_sub_cancel]

/-- The worker answers exactly the frames that it accepts, for the credentials that the bootstrap
expects of it; and then the two frames are a transcript of its channel, from the start that the
accepted digest of the generator's bound gives it, up to the digest that it keeps. -/
theorem worker_channel_chains (input : G0WorkerBootstrapInboundInputV1) (credentials : PeerCredentialsV1)
    (outbound : G0WorkerExecBoundOutboundCandidateV1) :
    workerAnswers H input credentials = .ok outbound ↔
      ∃ (d : BootstrapDescription) (candidate : G0WorkerBootstrapInboundCandidateV1) (bootstrap : WireFrameV1),
        (d.JoinedBy H input ∧ d.sent H input.observedCredentials = .ok (input.receivedRawFrame, candidate)) ∧
          (credentials.userNamespace = d.supervisorReceiverUserNamespace ∧
            credentials.userId = d.workerReceiverViewUid ∧ credentials.groupId = d.workerReceiverViewGid) ∧
          bootstrap.rawFrame = input.receivedRawFrame ∧ bootstrap.credentials = input.observedCredentials ∧
          outbound.rawFrame.val = (candidate.answer credentials).rawFrame ∧
          (TranscriptCursorV1.start (d.facts.material H).sessionId (d.workerGenesis H)).acceptAll H
            [bootstrap, candidate.answer credentials] =
              .ok (⟨(d.facts.material H).sessionId, 2, outbound.transcriptDigest⟩,
                [transcriptBytes (candidate.answer credentials), transcriptBytes bootstrap]) := by
  rw [workerAnswers, bind_ok]
  constructor
  · rintro ⟨candidate, haccepted, hanswer⟩
    obtain ⟨d, hjoined, hsent⟩ := bootstrap_sound haccepted
    obtain ⟨hconsistent, hsession, hns, huid, hgid, bootstrap, hvalid, hraw, hcredentials, hid, hordinal, hprevious,
      hdigest⟩ := sent_facts hsent
    obtain ⟨hmatch, houtbound, hkept⟩ := (prepareWorkerExecBound_ok hconsistent).mp (report_ok.mp hanswer)
    rw [hns, huid, hgid] at hmatch
    refine ⟨d, candidate, bootstrap, ⟨hjoined, hsent⟩, hmatch, hraw, hcredentials, houtbound, ?_⟩
    rw [hkept]
    refine chain_of_two hvalid workerExecBoundInput_acceptable.valid ⟨hid, ?_⟩ ⟨hordinal, rfl⟩ ⟨hprevious, hdigest⟩
    exact congrArg ProviderSessionMaterialV1.sessionId hsession
  · rintro ⟨d, candidate, bootstrap, ⟨hjoined, hsent⟩, hmatch, -, -, houtbound, hchain⟩
    obtain ⟨hconsistent, -, hns, huid, hgid, -⟩ := sent_facts hsent
    refine ⟨candidate, bootstrap_complete hjoined hsent, report_ok.mpr ((prepareWorkerExecBound_ok hconsistent).mpr
      ⟨by rwa [hns, huid, hgid], houtbound, ?_⟩)⟩
    have hconcat : (TranscriptCursorV1.start (d.facts.material H).sessionId (d.workerGenesis H)).acceptAll H
        ([bootstrap] ++ [candidate.answer credentials]) = _ := hchain
    obtain ⟨_, _, _, -, haccept, hhashed⟩ := acceptAll_concat hconcat
    obtain ⟨rfl, -⟩ := List.cons.inj hhashed
    exact congrArg TranscriptCursorV1.previousHash (accept_ok haccept).2

end Answers

end Eip0045.Wire
