import Eip0045.Library.Frames
import Eip0045.Provider.Session

/-! The session before the first frame, on both sides: what the generator accepts of the supervisor, the
session that it rebuilds, and whole attempts with the records that they exchange. -/

namespace Eip0045.Wire

open Bytes Checked

section Readers

def g0FixedBytesV1 (n : ℕ) (bytes : Bytes) (offset : ℕ) (field : G0ContractFieldV1) :
    Except WireErrorV1 (ByteArr n) := do
  let stop ← context .arithmeticOverflow (checkedAdd offset n)
  let value ← context (.g0ContractDrift field) (getRange bytes offset stop)
  context (.g0ContractDrift field) (ByteArr.ofBytes n value)

def g0U16LeV1 (bytes : Bytes) (offset : ℕ) (field : G0ContractFieldV1) : Except WireErrorV1 UInt16 := do
  let value ← g0FixedBytesV1 2 bytes offset field
  pure (ofLe16 value.val)

def g0U32LeV1 (bytes : Bytes) (offset : ℕ) (field : G0ContractFieldV1) : Except WireErrorV1 UInt32 := do
  let value ← g0FixedBytesV1 4 bytes offset field
  pure (ofLe32 value.val)

def g0U64LeV1 (bytes : Bytes) (offset : ℕ) (field : G0ContractFieldV1) : Except WireErrorV1 UInt64 := do
  let value ← g0FixedBytesV1 8 bytes offset field
  pure (ofLe64 value.val)

def g0DescriptorIdentityV1 (bytes : Bytes) (offset : ℕ) (field : G0ContractFieldV1) :
    Except WireErrorV1 DescriptorIdentityV1 := do
  let device ← g0U64LeV1 bytes offset field
  let inode ← g0U64LeV1 bytes (offset + 8) field
  let mountId ← g0U64LeV1 bytes (offset + 16) field
  mapError (.g0ContractDrift field) (DescriptorIdentityV1.tryNew device inode mountId)

variable {bytes : Bytes} {offset : ℕ} {field : G0ContractFieldV1}

lemma g0FixedBytesV1_ok {n : ℕ} {value : ByteArr n} (hoffset : offset ≤ bytes.length) (hbound : offset + n < 2 ^ 64) :
    g0FixedBytesV1 n bytes offset field = .ok value ↔ value.val <+: bytes.drop offset := by
  have hsum : checkedAdd offset n = some (offset + n) := checkedAdd_eq_some.mpr ⟨hbound, rfl⟩
  simp only [g0FixedBytesV1, hsum, context, ok_bind, bind_ok]
  constructor
  · intro h
    obtain ⟨b, hb, hvalue⟩ := h
    have hrange : getRange bytes offset (offset + n) = some b := context_ok.mp hb
    have hval : b = value.val := ByteArr.ofBytes_eq_some.mp (context_ok.mp hvalue)
    rw [← hval]
    exact ((Frames.getRange_iff hoffset).mp hrange).2
  · intro h
    exact ⟨value.val, context_ok.mpr ((Frames.getRange_iff hoffset).mpr ⟨value.2, h⟩),
      context_ok.mpr (ByteArr.ofBytes_val value)⟩

lemma g0Decoded_ok {α : Type} {n : ℕ} {enc : α → Bytes} {dec : Bytes → α} {a : α}
    (hlength : ∀ a, (enc a).length = n) (hdec : ∀ a, dec (enc a) = a) (henc : ∀ {bs : Bytes}, bs.length = n → enc (dec bs) = bs)
    (hoffset : offset ≤ bytes.length) (hbound : offset + n < 2 ^ 64) :
    (g0FixedBytesV1 n bytes offset field >>= fun value => pure (dec value.val)) = .ok a ↔
      enc a <+: bytes.drop offset := by
  simp only [bind_ok, g0FixedBytesV1_ok hoffset hbound, pure_ok]
  constructor
  · rintro ⟨value, hvalue, rfl⟩
    rwa [henc value.2]
  · intro h
    exact ⟨⟨enc a, hlength a⟩, h, hdec a⟩

lemma g0U16LeV1_ok {value : UInt16} (hoffset : offset ≤ bytes.length) (hbound : offset + 2 < 2 ^ 64) :
    g0U16LeV1 bytes offset field = .ok value ↔ le16 value <+: bytes.drop offset :=
  g0Decoded_ok le16_length ofLe16_le16 le16_ofLe16 hoffset hbound

lemma g0U32LeV1_ok {value : UInt32} (hoffset : offset ≤ bytes.length) (hbound : offset + 4 < 2 ^ 64) :
    g0U32LeV1 bytes offset field = .ok value ↔ le32 value <+: bytes.drop offset :=
  g0Decoded_ok le32_length ofLe32_le32 le32_ofLe32 hoffset hbound

lemma g0U64LeV1_ok {value : UInt64} (hoffset : offset ≤ bytes.length) (hbound : offset + 8 < 2 ^ 64) :
    g0U64LeV1 bytes offset field = .ok value ↔ le64 value <+: bytes.drop offset :=
  g0Decoded_ok le64_length ofLe64_le64 le64_ofLe64 hoffset hbound

lemma descriptorIdentity_ok {device inode mountId : UInt64} {identity : DescriptorIdentityV1} :
    DescriptorIdentityV1.tryNew device inode mountId = .ok identity ↔
      device = identity.device ∧ inode = identity.inode ∧ mountId = identity.mountId := by
  rw [DescriptorIdentityV1.tryNew]
  constructor
  · split_ifs with h
    · intro hok
      cases hok
      exact ⟨rfl, rfl, rfl⟩
    · exact fun hok => (by cases hok)
  · rintro ⟨rfl, rfl, rfl⟩
    rw [dif_pos identity.nonzero]

lemma g0DescriptorIdentityV1_ok {identity : DescriptorIdentityV1} (hoffset : offset + 24 ≤ bytes.length)
    (hbound : bytes.length < 2 ^ 64) :
    g0DescriptorIdentityV1 bytes offset field = .ok identity ↔ identity.encode <+: bytes.drop offset := by
  simp only [g0DescriptorIdentityV1, bind_ok, mapError_ok, descriptorIdentity_ok]
  rw [DescriptorIdentityV1.encode, Reading.append_prefix_iff, Reading.append_prefix_iff, List.drop_drop, List.drop_drop,
    List.length_append, le64_length, le64_length]
  constructor
  · rintro ⟨device, hdevice, inode, hinode, mountId, hmount, rfl, rfl, rfl⟩
    exact ⟨⟨(g0U64LeV1_ok (by omega) (by omega)).mp hdevice, (g0U64LeV1_ok (by omega) (by omega)).mp hinode⟩,
      (g0U64LeV1_ok (by omega) (by omega)).mp hmount⟩
  · rintro ⟨⟨hdevice, hinode⟩, hmount⟩
    exact ⟨_, (g0U64LeV1_ok (by omega) (by omega)).mpr hdevice, _, (g0U64LeV1_ok (by omega) (by omega)).mpr hinode, _,
      (g0U64LeV1_ok (by omega) (by omega)).mpr hmount, rfl, rfl, rfl⟩

end Readers

section Constructions

@[simp] lemma tryInto_ok {n : ℕ} {bytes : Bytes} {a : ByteArr n} : tryInto n bytes = .ok a ↔ bytes = a.val := by
  rw [tryInto, context_ok, ByteArr.ofBytes_eq_some]

lemma pushLp16V1_array {n : ℕ} (h : n < 2 ^ 16) (output : Bytes) (value : ByteArr n) :
    pushLp16V1 output value.val = .ok (output ++ le16 (UInt16.ofNat n) ++ value.val) := by
  rw [pushLp16V1, ByteArr.val_length, ensure_pass h]
  rfl


variable {H : Bytes → Digest}

def recordBytes (H : Bytes → Digest) (kind : PreSessionRecordKindV1) (requestDigest nonce : Digest) : Bytes :=
  preSessionRecordMagicV1.val ++ le16 frameVersionV1 ++ [kind.wireCode] ++ requestDigest.val ++
    (if kind.reveal = true then nonce else H (noncePreimage kind.role requestDigest nonce)).val

lemma nonceCommitmentV1_ok {role : NonceRoleV1} {request : RequestCommitmentV1} {nonce commitment : Digest} :
    nonceCommitmentV1 H role request nonce = .ok commitment ↔
      nonce ≠ ByteArr.zero 32 ∧ H (noncePreimage role request.digest nonce) = commitment := by
  simp only [nonceCommitmentV1, nonceCommitmentFromDigestV1, bind_ok, ensure_ok, exists_unit, pure_ok]

lemma encodePreSessionRecordV1_ok {kind : PreSessionRecordKindV1} {request : RequestCommitmentV1} {nonce : Digest}
    {record : ByteArr 75} : encodePreSessionRecordV1 H kind request nonce = .ok record ↔
      nonce ≠ ByteArr.zero 32 ∧ record.val = recordBytes H kind request.digest nonce := by
  simp only [encodePreSessionRecordV1, bind_ok, nonceCommitmentV1_ok, tryInto_ok]
  constructor
  · rintro ⟨_, ⟨hnonce, rfl⟩, hrecord⟩
    exact ⟨hnonce, hrecord.symm⟩
  · rintro ⟨hnonce, hrecord⟩
    exact ⟨_, ⟨hnonce, rfl⟩, hrecord.symm⟩

/-- What a session commits to, with a living supervisor and without a zero nonce. -/
structure SessionFacts where
  requestDigest : Digest
  applianceMeasurement : Digest
  supervisorMeasurement : Digest
  generatorMeasurement : Digest
  workerMeasurement : Digest
  generatorNonce : Digest
  supervisorNonce : Digest
  supervisorPid : UInt32
  supervisorStartEpoch : UInt64
  generatorChannel : Digest
  workerChannel : Digest
  process : ¬(supervisorPid = 0 ∨ supervisorStartEpoch = 0)
  nonces : generatorNonce ≠ ByteArr.zero 32 ∧ supervisorNonce ≠ ByteArr.zero 32

def SessionFacts.preimage (facts : SessionFacts) : ByteArr 373 :=
  ⟨providerSessionDomainV1.val ++ le16 43 ++ sessionProtocolIdV1.val ++ facts.requestDigest.val ++
    facts.applianceMeasurement.val ++ facts.supervisorMeasurement.val ++ facts.generatorMeasurement.val ++
      facts.workerMeasurement.val ++ facts.generatorNonce.val ++ facts.supervisorNonce.val ++
        le32 facts.supervisorPid ++ le64 facts.supervisorStartEpoch ++ facts.generatorChannel.val ++
          facts.workerChannel.val, by simp⟩

def SessionFacts.material (H : Bytes → Digest) (facts : SessionFacts) : ProviderSessionMaterialV1 where
  preimage := facts.preimage
  sessionId := H facts.preimage.val
  requestCommitment := facts.requestDigest
  generatorNonceCommitment := H (noncePreimage .generator facts.requestDigest facts.generatorNonce)
  supervisorNonceCommitment := H (noncePreimage .supervisor facts.requestDigest facts.supervisorNonce)
  generatorChannel := facts.generatorChannel
  workerChannel := facts.workerChannel

/-- The facts that the inputs of a session spell. -/
def SessionFacts.Of (facts : SessionFacts) (input : ProviderSessionInputV1) : Prop :=
  facts.requestDigest = input.request.digest ∧ facts.applianceMeasurement = input.applianceMeasurement ∧
    facts.supervisorMeasurement = input.supervisorMeasurement ∧ facts.generatorMeasurement = input.generatorMeasurement ∧
      facts.workerMeasurement = input.workerMeasurement ∧ facts.generatorNonce = input.generatorNonce ∧
        facts.supervisorNonce = input.supervisorNonce ∧ facts.supervisorPid = input.supervisorPid ∧
          facts.supervisorStartEpoch = input.supervisorStartEpoch ∧
            input.generatorChannel = ⟨.generator, facts.generatorChannel⟩ ∧
              input.workerChannel = ⟨.worker, facts.workerChannel⟩

lemma session_ok {input : ProviderSessionInputV1} {session : ProviderSessionMaterialV1} :
    ProviderSessionMaterialV1.tryNew H input = .ok session ↔
      ∃ facts : SessionFacts, facts.Of input ∧ session = facts.material H := by
  simp only [ProviderSessionMaterialV1.tryNew, bind_ok, ensure_ok, exists_unit, nonceCommitmentV1_ok, tryInto_ok,
    pushLp16V1_array (show 43 < 2 ^ 16 by decide), Except.ok.injEq, pure_ok]
  constructor
  · rintro ⟨hprocess, hchannels, _, ⟨hgenerator, rfl⟩, _, ⟨hsupervisor, rfl⟩, _, rfl, preimage, hpreimage, rfl⟩
    obtain ⟨request, am, sm, gm, wm, gn, sn, pid, epoch, ⟨gkind, gd⟩, ⟨wkind, wd⟩⟩ := input
    obtain ⟨hg, hw⟩ := not_or.mp hchannels
    obtain rfl := not_not.mp hg
    obtain rfl := not_not.mp hw
    let facts : SessionFacts := ⟨request.digest, am, sm, gm, wm, gn, sn, pid, epoch, gd, wd, hprocess,
      hgenerator, hsupervisor⟩
    have hval : preimage = facts.preimage := Subtype.ext hpreimage.symm
    exact ⟨facts, ⟨rfl, rfl, rfl, rfl, rfl, rfl, rfl, rfl, rfl, rfl, rfl⟩, by rw [hval]; rfl⟩
  · rintro ⟨facts, ⟨hrequest, ham, hsm, hgm, hwm, hgn, hsn, hpid, hepoch, hgc, hwc⟩, rfl⟩
    rw [← hpid, ← hepoch, hgc, hwc, ← hgn, ← hsn, ← hrequest, ← ham, ← hsm, ← hgm, ← hwm]
    exact ⟨facts.process, by simp, _, ⟨facts.nonces.1, rfl⟩, _, ⟨facts.nonces.2, rfl⟩, _, rfl, facts.preimage, rfl, rfl⟩

end Constructions

section Generator

variable (H : Bytes → Digest)

/-- What the generator holds itself, with a nonce that is not zero. -/
structure G0GeneratorPeerLocalFactsV1 where
  localRequest : RequestCommitmentV1
  applianceMeasurement : Digest
  supervisorMeasurement : Digest
  generatorMeasurement : Digest
  workerMeasurement : Digest
  localGeneratorNonce : Digest
  nonzero : localGeneratorNonce ≠ ByteArr.zero 32

def G0GeneratorPeerLocalFactsV1.tryNew (localRequest : RequestCommitmentV1) (applianceMeasurement
    supervisorMeasurement generatorMeasurement workerMeasurement localGeneratorNonce : Digest) :
    Except WireErrorV1 G0GeneratorPeerLocalFactsV1 :=
  if h : localGeneratorNonce ≠ ByteArr.zero 32 then
    .ok ⟨localRequest, applianceMeasurement, supervisorMeasurement, generatorMeasurement, workerMeasurement,
      localGeneratorNonce, h⟩
  else .error (.g0ContractDrift .nonce)

def G0GeneratorPeerLocalFactsV1.prepareGeneratorCommitRecordV1 (facts : G0GeneratorPeerLocalFactsV1) :
    Except WireErrorV1 (ByteArr 75) :=
  encodePreSessionRecordV1 H .generatorCommit facts.localRequest facts.localGeneratorNonce

def G0GeneratorPeerLocalFactsV1.prepareGeneratorRevealRecordV1 (facts : G0GeneratorPeerLocalFactsV1) :
    Except WireErrorV1 (ByteArr 75) :=
  encodePreSessionRecordV1 H .generatorReveal facts.localRequest facts.localGeneratorNonce

structure G0GeneratorPeerSessionInputV1 where
  sessionOfferRaw : ByteArr 1101
  generatorCommitRaw : ByteArr 75
  supervisorCommitRaw : ByteArr 75
  generatorRevealRaw : ByteArr 75
  supervisorRevealRaw : ByteArr 75
  localFacts : G0GeneratorPeerLocalFactsV1
  localGeneratorEndpoint : SeqpacketEndpointCommitmentV1

structure G0GeneratorPeerSessionCandidateV1 where
  session : ProviderSessionMaterialV1
  supervisorPid : UInt32
  supervisorStartEpoch : UInt64
  supervisorGeneratorEndpointDigest : Digest
  supervisorReceiverUserNamespace : DescriptorIdentityV1
  deriving DecidableEq

def peerDrift : WireErrorV1 := .g0ContractDrift .generatorPeerSession

/-- The part of an offer that the generator knows itself. -/
def requireOfferedFacts (facts : G0GeneratorPeerLocalFactsV1) (offer : Bytes) : Except WireErrorV1 Unit := do
  ensure (sessionOfferDomainV1.val.length < 2 ^ 16) .arithmeticOverflow
  let domainLength ← g0U16LeV1 offer 0 .generatorPeerSession
  ensure (domainLength = UInt16.ofNat sessionOfferDomainV1.val.length) peerDrift
  ensure (getRange offer 2 33 = some sessionOfferDomainV1.val) peerDrift
  let version ← g0U16LeV1 offer 33 .generatorPeerSession
  ensure (version = frameVersionV1) peerDrift
  let requestLength ← g0U16LeV1 offer 35 .generatorPeerSession
  ensure (requestLength.toNat = g0RequestPreimageBytesV1) peerDrift
  ensure (getRange offer 37 809 = some facts.localRequest.preimage.val) peerDrift
  ensure (getRange offer 809 841 = some facts.localRequest.digest.val) peerDrift
  ensure (getRange offer 841 873 = some facts.applianceMeasurement.val) peerDrift
  ensure (getRange offer 873 905 = some facts.supervisorMeasurement.val) peerDrift
  ensure (getRange offer 905 937 = some facts.generatorMeasurement.val) peerDrift
  ensure (getRange offer 937 969 = some facts.workerMeasurement.val) peerDrift

/-- What an offer says of the supervisor, a living process. -/
structure SupervisorFacts where
  pid : UInt32
  startEpoch : UInt64
  generatorChannel : Digest
  workerChannel : Digest
  endpoint : Digest
  userNamespace : DescriptorIdentityV1
  process : ¬(pid = 0 ∨ startEpoch = 0)

def readSupervisorFacts (offer : Bytes) : Except WireErrorV1 SupervisorFacts := do
  let pid ← g0U32LeV1 offer 969 .generatorPeerSession
  let startEpoch ← g0U64LeV1 offer 973 .generatorPeerSession
  if process : ¬(pid = 0 ∨ startEpoch = 0) then
    let generatorChannel ← g0FixedBytesV1 32 offer 981 .generatorPeerSession
    let workerChannel ← g0FixedBytesV1 32 offer 1013 .generatorPeerSession
    let endpoint ← g0FixedBytesV1 32 offer 1045 .generatorPeerSession
    let userNamespace ← g0DescriptorIdentityV1 offer 1077 .generatorPeerSession
    pure ⟨pid, startEpoch, generatorChannel, workerChannel, endpoint, userNamespace, process⟩
  else .error peerDrift

def readSupervisorNonce (facts : G0GeneratorPeerLocalFactsV1) (reveal : Bytes) : Except WireErrorV1 Digest := do
  ensure (getRange reveal 0 8 = some preSessionRecordMagicV1.val) peerDrift
  let version ← g0U16LeV1 reveal 8 .generatorPeerSession
  ensure (version = frameVersionV1) peerDrift
  ensure (reveal[10]? = some PreSessionRecordKindV1.supervisorReveal.wireCode) peerDrift
  ensure (getRange reveal 11 43 = some facts.localRequest.digest.val) peerDrift
  g0FixedBytesV1 32 reveal 43 .generatorPeerSession

/-- The four records, each as the side that owns its nonce encodes it. -/
def requireRecords (input : G0GeneratorPeerSessionInputV1) (supervisorNonce : Digest) : Except WireErrorV1 Unit := do
  ensure (supervisorNonce ≠ ByteArr.zero 32) peerDrift
  let generatorCommit ← encodePreSessionRecordV1 H .generatorCommit input.localFacts.localRequest
    input.localFacts.localGeneratorNonce
  ensure (input.generatorCommitRaw = generatorCommit) peerDrift
  let generatorReveal ← encodePreSessionRecordV1 H .generatorReveal input.localFacts.localRequest
    input.localFacts.localGeneratorNonce
  ensure (input.generatorRevealRaw = generatorReveal) peerDrift
  let supervisorCommit ← encodePreSessionRecordV1 H .supervisorCommit input.localFacts.localRequest supervisorNonce
  ensure (input.supervisorCommitRaw = supervisorCommit) peerDrift
  let supervisorReveal ← encodePreSessionRecordV1 H .supervisorReveal input.localFacts.localRequest supervisorNonce
  ensure (input.supervisorRevealRaw = supervisorReveal) peerDrift

def G0GeneratorPeerSessionCandidateV1.tryNew (input : G0GeneratorPeerSessionInputV1) :
    Except WireErrorV1 G0GeneratorPeerSessionCandidateV1 := do
  let facts := input.localFacts
  requireOfferedFacts facts input.sessionOfferRaw.val
  let supervisor ← readSupervisorFacts input.sessionOfferRaw.val
  ensure (input.localGeneratorEndpoint.role = .generator) peerDrift
  let generatorChannel := ChannelIdentityV1.fromOrderedEndpointDigests H .generator
    generatorChannelIdentityDomainV1.val input.localGeneratorEndpoint.digest supervisor.endpoint
  ensure (generatorChannel.digest = supervisor.generatorChannel) peerDrift
  let workerChannel : ChannelIdentityV1 := ⟨.worker, supervisor.workerChannel⟩
  let supervisorNonce ← readSupervisorNonce facts input.supervisorRevealRaw.val
  requireRecords H input supervisorNonce
  let session ← ProviderSessionMaterialV1.tryNew H {
    request := facts.localRequest
    applianceMeasurement := facts.applianceMeasurement
    supervisorMeasurement := facts.supervisorMeasurement
    generatorMeasurement := facts.generatorMeasurement
    workerMeasurement := facts.workerMeasurement
    generatorNonce := facts.localGeneratorNonce
    supervisorNonce := supervisorNonce
    supervisorPid := supervisor.pid
    supervisorStartEpoch := supervisor.startEpoch
    generatorChannel := generatorChannel
    workerChannel := workerChannel }
  pure ⟨session, supervisor.pid, supervisor.startEpoch, supervisor.endpoint, supervisor.userNamespace⟩

variable {H}

/-- The head of an offer, of what both sides know. -/
def offerHead (facts : G0GeneratorPeerLocalFactsV1) : Bytes :=
  le16 31 ++ sessionOfferDomainV1.val ++ le16 frameVersionV1 ++ le16 772 ++ facts.localRequest.preimage.val ++
    facts.localRequest.digest.val ++ facts.applianceMeasurement.val ++ facts.supervisorMeasurement.val ++
      facts.generatorMeasurement.val ++ facts.workerMeasurement.val

/-- The tail of an offer, of what the supervisor says of itself. -/
def offerTail (supervisor : SupervisorFacts) : Bytes :=
  le32 supervisor.pid ++ le64 supervisor.startEpoch ++ supervisor.generatorChannel.val ++
    supervisor.workerChannel.val ++ supervisor.endpoint.val ++ supervisor.userNamespace.encode

def offerBytes (facts : G0GeneratorPeerLocalFactsV1) (supervisor : SupervisorFacts) : ByteArr 1101 :=
  ⟨offerHead facts ++ offerTail supervisor, by simp [offerHead, offerTail, DescriptorIdentityV1.encode]⟩

lemma getRange_array {bytes : Bytes} {n i j : ℕ} (value : ByteArr n) (hi : i ≤ bytes.length) (hj : j = i + n) :
    getRange bytes i j = some value.val ↔ value.val <+: bytes.drop i := by
  rw [hj, Frames.getRange_iff hi, and_iff_right value.2]

lemma requireOfferedFacts_ok {facts : G0GeneratorPeerLocalFactsV1} {offer : ByteArr 1101} :
    requireOfferedFacts facts offer.val = .ok () ↔ offerHead facts <+: offer.val := by
  have hlength : ∀ n : UInt16, n.toNat = 772 ↔ n = 772 := fun n => (UInt16.toNat_inj (b := 772))
  simp (disch := simp) only [requireOfferedFacts, bind_ok, ensure_ok, exists_unit, g0U16LeV1_ok, getRange_array,
    g0RequestPreimageBytesV1, hlength, ByteArr.val_length]
  simp only [offerHead, Reading.append_prefix_iff, List.length_append, le16_length, ByteArr.val_length, List.drop_zero,
    and_assoc]
  constructor
  · rintro ⟨-, _, hlength, rfl, hdomain, _, hversion, rfl, _, hrequest, rfl, hrest⟩
    exact ⟨hlength, hdomain, hversion, hrequest, hrest⟩
  · rintro ⟨hlength, hdomain, hversion, hrequest, hrest⟩
    exact ⟨by decide, _, hlength, rfl, hdomain, _, hversion, rfl, _, hrequest, rfl, hrest⟩

lemma readSupervisorFacts_ok {offer : ByteArr 1101} {supervisor : SupervisorFacts} :
    readSupervisorFacts offer.val = .ok supervisor ↔ offerTail supervisor <+: offer.val.drop 969 := by
  simp only [offerTail, Reading.append_prefix_iff, List.length_append, le32_length, le64_length, ByteArr.val_length,
    List.drop_drop, and_assoc]
  simp (disch := simp) only [readSupervisorFacts, bind_ok, g0U32LeV1_ok, g0U64LeV1_ok]
  constructor
  · rintro ⟨pid, hpid, startEpoch, hepoch, h⟩
    split_ifs at h with hprocess
    simp (disch := simp) only [bind_ok, g0FixedBytesV1_ok, g0DescriptorIdentityV1_ok, pure_ok] at h
    obtain ⟨generatorChannel, hgenerator, workerChannel, hworker, endpoint, hendpoint, userNamespace, hnamespace, rfl⟩ := h
    exact ⟨hpid, hepoch, hgenerator, hworker, hendpoint, hnamespace⟩
  · rintro ⟨hpid, hepoch, hgenerator, hworker, hendpoint, hnamespace⟩
    refine ⟨supervisor.pid, hpid, supervisor.startEpoch, hepoch, ?_⟩
    rw [dif_pos supervisor.process]
    simp (disch := simp) only [bind_ok, g0FixedBytesV1_ok, g0DescriptorIdentityV1_ok, pure_ok]
    exact ⟨_, hgenerator, _, hworker, _, hendpoint, _, hnamespace, rfl⟩

lemma array_initial {n : ℕ} {a b : ByteArr n} : a.val <+: b.val ↔ b = a := by
  constructor
  · intro h
    have hlength : (a.val : Bytes).length = (b.val : Bytes).length := a.2.trans b.2.symm
    exact Subtype.ext (h.eq_of_length hlength).symm
  · rintro rfl
    exact List.prefix_refl _

lemma offer_ok {facts : G0GeneratorPeerLocalFactsV1} {offer : ByteArr 1101} {supervisor : SupervisorFacts} :
    requireOfferedFacts facts offer.val = .ok () ∧ readSupervisorFacts offer.val = .ok supervisor ↔
      offer = offerBytes facts supervisor := by
  have hhead : (offerHead facts).length = 969 := by simp [offerHead]
  rw [requireOfferedFacts_ok, readSupervisorFacts_ok, ← hhead, ← Reading.append_prefix_iff]
  exact array_initial (a := offerBytes facts supervisor)

def revealBytes (requestDigest nonce : Digest) : ByteArr 75 :=
  ⟨preSessionRecordMagicV1.val ++ le16 frameVersionV1 ++ [PreSessionRecordKindV1.supervisorReveal.wireCode] ++
    requestDigest.val ++ nonce.val, by simp⟩

lemma readSupervisorNonce_ok {facts : G0GeneratorPeerLocalFactsV1} {reveal : ByteArr 75} {nonce : Digest} :
    readSupervisorNonce facts reveal.val = .ok nonce ↔
      reveal.val = recordBytes H .supervisorReveal facts.localRequest.digest nonce := by
  have hreveal : reveal.val = recordBytes H .supervisorReveal facts.localRequest.digest nonce ↔
      (revealBytes facts.localRequest.digest nonce).val <+: reveal.val := by
    rw [array_initial]
    exact ⟨fun h => Subtype.ext h, fun h => congrArg Subtype.val h⟩
  rw [hreveal, revealBytes]
  simp (disch := simp) only [readSupervisorNonce, bind_ok, ensure_ok, exists_unit, g0U16LeV1_ok, getRange_array,
    g0FixedBytesV1_ok, Frames.getElem?_iff, List.drop_zero]
  simp only [Reading.append_prefix_iff, List.length_append, le16_length, ByteArr.val_length, List.length_singleton,
    and_assoc]
  constructor
  · rintro ⟨hmagic, _, hversion, rfl, hrest⟩
    exact ⟨hmagic, hversion, hrest⟩
  · rintro ⟨hmagic, hversion, hrest⟩
    exact ⟨hmagic, _, hversion, rfl, hrest⟩

lemma requireRecords_ok {input : G0GeneratorPeerSessionInputV1} {nonce : Digest} :
    requireRecords H input nonce = .ok () ↔ nonce ≠ ByteArr.zero 32 ∧
      input.generatorCommitRaw.val = recordBytes H .generatorCommit input.localFacts.localRequest.digest
        input.localFacts.localGeneratorNonce ∧
      input.generatorRevealRaw.val = recordBytes H .generatorReveal input.localFacts.localRequest.digest
        input.localFacts.localGeneratorNonce ∧
      input.supervisorCommitRaw.val = recordBytes H .supervisorCommit input.localFacts.localRequest.digest nonce ∧
      input.supervisorRevealRaw.val = recordBytes H .supervisorReveal input.localFacts.localRequest.digest nonce := by
  simp only [requireRecords, bind_ok, ensure_ok, exists_unit, encodePreSessionRecordV1_ok]
  constructor
  · rintro ⟨hnonce, _, ⟨-, hgc⟩, rfl, _, ⟨-, hgr⟩, rfl, _, ⟨-, hsc⟩, rfl, _, ⟨-, hsr⟩, rfl⟩
    exact ⟨hnonce, hgc, hgr, hsc, hsr⟩
  · rintro ⟨hnonce, hgc, hgr, hsc, hsr⟩
    have hlocal := input.localFacts.nonzero
    exact ⟨hnonce, _, ⟨hlocal, hgc⟩, rfl, _, ⟨hlocal, hgr⟩, rfl, _, ⟨hnonce, hsc⟩, rfl, _, ⟨hnonce, hsr⟩, rfl⟩

/-- The session of a generator's facts, a supervisor and the supervisor's nonce. -/
def sessionFacts (facts : G0GeneratorPeerLocalFactsV1) (supervisor : SupervisorFacts) (nonce : Digest)
    (hnonce : nonce ≠ ByteArr.zero 32) : SessionFacts where
  requestDigest := facts.localRequest.digest
  applianceMeasurement := facts.applianceMeasurement
  supervisorMeasurement := facts.supervisorMeasurement
  generatorMeasurement := facts.generatorMeasurement
  workerMeasurement := facts.workerMeasurement
  generatorNonce := facts.localGeneratorNonce
  supervisorNonce := nonce
  supervisorPid := supervisor.pid
  supervisorStartEpoch := supervisor.startEpoch
  generatorChannel := supervisor.generatorChannel
  workerChannel := supervisor.workerChannel
  process := supervisor.process
  nonces := ⟨facts.nonzero, hnonce⟩

/-- The five buffers are what the supervisor and the generator send in one exchange. -/
structure G0GeneratorPeerSessionInputV1.Encodes (H : Bytes → Digest) (input : G0GeneratorPeerSessionInputV1)
    (supervisor : SupervisorFacts) (nonce : Digest) : Prop where
  offer : input.sessionOfferRaw = offerBytes input.localFacts supervisor
  generatorCommit : input.generatorCommitRaw.val =
    recordBytes H .generatorCommit input.localFacts.localRequest.digest input.localFacts.localGeneratorNonce
  generatorReveal : input.generatorRevealRaw.val =
    recordBytes H .generatorReveal input.localFacts.localRequest.digest input.localFacts.localGeneratorNonce
  supervisorCommit : input.supervisorCommitRaw.val =
    recordBytes H .supervisorCommit input.localFacts.localRequest.digest nonce
  supervisorReveal : input.supervisorRevealRaw.val =
    recordBytes H .supervisorReveal input.localFacts.localRequest.digest nonce

/-- The channel that the generator derives from its own endpoint and the one that it is told. -/
def generatorChannelDigest (H : Bytes → Digest) (own told : Digest) : Digest :=
  H (generatorChannelIdentityDomainV1.val ++ own.val ++ told.val)

lemma candidate_ok {input : G0GeneratorPeerSessionInputV1} {candidate : G0GeneratorPeerSessionCandidateV1} :
    G0GeneratorPeerSessionCandidateV1.tryNew H input = .ok candidate ↔
      ∃ (supervisor : SupervisorFacts) (nonce : Digest) (hnonce : nonce ≠ ByteArr.zero 32),
        input.localGeneratorEndpoint.role = .generator ∧
          generatorChannelDigest H input.localGeneratorEndpoint.digest supervisor.endpoint =
            supervisor.generatorChannel ∧
          input.Encodes H supervisor nonce ∧
            candidate = ⟨(sessionFacts input.localFacts supervisor nonce hnonce).material H, supervisor.pid,
              supervisor.startEpoch, supervisor.endpoint, supervisor.userNamespace⟩ := by
  simp only [G0GeneratorPeerSessionCandidateV1.tryNew, bind_ok, ensure_ok, exists_unit, pure_ok]
  constructor
  · rintro ⟨hfacts, supervisor, hsupervisor, hrole, hchannel, nonce, hreveal, hrecords, session, hsession, rfl⟩
    obtain ⟨hnonce, hgc, hgr, hsc, hsr⟩ := requireRecords_ok.mp hrecords
    refine ⟨supervisor, nonce, hnonce, hrole, hchannel, ⟨offer_ok.mp ⟨hfacts, hsupervisor⟩, hgc, hgr, hsc, hsr⟩, ?_⟩
    obtain ⟨facts, ⟨hrequest, ham, hsm, hgm, hwm, hgn, hsn, hpid, hepoch, hgch, hwch⟩, rfl⟩ := session_ok.mp hsession
    have heq : facts = sessionFacts input.localFacts supervisor nonce hnonce := by
      cases facts
      simp_all [sessionFacts, ChannelIdentityV1.fromOrderedEndpointDigests]
    rw [heq]
  · rintro ⟨supervisor, nonce, hnonce, hrole, hchannel, ⟨hoffer, hgc, hgr, hsc, hsr⟩, rfl⟩
    obtain ⟨hfacts, hsupervisor⟩ := offer_ok.mpr hoffer
    refine ⟨hfacts, supervisor, hsupervisor, hrole, hchannel, nonce, readSupervisorNonce_ok.mpr hsr,
      requireRecords_ok.mpr ⟨hnonce, hgc, hgr, hsc, hsr⟩, _, session_ok.mpr ⟨sessionFacts input.localFacts supervisor nonce hnonce,
        ⟨rfl, rfl, rfl, rfl, rfl, rfl, rfl, rfl, rfl, ?_, rfl⟩, rfl⟩, rfl⟩
    rw [ChannelIdentityV1.fromOrderedEndpointDigests]
    exact congrArg _ hchannel

end Generator

section Attempts

open Delimited

variable (H : Bytes → Digest)

/-- All that a session of an attempt is derived from. -/
structure AttemptDescription where
  allocationEpoch : Digest
  positiveInputSetAi : Digest
  positiveGenerationSetAi : Digest
  ingress : List FdCommitmentV1
  publicationRoot : FdCommitmentV1
  destinationInputAi : Digest
  destinationCompletionAi : Digest
  roleBlocks : List.Vector RequestRoleBlockV1 4
  applianceMeasurement : Digest
  supervisorMeasurement : Digest
  generatorMeasurement : Digest
  workerMeasurement : Digest
  generatorNonce : Digest
  supervisorNonce : Digest
  supervisorPid : UInt32
  supervisorStartEpoch : UInt64
  descriptor : SeqpacketEndpointRoleV1 → DescriptorIdentityV1
  socketCookie : SeqpacketEndpointRoleV1 → UInt64

namespace AttemptDescription

variable (d : AttemptDescription)

def request : Except WireErrorV1 RequestCommitmentV1 := do
  let ingress ← SealedIngressManifestV1.tryNew H d.ingress
  let publicationTarget ← PublicationTargetCommitmentV1.tryNew H d.publicationRoot d.destinationInputAi
    d.destinationCompletionAi
  RequestCommitmentV1.tryNew H d.allocationEpoch d.positiveInputSetAi d.positiveGenerationSetAi ingress
    publicationTarget d.roleBlocks

def endpoint (role : SeqpacketEndpointRoleV1) : SeqpacketEndpointCommitmentV1 :=
  SeqpacketEndpointCommitmentV1.fromObservation H role (d.descriptor role) (d.socketCookie role)

def channels : Except WireErrorV1 (ChannelIdentityV1 × ChannelIdentityV1) := do
  let generator ← ChannelIdentityV1.tryGenerator H (d.endpoint H .generator) (d.endpoint H .supervisorGenerator)
  let worker ← ChannelIdentityV1.tryWorker H (d.endpoint H .supervisorWorker) (d.endpoint H .worker)
  pure (generator, worker)

def sessionInput (request : RequestCommitmentV1) (channels : ChannelIdentityV1 × ChannelIdentityV1) :
    ProviderSessionInputV1 where
  request := request
  applianceMeasurement := d.applianceMeasurement
  supervisorMeasurement := d.supervisorMeasurement
  generatorMeasurement := d.generatorMeasurement
  workerMeasurement := d.workerMeasurement
  generatorNonce := d.generatorNonce
  supervisorNonce := d.supervisorNonce
  supervisorPid := d.supervisorPid
  supervisorStartEpoch := d.supervisorStartEpoch
  generatorChannel := channels.1
  workerChannel := channels.2

/-- The session, as the supervisor derives it. -/
def session : Except WireErrorV1 ProviderSessionMaterialV1 := do
  let request ← d.request H
  let channels ← d.channels H
  ProviderSessionMaterialV1.tryNew H (d.sessionInput request channels)

def offerInput (userNamespace : DescriptorIdentityV1) (request : RequestCommitmentV1)
    (channels : ChannelIdentityV1 × ChannelIdentityV1) : SessionOfferInputV1 where
  request := request
  applianceMeasurement := d.applianceMeasurement
  supervisorMeasurement := d.supervisorMeasurement
  generatorMeasurement := d.generatorMeasurement
  workerMeasurement := d.workerMeasurement
  supervisorPid := d.supervisorPid
  supervisorStartEpoch := d.supervisorStartEpoch
  generatorChannel := channels.1
  workerChannel := channels.2
  supervisorGeneratorEndpoint := d.endpoint H .supervisorGenerator
  supervisorReceiverUserNamespace := userNamespace

/-- The five records of the exchange, each encoded by the side that sends it, as they reach a
generator that holds the same request and measurements. -/
def exchange (userNamespace : DescriptorIdentityV1) : Except WireErrorV1 G0GeneratorPeerSessionInputV1 := do
  let request ← d.request H
  let channels ← d.channels H
  let offer ← SessionOfferV1.tryNew (d.offerInput H userNamespace request channels)
  let facts ← G0GeneratorPeerLocalFactsV1.tryNew request d.applianceMeasurement d.supervisorMeasurement
    d.generatorMeasurement d.workerMeasurement d.generatorNonce
  let generatorCommit ← facts.prepareGeneratorCommitRecordV1 H
  let supervisorCommit ← encodePreSessionRecordV1 H .supervisorCommit request d.supervisorNonce
  let generatorReveal ← facts.prepareGeneratorRevealRecordV1 H
  let supervisorReveal ← encodePreSessionRecordV1 H .supervisorReveal request d.supervisorNonce
  pure ⟨offer.bytes, generatorCommit, supervisorCommit, generatorReveal, supervisorReveal, facts,
    d.endpoint H .generator⟩

/-- What the generator ends up with, when it rebuilds the session of the supervisor. -/
def agreed (userNamespace : DescriptorIdentityV1) : Except WireErrorV1 G0GeneratorPeerSessionCandidateV1 := do
  let session ← d.session H
  pure ⟨session, d.supervisorPid, d.supervisorStartEpoch, (d.endpoint H .supervisorGenerator).digest, userNamespace⟩

end AttemptDescription

variable {H}

/-- The worker's channel, of the supervisor's endpoint and the worker's. -/
def workerChannelDigest (H : Bytes → Digest) (supervisor worker : Digest) : Digest :=
  H (workerChannelIdentityDomainV1.val ++ supervisor.val ++ worker.val)

def AttemptDescription.generatorChannel (H : Bytes → Digest) (d : AttemptDescription) : Digest :=
  generatorChannelDigest H (d.endpoint H .generator).digest (d.endpoint H .supervisorGenerator).digest

def AttemptDescription.workerChannel (H : Bytes → Digest) (d : AttemptDescription) : Digest :=
  workerChannelDigest H (d.endpoint H .supervisorWorker).digest (d.endpoint H .worker).digest

lemma channels_ok (d : AttemptDescription) :
    d.channels H = .ok (⟨.generator, d.generatorChannel H⟩, ⟨.worker, d.workerChannel H⟩) := by
  rw [AttemptDescription.channels, ChannelIdentityV1.tryGenerator, ChannelIdentityV1.tryWorker,
    ensure_pass (by simp [AttemptDescription.endpoint, SeqpacketEndpointCommitmentV1.fromObservation]),
    ensure_pass (by simp [AttemptDescription.endpoint, SeqpacketEndpointCommitmentV1.fromObservation])]
  rfl

lemma localFacts_ok {request : RequestCommitmentV1} {am sm gm wm nonce : Digest} {facts : G0GeneratorPeerLocalFactsV1} :
    G0GeneratorPeerLocalFactsV1.tryNew request am sm gm wm nonce = .ok facts ↔ facts.localRequest = request ∧
      facts.applianceMeasurement = am ∧ facts.supervisorMeasurement = sm ∧ facts.generatorMeasurement = gm ∧
        facts.workerMeasurement = wm ∧ facts.localGeneratorNonce = nonce := by
  rw [G0GeneratorPeerLocalFactsV1.tryNew]
  constructor
  · split_ifs with h
    · intro hok
      cases hok
      exact ⟨rfl, rfl, rfl, rfl, rfl, rfl⟩
    · exact fun hok => (by cases hok)
  · rintro ⟨rfl, rfl, rfl, rfl, rfl, rfl⟩
    rw [dif_pos facts.nonzero]

def recordArray (H : Bytes → Digest) (kind : PreSessionRecordKindV1) (requestDigest nonce : Digest) : ByteArr 75 :=
  ⟨recordBytes H kind requestDigest nonce, by simp [recordBytes]⟩

lemma encodePreSessionRecordV1_of {kind : PreSessionRecordKindV1} {request : RequestCommitmentV1} {nonce : Digest}
    (h : nonce ≠ ByteArr.zero 32) :
    encodePreSessionRecordV1 H kind request nonce = .ok (recordArray H kind request.digest nonce) :=
  encodePreSessionRecordV1_ok.mpr ⟨h, rfl⟩

lemma encodePreSessionRecordV1_zero (kind : PreSessionRecordKindV1) (request : RequestCommitmentV1) :
    encodePreSessionRecordV1 H kind request (ByteArr.zero 32) = .error (.g0ContractDrift .nonce) := by
  simp [encodePreSessionRecordV1, nonceCommitmentV1, nonceCommitmentFromDigestV1, ensure]

def SessionOfferInputV1.bytes (input : SessionOfferInputV1) : ByteArr 1101 :=
  ⟨le16 31 ++ sessionOfferDomainV1.val ++ le16 frameVersionV1 ++ le16 772 ++ input.request.preimage.val ++
    input.request.digest.val ++ input.applianceMeasurement.val ++ input.supervisorMeasurement.val ++
      input.generatorMeasurement.val ++ input.workerMeasurement.val ++ le32 input.supervisorPid ++
        le64 input.supervisorStartEpoch ++ input.generatorChannel.digest.val ++ input.workerChannel.digest.val ++
          input.supervisorGeneratorEndpoint.digest.val ++ input.supervisorReceiverUserNamespace.encode,
    by simp [DescriptorIdentityV1.encode]⟩

lemma sessionOffer_ok {input : SessionOfferInputV1} {offer : SessionOfferV1} :
    SessionOfferV1.tryNew input = .ok offer ↔ ¬(input.supervisorPid = 0 ∨ input.supervisorStartEpoch = 0) ∧
      ¬(input.generatorChannel.kind ≠ .generator ∨ input.workerChannel.kind ≠ .worker ∨
        input.supervisorGeneratorEndpoint.role ≠ .supervisorGenerator) ∧ offer = ⟨input.bytes⟩ := by
  simp only [SessionOfferV1.tryNew, bind_ok, ensure_ok, exists_unit, tryInto_ok, pure_ok,
    pushLp16V1_array (show 31 < 2 ^ 16 by decide), Except.ok.injEq]
  constructor
  · rintro ⟨hprocess, hkinds, _, rfl, -, bytes, hbytes, rfl⟩
    exact ⟨hprocess, hkinds, congrArg SessionOfferV1.mk (Subtype.ext hbytes.symm)⟩
  · rintro ⟨hprocess, hkinds, rfl⟩
    exact ⟨hprocess, hkinds, _, rfl, by decide, input.bytes, rfl, rfl⟩

/-- The records of an exchange between a generator with its facts and a supervisor with a nonce. -/
def exchanged (H : Bytes → Digest) (facts : G0GeneratorPeerLocalFactsV1) (supervisor : SupervisorFacts)
    (nonce : Digest) (endpoint : SeqpacketEndpointCommitmentV1) : G0GeneratorPeerSessionInputV1 where
  sessionOfferRaw := offerBytes facts supervisor
  generatorCommitRaw := recordArray H .generatorCommit facts.localRequest.digest facts.localGeneratorNonce
  supervisorCommitRaw := recordArray H .supervisorCommit facts.localRequest.digest nonce
  generatorRevealRaw := recordArray H .generatorReveal facts.localRequest.digest facts.localGeneratorNonce
  supervisorRevealRaw := recordArray H .supervisorReveal facts.localRequest.digest nonce
  localFacts := facts
  localGeneratorEndpoint := endpoint

lemma exchanged_ok {facts : G0GeneratorPeerLocalFactsV1} {supervisor : SupervisorFacts} {nonce : Digest}
    {endpoint : SeqpacketEndpointCommitmentV1} (hnonce : nonce ≠ ByteArr.zero 32) (hrole : endpoint.role = .generator)
    (hchannel : generatorChannelDigest H endpoint.digest supervisor.endpoint = supervisor.generatorChannel) :
    G0GeneratorPeerSessionCandidateV1.tryNew H (exchanged H facts supervisor nonce endpoint) =
      .ok ⟨(sessionFacts facts supervisor nonce hnonce).material H, supervisor.pid, supervisor.startEpoch,
        supervisor.endpoint, supervisor.userNamespace⟩ :=
  candidate_ok.mpr ⟨supervisor, nonce, hnonce, hrole, hchannel, ⟨rfl, rfl, rfl, rfl, rfl⟩, rfl⟩

/-- The generator accepts exactly the records of an exchange with some living supervisor of a nonzero
nonce, whose channel joins the generator's own endpoint; and what it accepts is the session of that
exchange. -/
theorem sessions_accepted_exactly (input : G0GeneratorPeerSessionInputV1)
    (candidate : G0GeneratorPeerSessionCandidateV1) :
    G0GeneratorPeerSessionCandidateV1.tryNew H input = .ok candidate ↔
      ∃ (supervisor : SupervisorFacts) (nonce : Digest) (hnonce : nonce ≠ ByteArr.zero 32),
        input = exchanged H input.localFacts supervisor nonce input.localGeneratorEndpoint ∧
          input.localGeneratorEndpoint.role = .generator ∧
          generatorChannelDigest H input.localGeneratorEndpoint.digest supervisor.endpoint =
            supervisor.generatorChannel ∧
          candidate = ⟨(sessionFacts input.localFacts supervisor nonce hnonce).material H, supervisor.pid,
            supervisor.startEpoch, supervisor.endpoint, supervisor.userNamespace⟩ := by
  rw [candidate_ok]
  refine exists_congr fun supervisor => exists_congr fun nonce => exists_congr fun hnonce => ?_
  have hinput : input.Encodes H supervisor nonce ↔
      input = exchanged H input.localFacts supervisor nonce input.localGeneratorEndpoint := by
    constructor
    · intro h
      obtain ⟨offer, generatorCommit, supervisorCommit, generatorReveal, supervisorReveal, facts, endpoint⟩ := input
      obtain ⟨hoffer, hgc, hgr, hsc, hsr⟩ := h
      rw [exchanged, G0GeneratorPeerSessionInputV1.mk.injEq]
      exact ⟨hoffer, Subtype.ext hgc, Subtype.ext hsc, Subtype.ext hgr, Subtype.ext hsr, rfl, rfl⟩
    · intro h
      rw [h]
      exact ⟨rfl, rfl, rfl, rfl, rfl⟩
  rw [hinput]
  tauto

section Accepted

variable {d : AttemptDescription} {userNamespace : DescriptorIdentityV1} {request : RequestCommitmentV1}

def AttemptDescription.facts (d : AttemptDescription) (request : RequestCommitmentV1)
    (h : d.generatorNonce ≠ ByteArr.zero 32) : G0GeneratorPeerLocalFactsV1 :=
  ⟨request, d.applianceMeasurement, d.supervisorMeasurement, d.generatorMeasurement, d.workerMeasurement,
    d.generatorNonce, h⟩

def AttemptDescription.supervisor (H : Bytes → Digest) (d : AttemptDescription) (userNamespace : DescriptorIdentityV1)
    (h : ¬(d.supervisorPid = 0 ∨ d.supervisorStartEpoch = 0)) : SupervisorFacts :=
  ⟨d.supervisorPid, d.supervisorStartEpoch, d.generatorChannel H, d.workerChannel H,
    (d.endpoint H .supervisorGenerator).digest, userNamespace, h⟩

lemma offerInput_bytes (hnonce : d.generatorNonce ≠ ByteArr.zero 32)
    (hprocess : ¬(d.supervisorPid = 0 ∨ d.supervisorStartEpoch = 0)) :
    (d.offerInput H userNamespace request (⟨.generator, d.generatorChannel H⟩, ⟨.worker, d.workerChannel H⟩)).bytes =
      offerBytes (d.facts request hnonce) (d.supervisor H userNamespace hprocess) :=
  Subtype.ext (by simp [SessionOfferInputV1.bytes, AttemptDescription.offerInput, offerBytes, offerHead, offerTail,
    AttemptDescription.facts, AttemptDescription.supervisor])

lemma sessionInput_ok (userNamespace : DescriptorIdentityV1) (hgenerator : d.generatorNonce ≠ ByteArr.zero 32)
    (hsupervisor : d.supervisorNonce ≠ ByteArr.zero 32) (hprocess : ¬(d.supervisorPid = 0 ∨ d.supervisorStartEpoch = 0)) :
    ProviderSessionMaterialV1.tryNew H
        (d.sessionInput request (⟨.generator, d.generatorChannel H⟩, ⟨.worker, d.workerChannel H⟩)) =
      .ok ((sessionFacts (d.facts request hgenerator) (d.supervisor H userNamespace hprocess) d.supervisorNonce
        hsupervisor).material H) :=
  session_ok.mpr ⟨_, ⟨rfl, rfl, rfl, rfl, rfl, rfl, rfl, rfl, rfl, rfl, rfl⟩, rfl⟩

end Accepted

/-- Every exchange of a description lets the generator rebuild the session that the supervisor
derives, with what the offer says of the supervisor; and it stops where the derivation stops. -/
theorem handshake_agrees (d : AttemptDescription) (userNamespace : DescriptorIdentityV1) :
    (d.exchange H userNamespace >>= G0GeneratorPeerSessionCandidateV1.tryNew H) = d.agreed H userNamespace := by
  simp only [AttemptDescription.exchange, AttemptDescription.agreed, AttemptDescription.session, channels_ok, ok_bind]
  cases hrequest : d.request H with
  | error e => rfl
  | ok request =>
    simp only [ok_bind]
    by_cases hprocess : d.supervisorPid = 0 ∨ d.supervisorStartEpoch = 0
    · simp only [SessionOfferV1.tryNew, ProviderSessionMaterialV1.tryNew, AttemptDescription.offerInput,
        AttemptDescription.sessionInput, ensure, hprocess, not_true_eq_false, if_false, error_bind]
    rw [sessionOffer_ok.mpr ⟨hprocess, by simp [AttemptDescription.offerInput, AttemptDescription.endpoint,
      SeqpacketEndpointCommitmentV1.fromObservation], rfl⟩, ok_bind]
    by_cases hgenerator : d.generatorNonce = ByteArr.zero 32
    · simp [G0GeneratorPeerLocalFactsV1.tryNew, ProviderSessionMaterialV1.tryNew, AttemptDescription.sessionInput,
        ensure, hprocess, hgenerator, nonceCommitmentV1, nonceCommitmentFromDigestV1]
    have hfacts : G0GeneratorPeerLocalFactsV1.tryNew request d.applianceMeasurement d.supervisorMeasurement
        d.generatorMeasurement d.workerMeasurement d.generatorNonce = .ok (d.facts request hgenerator) :=
      localFacts_ok.mpr ⟨rfl, rfl, rfl, rfl, rfl, rfl⟩
    rw [hfacts, ok_bind, G0GeneratorPeerLocalFactsV1.prepareGeneratorCommitRecordV1,
      encodePreSessionRecordV1_of (d.facts request hgenerator).nonzero, ok_bind]
    by_cases hsupervisor : d.supervisorNonce = ByteArr.zero 32
    · rw [hsupervisor, encodePreSessionRecordV1_zero]
      simp [ProviderSessionMaterialV1.tryNew, AttemptDescription.sessionInput, ensure, hprocess, hgenerator,
        hsupervisor, nonceCommitmentV1, nonceCommitmentFromDigestV1]
    rw [encodePreSessionRecordV1_of hsupervisor, ok_bind, G0GeneratorPeerLocalFactsV1.prepareGeneratorRevealRecordV1,
      encodePreSessionRecordV1_of (d.facts request hgenerator).nonzero, ok_bind,
      encodePreSessionRecordV1_of hsupervisor, ok_bind, offerInput_bytes hgenerator hprocess,
      sessionInput_ok userNamespace hgenerator hsupervisor hprocess, ok_bind, pure_bind]
    exact exchanged_ok hsupervisor rfl rfl

end Attempts

end Eip0045.Wire
