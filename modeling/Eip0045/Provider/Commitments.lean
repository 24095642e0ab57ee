import Eip0045.Provider.Handshake

/-! What the identifier of a session commits to, down to every observation and every input. -/

namespace Eip0045.Wire

open Bytes Checked Delimited

section Records

def records (slot : ℕ → UInt8) (start : ℕ) (commitments : List FdCommitmentV1) : Bytes :=
  (commitments.zipIdx start).flatMap fun entry => commitmentRecord (slot entry.2) entry.1

lemma records_inj {slot : ℕ → UInt8} {start : ℕ} {commitments commitments' : List FdCommitmentV1} {s t : Bytes}
    (hlength : commitments.length = commitments'.length)
    (h : records slot start commitments ++ s = records slot start commitments' ++ t) :
    commitments = commitments' ∧ s = t := by
  induction commitments generalizing start commitments' with
  | nil =>
    obtain rfl := List.length_eq_zero_iff.mp hlength.symm
    exact ⟨rfl, h⟩
  | cons commitment commitments ih =>
    cases commitments' with
    | nil => cases hlength
    | cons commitment' commitments' =>
      simp only [records, List.zipIdx_cons, List.flatMap_cons, commitmentRecord, List.append_assoc,
        List.append_cancel_left_eq] at h
      obtain ⟨rfl, hrest⟩ := sizedCommitment_delimiting h
      obtain ⟨rfl, hst⟩ := ih (Nat.succ.inj hlength) hrest
      exact ⟨rfl, hst⟩

lemma encodeFdCommitmentV1_ok {commitment : FdCommitmentV1} {bytes : Bytes} :
    encodeFdCommitmentV1 commitment = .ok bytes ↔ commitment.validate = .ok () ∧ commitment.encode = bytes := by
  simp only [encodeFdCommitmentV1, bind_ok, exists_unit, pure_ok]

lemma encodedFdCommitmentLenV1_ok {commitment : FdCommitmentV1} {length : UInt16} :
    encodedFdCommitmentLenV1 commitment = .ok length ↔
      commitment.validate = .ok () ∧ UInt16.ofNat commitment.encode.length = length := by
  simp only [encodedFdCommitmentLenV1, bind_ok, encodeFdCommitmentV1_ok, ensure_ok, exists_unit, pure_ok]
  constructor
  · rintro ⟨_, ⟨hvalid, rfl⟩, -, rfl⟩
    exact ⟨hvalid, rfl⟩
  · rintro ⟨hvalid, rfl⟩
    exact ⟨_, ⟨hvalid, rfl⟩, commitment_length commitment, rfl⟩

end Records

section Requests

variable {H : Bytes → Digest}

/-- The commitments of a campaign's inputs, in order. -/
def IngressAllowed (commitments : List FdCommitmentV1) : Prop :=
  commitments.length ≤ g0MaxIngressCountV1 ∧ ∀ entry ∈ commitments.zipIdx,
    entry.1.role = .campaignInput (UInt8.ofNat entry.2) ∧ entry.1.validate = .ok () ∧
      UInt16.ofNat entry.1.encode.length = 50

def ingressBytes (commitments : List FdCommitmentV1) : Bytes :=
  sealedIngressManifestDomainV1.val ++ le16 frameVersionV1 ++ [UInt8.ofNat commitments.length] ++
    records UInt8.ofNat 0 commitments

lemma zipIdx_lt {α : Type} {xs : List α} {entry : α × ℕ} (h : entry ∈ xs.zipIdx) : entry.2 < xs.length := by
  simpa using List.snd_lt_of_mem_zipIdx h

lemma ingressRecord_ok {entry : FdCommitmentV1 × ℕ} {bytes : Bytes} :
    ingressRecord entry.2 entry.1 = .ok bytes ↔
      (entry.2 < 2 ^ 8 ∧ entry.1.role = .campaignInput (UInt8.ofNat entry.2) ∧ entry.1.validate = .ok () ∧
        UInt16.ofNat entry.1.encode.length = 50) ∧ bytes = commitmentRecord (UInt8.ofNat entry.2) entry.1 := by
  simp only [ingressRecord, bind_ok, ensure_ok, exists_unit, encodeFdCommitmentV1_ok, encodedFdCommitmentLenV1_ok, pure_ok,
    commitmentRecord, sizedCommitment]
  constructor
  · rintro ⟨hlt, hrole, _, ⟨hvalid, rfl⟩, _, ⟨-, rfl⟩, hlength, rfl⟩
    exact ⟨⟨hlt, hrole, hvalid, hlength⟩, by rw [hlength, List.append_assoc]⟩
  · rintro ⟨⟨hlt, hrole, hvalid, hlength⟩, rfl⟩
    exact ⟨hlt, hrole, _, ⟨hvalid, rfl⟩, _, ⟨hvalid, rfl⟩, hlength, by rw [List.append_assoc]⟩

lemma ingress_ok {commitments : List FdCommitmentV1} {manifest : SealedIngressManifestV1} :
    SealedIngressManifestV1.tryNew H commitments = .ok manifest ↔ IngressAllowed commitments ∧
      manifest = ⟨ingressBytes commitments, UInt8.ofNat commitments.length, H (ingressBytes commitments)⟩ := by
  simp only [SealedIngressManifestV1.tryNew, bind_ok, ensure_ok, exists_unit, pure_ok,
    mapM_ok fun entry bytes => ingressRecord_ok]
  constructor
  · rintro ⟨hcount, -, _, ⟨hentries, rfl⟩, rfl⟩
    exact ⟨⟨hcount, fun entry hentry => (hentries entry hentry).2⟩, rfl⟩
  · rintro ⟨⟨hcount, hentries⟩, rfl⟩
    have hbyte : commitments.length < 2 ^ 8 := hcount.trans_lt (by decide)
    exact ⟨hcount, hbyte, _, ⟨fun entry hentry => ⟨(zipIdx_lt hentry).trans hbyte, hentries entry hentry⟩, rfl⟩, rfl⟩

lemma ingressBytes_inj {commitments commitments' : List FdCommitmentV1} (hcount : commitments.length ≤ g0MaxIngressCountV1)
    (hcount' : commitments'.length ≤ g0MaxIngressCountV1) (h : ingressBytes commitments = ingressBytes commitments') :
    commitments = commitments' := by
  simp only [ingressBytes, List.append_assoc, List.append_cancel_left_eq] at h
  obtain ⟨hlength, hrecords⟩ := Delimited.byte Function.injective_id h
  have hnat : (UInt8.ofNat commitments.length).toNat = (UInt8.ofNat commitments'.length).toNat :=
    congrArg UInt8.toNat hlength
  rw [UInt8.toNat_ofNat', UInt8.toNat_ofNat'] at hnat
  rw [g0MaxIngressCountV1] at hcount hcount'
  exact (records_inj (s := []) (t := []) (by omega) (by simpa using hrecords)).1

def TargetAllowed (publicationRoot : FdCommitmentV1) : Prop :=
  publicationRoot.role = .publicationRoot ∧ publicationRoot.validate = .ok () ∧
    publicationRoot.encode.length = 30

def targetBytes (publicationRoot : FdCommitmentV1) (destinationInputAi destinationCompletionAi : Digest) : Bytes :=
  publicationTargetDomainV1.val ++ le16 30 ++ publicationRoot.encode ++ destinationInputAi.val ++ destinationCompletionAi.val

lemma target_ok {publicationRoot : FdCommitmentV1} {destinationInputAi destinationCompletionAi : Digest}
    {target : PublicationTargetCommitmentV1} :
    PublicationTargetCommitmentV1.tryNew H publicationRoot destinationInputAi destinationCompletionAi = .ok target ↔
      TargetAllowed publicationRoot ∧
        target.preimage.val = targetBytes publicationRoot destinationInputAi destinationCompletionAi ∧
          target.digest = H (targetBytes publicationRoot destinationInputAi destinationCompletionAi) := by
  have hlength : UInt16.ofNat publicationRoot.encode.length = 30 ↔ publicationRoot.encode.length = 30 := by
    have hlt := commitment_length publicationRoot
    rw [← UInt16.toNat_inj, UInt16.toNat_ofNat', Nat.mod_eq_of_lt hlt]
    rfl
  simp only [PublicationTargetCommitmentV1.tryNew, bind_ok, ensure_ok, exists_unit, encodeFdCommitmentV1_ok,
    encodedFdCommitmentLenV1_ok, tryInto_ok, pure_ok, TargetAllowed, targetBytes]
  constructor
  · rintro ⟨hrole, _, ⟨hvalid, rfl⟩, _, ⟨-, rfl⟩, hshort, preimage, hpreimage, rfl⟩
    rw [hshort] at hpreimage
    exact ⟨⟨hrole, hvalid, hlength.mp hshort⟩, hpreimage.symm, congrArg H hpreimage.symm⟩
  · rintro ⟨⟨hrole, hvalid, hshort⟩, hpreimage, hdigest⟩
    refine ⟨hrole, _, ⟨hvalid, rfl⟩, _, ⟨hvalid, rfl⟩, hlength.mpr hshort, target.preimage, ?_, ?_⟩
    · rw [hlength.mpr hshort, hpreimage]
    · rw [hpreimage, ← hdigest]

lemma targetBytes_length {publicationRoot : FdCommitmentV1} {destinationInputAi destinationCompletionAi : Digest}
    (h : TargetAllowed publicationRoot) :
    (targetBytes publicationRoot destinationInputAi destinationCompletionAi).length = 132 := by
  simp [targetBytes, h.2.2]

lemma targetBytes_inj {root root' : FdCommitmentV1} {input input' completion completion' : Digest}
    (h : targetBytes root input completion = targetBytes root' input' completion') :
    root = root' ∧ input = input' ∧ completion = completion' := by
  simp only [targetBytes, List.append_assoc, List.append_cancel_left_eq] at h
  obtain ⟨rfl, hinput⟩ := commitment_delimiting h
  obtain ⟨rfl, hcompletion⟩ := Delimited.array 32 hinput
  exact ⟨rfl, rfl, Subtype.ext hcompletion⟩


def requestHeader : Bytes :=
  requestCommitmentDomainV1.val ++ le16 frameVersionV1 ++ le16 37 ++ providerIdV1.val ++ le16 55 ++ policyIdV1.val ++
    le16 43 ++ sessionProtocolIdV1.val ++ le16 33 ++ applianceIdV1.val

def requestBytes (d : AttemptDescription) (ingressCount : UInt8) (ingressLength : ℕ) (ingressDigest targetDigest : Digest) :
    Bytes :=
  requestHeader ++ d.allocationEpoch.val ++ d.positiveInputSetAi.val ++ d.positiveGenerationSetAi.val ++
    [ingressCount] ++ le64 (UInt64.ofNat ingressLength) ++ ingressDigest.val ++ targetDigest.val ++ [4] ++
      d.roleBlocks.toList.flatMap RequestRoleBlockV1.encode

/-- The bytes of the request of a description. -/
def AttemptDescription.requestBytes (H : Bytes → Digest) (d : AttemptDescription) : Bytes :=
  Wire.requestBytes d (UInt8.ofNat d.ingress.length) (ingressBytes d.ingress).length (H (ingressBytes d.ingress))
    (H (targetBytes d.publicationRoot d.destinationInputAi d.destinationCompletionAi))

/-- The descriptions that a request can be made of. -/
structure AttemptDescription.Allowed (d : AttemptDescription) : Prop where
  ingress : IngressAllowed d.ingress
  target : TargetAllowed d.publicationRoot
  roles : ∀ entry ∈ d.roleBlocks.toList.zipIdx, (replayRoleCode entry.1.role).toNat = entry.2

lemma records_length {slot : ℕ → UInt8} {start n : ℕ} {commitments : List FdCommitmentV1}
    (h : ∀ entry ∈ commitments.zipIdx start, entry.1.encode.length = n) :
    (records slot start commitments).length = commitments.length * (n + 3) := by
  rw [records, List.length_flatMap]
  have hrecord : ∀ entry ∈ commitments.zipIdx start, (commitmentRecord (slot entry.2) entry.1).length = n + 3 := by
    intro entry hentry
    simp [commitmentRecord, sizedCommitment, h entry hentry]
    omega
  rw [List.map_congr_left hrecord]
  simp

lemma encode_length_eq {commitment : FdCommitmentV1} {n : ℕ} (hn : n < 2 ^ 16) :
    UInt16.ofNat commitment.encode.length = UInt16.ofNat n ↔ commitment.encode.length = n := by
  rw [← UInt16.toNat_inj, UInt16.toNat_ofNat', UInt16.toNat_ofNat', Nat.mod_eq_of_lt (commitment_length commitment),
    Nat.mod_eq_of_lt hn]

lemma ingressBytes_length {commitments : List FdCommitmentV1} (h : IngressAllowed commitments) :
    (ingressBytes commitments).length = 44 + commitments.length * 53 := by
  have hrecords : (records UInt8.ofNat 0 commitments).length = commitments.length * (50 + 3) :=
    records_length fun entry hentry => (encode_length_eq (by decide)).mp (h.2 entry hentry).2.2
  simp [ingressBytes, hrecords]
  omega

lemma requestBytes_length (d : AttemptDescription) (count : UInt8) (length : ℕ) (ingress target : Digest) :
    (requestBytes d count length ingress target).length = 772 := by
  have hblocks : (d.roleBlocks.toList.flatMap RequestRoleBlockV1.encode).length = d.roleBlocks.toList.length * 97 :=
    flatMap_length (fun block => by simp [RequestRoleBlockV1.encode]) _
  rw [List.Vector.toList_length] at hblocks
  have hheader : requestHeader.length = 214 := by simp [requestHeader]
  simp [requestBytes, hblocks, hheader]

lemma request_ok {d : AttemptDescription} {request : RequestCommitmentV1} :
    d.request H = .ok request ↔ d.Allowed ∧ request.preimage.val = d.requestBytes H ∧
      request.digest = H (d.requestBytes H) ∧ request.ingressCount = UInt8.ofNat d.ingress.length := by
  simp only [AttemptDescription.request, RequestCommitmentV1.tryNew, bind_ok, ingress_ok, target_ok, ensure_ok,
    exists_unit, tryInto_ok, pure_ok, pushLp16V1_array (show 37 < 2 ^ 16 by decide),
    pushLp16V1_array (show 55 < 2 ^ 16 by decide), pushLp16V1_array (show 43 < 2 ^ 16 by decide),
    pushLp16V1_array (show 33 < 2 ^ 16 by decide), Except.ok.injEq, forM_ok, requireRoleOrder]
  constructor
  · rintro ⟨_, ⟨hingress, rfl⟩, target, ⟨htarget, -, hdigest⟩, hroles, -, _, rfl, _, rfl, _, rfl, _, rfl, preimage,
      hpreimage, rfl⟩
    have hbytes : preimage.val = d.requestBytes H := by
      rw [AttemptDescription.requestBytes, Wire.requestBytes, ← hdigest]
      exact hpreimage.symm
    exact ⟨⟨hingress, htarget, hroles⟩, hbytes, congrArg H hbytes, rfl⟩
  · rintro ⟨⟨hingress, htarget, hroles⟩, hpreimage, hdigest, hcount⟩
    let target : PublicationTargetCommitmentV1 :=
      ⟨⟨targetBytes d.publicationRoot d.destinationInputAi d.destinationCompletionAi, by
        exact targetBytes_length htarget⟩, H (targetBytes d.publicationRoot d.destinationInputAi d.destinationCompletionAi)⟩
    have hbyte : d.ingress.length < 2 ^ 8 := hingress.1.trans_lt (by decide)
    have hlength : (ingressBytes d.ingress).length = 44 + (UInt8.ofNat d.ingress.length).toNat * 53 := by
      rw [ingressBytes_length hingress, UInt8.toNat_ofNat', Nat.mod_eq_of_lt hbyte]
    refine ⟨_, ⟨hingress, rfl⟩, target, ⟨htarget, rfl, rfl⟩, hroles, hlength, _, rfl, _, rfl, _, rfl, _, rfl,
      request.preimage, hpreimage.symm, ?_⟩
    rw [hpreimage, ← hdigest, ← hcount]

lemma request_exists {d : AttemptDescription} (h : d.Allowed) :
    ∃ request, d.request H = .ok request ∧ request.digest = H (d.requestBytes H) :=
  ⟨⟨⟨d.requestBytes H, requestBytes_length _ _ _ _ _⟩, H (d.requestBytes H), UInt8.ofNat d.ingress.length⟩,
    request_ok.mpr ⟨h, rfl, rfl, rfl⟩, rfl⟩

lemma roleBlock_delimiting : Delimiting RequestRoleBlockV1.encode := by
  intro a b s t h
  obtain ⟨role, runner, layout, plan⟩ := a
  obtain ⟨role', runner', layout', plan'⟩ := b
  simp only [RequestRoleBlockV1.encode, List.append_assoc] at h
  obtain ⟨rfl, hrunner⟩ := Delimited.byte replayRoleCode_injective h
  obtain ⟨rfl, hlayout⟩ := Delimited.array 32 hrunner
  obtain ⟨rfl, hplan⟩ := Delimited.array 32 hlayout
  obtain ⟨rfl, rfl⟩ := Delimited.array 32 hplan
  exact ⟨rfl, rfl⟩

lemma requestBytes_inj {d d' : AttemptDescription} {count count' : UInt8} {length length' : ℕ}
    {ingress ingress' target target' : Digest}
    (h : requestBytes d count length ingress target = requestBytes d' count' length' ingress' target') :
    d.allocationEpoch = d'.allocationEpoch ∧ d.positiveInputSetAi = d'.positiveInputSetAi ∧
      d.positiveGenerationSetAi = d'.positiveGenerationSetAi ∧ ingress = ingress' ∧ target = target' ∧
        d.roleBlocks = d'.roleBlocks := by
  simp only [requestBytes, List.append_assoc, List.append_cancel_left_eq] at h
  obtain ⟨hepoch, hrest⟩ := Delimited.array 32 h
  obtain ⟨hinput, hrest⟩ := Delimited.array 32 hrest
  obtain ⟨hgeneration, hrest⟩ := Delimited.array 32 hrest
  obtain ⟨-, hrest⟩ := Delimited.byte Function.injective_id hrest
  obtain ⟨-, hrest⟩ := Delimited.le64 hrest
  obtain ⟨hingress, hrest⟩ := Delimited.array 32 hrest
  obtain ⟨htarget, hrest⟩ := Delimited.array 32 hrest
  have hblocks : d.roleBlocks.toList.length = d'.roleBlocks.toList.length := by
    rw [List.Vector.toList_length, List.Vector.toList_length]
  obtain ⟨hroles, -⟩ := Delimited.flatMap roleBlock_delimiting (s := []) (t := []) hblocks (by simpa using hrest)
  exact ⟨hepoch, hinput, hgeneration, hingress, htarget, List.Vector.toList_injective hroles⟩

lemma endpointPreimage_inj {role role' : SeqpacketEndpointRoleV1} {descriptor descriptor' : DescriptorIdentityV1}
    {cookie cookie' : UInt64} (h : endpointPreimage role descriptor cookie = endpointPreimage role' descriptor' cookie') :
    descriptor = descriptor' ∧ cookie = cookie' := by
  have hval := congrArg Subtype.val h
  simp only [endpointPreimage, List.append_assoc, List.append_cancel_left_eq] at hval
  obtain ⟨-, hrest⟩ := List.cons.inj hval
  obtain ⟨hdescriptor, hrest⟩ := descriptorIdentity_delimiting hrest
  obtain ⟨hcookie, -⟩ := Delimited.le64 hrest
  exact ⟨hdescriptor, hcookie⟩

lemma sessionPreimage_inj {facts facts' : SessionFacts} (h : facts.preimage.val = facts'.preimage.val) : facts = facts' := by
  simp only [SessionFacts.preimage, List.append_assoc, List.append_cancel_left_eq] at h
  obtain ⟨hrequest, hrest⟩ := Delimited.array 32 h
  obtain ⟨happliance, hrest⟩ := Delimited.array 32 hrest
  obtain ⟨hsupervisor, hrest⟩ := Delimited.array 32 hrest
  obtain ⟨hgenerator, hrest⟩ := Delimited.array 32 hrest
  obtain ⟨hworker, hrest⟩ := Delimited.array 32 hrest
  obtain ⟨hgeneratorNonce, hrest⟩ := Delimited.array 32 hrest
  obtain ⟨hsupervisorNonce, hrest⟩ := Delimited.array 32 hrest
  obtain ⟨hpid, hrest⟩ := Delimited.le32 hrest
  obtain ⟨hepoch, hrest⟩ := Delimited.le64 hrest
  obtain ⟨hgeneratorChannel, hrest⟩ := Delimited.array 32 hrest
  have hworkerChannel : facts.workerChannel = facts'.workerChannel := Subtype.ext hrest
  cases facts
  cases facts'
  simp_all

end Requests

section Sessions

variable {H : Bytes → Digest} {d : AttemptDescription}

def AttemptDescription.sessionFacts (H : Bytes → Digest) (d : AttemptDescription)
    (process : ¬(d.supervisorPid = 0 ∨ d.supervisorStartEpoch = 0))
    (nonces : d.generatorNonce ≠ ByteArr.zero 32 ∧ d.supervisorNonce ≠ ByteArr.zero 32) : SessionFacts where
  requestDigest := H (d.requestBytes H)
  applianceMeasurement := d.applianceMeasurement
  supervisorMeasurement := d.supervisorMeasurement
  generatorMeasurement := d.generatorMeasurement
  workerMeasurement := d.workerMeasurement
  generatorNonce := d.generatorNonce
  supervisorNonce := d.supervisorNonce
  supervisorPid := d.supervisorPid
  supervisorStartEpoch := d.supervisorStartEpoch
  generatorChannel := d.generatorChannel H
  workerChannel := d.workerChannel H
  process := process
  nonces := nonces

lemma attempt_session (h : d.Allowed) (process : ¬(d.supervisorPid = 0 ∨ d.supervisorStartEpoch = 0))
    (nonces : d.generatorNonce ≠ ByteArr.zero 32 ∧ d.supervisorNonce ≠ ByteArr.zero 32) :
    d.session H = .ok ((d.sessionFacts H process nonces).material H) := by
  obtain ⟨request, hrequest, hdigest⟩ := request_exists (H := H) h
  rw [AttemptDescription.session, hrequest, channels_ok, ok_bind, ok_bind]
  exact session_ok.mpr ⟨_, ⟨hdigest.symm, rfl, rfl, rfl, rfl, rfl, rfl, rfl, rfl, rfl, rfl⟩, rfl⟩

end Sessions

section Commitments

variable {H : Bytes → Digest}

def AttemptDescription.endpointBytes (d : AttemptDescription) (role : SeqpacketEndpointRoleV1) : Bytes :=
  (endpointPreimage role (d.descriptor role) (d.socketCookie role)).val

def channelBytes {n : ℕ} (domain : ByteArr n) (first second : Digest) : Bytes := domain.val ++ first.val ++ second.val

/-- The strings that are hashed on the way from a description to the identifier of its session. -/
def AttemptDescription.hashed (H : Bytes → Digest) (d : AttemptDescription) (session : ProviderSessionMaterialV1) :
    List Bytes :=
  [ingressBytes d.ingress, targetBytes d.publicationRoot d.destinationInputAi d.destinationCompletionAi,
    d.requestBytes H, d.endpointBytes .generator, d.endpointBytes .supervisorGenerator,
    d.endpointBytes .supervisorWorker, d.endpointBytes .worker,
    channelBytes generatorChannelIdentityDomainV1 (d.endpoint H .generator).digest
      (d.endpoint H .supervisorGenerator).digest,
    channelBytes workerChannelIdentityDomainV1 (d.endpoint H .supervisorWorker).digest (d.endpoint H .worker).digest,
    session.preimage.val]

lemma channelBytes_inj {n : ℕ} {domain : ByteArr n} {first first' second second' : Digest}
    (h : channelBytes domain first second = channelBytes domain first' second') : first = first' ∧ second = second' := by
  simp only [channelBytes, List.append_assoc, List.append_cancel_left_eq] at h
  obtain ⟨hfirst, hsecond⟩ := Delimited.array 32 h
  exact ⟨hfirst, Subtype.ext hsecond⟩

lemma channelBytes_length {n : ℕ} (domain : ByteArr n) (first second : Digest) :
    (channelBytes domain first second).length = n + 32 + 32 := by simp [channelBytes]

lemma mem_hashed_endpoint (d : AttemptDescription) (session : ProviderSessionMaterialV1) (role : SeqpacketEndpointRoleV1) :
    d.endpointBytes role ∈ d.hashed H session := by
  cases role <;> simp [AttemptDescription.hashed]

lemma endpoint_committed {d d' : AttemptDescription} {session session' : ProviderSessionMaterialV1}
    (hcollision : NoCollision H (d.hashed H session) (d'.hashed H session')) {role : SeqpacketEndpointRoleV1}
    (h : (d.endpoint H role).digest = (d'.endpoint H role).digest) :
    d.descriptor role = d'.descriptor role ∧ d.socketCookie role = d'.socketCookie role :=
  endpointPreimage_inj (Subtype.ext (hcollision _ (mem_hashed_endpoint d session role) _
    (mem_hashed_endpoint d' session' role) h))

lemma request_committed {d d' : AttemptDescription} {session session' : ProviderSessionMaterialV1}
    {request request' : RequestCommitmentV1}
    (hcollision : NoCollision H (d.hashed H session) (d'.hashed H session')) (h : d.request H = .ok request)
    (h' : d'.request H = .ok request') (hdigest : request.digest = request'.digest) :
    d.allocationEpoch = d'.allocationEpoch ∧ d.positiveInputSetAi = d'.positiveInputSetAi ∧
      d.positiveGenerationSetAi = d'.positiveGenerationSetAi ∧ d.roleBlocks = d'.roleBlocks ∧ d.ingress = d'.ingress ∧
        d.publicationRoot = d'.publicationRoot ∧ d.destinationInputAi = d'.destinationInputAi ∧
          d.destinationCompletionAi = d'.destinationCompletionAi := by
  obtain ⟨hallowed, -, hbytes, -⟩ := request_ok.mp h
  obtain ⟨hallowed', -, hbytes', -⟩ := request_ok.mp h'
  have hrequest : d.requestBytes H = d'.requestBytes H := hcollision _ (by simp [AttemptDescription.hashed]) _
    (by simp [AttemptDescription.hashed]) (hbytes.symm.trans (hdigest.trans hbytes'))
  obtain ⟨hallocation, hinputs, hgeneration, hmanifest, htarget, hblocks⟩ := requestBytes_inj hrequest
  have hingress : d.ingress = d'.ingress := ingressBytes_inj hallowed.ingress.1 hallowed'.ingress.1 (hcollision _
    (by simp [AttemptDescription.hashed]) _ (by simp [AttemptDescription.hashed]) hmanifest)
  obtain ⟨hroot, hinput, hcompletion⟩ := targetBytes_inj (hcollision
    (targetBytes d.publicationRoot d.destinationInputAi d.destinationCompletionAi) (by simp [AttemptDescription.hashed])
    (targetBytes d'.publicationRoot d'.destinationInputAi d'.destinationCompletionAi)
    (by simp [AttemptDescription.hashed]) htarget)
  exact ⟨hallocation, hinputs, hgeneration, hblocks, hingress, hroot, hinput, hcompletion⟩

lemma channels_committed {d d' : AttemptDescription} {session session' : ProviderSessionMaterialV1}
    (hcollision : NoCollision H (d.hashed H session) (d'.hashed H session'))
    (hgenerator : d.generatorChannel H = d'.generatorChannel H) (hworker : d.workerChannel H = d'.workerChannel H) :
    d.descriptor = d'.descriptor ∧ d.socketCookie = d'.socketCookie := by
  obtain ⟨hgeneratorEnd, hsupervisorEnd⟩ := channelBytes_inj (hcollision
    (channelBytes generatorChannelIdentityDomainV1 (d.endpoint H .generator).digest
      (d.endpoint H .supervisorGenerator).digest) (by simp [AttemptDescription.hashed])
    (channelBytes generatorChannelIdentityDomainV1 (d'.endpoint H .generator).digest
      (d'.endpoint H .supervisorGenerator).digest) (by simp [AttemptDescription.hashed]) hgenerator)
  obtain ⟨hsupervisorEnd', hworkerEnd⟩ := channelBytes_inj (hcollision
    (channelBytes workerChannelIdentityDomainV1 (d.endpoint H .supervisorWorker).digest (d.endpoint H .worker).digest)
    (by simp [AttemptDescription.hashed])
    (channelBytes workerChannelIdentityDomainV1 (d'.endpoint H .supervisorWorker).digest (d'.endpoint H .worker).digest)
    (by simp [AttemptDescription.hashed]) hworker)
  have hendpoints : ∀ role, d.descriptor role = d'.descriptor role ∧ d.socketCookie role = d'.socketCookie role := by
    intro role
    cases role with
    | generator => exact endpoint_committed hcollision hgeneratorEnd
    | supervisorGenerator => exact endpoint_committed hcollision hsupervisorEnd
    | supervisorWorker => exact endpoint_committed hcollision hsupervisorEnd'
    | worker => exact endpoint_committed hcollision hworkerEnd
  exact ⟨funext fun role => (hendpoints role).1, funext fun role => (hendpoints role).2⟩

/-- The identifier of a session commits to all that the session is derived from, unless two of the
strings hashed on the way collide. -/
theorem session_commits_to_attempt {d d' : AttemptDescription} {session session' : ProviderSessionMaterialV1}
    (h : d.session H = .ok session) (h' : d'.session H = .ok session') (hid : session.sessionId = session'.sessionId)
    (hcollision : NoCollision H (d.hashed H session) (d'.hashed H session')) : d = d' := by
  simp only [AttemptDescription.session, channels_ok, ok_bind, bind_ok, session_ok] at h h'
  obtain ⟨request, hrequest, facts, hfacts, rfl⟩ := h
  obtain ⟨request', hrequest', facts', hfacts', rfl⟩ := h'
  have hpreimage : facts.preimage.val = facts'.preimage.val := hcollision _ (by simp [AttemptDescription.hashed,
    SessionFacts.material]) _ (by simp [AttemptDescription.hashed, SessionFacts.material]) hid
  obtain rfl := sessionPreimage_inj hpreimage
  obtain ⟨hdigest, happliance, hsupervisor, hgenerator, hworker, hgn, hsn, hpid, hepoch, hgc, hwc⟩ := hfacts
  obtain ⟨hdigest', happliance', hsupervisor', hgenerator', hworker', hgn', hsn', hpid', hepoch', hgc', hwc'⟩ := hfacts'
  obtain ⟨hallocation, hinputs, hgeneration, hblocks, hingress, hroot, hinput, hcompletion⟩ :=
    request_committed hcollision hrequest hrequest' (hdigest.symm.trans hdigest')
  obtain ⟨hdescriptors, hcookies⟩ := channels_committed hcollision
    ((congrArg ChannelIdentityV1.digest hgc).trans (congrArg ChannelIdentityV1.digest hgc').symm)
    ((congrArg ChannelIdentityV1.digest hwc).trans (congrArg ChannelIdentityV1.digest hwc').symm)
  cases d
  cases d'
  simp_all [AttemptDescription.sessionInput]

lemma firstDescriptor_nonzero : (1 : UInt64) ≠ 0 ∧ (1 : UInt64) ≠ 0 ∧ (1 : UInt64) ≠ 0 := by decide

def firstDescriptor : DescriptorIdentityV1 where
  device := 1
  inode := 1
  mountId := 1
  nonzero := firstDescriptor_nonzero

def firstRoot : FdCommitmentV1 where
  role := .publicationRoot
  identity := .filesystem firstDescriptor .directory
  status := ⟨.path, false, true⟩

def firstAttempt : AttemptDescription where
  allocationEpoch := ByteArr.zero 32
  positiveInputSetAi := ByteArr.zero 32
  positiveGenerationSetAi := ByteArr.zero 32
  ingress := []
  publicationRoot := firstRoot
  destinationInputAi := ByteArr.zero 32
  destinationCompletionAi := ByteArr.zero 32
  roleBlocks := ⟨[.rustValidatorBuild, .jvmValidatorBuild, .rustVerifier, .jvmVerifier].map fun role =>
    ⟨role, ByteArr.zero 32, ByteArr.zero 32, ByteArr.zero 32⟩, rfl⟩
  applianceMeasurement := ByteArr.zero 32
  supervisorMeasurement := ByteArr.zero 32
  generatorMeasurement := ByteArr.zero 32
  workerMeasurement := ByteArr.zero 32
  generatorNonce := List.Vector.replicate 32 1
  supervisorNonce := List.Vector.replicate 32 1
  supervisorPid := 1
  supervisorStartEpoch := 1
  descriptor := fun _ => firstDescriptor
  socketCookie := fun _ => 1

/-- SHA-256 on the strings of the first attempt, told apart by their lengths and the roles of the
endpoints. -/
def attemptDigests : List ((ℕ × UInt8) × Digest) :=
  [((44, 0), ⟨[246, 229, 184, 98, 105, 177, 171, 122, 37, 80, 205, 134, 249, 136, 225, 72, 146, 164,
      120, 120, 73, 87, 59, 240, 139, 219, 201, 130, 66, 218, 181, 216], rfl⟩),
    ((132, 0), ⟨[149, 180, 124, 14, 85, 31, 174, 226, 216, 108, 160, 225, 106, 220, 153, 223, 33, 77,
      151, 41, 178, 42, 15, 232, 52, 103, 36, 227, 70, 19, 125, 231], rfl⟩),
    ((772, 0), ⟨[48, 234, 37, 14, 97, 210, 134, 186, 60, 10, 87, 56, 208, 167, 251, 168, 146, 5,
      86, 197, 180, 146, 206, 113, 232, 213, 18, 193, 107, 136, 7, 77], rfl⟩),
    ((83, 0), ⟨[159, 138, 242, 153, 4, 16, 189, 164, 241, 251, 184, 144, 236, 127, 102, 27, 71, 43,
      226, 211, 88, 158, 95, 8, 154, 117, 174, 148, 250, 196, 211, 1], rfl⟩),
    ((83, 1), ⟨[104, 163, 231, 179, 195, 123, 247, 165, 199, 3, 169, 1, 148, 246, 93, 155, 50, 165,
      76, 250, 120, 220, 146, 77, 54, 72, 30, 164, 201, 71, 193, 12], rfl⟩),
    ((83, 2), ⟨[159, 204, 230, 182, 219, 250, 132, 42, 166, 24, 99, 30, 172, 226, 219, 211, 58, 92,
      101, 240, 110, 45, 148, 183, 72, 245, 244, 224, 82, 224, 190, 138], rfl⟩),
    ((83, 3), ⟨[143, 83, 17, 226, 59, 67, 165, 131, 180, 30, 168, 200, 108, 84, 147, 180, 139, 238,
      242, 90, 21, 209, 76, 1, 219, 193, 93, 173, 64, 241, 137, 132], rfl⟩),
    ((108, 0), ⟨[245, 152, 223, 8, 169, 148, 103, 126, 71, 25, 140, 247, 7, 93, 129, 33, 106, 6,
      99, 60, 2, 246, 140, 112, 128, 224, 208, 98, 133, 81, 121, 113], rfl⟩),
    ((105, 0), ⟨[135, 135, 175, 20, 206, 19, 202, 117, 70, 12, 187, 91, 12, 201, 78, 43, 94, 30,
      113, 68, 188, 41, 200, 97, 232, 47, 173, 214, 220, 91, 235, 57], rfl⟩),
    ((373, 0), ⟨[182, 101, 83, 1, 250, 135, 30, 133, 74, 139, 128, 90, 7, 98, 207, 166, 178, 158,
      21, 195, 28, 82, 134, 236, 218, 138, 59, 131, 144, 185, 105, 144], rfl⟩)]

/-- SHA-256 on the strings behind the session: the nonce commitments, the two starts, the first frame
and a result of one byte. -/
def frameDigests : List ((ℕ × UInt8) × Digest) :=
  [((99, 0), ⟨[52, 85, 243, 154, 98, 234, 198, 56, 47, 120, 174, 224, 214, 141, 155, 188, 123,
      89, 45, 156, 194, 54, 32, 123, 39, 187, 219, 233, 21, 128, 125, 208], rfl⟩),
    ((99, 1), ⟨[133, 154, 2, 133, 213, 177, 224, 211, 147, 66, 105, 85, 210, 16, 149, 127, 18,
      212, 218, 53, 56, 199, 168, 210, 251, 127, 210, 131, 6, 21, 29, 80], rfl⟩),
    ((203, 0), ⟨[30, 190, 234, 38, 105, 72, 160, 44, 61, 221, 218, 37, 191, 161, 5, 38, 24,
      142, 240, 233, 181, 27, 193, 138, 15, 186, 47, 69, 163, 6, 184, 172], rfl⟩),
    ((426, 0), ⟨[19, 200, 20, 57, 32, 19, 84, 123, 188, 80, 150, 34, 8, 52, 184, 4, 134,
      53, 146, 154, 59, 157, 2, 5, 80, 144, 222, 186, 12, 13, 225, 25], rfl⟩),
    ((232, 0), ⟨[213, 154, 18, 181, 21, 166, 42, 72, 99, 124, 13, 20, 131, 185, 212, 90, 25,
      134, 123, 188, 135, 225, 108, 89, 121, 226, 162, 85, 231, 20, 152, 144], rfl⟩),
    ((1, 0), ⟨[110, 52, 11, 156, 255, 179, 122, 152, 156, 165, 68, 230, 187, 120, 10, 44, 120,
      144, 29, 63, 179, 55, 56, 118, 133, 17, 163, 6, 23, 175, 160, 29], rfl⟩)]

/-- The length of a string, with the byte of its role where the length leaves it open. -/
def attemptKey (b : Bytes) : ℕ × UInt8 :=
  (b.length, if b.length = 83 then b.getD 38 0 else if b.length = 99 then b.getD 34 0 else 0)

def attemptDigest (key : ℕ × UInt8) : Digest :=
  (((attemptDigests ++ frameDigests).find? fun entry => decide (entry.1 = key)).map Prod.snd).getD (ByteArr.zero 32)

def attemptSha256 (b : Bytes) : Digest := attemptDigest (attemptKey b)

lemma firstRoot_length : firstRoot.encode.length = 30 := by decide

lemma firstAttempt_allowed : firstAttempt.Allowed := by
  refine ⟨⟨by decide, by decide⟩, ⟨rfl, by decide, firstRoot_length⟩, ?_⟩
  intro entry hentry
  change entry ∈ [(_, 0), (_, 1), (_, 2), (_, 3)] at hentry
  simp only [List.mem_cons, List.not_mem_nil, or_false] at hentry
  obtain rfl | rfl | rfl | rfl := hentry <;> rfl

lemma endpointBytes_key (d : AttemptDescription) (role : SeqpacketEndpointRoleV1) :
    attemptKey (d.endpointBytes role) = (83, role.wireCode) := by
  have hlength : (d.endpointBytes role).length = 83 := (endpointPreimage role (d.descriptor role) (d.socketCookie role)).2
  have hrole : (d.endpointBytes role).getD 38 0 = role.wireCode := rfl
  rw [attemptKey, hlength, hrole, if_pos rfl]

lemma attemptKey_of_length {b : Bytes} {n : ℕ} (h : b.length = n) (hn : n ≠ 83 ∧ n ≠ 99) : attemptKey b = (n, 0) := by
  rw [attemptKey, h, if_neg hn.1, if_neg hn.2]

def firstFacts : SessionFacts := firstAttempt.sessionFacts attemptSha256 (by decide) (by decide)

lemma firstAttempt_session : firstAttempt.session attemptSha256 = .ok (firstFacts.material attemptSha256) :=
  attempt_session firstAttempt_allowed (by decide) (by decide)

lemma firstAttempt_keys : (firstAttempt.hashed attemptSha256 (firstFacts.material attemptSha256)).map attemptKey =
    attemptDigests.map Prod.fst := by
  have hingress : (ingressBytes firstAttempt.ingress).length = 44 := ingressBytes_length firstAttempt_allowed.ingress
  simp only [AttemptDescription.hashed, List.map_cons, List.map_nil, endpointBytes_key,
    attemptKey_of_length hingress (by decide), attemptKey_of_length (targetBytes_length firstAttempt_allowed.target) (by decide),
    AttemptDescription.requestBytes, attemptKey_of_length (requestBytes_length _ _ _ _ _) (by decide),
    attemptKey_of_length (channelBytes_length generatorChannelIdentityDomainV1 _ _) (by decide),
    attemptKey_of_length (channelBytes_length workerChannelIdentityDomainV1 _ _) (by decide),
    attemptKey_of_length (firstFacts.material attemptSha256).preimage.2 (by decide)]
  rfl

lemma attemptDigest_inj : ∀ key ∈ attemptDigests.map Prod.fst, ∀ key' ∈ attemptDigests.map Prod.fst,
    attemptDigest key = attemptDigest key' → key = key' := by
  decide

lemma firstAttempt_noCollision : NoCollision attemptSha256
    (firstAttempt.hashed attemptSha256 (firstFacts.material attemptSha256))
    (firstAttempt.hashed attemptSha256 (firstFacts.material attemptSha256)) := by
  intro b hb b' hb' h
  have hnodup : ((firstAttempt.hashed attemptSha256 (firstFacts.material attemptSha256)).map attemptKey).Nodup := by
    rw [firstAttempt_keys]
    decide
  have hkey : attemptKey b = attemptKey b' := by
    refine attemptDigest_inj _ ?_ _ ?_ h
    · rw [← firstAttempt_keys]
      exact List.mem_map_of_mem hb
    · rw [← firstAttempt_keys]
      exact List.mem_map_of_mem hb'
  exact List.inj_on_of_nodup_map hnodup hb hb' hkey

theorem session_commits_to_first_attempt : firstAttempt = firstAttempt :=
  session_commits_to_attempt firstAttempt_session firstAttempt_session rfl firstAttempt_noCollision

end Commitments

end Eip0045.Wire
