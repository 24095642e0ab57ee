import Eip0045.Library.Frames
import Eip0045.Library.Scans
import Eip0045.Provider.Wire

/-! What the bytes of a frame and the digest of a transcript determine. -/

namespace Eip0045.Wire

open Bytes Checked Delimited

section Phases

lemma all_wireCode (phase : AttemptPhaseV1) : AttemptPhaseV1.all[phase.wireCode.toNat]? = some phase := by
  cases phase <;> rfl

lemma wireCode_injective : Function.Injective AttemptPhaseV1.wireCode := by
  intro phase phase' h
  have hall := all_wireCode phase
  rw [h, all_wireCode phase'] at hall
  exact (Option.some.inj hall).symm

lemma next_eq_some {phase phase' : AttemptPhaseV1} :
    phase.next = some phase' ↔ AttemptPhaseV1.all[phase.wireCode.toNat + 1]? = some phase' := Iff.rfl

lemma tryAdvance_ok {model next : AttemptProgressModelV1} {requested : AttemptPhaseV1} :
    model.tryAdvance requested = .ok next ↔ model.current.next = some requested ∧ next = ⟨requested⟩ := by
  rw [AttemptProgressModelV1.tryAdvance]
  cases model.current.next with
  | none => simp
  | some expected => by_cases h : requested = expected <;> simp [h, eq_comm]

lemma wireCode_all {n : ℕ} {phase : AttemptPhaseV1} (h : AttemptPhaseV1.all[n]? = some phase) :
    phase.wireCode.toNat = n := by
  have hn : n < AttemptPhaseV1.all.length := (List.getElem?_eq_some_iff.mp h).1
  have hlength : phase.wireCode.toNat < AttemptPhaseV1.all.length :=
    (List.getElem?_eq_some_iff.mp (all_wireCode phase)).1
  have hnodup : AttemptPhaseV1.all.Nodup := by decide
  exact (List.getElem?_inj hlength hnodup).mp ((all_wireCode phase).trans h.symm)

lemma foldlM_tryAdvance {requests : List AttemptPhaseV1} {n : ℕ} {phase : AttemptPhaseV1}
    {final : AttemptProgressModelV1} (hphase : AttemptPhaseV1.all[n]? = some phase) :
    requests.foldlM AttemptProgressModelV1.tryAdvance ⟨phase⟩ = .ok final ↔
      requests <+: AttemptPhaseV1.all.drop (n + 1) ∧ AttemptPhaseV1.all[n + requests.length]? = some final.current := by
  induction requests generalizing n phase with
  | nil =>
    obtain ⟨current⟩ := final
    simp [pure_ok, hphase]
  | cons request requests ih =>
    rw [List.foldlM_cons, bind_ok]
    simp only [tryAdvance_ok, next_eq_some, wireCode_all hphase]
    constructor
    · rintro ⟨_, ⟨hnext, rfl⟩, hrest⟩
      obtain ⟨hbelow, hfinal⟩ := (ih hnext).mp hrest
      rw [List.length_cons, ← Nat.add_assoc, Nat.add_right_comm]
      refine ⟨?_, hfinal⟩
      obtain ⟨hlt, hget⟩ := List.getElem?_eq_some_iff.mp hnext
      rw [List.drop_eq_getElem_cons hlt, hget]
      exact (List.prefix_cons_inj request).mpr hbelow
    · rintro ⟨hbelow, hfinal⟩
      have hlt : n + 1 < AttemptPhaseV1.all.length := by
        have hle := hbelow.length_le
        rw [List.length_cons, List.length_drop] at hle
        omega
      rw [List.drop_eq_getElem_cons hlt] at hbelow
      obtain ⟨hrequest, hrest⟩ := List.cons_prefix_cons.mp hbelow
      have hnext : AttemptPhaseV1.all[n + 1]? = some request := by
        rw [List.getElem?_eq_getElem hlt, hrequest]
      rw [List.length_cons, ← Nat.add_assoc, Nat.add_right_comm] at hfinal
      exact ⟨⟨request⟩, ⟨hnext, rfl⟩, (ih hnext).mpr ⟨hrest, hfinal⟩⟩

/-- A run of requests goes through exactly when it is an initial segment of the one compiled order,
and then stands at the label of its length; after the last label nothing goes through. -/
theorem attempt_runs_are_ordered (requests : List AttemptPhaseV1) (final : AttemptProgressModelV1) :
    requests.foldlM AttemptProgressModelV1.tryAdvance .start = .ok final ↔
      requests <+: AttemptPhaseV1.all.drop 1 ∧ final.current.wireCode.toNat = requests.length := by
  rw [AttemptProgressModelV1.start, foldlM_tryAdvance (n := 0) rfl, Nat.zero_add, Nat.zero_add]
  refine and_congr_right fun _ => ?_
  constructor
  · exact wireCode_all
  · intro h
    rw [← h, all_wireCode]

end Phases

section Codes

lemma direction_injective : Function.Injective FrameDirectionV1.wireCode := by
  intro a b h
  cases a <;> cases b <;> first | rfl | cases h

lemma replayRoleCode_injective : Function.Injective replayRoleCode := by
  intro a b h
  cases a <;> cases b <;> first | rfl | cases h

lemma nodeKind_injective : Function.Injective FilesystemNodeKindV1.wireCode := by
  intro a b h
  cases a <;> cases b <;> first | rfl | cases h

lemma namespaceKind_injective : Function.Injective NamespaceKindV1.wireCode := by
  intro a b h
  cases a <;> cases b <;> first | rfl | cases h

lemma sealPresence_injective : Function.Injective SealPresenceV1.wireCode := by
  intro a b h
  cases a <;> cases b <;> first | rfl | cases h

lemma access_injective : Function.Injective FdAccessV1.wireCode := by
  intro a b h
  cases a <;> cases b <;> first | rfl | cases h

lemma boolCode_injective : Function.Injective boolCode := by
  intro a b h
  cases a <;> cases b <;> first | rfl | cases h

end Codes

section Encodings

lemma descriptorIdentity_delimiting : Delimiting DescriptorIdentityV1.encode := by
  intro a b s t h
  simp only [DescriptorIdentityV1.encode, List.append_assoc] at h
  obtain ⟨hdevice, h⟩ := Delimited.le64 h
  obtain ⟨hinode, h⟩ := Delimited.le64 h
  obtain ⟨hmount, hst⟩ := Delimited.le64 h
  cases a
  cases b
  cases hdevice
  cases hinode
  cases hmount
  exact ⟨rfl, hst⟩

lemma credentials_delimiting : Delimiting PeerCredentialsV1.encode := by
  intro a b s t h
  simp only [PeerCredentialsV1.encode, List.append_assoc] at h
  obtain ⟨hprocess, h⟩ := Delimited.le32 h
  obtain ⟨huser, h⟩ := Delimited.le32 h
  obtain ⟨hgroup, h⟩ := Delimited.le32 h
  obtain ⟨hnamespace, hst⟩ := descriptorIdentity_delimiting h
  cases a
  cases b
  cases hprocess
  cases huser
  cases hgroup
  cases hnamespace
  exact ⟨rfl, hst⟩

lemma seals_delimiting : Delimiting MemfdSealsV1.encode := by
  intro a b s t h
  obtain ⟨grow, shrink, write, further⟩ := a
  obtain ⟨grow', shrink', write', further'⟩ := b
  simp only [MemfdSealsV1.encode, List.cons_append, List.cons.injEq, List.nil_append, sealPresence_injective.eq_iff] at h
  obtain ⟨rfl, rfl, rfl, rfl, rfl⟩ := h
  exact ⟨rfl, rfl⟩

lemma status_delimiting : Delimiting FdStatusV1.encode := by
  intro a b s t h
  obtain ⟨access, nonblocking, closeOnExec⟩ := a
  obtain ⟨access', nonblocking', closeOnExec'⟩ := b
  simp only [FdStatusV1.encode, List.cons_append, List.cons.injEq, List.nil_append, access_injective.eq_iff,
    boolCode_injective.eq_iff] at h
  obtain ⟨rfl, rfl, rfl, rfl⟩ := h
  exact ⟨rfl, rfl⟩

lemma role_delimiting : Delimiting FdRoleV1.encode := by
  intro a b s t h
  cases a <;> cases b <;>
    simp only [FdRoleV1.encode, List.cons_append, List.nil_append, List.cons.injEq,
      replayRoleCode_injective.eq_iff, true_and] at h
  case campaignInput.campaignInput index index' =>
    obtain ⟨rfl, rfl⟩ := h
    exact ⟨rfl, rfl⟩
  case roleRoot.roleRoot role role' =>
    obtain ⟨rfl, rfl⟩ := h
    exact ⟨rfl, rfl⟩
  case retainedEntry.retainedEntry role index role' index' =>
    obtain ⟨rfl, h⟩ := h
    obtain ⟨rfl, rfl⟩ := Delimited.le32 h
    exact ⟨rfl, rfl⟩
  all_goals first | exact ⟨rfl, h⟩ | exact absurd h.1 (by decide)

lemma role_length (role : FdRoleV1) : role.encode.length = role.encodedLen := by
  cases role <;> simp [FdRoleV1.encode, FdRoleV1.encodedLen]

lemma identity_delimiting : Delimiting FdIdentityV1.encode := by
  intro a b s t h
  cases a <;> cases b <;>
    simp only [FdIdentityV1.encode, List.cons_append, List.nil_append, List.cons.injEq, List.append_assoc,
      true_and] at h
  case filesystem.filesystem =>
    obtain ⟨rfl, hrest⟩ := descriptorIdentity_delimiting h
    obtain ⟨hkind, rfl⟩ := List.cons.inj hrest
    cases nodeKind_injective hkind
    exact ⟨rfl, rfl⟩
  case namespaceHandle.namespaceHandle =>
    obtain ⟨rfl, hrest⟩ := descriptorIdentity_delimiting h
    obtain ⟨hkind, rfl⟩ := List.cons.inj hrest
    cases namespaceKind_injective hkind
    exact ⟨rfl, rfl⟩
  case memfd.memfd =>
    obtain ⟨rfl, hdigest⟩ := Delimited.le64 h
    obtain ⟨rfl, hseals⟩ := Delimited.array 32 hdigest
    obtain ⟨rfl, rfl⟩ := seals_delimiting hseals
    exact ⟨rfl, rfl⟩
  case pidfd.pidfd =>
    obtain ⟨rfl, hepoch⟩ := Delimited.le32 h
    obtain ⟨rfl, rfl⟩ := Delimited.le64 hepoch
    exact ⟨rfl, rfl⟩
  case socket.socket =>
    obtain ⟨rfl, rfl⟩ := Delimited.array 32 h
    exact ⟨rfl, rfl⟩
  case cgroup.cgroup =>
    obtain ⟨rfl, hpath⟩ := Delimited.array 32 h
    obtain ⟨rfl, rfl⟩ := Delimited.array 32 hpath
    exact ⟨rfl, rfl⟩
  all_goals exact absurd h.1 (by decide)

lemma commitment_delimiting : Delimiting FdCommitmentV1.encode := by
  intro a b s t h
  obtain ⟨role, identity, status⟩ := a
  obtain ⟨role', identity', status'⟩ := b
  simp only [FdCommitmentV1.encode, List.append_assoc] at h
  obtain ⟨rfl, hidentity⟩ := role_delimiting h
  obtain ⟨rfl, hstatus⟩ := identity_delimiting hidentity
  obtain ⟨rfl, rfl⟩ := status_delimiting hstatus
  exact ⟨rfl, rfl⟩

end Encodings

section Shapes

lemma ancillary_ok {shape : AncillaryShapeV1} {fdCount : ℕ} :
    shape.validate fdCount = .ok () ↔ shape = .canonical fdCount := by
  obtain ⟨messageEnd, messageTruncated, controlTruncated, credentials, rights, unknown, malformed⟩ := shape
  simp only [AncillaryShapeV1.validate, bind_ok, ensure_ok, exists_unit, AncillaryShapeV1.canonical,
    AncillaryShapeV1.mk.injEq]

def rolesTotal (commitments : List FdCommitmentV1) : ℕ :=
  (commitments.map fun commitment => commitment.role.encodedLen).sum

lemma rolesLength_ok {commitments : List FdCommitmentV1} {start total : ℕ} :
    commitments.foldlM rolesLength start = .ok total →
      total = start + rolesTotal commitments := by
  induction commitments generalizing start with
  | nil =>
    intro h
    cases h
    simp [rolesTotal]
  | cons commitment commitments ih =>
    intro h
    rw [List.foldlM_cons, bind_ok] at h
    obtain ⟨next, hnext, hrest⟩ := h
    rw [rolesLength, context_ok, checkedAdd_eq_some] at hnext
    rw [ih hrest, ← hnext.2, rolesTotal, rolesTotal, List.map_cons, List.sum_cons]
    omega

lemma rolesLength_of_bound {commitments : List FdCommitmentV1} {start : ℕ}
    (h : start + rolesTotal commitments < 2 ^ 64) :
    commitments.foldlM rolesLength start = .ok (start + rolesTotal commitments) := by
  induction commitments generalizing start with
  | nil => rfl
  | cons commitment commitments ih =>
    rw [rolesTotal, List.map_cons, List.sum_cons, ← Nat.add_assoc] at h ⊢
    have hadd : checkedAdd start commitment.role.encodedLen = some (start + commitment.role.encodedLen) :=
      checkedAdd_eq_some.mpr ⟨by omega, rfl⟩
    rw [List.foldlM_cons, rolesLength, hadd]
    exact ih h

def frameLength (bodyLength : ℕ) (commitments : List FdCommitmentV1) : ℕ := 82 + rolesTotal commitments + bodyLength

lemma encodedFrameLen_ok {bodyLength length : ℕ} {commitments : List FdCommitmentV1}
    (h : encodedFrameLen bodyLength commitments = .ok length) : length = frameLength bodyLength commitments := by
  simp only [encodedFrameLen, bind_ok, context_ok, checkedAdd_eq_some] at h
  obtain ⟨roles, hroles, header, ⟨-, rfl⟩, -, rfl⟩ := h
  rw [rolesLength_ok hroles, frameFixedHeaderBytesV1, Nat.zero_add, frameLength]

lemma encodedFrameLen_of_bound {bodyLength : ℕ} {commitments : List FdCommitmentV1}
    (h : frameLength bodyLength commitments ≤ maxFrameBytesV1) :
    encodedFrameLen bodyLength commitments = .ok (frameLength bodyLength commitments) := by
  rw [frameLength, maxFrameBytesV1] at h
  have hroles : commitments.foldlM rolesLength 0 = .ok (rolesTotal commitments) := by
    rw [rolesLength_of_bound (by omega), Nat.zero_add]
  have hheader : checkedAdd frameFixedHeaderBytesV1 (rolesTotal commitments) = some (82 + rolesTotal commitments) :=
    checkedAdd_eq_some.mpr ⟨by rw [frameFixedHeaderBytesV1]; omega, rfl⟩
  have hbody : checkedAdd (82 + rolesTotal commitments) bodyLength = some (frameLength bodyLength commitments) :=
    checkedAdd_eq_some.mpr ⟨by omega, rfl⟩
  rw [encodedFrameLen, hroles, ok_bind, hheader, context, ok_bind, hbody, context]

def ValidInventory (commitments : List FdCommitmentV1) : Prop :=
  (∀ commitment ∈ commitments, commitment.validate = .ok ()) ∧ (commitments.map FdCommitmentV1.role).Nodup

lemma validateFdInventory_ok {before commitments : List FdCommitmentV1} :
    validateFdInventory before commitments = .ok () ↔ (∀ commitment ∈ commitments, commitment.validate = .ok ()) ∧
      Scans.Fresh (before.map FdCommitmentV1.role) (commitments.map FdCommitmentV1.role) := by
  induction commitments generalizing before with
  | nil => simp [validateFdInventory, Scans.fresh_nil]
  | cons commitment commitments ih =>
    rw [validateFdInventory, bind_ok, exists_unit, bind_ok, exists_unit, ensure_ok, ih, List.forall_mem_cons,
      List.map_append, List.map_cons, List.map_cons, Scans.fresh_snoc]
    tauto

/-- A valid frame: its constants, its declared lengths, its inventory and its bounds. -/
structure WireFrameV1.Valid (frame : WireFrameV1) : Prop where
  magic : frame.magic = frameMagicV1
  version : frame.version = frameVersionV1
  ordinal : frame.ordinal < maxSessionFramesV1
  bodyLength : frame.declaredBodyLength.toNat = frame.body.length
  fdCount : frame.declaredFdCount.toNat = frame.fdCommitments.length
  fdBound : frame.fdCommitments.length ≤ maxFrameFdsV1
  ancillary : frame.ancillary = .canonical frame.fdCommitments.length
  inventory : ValidInventory frame.fdCommitments
  bounded : frameLength frame.body.length frame.fdCommitments ≤ maxFrameBytesV1

lemma validateShape_ok {frame : WireFrameV1} : frame.validateShape = .ok () ↔ frame.Valid := by
  simp only [WireFrameV1.validateShape, bind_ok, ensure_ok, exists_unit, ancillary_ok, validateFdInventory_ok,
    List.map_nil, Scans.fresh_start]
  constructor
  · rintro ⟨hmagic, hversion, hordinal, hbody, hcount, hfds, hancillary, hinventory, length, hlength, hbound⟩
    rw [encodedFrameLen_ok hlength] at hbound
    exact ⟨hmagic, hversion, hordinal, hbody, hcount, hfds, hancillary, hinventory, hbound⟩
  · rintro ⟨hmagic, hversion, hordinal, hbody, hcount, hfds, hancillary, hinventory, hbound⟩
    exact ⟨hmagic, hversion, hordinal, hbody, hcount, hfds, hancillary, hinventory, _,
      encodedFrameLen_of_bound hbound, hbound⟩

lemma flatMap_roles_length (commitments : List FdCommitmentV1) :
    (commitments.flatMap fun commitment => commitment.role.encode).length =
      rolesTotal commitments := by
  rw [List.length_flatMap, rolesTotal]
  congr 1
  exact List.map_congr_left fun commitment _ => role_length commitment.role

lemma flatMap_role (commitments : List FdCommitmentV1) :
    commitments.flatMap (fun commitment => commitment.role.encode) =
      (commitments.map FdCommitmentV1.role).flatMap FdRoleV1.encode := (List.flatMap_map _ _ commitments).symm

lemma rawFrame_length (frame : WireFrameV1) :
    frame.rawFrame.length = frameLength frame.body.length frame.fdCommitments := by
  rw [frameLength, ← flatMap_roles_length]
  simp [WireFrameV1.rawFrame, encodeRawFramePartsV1]
  omega

lemma encodeRawFrame_ok {frame : WireFrameV1} {raw : Bytes} :
    frame.encodeRawFrame = .ok raw ↔ frame.Valid ∧ raw = frame.rawFrame := by
  simp only [WireFrameV1.encodeRawFrame, WireFrameV1.encodedLen, bind_ok, pure_ok, exists_unit, validateShape_ok]
  constructor
  · rintro ⟨_, ⟨hvalid, -⟩, rfl⟩
    exact ⟨hvalid, rfl⟩
  · rintro ⟨hvalid, rfl⟩
    exact ⟨_, ⟨hvalid, encodedFrameLen_of_bound hvalid.bounded⟩, rfl⟩

structure FrameInputV1.Acceptable (input : FrameInputV1) : Prop where
  ordinal : input.ordinal < maxSessionFramesV1
  fdBound : input.fdCommitments.length ≤ maxFrameFdsV1
  ancillary : input.ancillary = .canonical input.fdCommitments.length
  inventory : ValidInventory input.fdCommitments
  bounded : frameLength input.body.length input.fdCommitments ≤ maxFrameBytesV1

def FrameInputV1.frame (input : FrameInputV1) : WireFrameV1 where
  magic := frameMagicV1
  version := frameVersionV1
  direction := input.direction
  ordinal := input.ordinal
  phase := input.phase
  declaredBodyLength := UInt32.ofNat input.body.length
  sessionId := input.sessionId
  previousHash := input.previousHash
  declaredFdCount := UInt8.ofNat input.fdCommitments.length
  body := input.body
  credentials := input.credentials
  fdCommitments := input.fdCommitments
  ancillary := input.ancillary

lemma FrameInputV1.Acceptable.valid {input : FrameInputV1} (h : input.Acceptable) : input.frame.Valid := by
  have hbody : input.body.length < 2 ^ 32 := by
    have hbound := h.bounded
    rw [frameLength, maxFrameBytesV1] at hbound
    omega
  have hcount : input.fdCommitments.length < 2 ^ 8 := h.fdBound.trans_lt (by decide)
  refine ⟨rfl, rfl, h.ordinal, ?_, ?_, h.fdBound, h.ancillary, h.inventory, h.bounded⟩
  · rw [FrameInputV1.frame, UInt32.toNat_ofNat', Nat.mod_eq_of_lt hbody]
  · rw [FrameInputV1.frame, UInt8.toNat_ofNat', Nat.mod_eq_of_lt hcount]

lemma tryNew_ok {input : FrameInputV1} {frame : WireFrameV1} :
    WireFrameV1.tryNew input = .ok frame ↔ input.Acceptable ∧ frame = input.frame := by
  simp only [WireFrameV1.tryNew, bind_ok, ensure_ok, exists_unit, ancillary_ok, validateFdInventory_ok, pure_ok,
    List.map_nil, Scans.fresh_start]
  constructor
  · rintro ⟨hordinal, hfds, hancillary, hinventory, -, -, length, hlength, hbound, -, rfl⟩
    rw [encodedFrameLen_ok hlength] at hbound
    exact ⟨⟨hordinal, hfds, hancillary, hinventory, hbound⟩, rfl⟩
  · rintro ⟨h, rfl⟩
    have hbody : input.body.length < 2 ^ 32 := by
      have hbound := h.bounded
      rw [frameLength, maxFrameBytesV1] at hbound
      omega
    exact ⟨h.ordinal, h.fdBound, h.ancillary, h.inventory, hbody, h.fdBound.trans_lt (by decide), _,
      encodedFrameLen_of_bound h.bounded, h.bounded, validateShape_ok.mpr h.valid, rfl⟩

lemma rawFrame_inj {frame frame' : WireFrameV1} (hvalid : frame.Valid) (hvalid' : frame'.Valid)
    (h : frame.rawFrame = frame'.rawFrame) :
    frame.direction = frame'.direction ∧ frame.ordinal = frame'.ordinal ∧ frame.phase = frame'.phase ∧
      frame.sessionId = frame'.sessionId ∧ frame.previousHash = frame'.previousHash ∧
        frame.fdCommitments.map FdCommitmentV1.role = frame'.fdCommitments.map FdCommitmentV1.role ∧
          frame.body = frame'.body := by
  simp only [WireFrameV1.rawFrame, encodeRawFramePartsV1, List.append_assoc] at h
  obtain ⟨-, h⟩ := Delimited.array 8 h
  obtain ⟨-, h⟩ := Delimited.le16 h
  obtain ⟨hdirection, h⟩ := Delimited.byte direction_injective h
  obtain ⟨hordinal, h⟩ := Delimited.byte Function.injective_id h
  obtain ⟨hphase, h⟩ := Delimited.byte wireCode_injective h
  obtain ⟨-, h⟩ := Delimited.le32 h
  obtain ⟨hsession, h⟩ := Delimited.array 32 h
  obtain ⟨hprevious, h⟩ := Delimited.array 32 h
  obtain ⟨hcount, h⟩ := Delimited.byte Function.injective_id h
  have hlength : frame.fdCommitments.length = frame'.fdCommitments.length := by
    rw [← hvalid.fdCount, ← hvalid'.fdCount]
    exact congrArg UInt8.toNat hcount
  have hroleCount : (frame.fdCommitments.map FdCommitmentV1.role).length =
      (frame'.fdCommitments.map FdCommitmentV1.role).length := by
    rw [List.length_map, List.length_map, hlength]
  rw [flatMap_role, flatMap_role] at h
  obtain ⟨hroles, hbody⟩ := Delimited.flatMap role_delimiting hroleCount h
  exact ⟨hdirection, hordinal, hphase, hsession, hprevious, hroles, hbody⟩

/-- Inputs that agree in all that the bytes of a frame hold. -/
structure FrameInputV1.SameBytes (input input' : FrameInputV1) : Prop where
  direction : input.direction = input'.direction
  ordinal : input.ordinal = input'.ordinal
  phase : input.phase = input'.phase
  sessionId : input.sessionId = input'.sessionId
  previousHash : input.previousHash = input'.previousHash
  roles : input.fdCommitments.map FdCommitmentV1.role = input'.fdCommitments.map FdCommitmentV1.role
  body : input.body = input'.body

lemma rawFrame_eq_iff {input input' : FrameInputV1} (h : input.Acceptable) (h' : input'.Acceptable) :
    input.frame.rawFrame = input'.frame.rawFrame ↔ input.SameBytes input' := by
  constructor
  · intro hraw
    obtain ⟨hdirection, hordinal, hphase, hsession, hprevious, hroles, hbody⟩ := rawFrame_inj h.valid h'.valid hraw
    exact ⟨hdirection, hordinal, hphase, hsession, hprevious, hroles, hbody⟩
  · intro hsame
    have hcount : input.fdCommitments.length = input'.fdCommitments.length := by
      have hlength := congrArg List.length hsame.roles
      rwa [List.length_map, List.length_map] at hlength
    have hroles : input.fdCommitments.flatMap (fun commitment => commitment.role.encode) =
        input'.fdCommitments.flatMap (fun commitment => commitment.role.encode) := by
      rw [flatMap_role, flatMap_role, hsame.roles]
    simp only [WireFrameV1.rawFrame, encodeRawFramePartsV1, FrameInputV1.frame, hsame.direction, hsame.ordinal, hsame.phase,
      hsame.sessionId, hsame.previousHash, hsame.body, hcount, hroles]

/-- A frame is built exactly of the acceptable inputs. It then encodes, to as many bytes as its
encoded length says and within the bound; and two built frames have the same bytes exactly when they
agree in everything but their credentials and the identities and states of their descriptors. -/
theorem frames_encode_exactly (input : FrameInputV1) :
    (∀ frame, WireFrameV1.tryNew input = .ok frame ↔ input.Acceptable ∧ frame = input.frame) ∧
      (input.Acceptable → ∃ raw, input.frame.encodeRawFrame = .ok raw ∧ input.frame.encodedLen = .ok raw.length ∧
        raw.length ≤ maxFrameBytesV1 ∧ ∀ input' : FrameInputV1, input'.Acceptable →
          (input'.frame.encodeRawFrame = .ok raw ↔ input.SameBytes input')) := by
  refine ⟨fun frame => tryNew_ok, fun h => ⟨_, encodeRawFrame_ok.mpr ⟨h.valid, rfl⟩, ?_, ?_, fun input' h' => ?_⟩⟩
  · rw [WireFrameV1.encodedLen, validateShape_ok.mpr h.valid, ok_bind, rawFrame_length]
    exact encodedFrameLen_of_bound h.bounded
  · rw [rawFrame_length]
    exact h.bounded
  · rw [encodeRawFrame_ok, ← rawFrame_eq_iff h h']
    exact ⟨fun hraw => hraw.2, fun hraw => ⟨h'.valid, hraw⟩⟩

end Shapes

section Preimages

/-- A commitment in a transcript: its length and its bytes. -/
def sizedCommitment (commitment : FdCommitmentV1) : Bytes :=
  le16 (UInt16.ofNat commitment.encode.length) ++ commitment.encode

lemma sizedCommitment_delimiting : Delimiting sizedCommitment := by
  intro a b s t h
  simp only [sizedCommitment, List.append_assoc] at h
  obtain ⟨-, hrest⟩ := Delimited.le16 h
  exact commitment_delimiting hrest

lemma commitment_length (commitment : FdCommitmentV1) : commitment.encode.length < 2 ^ 16 := by
  have hrole : commitment.role.encode.length ≤ 6 := by
    cases commitment.role <;> simp [FdRoleV1.encode]
  have hidentity : commitment.identity.encode.length ≤ 65 := by
    cases commitment.identity <;> simp [FdIdentityV1.encode, DescriptorIdentityV1.encode, MemfdSealsV1.encode]
  have hstatus : commitment.status.encode.length = 3 := rfl
  rw [FdCommitmentV1.encode, List.length_append, List.length_append]
  omega

lemma transcriptCommitment_ok {commitment : FdCommitmentV1} {bytes : Bytes} :
    transcriptCommitment commitment = .ok bytes ↔
      commitment.validate = .ok () ∧ bytes = sizedCommitment commitment := by
  simp only [transcriptCommitment, encodedFdCommitmentLenV1, encodeFdCommitmentV1, bind_ok, pure_ok, exists_unit,
    ensure_ok]
  constructor
  · rintro ⟨_, ⟨hvalid, rfl⟩, _, ⟨_, ⟨-, rfl⟩, -, rfl⟩, rfl⟩
    exact ⟨hvalid, rfl⟩
  · rintro ⟨hvalid, rfl⟩
    exact ⟨_, ⟨hvalid, rfl⟩, _, ⟨_, ⟨hvalid, rfl⟩, commitment_length commitment, rfl⟩, rfl⟩

/-- The bytes that a transcript hashes for a frame. -/
def transcriptBytes (frame : WireFrameV1) : Bytes :=
  le16 (UInt16.ofNat transcriptDomainV1.length) ++ transcriptDomainV1 ++ frame.previousHash.val ++
    [frame.direction.wireCode] ++ [frame.phase.wireCode] ++
      le32 (UInt32.ofNat frame.rawFrame.length) ++ frame.rawFrame ++
        frame.credentials.encode ++ [frame.declaredFdCount] ++ frame.fdCommitments.flatMap sizedCommitment

lemma prepareTranscriptBytesV1_ok {sessionId previousHash : Digest} {nextOrdinal : UInt8} {frame : WireFrameV1}
    {bytes : Bytes} : prepareTranscriptBytesV1 sessionId nextOrdinal previousHash frame = .ok bytes ↔
      frame.Valid ∧ nextOrdinal < maxSessionFramesV1 ∧ frame.sessionId = sessionId ∧ frame.ordinal = nextOrdinal ∧
        frame.previousHash = previousHash ∧ bytes = transcriptBytes frame := by
  simp only [prepareTranscriptBytesV1, bind_ok, ensure_ok, pure_ok, exists_unit, validateShape_ok, encodeRawFrame_ok,
    mapM_ok fun c b => transcriptCommitment_ok]
  constructor
  · rintro ⟨hvalid, hlimit, hsession, hordinal, rfl, _, ⟨-, rfl⟩, -, -, _, ⟨-, rfl⟩, rfl⟩
    exact ⟨hvalid, hlimit, hsession, hordinal, rfl, rfl⟩
  · rintro ⟨hvalid, hlimit, hsession, hordinal, rfl, rfl⟩
    have hdomain : transcriptDomainV1.length < 2 ^ 16 := by decide
    have hraw : frame.rawFrame.length < 2 ^ 32 := by
      rw [rawFrame_length]
      exact hvalid.bounded.trans_lt (by decide)
    exact ⟨hvalid, hlimit, hsession, hordinal, rfl, _, ⟨hvalid, rfl⟩, hdomain, hraw, _,
      ⟨hvalid.inventory.1, rfl⟩, rfl⟩

lemma prepareTranscriptBytesV1_inj {sessionId sessionId' previousHash previousHash' : Digest}
    {nextOrdinal nextOrdinal' : UInt8} {frame frame' : WireFrameV1} {bytes : Bytes}
    (h : prepareTranscriptBytesV1 sessionId nextOrdinal previousHash frame = .ok bytes)
    (h' : prepareTranscriptBytesV1 sessionId' nextOrdinal' previousHash' frame' = .ok bytes) :
    frame = frame' ∧ sessionId = sessionId' ∧ nextOrdinal = nextOrdinal' ∧ previousHash = previousHash' := by
  obtain ⟨hvalid, -, hsession, hordinal, hprevious, hbytes⟩ := prepareTranscriptBytesV1_ok.mp h
  obtain ⟨hvalid', -, hsession', hordinal', hprevious', hbytes'⟩ := prepareTranscriptBytesV1_ok.mp h'
  rw [hbytes] at hbytes'
  simp only [transcriptBytes, List.append_assoc] at hbytes'
  obtain ⟨-, hrest⟩ := Delimited.le16 hbytes'
  have hrest := List.append_cancel_left hrest
  obtain ⟨-, hrest⟩ := Delimited.array 32 hrest
  obtain ⟨-, hrest⟩ := Delimited.byte direction_injective hrest
  obtain ⟨-, hrest⟩ := Delimited.byte wireCode_injective hrest
  obtain ⟨hlength, hrest⟩ := Delimited.le32 hrest
  have hraw : frame.rawFrame.length = frame'.rawFrame.length := by
    have hbound : ∀ f : WireFrameV1, f.Valid → f.rawFrame.length < 2 ^ 32 := by
      intro f hf
      rw [rawFrame_length]
      exact hf.bounded.trans_lt (by decide)
    have hnat := congrArg UInt32.toNat hlength
    rwa [UInt32.toNat_ofNat', UInt32.toNat_ofNat', Nat.mod_eq_of_lt (hbound frame hvalid),
      Nat.mod_eq_of_lt (hbound frame' hvalid')] at hnat
  obtain ⟨hframe, hrest⟩ := List.append_inj hrest hraw
  obtain ⟨hcredentials, hrest⟩ := credentials_delimiting hrest
  obtain ⟨hcount, hrest⟩ := Delimited.byte Function.injective_id hrest
  have hfds : frame.fdCommitments.length = frame'.fdCommitments.length := by
    rw [← hvalid.fdCount, ← hvalid'.fdCount]
    exact congrArg UInt8.toNat hcount
  obtain ⟨hcommitments, -⟩ := Delimited.flatMap sizedCommitment_delimiting (s := []) (t := []) hfds (by simpa using hrest)
  obtain ⟨hdirection, hordinals, hphase, hsessions, hpreviouses, -, hbody⟩ := rawFrame_inj hvalid hvalid' hframe
  have hdeclared : frame.declaredBodyLength = frame'.declaredBodyLength := by
    apply UInt32.toNat_inj.mp
    rw [hvalid.bodyLength, hvalid'.bodyLength, hbody]
  have hmagic := hvalid.magic.trans hvalid'.magic.symm
  have hversion := hvalid.version.trans hvalid'.version.symm
  have hancillary : frame.ancillary = frame'.ancillary := by
    rw [hvalid.ancillary, hvalid'.ancillary, hfds]
  refine ⟨?_, ?_, ?_, ?_⟩
  · cases frame
    cases frame'
    simp_all
  · rw [← hsession, ← hsession', hsessions]
  · rw [← hordinal, ← hordinal', hordinals]
  · rw [← hprevious, ← hprevious', hpreviouses]

end Preimages

section Chains

variable (H : Bytes → Digest)

/-- The cursor behind a frame, and the bytes that it hashed for the frame. -/
def TranscriptCursorV1.accept (cursor : TranscriptCursorV1) (frame : WireFrameV1) :
    Except WireErrorV1 (TranscriptCursorV1 × Bytes) := do
  let preimage ← cursor.prepare frame
  pure (preimage.advanceWithExternalDigest (H preimage.bytes), preimage.bytes)

/-- The cursor behind a list of frames, and the bytes that it hashed, last first. -/
def TranscriptCursorV1.acceptAll (cursor : TranscriptCursorV1) (frames : List WireFrameV1) :
    Except WireErrorV1 (TranscriptCursorV1 × List Bytes) :=
  frames.foldlM (fun state frame => do
    let next ← state.1.accept H frame
    pure (next.1, next.2 :: state.2)) (cursor, [])

variable {H}

lemma accept_ok {cursor next : TranscriptCursorV1} {frame : WireFrameV1} {bytes : Bytes}
    (h : cursor.accept H frame = .ok (next, bytes)) :
    prepareTranscriptBytesV1 cursor.sessionId cursor.nextOrdinal cursor.previousHash frame = .ok bytes ∧
      next = ⟨cursor.sessionId, cursor.nextOrdinal + 1, H bytes⟩ := by
  simp only [TranscriptCursorV1.accept, TranscriptCursorV1.prepare, bind_ok, pure_ok] at h
  obtain ⟨_, ⟨_, hbytes, rfl⟩, heq⟩ := h
  obtain ⟨rfl, rfl⟩ := Prod.mk.inj heq
  exact ⟨hbytes, rfl⟩

lemma acceptAll_concat {start final : TranscriptCursorV1} {frames : List WireFrameV1} {frame : WireFrameV1}
    {hashed : List Bytes} (h : start.acceptAll H (frames ++ [frame]) = .ok (final, hashed)) :
    ∃ cursor before bytes, start.acceptAll H frames = .ok (cursor, before) ∧
      cursor.accept H frame = .ok (final, bytes) ∧ hashed = bytes :: before := by
  simp only [TranscriptCursorV1.acceptAll, List.foldlM_append, List.foldlM_cons, List.foldlM_nil, bind_ok, pure_ok] at h
  obtain ⟨⟨cursor, before⟩, hbefore, _, ⟨⟨next, bytes⟩, haccept, rfl⟩, heq⟩ := h
  obtain ⟨rfl, rfl⟩ := Prod.mk.inj heq
  exact ⟨cursor, before, bytes, hbefore, haccept, rfl⟩

lemma chain_of_two {sessionId genesis : Digest} {first second : WireFrameV1} (hfirst : first.Valid)
    (hsecond : second.Valid) (hsession : first.sessionId = sessionId ∧ second.sessionId = sessionId)
    (hordinals : first.ordinal = 0 ∧ second.ordinal = 1)
    (hchain : first.previousHash = genesis ∧ second.previousHash = H (transcriptBytes first)) :
    (TranscriptCursorV1.start sessionId genesis).acceptAll H [first, second] =
      .ok (⟨sessionId, 2, H (transcriptBytes second)⟩, [transcriptBytes second, transcriptBytes first]) := by
  have hprepare : prepareTranscriptBytesV1 sessionId 0 genesis first = .ok (transcriptBytes first) :=
    prepareTranscriptBytesV1_ok.mpr ⟨hfirst, by decide, hsession.1, hordinals.1, hchain.1, rfl⟩
  have hprepare' : prepareTranscriptBytesV1 sessionId (0 + 1) (H (transcriptBytes first)) second =
      .ok (transcriptBytes second) :=
    prepareTranscriptBytesV1_ok.mpr ⟨hsecond, by decide, hsession.2, hordinals.2, hchain.2, rfl⟩
  simp only [TranscriptCursorV1.acceptAll, List.foldlM_cons, TranscriptCursorV1.accept, TranscriptCursorV1.prepare,
    TranscriptCursorV1.start, hprepare, ok_bind, pure_bind, TranscriptPreimageV1.advanceWithExternalDigest, hprepare']
  rfl

/-- Among the hashed strings of two transcripts, no two different ones have one digest. -/
def NoCollision (H : Bytes → Digest) (hashed hashed' : List Bytes) : Prop :=
  ∀ b ∈ hashed, ∀ b' ∈ hashed', H b = H b' → b = b'

end Chains

end Eip0045.Wire
