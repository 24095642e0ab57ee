import Eip0045.Provider.Ancillary

/-! What a receive of ancillary data accepts, and the descriptors that it owns. -/

namespace Eip0045.Ancillary

open Bytes Checked Windows Wire

section Clean

/-- What a record of a block without errors stands for. -/
inductive CleanRecord
  | credentials (credentials : ExpectedPeerCredentialsV1)
  | rights (fds : List Int32)

namespace CleanRecord

def Valid : CleanRecord → Prop
  | credentials _ => True
  | rights fds => fds ≠ [] ∧ ∀ fd ∈ fds, 0 ≤ fd

def messageKind : CleanRecord → Int32
  | credentials _ => scmCredentialsV1
  | rights _ => scmRightsV1

def payload : CleanRecord → Bytes
  | credentials c => le32 c.process ++ le32 c.user ++ le32 c.group
  | rights fds => fds.flatMap fun fd => le32 fd.toUInt32

def order : CleanRecord → ControlRecordKindV1
  | credentials _ => .credentials
  | rights _ => .rights

def push (parsed : ParsedControlV1) : CleanRecord → ParsedControlV1
  | credentials c => { parsed with
      credentials := parsed.credentials ++ [c]
      order := parsed.order ++ [ControlRecordKindV1.credentials] }
  | rights fds => { parsed with
      rightsRecordCount := parsed.rightsRecordCount + 1
      rawFds := parsed.rawFds ++ fds
      order := parsed.order ++ [ControlRecordKindV1.rights] }

def bytes (record : CleanRecord) : Bytes :=
  let length := 16 + record.payload.length
  le32 (UInt32.ofNat length) ++ List.replicate 4 0 ++ le32 solSocketV1.toUInt32 ++
    le32 record.messageKind.toUInt32 ++ record.payload ++ List.replicate (align length - length) 0

lemma bytes_length (record : CleanRecord) : record.bytes.length = align (16 + record.payload.length) := by
  have halign := align_bounds (16 + record.payload.length)
  simp [bytes]
  omega

end CleanRecord

lemma any_ne_zero {b : Bytes} : b.any (· != 0) = false ↔ b = List.replicate b.length 0 := by
  rw [List.any_eq_false, List.eq_replicate_iff]
  simp

lemma ControlRecord.encode_clean {r : ControlRecord} {record : CleanRecord} (hpadded : r.padded = false)
    (hlevel : r.level = solSocketV1) (hkind : r.kind = record.messageKind) (hpayload : r.payload = record.payload) :
    r.encode = record.bytes := by
  rw [ControlRecord.padded, Bool.or_eq_false_iff, any_ne_zero, any_ne_zero, ByteArr.val_length] at hpadded
  have hlength : r.padding.length = align (16 + r.payload.length) - (16 + r.payload.length) := by
    have := r.padding_length
    omega
  rw [ControlRecord.encode, CleanRecord.bytes, hpadded.1, hpadded.2, hlength, ControlRecord.length, hlevel, hkind,
    hpayload]

lemma CleanRecord.exists_record {record : CleanRecord} (h : 16 + record.payload.length < 2 ^ 32) :
    ∃ r : ControlRecord, r.padded = false ∧ r.level = solSocketV1 ∧ r.kind = record.messageKind ∧
      r.payload = record.payload := by
  have halign := align_bounds (16 + record.payload.length)
  have hzeros : ∀ n, (List.replicate n (0 : UInt8)).any (· != 0) = false := fun n =>
    any_ne_zero.mpr (by rw [List.length_replicate])
  have hpadding : 16 + record.payload.length +
      (List.replicate (align (16 + record.payload.length) - (16 + record.payload.length)) (0 : UInt8)).length =
        align (16 + record.payload.length) := by
    rw [List.length_replicate]
    omega
  refine ⟨⟨ByteArr.zero 4, solSocketV1, record.messageKind, record.payload, List.replicate _ 0, h, hpadding⟩, ?_,
    rfl, rfl, rfl⟩
  rw [ControlRecord.padded, Bool.or_eq_false_iff]
  exact ⟨rfl, hzeros _⟩

lemma descriptors_payload (fds : List Int32) : descriptors (CleanRecord.rights fds).payload = fds := by
  rw [descriptors, CleanRecord.payload, chunksExact_flatMap (by decide) fun fd : Int32 => le32_length fd.toUInt32,
    List.map_map]
  have hid : ((fun chunk => (ofLe32 chunk).toInt32) ∘ fun fd : Int32 => le32 fd.toUInt32) = id := by
    funext fd
    simp
  rw [hid, List.map_id]

lemma payload_descriptors {payload : Bytes} (h : 4 ∣ payload.length) :
    (CleanRecord.rights (descriptors payload)).payload = payload := by
  have hchunks : ∀ chunk ∈ chunksExact payload 4, le32 (ofLe32 chunk).toInt32.toUInt32 = chunk := by
    intro chunk hchunk
    rw [UInt32.toUInt32_toInt32, le32_ofLe32 (chunk_length hchunk)]
  rw [CleanRecord.payload, descriptors, List.flatMap_def, List.map_map]
  conv_rhs => rw [← chunksExact_flatten h]
  congr 1
  conv_rhs => rw [← List.map_id (chunksExact payload 4)]
  exact List.map_congr_left hchunks

end Clean

section CleanPayloads

lemma pushCredentials_clean {outcome : ControlParseOutcomeV1} {processId userId groupId : UInt32}
    (h : (pushCredentials (pushOrder outcome .credentials) processId userId groupId).error = none) :
    outcome.error = none ∧ ∃ c : ExpectedPeerCredentialsV1, c.process = processId ∧ c.user = userId ∧
      c.group = groupId ∧ pushCredentials (pushOrder outcome .credentials) processId userId groupId =
        ⟨(CleanRecord.credentials c).push outcome.parsed, none⟩ := by
  rw [pushCredentials, ExpectedPeerCredentialsV1.tryNew] at h ⊢
  split_ifs at h ⊢ with hprocess
  · refine ⟨h, ⟨processId, userId, groupId, hprocess⟩, rfl, rfl, rfl, ?_⟩
    rw [← h]
    rfl
  · exact absurd h (recordError_ne_none _ _)

lemma pushCredentials_of_clean (parsed : ParsedControlV1) (c : ExpectedPeerCredentialsV1) :
    pushCredentials (pushOrder ⟨parsed, none⟩ .credentials) c.process c.user c.group =
      ⟨(CleanRecord.credentials c).push parsed, none⟩ := by
  rw [pushCredentials, ExpectedPeerCredentialsV1.tryNew, dif_pos c.positive]
  rfl

lemma parseCredentialsPayload_clean {outcome outcome' : ControlParseOutcomeV1} {payload : Bytes}
    (h : parseCredentialsPayload outcome payload = .ok outcome') (hclean : outcome'.error = none) :
    outcome.error = none ∧ ∃ c, payload = (CleanRecord.credentials c).payload ∧
      outcome' = ⟨(CleanRecord.credentials c).push outcome.parsed, none⟩ := by
  by_cases hlength : payload.length = ucredBytesV1
  · rw [parseCredentialsPayload_of_length outcome hlength] at h
    cases h
    have hword : ∀ i, i + 4 ≤ 12 → le32 (ofLe32 (slice payload i 4)) = slice payload i 4 := fun i hi =>
      le32_ofLe32 (slice_length (by rw [hlength]; exact hi))
    obtain ⟨hnone, c, hprocess, huser, hgroup, hpush⟩ := pushCredentials_clean hclean
    refine ⟨hnone, c, ?_, hpush⟩
    rw [CleanRecord.payload, hprocess, huser, hgroup, hword 0 (by decide), hword 4 (by decide), hword 8 (by decide),
      slice_append payload rfl, slice_append payload rfl]
    change payload = slice payload 0 ucredBytesV1
    rw [← hlength, slice_all]
  · rw [parseCredentialsPayload, if_pos hlength] at h
    cases h
    exact absurd hclean (recordError_ne_none _ _)

lemma parseCredentialsPayload_of_clean (parsed : ParsedControlV1) (c : ExpectedPeerCredentialsV1) :
    parseCredentialsPayload ⟨parsed, none⟩ (CleanRecord.credentials c).payload =
      .ok ⟨(CleanRecord.credentials c).push parsed, none⟩ := by
  have hprocess : slice (CleanRecord.credentials c).payload 0 4 = le32 c.process := by
    simp [slice, CleanRecord.payload]
  have huser : slice (CleanRecord.credentials c).payload 4 4 = le32 c.user := by
    simp [slice, CleanRecord.payload]
  have hgroup : slice (CleanRecord.credentials c).payload 8 4 = le32 c.group := by
    simp [slice, CleanRecord.payload, List.drop_append, List.drop_eq_nil_of_le]
  have hlength : (CleanRecord.credentials c).payload.length = ucredBytesV1 := by
    simp [CleanRecord.payload, ucredBytesV1]
  rw [parseCredentialsPayload_of_length _ hlength, hprocess, huser, hgroup, ofLe32_le32, ofLe32_le32, ofLe32_le32,
    pushCredentials_of_clean]

lemma foldl_pushDescriptor_clean {chunks : List Bytes} {outcome : ControlParseOutcomeV1}
    (hchunks : ∀ chunk ∈ chunks, chunk.length = 4) (h : (chunks.foldl pushDescriptor outcome).error = none) :
    outcome.error = none ∧ ∀ chunk ∈ chunks, 0 ≤ (ofLe32 chunk).toInt32 := by
  induction chunks generalizing outcome with
  | nil => exact ⟨h, fun _ hmem => absurd hmem List.not_mem_nil⟩
  | cons chunk chunks ih =>
    obtain ⟨hchunk, hrest⟩ := List.forall_mem_cons.mp hchunks
    obtain ⟨hpush, hfds⟩ := ih hrest h
    rw [pushDescriptor, readI32V1, if_pos hchunk] at hpush
    dsimp only at hpush
    split_ifs at hpush with hfd
    · exact ⟨hpush, List.forall_mem_cons.mpr ⟨hfd, hfds⟩⟩
    · exact absurd hpush (recordError_ne_none _ _)

lemma foldl_pushDescriptor_of_clean {chunks : List Bytes} (outcome : ControlParseOutcomeV1)
    (hchunks : ∀ chunk ∈ chunks, chunk.length = 4) (h : ∀ chunk ∈ chunks, 0 ≤ (ofLe32 chunk).toInt32) :
    chunks.foldl pushDescriptor outcome = { outcome with parsed := { outcome.parsed with
      rawFds := outcome.parsed.rawFds ++ chunks.map fun chunk => (ofLe32 chunk).toInt32 } } := by
  induction chunks generalizing outcome with
  | nil => simp
  | cons chunk chunks ih =>
    obtain ⟨hchunk, hrest⟩ := List.forall_mem_cons.mp hchunks
    obtain ⟨hfd, hfds⟩ := List.forall_mem_cons.mp h
    have hpush : pushDescriptor outcome chunk = { outcome with parsed := { outcome.parsed with
        rawFds := outcome.parsed.rawFds ++ [(ofLe32 chunk).toInt32] } } := by
      rw [pushDescriptor, readI32V1, if_pos hchunk]
      dsimp only
      rw [if_pos hfd]
    rw [List.foldl_cons, hpush, ih _ hrest hfds, List.map_cons]
    simp

lemma parseRightsPayload_clean {outcome : ControlParseOutcomeV1} {payload : Bytes}
    (hclean : (parseRightsPayload outcome payload).error = none) : outcome.error = none ∧
      ∃ fds, (CleanRecord.rights fds).Valid ∧ payload = (CleanRecord.rights fds).payload ∧
        parseRightsPayload outcome payload = ⟨(CleanRecord.rights fds).push outcome.parsed, none⟩ := by
  rw [parseRightsPayload] at hclean ⊢
  split_ifs at hclean ⊢ with hshape
  · exact absurd hclean (recordError_ne_none _ _)
  · obtain ⟨hnil, hwhole⟩ := not_or.mp hshape
    rw [not_not] at hwhole
    have hchunks : ∀ chunk ∈ chunksExact payload 4, chunk.length = 4 := fun chunk => chunk_length
    obtain ⟨hnone, hfds⟩ := foldl_pushDescriptor_clean hchunks hclean
    refine ⟨hnone, descriptors payload, ⟨?_, ?_⟩, (payload_descriptors hwhole).symm, ?_⟩
    · intro hempty
      rw [← payload_descriptors hwhole, hempty] at hnil
      exact hnil rfl
    · intro fd hfd
      obtain ⟨chunk, hchunk, rfl⟩ := List.mem_map.mp hfd
      exact hfds chunk hchunk
    · rw [foldl_pushDescriptor_of_clean _ hchunks hfds, ← hnone]
      rfl

lemma parseRightsPayload_of_clean (parsed : ParsedControlV1) {fds : List Int32} (h : (CleanRecord.rights fds).Valid) :
    parseRightsPayload ⟨parsed, none⟩ (CleanRecord.rights fds).payload =
      ⟨(CleanRecord.rights fds).push parsed, none⟩ := by
  have hlength : (CleanRecord.rights fds).payload.length = fds.length * 4 :=
    flatMap_length (fun fd : Int32 => le32_length fd.toUInt32) fds
  have hshape : ¬((CleanRecord.rights fds).payload = [] ∨ ¬ 4 ∣ (CleanRecord.rights fds).payload.length) := by
    rw [hlength, not_or, not_not]
    refine ⟨fun hempty => h.1 ?_, Nat.dvd_mul_left 4 _⟩
    rw [hempty, List.length_nil] at hlength
    exact List.length_eq_zero_iff.mp (by omega)
  have hfds : ∀ chunk ∈ chunksExact (CleanRecord.rights fds).payload 4, 0 ≤ (ofLe32 chunk).toInt32 := by
    intro chunk hchunk
    apply h.2
    rw [← descriptors_payload fds]
    exact List.mem_map_of_mem hchunk
  rw [parseRightsPayload, if_neg hshape, foldl_pushDescriptor_of_clean _ (fun chunk => chunk_length) hfds]
  have hdescriptors := descriptors_payload fds
  rw [descriptors] at hdescriptors
  rw [hdescriptors]
  rfl

lemma parseRecordPayloadV1_clean {outcome outcome' : ControlParseOutcomeV1} {level kind : Int32} {payload : Bytes}
    (h : parseRecordPayloadV1 outcome level kind payload = .ok outcome') (hclean : outcome'.error = none) :
    outcome.error = none ∧ level = solSocketV1 ∧ ∃ record : CleanRecord, record.Valid ∧ kind = record.messageKind ∧
      payload = record.payload ∧ outcome' = ⟨record.push outcome.parsed, none⟩ := by
  rw [parseRecordPayloadV1] at h
  split_ifs at h with hcredentials hrights
  · obtain ⟨hnone, c, hpayload, hpush⟩ := parseCredentialsPayload_clean h hclean
    exact ⟨hnone, hcredentials.1, .credentials c, trivial, hcredentials.2, hpayload, hpush⟩
  · cases h
    obtain ⟨hnone, fds, hvalid, hpayload, hpush⟩ := parseRightsPayload_clean hclean
    exact ⟨hnone, hrights.1, .rights fds, hvalid, hrights.2, hpayload, hpush⟩
  · cases h
    exact absurd hclean (recordError_ne_none _ _)

lemma parseRecordPayloadV1_of_clean (parsed : ParsedControlV1) {record : CleanRecord} (h : record.Valid) :
    parseRecordPayloadV1 ⟨parsed, none⟩ solSocketV1 record.messageKind record.payload =
      .ok ⟨record.push parsed, none⟩ := by
  cases record with
  | credentials c => exact parseCredentialsPayload_of_clean parsed c
  | rights fds => exact congrArg Except.ok (parseRightsPayload_of_clean parsed h)

end CleanPayloads

section CleanLoop

lemma parseLoop_clean {control : Bytes} (hcontrol : control.length ≤ maxControlBytesV1)
    {outcome outcome' : ControlParseOutcomeV1} {offset : ℕ} (hoffset : offset ≤ control.length)
    (h : parseLoop control outcome offset = some outcome') (hclean : outcome'.error = none) :
    outcome.error = none ∧ ∃ records : List CleanRecord, (∀ r ∈ records, r.Valid) ∧
      control.drop offset = records.flatMap CleanRecord.bytes ∧
        outcome'.parsed = records.foldl CleanRecord.push outcome.parsed := by
  induction hleft : control.length - offset using Nat.strong_induction_on generalizing outcome offset with
  | _ left ih =>
    rcases hoffset.lt_or_eq with hlt | rfl
    · cases hstep : parseStep control outcome offset with
      | error f =>
        obtain ⟨outcome₁, rfl, herror⟩ := parseStep_recorded hcontrol hstep
        rw [parseLoop_stop hlt hstep] at h
        cases h
        exact absurd hclean herror
      | ok result =>
        obtain ⟨outcome₁, next⟩ := result
        have hadvances := parseStep_advances hstep
        obtain ⟨r, hat, rfl, hpayload⟩ := parseStep_ok hcontrol hstep
        rw [parseLoop_next hlt hstep] at h
        obtain ⟨hnone₁, records, hvalid, hdrop, hparsed⟩ := ih _ (by omega) hat.1 h rfl
        obtain ⟨hnone, hlevel, record, hrecord, hkind, hpayload', rfl⟩ := parseRecordPayloadV1_clean hpayload hnone₁
        obtain ⟨hpadded, hnone⟩ := recordErrorIf_none.mp hnone
        refine ⟨hnone, record :: records, List.forall_mem_cons.mpr ⟨hrecord, hvalid⟩, ?_, ?_⟩
        · rw [List.flatMap_cons, ← ControlRecord.encode_clean hpadded hlevel hkind hpayload', ← hdrop]
          exact ControlRecord.drop_at hat
        · rw [hparsed, List.foldl_cons, recordErrorIf_parsed]
    · rw [parseLoop_end le_rfl] at h
      cases h
      exact ⟨hclean, [], by simp, by simp, rfl⟩

lemma parseLoop_of_clean {control : Bytes} (hcontrol : control.length ≤ maxControlBytesV1)
    {records : List CleanRecord} (hvalid : ∀ r ∈ records, r.Valid) (front : Bytes)
    (h : control = front ++ records.flatMap CleanRecord.bytes) (parsed : ParsedControlV1) :
    parseLoop control ⟨parsed, none⟩ front.length = some ⟨records.foldl CleanRecord.push parsed, none⟩ := by
  induction records generalizing front parsed with
  | nil =>
    rw [List.flatMap_nil, List.append_nil] at h
    exact parseLoop_end (by rw [h])
  | cons record records ih =>
    obtain ⟨hrecord, hrecords⟩ := List.forall_mem_cons.mp hvalid
    rw [List.flatMap_cons, ← List.append_assoc] at h
    have halign := align_bounds (16 + record.payload.length)
    have hlength : record.bytes.length ≤ control.length := by
      rw [h, List.length_append, List.length_append]
      omega
    rw [record.bytes_length] at hlength
    have hfits : 16 + record.payload.length < 2 ^ 32 :=
      (halign.1.trans (hlength.trans hcontrol)).trans_lt (by decide)
    obtain ⟨r, hpadded, hlevel, hkind, hpayload⟩ := CleanRecord.exists_record hfits
    have hencode := ControlRecord.encode_clean hpadded hlevel hkind hpayload
    rw [← hencode] at h
    have hat : r.At control front.length := h ▸ ControlRecord.at_append front _ r
    have hoffset : front.length < control.length := by
      have hbound := hat.1
      rw [hencode, record.bytes_length] at hbound
      omega
    have hstep := parseStep_of_at ⟨parsed, none⟩ hcontrol hat
    rw [hpadded, hlevel, hkind, hpayload, ControlParseOutcomeV1.recordErrorIf, if_neg Bool.false_ne_true,
      parseRecordPayloadV1_of_clean parsed hrecord, ok_bind, ← List.length_append] at hstep
    rw [parseLoop_next hoffset hstep]
    exact ih hrecords _ h (record.push parsed)

/-- The parser reads a block without an error exactly when it is a block of clean records. -/
theorem parseControlV1_clean {control : Bytes} {parsed : ParsedControlV1} :
    parseControlV1 control = some ⟨parsed, none⟩ ↔ control.length ≤ maxControlBytesV1 ∧
      ∃ records : List CleanRecord, (∀ r ∈ records, r.Valid) ∧ control = records.flatMap CleanRecord.bytes ∧
        parsed = records.foldl CleanRecord.push .empty := by
  rw [parseControlV1]
  constructor
  · intro h
    split_ifs at h with hlength
    · exact absurd (congrArg ControlParseOutcomeV1.error (Option.some.inj h)) (recordError_ne_none _ _)
    · obtain ⟨-, records, hvalid, hdrop, hparsed⟩ := parseLoop_clean (Nat.le_of_not_lt hlength) (Nat.zero_le _) h rfl
      exact ⟨Nat.le_of_not_lt hlength, records, hvalid, hdrop, hparsed⟩
  · rintro ⟨hlength, records, hvalid, hcontrol, rfl⟩
    rw [if_neg (Nat.not_lt_of_le hlength)]
    exact parseLoop_of_clean hlength hvalid [] hcontrol .empty

end CleanLoop

section Ownership

def Ownership.Sound (ownership : Ownership) : Prop := ownership.rawSeen = ownership.owned ∧ ownership.owned.Nodup

lemma Ownership.take_sound {ownership : Ownership} (h : ownership.Sound) (fd : Int32) : (ownership.take fd).Sound ∧
    ∀ other, other ∈ (ownership.take fd).owned ↔ other ∈ ownership.owned ∨ (other = fd ∧ 0 ≤ fd) := by
  obtain ⟨hseen, hnodup⟩ := h
  rw [Ownership.take]
  split_ifs with hnegative hmem
  · have hfd : ¬ 0 ≤ fd := Int32.not_le.mpr hnegative
    exact ⟨⟨hseen, hnodup⟩, fun other => by simp [Ownership.getOrInsert, hfd]⟩
  · rw [hseen] at hmem
    refine ⟨⟨hseen, hnodup⟩, fun other => ⟨Or.inl, fun hother => ?_⟩⟩
    rcases hother with hother | hother
    · exact hother
    · rw [hother.1]
      exact hmem
  · rw [hseen] at hmem
    have hfd : 0 ≤ fd := Int32.not_lt.mp hnegative
    have hnew : (ownership.owned ++ [fd]).Nodup := List.nodup_append_comm.mp (List.nodup_cons.mpr ⟨hmem, hnodup⟩)
    exact ⟨⟨congrArg (· ++ [fd]) hseen, hnew⟩, fun other => by simp [hfd]⟩

lemma Ownership.foldl_sound (fds : List Int32) {ownership : Ownership} (h : ownership.Sound) :
    (fds.foldl Ownership.take ownership).Sound ∧ ∀ other, other ∈ (fds.foldl Ownership.take ownership).owned ↔
      other ∈ ownership.owned ∨ (other ∈ fds ∧ 0 ≤ other) := by
  induction fds generalizing ownership with
  | nil => exact ⟨h, by simp⟩
  | cons fd fds ih =>
    obtain ⟨hstep, hmem⟩ := ownership.take_sound h fd
    obtain ⟨hrun, hmems⟩ := ih hstep
    refine ⟨hrun, fun other => ?_⟩
    rw [List.foldl_cons, hmems, hmem, List.mem_cons]
    constructor
    · rintro ((hother | ⟨rfl, hfd⟩) | hother)
      · exact Or.inl hother
      · exact Or.inr ⟨Or.inl rfl, hfd⟩
      · exact Or.inr ⟨Or.inr hother.1, hother.2⟩
    · rintro (hother | ⟨rfl | hother, hfd⟩)
      · exact Or.inl (Or.inl hother)
      · exact Or.inl (Or.inr ⟨rfl, hfd⟩)
      · exact Or.inr ⟨hother, hfd⟩

lemma Ownership.foldl_firstError {fds : List Int32} {ownership : Ownership} (h : ownership.firstError ≠ none) :
    (fds.foldl Ownership.take ownership).firstError ≠ none := by
  induction fds generalizing ownership with
  | nil => exact h
  | cons fd fds ih =>
    apply ih
    rw [Ownership.take]
    split_ifs
    · simp [Ownership.getOrInsert]
    · simp [Ownership.getOrInsert]
    · exact h

lemma Ownership.foldl_clean {fds : List Int32} {ownership : Ownership} (h : ownership.Sound)
    (hnone : ownership.firstError = none) : (fds.foldl Ownership.take ownership).firstError = none ↔
      (∀ fd ∈ fds, 0 ≤ fd) ∧ (ownership.owned ++ fds).Nodup := by
  induction fds generalizing ownership with
  | nil => simp [hnone, h.2]
  | cons fd fds ih =>
    rw [List.foldl_cons, List.forall_mem_cons]
    by_cases hnew : 0 ≤ fd ∧ fd ∉ ownership.owned
    · have htake : ownership.take fd = { ownership with
          rawSeen := ownership.rawSeen ++ [fd]
          owned := ownership.owned ++ [fd] } := by
        rw [Ownership.take, if_neg (Int32.not_lt.mpr hnew.1), h.1, if_neg hnew.2]
      have hstep := (ownership.take_sound h fd).1
      rw [htake] at hstep ⊢
      rw [ih hstep hnone, List.append_assoc]
      simp [hnew.1]
    · have herror : (ownership.take fd).firstError ≠ none := by
        rw [Ownership.take, h.1]
        split_ifs with hnegative hmem
        · simp [Ownership.getOrInsert]
        · simp [Ownership.getOrInsert]
        · exact absurd ⟨Int32.not_lt.mp hnegative, hmem⟩ hnew
      constructor
      · exact fun hrun => absurd hrun (foldl_firstError herror)
      · rintro ⟨⟨hfd, -⟩, hnodup⟩
        refine absurd ⟨hfd, fun hmem => ?_⟩ hnew
        exact (List.nodup_append.mp hnodup).2.2 fd hmem fd List.mem_cons_self rfl

lemma Ownership.foldl_owned {fds : List Int32} {ownership : Ownership} (h : ownership.Sound)
    (hfds : ∀ fd ∈ fds, 0 ≤ fd) (hnodup : (ownership.owned ++ fds).Nodup) :
    (fds.foldl Ownership.take ownership).owned = ownership.owned ++ fds := by
  induction fds generalizing ownership with
  | nil => simp
  | cons fd fds ih =>
    obtain ⟨hfd, hrest⟩ := List.forall_mem_cons.mp hfds
    have hmem : fd ∉ ownership.owned := fun hmem =>
      (List.nodup_append.mp hnodup).2.2 fd hmem fd List.mem_cons_self rfl
    have htake : ownership.take fd = { ownership with
        rawSeen := ownership.rawSeen ++ [fd]
        owned := ownership.owned ++ [fd] } := by
      rw [Ownership.take, if_neg (Int32.not_lt.mpr hfd), h.1, if_neg hmem]
    have hstep := (ownership.take_sound h fd).1
    rw [htake] at hstep
    rw [List.foldl_cons, htake, ih hstep hrest (by simpa using hnodup)]
    simp

lemma start_sound : Ownership.Sound ⟨[], [], none⟩ := ⟨rfl, List.nodup_nil⟩

end Ownership

section Flags

lemma and_bit (flags bit : UInt32) {i : ℕ} (h : bit.toNat = 2 ^ i) : flags &&& bit = 0 ∨ flags &&& bit = bit := by
  have hand : (flags &&& bit).toNat = (flags.toNat.testBit i).toNat * 2 ^ i := by
    rw [UInt32.toNat_and, h, Nat.and_two_pow]
  cases hbit : flags.toNat.testBit i with
  | false =>
    left
    apply UInt32.toNat_inj.mp
    rw [hand, hbit]
    simp
  | true =>
    right
    apply UInt32.toNat_inj.mp
    rw [hand, hbit, h]
    simp

lemma and_masks {flags a b : UInt32} (h : flags &&& ~~~(a ||| b) = 0) : flags = (flags &&& a) ||| (flags &&& b) := by
  have hbits : flags.toBitVec &&& ~~~(a ||| b).toBitVec = 0 := congrArg UInt32.toBitVec h
  have hmask : flags.toBitVec = flags.toBitVec &&& (a ||| b).toBitVec := by
    ext i hi
    have hbit := congrArg (fun v => v.getLsbD i) hbits
    simp [hi] at hbit ⊢
    grind
  apply UInt32.toBitVec_inj.mp
  rw [hmask, UInt32.toBitVec_or, UInt32.toBitVec_or, UInt32.toBitVec_and, UInt32.toBitVec_and,
    BitVec.and_or_distrib_left]

lemma validateEnvelopeV1_ok {expectation : StrictReceiveExpectationV1} {envelope : MessageEnvelopeV1} :
    validateEnvelopeV1 expectation envelope = .ok () ↔
      (envelope.returnedFlags = msgCmsgCloexecReturnedV1 ∨
        envelope.returnedFlags = msgCmsgCloexecReturnedV1 ||| msgEorV1) ∧
          envelope.receivedLength = expectation.frameLength := by
  simp only [validateEnvelopeV1, bind_ok, ensure_ok, exists_unit]
  obtain ⟨length, flags⟩ := envelope
  dsimp only
  constructor
  · rintro ⟨-, -, hcloexec, hreviewed, hlength⟩
    refine ⟨?_, hlength⟩
    have hflags := and_masks hreviewed
    rw [(and_bit flags msgCmsgCloexecReturnedV1 (i := 30) rfl).resolve_left hcloexec] at hflags
    rcases and_bit flags msgEorV1 (i := 7) rfl with heor | heor
    · rw [heor] at hflags
      exact Or.inl (hflags.trans rfl)
    · rw [heor] at hflags
      exact Or.inr hflags
  · rintro ⟨rfl | rfl, hlength⟩
    · exact ⟨by decide, by decide, by decide, by decide, hlength⟩
    · exact ⟨by decide, by decide, by decide, by decide, hlength⟩

end Flags

section Exactness

lemma soleCredentials_ok {credentials : List ExpectedPeerCredentialsV1} {sole : ExpectedPeerCredentialsV1} :
    soleCredentials credentials = .ok sole ↔ credentials = [sole] := by
  rw [soleCredentials.eq_def]
  split
  · simp
  · simp_all

lemma refuseRecorded_ok {error : Option AncillaryReceiveErrorV1} : refuseRecorded error = .ok () ↔ error = none := by
  cases error <;> simp [refuseRecorded]

structure ParsedControlV1.Expected (expectation : StrictReceiveExpectationV1) (parsed : ParsedControlV1) : Prop where
  credentials : parsed.credentials = [expectation.credentials]
  rightsRecordCount : parsed.rightsRecordCount = if expectation.orderedRoles = [] then 0 else 1
  order : parsed.order = if expectation.orderedRoles = [] then [.credentials] else [.credentials, .rights]
  rawFds : parsed.rawFds.length = expectation.orderedRoles.length

lemma validateParsedV1_ok {expectation : StrictReceiveExpectationV1} {envelope : MessageEnvelopeV1}
    {outcome : ControlParseOutcomeV1} {validated : ValidatedAncillaryV1} :
    validateParsedV1 expectation envelope outcome = .ok validated ↔
      validateEnvelopeV1 expectation envelope = .ok () ∧ outcome.error = none ∧
        outcome.parsed.Expected expectation ∧
          validated = ⟨expectation.credentials, outcome.parsed.rawFds, expectation.orderedRoles⟩ := by
  have horder : expectedOrder (if expectation.orderedRoles = [] then 0 else 1) =
      if expectation.orderedRoles = [] then [.credentials] else [.credentials, .rights] := by
    rw [expectedOrder]
    split_ifs <;> simp_all
  simp only [validateParsedV1, bind_ok, exists_unit, refuseRecorded_ok, soleCredentials_ok, ensure_ok, pure_ok, horder]
  constructor
  · rintro ⟨henvelope, hnone, c, hc, hrights, horder, rfl, hfds, rfl⟩
    exact ⟨henvelope, hnone, ⟨hc, hrights, horder, hfds⟩, rfl⟩
  · rintro ⟨henvelope, hnone, hparsed, rfl⟩
    exact ⟨henvelope, hnone, _, hparsed.credentials, hparsed.rightsRecordCount, hparsed.order, rfl, hparsed.rawFds, rfl⟩

/-- The records of the block that a receive expects, over its descriptors. -/
def expectedRecords (credentials : ExpectedPeerCredentialsV1) (fds : List Int32) : List CleanRecord :=
  .credentials credentials :: if fds = [] then [] else [.rights fds]

/-- The block byte for byte: one credentials record and, where there are descriptors, one rights
record of them. -/
def expectedBlock (credentials : ExpectedPeerCredentialsV1) (fds : List Int32) : Bytes :=
  (CleanRecord.credentials credentials).bytes ++ if fds = [] then [] else (CleanRecord.rights fds).bytes

lemma flatMap_expectedRecords (credentials : ExpectedPeerCredentialsV1) (fds : List Int32) :
    (expectedRecords credentials fds).flatMap CleanRecord.bytes = expectedBlock credentials fds := by
  rw [expectedRecords, expectedBlock, List.flatMap_cons]
  split_ifs <;> simp

lemma foldl_push_order (records : List CleanRecord) (parsed : ParsedControlV1) :
    (records.foldl CleanRecord.push parsed).order = parsed.order ++ records.map CleanRecord.order := by
  induction records generalizing parsed with
  | nil => simp
  | cons record records ih =>
    rw [List.foldl_cons, ih, List.map_cons]
    cases record <;> simp [CleanRecord.push, CleanRecord.order]

lemma CleanRecord.of_order {record : CleanRecord} : (record.order = .credentials → ∃ c, record = .credentials c) ∧
    (record.order = .rights → ∃ fds, record = .rights fds) := by
  cases record with
  | credentials c => exact ⟨fun _ => ⟨c, rfl⟩, fun h => (by cases h)⟩
  | rights fds => exact ⟨fun h => (by cases h), fun _ => ⟨fds, rfl⟩⟩

lemma expected_iff {expectation : StrictReceiveExpectationV1} {records : List CleanRecord}
    (hvalid : ∀ r ∈ records, r.Valid) : (records.foldl CleanRecord.push .empty).Expected expectation ↔
      ∃ fds, records = expectedRecords expectation.credentials fds ∧
        fds.length = expectation.orderedRoles.length := by
  constructor
  · intro hexpected
    have horder := hexpected.order
    have hcredentials := hexpected.credentials
    have hfds := hexpected.rawFds
    rw [foldl_push_order, ParsedControlV1.empty, List.nil_append] at horder
    split_ifs at horder with hroles
    · obtain ⟨record, rfl, hrecord⟩ := List.map_eq_singleton_iff.mp horder
      obtain ⟨c, rfl⟩ := CleanRecord.of_order.1 hrecord
      cases hcredentials
      exact ⟨[], rfl, hfds⟩
    · obtain ⟨record, rest, rfl, hrecord, hrest⟩ := List.map_eq_cons_iff.mp horder
      obtain ⟨record', rfl, hrecord'⟩ := List.map_eq_singleton_iff.mp hrest
      obtain ⟨c, rfl⟩ := CleanRecord.of_order.1 hrecord
      obtain ⟨fds, rfl⟩ := CleanRecord.of_order.2 hrecord'
      cases hcredentials
      have hne : fds ≠ [] := (hvalid _ (List.mem_cons_of_mem _ List.mem_cons_self)).1
      exact ⟨fds, by rw [expectedRecords, if_neg hne], hfds⟩
  · rintro ⟨fds, rfl, hlength⟩
    have hnil : fds = [] ↔ expectation.orderedRoles = [] := by
      rw [← List.length_eq_zero_iff, hlength, List.length_eq_zero_iff]
    rw [expectedRecords]
    split_ifs with hfds
    · have hroles := hnil.mp hfds
      exact ⟨rfl, by rw [if_pos hroles]; rfl, by rw [if_pos hroles]; rfl, by rw [hroles]; rfl⟩
    · have hroles := (not_congr hnil).mp hfds
      exact ⟨rfl, by rw [if_neg hroles]; rfl, by rw [if_neg hroles]; rfl, hlength⟩

lemma foldl_expectedRecords (credentials : ExpectedPeerCredentialsV1) (fds : List Int32) :
    ((expectedRecords credentials fds).foldl CleanRecord.push .empty).rawFds = fds := by
  rw [expectedRecords]
  split_ifs with hfds
  · exact hfds.symm
  · rfl

structure Exact (expectation : StrictReceiveExpectationV1) (envelope : MessageEnvelopeV1) (control : Bytes)
    (fds : List Int32) : Prop where
  flags : envelope.returnedFlags = msgCmsgCloexecReturnedV1 ∨
    envelope.returnedFlags = msgCmsgCloexecReturnedV1 ||| msgEorV1
  length : envelope.receivedLength = expectation.frameLength
  count : fds.length = expectation.orderedRoles.length
  distinct : fds.Nodup
  nonnegative : ∀ fd ∈ fds, 0 ≤ fd
  block : control = expectedBlock expectation.credentials fds

def exactFrame (expectation : StrictReceiveExpectationV1) (fds : List Int32) : ReceivedFrameV1 :=
  ⟨expectation.frameLength, expectation.credentials, List.zipWith ReceivedFdV1.mk expectation.orderedRoles fds⟩

lemma recordOwnership_none {outcome : ControlParseOutcomeV1} {error : Option AncillaryReceiveErrorV1} :
    (outcome.recordOwnership error).error = none ↔ outcome.error = none ∧ error = none := by
  cases error <;> simp [ControlParseOutcomeV1.recordOwnership]

lemma recordOwnership_parsed (outcome : ControlParseOutcomeV1) (error : Option AncillaryReceiveErrorV1) :
    (outcome.recordOwnership error).parsed = outcome.parsed := by
  cases error <;> simp [ControlParseOutcomeV1.recordOwnership]

lemma expectedBlock_length {expectation : StrictReceiveExpectationV1} {fds : List Int32}
    (h : fds.length = expectation.orderedRoles.length) :
    (expectedBlock expectation.credentials fds).length ≤ maxControlBytesV1 := by
  have hcount : fds.length ≤ 16 := h.le.trans expectation.roles_length
  have hpayload : (CleanRecord.rights fds).payload.length = fds.length * 4 :=
    flatMap_length (fun fd : Int32 => le32_length fd.toUInt32) fds
  have hcredentials : (CleanRecord.credentials expectation.credentials).payload.length = 12 := by
    simp [CleanRecord.payload]
  rw [expectedBlock, List.length_append, CleanRecord.bytes_length, hcredentials, maxControlBytesV1]
  split_ifs
  · decide
  · rw [CleanRecord.bytes_length, hpayload, align, align]
    omega

lemma map_ok {ε α β : Type} {f : α → β} {x : Except ε α} {b : β} :
    x.map f = .ok b ↔ ∃ a, x = .ok a ∧ f a = b := by
  cases x <;> simp [Except.map]

lemma expectedRecords_valid (credentials : ExpectedPeerCredentialsV1) {fds : List Int32} (h : ∀ fd ∈ fds, 0 ≤ fd) :
    ∀ r ∈ expectedRecords credentials fds, r.Valid := by
  rw [expectedRecords]
  split_ifs with hnil
  · exact List.forall_mem_singleton.mpr trivial
  · exact List.forall_mem_cons.mpr ⟨trivial, List.forall_mem_singleton.mpr ⟨hnil, h⟩⟩

lemma parse_expectedBlock {expectation : StrictReceiveExpectationV1} {fds : List Int32}
    (hcount : fds.length = expectation.orderedRoles.length) (hpos : ∀ fd ∈ fds, 0 ≤ fd) :
    parseControlV1 (expectedBlock expectation.credentials fds) =
      some ⟨(expectedRecords expectation.credentials fds).foldl CleanRecord.push .empty, none⟩ :=
  parseControlV1_clean.mpr ⟨expectedBlock_length hcount, _, expectedRecords_valid _ hpos,
    (flatMap_expectedRecords _ _).symm, rfl⟩

lemma parsed_exact {expectation : StrictReceiveExpectationV1} {control : Bytes} {outcome : ControlParseOutcomeV1}
    (h : parseControlV1 control = some outcome) {fds : List Int32} (hfds : outcome.parsed.rawFds = fds) :
    (outcome.recordOwnership (takeReceivedRightsOwnershipV1 fds).firstError).error = none ∧
        outcome.parsed.Expected expectation ↔
      fds.length = expectation.orderedRoles.length ∧ fds.Nodup ∧ (∀ fd ∈ fds, 0 ≤ fd) ∧
        control = expectedBlock expectation.credentials fds := by
  rw [recordOwnership_none, takeReceivedRightsOwnershipV1, Ownership.foldl_clean start_sound rfl, List.nil_append]
  obtain ⟨parsed, error⟩ := outcome
  dsimp only at hfds ⊢
  constructor
  · rintro ⟨⟨rfl, hpos, hnodup⟩, hexpected⟩
    obtain ⟨-, records, hvalid, rfl, rfl⟩ := parseControlV1_clean.mp h
    obtain ⟨fds', rfl, hlength⟩ := (expected_iff hvalid).mp hexpected
    rw [foldl_expectedRecords] at hfds
    rw [← hfds] at hpos hnodup ⊢
    exact ⟨hlength, hnodup, hpos, flatMap_expectedRecords _ _⟩
  · rintro ⟨hlength, hnodup, hpos, rfl⟩
    rw [parse_expectedBlock hlength hpos] at h
    obtain ⟨rfl, rfl⟩ := ControlParseOutcomeV1.mk.inj (Option.some.inj h)
    exact ⟨⟨rfl, hpos, hnodup⟩, (expected_iff (expectedRecords_valid _ hpos)).mpr ⟨fds, rfl, hlength⟩⟩

lemma receiveMessage_some (expectation : StrictReceiveExpectationV1) (envelope : MessageEnvelopeV1) {control : Bytes}
    {outcome : ControlParseOutcomeV1} (h : parseControlV1 control = some outcome) : ∃ receipt,
      receiveMessage expectation envelope control = some receipt ∧
        receipt.owned = (takeReceivedRightsOwnershipV1 outcome.parsed.rawFds).owned ∧
          ∀ frame, receipt.result = .ok frame ↔ ∃ fds, Exact expectation envelope control fds ∧
            receipt.owned = fds ∧ frame = exactFrame expectation fds := by
  refine ⟨_, by rw [receiveMessage, h]; rfl, rfl, fun frame => ?_⟩
  dsimp only
  rw [map_ok]
  simp only [validateParsedV1_ok, validateEnvelopeV1_ok, recordOwnership_parsed]
  constructor
  · rintro ⟨validated, ⟨⟨hflags, hlength⟩, hnone, hexpected, rfl⟩, rfl⟩
    obtain ⟨hcount, hnodup, hpos, hblock⟩ := (parsed_exact h rfl).mp ⟨hnone, hexpected⟩
    have howned : (takeReceivedRightsOwnershipV1 outcome.parsed.rawFds).owned = outcome.parsed.rawFds :=
      Ownership.foldl_owned start_sound hpos hnodup
    refine ⟨outcome.parsed.rawFds, ⟨hflags, hlength, hcount, hnodup, hpos, hblock⟩, howned, ?_⟩
    rw [howned, exactFrame, hlength]
  · rintro ⟨fds, hexact, howned, rfl⟩
    have hparse := parse_expectedBlock hexact.count hexact.nonnegative
    rw [← hexact.block, h] at hparse
    have hfds : outcome.parsed.rawFds = fds := by
      rw [Option.some.inj hparse, foldl_expectedRecords]
    obtain ⟨hnone, hexpected⟩ :=
      (parsed_exact h hfds).mpr ⟨hexact.count, hexact.distinct, hexact.nonnegative, hexact.block⟩
    rw [hfds] at howned ⊢
    refine ⟨_, ⟨⟨hexact.flags, hexact.length⟩, hnone, hexpected, rfl⟩, ?_⟩
    rw [howned, exactFrame, hexact.length]

/-- A record of a block carries a descriptor in its payload. -/
def ControlRecord.Carries (r : ControlRecord) (fd : Int32) : Prop :=
  r.level = solSocketV1 ∧ r.kind = scmRightsV1 ∧
    ∃ front back : Bytes, 4 ∣ front.length ∧ r.payload = front ++ le32 fd.toUInt32 ++ back

lemma mem_descriptors {payload : Bytes} (h : 4 ∣ payload.length) {fd : Int32} : fd ∈ descriptors payload ↔
    ∃ front back : Bytes, 4 ∣ front.length ∧ payload = front ++ le32 fd.toUInt32 ++ back := by
  constructor
  · intro hfd
    obtain ⟨front, back, hsplit⟩ := List.append_of_mem hfd
    have hpayload := payload_descriptors h
    rw [hsplit, CleanRecord.payload, List.flatMap_append, List.flatMap_cons, ← List.append_assoc] at hpayload
    refine ⟨_, _, ?_, hpayload.symm⟩
    rw [flatMap_length (fun fd : Int32 => le32_length fd.toUInt32)]
    exact Nat.dvd_mul_left 4 _
  · rintro ⟨front, back, hfront, rfl⟩
    have hback : 4 ∣ back.length := by
      rw [List.length_append, List.length_append, le32_length] at h
      exact (Nat.dvd_add_right (hfront.add (dvd_refl 4))).mp h
    have hpayload : front ++ le32 fd.toUInt32 ++ back =
        (CleanRecord.rights (descriptors front ++ fd :: descriptors back)).payload := by
      rw [CleanRecord.payload, List.flatMap_append, List.flatMap_cons, ← List.append_assoc]
      have hf := payload_descriptors hfront
      have hb := payload_descriptors hback
      rw [CleanRecord.payload] at hf hb
      rw [hf, hb]
    rw [hpayload, descriptors_payload]
    exact List.mem_append_right _ List.mem_cons_self

lemma mem_rawFds {r : ControlRecord} (h : r.Whole) {fd : Int32} : fd ∈ r.rawFds ↔ 0 ≤ fd ∧ r.Carries fd := by
  rw [ControlRecord.rawFds, ControlRecord.Carries]
  by_cases hrights : r.level = solSocketV1 ∧ r.kind = scmRightsV1
  · rw [if_pos hrights, List.mem_filter, mem_descriptors (h hrights.1 hrights.2), decide_eq_true_eq]
    tauto
  · rw [if_neg hrights]
    simp only [List.not_mem_nil, false_iff]
    tauto

lemma parseControlV1_isSome (control : Bytes) : ∃ outcome, parseControlV1 control = some outcome := by
  rw [parseControlV1]
  split_ifs with hlength
  · exact ⟨_, rfl⟩
  · exact Option.isSome_iff_exists.mp (parseLoop_isSome (Nat.le_of_not_lt hlength) _ 0)

lemma receiveMessage_exact (expectation : StrictReceiveExpectationV1) (envelope : MessageEnvelopeV1)
    (control : Bytes) : ∃ receipt, receiveMessage expectation envelope control = some receipt ∧
      receipt.owned.Nodup ∧
      (∀ records : List ControlRecord, control = records.flatMap ControlRecord.encode → (∀ r ∈ records, r.Whole) →
        control.length ≤ maxControlBytesV1 →
          ∀ fd, fd ∈ receipt.owned ↔ 0 ≤ fd ∧ ∃ r ∈ records, r.Carries fd) ∧
      ∀ frame, receipt.result = .ok frame ↔ ∃ fds, Exact expectation envelope control fds ∧
        receipt.owned = fds ∧ frame = exactFrame expectation fds := by
  obtain ⟨outcome, hparse⟩ := parseControlV1_isSome control
  obtain ⟨receipt, hreceipt, howned, hresult⟩ := receiveMessage_some expectation envelope hparse
  obtain ⟨hsound, hmem⟩ := Ownership.foldl_sound outcome.parsed.rawFds start_sound
  refine ⟨receipt, hreceipt, howned ▸ hsound.2, ?_, hresult⟩
  intro records hrecords hwhole hlength fd
  obtain ⟨outcome', hloop, hfds⟩ :=
    parseLoop_records hlength hwhole [] hrecords ⟨ParsedControlV1.empty, none⟩
  rw [parseControlV1, if_neg (Nat.not_lt_of_le hlength)] at hparse
  cases Option.some.inj (hparse.symm.trans hloop)
  rw [howned, takeReceivedRightsOwnershipV1, hmem, hfds, ParsedControlV1.empty, List.nil_append, List.mem_flatMap]
  constructor
  · rintro (hnil | ⟨⟨r, hr, hfd⟩, hpos⟩)
    · exact absurd hnil List.not_mem_nil
    · exact ⟨hpos, r, hr, ((mem_rawFds (hwhole r hr)).mp hfd).2⟩
  · rintro ⟨hpos, r, hr, hcarries⟩
    exact Or.inr ⟨⟨r, hr, (mem_rawFds (hwhole r hr)).mpr ⟨hpos, hcarries⟩⟩, hpos⟩

def KernelMessage.envelope (message : KernelMessage) : MessageEnvelopeV1 := ⟨message.received, message.returnedFlags⟩

/-- The part of the control buffer that the kernel says it has filled. -/
def KernelMessage.block (message : KernelMessage) : Bytes := slice message.control.val 0 message.controlLength.toNat

/-- The receive goes as far as the message of the kernel. -/
structure Reached (peer : ExpectedPeerRoleV1) (expectation : StrictReceiveExpectationV1) (passcred : Option Bool)
    (recvmsg : Except Int32 KernelMessage) (message : KernelMessage) : Prop where
  role : expectation.peer = peer
  enabled : passcred = some true
  received : recvmsg = .ok message
  inside : message.controlLength.toNat ≤ maxControlBytesV1

lemma receiveForPeerV1_reached {peer : ExpectedPeerRoleV1} {expectation : StrictReceiveExpectationV1}
    {passcred : Option Bool} {recvmsg : Except Int32 KernelMessage} {message : KernelMessage}
    (h : Reached peer expectation passcred recvmsg message) :
    receiveForPeerV1 peer expectation passcred recvmsg =
      receiveMessage expectation message.envelope message.block := by
  rw [receiveForPeerV1.eq_def, validateExpectedPeerRoleV1, ensure_pass h.role, h.enabled, h.received]
  dsimp only
  rw [if_neg (not_not.mpr rfl), if_neg (Nat.not_lt_of_le h.inside)]
  rfl

lemma receiveForPeerV1_refused {peer : ExpectedPeerRoleV1} {expectation : StrictReceiveExpectationV1}
    {passcred : Option Bool} {recvmsg : Except Int32 KernelMessage}
    (h : ∀ message, ¬ Reached peer expectation passcred recvmsg message) :
    ∃ error, receiveForPeerV1 peer expectation passcred recvmsg = some ⟨[], .error error⟩ := by
  rw [receiveForPeerV1.eq_def, validateExpectedPeerRoleV1]
  by_cases hrole : expectation.peer = peer
  · rw [ensure_pass hrole]
    dsimp only
    by_cases henabled : passcred = some true
    · rw [if_neg (not_not.mpr henabled)]
      cases hrecvmsg : recvmsg with
      | error code => exact ⟨_, rfl⟩
      | ok message =>
        dsimp only
        have hlength : maxControlBytesV1 < message.controlLength.toNat :=
          Nat.lt_of_not_le fun hinside => h message ⟨hrole, henabled, hrecvmsg, hinside⟩
        rw [if_pos hlength]
        exact ⟨_, rfl⟩
    · rw [if_pos henabled]
      exact ⟨_, rfl⟩
  · rw [ensure, if_neg hrole]
    exact ⟨_, rfl⟩

/-- A receive always ends, with a receipt that owns no descriptor twice. Where the block of the
message is one of records, the receipt owns exactly the descriptors that are not negative of all its
rights records, whatever else is wrong with the block or its envelope; and the receive succeeds
exactly on the expected envelope and block, with the owned descriptors paired with the expected
roles in order. -/
theorem receive_exact_and_leak_free (peer : ExpectedPeerRoleV1) (expectation : StrictReceiveExpectationV1)
    (passcred : Option Bool) (recvmsg : Except Int32 KernelMessage) :
    ∃ receipt, receiveForPeerV1 peer expectation passcred recvmsg = some receipt ∧ receipt.owned.Nodup ∧
      (∀ message, Reached peer expectation passcred recvmsg message → ∀ records : List ControlRecord,
        message.block = records.flatMap ControlRecord.encode → (∀ r ∈ records, r.Whole) →
          ∀ fd, fd ∈ receipt.owned ↔ 0 ≤ fd ∧ ∃ r ∈ records, r.Carries fd) ∧
      ∀ frame, receipt.result = .ok frame ↔ ∃ message, Reached peer expectation passcred recvmsg message ∧
        ∃ fds, Exact expectation message.envelope message.block fds ∧ receipt.owned = fds ∧
          frame = exactFrame expectation fds := by
  by_cases hreached : ∃ message, Reached peer expectation passcred recvmsg message
  · obtain ⟨message, hmessage⟩ := hreached
    have hunique : ∀ other, Reached peer expectation passcred recvmsg other → other = message := fun other hother =>
      Except.ok.inj (hother.received.symm.trans hmessage.received)
    have hlength : message.block.length ≤ maxControlBytesV1 := by
      rw [KernelMessage.block, slice_length (by rw [ByteArr.val_length, Nat.zero_add]; exact hmessage.inside)]
      exact hmessage.inside
    obtain ⟨receipt, hreceipt, hnodup, howned, hresult⟩ :=
      receiveMessage_exact expectation message.envelope message.block
    refine ⟨receipt, by rw [receiveForPeerV1_reached hmessage, hreceipt], hnodup, ?_, fun frame => ?_⟩
    · intro other hother records hrecords hwhole
      rw [hunique other hother] at hrecords
      exact howned records hrecords hwhole hlength
    · rw [hresult]
      constructor
      · exact fun hexact => ⟨message, hmessage, hexact⟩
      · rintro ⟨other, hother, hexact⟩
        rwa [hunique other hother] at hexact
  · have hnone := not_exists.mp hreached
    obtain ⟨error, herror⟩ := receiveForPeerV1_refused hnone
    refine ⟨_, herror, List.nodup_nil, fun message hmessage => absurd hmessage (hnone message), fun frame => ?_⟩
    constructor
    · intro h
      cases h
    · rintro ⟨message, hmessage, -⟩
      exact absurd hmessage (hnone message)

end Exactness

end Eip0045.Ancillary
