import Eip0045.Library.JcsIndented
import Eip0045.Runtime.Paths
import Eip0045.Runtime.ProcessIdentity

/-! The states that `runc` prints: indented objects of valid members. -/

namespace Eip0045.Runtime

open Bytes Checked CanonicalJson Jcs

section Unescaped

/-- A text that stands for itself between the quotes of Go. -/
def Unescaped (value : Bytes) : Prop := ∀ c ∈ value, 0x20 ≤ c ∧ c ≤ 0x7e ∧ c ∉ utf8 "\"\\<>&"

variable {value : Bytes}

lemma bytes_checked (c : UInt8) :
    (0x20 ≤ c ∧ c ≤ 0x7e ∧ c ∉ utf8 "\"\\<>&" → goJsonByte c = [c] ∧ c ≠ 0xe2 ∧ c ≠ quote ∧ c ≠ 92) ∧
    (IsPortable c ∨ c = slash ∨ c = 58 → 0x20 ≤ c ∧ c ≤ 0x7e ∧ c ∉ utf8 "\"\\<>&") := by
  revert c
  apply Hex.forall_byte
  decide +kernel

lemma goJsonByte_unescaped (c : UInt8) : 0x20 ≤ c ∧ c ≤ 0x7e ∧ c ∉ utf8 "\"\\<>&" →
    goJsonByte c = [c] ∧ c ≠ 0xe2 ∧ c ≠ quote ∧ c ≠ 92 :=
  (bytes_checked c).1

lemma goJsonBody_unescaped (h : Unescaped value) : goJsonBody value = value := by
  induction value with
  | nil => rfl
  | cons c value ih =>
    obtain ⟨hc, hvalue⟩ := List.forall_mem_cons.mp h
    obtain ⟨hbyte, hlead, -⟩ := goJsonByte_unescaped c hc
    rw [goJsonBody, hbyte, ih hvalue]
    · rfl
    · rintro rest rfl -
      exact hlead rfl
    · rintro rest rfl -
      exact hlead rfl

lemma pushGoJsonString_unescaped (h : Unescaped value) : pushGoJsonString value = quoted value := by
  rw [pushGoJsonString, goJsonBody_unescaped h, quoted]

lemma Unescaped.plainText (h : Unescaped value) : PlainText value := by
  intro c hc
  obtain ⟨-, -, hquote, hslash⟩ := goJsonByte_unescaped c (h c hc)
  exact ⟨(h c hc).1, (h c hc).2.1, hquote, hslash⟩

lemma unescaped_portable (c : UInt8) : IsPortable c ∨ c = slash ∨ c = 58 →
    0x20 ≤ c ∧ c ≤ 0x7e ∧ c ∉ utf8 "\"\\<>&" :=
  (bytes_checked c).2

lemma IsComponent.unescaped (h : IsComponent value) : Unescaped value :=
  fun c hc => unescaped_portable c (.inl (h.portable c hc))

lemma RuntimePath.unescaped (p : RuntimePath) : Unescaped p.spelled := by
  intro c hc
  obtain ⟨component, hcomponent, hmem⟩ := List.mem_flatMap.mp hc
  obtain rfl | hc := List.mem_cons.mp hmem
  · exact unescaped_portable _ (.inr (.inl rfl))
  · exact (p.component component hcomponent).unescaped c hc

lemma portable_digit : ∀ d < 10, IsPortable (digitByte d) := by decide

lemma twoDigits_portable {n : ℕ} (h : n < 100) : ∀ c ∈ twoDigits n, IsPortable c := by
  have htens := portable_digit (n / 10) (by omega)
  have hones := portable_digit (n % 10) (by omega)
  simpa [twoDigits] using ⟨htens, hones⟩

lemma monthLength_le (year month : ℕ) : monthLength year month ≤ 31 := by
  rw [monthLength]
  split
  · split <;> decide
  · split <;> decide

lemma Instant.unescaped (t : Instant) : Unescaped t.spelled := by
  have hdate : ∀ c ∈ fourDigits t.year, IsPortable c := by
    have hyear := t.year_lt
    exact List.forall_mem_append.mpr ⟨twoDigits_portable (by omega), twoDigits_portable (by omega)⟩
  have hmonth : t.month < 100 := by
    have := t.month_mem
    omega
  have hday : t.day < 100 := by
    have := (t.day_mem).2
    have := monthLength_le t.year t.month
    omega
  have hhour : t.hour < 100 := by
    have := t.hour_lt
    omega
  have hminute : t.minute < 100 := by
    have := t.minute_lt
    omega
  have hsecond : t.second < 100 := by
    have := t.second_lt
    omega
  have hfraction : ∀ c ∈ (if t.fraction = [] then [] else 46 :: t.fraction.map digitByte), IsPortable c := by
    split
    · simp
    · rw [List.forall_mem_cons]
      refine ⟨by decide, fun c hc => ?_⟩
      obtain ⟨d, hd, rfl⟩ := List.mem_map.mp hc
      exact portable_digit d (t.fraction_digits d hd)
  have hseparator : ∀ c ∈ [(45 : UInt8), 84, 58, 90], IsPortable c ∨ c = slash ∨ c = 58 := by
    decide +kernel
  have htexts : ∀ c ∈ t.spelled, IsPortable c ∨ c = slash ∨ c = 58 := by
    have hsingle : ∀ x : UInt8, x ∈ [(45 : UInt8), 84, 58, 90] →
        ∀ c ∈ [x], IsPortable c ∨ c = slash ∨ c = 58 := by
      intro x hx c hc
      rw [List.mem_singleton.mp hc]
      exact hseparator x hx
    simp only [Instant.spelled, List.forall_mem_append]
    exact ⟨⟨⟨⟨⟨⟨⟨⟨⟨⟨⟨⟨fun c hc => .inl (hdate c hc), hsingle 45 (by decide)⟩,
      fun c hc => .inl (twoDigits_portable hmonth c hc)⟩, hsingle 45 (by decide)⟩,
      fun c hc => .inl (twoDigits_portable hday c hc)⟩, hsingle 84 (by decide)⟩,
      fun c hc => .inl (twoDigits_portable hhour c hc)⟩, hsingle 58 (by decide)⟩,
      fun c hc => .inl (twoDigits_portable hminute c hc)⟩, hsingle 58 (by decide)⟩,
      fun c hc => .inl (twoDigits_portable hsecond c hc)⟩, fun c hc => .inl (hfraction c hc)⟩,
      hsingle 90 (by decide)⟩
  exact fun c hc => unescaped_portable c (htexts c hc)

lemma Instant.spelled_length (t : Instant) : t.spelled.length ≤ 30 := by
  have hfraction : (if t.fraction = [] then [] else 46 :: t.fraction.map digitByte).length ≤ 10 := by
    have := t.fraction_length
    split
    · simp
    · rw [List.length_cons, List.length_map]
      omega
  simp only [Instant.spelled, fourDigits, twoDigits, List.length_append, List.length_cons, List.length_nil]
  omega

end Unescaped

section Records

def RuncStateStatus.name : RuncStateStatus → Bytes
  | .created => utf8 "created"
  | .stopped => utf8 "stopped"

/-- A container that was created or has stopped. -/
structure RuncRecord where
  id : Bytes
  pid : ℕ
  status : RuncStateStatus
  bundle : RuntimePath
  rootfs : RuntimePath
  created : Instant
  id_component : IsComponent id
  pid_le : pid ≤ 4194303
  stopped_iff : status = .stopped ↔ pid = 0

def RuncStateWire.fields (wire : RuncStateWire) : List (Bytes × JsonValue) :=
  [(utf8 "ociVersion", .string wire.ociVersion), (utf8 "id", .string wire.id),
    (utf8 "pid", .number wire.pid), (utf8 "status", .string wire.status),
    (utf8 "bundle", .string wire.bundle), (utf8 "rootfs", .string wire.rootfs),
    (utf8 "created", .string wire.created), (utf8 "owner", .string wire.owner)]

def RuncStateWire.members (wire : RuncStateWire) : List (Bytes × JsonValue) :=
  [(utf8 "bundle", .string wire.bundle), (utf8 "created", .string wire.created),
    (utf8 "id", .string wire.id), (utf8 "ociVersion", .string wire.ociVersion),
    (utf8 "owner", .string wire.owner), (utf8 "pid", .number wire.pid),
    (utf8 "rootfs", .string wire.rootfs), (utf8 "status", .string wire.status)]

def RuncRecord.wire (r : RuncRecord) : RuncStateWire :=
  ⟨utf8 "1.3.0", r.id, r.pid, r.status.name, r.bundle.spelled, r.rootfs.spelled, r.created.spelled, []⟩

def RuncRecord.parsed (r : RuncRecord) : ParsedRuncState :=
  ⟨utf8 "1.3.0", r.id, r.pid, r.status, r.bundle.spelled, r.rootfs.spelled, r.created.spelled, []⟩

/-- The members of a record, each on a line of its own and indented by two spaces. -/
def RuncRecord.rendering (r : RuncRecord) : Bytes := indented r.wire.fields

variable {wire : RuncStateWire}

structure RuncStateWire.Unescaped (wire : RuncStateWire) : Prop where
  ociVersion : Runtime.Unescaped wire.ociVersion
  id : Runtime.Unescaped wire.id
  status : Runtime.Unescaped wire.status
  bundle : Runtime.Unescaped wire.bundle
  rootfs : Runtime.Unescaped wire.rootfs
  created : Runtime.Unescaped wire.created
  owner : Runtime.Unescaped wire.owner

/-- The names of the members in their order. -/
def sortedStateNames : List Bytes := [utf8 "bundle", utf8 "created", utf8 "id", utf8 "ociVersion",
  utf8 "owner", utf8 "pid", utf8 "rootfs", utf8 "status"]

lemma members_names (wire : RuncStateWire) : wire.members.map Prod.fst = sortedStateNames := rfl

lemma fields_names (wire : RuncStateWire) : wire.fields.map Prod.fst = stateNames := rfl

lemma states_checked : ascending sortedStateNames = true ∧
    (sortedStateNames.all fun key => plainCodes key && Nat.ble key.length 10) = true ∧
    stateNames.Nodup ∧ (∀ key ∈ sortedStateNames, key ∈ stateNames) ∧
    utf8 "created" ≠ utf8 "stopped" ∧
    (∀ text ∈ [utf8 "1.3.0", utf8 "created", utf8 "stopped"],
      ∀ c ∈ text, 0x20 ≤ c ∧ c ≤ 0x7e ∧ c ∉ utf8 "\"\\<>&") ∧
    ((utf8 "ociVersion").length = 10 ∧ (utf8 "id").length = 2 ∧ (utf8 "pid").length = 3 ∧
      (utf8 "status").length = 6 ∧ (utf8 "bundle").length = 6 ∧ (utf8 "rootfs").length = 6 ∧
      (utf8 "created").length = 7 ∧ (utf8 "owner").length = 5 ∧ (utf8 "1.3.0").length = 5) ∧
    (utf8 "stopped").length = 7 := by
  decide +kernel

lemma encodeExactRuncState_eq (h : wire.Unescaped) : encodeExactRuncState wire = indented wire.fields := by
  have htexts : utf8 "\x7b\n  \"ociVersion\": " = [123, 10, 32, 32] ++ quoted (utf8 "ociVersion") ++ [colon, 32] ∧
      utf8 ",\n  \"id\": " = [comma, 10, 32, 32] ++ quoted (utf8 "id") ++ [colon, 32] ∧
      utf8 ",\n  \"pid\": " = [comma, 10, 32, 32] ++ quoted (utf8 "pid") ++ [colon, 32] ∧
      utf8 ",\n  \"status\": " = [comma, 10, 32, 32] ++ quoted (utf8 "status") ++ [colon, 32] ∧
      utf8 ",\n  \"bundle\": " = [comma, 10, 32, 32] ++ quoted (utf8 "bundle") ++ [colon, 32] ∧
      utf8 ",\n  \"rootfs\": " = [comma, 10, 32, 32] ++ quoted (utf8 "rootfs") ++ [colon, 32] ∧
      utf8 ",\n  \"created\": " = [comma, 10, 32, 32] ++ quoted (utf8 "created") ++ [colon, 32] ∧
      utf8 ",\n  \"owner\": " = [comma, 10, 32, 32] ++ quoted (utf8 "owner") ++ [colon, 32] ∧
      utf8 "\n\x7d" = [10, 125] := by decide
  simp only [encodeExactRuncState, htexts, pushGoJsonString_unescaped h.ociVersion,
    pushGoJsonString_unescaped h.id, pushGoJsonString_unescaped h.status,
    pushGoJsonString_unescaped h.bundle, pushGoJsonString_unescaped h.rootfs,
    pushGoJsonString_unescaped h.created, pushGoJsonString_unescaped h.owner, indented,
    RuncStateWire.fields, indentedMembers, render, List.isEmpty_cons, List.isEmpty_nil, if_true,
    Bool.false_eq_true, if_false, List.append_assoc, List.cons_append, List.nil_append]

lemma arranged (h : wire.Unescaped) (hpid : wire.pid < 2 ^ 53) : Arranged wire.fields wire.members := by
  have hkeys : (wire.members.map Prod.fst).Pairwise (· < ·) := by
    rw [members_names]
    exact increasing_of_ascending states_checked.1
  have htexts : ∀ key ∈ wire.members.map Prod.fst, PlainText key ∧ key.length ≤ 10 := by
    rw [members_names]
    exact plain_keys states_checked.2.1
  have hvalues : ∀ field ∈ wire.members, Plain field.2 := by
    simp only [RuncStateWire.members, List.forall_mem_cons, List.not_mem_nil, IsEmpty.forall_iff,
      implies_true, and_true, Plain]
    exact ⟨h.bundle.plainText, h.created.plainText, h.id.plainText, h.ociVersion.plainText,
      h.owner.plainText, hpid, h.rootfs.plainText, h.status.plainText⟩
  refine ⟨?_, plain_object hkeys (fun key hkey => (htexts key hkey).1) hvalues, ?_⟩
  · have hnodup := increasing_nodup hkeys
    have hnodup' : (wire.fields.map Prod.fst).Nodup := by
      rw [fields_names]
      exact states_checked.2.2.1
    rw [List.perm_ext_iff_of_nodup hnodup'.of_map hnodup.of_map]
    intro field
    simp only [RuncStateWire.fields, RuncStateWire.members, List.mem_cons, List.not_mem_nil, or_false]
    constructor
    · rintro (h | h | h | h | h | h | h | h) <;> simp [h]
    · rintro (h | h | h | h | h | h | h | h) <;> simp [h]
  · simp only [RuncStateWire.members, List.forall_mem_cons, List.not_mem_nil, IsEmpty.forall_iff,
      implies_true, and_true, Scalar]

lemma readState_members (hplain : Plain (.object wire.members)) (hpid : wire.pid < 2 ^ 64) :
    readState (ofValue (.object wire.members)) = .ok wire := by
  have hclosed : ∀ key ∈ wire.members.map Prod.fst, key ∈ stateNames := by
    rw [members_names]
    exact states_checked.2.2.2.1
  have hstring : ∀ name text, (name, .string text) ∈ wire.members →
      (ofMembers wire.members).lookup name = some (.string text) := fun _ _ => lookup_ofMembers hplain.1
  have hnumber : (ofMembers wire.members).lookup (utf8 "pid") = some (.unsigned wire.pid) :=
    lookup_ofMembers hplain.1 (v := .number wire.pid) (by simp [RuncStateWire.members])
  simp only [readState, ofValue, bind_ok, exists_unit, closed_object, member_object_ok, readString_ok,
    readUnsigned_ok, pure_ok]
  refine ⟨closed_ofMembers hclosed, wire.ociVersion, ⟨_, hstring _ _ ?_, rfl⟩, wire.id,
    ⟨_, hstring _ _ ?_, rfl⟩, wire.pid, ⟨_, hnumber, rfl, hpid⟩, wire.status, ⟨_, hstring _ _ ?_, rfl⟩,
    wire.bundle, ⟨_, hstring _ _ ?_, rfl⟩, wire.rootfs, ⟨_, hstring _ _ ?_, rfl⟩, wire.created,
    ⟨_, hstring _ _ ?_, rfl⟩, wire.owner, ⟨_, hstring _ _ ?_, rfl⟩, rfl⟩ <;>
    simp [RuncStateWire.members]

end Records

section Acceptance

variable {codec : IndentedCodec} {source : Bytes} {parsed : ParsedRuncState} {status : Bytes} {pid : ℕ}
  {parsedStatus : RuncStateStatus}

lemma parseStatus_ok : parseStatus status pid = .ok parsedStatus ↔
    status = parsedStatus.name ∧ (parsedStatus = .stopped ↔ pid = 0) := by
  have hnames := states_checked.2.2.2.2.1
  rw [parseStatus]
  by_cases hcreated : status = utf8 "created"
  · rw [if_pos hcreated, hcreated]
    simp only [bind_ok, exists_unit, ensure_ok, pure_ok]
    cases parsedStatus <;> simp [RuncStateStatus.name, hnames]
  · rw [if_neg hcreated]
    by_cases hstopped : status = utf8 "stopped"
    · rw [if_pos hstopped, hstopped]
      simp only [bind_ok, exists_unit, ensure_ok, pure_ok]
      cases parsedStatus <;> simp [RuncStateStatus.name, hnames.symm]
    · rw [if_neg hstopped]
      cases parsedStatus <;> simp [RuncStateStatus.name, hcreated, hstopped]

lemma RuncRecord.unescaped (r : RuncRecord) : r.wire.Unescaped := by
  have htexts := states_checked.2.2.2.2.2.1
  have hversion : Unescaped (utf8 "1.3.0") := htexts _ (by simp)
  have hstatus : ∀ status : RuncStateStatus, Unescaped status.name := by
    intro status
    cases status <;> exact htexts _ (by simp [RuncStateStatus.name])
  exact ⟨hversion, r.id_component.unescaped, hstatus r.status, r.bundle.unescaped, r.rootfs.unescaped,
    r.created.unescaped, fun _ hc => absurd hc List.not_mem_nil⟩

lemma RuncRecord.length_le (r : RuncRecord) : r.rendering.length ≤ 16384 := by
  obtain ⟨-, -, -, -, -, -, hnames, hstopped⟩ := states_checked
  have hstatus : r.status.name.length = 7 := by
    cases r.status
    · exact hnames.2.2.2.2.2.2.1
    · exact hstopped
  have hid := r.id_component.length
  have hpid : (decimal r.pid).length ≤ 7 := decimal_length (by decide) (by have := r.pid_le; omega)
  have hbundle : r.bundle.spelled.length ≤ 4096 := r.bundle.bound
  have hrootfs : r.rootfs.spelled.length ≤ 4096 := r.rootfs.bound
  have hcreated := r.created.spelled_length
  simp only [RuncRecord.rendering, indented, RuncStateWire.fields, RuncRecord.wire, indentedMembers, render,
    quoted_length, List.length_append, List.length_cons, List.length_nil, List.isEmpty_cons,
    List.isEmpty_nil, if_true, Bool.false_eq_true, if_false, hnames, hstatus]
  omega

lemma parseRuncState_ok : parseRuncState codec.toCodec source = .ok parsed ↔
    ∃ r : RuncRecord, r.parsed = parsed ∧ source = r.rendering := by
  simp only [parseRuncState, bind_ok, exists_unit, report_ok, mapError_ok, ensure_ok, context_ok, pure_ok,
    validateRuncContainerId_ok, validateRuntimePath_ok, validateRfc3339NanoUtc_ok, parseStatus_ok]
  constructor
  · rintro ⟨-, value, -, wire, -, hencoded, hversion, hid, ⟨bundle, hbundle⟩, ⟨rootfs, hrootfs⟩,
      ⟨created, hcreated⟩, howner, hpid, pid, hpid', status, ⟨hname, hstopped⟩, rfl⟩
    obtain ⟨-, rfl⟩ : wire.pid < 2 ^ 32 ∧ wire.pid = pid := by simpa [u32OfU64] using hpid'
    let r : RuncRecord := ⟨wire.id, wire.pid, status, bundle, rootfs, created, hid, hpid, hstopped⟩
    have hwire : wire = r.wire := by
      obtain ⟨_, _, _, _, _, _, _, _⟩ := wire
      cases hversion
      cases hname
      cases hbundle
      cases hrootfs
      cases hcreated
      cases howner
      rfl
    refine ⟨r, ?_, ?_⟩
    · rw [hwire]
      rfl
    · rw [RuncRecord.rendering, ← encodeExactRuncState_eq r.unescaped, ← hwire, hencoded]
  · rintro ⟨r, rfl, rfl⟩
    have hpid := r.pid_le
    have harranged : Arranged r.wire.fields r.wire.members :=
      arranged r.unescaped (show r.pid < 2 ^ 53 by omega)
    exact ⟨r.length_le, _, codec.indented _ _ harranged, r.wire,
      readState_members harranged.plain (show r.pid < 2 ^ 64 by omega),
      encodeExactRuncState_eq r.unescaped, rfl, r.id_component, ⟨r.bundle, rfl⟩, ⟨r.rootfs, rfl⟩,
      ⟨r.created, rfl⟩, rfl, hpid, r.pid, if_pos (show r.pid < 2 ^ 32 by omega), r.status,
      ⟨rfl, r.stopped_iff⟩, rfl⟩

lemma parseRuncState_in_range (codec : Codec) (source : Bytes) :
    parseRuncState codec source ≠ .error .outOfRange := by
  rw [parseRuncState]
  refine bind_ne_error (report_ne_outOfRange _) fun _ _ => ?_
  refine bind_ne_error (report_ne_outOfRange _) fun _ _ => ?_
  refine bind_ne_error (report_ne_outOfRange _) fun _ _ => ?_
  refine bind_ne_error (report_ne_outOfRange _) fun _ _ => ?_
  refine bind_ne_error (report_ne_outOfRange _) fun _ _ => ?_
  refine bind_ne_error (report_ne_outOfRange _) fun _ _ => ?_
  refine bind_ne_error (validateRuntimePath_in_range _ _) fun _ _ => ?_
  refine bind_ne_error (validateRuntimePath_in_range _ _) fun _ _ => ?_
  refine bind_ne_error (validateRfc3339NanoUtc_in_range _) fun _ _ => ?_
  refine bind_ne_error (report_ne_outOfRange _) fun _ _ => ?_
  refine bind_ne_error (report_ne_outOfRange _) fun _ _ => ?_
  refine bind_ne_error (report_ne_outOfRange _) fun _ _ => ?_
  exact bind_ne_error (report_ne_outOfRange _) fun _ _ h => (by cases h)

lemma RuncRecord.rendering_injective {r r' : RuncRecord} (h : r.parsed = r'.parsed) :
    r.rendering = r'.rendering := by
  simp only [RuncRecord.parsed, ParsedRuncState.mk.injEq, true_and, and_true] at h
  obtain ⟨hid, hpid, hstatus, hbundle, hrootfs, hcreated⟩ := h
  rw [RuncRecord.rendering, RuncRecord.rendering, RuncRecord.wire, RuncRecord.wire, hid, hpid, hstatus,
    hbundle, hrootfs, hcreated]

end Acceptance

end Eip0045.Runtime
