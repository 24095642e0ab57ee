import Eip0045.Library.JcsReference
import Eip0045.Runtime.BootUuid

/-! The canonical records of the identity of a process. -/

namespace Eip0045.Runtime

open Bytes Checked CanonicalJson Jcs
open SourceManifest (digitsValue digitsValue_decimal decimal_digitsValue decimal_head)

section Ticks

variable {value : Bytes} {label : String} {n : ℕ}

lemma firstDigit_ok : firstDigit value = .ok true ↔
    value ≠ [] ∧ value.length ≤ 20 ∧ ∃ c, value.head? = some c ∧ 48 ≤ c ∧ c ≤ 57 ∧ c ≠ 48 := by
  rw [firstDigit]
  split
  case isTrue h =>
    constructor
    · exact fun hfalse => (by cases hfalse)
    · rintro ⟨hne, hlength, -⟩
      cases h with
      | inl hnil => exact absurd hnil hne
      | inr hlong => omega
  case isFalse h =>
    simp only [bind_ok, item_ok, pure_ok, decide_eq_true_eq, List.head?_eq_getElem?]
    rw [not_or, Nat.not_lt] at h
    simp [h]

lemma parseNonzeroCanonicalU64_ok : parseNonzeroCanonicalU64 value label = .ok n ↔
    value = decimal n ∧ 0 < n ∧ n < 2 ^ 64 := by
  simp only [parseNonzeroCanonicalU64, bind_ok, exists_unit, report_ok, ensure_ok, pure_ok]
  constructor
  · rintro ⟨first, hfirst, ⟨rfl, hdigits⟩, hbound, hnonzero, rfl⟩
    obtain ⟨hne, -, c, hc, -, -, hzero⟩ := firstDigit_ok.mp hfirst
    have hhead : value.head? ≠ some 48 := by
      rw [hc]
      exact fun h => hzero (Option.some.inj h)
    exact ⟨(decimal_digitsValue hne hdigits hhead).symm, Nat.pos_of_ne_zero hnonzero, hbound⟩
  · rintro ⟨rfl, hpos, hbound⟩
    obtain ⟨hne, hdigits⟩ := decimal_range n
    have hlength : (decimal n).length ≤ 20 := decimal_length (by decide) (by omega)
    obtain ⟨c, rest, hdecimal⟩ := List.exists_cons_of_ne_nil hne
    have hc : IsDigit c := hdigits c (by rw [hdecimal]; exact List.mem_cons_self)
    have hhead := decimal_head (Nat.ne_of_gt hpos)
    rw [hdecimal] at hhead
    have hfirst : firstDigit (decimal n) = .ok true :=
      firstDigit_ok.mpr ⟨hne, hlength, c, by rw [hdecimal]; rfl, hc.1, hc.2, fun h => hhead (by rw [h]; rfl)⟩
    rw [digitsValue_decimal]
    exact ⟨true, hfirst, ⟨rfl, hdigits⟩, hbound, Nat.ne_of_gt hpos, rfl⟩

lemma parseNonzeroCanonicalU64_in_range (value : Bytes) (label : String) :
    parseNonzeroCanonicalU64 value label ≠ .error .outOfRange := by
  rw [parseNonzeroCanonicalU64]
  refine bind_ne_error ?_ fun _ _ => ?_
  · rw [firstDigit]
    split
    case isTrue h => exact fun h => (by cases h)
    case isFalse h =>
      have hne : value ≠ [] := fun hnil => h (.inl hnil)
      exact bind_ne_error (item_ne_outOfRange (List.length_pos_of_ne_nil hne)) fun _ _ h => (by cases h)
  refine bind_ne_error (report_ne_outOfRange _) fun _ _ => ?_
  refine bind_ne_error (report_ne_outOfRange _) fun _ _ => ?_
  exact bind_ne_error (report_ne_outOfRange _) fun _ _ h => (by cases h)

end Ticks

section Records

/-- The identity of a process: the boot, a PID, and the tick of its start. -/
structure ProcessRecord where
  bootId : BootUuid
  pid : ℕ
  startTimeTicks : ℕ
  pid_mem : 1 ≤ pid ∧ pid ≤ 4194303
  ticks_mem : 0 < startTimeTicks ∧ startTimeTicks < 2 ^ 64

def ProcessIdentityWire.fields (wire : ProcessIdentityWire) : List (Bytes × JsonValue) :=
  [(utf8 "bootId", .string wire.bootId), (utf8 "pid", .number wire.pid),
    (utf8 "startTimeTicks", .string wire.startTimeTicks)]

def ProcessRecord.wire (r : ProcessRecord) : ProcessIdentityWire :=
  ⟨r.bootId.spelled, r.pid, decimal r.startTimeTicks⟩

def ProcessRecord.parsed (r : ProcessRecord) : ParsedProcessIdentity :=
  ⟨r.bootId.bytes, r.pid, r.startTimeTicks⟩

def ProcessRecord.rendering (r : ProcessRecord) : Bytes := render (.object r.wire.fields)

/-- The text of the same members without their names. -/
def ProcessRecord.positional (r : ProcessRecord) : Bytes := render (.array (r.wire.fields.map Prod.snd))

variable {value : Json} {wire : ProcessIdentityWire} {members : List (Bytes × Json)} {items : List Json}

lemma identity_checked : ascending identityNames = true ∧
    (identityNames.all fun key => plainCodes key && Nat.ble key.length 14) = true ∧
    (identityNames.idxOf (utf8 "bootId") = 0 ∧ identityNames.idxOf (utf8 "pid") = 1 ∧
      identityNames.idxOf (utf8 "startTimeTicks") = 2) ∧
    ((utf8 "bootId").length = 6 ∧ (utf8 "pid").length = 3 ∧ (utf8 "startTimeTicks").length = 14) ∧
    plainCodes hyphen = true := by
  decide

lemma identity_keys (wire : ProcessIdentityWire) : (wire.fields.map Prod.fst).Pairwise (· < ·) := by
  simp only [ProcessIdentityWire.fields, List.map_cons, List.map_nil]
  exact increasing_of_ascending identity_checked.1

lemma readIdentity_object (hsorted : (members.map Prod.fst).Pairwise (· < ·)) :
    readIdentity (.object members) = .ok wire ↔ members = ofMembers wire.fields ∧ wire.pid < 2 ^ 64 := by
  simp only [readIdentity, bind_ok, exists_unit, closed_object, member_object_ok, readString_ok,
    readUnsigned_ok, pure_ok]
  constructor
  · rintro ⟨hclosed, bootId, ⟨_, hbootId, rfl⟩, pid, ⟨_, hpid, rfl, hbound⟩, ticks, ⟨_, hticks, rfl⟩, rfl⟩
    refine ⟨members_eq hsorted (identity_keys _) hclosed ?_, hbound⟩
    simp only [ProcessIdentityWire.fields, List.forall_mem_cons]
    exact ⟨hbootId, hpid, hticks, by simp⟩
  · rintro ⟨rfl, hbound⟩
    have hfield : ∀ name v, (name, v) ∈ wire.fields →
        (ofMembers wire.fields).lookup name = some (ofValue v) :=
      fun _ _ => lookup_ofMembers (identity_keys wire)
    exact ⟨closed_ofMembers (fun _ h => h),
      wire.bootId, ⟨_, hfield _ (.string wire.bootId) (by simp [ProcessIdentityWire.fields]), rfl⟩,
      wire.pid, ⟨_, hfield _ (.number wire.pid) (by simp [ProcessIdentityWire.fields]), rfl, hbound⟩,
      wire.startTimeTicks,
      ⟨_, hfield _ (.string wire.startTimeTicks) (by simp [ProcessIdentityWire.fields]), rfl⟩, rfl⟩

lemma readIdentity_array : readIdentity (.array items) = .ok wire ↔
    items = ofItems (wire.fields.map Prod.snd) ∧ wire.pid < 2 ^ 64 := by
  have hindices := identity_checked.2.2.1
  simp only [readIdentity, closed, member, hindices, bind_ok, exists_unit, ensure_ok, context_ok,
    readString_ok, readUnsigned_ok, pure_ok]
  constructor
  · rintro ⟨hlength, bootId, ⟨_, hbootId, rfl⟩, pid, ⟨_, hpid, rfl, hbound⟩, ticks, ⟨_, hticks, rfl⟩, rfl⟩
    obtain ⟨first, second, third, rfl⟩ := List.length_eq_three.mp hlength
    obtain rfl := Option.some.inj hbootId
    obtain rfl := Option.some.inj hpid
    obtain rfl := Option.some.inj hticks
    exact ⟨rfl, hbound⟩
  · rintro ⟨rfl, hbound⟩
    exact ⟨rfl, _, ⟨_, rfl, rfl⟩, _, ⟨_, rfl, rfl, hbound⟩, _, ⟨_, rfl, rfl⟩, rfl⟩

lemma readIdentity_ok (hsorted : value.Sorted) : readIdentity value = .ok wire ↔
    (value = ofValue (.object wire.fields) ∨ value = ofValue (.array (wire.fields.map Prod.snd))) ∧
      wire.pid < 2 ^ 64 := by
  cases value with
  | object members =>
    rw [readIdentity_object (sorted_object hsorted).1]
    simp [ofValue]
  | array items =>
    rw [readIdentity_array]
    simp [ofValue]
  | _ => simp [readIdentity, closed, ofValue]

end Records

section Acceptance

variable {codec : Codec} {source : Bytes} {parsed : ParsedProcessIdentity}

lemma plainText_append {a b : Bytes} (ha : PlainText a) (hb : PlainText b) : PlainText (a ++ b) :=
  List.forall_mem_append.mpr ⟨ha, hb⟩

lemma plainText_decimal (n : ℕ) : PlainText (decimal n) :=
  plainText_lower fun c hc => .inl ((decimal_range n).2 c hc)

lemma BootUuid.spelled_plain (u : BootUuid) : PlainText u.spelled := by
  have hhex : ∀ bytes, PlainText (Hex.encode bytes) := fun bytes => plainText_lower (Hex.encode_isLower bytes)
  have hhyphen := plainText_of_codes identity_checked.2.2.2.2
  rw [BootUuid.spelled]
  repeat apply plainText_append
  all_goals first | exact hhex _ | exact hhyphen

lemma ProcessRecord.plain (r : ProcessRecord) :
    Plain (.object r.wire.fields) ∧ Plain (.array (r.wire.fields.map Prod.snd)) := by
  have hpid : r.pid < 2 ^ 53 := by
    have := r.pid_mem
    omega
  have hvalues : ∀ field ∈ r.wire.fields, Plain field.2 := by
    simp only [ProcessIdentityWire.fields, List.forall_mem_cons, List.not_mem_nil, IsEmpty.forall_iff,
      implies_true, and_true, Plain]
    exact ⟨r.bootId.spelled_plain, hpid, plainText_decimal _⟩
  constructor
  · have hkeys : ∀ key ∈ r.wire.fields.map Prod.fst, PlainText key ∧ key.length ≤ 14 := by
      simp only [ProcessIdentityWire.fields, List.map_cons, List.map_nil]
      exact plain_keys identity_checked.2.1
    exact plain_object (identity_keys _) (fun key hkey => (hkeys key hkey).1) hvalues
  · refine plain_array ?_
    intro item hitem
    obtain ⟨field, hfield, rfl⟩ := List.mem_map.mp hitem
    exact hvalues field hfield

lemma ProcessRecord.length_le (r : ProcessRecord) :
    r.rendering.length ≤ 128 ∧ r.positional.length ≤ 128 := by
  have hnames := identity_checked.2.2.2.1
  have hpid : (decimal r.pid).length ≤ 7 := decimal_length (by decide) (by have := r.pid_mem; omega)
  have hticks : (decimal r.startTimeTicks).length ≤ 20 :=
    decimal_length (by decide) (by have := r.ticks_mem; omega)
  simp only [ProcessRecord.rendering, ProcessRecord.positional, ProcessIdentityWire.fields,
    ProcessRecord.wire, List.map_cons, List.map_nil, render, renderFields, renderItems, quoted_length,
    List.length_append, List.length_singleton, List.isEmpty_cons, List.isEmpty_nil, if_true,
    Bool.false_eq_true, if_false, List.length_nil, hnames, r.bootId.spelled_length]
  omega

lemma parseProcessIdentity_ok : parseProcessIdentity codec source = .ok parsed ↔
    ∃ r : ProcessRecord, r.parsed = parsed ∧ (source = r.rendering ∨ source = r.positional) := by
  simp only [parseProcessIdentity, bind_ok, exists_unit, report_ok, mapError_ok, ensure_ok, context_ok,
    pure_ok]
  constructor
  · rintro ⟨-, value, hvalue, wire, hwire, bootId, hbootId, hpid, pid, hpid', hnonzero, ticks, hticks, rfl⟩
    obtain ⟨u, rfl, hu⟩ := decodeCanonicalBootUuid_ok.mp hbootId
    obtain ⟨ht, htpos, htbound⟩ := parseNonzeroCanonicalU64_ok.mp hticks
    obtain ⟨hbound, rfl⟩ : wire.pid < 2 ^ 32 ∧ wire.pid = pid := by simpa [u32OfU64] using hpid'
    let r : ProcessRecord := ⟨u, wire.pid, ticks, ⟨Nat.pos_of_ne_zero hnonzero, hpid⟩, htpos, htbound⟩
    have hwireEq : wire = r.wire := by
      obtain ⟨_, _, _⟩ := wire
      cases hu
      cases ht
      rfl
    have hsorted := codec.sorted source value (validateCanonicalJsonSource_ok.mp hvalue).1
    obtain ⟨hshape, -⟩ := (readIdentity_ok hsorted).mp hwire
    rw [hwireEq] at hshape
    refine ⟨r, rfl, ?_⟩
    obtain rfl | rfl := hshape
    · exact .inl (source_eq_render r.plain.1 hvalue)
    · exact .inr (source_eq_render r.plain.2 hvalue)
  · rintro ⟨r, rfl, hsource⟩
    obtain ⟨v, hv, hplain, hlength, rfl⟩ : ∃ v, (v = .object r.wire.fields ∨
        v = .array (r.wire.fields.map Prod.snd)) ∧ Plain v ∧ (render v).length ≤ 128 ∧ source = render v := by
      obtain rfl | rfl := hsource
      · exact ⟨_, .inl rfl, r.plain.1, r.length_le.1, rfl⟩
      · exact ⟨_, .inr rfl, r.plain.2, r.length_le.2, rfl⟩
    have hpid : r.pid ≤ 4194303 := r.pid_mem.2
    have hword : r.wire.pid < 2 ^ 64 := show r.pid < 2 ^ 64 by omega
    have hread : readIdentity (ofValue v) = .ok r.wire := by
      refine (readIdentity_ok (plain_sorted v hplain)).mpr ⟨?_, hword⟩
      obtain rfl | rfl := hv
      · exact .inl rfl
      · exact .inr rfl
    exact ⟨hlength, ofValue v, validateCanonicalJsonSource_render hplain, r.wire, hread, r.bootId.bytes,
      decodeCanonicalBootUuid_ok.mpr ⟨r.bootId, rfl, rfl⟩, hpid, r.pid,
      if_pos (show r.pid < 2 ^ 32 by omega), Nat.ne_of_gt r.pid_mem.1, r.startTimeTicks,
      parseNonzeroCanonicalU64_ok.mpr ⟨rfl, r.ticks_mem⟩, rfl⟩

lemma parseProcessIdentity_in_range (codec : Codec) (source : Bytes) :
    parseProcessIdentity codec source ≠ .error .outOfRange := by
  rw [parseProcessIdentity]
  refine bind_ne_error (report_ne_outOfRange _) fun _ _ => ?_
  refine bind_ne_error (report_ne_outOfRange _) fun _ _ => ?_
  refine bind_ne_error (report_ne_outOfRange _) fun _ _ => ?_
  refine bind_ne_error (decodeCanonicalBootUuid_in_range _) fun _ _ => ?_
  refine bind_ne_error (report_ne_outOfRange _) fun _ _ => ?_
  refine bind_ne_error (report_ne_outOfRange _) fun _ _ => ?_
  refine bind_ne_error (report_ne_outOfRange _) fun _ _ => ?_
  exact bind_ne_error (parseNonzeroCanonicalU64_in_range _ _) fun _ _ h => (by cases h)

end Acceptance

end Eip0045.Runtime
