import Mathlib
import Eip0045.Layer.Whiteouts
import Eip0045.Library.Ustar
import Eip0045.Rootfs.Identity
import Eip0045.Rootfs.ChangesetTranscript

/-! The parser of one layer's ustar archive: its headers, its members and what a replay sees of them. -/

namespace Eip0045.Layer

open Bytes Checked
open Rootfs (slash dot components Result ReplayEntry ReplayEntryKind ReplayWhiteout ChangesetTranscript
  OciLayerStreamLimits ioBufferBytes whiteoutPrefix opaqueMarker)

section Fields

def ustarBlockBytes : ℕ := 512
def ustarPathMaxBytes : ℕ := 240
def ociLayerUidGid : ℕ := 65532

def regularType : UInt8 := 48
def symbolicLinkType : UInt8 := 50
def directoryType : UInt8 := 53

def octalDigits (digits : Bytes) (label : String) : Result ℕ := do
  report (ensure (digits ≠ [] ∧ ∀ digit ∈ digits, Ustar.isOctalDigit digit) s!"{label} digits are not canonical octal")
  report (context s!"{label} value overflowed" (digits.foldlM Ustar.octalStep 0))

def canonicalOctal (field : Bytes) (label : String) : Result ℕ := do
  let terminator ← report (context "OCI ustar numeric field is empty" field.getLast?)
  report (ensure (terminator = 0) s!"{label} terminator is not canonical")
  octalDigits field.dropLast label

def canonicalFieldString (field : Bytes) (label : String) (allowEmpty : Bool) : Result Bytes := do
  let stop := field.findIdx (· = 0)
  report (ensure (∀ b ∈ field.drop stop, b = 0) s!"{label} has bytes after its first NUL")
  report (ensure (allowEmpty = true ∨ stop ≠ 0) s!"{label} is empty")
  report (ensure (Ustar.isUtf8 (field.take stop)) s!"{label} is not UTF-8")
  pure (field.take stop)

def validateUstarChecksum (header : Bytes) : Result Unit := do
  report (ensure (slice header 154 2 = [0, 32]) "OCI ustar checksum encoding is not canonical")
  let declared ← octalDigits (slice header 148 6) "OCI ustar checksum"
  report (ensure (declared = Ustar.checksum header) "OCI ustar checksum differs from its header")

lemma octalDigits_ok {digits : Bytes} {label : String} {v : ℕ} (hne : digits ≠ []) (hword : 8 ^ digits.length ≤ 2 ^ 64) :
    octalDigits digits label = .ok v ↔ v < 8 ^ digits.length ∧ digits = Ustar.octal digits.length v := by
  have hread := @Ustar.octalFold_iff digits v
  simp only [octalDigits, bind_ok, exists_unit, report_ok, ensure_ok, context_ok, and_assoc]
  constructor
  · intro h
    exact (hread.mp h.2).2
  · intro h
    exact ⟨hne, hread.mpr ⟨by omega, h⟩⟩

lemma canonicalOctal_ok {field : Bytes} {label : String} {w v : ℕ} (hlength : field.length = w + 1) (hw : w ≠ 0)
    (hword : 8 ^ w ≤ 2 ^ 64) :
    canonicalOctal field label = .ok v ↔ v < 8 ^ w ∧ field = Ustar.number w v := by
  obtain ⟨digits, terminator, rfl⟩ : ∃ digits terminator, field = digits ++ [terminator] :=
    ⟨field.dropLast, field.getLast (by rintro rfl; simp at hlength), (List.dropLast_append_getLast _).symm⟩
  rw [List.length_append, List.length_singleton, Nat.add_right_cancel_iff] at hlength
  subst hlength
  simp only [canonicalOctal, bind_ok, exists_unit, report_ok, ensure_ok, context_ok, List.getLast?_append,
    List.getLast?_singleton, Option.some_or, Option.some.injEq, exists_eq_left', List.dropLast_concat,
    octalDigits_ok (List.ne_nil_of_length_pos (Nat.pos_of_ne_zero hw)) hword, Ustar.number]
  constructor
  · intro h
    obtain ⟨rfl, hv, hdigits⟩ := h
    exact ⟨hv, by rw [← hdigits]⟩
  · intro h
    obtain ⟨hv, heq⟩ := h
    obtain ⟨hdigits, hlast⟩ := List.append_inj heq (by simp)
    exact ⟨List.singleton_inj.mp hlast, hv, hdigits⟩

lemma canonicalFieldString_ok {field s : Bytes} {label : String} {allowEmpty : Bool} :
    canonicalFieldString field label allowEmpty = .ok s ↔ s.length ≤ field.length ∧ 0 ∉ s ∧ Ustar.isUtf8 s ∧
      (allowEmpty = true ∨ s ≠ []) ∧ field = Ustar.padded field.length s := by
  have hread := @Ustar.padded_iff field s
  simp only [canonicalFieldString, bind_ok, exists_unit, report_ok, ensure_ok, pure_ok]
  have hempty : field.take (field.findIdx (· = 0)) = s → (field.findIdx (· = 0) ≠ 0 ↔ s ≠ []) := by
    rintro rfl
    cases field with
    | nil => simp
    | cons b field => simp [List.take_eq_nil_iff]
  constructor
  · intro h
    obtain ⟨hzeros, hallowed, hutf8, htake⟩ := h
    obtain ⟨hlength, hfree, heq⟩ := hread.mp ⟨htake, hzeros⟩
    rw [htake] at hutf8
    exact ⟨hlength, hfree, hutf8, hallowed.imp_right (hempty htake).mp, heq⟩
  · intro h
    obtain ⟨hlength, hfree, hutf8, hallowed, heq⟩ := h
    obtain ⟨htake, hzeros⟩ := hread.mpr ⟨hlength, hfree, heq⟩
    exact ⟨hzeros, hallowed.imp_right (hempty htake).mpr, htake ▸ hutf8, htake⟩

lemma checksum_lt {header : Bytes} (hlength : header.length = 512) : Ustar.checksum header < 8 ^ 6 := by
  have hle := Ustar.sum_bytes_le (overwrite header 148 (List.replicate 8 32))
  have hsame : (overwrite header 148 (List.replicate 8 32)).length = 512 := by
    simp [overwrite, hlength]
  rw [hsame] at hle
  exact lt_of_le_of_lt hle (by decide)

lemma validateUstarChecksum_ok {header : Bytes} (hlength : header.length = 512) :
    validateUstarChecksum header = .ok () ↔
      slice header 148 8 = Ustar.octal 6 (Ustar.checksum header) ++ [0, 32] := by
  have hdigits : (slice header 148 6).length = 6 := slice_length (by omega)
  have hne : slice header 148 6 ≠ [] := List.ne_nil_of_length_pos (by omega)
  simp only [validateUstarChecksum, bind_ok, exists_unit, report_ok, ensure_ok,
    octalDigits_ok hne (by rw [hdigits]; decide), hdigits]
  rw [← slice_append header (show 154 = 148 + 6 from rfl) (m := 6) (n := 2)]
  constructor
  · intro h
    obtain ⟨hend, _, ⟨-, hdeclared⟩, rfl⟩ := h
    rw [hend, hdeclared]
  · intro h
    obtain ⟨hdeclared, hend⟩ := List.append_inj h (by simp [hdigits])
    exact ⟨hend, _, ⟨checksum_lt hlength, hdeclared⟩, rfl⟩

end Fields

section Paths

def validateNormalizedLayerPath (path : Bytes) : Result Unit := do
  report (ensure (path ≠ []) "OCI ustar normalized path is empty")
  report (ensure ((components path).all fun component =>
      component ≠ [] && component ≠ [dot] && component ≠ [dot, dot])
    "OCI ustar path is not lexically root-contained and canonical")

def normalizeUstarHeaderPath (path : Bytes) (typeflag : UInt8) : Result Bytes := do
  report (ensure (path ≠ [] ∧ path.length ≤ ustarPathMaxBytes) "OCI ustar path length is outside its closed range")
  report (ensure (path.head? ≠ some slash) "OCI ustar path is not relative POSIX")
  let normalized ←
    if typeflag = directoryType then do
      report (ensure ([slash] <:+ path ∧ ¬[slash, slash] <:+ path)
        "OCI directory header path does not have exactly one trailing slash")
      pure path.dropLast
    else do
      report (ensure (¬[slash] <:+ path) "OCI non-directory header path has a trailing slash")
      pure path
  validateNormalizedLayerPath normalized
  pure normalized

/-- The parts before and behind a separator that fit the fields of a header. -/
def splitAt (path : Bytes) (separator : ℕ) : Option (Bytes × Bytes) :=
  if path[separator]? = some slash ∧ path.drop (separator + 1) ≠ [] ∧ (path.take separator).length ≤ 155 ∧
      (path.drop (separator + 1)).length ≤ 100 then
    some (path.take separator, path.drop (separator + 1))
  else none

def ustarSplit (path : Bytes) : Option (Bytes × Bytes) :=
  if path.length ≤ 100 then some ([], path)
  else (List.range path.length).reverse.findSome? (splitAt path)

def canonicalUstarSplit (path : Bytes) : Result (Bytes × Bytes) :=
  report (context "OCI ustar path cannot use the canonical name/prefix split" (ustarSplit path))

/-- One component of a link target over the directories resolved so far. -/
def resolveTargetComponent (resolved : List Bytes) (component : Bytes) : Result (List Bytes) :=
  if component = [] ∨ component = [dot] then pure resolved
  else if component = [dot, dot] then do
    report (ensure (resolved ≠ []) "OCI symbolic-link target escapes the layer root")
    pure resolved.dropLast
  else pure (resolved ++ [component])

def validateSymlinkTarget (entryPath target : Bytes) : Result Unit := do
  report (ensure (target ≠ []) "OCI symbolic-link target is empty")
  let start := if target.head? = some slash then [] else (components entryPath).dropLast
  let _ ← (components target).foldlM resolveTargetComponent start
  pure ()

/-- The parts of a path before and behind its last slash. -/
def parentAndBasename (path : Bytes) : Bytes × Bytes := (Paths.rsplitOnce slash path).getD ([], path)

def whiteoutTarget (path : Bytes) : Result (Option Bytes) :=
  let parent := (parentAndBasename path).1
  let basename := (parentAndBasename path).2
  if ¬whiteoutPrefix <+: basename then pure none
  else if basename = opaqueMarker then pure (some parent)
  else do
    let targetName := basename.drop 4
    report (ensure (targetName ≠ []) "OCI whiteout basename is outside the closed syntax")
    let target := if parent = [] then targetName else parent ++ slash :: targetName
    validateNormalizedLayerPath target
    pure (some target)

def Contained (path : Bytes) : Prop := ∀ c ∈ components path, c ≠ [] ∧ c ≠ [dot] ∧ c ≠ [dot, dot]

/-- A directory has a slash behind its path in a header. -/
def headerPath (path : Bytes) (typeflag : UInt8) : Bytes :=
  if typeflag = directoryType then path ++ [slash] else path

def joinParts (parts : Bytes × Bytes) : Bytes :=
  if parts.1 = [] then parts.2 else parts.1 ++ slash :: parts.2

variable {path hp : Bytes} {typeflag : UInt8} {parts : Bytes × Bytes}

lemma validateNormalizedLayerPath_ok : validateNormalizedLayerPath path = .ok () ↔ Contained path := by
  simp only [validateNormalizedLayerPath, bind_ok, exists_unit, report_ok, ensure_ok, List.all_eq_true,
    Bool.and_eq_true, decide_eq_true_eq, Contained, and_assoc]
  constructor
  · intro h
    exact h.2
  · intro h
    refine ⟨?_, h⟩
    rintro rfl
    exact (h [] List.mem_cons_self).1 rfl

lemma Contained.ne_nil (h : Contained path) : path ≠ [] := by
  rintro rfl
  exact (h [] List.mem_cons_self).1 rfl

lemma Contained.head (h : Contained path) : path.head? ≠ some slash := by
  intro hhead
  obtain ⟨tail, rfl⟩ := List.head?_eq_some_iff.mp hhead
  have hmem : [] ∈ components (slash :: tail) := by
    rw [components, ← List.nil_append (slash :: tail), List.splitOn_append_cons_self]
    exact List.mem_cons_self
  exact (h [] hmem).1 rfl

lemma Contained.last (h : Contained path) : ¬[slash] <:+ path := by
  rintro ⟨initial, rfl⟩
  have hmem : [] ∈ components (initial ++ [slash]) := by
    rw [components, List.splitOn_append_cons_self]
    exact List.mem_append_right _ List.mem_cons_self
  exact (h [] hmem).1 rfl

lemma Contained.headerPath_ne_nil (h : Contained path) : headerPath path typeflag ≠ [] := by
  rw [headerPath]
  split_ifs
  · simp
  · exact h.ne_nil

lemma Contained.headerPath_head (h : Contained path) : (headerPath path typeflag).head? ≠ some slash := by
  rw [headerPath]
  split_ifs
  · rw [List.head?_append_of_ne_nil _ h.ne_nil]
    exact h.head
  · exact h.head

lemma normalizeUstarHeaderPath_ok : normalizeUstarHeaderPath hp typeflag = .ok path ↔
    hp = headerPath path typeflag ∧ hp.length ≤ ustarPathMaxBytes ∧ Contained path := by
  by_cases htype : typeflag = directoryType
  · simp only [normalizeUstarHeaderPath, bind_ok, exists_unit, report_ok, ensure_ok, pure_ok, headerPath, if_pos htype,
      exists_eq_left', validateNormalizedLayerPath_ok]
    constructor
    · intro h
      obtain ⟨⟨-, hlength⟩, -, ⟨⟨initial, rfl⟩, -⟩, hcontained, rfl⟩ := h
      rw [List.dropLast_concat] at hcontained ⊢
      exact ⟨rfl, hlength, hcontained⟩
    · intro h
      obtain ⟨rfl, hlength, hcontained⟩ := h
      refine ⟨⟨by simp, hlength⟩, ?_, ⟨List.suffix_append _ _, ?_⟩, ?_⟩
      · rw [List.head?_append_of_ne_nil _ hcontained.ne_nil]
        exact hcontained.head
      · rintro ⟨initial, heq⟩
        have hend : initial ++ [slash] = path := by
          refine List.append_cancel_right (?_ : (initial ++ [slash]) ++ [slash] = path ++ [slash])
          rw [← heq, List.append_assoc]
          rfl
        exact hcontained.last ⟨initial, hend⟩
      · rw [List.dropLast_concat]
        exact ⟨hcontained, rfl⟩
  · simp only [normalizeUstarHeaderPath, bind_ok, exists_unit, report_ok, ensure_ok, pure_ok, headerPath, if_neg htype,
      validateNormalizedLayerPath_ok]
    constructor
    · intro h
      obtain ⟨⟨-, hlength⟩, -, -, _, rfl, hcontained, rfl⟩ := h
      exact ⟨rfl, hlength, hcontained⟩
    · intro h
      obtain ⟨rfl, hlength, hcontained⟩ := h
      exact ⟨⟨hcontained.ne_nil, hlength⟩, hcontained.head, hcontained.last, _, rfl, hcontained, rfl⟩

lemma splitAt_eq_some {separator : ℕ} (hhead : path.head? ≠ some slash) (h : splitAt path separator = some parts) :
    path = parts.1 ++ slash :: parts.2 ∧ parts.1 ≠ [] ∧ parts.2 ≠ [] ∧ parts.1.length ≤ 155 ∧
      parts.2.length ≤ 100 := by
  rw [splitAt] at h
  split_ifs at h with hfits
  obtain ⟨hslash, hnonempty, hlead, hname⟩ := hfits
  obtain rfl := Option.some.inj h
  obtain ⟨hlt, hget⟩ := List.getElem?_eq_some_iff.mp hslash
  refine ⟨?_, ?_, hnonempty, hlead, hname⟩
  · nth_rewrite 1 [← List.take_append_drop separator path]
    rw [List.drop_eq_getElem_cons hlt, hget]
  · intro hnil
    rw [List.take_eq_nil_iff] at hnil
    obtain rfl | rfl := hnil
    · exact hhead (by rw [List.head?_eq_getElem?, hslash])
    · cases hslash

lemma ustarSplit_eq_some (hne : path ≠ []) (hhead : path.head? ≠ some slash) (h : ustarSplit path = some parts) :
    joinParts parts = path ∧ parts.2 ≠ [] ∧ parts.1.length ≤ 155 ∧ parts.2.length ≤ 100 := by
  rw [ustarSplit] at h
  split_ifs at h with hshort
  · obtain rfl := Option.some.inj h
    exact ⟨rfl, hne, Nat.zero_le _, hshort⟩
  · obtain ⟨separator, -, hsplit⟩ := List.exists_of_findSome?_eq_some h
    obtain ⟨heq, hne, hname, hlengths⟩ := splitAt_eq_some hhead hsplit
    exact ⟨by rw [joinParts, if_neg hne, ← heq], hname, hlengths⟩

lemma isUtf8_joinParts : Ustar.isUtf8 (joinParts parts) ↔ Ustar.isUtf8 parts.1 ∧ Ustar.isUtf8 parts.2 := by
  rw [joinParts]
  split_ifs with hnil
  · rw [hnil]
    exact (and_iff_right Ustar.isUtf8_nil).symm
  · exact Ustar.isUtf8_slash

lemma isUtf8_headerPath : Ustar.isUtf8 (headerPath path typeflag) ↔ Ustar.isUtf8 path := by
  rw [headerPath]
  split_ifs
  · exact Ustar.isUtf8_slash.trans (and_iff_left Ustar.isUtf8_nil)
  · exact Iff.rfl

lemma zero_mem_joinParts : 0 ∈ joinParts parts ↔ 0 ∈ parts.1 ∨ 0 ∈ parts.2 := by
  have hslash : (0 : UInt8) ≠ slash := by decide
  rw [joinParts]
  split_ifs with hnil
  · simp [hnil]
  · simp [hslash]

lemma parentAndBasename_eq (path : Bytes) : path = (parentAndBasename path).2 ∧ (parentAndBasename path).1 = [] ∨
    path = (parentAndBasename path).1 ++ slash :: (parentAndBasename path).2 := by
  rw [parentAndBasename]
  cases h : Paths.rsplitOnce slash path with
  | none => exact Or.inl ⟨rfl, rfl⟩
  | some parts => exact Or.inr (Paths.rsplitOnce_eq_some.mp h).1

lemma whiteoutTarget_none : whiteoutTarget path = .ok none ↔ ¬whiteoutPrefix <+: (parentAndBasename path).2 := by
  rw [whiteoutTarget]
  by_cases hplain : whiteoutPrefix <+: (parentAndBasename path).2
  · rw [if_neg (not_not.mpr hplain)]
    refine iff_of_false ?_ (not_not.mpr hplain)
    by_cases hmarker : (parentAndBasename path).2 = opaqueMarker
    · rw [if_pos hmarker, pure_ok]
      exact Option.some_ne_none _
    · rw [if_neg hmarker]
      simp only [bind_ok, exists_unit, pure_ok, reduceCtorEq, and_false, not_false_eq_true]
  · rw [if_pos hplain]
    exact iff_of_true rfl hplain

lemma whiteoutTarget_some {subject : Bytes} : whiteoutTarget path = .ok (some subject) ↔
    (parentAndBasename path).2 = opaqueMarker ∧ subject = (parentAndBasename path).1 ∨
      (parentAndBasename path).2 ≠ opaqueMarker ∧ ∃ name, name ≠ [] ∧ (parentAndBasename path).2 = whiteoutPrefix ++ name ∧
        Contained subject ∧ subject = joinParts ((parentAndBasename path).1, name) := by
  rw [whiteoutTarget]
  by_cases hplain : whiteoutPrefix <+: (parentAndBasename path).2
  · obtain ⟨name, hname⟩ := hplain
    rw [if_neg (not_not.mpr ⟨name, hname⟩)]
    by_cases hmarker : (parentAndBasename path).2 = opaqueMarker
    · rw [if_pos hmarker, pure_ok, Option.some.injEq]
      simp [hmarker, eq_comm]
    · have hdrop : (parentAndBasename path).2.drop 4 = name := by rw [← hname]; rfl
      rw [if_neg hmarker, hdrop, ← hname]
      change _ ↔ _ ∨ _
      simp only [bind_ok, exists_unit, report_ok, ensure_ok, validateNormalizedLayerPath_ok, pure_ok, Option.some.injEq,
        List.append_cancel_left_eq]
      constructor
      · intro h
        obtain ⟨hne, hcontained, rfl⟩ := h
        exact Or.inr ⟨hname ▸ hmarker, name, hne, rfl, hcontained, rfl⟩
      · intro h
        obtain ⟨heq, -⟩ | ⟨-, _, hne, rfl, hcontained, rfl⟩ := h
        · exact absurd (hname.symm.trans heq) hmarker
        · exact ⟨hne, hcontained, rfl⟩
  · rw [if_pos hplain]
    refine iff_of_false (fun h => (by cases h)) ?_
    rintro (⟨hmarker, -⟩ | ⟨-, name, -, hname, -⟩)
    · exact hplain (hmarker ▸ ⟨_, rfl⟩)
    · exact hplain ⟨name, hname.symm⟩

lemma whiteoutTarget_length {subject : Bytes} (h : whiteoutTarget path = .ok (some subject)) :
    subject.length ≤ path.length := by
  have hparts : (parentAndBasename path).2.length ≤ path.length ∧ ((parentAndBasename path).1 = [] ∨
      (parentAndBasename path).1.length + 1 + (parentAndBasename path).2.length = path.length) := by
    obtain ⟨heq, hnil⟩ | heq := parentAndBasename_eq path
    · exact ⟨(congrArg List.length heq).ge, Or.inl hnil⟩
    · have hlength := congrArg List.length heq
      rw [List.length_append, List.length_cons] at hlength
      exact ⟨by omega, Or.inr (by omega)⟩
  obtain ⟨-, rfl⟩ | ⟨-, name, -, hname, -, rfl⟩ := whiteoutTarget_some.mp h
  · obtain hnil | hlength := hparts.2
    · simp [hnil]
    · omega
  · have hlength := congrArg List.length hname
    rw [List.length_append] at hlength
    rw [joinParts]
    split_ifs with hnil
    · change name.length ≤ _
      omega
    · obtain hnil' | hlength' := hparts.2
      · exact absurd hnil' hnil
      · rw [List.length_append, List.length_cons]
        change (parentAndBasename path).1.length + (name.length + 1) ≤ _
        have hlead : whiteoutPrefix.length = 4 := rfl
        omega

lemma zero_mem_headerPath : 0 ∈ headerPath path typeflag ↔ 0 ∈ path := by
  have hslash : (0 : UInt8) ≠ slash := by decide
  rw [headerPath]
  split_ifs <;> simp [hslash]

end Paths

section Headers

structure ParsedUstarHeader where
  path : Bytes
  typeflag : UInt8
  mode : ℕ
  payloadBytes : ℕ
  linkname : Bytes
  whiteoutTarget : Option Bytes

def parseUstarHeader (header : Bytes) (previousPath : Option Bytes) : Result ParsedUstarHeader := do
  validateUstarChecksum header
  report (ensure (slice header 257 6 = utf8 "ustar" ++ [0]) "OCI ustar magic is not exact")
  report (ensure (slice header 263 2 = utf8 "00") "OCI ustar version is not exact")
  report (ensure (∀ b ∈ header.drop 500, b = 0) "OCI ustar reserved header bytes are not zero")
  let name ← canonicalFieldString (slice header 0 100) "OCI ustar name" false
  let namePrefix ← canonicalFieldString (slice header 345 155) "OCI ustar prefix" true
  let headerPath := if namePrefix = [] then name else namePrefix ++ slash :: name
  let typeflag ← item header 156
  let path ← normalizeUstarHeaderPath headerPath typeflag
  let canonical ← canonicalUstarSplit headerPath
  report (ensure (namePrefix = canonical.1 ∧ name = canonical.2) "OCI ustar name/prefix split is not canonical")
  report (ensure (∀ previous ∈ previousPath, compare previous path = .lt) "OCI ustar member order is not canonical")
  let mode ← canonicalOctal (slice header 100 8) "OCI ustar mode"
  let uid ← canonicalOctal (slice header 108 8) "OCI ustar uid"
  report (ensure (uid = ociLayerUidGid) "OCI ustar uid is not the fixed layer identity")
  let gid ← canonicalOctal (slice header 116 8) "OCI ustar gid"
  report (ensure (gid = ociLayerUidGid) "OCI ustar gid is not the fixed layer identity")
  let payloadBytes ← canonicalOctal (slice header 124 12) "OCI ustar size"
  let mtime ← canonicalOctal (slice header 136 12) "OCI ustar mtime"
  report (ensure (mtime = 0) "OCI ustar mtime is not zero")
  let uname ← canonicalFieldString (slice header 265 32) "OCI ustar uname" true
  report (ensure (uname = []) "OCI ustar uname/gname are not empty")
  let gname ← canonicalFieldString (slice header 297 32) "OCI ustar gname" true
  report (ensure (gname = []) "OCI ustar uname/gname are not empty")
  let devMajor ← canonicalOctal (slice header 329 8) "OCI ustar devmajor"
  report (ensure (devMajor = 0) "OCI ustar device numbers are not zero")
  let devMinor ← canonicalOctal (slice header 337 8) "OCI ustar devminor"
  report (ensure (devMinor = 0) "OCI ustar device numbers are not zero")
  let linkname ← canonicalFieldString (slice header 157 100) "OCI ustar linkname" true
  let target ← Layer.whiteoutTarget path
  pure ⟨path, typeflag, mode, payloadBytes, linkname, target⟩

namespace ParsedUstarHeader

variable (parsed : ParsedUstarHeader)

/-- The parts of the path that a header has room for. -/
def parts : Bytes × Bytes :=
  (ustarSplit (headerPath parsed.path parsed.typeflag)).getD ([], headerPath parsed.path parsed.typeflag)

def header : Ustar.Header where
  name := parsed.parts.2
  mode := parsed.mode
  uid := ociLayerUidGid
  gid := ociLayerUidGid
  size := parsed.payloadBytes
  mtime := 0
  typeflag := parsed.typeflag
  linkname := parsed.linkname
  uname := []
  gname := []
  devMajor := 0
  devMinor := 0
  namePrefix := parsed.parts.1

structure Canonical : Prop where
  contained : Contained parsed.path
  pathText : Ustar.isUtf8 parsed.path
  pathZero : 0 ∉ parsed.path
  pathLength : (headerPath parsed.path parsed.typeflag).length ≤ ustarPathMaxBytes
  splits : ustarSplit (headerPath parsed.path parsed.typeflag) = some parsed.parts
  mode : parsed.mode < 8 ^ 7
  payloadBytes : parsed.payloadBytes < 8 ^ 11
  linkText : Ustar.isUtf8 parsed.linkname
  linkZero : 0 ∉ parsed.linkname
  linkLength : parsed.linkname.length ≤ 100
  whiteout : Layer.whiteoutTarget parsed.path = .ok parsed.whiteoutTarget

variable {parsed}

lemma Canonical.parts (h : parsed.Canonical) : joinParts parsed.parts = headerPath parsed.path parsed.typeflag ∧
    parsed.parts.2 ≠ [] ∧ parsed.parts.1.length ≤ 155 ∧ parsed.parts.2.length ≤ 100 :=
  ustarSplit_eq_some h.contained.headerPath_ne_nil h.contained.headerPath_head h.splits

lemma Canonical.fits (h : parsed.Canonical) : parsed.header.Fits where
  name := h.parts.2.2.2
  linkname := h.linkLength
  uname := Nat.zero_le _
  gname := Nat.zero_le _
  namePrefix := h.parts.2.2.1

end ParsedUstarHeader

lemma item_iff_slice {header : Bytes} {typeflag : UInt8} (hlength : header.length = 512) :
    (item header 156 : Result UInt8) = .ok typeflag ↔ slice header 156 1 = [typeflag] := by
  rw [item_ok, Frames.getElem?_iff, Frames.slice_eq_iff (by omega)]
  simp

lemma magic_iff {header : Bytes} (hlength : header.length = 512) :
    slice header 257 6 = utf8 "ustar" ++ [0] ∧ slice header 263 2 = utf8 "00" ↔
      slice header 257 8 = Ustar.Header.magic := by
  rw [← slice_append header (show 263 = 257 + 6 from rfl) (m := 6) (n := 2), Ustar.Header.magic]
  constructor
  · intro h
    rw [h.1, h.2]
  · intro h
    exact List.append_inj h (by rw [slice_length (by omega)]; decide)

lemma reserved_iff {header : Bytes} (hlength : header.length = 512) :
    (∀ b ∈ header.drop 500, b = 0) ↔ slice header 500 12 = List.replicate 12 0 := by
  have hall : slice header 500 12 = header.drop 500 := List.take_of_length_le (by simp [hlength])
  rw [hall, List.eq_replicate_iff]
  simp [hlength]

lemma parseUstarHeader_ok {header : Bytes} {previousPath : Option Bytes} {parsed : ParsedUstarHeader}
    (hlength : header.length = 512) :
    parseUstarHeader header previousPath = .ok parsed ↔ parsed.Canonical ∧
      (∀ previous ∈ previousPath, compare previous parsed.path = .lt) ∧ header = parsed.header.encode := by
  have hfield : ∀ i n, i + n ≤ 512 → (slice header i n).length = n := fun i n h => slice_length (by omega)
  simp only [parseUstarHeader, bind_ok, exists_unit, report_ok, ensure_ok, pure_ok, validateUstarChecksum_ok hlength,
    canonicalFieldString_ok, item_iff_slice hlength, normalizeUstarHeaderPath_ok, canonicalUstarSplit, context_ok,
    canonicalOctal_ok (hfield 100 8 (by omega)) (show 7 ≠ 0 by decide) (by decide),
    canonicalOctal_ok (hfield 108 8 (by omega)) (show 7 ≠ 0 by decide) (by decide),
    canonicalOctal_ok (hfield 116 8 (by omega)) (show 7 ≠ 0 by decide) (by decide),
    canonicalOctal_ok (hfield 124 12 (by omega)) (show 11 ≠ 0 by decide) (by decide),
    canonicalOctal_ok (hfield 136 12 (by omega)) (show 11 ≠ 0 by decide) (by decide),
    canonicalOctal_ok (hfield 329 8 (by omega)) (show 7 ≠ 0 by decide) (by decide),
    canonicalOctal_ok (hfield 337 8 (by omega)) (show 7 ≠ 0 by decide) (by decide),
    hfield 0 100 (by omega), hfield 345 155 (by omega), hfield 265 32 (by omega), hfield 297 32 (by omega),
    hfield 157 100 (by omega)]
  constructor
  · intro h
    obtain ⟨hsum, hmagic, hversion, hreserved, name, ⟨-, hnameZero, hnameText, -, hname⟩, namePrefix, ⟨-, hprefixZero,
      hprefixText, -, hlead⟩, typeflag, htypeflag, path, ⟨hjoin, hpathLength, hcontained⟩, parts, hsplits,
      ⟨rfl, rfl⟩, horder, mode, ⟨hmode, hmodeField⟩, _, ⟨-, huid⟩, rfl, _, ⟨-, hgid⟩, rfl, size, ⟨hsize, hsizeField⟩,
      _, ⟨-, hmtime⟩, rfl, _, ⟨-, -, -, -, huname⟩, rfl, _, ⟨-, -, -, -, hgname⟩, rfl, _, ⟨-, hmajor⟩, rfl, _,
      ⟨-, hminor⟩, rfl, linkname, ⟨hlinkLength, hlinkZero, hlinkText, -, hlink⟩, target, hwhiteout, rfl⟩ := h
    change joinParts parts = _ at hjoin
    change (joinParts parts).length ≤ _ at hpathLength
    change ustarSplit (joinParts parts) = _ at hsplits
    rw [hjoin] at hpathLength hsplits
    have hparts : ParsedUstarHeader.parts ⟨path, typeflag, mode, size, linkname, target⟩ = parts := by
      rw [ParsedUstarHeader.parts, hsplits]
      rfl
    have hcanonical : ParsedUstarHeader.Canonical ⟨path, typeflag, mode, size, linkname, target⟩ := {
      contained := hcontained
      pathText := by rw [← isUtf8_headerPath, ← hjoin]; exact isUtf8_joinParts.mpr ⟨hprefixText, hnameText⟩
      pathZero := by rw [← zero_mem_headerPath, ← hjoin, zero_mem_joinParts]; exact not_or.mpr ⟨hprefixZero, hnameZero⟩
      pathLength := hpathLength
      splits := by rw [hparts]; exact hsplits
      mode := hmode
      payloadBytes := hsize
      linkText := hlinkText
      linkZero := hlinkZero
      linkLength := hlinkLength
      whiteout := hwhiteout }
    refine ⟨hcanonical, horder, (Ustar.Header.encode_iff hcanonical.fits hlength).mpr ?_⟩
    exact ⟨by rw [hname, ← hparts]; rfl, hmodeField, huid, hgid, hsizeField, hmtime, hsum, htypeflag, hlink,
      (magic_iff hlength).mp ⟨hmagic, hversion⟩, huname, hgname, hmajor, hminor, by rw [hlead, ← hparts]; rfl,
      (reserved_iff hlength).mp hreserved⟩
  · intro h
    obtain ⟨hcanonical, horder, heq⟩ := h
    have hlies := (Ustar.Header.encode_iff hcanonical.fits hlength).mp heq
    obtain ⟨hmagic, hversion⟩ := (magic_iff hlength).mpr hlies.magic
    obtain ⟨hjoin, hnameNonempty, hprefixLength, hnameLength⟩ := hcanonical.parts
    have htext := isUtf8_joinParts.mp (hjoin ▸ isUtf8_headerPath.mpr hcanonical.pathText)
    have hzero : 0 ∉ joinParts parsed.parts := by rw [hjoin, zero_mem_headerPath]; exact hcanonical.pathZero
    rw [zero_mem_joinParts, not_or] at hzero
    refine ⟨hlies.checksum, hmagic, hversion, (reserved_iff hlength).mpr hlies.reserved, parsed.parts.2,
      ⟨hnameLength, hzero.2, htext.2, Or.inr hnameNonempty, hlies.name⟩, parsed.parts.1,
      ⟨hprefixLength, hzero.1, htext.1, Or.inl trivial, hlies.namePrefix⟩, parsed.typeflag, hlies.typeflag, parsed.path,
      ⟨hjoin, ?_, hcanonical.contained⟩, parsed.parts, ?_, ⟨rfl, rfl⟩, horder, parsed.mode, ⟨hcanonical.mode, hlies.mode⟩,
      ociLayerUidGid, ⟨by decide, hlies.uid⟩, rfl, ociLayerUidGid, ⟨by decide, hlies.gid⟩, rfl, parsed.payloadBytes,
      ⟨hcanonical.payloadBytes, hlies.size⟩, 0, ⟨by decide, hlies.mtime⟩, rfl, [],
      ⟨by decide, by decide, Ustar.isUtf8_nil, Or.inl trivial, hlies.uname⟩, rfl, [],
      ⟨by decide, by decide, Ustar.isUtf8_nil, Or.inl trivial, hlies.gname⟩, rfl, 0, ⟨by decide, hlies.devMajor⟩, rfl, 0,
      ⟨by decide, hlies.devMinor⟩, rfl, parsed.linkname,
      ⟨hcanonical.linkLength, hcanonical.linkZero, hcanonical.linkText, Or.inl trivial, hlies.linkname⟩, _,
      hcanonical.whiteout, rfl⟩
    · change (joinParts parsed.parts).length ≤ _
      rw [hjoin]
      exact hcanonical.pathLength
    · change ustarSplit (joinParts parsed.parts) = _
      rw [hjoin]
      exact hcanonical.splits

end Headers

section Counters

structure LayerCounters where
  entryCount : ℕ
  regularFileCount : ℕ
  directoryCount : ℕ
  symbolicLinkCount : ℕ
  whiteoutCount : ℕ
  regularFileBytes : ℕ
  deriving DecidableEq

namespace LayerCounters

def initial : LayerCounters := ⟨0, 0, 0, 0, 0, 0⟩

variable (counters : LayerCounters) (limits : OciLayerStreamLimits)

def addEntry : Result LayerCounters := do
  let entryCount ← limits.checkedAddTarEntries counters.entryCount 1 "OCI layer ustar"
  pure { counters with entryCount }

def addRegular (byteLength : ℕ) : Result LayerCounters := do
  limits.validateRegularFilePayloadBytes byteLength "OCI layer ustar"
  let regularFileCount ← report (context "OCI layer regular-file count overflowed"
    (checkedAdd counters.regularFileCount 1))
  let regularFileBytes ← report (context "OCI layer regular-file byte count overflowed"
    (checkedAdd counters.regularFileBytes byteLength))
  report (ensure (regularFileBytes ≤ limits.maximumUncompressedTarBytes)
    "OCI layer aggregate regular-file bytes exceed the closed layer-stream budget")
  pure { counters with regularFileCount, regularFileBytes }

def addDirectory : Result LayerCounters := do
  let directoryCount ← report (context "OCI layer directory count overflowed" (checkedAdd counters.directoryCount 1))
  pure { counters with directoryCount }

def addSymbolicLink : Result LayerCounters := do
  let symbolicLinkCount ← report (context "OCI layer symbolic-link count overflowed"
    (checkedAdd counters.symbolicLinkCount 1))
  pure { counters with symbolicLinkCount }

def addWhiteout : Result LayerCounters := do
  let whiteoutCount ← report (context "OCI layer whiteout count overflowed" (checkedAdd counters.whiteoutCount 1))
  pure { counters with whiteoutCount }

end LayerCounters

/-- The counters and the whiteout subjects behind an entry. -/
def validateAndCountUstarEntry (limits : OciLayerStreamLimits) (parsed : ParsedUstarHeader) (counters : LayerCounters)
    (whiteoutTargets : SortedMap Bytes Unit) : Result (LayerCounters × SortedMap Bytes Unit) := do
  let counters ← counters.addEntry limits
  match parsed.whiteoutTarget with
  | some target =>
    report (ensure (parsed.typeflag = regularType) "OCI whiteout is not a regular ustar entry")
    report (ensure (parsed.mode = 0) "OCI whiteout mode is not 0000")
    report (ensure (parsed.payloadBytes = 0) "OCI whiteout payload is not empty")
    report (ensure (parsed.linkname = []) "OCI whiteout linkname is not empty")
    let whiteoutTargets ← report (insertNonoverlappingWhiteout whiteoutTargets target)
    let counters ← counters.addWhiteout
    pure (counters, whiteoutTargets)
  | none =>
    let counters ←
      if parsed.typeflag = regularType then do
        report (ensure (parsed.mode = 0o444 ∨ parsed.mode = 0o555) "OCI regular-file mode is not 0444 or 0555")
        report (ensure (parsed.linkname = []) "OCI regular-file linkname is not empty")
        counters.addRegular limits parsed.payloadBytes
      else if parsed.typeflag = directoryType then do
        report (ensure (parsed.mode = 0o555) "OCI directory mode is not 0555")
        report (ensure (parsed.payloadBytes = 0) "OCI directory payload is not empty")
        report (ensure (parsed.linkname = []) "OCI directory linkname is not empty")
        counters.addDirectory
      else if parsed.typeflag = symbolicLinkType then do
        report (ensure (parsed.mode = 0o777) "OCI symbolic-link mode is not 0777")
        report (ensure (parsed.payloadBytes = 0) "OCI symbolic-link payload is not empty")
        validateSymlinkTarget parsed.path parsed.linkname
        counters.addSymbolicLink
      else .error (.reported "OCI ustar entry type is outside 0/5/2")
    pure (counters, whiteoutTargets)

/-- The source never reaches an entry type outside 0, 5 and 2 here. -/
def replayEntry (parsed : ParsedUstarHeader) : Result ReplayEntry := do
  let mode := UInt64.ofNat parsed.mode
  let byteLength := UInt64.ofNat parsed.payloadBytes
  let kind ←
    match parsed.whiteoutTarget with
    | some target =>
      pure (.whiteout mode byteLength
        (if (parentAndBasename parsed.path).2 = opaqueMarker then .opaqueDirectory target else .remove target))
    | none =>
      if parsed.typeflag = regularType then pure (.regularFile mode byteLength)
      else if parsed.typeflag = directoryType then pure (.directory mode byteLength)
      else if parsed.typeflag = symbolicLinkType then pure (.symbolicLink mode byteLength parsed.linkname)
      else .error .outOfRange
  pure ⟨parsed.path, kind⟩

end Counters

section Replay

/-- What receives the entries of a layer, and the state that it keeps. -/
structure ReplaySink (σ : Type) where
  beginEntry : ReplayEntry → σ → Result σ
  writeRegularFileChunk : Bytes → σ → Result σ
  finishEntry : σ → Result σ

def ReplaySink.absent : ReplaySink Unit where
  beginEntry _ _ := pure ()
  writeRegularFileChunk _ _ := pure ()
  finishEntry _ := pure ()

structure LayerState (σ : Type) where
  counters : LayerCounters
  previousPath : Option Bytes
  whiteoutTargets : SortedMap Bytes Unit
  transcript : ChangesetTranscript
  sink : σ

structure LayerInspection where
  counters : LayerCounters
  changesetTranscriptSha256 : Digest
  deriving DecidableEq

variable {σ : Type}

/-- `read_exact` gathers the bytes of as many reads as it takes. -/
def readExact (source : Bytes) (length : ℕ) (error : String) : Result (Bytes × Bytes) :=
  if length ≤ source.length then .ok (source.take length, source.drop length) else .error (.reported error)

def consumePayload (sink : ReplaySink σ) (remaining : ℕ) (transcript : ChangesetTranscript) (s : σ) (source : Bytes) :
    Result (ChangesetTranscript × σ × Bytes) :=
  if remaining = 0 then pure (transcript, s, source)
  else do
    let request := min ioBufferBytes remaining
    let (chunk, source) ← readExact source request "OCI ustar member payload is truncated"
    let transcript ← transcript.writeRegularFileChunk chunk
    let s ← mapFault (fun _ => "OCI layer replay sink rejected a regular-file chunk") (sink.writeRegularFileChunk chunk s)
    consumePayload sink (remaining - request) transcript s source
termination_by remaining
decreasing_by
  have : 0 < ioBufferBytes := by decide
  omega

def consumePayloadAndPadding (sink : ReplaySink σ) (payloadBytes : ℕ) (transcript : ChangesetTranscript) (s : σ)
    (source : Bytes) : Result (ChangesetTranscript × σ × Bytes) := do
  let (transcript, s, source) ← consumePayload sink payloadBytes transcript s source
  let padding := (ustarBlockBytes - payloadBytes % ustarBlockBytes) % ustarBlockBytes
  let (filler, source) ← readExact source padding "OCI ustar member padding is truncated"
  report (ensure (∀ b ∈ filler, b = 0) "OCI ustar member padding is not zero")
  pure (transcript, s, source)

variable (sha256 : Bytes → Digest) (limits : OciLayerStreamLimits) (sink : ReplaySink σ)

/-- One entry behind its header, with the source behind its padding. -/
def inspectEntry (header : Bytes) (state : LayerState σ) (source : Bytes) : Result (LayerState σ × Bytes) := do
  let parsed ← parseUstarHeader header state.previousPath
  let (counters, whiteoutTargets) ← validateAndCountUstarEntry limits parsed state.counters state.whiteoutTargets
  let entry ← replayEntry parsed
  let transcript ← state.transcript.beginEntry entry
  let s ← mapFault (fun _ => "OCI layer replay sink rejected a validated entry") (sink.beginEntry entry state.sink)
  let (transcript, s, source) ← consumePayloadAndPadding sink parsed.payloadBytes transcript s source
  let transcript ← transcript.finishEntry
  let s ← mapFault (fun _ => "OCI layer replay sink rejected a completed entry") (sink.finishEntry s)
  pure (⟨counters, some parsed.path, whiteoutTargets, transcript, s⟩, source)

/-- Every pass takes a block from the source, so more passes than the source has bytes are never made. -/
def inspectEntries : ℕ → LayerState σ → Bytes → Result (LayerInspection × σ × Bytes)
  | 0, _, _ => .error .outOfRange
  | passes + 1, state, source => do
    let (header, source) ← readExact source ustarBlockBytes "OCI ustar header or terminator is truncated"
    if ∀ b ∈ header, b = 0 then
      let (second, source) ← readExact source ustarBlockBytes "OCI ustar second terminator block is truncated"
      report (ensure (∀ b ∈ second, b = 0) "OCI ustar second terminator block is not zero")
      let digest ← state.transcript.finish sha256
      pure (⟨state.counters, digest⟩, state.sink, source)
    else
      let (state, source) ← inspectEntry limits sink header state source
      inspectEntries passes state source

/-- What an inspection finds, the state in which it leaves the sink, and the source behind the archive. -/
def inspectExactUstar (s : σ) (source : Bytes) : Result (LayerInspection × σ × Bytes) :=
  inspectEntries sha256 limits sink (source.length + 1) ⟨.initial, none, ∅, .new, s⟩ source

end Replay

end Eip0045.Layer
