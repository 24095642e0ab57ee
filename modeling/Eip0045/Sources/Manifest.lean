import Eip0045.Library.CanonicalJson
import Eip0045.Library.Checked
import Eip0045.Library.Hex
import Eip0045.Library.FirstSplit
import Eip0045.Library.Jcs
import Eip0045.Library.Paths
import Eip0045.Library.Scans

/-! Records of source files, one a line, and the parser that reads them back. -/

namespace Eip0045.SourceManifest

open Bytes Checked CanonicalJson FirstSplit

structure MaterializedFileEntry where
  path : Bytes
  byteLength : ℕ
  sha256 : Bytes
  executable : Bool
  deriving DecidableEq

def lineFeed : UInt8 := 10

def slash : UInt8 := 47

section Records

def manifestLine (name executable sha256 size : Bytes) : Bytes :=
  utf8 "file path=" ++ (name ++ (utf8 " executable=" ++ (executable ++ (utf8 " sha256=" ++
    (sha256 ++ (utf8 " size=" ++ size))))))

def flag (executable : Bool) : Bytes := if executable then utf8 "true" else utf8 "false"

def MaterializedFileEntry.line (entry : MaterializedFileEntry) : Bytes :=
  manifestLine entry.path (flag entry.executable) entry.sha256 (decimal entry.byteLength)

def unlines (lines : List Bytes) : Bytes := lines.flatMap fun line => line ++ [lineFeed]

def printRecords (entries : List MaterializedFileEntry) : Bytes :=
  unlines (entries.map MaterializedFileEntry.line)

end Records

section Parser

variable (allowGitAdmin : Bool) (label : String)

def exactAsciiLfLines (bytes : Bytes) : Except String (List Bytes) := do
  ensure (bytes ≠ []) s!"{label} is empty"
  ensure (bytes.all fun byte => byte < 128) s!"{label} is not ASCII"
  ensure (13 ∉ bytes) s!"{label} contains CR"
  ensure (bytes.getLast? = some lineFeed) s!"{label} lacks final LF"
  let body := bytes.dropLast
  ensure (body ≠ []) s!"{label} has no fields"
  let lines := body.splitOn lineFeed
  ensure (lines.all fun line => line ≠ []) s!"{label} contains an empty line"
  pure lines

def validateManifestPath (path : Bytes) : Except String Unit := do
  ensure (path ≠ [] ∧ path.length ≤ 1024 ∧ path.head? ≠ some slash ∧ path.getLast? ≠ some slash ∧
      92 ∉ path ∧ 58 ∉ path ∧ path.all fun byte => 0x20 ≤ byte ∧ byte ≤ 0x7e)
    "B4 file-identity manifest path is not canonical portable ASCII"
  ensure ((path.splitOn slash).all fun component =>
      component ≠ [] ∧ component ≠ utf8 "." ∧ component ≠ utf8 ".." ∧
        (allowGitAdmin ∨ component ≠ utf8 ".git") ∧
        component.getLast? ≠ some 46 ∧ component.getLast? ≠ some 32)
    "B4 file-identity manifest path contains an unsafe component"

def validateDigest (value : Bytes) : Except String Unit :=
  ensure (value.length = 64 ∧ ∀ byte ∈ value, Hex.IsLower byte)
    s!"{label} is not lowercase SHA-256 hex"

def isDigit (byte : UInt8) : Bool := 48 ≤ byte ∧ byte ≤ 57

def digitsValue (digits : Bytes) : ℕ := digits.foldl (fun n byte => n * 10 + (byte.toNat - 48)) 0

/-- `str::parse::<u64>` of decimal digits. -/
def parseU64 (digits : Bytes) : Option ℕ :=
  if digitsValue digits < 2 ^ 64 then some (digitsValue digits) else none

def canonicalU64 (value : Bytes) : Except String ℕ := do
  ensure (value ≠ [] ∧ value.all isDigit) s!"{label} is not unsigned decimal"
  ensure (value = utf8 "0" ∨ value.head? ≠ some 48) s!"{label} has a leading zero"
  context s!"{label} exceeds u64" (parseU64 value)

def parseExecutable (index : ℕ) (executable : Bytes) : Except String Bool :=
  if executable = utf8 "true" then pure true
  else if executable = utf8 "false" then pure false
  else .error s!"{label} line {index} has a noncanonical executable flag"

def parseLine (index : ℕ) (line : Bytes) : Except String MaterializedFileEntry := do
  let rest ← context s!"{label} line {index} has the wrong prefix"
    (stripInitial (utf8 "file path=") line)
  let (path, rest) ← context s!"{label} line {index} lacks executable"
    (splitOnce (utf8 " executable=") rest)
  let (executable, rest) ← context s!"{label} line {index} lacks sha256"
    (splitOnce (utf8 " sha256=") rest)
  let (sha256, size) ← context s!"{label} line {index} lacks size" (splitOnce (utf8 " size=") rest)
  ensure (32 ∉ size) s!"{label} line {index} has trailing fields"
  validateManifestPath allowGitAdmin path
  let executable ← parseExecutable label index executable
  validateDigest label sha256
  let byteLength ← canonicalU64 label size
  pure ⟨path, byteLength, sha256, executable⟩

def toAsciiLowercase (path : Bytes) : Bytes :=
  path.map fun byte => if 65 ≤ byte ∧ byte ≤ 90 then byte + 32 else byte

/-- The loop over the enumerated lines, with the path before and the folded paths so far. -/
def parseLines : List Bytes → ℕ → Option Bytes → List Bytes →
    Except String (List MaterializedFileEntry)
  | [], _, _, _ => pure []
  | line :: rest, index, previous, folded => do
    let entry ← parseLine allowGitAdmin label index line
    ensure (∀ path ∈ previous, path < entry.path) s!"{label} paths are not strictly sorted"
    ensure (toAsciiLowercase entry.path ∉ folded) s!"{label} has a case-fold path collision"
    let entries ← parseLines rest (index + 1) (some entry.path)
      (toAsciiLowercase entry.path :: folded)
    pure (entry :: entries)

def parseFileIdentityManifest (bytes : Bytes) : Except String (List MaterializedFileEntry) := do
  let lines ← exactAsciiLfLines label bytes
  parseLines allowGitAdmin label lines 0 none []

end Parser

section Decimals

variable {label : String}

lemma decimal_digits (n : ℕ) : ∀ c ∈ decimal n, 48 ≤ c ∧ c ≤ 57 := by
  intro c hc
  rw [decimal] at hc
  split at hc
  · rw [List.mem_singleton.mp hc]
    decide
  · rw [List.mem_reverse, List.mem_map] at hc
    obtain ⟨d, hd, rfl⟩ := hc
    have hlt : d < 10 := Nat.digits_lt_base (by decide) hd
    have hall : ∀ k < 10, 48 ≤ UInt8.ofNat (48 + k) ∧ UInt8.ofNat (48 + k) ≤ 57 := by decide
    exact hall d hlt

lemma decimal_ne_nil (n : ℕ) : decimal n ≠ [] := by
  rw [decimal]
  split
  · simp
  · rename_i hn
    rw [ne_eq, List.reverse_eq_nil_iff, List.map_eq_nil_iff]
    exact Nat.digits_ne_nil_iff_ne_zero.mpr hn

lemma digitsValue_reverse {digits : List ℕ} (h : ∀ d ∈ digits, d < 10) :
    digitsValue (digits.map fun d => UInt8.ofNat (48 + d)).reverse = Nat.ofDigits 10 digits := by
  rw [digitsValue, List.foldl_reverse]
  induction digits with
  | nil => rfl
  | cons d digits ih =>
    have hlt : d < 10 := h d List.mem_cons_self
    have hd : (UInt8.ofNat (48 + d)).toNat = 48 + d := by
      rw [UInt8.toNat_ofNat']
      omega
    rw [List.map_cons, List.foldr_cons, ih fun e he => h e (List.mem_cons_of_mem d he), hd,
      Nat.ofDigits_cons]
    omega

lemma digitsValue_decimal (n : ℕ) : digitsValue (decimal n) = n := by
  rw [decimal]
  split
  · rename_i hn
    rw [hn]
    rfl
  · rw [digitsValue_reverse fun d hd => Nat.digits_lt_base (by decide) hd, Nat.ofDigits_digits]

lemma decimal_head {n : ℕ} (hn : n ≠ 0) : (decimal n).head? ≠ some 48 := by
  have hne : Nat.digits 10 n ≠ [] := Nat.digits_ne_nil_iff_ne_zero.mpr hn
  have hlast := Nat.getLast_digit_ne_zero 10 hn
  have hlt : (Nat.digits 10 n).getLast hne < 10 :=
    Nat.digits_lt_base (by decide) (List.getLast_mem hne)
  rw [decimal, if_neg hn, List.head?_reverse, List.getLast?_map, List.getLast?_eq_getLast_of_ne_nil hne]
  generalize (Nat.digits 10 n).getLast hne = d at hlast hlt
  have hall : ∀ k < 10, k ≠ 0 → some (UInt8.ofNat (48 + k)) ≠ some 48 := by decide
  exact hall d hlt hlast

lemma decimal_digitsValue {value : Bytes} (hne : value ≠ []) (h : ∀ c ∈ value, 48 ≤ c ∧ c ≤ 57)
    (hhead : value.head? ≠ some 48) : decimal (digitsValue value) = value := by
  obtain ⟨digits, hlt, rfl⟩ : ∃ digits : List ℕ, (∀ d ∈ digits, d < 10) ∧
      (digits.map fun d => UInt8.ofNat (48 + d)).reverse = value := by
    refine ⟨(value.map fun c => c.toNat - 48).reverse, ?_, ?_⟩
    · intro d hd
      rw [List.mem_reverse, List.mem_map] at hd
      obtain ⟨c, hc, rfl⟩ := hd
      have hle := UInt8.le_iff_toNat_le.mp (h c hc).2
      simp at hle
      omega
    · rw [List.map_reverse, List.reverse_reverse, List.map_map]
      calc value.map ((fun d => UInt8.ofNat (48 + d)) ∘ fun c => c.toNat - 48)
          = value.map id := by
            apply List.map_congr_left
            intro c hc
            have hle := UInt8.le_iff_toNat_le.mp (h c hc).1
            have hnat : 48 + (c.toNat - 48) = c.toNat := Nat.add_sub_of_le hle
            rw [Function.comp_apply, hnat, UInt8.ofNat_toNat, id]
        _ = value := List.map_id value
  have hdigits : digits ≠ [] := by
    rintro rfl
    exact hne rfl
  have hlast : digits.getLast hdigits ≠ 0 := by
    intro hzero
    apply hhead
    rw [List.head?_reverse, List.getLast?_map, List.getLast?_eq_getLast_of_ne_nil hdigits, hzero]
    rfl
  have hdigitsOf := Nat.digits_ofDigits 10 (by decide) digits hlt fun _ => hlast
  have hvalue : Nat.ofDigits 10 digits ≠ 0 := by
    intro hzero
    rw [hzero] at hdigitsOf
    exact hdigits hdigitsOf.symm
  rw [digitsValue_reverse hlt, decimal, if_neg hvalue, hdigitsOf]

lemma canonicalU64_ok {value : Bytes} {n : ℕ} :
    canonicalU64 label value = .ok n ↔ value = decimal n ∧ n < 2 ^ 64 := by
  have hdigits : value.all isDigit ↔ ∀ c ∈ value, 48 ≤ c ∧ c ≤ 57 := by simp [isDigit]
  simp only [canonicalU64, parseU64, bind_ok, exists_unit, ensure_ok, context_ok, hdigits,
    Option.ite_none_right_eq_some, Option.some.injEq]
  constructor
  · intro h
    obtain ⟨⟨hne, hall⟩, hzero, hlt, rfl⟩ := h
    refine ⟨?_, hlt⟩
    cases hzero with
    | inl hzero =>
      rw [hzero]
      decide
    | inr hhead => exact (decimal_digitsValue hne hall hhead).symm
  · intro h
    obtain ⟨rfl, hlt⟩ := h
    rw [digitsValue_decimal]
    refine ⟨⟨decimal_ne_nil n, decimal_digits n⟩, ?_, hlt, rfl⟩
    by_cases hn : n = 0
    · left
      rw [hn]
      decide
    · exact .inr (decimal_head hn)

end Decimals

section Lines

variable {label : String}

lemma unlines_eq {lines : List Bytes} (h : lines ≠ []) :
    unlines lines = [lineFeed].intercalate lines ++ [lineFeed] := by
  induction lines with
  | nil => exact absurd rfl h
  | cons line lines ih =>
    by_cases hlines : lines = []
    · subst hlines
      simp [unlines]
    · rw [unlines, List.flatMap_cons, ← unlines, ih hlines, ← List.singleton_append (x := line),
        Paths.intercalate_append (by simp) hlines]
      simp

def LineOk (line : Bytes) : Prop := line ≠ [] ∧ ∀ c ∈ line, c < 128 ∧ c ≠ 13 ∧ c ≠ lineFeed

lemma exactAsciiLfLines_ok {bytes : Bytes} {lines : List Bytes} :
    exactAsciiLfLines label bytes = .ok lines ↔
      bytes = unlines lines ∧ lines ≠ [] ∧ ∀ line ∈ lines, LineOk line := by
  simp only [exactAsciiLfLines, bind_ok, exists_unit, ensure_ok, pure_ok]
  constructor
  · intro h
    obtain ⟨hne, hascii, hcr, hlast, hbody, hlines, rfl⟩ := h
    have hsplit : bytes.dropLast.splitOn lineFeed ≠ [] := List.splitOn_ne_nil _ _
    have hbytes : bytes = unlines (bytes.dropLast.splitOn lineFeed) := by
      rw [unlines_eq hsplit, List.intercalate_splitOn]
      exact (List.dropLast_append_getLast? lineFeed hlast).symm
    refine ⟨hbytes, hsplit, ?_⟩
    intro line hline
    refine ⟨by simpa using List.all_eq_true.mp hlines line hline, fun c hc => ?_⟩
    have hmem : c ∈ bytes := by
      rw [hbytes, unlines, List.mem_flatMap]
      exact ⟨line, hline, List.mem_append_left _ hc⟩
    refine ⟨by simpa using List.all_eq_true.mp hascii c hmem, ?_, ?_⟩
    · rintro rfl
      exact hcr hmem
    · rintro rfl
      exact Paths.not_mem_of_splitOn hline hc
  · intro h
    obtain ⟨hbytes, hne, hall⟩ := h
    have hmem : ∀ c ∈ bytes, c < 128 ∧ c ≠ 13 := by
      intro c hc
      rw [hbytes, unlines, List.mem_flatMap] at hc
      obtain ⟨line, hline, hc⟩ := hc
      rcases List.mem_append.mp hc with hc | hc
      · exact ⟨((hall line hline).2 c hc).1, ((hall line hline).2 c hc).2.1⟩
      · rw [List.mem_singleton.mp hc]
        decide
    rw [unlines_eq hne] at hbytes
    have hbody : bytes.dropLast = [lineFeed].intercalate lines := by
      rw [hbytes, List.dropLast_concat]
    have hsplit : bytes.dropLast.splitOn lineFeed = lines := by
      rw [hbody]
      exact List.splitOn_intercalate lineFeed
        (fun line hline hlf => ((hall line hline).2 lineFeed hlf).2.2 rfl) hne
    refine ⟨?_, ?_, ?_, ?_, ?_, ?_, hsplit⟩
    · simp [hbytes]
    · exact List.all_eq_true.mpr fun c hc => decide_eq_true (hmem c hc).1
    · exact fun hc => (hmem 13 hc).2 rfl
    · rw [hbytes, List.getLast?_concat]
    · intro hnil
      rw [hnil] at hsplit
      obtain ⟨line, rest, rfl⟩ := List.exists_cons_of_ne_nil hne
      rw [List.splitOn_nil, List.cons.injEq] at hsplit
      exact (hall line List.mem_cons_self).1 hsplit.1.symm
    · rw [hsplit, List.all_eq_true]
      intro line hline
      simpa using (hall line hline).1

end Lines

section Entries

variable {allowGitAdmin : Bool} {label : String}

/-- `is_normalized_repo_path`. -/
def isNormalizedRepoPath (path : Bytes) : Bool :=
  path ≠ [] ∧ path.head? ≠ some slash ∧ path.getLast? ≠ some slash ∧ 92 ∉ path ∧ 58 ∉ path ∧
    (path.all fun byte => 0x20 ≤ byte ∧ byte ≤ 0x7e) ∧
    (path.splitOn slash).all fun component =>
      component ≠ [] ∧ component ≠ utf8 "." ∧ component ≠ utf8 ".." ∧ component ≠ utf8 ".git" ∧
        component.getLast? ≠ some 46 ∧ component.getLast? ≠ some 32

lemma validateManifestPath_ok {path : Bytes} :
    validateManifestPath allowGitAdmin path = .ok () ↔
      (path ≠ [] ∧ path.length ≤ 1024 ∧ path.head? ≠ some slash ∧ path.getLast? ≠ some slash ∧
        92 ∉ path ∧ 58 ∉ path ∧ ∀ c ∈ path, 0x20 ≤ c ∧ c ≤ 0x7e) ∧
      ∀ component ∈ path.splitOn slash, component ≠ [] ∧ component ≠ utf8 "." ∧
        component ≠ utf8 ".." ∧ (allowGitAdmin ∨ component ≠ utf8 ".git") ∧
        component.getLast? ≠ some 46 ∧ component.getLast? ≠ some 32 := by
  simp [validateManifestPath, bind_ok]

lemma validateManifestPath_normalized {path : Bytes} (h : isNormalizedRepoPath path)
    (hlen : path.length ≤ 1024) : validateManifestPath allowGitAdmin path = .ok () := by
  rw [validateManifestPath_ok]
  simp only [isNormalizedRepoPath, decide_eq_true_eq, List.all_eq_true] at h
  obtain ⟨hne, hhead, hlast, hback, hcolon, hall, hcomponents⟩ := h
  refine ⟨⟨hne, hlen, hhead, hlast, hback, hcolon, hall⟩, fun component hcomponent => ?_⟩
  obtain ⟨hnil, hdot, hdots, hgit, hend⟩ := hcomponents component hcomponent
  exact ⟨hnil, hdot, hdots, .inr hgit, hend⟩

structure EntryOk (allowGitAdmin : Bool) (entry : MaterializedFileEntry) : Prop where
  path : validateManifestPath allowGitAdmin entry.path = .ok ()
  clear : ¬utf8 " executable=" <:+: entry.path
  digest : entry.sha256.length = 64 ∧ ∀ byte ∈ entry.sha256, Hex.IsLower byte
  length : entry.byteLength < 2 ^ 64

lemma flag_cases {executable : Bool} {text : Bytes} {index : ℕ} :
    parseExecutable label index text = .ok executable ↔ text = flag executable := by
  have hne : utf8 "true" ≠ utf8 "false" := by decide
  rw [parseExecutable]
  split_ifs with htrue hfalse
  · cases executable <;> simp [pure_ok, flag, htrue, hne]
  · cases executable <;> simp [pure_ok, flag, hfalse, hne.symm]
  · cases executable <;> simp [flag, htrue, hfalse]

lemma splitOnce_field {sep : Bytes} {tail field rest : Bytes} (hsep : sep = 32 :: tail)
    (htail : 32 ∉ tail) (hfield : ¬sep <:+: field) :
    splitOnce sep (field ++ (sep ++ rest)) = some (field, rest) := by
  subst hsep
  exact splitOnce_first htail hfield rest

lemma not_infix_of_blank {sep field : Bytes} (hsep : 32 ∈ sep) (hfield : 32 ∉ field) :
    ¬sep <:+: field := fun h => hfield (h.subset hsep)

lemma parseLine_ok {index : ℕ} {line : Bytes} {entry : MaterializedFileEntry} :
    parseLine allowGitAdmin label index line = .ok entry ↔
      line = entry.line ∧ EntryOk allowGitAdmin entry := by
  simp only [parseLine, bind_ok, exists_unit, ensure_ok, context_ok, pure_ok, validateDigest,
    stripInitial_eq_some, flag_cases, canonicalU64_ok, Prod.exists]
  constructor
  · intro h
    obtain ⟨rest, rfl, path, rest', hpath, executable, rest'', hexecutable, sha256, size, hsha256,
      hsize, hvalid, isExecutable, rfl, hdigest, byteLength, ⟨rfl, hlength⟩, rfl⟩ := h
    refine ⟨?_, ⟨hvalid, splitOnce_before hpath (by decide), hdigest, hlength⟩⟩
    rw [splitOnce_sound hpath, splitOnce_sound hexecutable, splitOnce_sound hsha256]
    rfl
  · intro h
    obtain ⟨rfl, hvalid, hclear, hdigest, hlength⟩ := h
    have hflag : 32 ∉ flag entry.executable := by
      cases entry.executable <;> decide
    have hsha256 : 32 ∉ entry.sha256 := by
      intro hmem
      exact absurd (hdigest.2 32 hmem) (by decide)
    have hsize : 32 ∉ decimal entry.byteLength := by
      intro hmem
      exact absurd (decimal_digits _ 32 hmem).1 (by decide)
    refine ⟨_, rfl, entry.path, _, splitOnce_field rfl (by decide) hclear,
      flag entry.executable, _, splitOnce_field rfl (by decide)
        (not_infix_of_blank (by decide) hflag),
      entry.sha256, decimal entry.byteLength, splitOnce_field rfl (by decide)
        (not_infix_of_blank (by decide) hsha256),
      hsize, hvalid, entry.executable, rfl, hdigest, entry.byteLength, ⟨rfl, hlength⟩, rfl⟩

end Entries

section Parsed

variable {allowGitAdmin : Bool} {label : String}

lemma increasing_cons {entry : MaterializedFileEntry} {entries : List MaterializedFileEntry} :
    ((entry :: entries).Pairwise fun a b => a.path < b.path) ↔
      (∀ e ∈ entries.head?, entry.path < e.path) ∧ entries.Pairwise fun a b => a.path < b.path := by
  have htrans : IsTrans MaterializedFileEntry fun a b => a.path < b.path :=
    ⟨fun _ _ _ hab hbc => Std.lt_trans hab hbc⟩
  rw [← List.isChain_iff_pairwise, ← List.isChain_iff_pairwise, List.isChain_cons]

lemma parseLines_ok {lines : List Bytes} {index : ℕ} {previous : Option Bytes}
    {folded : List Bytes} {entries : List MaterializedFileEntry} :
    parseLines allowGitAdmin label lines index previous folded = .ok entries ↔
      lines = entries.map MaterializedFileEntry.line ∧ (∀ e ∈ entries, EntryOk allowGitAdmin e) ∧
      (∀ path ∈ previous, ∀ e ∈ entries.head?, path < e.path) ∧
      (entries.Pairwise fun a b => a.path < b.path) ∧
      Scans.Fresh folded (entries.map fun e => toAsciiLowercase e.path) := by
  induction lines generalizing index previous folded entries with
  | nil =>
    simp only [parseLines, pure_ok]
    constructor
    · rintro rfl
      exact ⟨rfl, by simp, by simp, .nil, Scans.fresh_nil folded⟩
    · intro h
      exact (List.map_eq_nil_iff.mp h.1.symm).symm
  | cons line lines ih =>
    simp only [parseLines, bind_ok, exists_unit, ensure_ok, pure_ok, parseLine_ok, ih]
    constructor
    · intro h
      obtain ⟨entry, ⟨rfl, hentry⟩, hprevious, hfolded, rest, ⟨rfl, hrest, hfirst, hsorted, hfresh⟩,
        rfl⟩ := h
      refine ⟨rfl, List.forall_mem_cons.mpr ⟨hentry, hrest⟩, ?_, ?_, ?_⟩
      · intro path hpath e he
        rw [List.head?_cons, Option.mem_some_iff] at he
        exact he ▸ hprevious path hpath
      · exact increasing_cons.mpr ⟨hfirst entry.path rfl, hsorted⟩
      · exact Scans.fresh_cons.mpr ⟨hfolded, hfresh⟩
    · intro h
      obtain ⟨hlines, hall, hprevious, hsorted, hfresh⟩ := h
      cases entries with
      | nil => cases hlines
      | cons entry rest =>
        rw [List.map_cons, List.cons.injEq] at hlines
        rw [List.map_cons, Scans.fresh_cons] at hfresh
        rw [increasing_cons] at hsorted
        have hentries := List.forall_mem_cons.mp hall
        refine ⟨entry, ⟨hlines.1, hentries.1⟩, fun path hpath => hprevious path hpath entry rfl,
          hfresh.1, rest, ⟨hlines.2, hentries.2, ?_, hsorted.2, hfresh.2⟩, rfl⟩
        intro path hpath
        rw [Option.mem_some_iff] at hpath
        exact hpath ▸ hsorted.1

lemma bytes_checked (c : UInt8) : (Hex.IsLower c → 0x20 ≤ c ∧ c ≤ 0x7e) ∧
    (0x20 ≤ c ∧ c ≤ 0x7e → c < 128 ∧ c ≠ 13 ∧ c ≠ lineFeed) := by
  revert c
  apply Hex.forall_byte
  decide +kernel

lemma visible_of_lower (c : UInt8) : Hex.IsLower c → 0x20 ≤ c ∧ c ≤ 0x7e := (bytes_checked c).1

lemma plain_of_visible (c : UInt8) : 0x20 ≤ c ∧ c ≤ 0x7e → c < 128 ∧ c ≠ 13 ∧ c ≠ lineFeed :=
  (bytes_checked c).2

lemma visible_of_codes {text : Bytes} (h : Jcs.plainCodes text = true) : ∀ c ∈ text, 0x20 ≤ c ∧ c ≤ 0x7e := by
  intro c hc
  obtain ⟨hlow, hhigh, -⟩ := Jcs.plainText_of_codes h c hc
  exact ⟨hlow, hhigh⟩

lemma field_codes : Jcs.plainCodes (utf8 "file path=") = true ∧ Jcs.plainCodes (utf8 " executable=") = true ∧
    (∀ executable, Jcs.plainCodes (flag executable) = true) ∧ Jcs.plainCodes (utf8 " sha256=") = true ∧
    Jcs.plainCodes (utf8 " size=") = true ∧ (utf8 "file path=").length = 10 := by
  decide

lemma EntryOk.lineOk {entry : MaterializedFileEntry} (h : EntryOk allowGitAdmin entry) :
    LineOk entry.line := by
  have hpath := (validateManifestPath_ok.mp h.path).1.2.2.2.2.2.2
  obtain ⟨hfile, hexecutable, hflag, hsha256, hsize, hinitial⟩ := field_codes
  have hvisible : ∀ c ∈ entry.line, 0x20 ≤ c ∧ c ≤ 0x7e := by
    intro c hc
    simp only [MaterializedFileEntry.line, manifestLine, List.mem_append] at hc
    rcases hc with hc | hc | hc | hc | hc | hc | hc | hc
    · exact visible_of_codes hfile c hc
    · exact hpath c hc
    · exact visible_of_codes hexecutable c hc
    · exact visible_of_codes (hflag entry.executable) c hc
    · exact visible_of_codes hsha256 c hc
    · exact visible_of_lower c (h.digest.2 c hc)
    · exact visible_of_codes hsize c hc
    · exact visible_of_lower c (.inl (decimal_digits _ c hc))
  constructor
  · intro hnil
    have hlength := congrArg List.length hnil
    rw [MaterializedFileEntry.line, manifestLine, List.length_append] at hlength
    rw [hinitial, List.length_nil] at hlength
    omega
  · exact fun c hc => plain_of_visible c (hvisible c hc)

/-- What the parser accepts: records of valid entries, in the order of their paths, which still
differ when their letters are folded. -/
theorem parseFileIdentityManifest_ok {bytes : Bytes} {entries : List MaterializedFileEntry} :
    parseFileIdentityManifest allowGitAdmin label bytes = .ok entries ↔
      bytes = printRecords entries ∧ entries ≠ [] ∧ (∀ e ∈ entries, EntryOk allowGitAdmin e) ∧
      (entries.Pairwise fun a b => a.path < b.path) ∧
      (entries.map fun e => toAsciiLowercase e.path).Nodup := by
  simp only [parseFileIdentityManifest, bind_ok, exactAsciiLfLines_ok, parseLines_ok,
    Scans.fresh_start]
  constructor
  · intro h
    obtain ⟨lines, ⟨rfl, hne, -⟩, rfl, hall, -, hsorted, hfolded⟩ := h
    exact ⟨rfl, by simpa using hne, hall, hsorted, hfolded⟩
  · intro h
    obtain ⟨rfl, hne, hall, hsorted, hfolded⟩ := h
    refine ⟨_, ⟨rfl, by simpa using hne, ?_⟩, rfl, hall, by simp, hsorted, hfolded⟩
    rw [List.forall_mem_map]
    exact fun e he => (hall e he).lineOk

end Parsed

end Eip0045.SourceManifest
