import Mathlib
import Eip0045.Corpus.TreeManifest

/-! What a tree manifest that passes its check is: sorted, free of case aliases, closed under
parents, with exact counts. -/

namespace Eip0045.B4Tree

open Bytes Checked FileTree

structure Closed (entries : List B4TreeEntryV1) : Prop where
  valid : ∀ e ∈ entries, validateRelativePath e.path = .ok ()
  unreserved : ∀ e ∈ entries, isReserved e.path = false
  sorted : entries.Pairwise fun a b => compare a.path b.path = .lt
  foldUnique : (entries.map fun e => toAsciiLowercase e.path).Nodup
  parents : ∀ e ∈ entries, ∀ parent, parentPath e.path = some parent → .directory parent ∈ entries
  files : ∀ byteLength path sha256, .file byteLength path sha256 ∈ entries →
    byteLength.toNat ≤ maxFileBytes ∧ sha256.length = 64 ∧ ∀ c ∈ sha256, Hex.IsLower c

def totalBytes (entries : List B4TreeEntryV1) : ℕ := (entries.map B4TreeEntryV1.fileBytes).sum

structure ValidManifest (manifest : Eip0045B4TreeManifestV1) : Prop where
  format : manifest.format = b4TreeManifestFormat
  formatVersion : manifest.formatVersion = b4TreeManifestFormatVersion
  nonempty : manifest.entries ≠ []
  bounded : manifest.entries.length ≤ maxTreeEntries
  closed : Closed manifest.entries
  directoryCount : manifest.entries.countP B4TreeEntryV1.isDirectory = manifest.directoryCount.toNat
  fileCount : manifest.entries.countP B4TreeEntryV1.isFile = manifest.fileCount.toNat
  totalFileBytes : totalBytes manifest.entries = manifest.totalFileBytes.toNat
  totalBounded : totalBytes manifest.entries ≤ maxTotalFileBytes

section Pass

/-- The pass after the entries of `seen`. -/
def passOf (seen : List B4TreeEntryV1) : Pass where
  previous := seen.getLast?.map B4TreeEntryV1.path
  casefolded := (seen.map fun e => toAsciiLowercase e.path).toFinset
  directories := seen.countP B4TreeEntryV1.isDirectory
  files := seen.countP B4TreeEntryV1.isFile
  total := totalBytes seen
  knownDirectories := ((seen.filter B4TreeEntryV1.isDirectory).map B4TreeEntryV1.path).toFinset

/-- What the pass requires of the entry that follows `seen`. -/
structure Admits (seen : List B4TreeEntryV1) (e : B4TreeEntryV1) : Prop where
  valid : validateRelativePath e.path = .ok ()
  unreserved : isReserved e.path = false
  above : ∀ last ∈ seen.getLast?, compare last.path e.path = .lt
  fold : toAsciiLowercase e.path ∉ seen.map fun e => toAsciiLowercase e.path
  parent : ∀ parent, parentPath e.path = some parent → .directory parent ∈ seen
  directory : ∀ path, e = .directory path → .directory path ∉ seen
  file : ∀ byteLength path sha256, e = .file byteLength path sha256 →
    byteLength.toNat ≤ maxFileBytes ∧ (sha256.length = 64 ∧ ∀ c ∈ sha256, Hex.IsLower c) ∧
      totalBytes seen + byteLength.toNat ≤ maxTotalFileBytes

lemma mem_known {seen : List B4TreeEntryV1} {path : Bytes} :
    path ∈ (passOf seen).knownDirectories ↔ .directory path ∈ seen := by
  simp only [passOf, List.mem_toFinset, List.mem_map, List.mem_filter]
  constructor
  · intro h
    obtain ⟨e, ⟨he, hdirectory⟩, rfl⟩ := h
    cases e with
    | directory path => exact he
    | file byteLength path sha256 => cases hdirectory
  · intro h
    exact ⟨_, ⟨h, rfl⟩, rfl⟩

lemma totalBytes_concat (seen : List B4TreeEntryV1) (e : B4TreeEntryV1) :
    totalBytes (seen ++ [e]) = totalBytes seen + e.fileBytes := by simp [totalBytes]

lemma passOf_directory (seen : List B4TreeEntryV1) (path : Bytes) :
    passOf (seen ++ [.directory path]) =
      { passOf seen with
        previous := some path
        casefolded := insert (toAsciiLowercase path) (passOf seen).casefolded
        directories := (passOf seen).directories + 1
        knownDirectories := insert path (passOf seen).knownDirectories } := by
  have hfilter : [B4TreeEntryV1.directory path].filter B4TreeEntryV1.isDirectory =
      [.directory path] := rfl
  simp [passOf, totalBytes_concat, hfilter, B4TreeEntryV1.path, B4TreeEntryV1.isDirectory,
    B4TreeEntryV1.isFile, B4TreeEntryV1.fileBytes]

lemma passOf_file (seen : List B4TreeEntryV1) (byteLength : UInt64) (path sha256 : Bytes) :
    passOf (seen ++ [.file byteLength path sha256]) =
      { passOf seen with
        previous := some path
        casefolded := insert (toAsciiLowercase path) (passOf seen).casefolded
        files := (passOf seen).files + 1
        total := (passOf seen).total + byteLength.toNat } := by
  simp [passOf, totalBytes_concat, B4TreeEntryV1.path, B4TreeEntryV1.isDirectory,
    B4TreeEntryV1.isFile, B4TreeEntryV1.fileBytes]

lemma count_ok {seen : List B4TreeEntryV1} {e : B4TreeEntryV1} {p : Pass}
    (h : seen.length + 1 < 2 ^ 32) :
    ({ passOf seen with
      previous := some e.path
      casefolded := insert (toAsciiLowercase e.path) (passOf seen).casefolded } : Pass).count e = .ok p ↔
      ((∀ path, e = .directory path → .directory path ∉ seen) ∧
        ∀ byteLength path sha256, e = .file byteLength path sha256 →
          byteLength.toNat ≤ maxFileBytes ∧ (sha256.length = 64 ∧ ∀ c ∈ sha256, Hex.IsLower c) ∧
            totalBytes seen + byteLength.toNat ≤ maxTotalFileBytes) ∧ p = passOf (seen ++ [e]) := by
  have hdirectories : checkedIncrement (passOf seen).directories =
      some ((passOf seen).directories + 1) :=
    if_pos (lt_of_le_of_lt (Nat.succ_le_succ List.countP_le_length) h)
  have hfiles : checkedIncrement (passOf seen).files = some ((passOf seen).files + 1) :=
    if_pos (lt_of_le_of_lt (Nat.succ_le_succ List.countP_le_length) h)
  cases e with
  | directory path =>
    simp only [Pass.count, bind_ok, exists_unit, context_ok, ensure_ok, pure_ok, mem_known]
    simp only [hdirectories, Option.some.injEq, exists_eq_left', passOf_directory]
    simp only [B4TreeEntryV1.directory.injEq, forall_eq', reduceCtorEq, false_implies, implies_true,
      and_true]
    exact and_congr_right' eq_comm
  | file byteLength path sha256 =>
    have hfile : (∀ b p s, B4TreeEntryV1.file byteLength path sha256 = .file b p s →
        b.toNat ≤ maxFileBytes ∧ (s.length = 64 ∧ ∀ c ∈ s, Hex.IsLower c) ∧
          totalBytes seen + b.toNat ≤ maxTotalFileBytes) ↔
        byteLength.toNat ≤ maxFileBytes ∧ (sha256.length = 64 ∧ ∀ c ∈ sha256, Hex.IsLower c) ∧
          totalBytes seen + byteLength.toNat ≤ maxTotalFileBytes := by
      constructor
      · exact fun h => h _ _ _ rfl
      · intro h b p s heq
        cases heq
        exact h
    rw [hfile]
    simp only [Pass.count, bind_ok, exists_unit, context_ok, ensure_ok, pure_ok, validateDigest,
      checkedAdd_eq_some]
    simp only [hfiles, Option.some.injEq, exists_eq_left', passOf_file, reduceCtorEq, false_implies,
      implies_true, true_and]
    constructor
    · intro h
      obtain ⟨hlength, hdigest, total, ⟨-, rfl⟩, htotal, rfl⟩ := h
      exact ⟨⟨hlength, hdigest, htotal⟩, rfl⟩
    · intro h
      obtain ⟨⟨hlength, hdigest, htotal⟩, rfl⟩ := h
      exact ⟨hlength, hdigest, _, ⟨lt_of_le_of_lt htotal (by decide), rfl⟩, htotal, rfl⟩

lemma entry_ok {seen : List B4TreeEntryV1} {index : ℕ} {e : B4TreeEntryV1} {p : Pass}
    (h : seen.length + 1 < 2 ^ 32) :
    (passOf seen).entry index e = .ok p ↔ Admits seen e ∧ p = passOf (seen ++ [e]) := by
  simp only [Pass.entry, bind_ok, exists_unit, ensure_ok, rejectReservedTreePath, count_ok h]
  have habove : (passOf seen).previous.all (fun previous => compare previous e.path == .lt) = true ↔
      ∀ last ∈ seen.getLast?, compare last.path e.path = .lt := by
    simp [passOf, Option.all_eq_true]
  have hfold : toAsciiLowercase e.path ∉ (passOf seen).casefolded ↔
      toAsciiLowercase e.path ∉ seen.map fun e => toAsciiLowercase e.path := by
    rw [passOf, List.mem_toFinset]
  have hparent : (parentPath e.path).all (fun parent => parent ∈ (passOf seen).knownDirectories) = true ↔
      ∀ parent, parentPath e.path = some parent → .directory parent ∈ seen := by
    simp only [Option.all_eq_true, decide_eq_true_eq, mem_known]
  rw [habove, hfold, hparent]
  constructor
  · intro h
    obtain ⟨hvalid, hreserved, hlast, hcase, hknown, ⟨hdirectory, hfile⟩, hp⟩ := h
    exact ⟨⟨hvalid, hreserved, hlast, hcase, hknown, hdirectory, hfile⟩, hp⟩
  · intro h
    obtain ⟨⟨hvalid, hreserved, hlast, hcase, hknown, hdirectory, hfile⟩, hp⟩ := h
    exact ⟨hvalid, hreserved, hlast, hcase, hknown, ⟨hdirectory, hfile⟩, hp⟩

/-- The pass admits each entry after the ones before it. -/
def AllAdmitted (seen : List B4TreeEntryV1) : List B4TreeEntryV1 → Prop
  | [] => True
  | e :: entries => Admits seen e ∧ AllAdmitted (seen ++ [e]) entries

lemma entries_ok {seen entries : List B4TreeEntryV1} {index : ℕ} {p : Pass}
    (h : (seen ++ entries).length < 2 ^ 32) :
    (passOf seen).entries index entries = .ok p ↔
      AllAdmitted seen entries ∧ p = passOf (seen ++ entries) := by
  induction entries generalizing seen index with
  | nil =>
    rw [Pass.entries, AllAdmitted, List.append_nil, pure_ok, eq_comm]
    simp
  | cons e entries ih =>
    have hnext : ((seen ++ [e]) ++ entries).length < 2 ^ 32 := by
      rw [List.append_assoc]
      exact h
    have hseen : seen.length + 1 < 2 ^ 32 := by
      rw [List.length_append, List.length_append] at hnext
      exact lt_of_le_of_lt (Nat.le_add_right _ _) hnext
    simp only [Pass.entries, bind_ok, entry_ok hseen, AllAdmitted]
    constructor
    · intro h
      obtain ⟨q, ⟨he, rfl⟩, hrest⟩ := h
      obtain ⟨hall, rfl⟩ := (ih hnext).mp hrest
      exact ⟨⟨he, hall⟩, by rw [List.append_assoc]; rfl⟩
    · intro h
      obtain ⟨⟨he, hall⟩, rfl⟩ := h
      exact ⟨_, ⟨he, rfl⟩, (ih hnext).mpr ⟨hall, by rw [List.append_assoc]; rfl⟩⟩

lemma allAdmitted_concat {seen entries : List B4TreeEntryV1} {e : B4TreeEntryV1} :
    AllAdmitted seen (entries ++ [e]) ↔ AllAdmitted seen entries ∧ Admits (seen ++ entries) e := by
  induction entries generalizing seen with
  | nil => simp [AllAdmitted]
  | cons d entries ih =>
    rw [List.cons_append, AllAdmitted, AllAdmitted, ih, and_assoc, List.append_assoc]
    rfl

end Pass

lemma below_of_parentPath {path parent : Bytes} (h : parentPath path = some parent) :
    Paths.Below slash parent path := by
  rw [parentPath, Option.map_eq_some_iff] at h
  obtain ⟨split, hsplit, rfl⟩ := h
  exact Paths.below_of_rsplitOnce hsplit

lemma compare_trans {a b c : Bytes} (hab : compare a b = .lt) (hbc : compare b c = .lt) :
    compare a c = .lt := Std.TransCmp.lt_trans hab hbc

lemma paths_nodup {entries : List B4TreeEntryV1}
    (h : entries.Pairwise fun a b => compare a.path b.path = .lt) :
    (entries.map B4TreeEntryV1.path).Nodup := by
  apply List.pairwise_map.mpr
  refine h.imp fun hlt heq => ?_
  rw [heq] at hlt
  simp at hlt

lemma closed_concat {seen : List B4TreeEntryV1} {e : B4TreeEntryV1} :
    Closed (seen ++ [e]) ∧ totalBytes (seen ++ [e]) ≤ maxTotalFileBytes ↔
      (Closed seen ∧ totalBytes seen ≤ maxTotalFileBytes) ∧ Admits seen e := by
  constructor
  · intro h
    obtain ⟨h, htotal⟩ := h
    have hsorted := List.pairwise_append.mp h.sorted
    have hbefore : ∀ d ∈ seen, compare d.path e.path = .lt :=
      fun d hd => hsorted.2.2 d hd e List.mem_cons_self
    have hfold := h.foldUnique
    rw [List.map_append, List.nodup_append'] at hfold
    have hlast : ∀ last ∈ seen.getLast?, compare last.path e.path = .lt :=
      fun last hlast => hbefore last (List.mem_of_getLast? hlast)
    have hparent : ∀ d ∈ seen ++ [e], ∀ parent, parentPath d.path = some parent →
        .directory parent ∈ seen := by
      intro d hd parent hp
      obtain hmem | hmem := List.mem_append.mp (h.parents d hd parent hp)
      · exact hmem
      · -- the parent would be `e` itself, which no entry follows
        obtain rfl := (List.mem_singleton.mp hmem)
        have hlt := (below_of_parentPath hp).compare_lt
        obtain hd | hd := List.mem_append.mp hd
        · have := compare_trans (hbefore d hd) hlt
          simp at this
        · obtain rfl := List.mem_singleton.mp hd
          simp [B4TreeEntryV1.path] at hlt
    rw [totalBytes_concat] at htotal
    refine ⟨⟨⟨?_, ?_, hsorted.1, hfold.1, ?_, ?_⟩, by omega⟩, ⟨?_, ?_, hlast, ?_, ?_, ?_, ?_⟩⟩
    · exact fun d hd => h.valid d (List.mem_append_left _ hd)
    · exact fun d hd => h.unreserved d (List.mem_append_left _ hd)
    · exact fun d hd => hparent d (List.mem_append_left _ hd)
    · exact fun b p s hd => h.files b p s (List.mem_append_left _ hd)
    · exact h.valid e (by simp)
    · exact h.unreserved e (by simp)
    · exact fun hmem => hfold.2.2 hmem (by simp)
    · exact hparent e (by simp)
    · intro path he hmem
      have := hbefore _ hmem
      rw [he] at this
      simp at this
    · intro b p s he
      have hfile := h.files b p s (by simp [he])
      rw [he] at htotal
      exact ⟨hfile.1, hfile.2, htotal⟩
  · intro h
    obtain ⟨⟨h, htotal⟩, he⟩ := h
    have hbefore : ∀ d ∈ seen, compare d.path e.path = .lt := by
      intro d hd
      obtain ⟨initial, last, rfl⟩ := List.eq_nil_or_concat' seen |>.resolve_left (List.ne_nil_of_mem hd)
      have hlast := he.above last (by simp)
      obtain hd | hd := List.mem_append.mp hd
      · exact compare_trans ((List.pairwise_append.mp h.sorted).2.2 d hd last (by simp)) hlast
      · rwa [List.mem_singleton.mp hd]
    refine ⟨⟨?_, ?_, ?_, ?_, ?_, ?_⟩, ?_⟩
    · exact List.forall_mem_append.mpr ⟨h.valid, by simpa using he.valid⟩
    · exact List.forall_mem_append.mpr ⟨h.unreserved, by simpa using he.unreserved⟩
    · exact List.pairwise_append.mpr ⟨h.sorted, List.pairwise_singleton _ _, by simpa using hbefore⟩
    · rw [List.map_append, List.nodup_append']
      refine ⟨h.foldUnique, by simp, ?_⟩
      intro x hx hmem
      rw [List.map_singleton, List.mem_singleton] at hmem
      exact he.fold (hmem ▸ hx)
    · intro d hd parent hp
      apply List.mem_append_left
      obtain hd | hd := List.mem_append.mp hd
      · exact h.parents d hd parent hp
      · rw [List.mem_singleton.mp hd] at hp
        exact he.parent parent hp
    · intro b p s hmem
      obtain hmem | hmem := List.mem_append.mp hmem
      · exact h.files b p s hmem
      · have hfile := he.file b p s (List.mem_singleton.mp hmem).symm
        exact ⟨hfile.1, hfile.2.1⟩
    · rw [totalBytes_concat]
      cases e with
      | directory path => exact htotal
      | file b p s => exact (he.file b p s rfl).2.2

lemma allAdmitted_iff {entries : List B4TreeEntryV1} :
    AllAdmitted [] entries ↔ Closed entries ∧ totalBytes entries ≤ maxTotalFileBytes := by
  induction entries using List.reverseRecOn with
  | nil =>
    refine iff_of_true trivial ⟨⟨?_, ?_, .nil, .nil, ?_, ?_⟩, by decide⟩
    all_goals simp
  | append_singleton entries e ih => rw [allAdmitted_concat, ih, closed_concat, List.nil_append]

theorem validate_ok {manifest : Eip0045B4TreeManifestV1} :
    manifest.validate = .ok () ↔ ValidManifest manifest := by
  have hrun : ∀ p, manifest.entries.length ≤ maxTreeEntries →
      (Pass.start.entries 0 manifest.entries = .ok p ↔
        (Closed manifest.entries ∧ totalBytes manifest.entries ≤ maxTotalFileBytes) ∧
          p = passOf manifest.entries) := by
    intro p hbound
    have hstart : Pass.start = passOf [] := rfl
    rw [hstart, entries_ok (lt_of_le_of_lt hbound (by decide)), allAdmitted_iff, List.nil_append]
  simp only [Eip0045B4TreeManifestV1.validate, bind_ok, exists_unit, ensure_ok]
  constructor
  · intro h
    obtain ⟨hformat, hversion, ⟨hne, hbound⟩, p, hp, hdirectories, hfiles, htotal⟩ := h
    obtain ⟨⟨hclosed, hmax⟩, rfl⟩ := (hrun p hbound).mp hp
    exact ⟨hformat, hversion, hne, hbound, hclosed, hdirectories, hfiles, htotal, hmax⟩
  · intro h
    exact ⟨h.format, h.formatVersion, ⟨h.nonempty, h.bounded⟩, _,
      (hrun _ h.bounded).mpr ⟨⟨h.closed, h.totalBounded⟩, rfl⟩, h.directoryCount, h.fileCount,
      h.totalFileBytes⟩

end Eip0045.B4Tree
