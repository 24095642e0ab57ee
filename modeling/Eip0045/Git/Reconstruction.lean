import Eip0045.Git.Objects

/-! Which checkouts the reconstruction accepts, and that it returns Git's object ID of them. -/

namespace Eip0045.GitTree

open Bytes Checked Lexicographic

variable {sha1 : Bytes → Sha1Digest}

section Views

def leftOut (isRoot : Bool) (name : Bytes) : Bool :=
  isRoot && (name = dotGit || name = dotCargoOk)

def Listing.view : Bool → Listing → Tree
  | _, .empty => .empty
  | isRoot, .file name contents rest =>
    if leftOut isRoot name then rest.view isRoot
    else .blob name contents.executable contents.content (rest.view isRoot)
  | isRoot, .directory name children rest =>
    if leftOut isRoot name then rest.view isRoot
    else .tree name (children.view false) (rest.view isRoot)
  | isRoot, .special _ rest => rest.view isRoot

def Listing.names : Listing → List Bytes
  | .empty => []
  | .file name _ rest => name :: rest.names
  | .directory name _ rest => name :: rest.names
  | .special name rest => name :: rest.names

def Listing.Distinct : Listing → Prop
  | .empty => True
  | .file name _ rest => name ∉ rest.names ∧ rest.Distinct
  | .directory name children rest => name ∉ rest.names ∧ children.Distinct ∧ rest.Distinct
  | .special name rest => name ∉ rest.names ∧ rest.Distinct

/-- Directories and regular files only, with names of their own, the root's `.git` a directory,
its `.cargo-ok` a file and no `.git` below. -/
def Listing.Admitted : Bool → Listing → Prop
  | _, .empty => True
  | isRoot, .file name _ rest => NameOk name ∧ name ≠ dotGit ∧ rest.Admitted isRoot
  | isRoot, .directory name children rest => NameOk name ∧
      ((isRoot ∧ name = dotGit) ∨
        ¬(isRoot ∧ name = dotCargoOk) ∧ name ≠ dotGit ∧ children.Admitted false) ∧
      rest.Admitted isRoot
  | _, .special _ _ => False

lemma leftOut_iff {isRoot : Bool} {name : Bytes} :
    leftOut isRoot name = true ↔ isRoot ∧ (name = dotGit ∨ name = dotCargoOk) := by
  simp [leftOut]

lemma dotGit_ne : dotGit ≠ dotCargoOk := by decide

lemma admitEntry_ok {isRoot admitted : Bool} {name : Bytes} {fileType : FileType} :
    admitEntry isRoot name fileType = .ok admitted ↔ NameOk name ∧
      ((isRoot ∧ name = dotGit ∧ fileType = .directory ∧ admitted = false) ∨
        (isRoot ∧ name = dotCargoOk ∧ fileType = .regularFile ∧ admitted = false) ∨
        (leftOut isRoot name = false ∧ name ≠ dotGit ∧ admitted = true)) := by
  have hname : ¬(name = [] ∨ 0 ∈ name ∨ slash ∈ name) ↔ NameOk name := by
    rw [not_or, not_or]
    exact ⟨fun h => ⟨h.1, h.2.1, h.2.2⟩, fun h => ⟨h.nonempty, h.noNul, h.noSlash⟩⟩
  rw [admitEntry, bind_ok, exists_unit, ensure_ok, hname]
  apply and_congr_right
  intro _
  by_cases hgit : isRoot = true ∧ name = dotGit
  · rw [if_pos hgit, bind_ok, exists_unit, ensure_ok, pure_ok]
    have hout : leftOut isRoot name = true := leftOut_iff.mpr ⟨hgit.1, .inl hgit.2⟩
    constructor
    · intro h
      exact .inl ⟨hgit.1, hgit.2, h.1, h.2.symm⟩
    · intro h
      rcases h with ⟨-, -, htype, heq⟩ | ⟨-, hname, -⟩ | ⟨hnot, -⟩
      · exact ⟨htype, heq.symm⟩
      · exact absurd (hgit.2.symm.trans hname) dotGit_ne
      · rw [hout] at hnot
        cases hnot
  · rw [if_neg hgit]
    by_cases hcargo : isRoot = true ∧ name = dotCargoOk
    · rw [if_pos hcargo, bind_ok, exists_unit, ensure_ok, pure_ok]
      have hout : leftOut isRoot name = true := leftOut_iff.mpr ⟨hcargo.1, .inr hcargo.2⟩
      constructor
      · intro h
        exact .inr (.inl ⟨hcargo.1, hcargo.2, h.1, h.2.symm⟩)
      · intro h
        rcases h with ⟨-, hname, -⟩ | ⟨-, -, htype, heq⟩ | ⟨hnot, -⟩
        · exact absurd (hname.symm.trans hcargo.2) dotGit_ne
        · exact ⟨htype, heq.symm⟩
        · rw [hout] at hnot
          cases hnot
    · have hout : leftOut isRoot name = false := by
        rw [← Bool.not_eq_true, leftOut_iff]
        tauto
      rw [if_neg hcargo]
      simp only [bind_ok, exists_unit, ensure_ok, pure_ok, hout, true_and]
      constructor
      · intro h
        exact .inr (.inr ⟨h.1, h.2.symm⟩)
      · intro h
        rcases h with ⟨hroot, hname, -⟩ | ⟨hroot, hname, -⟩ | ⟨hne, heq⟩
        · exact absurd ⟨hroot, hname⟩ hgit
        · exact absurd ⟨hroot, hname⟩ hcargo
        · exact ⟨hne, heq.symm⟩

lemma admitFile_ok {isRoot admitted : Bool} {name : Bytes} :
    admitEntry isRoot name .regularFile = .ok admitted ↔
      (NameOk name ∧ name ≠ dotGit) ∧ admitted = !leftOut isRoot name := by
  rw [admitEntry_ok]
  constructor
  · intro h
    obtain ⟨hname, ⟨-, -, htype, -⟩ | ⟨hroot, hcargo, -, rfl⟩ | ⟨hout, hgit, rfl⟩⟩ := h
    · cases htype
    · refine ⟨⟨hname, hcargo ▸ dotGit_ne.symm⟩, ?_⟩
      rw [leftOut_iff.mpr ⟨hroot, .inr hcargo⟩, Bool.not_true]
    · exact ⟨⟨hname, hgit⟩, by rw [hout, Bool.not_false]⟩
  · intro h
    obtain ⟨⟨hname, hgit⟩, rfl⟩ := h
    refine ⟨hname, .inr ?_⟩
    cases hout : leftOut isRoot name with
    | true =>
      obtain ⟨hroot, hor⟩ := leftOut_iff.mp hout
      exact .inl ⟨hroot, hor.resolve_left hgit, rfl, rfl⟩
    | false => exact .inr ⟨rfl, hgit, rfl⟩

lemma admitDirectory_ok {isRoot admitted : Bool} {name : Bytes} :
    admitEntry isRoot name .directory = .ok admitted ↔
      NameOk name ∧ ((isRoot ∧ name = dotGit) ∨ ¬(isRoot ∧ name = dotCargoOk) ∧ name ≠ dotGit) ∧
        admitted = !leftOut isRoot name := by
  rw [admitEntry_ok]
  apply and_congr_right
  intro _
  constructor
  · intro h
    rcases h with ⟨hroot, hgit, -, rfl⟩ | ⟨-, -, htype, -⟩ | ⟨hout, hgit, rfl⟩
    · exact ⟨.inl ⟨hroot, hgit⟩, by rw [leftOut_iff.mpr ⟨hroot, .inl hgit⟩, Bool.not_true]⟩
    · cases htype
    · refine ⟨.inr ⟨?_, hgit⟩, by rw [hout, Bool.not_false]⟩
      intro hcargo
      rw [leftOut_iff.mpr ⟨hcargo.1, .inr hcargo.2⟩] at hout
      cases hout
  · intro h
    obtain ⟨⟨hroot, hgit⟩ | ⟨hcargo, hgit⟩, rfl⟩ := h
    · exact .inl ⟨hroot, hgit, rfl, by rw [leftOut_iff.mpr ⟨hroot, .inl hgit⟩, Bool.not_true]⟩
    · have hout : leftOut isRoot name = false := by
        rw [← Bool.not_eq_true, leftOut_iff]
        tauto
      exact .inr (.inr ⟨hout, hgit, by rw [hout, Bool.not_false]⟩)

lemma admitSpecial_ok {isRoot admitted : Bool} {name : Bytes}
    (h : admitEntry isRoot name .special = .ok admitted) : admitted = true := by
  obtain ⟨-, ⟨-, -, htype, -⟩ | ⟨-, -, htype, -⟩ | ⟨-, -, heq⟩⟩ := admitEntry_ok.mp h
  · cases htype
  · cases htype
  · exact heq

end Views

section Visible

lemma view_names {isRoot : Bool} {l : Listing} :
    ∀ name ∈ (l.view isRoot).names, name ∈ l.names := by
  induction l generalizing isRoot with
  | empty => exact fun _ h => h
  | file name contents rest ih =>
    rw [Listing.view]
    split
    · exact fun n h => List.mem_cons_of_mem _ (ih n h)
    · intro n h
      rcases List.mem_cons.mp h with rfl | h
      · exact List.mem_cons_self
      · exact List.mem_cons_of_mem _ (ih n h)
  | directory name children rest _ ih =>
    rw [Listing.view]
    split
    · exact fun n h => List.mem_cons_of_mem _ (ih n h)
    · intro n h
      rcases List.mem_cons.mp h with rfl | h
      · exact List.mem_cons_self
      · exact List.mem_cons_of_mem _ (ih n h)
  | special name rest ih => exact fun n h => List.mem_cons_of_mem _ (ih n h)

lemma view_distinct {isRoot : Bool} {l : Listing} (h : l.Distinct) : (l.view isRoot).Distinct := by
  induction l generalizing isRoot with
  | empty => trivial
  | file name contents rest ih =>
    rw [Listing.view]
    split
    · exact ih h.2
    · exact ⟨fun hmem => h.1 (view_names name hmem), ih h.2⟩
  | directory name children rest ihc ih =>
    rw [Listing.view]
    split
    · exact ih h.2.2
    · exact ⟨fun hmem => h.1 (view_names name hmem), ihc h.2.1, ih h.2.2⟩
  | special name rest ih => exact ih h.2

lemma view_named {isRoot : Bool} {l : Listing} (h : l.Admitted isRoot) :
    (l.view isRoot).Named := by
  induction l generalizing isRoot with
  | empty => trivial
  | file name contents rest ih =>
    rw [Listing.view]
    split
    · exact ih h.2.2
    · exact ⟨h.1, ih h.2.2⟩
  | directory name children rest ihc ih =>
    obtain ⟨hname, hgit | ⟨-, -, hchildren⟩, hrest⟩ := h
    · rw [Listing.view, if_pos (leftOut_iff.mpr ⟨hgit.1, .inl hgit.2⟩)]
      exact ih hrest
    · rw [Listing.view]
      split
      · exact ih hrest
      · exact ⟨hname, ihc hchildren, ih hrest⟩
  | special name rest ih => exact absurd h id

lemma view_sound {isRoot : Bool} {l : Listing} (hd : l.Distinct) (ha : l.Admitted isRoot) :
    Sound ((l.view isRoot).items sha1) := Tree.sound sha1 (view_named ha) (view_distinct hd)

end Visible

section Collect

lemma collectEntries_ok {directory : List Bytes} {isRoot : Bool} {l : Listing}
    {entries : List GitTreeEntry} (hd : l.Distinct) :
    collectEntries sha1 directory isRoot l = .ok entries ↔
      l.Admitted isRoot ∧ entries = ((l.view isRoot).items sha1).map codeEntry := by
  induction l generalizing directory isRoot entries with
  | empty =>
    rw [collectEntries, pure_ok, eq_comm]
    exact ⟨fun h => ⟨trivial, h⟩, fun h => h.2⟩
  | file name contents rest ih =>
    have hrest : ∀ others, collectEntries sha1 directory isRoot rest = .ok others ↔
        rest.Admitted isRoot ∧ others = ((rest.view isRoot).items sha1).map codeEntry :=
      fun _ => ih hd.2
    simp only [collectEntries, bind_ok, admitFile_ok, Listing.Admitted, Listing.view]
    cases hout : leftOut isRoot name with
    | true =>
      simp only [Bool.not_true, if_true]
      constructor
      · intro h
        obtain ⟨_, ⟨⟨hname, hgit⟩, rfl⟩, hrun⟩ := h
        obtain ⟨hadmitted, heq⟩ := (hrest _).mp hrun
        exact ⟨⟨hname, hgit, hadmitted⟩, heq⟩
      · intro h
        obtain ⟨⟨hname, hgit, hadmitted⟩, heq⟩ := h
        exact ⟨_, ⟨⟨hname, hgit⟩, rfl⟩, (hrest _).mpr ⟨hadmitted, heq⟩⟩
    | false =>
      simp only [Bool.not_false, Bool.false_eq_true, if_false]
      constructor
      · intro h
        obtain ⟨_, ⟨⟨hname, hgit⟩, rfl⟩, hrun⟩ := h
        rw [if_pos rfl, hashGitBlob_ok, ok_bind, bind_ok] at hrun
        obtain ⟨others, hothers, hentries⟩ := hrun
        obtain ⟨hadmitted, rfl⟩ := (hrest _).mp hothers
        exact ⟨⟨hname, hgit, hadmitted⟩, (pure_ok.mp hentries).symm⟩
      · intro h
        obtain ⟨⟨hname, hgit, hadmitted⟩, rfl⟩ := h
        refine ⟨_, ⟨⟨hname, hgit⟩, rfl⟩, ?_⟩
        rw [if_pos rfl, hashGitBlob_ok, ok_bind, (hrest _).mpr ⟨hadmitted, rfl⟩]
        rfl
  | directory name children rest ihc ih =>
    have hrest : ∀ others, collectEntries sha1 directory isRoot rest = .ok others ↔
        rest.Admitted isRoot ∧ others = ((rest.view isRoot).items sha1).map codeEntry :=
      fun _ => ih hd.2.2
    have hinside : ∀ inside, collectEntries sha1 (directory ++ [name]) false children = .ok inside ↔
        children.Admitted false ∧ inside = ((children.view false).items sha1).map codeEntry :=
      fun _ => ihc hd.2.1
    simp only [collectEntries, bind_ok, admitDirectory_ok, Listing.Admitted, Listing.view]
    cases hout : leftOut isRoot name with
    | true =>
      obtain ⟨hroot, hor⟩ := leftOut_iff.mp hout
      simp only [Bool.not_true, if_true]
      constructor
      · intro h
        obtain ⟨_, ⟨hname, hwhy, rfl⟩, hrun⟩ := h
        obtain ⟨hadmitted, heq⟩ := (hrest _).mp hrun
        refine ⟨⟨hname, .inl ?_, hadmitted⟩, heq⟩
        rcases hwhy with hgit | ⟨hcargo, hgit⟩
        · exact hgit
        · exact absurd ⟨hroot, hor.resolve_left hgit⟩ hcargo
      · intro h
        obtain ⟨⟨hname, hwhy, hadmitted⟩, heq⟩ := h
        refine ⟨_, ⟨hname, ?_, rfl⟩, (hrest _).mpr ⟨hadmitted, heq⟩⟩
        exact hwhy.imp_right fun h => ⟨h.1, h.2.1⟩
    | false =>
      have hnot : ¬(isRoot = true ∧ name = dotGit) := by
        intro hgit
        rw [leftOut_iff.mpr ⟨hgit.1, .inl hgit.2⟩] at hout
        cases hout
      simp only [Bool.not_false, Bool.false_eq_true, if_false]
      constructor
      · intro h
        obtain ⟨_, ⟨hname, hwhy, rfl⟩, hrun⟩ := h
        rw [if_pos rfl, bind_ok] at hrun
        obtain ⟨inside, hchildren, hrun⟩ := hrun
        obtain ⟨hadmittedInside, rfl⟩ := (hinside _).mp hchildren
        obtain ⟨others, hothers, hentries⟩ := bind_ok.mp hrun
        obtain ⟨hadmitted, rfl⟩ := (hrest _).mp hothers
        obtain ⟨hcargo, hgit⟩ := hwhy.resolve_left hnot
        refine ⟨⟨hname, .inr ⟨hcargo, hgit, hadmittedInside⟩, hadmitted⟩, ?_⟩
        rw [← pure_ok.mp hentries, hashEntries_items (view_sound hd.2.1 hadmittedInside)]
        rfl
      · intro h
        obtain ⟨⟨hname, hwhy, hadmitted⟩, rfl⟩ := h
        obtain ⟨hcargo, hgit, hadmittedInside⟩ := hwhy.resolve_left hnot
        refine ⟨_, ⟨hname, .inr ⟨hcargo, hgit⟩, rfl⟩, ?_⟩
        rw [if_pos rfl, (hinside _).mpr ⟨hadmittedInside, rfl⟩, ok_bind,
          (hrest _).mpr ⟨hadmitted, rfl⟩, ok_bind,
          hashEntries_items (view_sound hd.2.1 hadmittedInside)]
        rfl
  | special name rest ih =>
    rw [collectEntries, bind_ok]
    constructor
    · intro h
      obtain ⟨admitted, hadmit, hrun⟩ := h
      rw [if_pos (admitSpecial_ok hadmit)] at hrun
      cases hrun
    · intro h
      exact absurd h.1 id

lemma computeGitTree_ok {l : Listing} (hd : l.Distinct) {digest : Sha1Digest} :
    computeGitTree sha1 (.directory l) = .ok digest ↔
      l.Admitted true ∧ digest = (l.view true).id sha1 := by
  simp only [computeGitTree, hashGitDirectory, bind_ok, collectEntries_ok hd, pure_ok]
  constructor
  · intro h
    obtain ⟨_, ⟨hadmitted, rfl⟩, rfl⟩ := h
    exact ⟨hadmitted, hashEntries_items (view_sound hd hadmitted)⟩
  · intro h
    obtain ⟨hadmitted, rfl⟩ := h
    exact ⟨_, ⟨hadmitted, rfl⟩, hashEntries_items (view_sound hd hadmitted)⟩

end Collect

end Eip0045.GitTree
