import Mathlib
import Eip0045.Corpus.TreeManifest

/-! What the recursive walk over a corpus tree accepts and which entries it appends. -/

namespace Eip0045.B4Tree

open Bytes Checked FileTree

section Text

lemma utf8EncodeChar_ascii : ∀ n < 128, String.utf8EncodeChar (Char.ofNat n) = [UInt8.ofNat n] := by
  decide

lemma isValidUTF8_ascii {bytes : Bytes} (h : ∀ c ∈ bytes, c.toNat < 128) :
    (⟨bytes.toArray⟩ : ByteArray).IsValidUTF8 := by
  induction bytes with
  | nil => exact ByteArray.isValidUTF8_empty
  | cons c bytes ih =>
    have hrest := ih fun d hd => h d (List.mem_cons_of_mem c hd)
    have hc := utf8EncodeChar_ascii c.toNat (h c List.mem_cons_self)
    rw [UInt8.ofNat_toNat] at hc
    have hfirst : (⟨#[c]⟩ : ByteArray).IsValidUTF8 := by
      have hchar := (Char.ofNat c.toNat).isValidUTF8_toByteArray_utf8EncodeChar
      rwa [hc] at hchar
    have happend : (⟨(c :: bytes).toArray⟩ : ByteArray) = ⟨#[c]⟩ ++ ⟨bytes.toArray⟩ := by
      apply ByteArray.ext
      simp
    rw [happend]
    exact hfirst.append hrest

lemma isUtf8_of_valid {names : List FileName} (h : validateRelativePath (join names) = .ok ()) :
    names.all (fun name => isUtf8 name.bytes) = true := by
  rw [List.all_eq_true]
  intro name hname
  apply ByteArray.validateUTF8_eq_true_iff.mpr
  apply isValidUTF8_ascii
  intro c hc
  simp only [validateRelativePath, bind_ok, exists_unit, ensure_ok] at h
  have hall := List.all_eq_true.mp h.2.1 c (mem_join hname hc)
  simp only [Bool.and_eq_true, decide_eq_true_eq] at hall
  exact Nat.lt_of_le_of_lt (UInt8.le_iff_toNat_le.mp hall.2) (by decide)

end Text

variable {host : Host}

structure NodeOk (b : List FileName × Node Leaf) : Prop where
  valid : validateRelativePath (join b.1) = .ok ()
  reserved : isReserved (join b.1) = true → (join b.1 = b4TreeManifestPath ∨ join b.1 = b4LockPath) ∧
    ∃ links contents, b.2 = .leaf (.file links contents)
  listed : isReserved (join b.1) = false → b.2 = .directory ∨
    ∃ contents : Bytes, b.2 = .leaf (.file 1 contents) ∧ contents.length ≤ maxFileBytes

def fileEntry (host : Host) (names : List FileName) (contents : Bytes) : B4TreeEntryV1 :=
  .file (UInt64.ofNat contents.length) (join names) (Hex.encode (host.sha256 contents).val)

/-- The entry that a manifest holds for one entry of the tree. -/
def describe (host : Host) (names : List FileName) : Node Leaf → List B4TreeEntryV1
  | .directory => [.directory (join names)]
  | .leaf (.file _ contents) => [fileEntry host names contents]
  | .leaf _ => []

def listed (host : Host) (b : List FileName × Node Leaf) : List B4TreeEntryV1 :=
  if isReserved (join b.1) = true then [] else describe host b.1 b.2

section Hash

lemma hashReads_ok {names : List FileName} {limit : ℕ} (hlimit : limit < 2 ^ 64) {unread : Bytes}
    {observed : ℕ} {hashed : Bytes} (h : observed + unread.length ≤ limit) :
    hashReads host names limit unread observed hashed =
      .ok (observed + unread.length, hashed ++ unread) := by
  induction unread, observed, hashed using hashReads.induct with
  | case1 observed hashed =>
    rw [hashReads, dif_pos rfl]
    simp [pure, Except.pure]
  | case2 unread observed hashed hne buffer ih =>
    have hbuffer : (unread.take hashBufferBytes).length = buffer.length := rfl
    have hlength : buffer.length + (unread.drop hashBufferBytes).length = unread.length := by
      rw [← List.length_append, List.take_append_drop]
    have hrest := ih (observed + buffer.length) (by omega)
    rw [hashReads, dif_neg hne]
    simp only [bind_ok, exists_unit, context_ok, ensure_ok, checkedAdd_eq_some]
    refine ⟨observed + buffer.length, ⟨by omega, rfl⟩, by omega, ?_⟩
    rw [hrest, List.append_assoc, List.take_append_drop, Nat.add_assoc, hlength]

lemma hashRegularFile_ok {names : List FileName} {node : Node Leaf} {r : UInt64 × Bytes} :
    hashRegularFile host names node = .ok r ↔ ∃ contents : Bytes,
      node = .leaf (.file 1 contents) ∧ contents.length ≤ maxFileBytes ∧
        r = (UInt64.ofNat contents.length, Hex.encode (host.sha256 contents).val) := by
  simp only [hashRegularFile, rejectLinkOrReparse, requireSingleLink, bind_ok, exists_unit,
    ensure_ok, context_ok, pure_ok, checkedAdd_eq_some]
  constructor
  · intro h
    obtain ⟨-, htype, hlen, hlinks, limit, ⟨-, rfl⟩, hashed, hreads, -, rfl⟩ := h
    obtain _ | (⟨links, contents⟩ | _ | _) := node
    all_goals try cases htype
    have hlt : contents.length < 2 ^ 64 := lt_of_le_of_lt hlen (by decide)
    obtain rfl : links = 1 := hlinks
    have htake : (readable (.leaf (.file 1 contents))).take (contents.length + 1) = contents :=
      List.take_of_length_le (Nat.le_succ _)
    rw [symlinkMetadata, htake, hashReads_ok hlt (by omega)] at hreads
    cases hreads
    exact ⟨contents, rfl, hlen, by simp⟩
  · intro h
    obtain ⟨contents, rfl, hlen, rfl⟩ := h
    have hlt : contents.length + 1 < 2 ^ 64 := lt_of_le_of_lt (Nat.succ_le_succ hlen) (by decide)
    have htake : (readable (.leaf (.file 1 contents))).take (contents.length + 1) = contents :=
      List.take_of_length_le (Nat.le_succ _)
    refine ⟨by simp [symlinkMetadata], rfl, hlen, rfl, contents.length + 1, ⟨hlt, rfl⟩,
      (contents.length, contents), ?_, rfl, rfl⟩
    rw [symlinkMetadata, htake, hashReads_ok (Nat.lt_of_succ_lt hlt) (by omega)]
    simp

end Hash

section Walk

/-- A walk that stops unless `C` holds and the bound is kept, and appends `w`. -/
def Appends (walk : Walk) (C : Prop) (w : List B4TreeEntryV1) : Prop :=
  ∀ entries out, entries.length ≤ maxTreeEntries →
    (walk entries = .ok out ↔ C ∧ (entries ++ w).length ≤ maxTreeEntries ∧ out = entries ++ w)

/-- The same of a walk that checks the bound before it starts. -/
def Extends (walk : Walk) (C : Prop) (w : List B4TreeEntryV1) : Prop :=
  ∀ entries out,
    walk entries = .ok out ↔ C ∧ (entries ++ w).length ≤ maxTreeEntries ∧ out = entries ++ w

lemma appends_foldlM {children : List (FileName × Walk)} {pieces : List (Prop × List B4TreeEntryV1)}
    (h : List.Forall₂ (fun child piece => Appends child.2 piece.1 piece.2) children pieces) :
    Appends (fun entries => children.foldlM (fun entries child => child.2 entries) entries)
      (∀ piece ∈ pieces, piece.1) (pieces.flatMap Prod.snd) := by
  induction h with
  | nil =>
    intro entries out hentries
    simp only [List.foldlM_nil, pure_ok, List.flatMap_nil, List.append_nil, List.not_mem_nil,
      false_implies, implies_true, hentries, true_and]
    exact eq_comm
  | @cons child piece children pieces hchild _ ih =>
    intro entries out hentries
    simp only [List.foldlM_cons, bind_ok, List.forall_mem_cons, List.flatMap_cons,
      ← List.append_assoc]
    constructor
    · intro h
      obtain ⟨next, hnext, hrest⟩ := h
      obtain ⟨hpiece, hbound, rfl⟩ := (hchild entries next hentries).mp hnext
      obtain ⟨hpieces, hlength, hout⟩ := (ih _ out hbound).mp hrest
      exact ⟨⟨hpiece, hpieces⟩, hlength, hout⟩
    · intro h
      obtain ⟨⟨hpiece, hpieces⟩, hlength, hout⟩ := h
      have hbound : (entries ++ piece.2).length ≤ maxTreeEntries := by
        rw [List.length_append] at hlength
        omega
      exact ⟨_, (hchild entries _ hentries).mpr ⟨hpiece, hbound, rfl⟩,
        (ih _ out hbound).mpr ⟨hpieces, hlength, hout⟩⟩

lemma extends_visitChildren {names : List FileName} {children : List (FileName × Walk)}
    {pieces : List (Prop × List B4TreeEntryV1)}
    (h : List.Forall₂ (fun child piece => Appends child.2 piece.1 piece.2) children pieces) :
    ∃ w, w.Perm (pieces.flatMap Prod.snd) ∧
      Extends (visitChildren host names children) (∀ piece ∈ pieces, piece.1) w := by
  have hperm := List.mergeSort_perm children
    fun left right => (compare left.1.bytes right.1.bytes).isLE
  obtain ⟨sorted, hsorted, hpieces⟩ := List.perm_comp_forall₂ hperm h
  refine ⟨sorted.flatMap Prod.snd, hpieces.flatMap_right _, ?_⟩
  intro entries out
  have hmem : (∀ piece ∈ sorted, piece.1) ↔ ∀ piece ∈ pieces, piece.1 :=
    forall_congr' fun piece => imp_congr_left hpieces.mem_iff
  have hrun := appends_foldlM hsorted entries out
  rw [hmem] at hrun
  have hdirectory : (symlinkMetadata .directory).fileType = .directory := rfl
  simp only [visitChildren, ensureEntryBound, rejectLinkOrReparse, bind_ok, exists_unit, ensure_ok]
  constructor
  · intro h
    exact (hrun h.1).mp h.2.2.2
  · intro h
    have hentries : entries.length ≤ maxTreeEntries := by
      have := h.2.1
      rw [List.length_append] at this
      omega
    exact ⟨hentries, by simp [hdirectory], hdirectory, (hrun hentries).mpr h⟩

/-- What the walk appends on its way down from an entry. -/
def descended (w : List B4TreeEntryV1) : Node Leaf → List B4TreeEntryV1
  | .directory => w
  | .leaf _ => []

lemma visitListed_ok {names : List FileName} {node : Node Leaf} {descend : Walk} {C : Prop}
    {w : List B4TreeEntryV1} (h : node = .directory → Extends descend C w)
    {entries out : List B4TreeEntryV1} :
    (visitListed host names (join names) node descend entries = .ok out ∧
      out.length ≤ maxTreeEntries) ↔
    ((node = .directory ∨ ∃ contents : Bytes, node = .leaf (.file 1 contents) ∧
        contents.length ≤ maxFileBytes) ∧ (node = .directory → C)) ∧
      (entries ++ (describe host names node ++ descended w node)).length ≤ maxTreeEntries ∧
        out = entries ++ (describe host names node ++ descended w node) := by
  obtain _ | (⟨links, contents⟩ | _ | _) := node
  · have hvisit : visitListed host names (join names) .directory descend entries =
        descend (entries ++ [.directory (join names)]) := rfl
    rw [hvisit, h rfl, describe, descended, List.append_assoc]
    constructor
    · intro h
      exact ⟨⟨.inl rfl, fun _ => h.1.1⟩, h.1.2⟩
    · intro h
      exact ⟨⟨h.1.2 rfl, h.2⟩, h.2.2 ▸ h.2.1⟩
  · simp only [visitListed, symlinkMetadata, bind_ok, hashRegularFile_ok, pure_ok, describe,
      descended, List.append_nil, reduceCtorEq, false_or, false_implies, and_true]
    constructor
    · intro h
      obtain ⟨⟨hashed, ⟨contents', hfile, hlen, rfl⟩, rfl⟩, hbound⟩ := h
      cases hfile
      exact ⟨⟨contents, rfl, hlen⟩, hbound, rfl⟩
    · intro h
      obtain ⟨⟨contents', hfile, hlen⟩, hbound, rfl⟩ := h
      cases hfile
      exact ⟨⟨_, ⟨contents, rfl, hlen, rfl⟩, rfl⟩, hbound⟩
  · simp [visitListed, symlinkMetadata]
  · simp [visitListed, symlinkMetadata]

lemma visitReserved_ok {relative : Bytes} {node : Node Leaf} :
    visitReserved relative node = .ok () ↔
      (relative = b4TreeManifestPath ∨ relative = b4LockPath) ∧
        ∃ links contents, node = .leaf (.file links contents) := by
  simp only [visitReserved, bind_ok, exists_unit, ensure_ok]
  apply and_congr_right'
  obtain _ | (⟨links, contents⟩ | _ | _) := node <;> simp [symlinkMetadata]

lemma appends_visitChild {names : List FileName} {node : Node Leaf} {descend : Walk} {C : Prop}
    {w : List B4TreeEntryV1} (h : node = .directory → Extends descend C w) :
    Appends (visitChild host names node descend)
      (NodeOk (names, node) ∧ (node = .directory → C))
      (listed host (names, node) ++ descended w node) := by
  intro entries out hentries
  have hlink : ∀ ok : NodeOk (names, node), (symlinkMetadata node).fileType ≠ .symlink := by
    intro ok
    cases hreserved : isReserved (join names) with
    | true =>
      obtain ⟨links, contents, hnode⟩ := (ok.reserved hreserved).2
      obtain rfl : node = _ := hnode
      simp [symlinkMetadata]
    | false =>
      obtain hnode | ⟨contents, hnode, -⟩ := ok.listed hreserved
      all_goals
        obtain rfl : node = _ := hnode
        simp [symlinkMetadata]
  simp only [visitChild, repositoryRelative, rejectLinkOrReparse, ensureEntryBound, bind_ok,
    exists_unit, ensure_ok, pure_ok]
  cases hreserved : isReserved (join names) with
  | true =>
    constructor
    · intro h
      obtain ⟨_, ⟨-, rfl⟩, hvalid, -, hrest⟩ := h
      rw [if_pos hreserved] at hrest
      simp only [bind_ok, exists_unit, visitReserved_ok, pure_ok] at hrest
      obtain ⟨hok, rfl⟩ := hrest
      obtain ⟨links, contents, rfl⟩ := hok.2
      have hlisted : listed host (names, .leaf (.file links contents)) ++
          descended w (.leaf (.file links contents)) = [] := by simp [listed, hreserved, descended]
      rw [hlisted, List.append_nil]
      refine ⟨⟨⟨hvalid, fun _ => hok, fun hno => ?_⟩, by simp⟩, hentries, rfl⟩
      rw [hreserved] at hno
      cases hno
    · intro h
      obtain ⟨⟨ok, -⟩, -, hout⟩ := h
      refine ⟨join names, ⟨isUtf8_of_valid ok.valid, rfl⟩, ok.valid, hlink ok, ?_⟩
      rw [if_pos hreserved]
      simp only [bind_ok, exists_unit, visitReserved_ok, pure_ok]
      refine ⟨ok.reserved hreserved, ?_⟩
      obtain ⟨links, contents, hnode⟩ := (ok.reserved hreserved).2
      obtain rfl : node = _ := hnode
      simpa [listed, hreserved, descended] using hout.symm
  | false =>
    have hlisted : listed host (names, node) = describe host names node := by
      simp [listed, hreserved]
    rw [hlisted]
    have hvisit := @visitListed_ok host names node descend C w h entries out
    constructor
    · intro h
      obtain ⟨_, ⟨-, rfl⟩, hvalid, -, hrest⟩ := h
      rw [if_neg (by simp [hreserved])] at hrest
      simp only [bind_ok, exists_unit, ensure_ok, pure_ok] at hrest
      obtain ⟨next, hnext, hbound, rfl⟩ := hrest
      obtain ⟨⟨hkind, hC⟩, hout⟩ := hvisit.mp ⟨hnext, hbound⟩
      refine ⟨⟨⟨hvalid, fun hno => ?_, fun _ => hkind⟩, hC⟩, hout⟩
      rw [hreserved] at hno
      cases hno
    · intro h
      obtain ⟨⟨ok, hC⟩, hout⟩ := h
      refine ⟨join names, ⟨isUtf8_of_valid ok.valid, rfl⟩, ok.valid, hlink ok, ?_⟩
      rw [if_neg (by simp [hreserved])]
      simp only [bind_ok, exists_unit, ensure_ok, pure_ok]
      obtain ⟨hnext, hbound⟩ := hvisit.mpr ⟨⟨ok.listed hreserved, hC⟩, hout⟩
      exact ⟨out, hnext, hbound, rfl⟩

lemma childVisits_pieces (parents : List FileName) (d : Directory Leaf) :
    ∃ pieces : List (Prop × List B4TreeEntryV1),
      List.Forall₂ (fun child piece => Appends child.2 piece.1 piece.2)
        (childVisits host parents d) pieces ∧
      ((∀ piece ∈ pieces, piece.1) ↔ ∀ b ∈ d.nodes parents, NodeOk b) ∧
      (pieces.flatMap Prod.snd).Perm ((d.nodes parents).flatMap (listed host)) := by
  induction d generalizing parents with
  | empty => exact ⟨[], .nil, by simp [Directory.nodes], .nil⟩
  | leaf name contents rest ih =>
    obtain ⟨pieces, hpieces, hok, hperm⟩ := ih parents
    have hchild := @appends_visitChild host (parents ++ [name]) (.leaf contents) pure True [] fun h => by cases h
    refine ⟨(_, _) :: pieces, .cons hchild hpieces, ?_, ?_⟩
    · simp only [List.forall_mem_cons, hok, Directory.nodes, reduceCtorEq, false_implies, and_true]
    · simp only [List.flatMap_cons, Directory.nodes, descended, List.append_nil]
      exact hperm.append_left _
  | directory name children rest ihc ihr =>
    obtain ⟨below, hbelow, hokbelow, hpermbelow⟩ := ihc (parents ++ [name])
    obtain ⟨pieces, hpieces, hok, hperm⟩ := ihr parents
    obtain ⟨w, hw, hextends⟩ := @extends_visitChildren host (parents ++ [name]) _ _ hbelow
    have hchild := @appends_visitChild host (parents ++ [name]) .directory _ _ w fun _ => hextends
    refine ⟨(_, _) :: pieces, .cons hchild hpieces, ?_, ?_⟩
    · simp only [List.forall_mem_cons, hok, hokbelow, Directory.nodes, forall_const,
        List.forall_mem_append, and_assoc]
    · simp only [List.flatMap_cons, Directory.nodes, descended, List.flatMap_append,
        List.append_assoc]
      exact ((hw.trans hpermbelow).append hperm).append_left _

/-- The walk accepts a tree whose every entry it accepts, and lists it in some order. -/
theorem collectTreeEntries_ok (tree : FileTree Leaf) :
    ∃ w, w.Perm (tree.nodes.flatMap (listed host)) ∧ ∀ out,
      collectTreeEntries host [] tree.root [] = .ok out ↔
        (∀ b ∈ tree.nodes, NodeOk b) ∧ w.length ≤ maxTreeEntries ∧ out = w := by
  obtain ⟨pieces, hpieces, hok, hperm⟩ := @childVisits_pieces host [] tree.root
  obtain ⟨w, hw, hextends⟩ := @extends_visitChildren host [] _ _ hpieces
  refine ⟨w, hw.trans hperm, fun out => ?_⟩
  have hrun := hextends [] out
  rw [hok, List.nil_append] at hrun
  exact hrun

end Walk

end Eip0045.B4Tree
