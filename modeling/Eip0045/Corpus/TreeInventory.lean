import Mathlib
import Eip0045.Corpus.TreeClosure
import Eip0045.Corpus.TreeWalk

/-! Derived tree manifests are faithful inventories of the trees they are derived from. -/

namespace Eip0045.B4Tree

open Bytes Checked FileTree

variable {host : Host} {tree : FileTree Leaf} {manifest : Eip0045B4TreeManifestV1}

section Listing

/-- The entries of a tree that its manifest lists. -/
def listedNodes (tree : FileTree Leaf) : List (List FileName × Node Leaf) :=
  tree.nodes.filter fun b => !isReserved (join b.1)

/-- The manifest entry of a directory or file. -/
def entryOf (host : Host) : List FileName × Node Leaf → B4TreeEntryV1
  | (names, .leaf (.file _ contents)) => fileEntry host names contents
  | (names, _) => .directory (join names)

structure Acceptable (tree : FileTree Leaf) : Prop where
  nodes : ∀ b ∈ tree.nodes, NodeOk b
  foldUnique : (tree.nodes.map fun b => toAsciiLowercase (join b.1)).Nodup
  someListed : listedNodes tree ≠ []
  countBounded : (listedNodes tree).length ≤ maxTreeEntries
  bytesBounded : ((listedNodes tree).map fun b => (readable b.2).length).sum ≤ maxTotalFileBytes

lemma mem_listedNodes {b : List FileName × Node Leaf} :
    b ∈ listedNodes tree ↔ b ∈ tree.nodes ∧ isReserved (join b.1) = false := by
  simp [listedNodes, List.mem_filter]

@[simp] lemma entryOf_path (b : List FileName × Node Leaf) : (entryOf host b).path = join b.1 := by
  obtain ⟨names, _ | (_ | _ | _)⟩ := b <;> rfl

lemma describe_eq {b : List FileName × Node Leaf} (hok : NodeOk b)
    (hlisted : isReserved (join b.1) = false) : describe host b.1 b.2 = [entryOf host b] := by
  obtain ⟨names, node⟩ := b
  obtain hnode | ⟨contents, hnode, -⟩ := hok.listed hlisted
  all_goals
    obtain rfl : node = _ := hnode
    rfl

lemma flatMap_listed {nodes : List (List FileName × Node Leaf)} (h : ∀ b ∈ nodes, NodeOk b) :
    nodes.flatMap (listed host) =
      (nodes.filter fun b => !isReserved (join b.1)).map (entryOf host) := by
  induction nodes with
  | nil => rfl
  | cons b nodes ih =>
    rw [List.flatMap_cons, ih fun c hc => h c (List.mem_cons_of_mem b hc), List.filter_cons]
    cases hreserved : isReserved (join b.1) with
    | true => simp [listed, hreserved]
    | false => simp [listed, hreserved, describe_eq (h b List.mem_cons_self) hreserved]

lemma entryOf_fileBytes {b : List FileName × Node Leaf} (hok : NodeOk b)
    (hlisted : isReserved (join b.1) = false) :
    (entryOf host b).fileBytes = (readable b.2).length := by
  obtain ⟨names, node⟩ := b
  obtain hnode | ⟨contents, hnode, hlength⟩ := hok.listed hlisted
  all_goals obtain rfl : node = _ := hnode
  · rfl
  · have hlt : contents.length < 2 ^ 64 := lt_of_le_of_lt hlength (by decide)
    change (UInt64.ofNat contents.length).toNat = contents.length
    rw [UInt64.toNat_ofNat']
    exact Nat.mod_eq_of_lt hlt

end Listing

section Derive

lemma sorted_by_path (entries : List B4TreeEntryV1) :
    (entries.mergeSort fun left right => (compare left.path right.path).isLE).Pairwise
      fun a b => (compare a.path b.path).isLE := by
  apply List.pairwise_mergeSort
  · exact fun a b c hab hbc => Std.TransCmp.isLE_trans hab hbc
  · intro a b
    have hswap : compare a.path b.path = (compare b.path a.path).swap := Std.OrientedCmp.eq_swap
    rw [hswap]
    cases compare b.path a.path <;> rfl

lemma eq_mergeSort {entries w : List B4TreeEntryV1} (hperm : w.Perm entries)
    (hsorted : entries.Pairwise fun a b => compare a.path b.path = .lt) :
    (w.mergeSort fun left right => (compare left.path right.path).isLE) = entries := by
  have hsort := List.mergeSort_perm w fun left right => (compare left.path right.path).isLE
  refine List.Perm.eq_of_pairwise ?_ (sorted_by_path w) (hsorted.imp fun h => by simp [h])
    (hsort.trans hperm)
  intro a b ha hb hab hba
  apply Keyed.eq_of_key (paths_nodup hsorted) ((hsort.trans hperm).mem_iff.mp ha) hb
  exact Std.LawfulEqOrd.eq_of_compare (Std.OrientedCmp.isLE_antisymm hab hba)

lemma addFileBytes_ok {entries : List B4TreeEntryV1} {total : UInt64}
    (h : total.toNat + totalBytes entries < 2 ^ 64) :
    entries.foldlM addFileBytes total = .ok (UInt64.ofNat (total.toNat + totalBytes entries)) := by
  induction entries generalizing total with
  | nil =>
    rw [List.foldlM_nil, pure_ok]
    simp [totalBytes]
  | cons e entries ih =>
    have hcons : totalBytes (e :: entries) = e.fileBytes + totalBytes entries := by
      simp [totalBytes]
    rw [hcons, ← Nat.add_assoc] at h ⊢
    have hnext : (UInt64.ofNat (total.toNat + e.fileBytes)).toNat = total.toNat + e.fileBytes := by
      rw [UInt64.toNat_ofNat']
      exact Nat.mod_eq_of_lt (Nat.lt_of_le_of_lt (Nat.le_add_right _ _) h)
    rw [List.foldlM_cons, bind_ok]
    refine ⟨UInt64.ofNat (total.toNat + e.fileBytes), ?_, ?_⟩
    · simp only [addFileBytes, bind_ok, context_ok, checkedAdd_eq_some, pure_ok]
      exact ⟨_, ⟨Nat.lt_of_le_of_lt (Nat.le_add_right _ _) h, rfl⟩, rfl⟩
    · rw [ih (by rwa [hnext]), hnext]

lemma tryU32_ok {n : ℕ} {word : UInt32} (h : n = word.toNat) : tryU32 n = some word := by
  have hlt : n < 2 ^ 32 := h ▸ word.toNat_lt
  rw [tryU32, if_pos hlt, h, UInt32.ofNat_toNat]

/-- A manifest is derived exactly when every entry of the tree is accepted, the manifest passes its
check, and it lists the listed entries. -/
theorem deriveTreeSnapshot_ok : deriveTreeSnapshot host tree = .ok manifest ↔
    (∀ b ∈ tree.nodes, NodeOk b) ∧ ValidManifest manifest ∧
      manifest.entries.Perm ((listedNodes tree).map (entryOf host)) := by
  obtain ⟨w, hw, hcollect⟩ := @collectTreeEntries_ok host tree
  have hlisting : (∀ b ∈ tree.nodes, NodeOk b) →
      w.Perm ((listedNodes tree).map (entryOf host)) := by
    intro hok
    rwa [flatMap_listed hok] at hw
  simp only [deriveTreeSnapshot, bind_ok, exists_unit, context_ok, validate_ok, pure_ok, hcollect]
  constructor
  · intro h
    obtain ⟨_, ⟨hok, -, rfl⟩, directoryCount, -, fileCount, -, total, -, hvalid, rfl⟩ := h
    exact ⟨hok, hvalid, (List.mergeSort_perm _ _).trans (hlisting hok)⟩
  · intro h
    obtain ⟨hok, hvalid, hperm⟩ := h
    have hentries := (hlisting hok).trans hperm.symm
    have hsort := eq_mergeSort hentries hvalid.closed.sorted
    have hlength : w.length ≤ maxTreeEntries := hentries.length_eq ▸ hvalid.bounded
    have htotal : totalBytes manifest.entries < 2 ^ 64 :=
      lt_of_le_of_lt hvalid.totalBounded (by decide)
    have hzero : (0 : UInt64).toNat + totalBytes manifest.entries = totalBytes manifest.entries :=
      Nat.zero_add _
    refine ⟨w, ⟨hok, hlength, rfl⟩, ?_⟩
    rw [hsort]
    refine ⟨manifest.directoryCount, tryU32_ok hvalid.directoryCount, manifest.fileCount,
      tryU32_ok hvalid.fileCount, manifest.totalFileBytes, ?_, ?_⟩
    · rw [addFileBytes_ok (hzero.trans_lt htotal), hzero, hvalid.totalFileBytes, UInt64.ofNat_toNat]
    · rw [← hvalid.format, ← hvalid.formatVersion]
      exact ⟨hvalid, rfl⟩

lemma foldUnique_of_listed (hok : ∀ b ∈ tree.nodes, NodeOk b)
    (h : ((listedNodes tree).map fun b => toAsciiLowercase (join b.1)).Nodup) :
    (tree.nodes.map fun b => toAsciiLowercase (join b.1)).Nodup := by
  have hnodes : tree.nodes.Nodup := List.Nodup.of_map _ tree.distinct
  refine (List.nodup_map_iff_inj_on hnodes).mpr ?_
  intro b hb c hc hfold
  have hreserved : isReserved (join b.1) = isReserved (join c.1) := by rw [isReserved, hfold]; rfl
  cases hlisted : isReserved (join b.1) with
  | false =>
    exact Keyed.eq_of_key h (mem_listedNodes.mpr ⟨hb, hlisted⟩)
      (mem_listedNodes.mpr ⟨hc, hreserved ▸ hlisted⟩) hfold
  | true =>
    -- both have the exact spelling of the reserved path that they are alike to
    have hb' := ((hok b hb).reserved hlisted).1
    have hc' := ((hok c hc).reserved (hreserved ▸ hlisted)).1
    have hjoin : join b.1 = join c.1 := by
      obtain h | h := hb' <;> obtain h' | h' := hc' <;> rw [h, h'] at hfold ⊢
      · exact absurd hfold (by decide)
      · exact absurd hfold (by decide)
    exact Keyed.eq_of_key tree.distinct hb hc (join_injective hjoin)

lemma perm_bytes (hok : ∀ b ∈ tree.nodes, NodeOk b)
    {entries : List B4TreeEntryV1} (hperm : entries.Perm ((listedNodes tree).map (entryOf host))) :
    totalBytes entries = ((listedNodes tree).map fun b => (readable b.2).length).sum := by
  rw [totalBytes, (hperm.map _).sum_eq, List.map_map]
  congr 1
  apply List.map_congr_left
  intro b hb
  have hb := mem_listedNodes.mp hb
  exact entryOf_fileBytes (hok b hb.1) hb.2

lemma perm_folds {entries : List B4TreeEntryV1}
    (hperm : entries.Perm ((listedNodes tree).map (entryOf host))) :
    (entries.map fun e => toAsciiLowercase e.path).Perm
      ((listedNodes tree).map fun b => toAsciiLowercase (join b.1)) := by
  have hmap := hperm.map fun e => toAsciiLowercase e.path
  rw [List.map_map] at hmap
  simpa [Function.comp_def] using hmap

lemma acceptable_of_derived (h : deriveTreeSnapshot host tree = .ok manifest) : Acceptable tree := by
  obtain ⟨hok, hvalid, hperm⟩ := deriveTreeSnapshot_ok.mp h
  have hlength : manifest.entries.length = (listedNodes tree).length := by
    rw [hperm.length_eq, List.length_map]
  refine ⟨hok, foldUnique_of_listed hok ?_, ?_, hlength ▸ hvalid.bounded, ?_⟩
  · exact (perm_folds hperm).nodup_iff.mp hvalid.closed.foldUnique
  · intro hnil
    rw [hnil] at hlength
    exact hvalid.nonempty (List.eq_nil_of_length_eq_zero hlength)
  · rw [← perm_bytes hok hperm]
    exact hvalid.totalBounded

lemma closed_of_acceptable (h : Acceptable tree) {entries : List B4TreeEntryV1}
    (hperm : entries.Perm ((listedNodes tree).map (entryOf host)))
    (hsorted : entries.Pairwise fun a b => (compare a.path b.path).isLE) : Closed entries := by
  have hmem : ∀ e ∈ entries, ∃ b ∈ listedNodes tree, e = entryOf host b := by
    intro e he
    obtain ⟨b, hb, rfl⟩ := List.mem_map.mp (hperm.mem_iff.mp he)
    exact ⟨b, hb, rfl⟩
  have hfolds : (entries.map fun e => toAsciiLowercase e.path).Nodup := by
    apply (perm_folds hperm).nodup_iff.mpr
    exact h.foldUnique.sublist (List.filter_sublist.map _)
  refine ⟨?_, ?_, ?_, hfolds, ?_, ?_⟩
  · intro e he
    obtain ⟨b, hb, rfl⟩ := hmem e he
    rw [entryOf_path]
    exact (h.nodes b (mem_listedNodes.mp hb).1).valid
  · intro e he
    obtain ⟨b, hb, rfl⟩ := hmem e he
    rw [entryOf_path]
    exact (mem_listedNodes.mp hb).2
  · refine (hsorted.and (List.pairwise_map.mp hfolds)).imp fun hpair => ?_
    obtain ⟨hle, hne⟩ := hpair
    rename_i a b
    cases hcompare : compare a.path b.path with
    | lt => rfl
    | eq => exact absurd (congrArg toAsciiLowercase (Std.LawfulEqOrd.eq_of_compare hcompare)) hne
    | gt => rw [hcompare] at hle; cases hle
  · intro e he parent hparent
    obtain ⟨b, hb, rfl⟩ := hmem e he
    obtain ⟨hnode, -⟩ := mem_listedNodes.mp hb
    obtain ⟨above, name, hnames, habove⟩ := Directory.nodes_closed hnode
    rw [entryOf_path, hnames, parentPath, rsplitOnce_join] at hparent
    split_ifs at hparent with hroot
    · cases hparent
    obtain rfl : join above = parent := Option.some.inj hparent
    have hdirectory : (above, .directory) ∈ tree.nodes := habove.resolve_left hroot
    have hunreserved : isReserved (join above) = false := by
      by_contra hreserved
      obtain ⟨links, contents, hfile⟩ :=
        ((h.nodes _ hdirectory).reserved (Bool.eq_true_of_not_eq_false hreserved)).2
      cases hfile
    exact hperm.mem_iff.mpr (List.mem_map.mpr ⟨_, mem_listedNodes.mpr ⟨hdirectory, hunreserved⟩, rfl⟩)
  · intro byteLength path sha256 he
    obtain ⟨⟨names, node⟩, hb, heq⟩ := hmem _ he
    obtain ⟨hnode, hlisted⟩ := mem_listedNodes.mp hb
    have hbytes := @entryOf_fileBytes host _ (h.nodes _ hnode) hlisted
    rw [← heq] at hbytes
    obtain hdirectory | ⟨contents, hfile, hlength⟩ := (h.nodes _ hnode).listed hlisted
    · obtain rfl : node = _ := hdirectory
      cases heq
    · obtain rfl : node = _ := hfile
      cases heq
      refine ⟨hbytes.trans_le hlength, ?_, Hex.encode_isLower _⟩
      rw [Hex.encode_length, ByteArr.val_length]

lemma derived_of_acceptable (h : Acceptable tree) :
    ∃ manifest, deriveTreeSnapshot host tree = .ok manifest := by
  let entries := ((listedNodes tree).map (entryOf host)).mergeSort fun left right =>
    (compare left.path right.path).isLE
  have hperm : entries.Perm ((listedNodes tree).map (entryOf host)) := List.mergeSort_perm _ _
  have hsorted : entries.Pairwise fun a b => (compare a.path b.path).isLE := sorted_by_path _
  have hlength : entries.length = (listedNodes tree).length := by
    rw [hperm.length_eq, List.length_map]
  have hbound : entries.length < 2 ^ 32 := by
    rw [hlength]
    exact lt_of_le_of_lt h.countBounded (by decide)
  have htotal : totalBytes entries ≤ maxTotalFileBytes := by
    rw [perm_bytes h.nodes hperm]
    exact h.bytesBounded
  refine ⟨⟨b4TreeManifestFormat, b4TreeManifestFormatVersion, entries,
    UInt32.ofNat (entries.countP B4TreeEntryV1.isDirectory),
    UInt32.ofNat (entries.countP B4TreeEntryV1.isFile), UInt64.ofNat (totalBytes entries)⟩,
    deriveTreeSnapshot_ok.mpr ⟨h.nodes, ⟨rfl, rfl, ?_, ?_, closed_of_acceptable h hperm hsorted, ?_,
      ?_, ?_, htotal⟩, hperm⟩⟩
  · intro hnil
    rw [show entries = [] from hnil] at hlength
    exact h.someListed (List.eq_nil_of_length_eq_zero hlength.symm)
  · exact hlength.trans_le h.countBounded
  · rw [UInt32.toNat_ofNat', Nat.mod_eq_of_lt (lt_of_le_of_lt List.countP_le_length hbound)]
  · rw [UInt32.toNat_ofNat', Nat.mod_eq_of_lt (lt_of_le_of_lt List.countP_le_length hbound)]
  · rw [UInt64.toNat_ofNat', Nat.mod_eq_of_lt (lt_of_le_of_lt htotal (by decide))]

end Derive

section Shapes

structure FileIdentity where
  byteLength : UInt64
  sha256 : Bytes

def shapeEntry (names : List FileName) : Node FileIdentity → B4TreeEntryV1
  | .directory => .directory (join names)
  | .leaf file => .file file.byteLength (join names) file.sha256

/-- A manifest lists exactly the entries of a tree shape. -/
def Inventories (manifest : Eip0045B4TreeManifestV1) (shape : TreeShape FileIdentity) : Prop :=
  ∀ e, e ∈ manifest.entries ↔
    ∃ names node, names ≠ [] ∧ shape.entry names = some node ∧ e = shapeEntry names node

def nodeOf : B4TreeEntryV1 → Node FileIdentity
  | .directory _ => .directory
  | .file byteLength _ sha256 => .leaf ⟨byteLength, sha256⟩

@[simp] lemma shapeEntry_path (names : List FileName) (node : Node FileIdentity) :
    (shapeEntry names node).path = join names := by cases node <;> rfl

@[simp] lemma nodeOf_shapeEntry (names : List FileName) (node : Node FileIdentity) :
    nodeOf (shapeEntry names node) = node := by cases node <;> rfl

lemma shapeEntry_nodeOf {names : List FileName} {e : B4TreeEntryV1} (h : e.path = join names) :
    shapeEntry names (nodeOf e) = e := by
  cases e with
  | directory path =>
    obtain rfl : path = join names := h
    rfl
  | file byteLength path sha256 =>
    obtain rfl : path = join names := h
    rfl

lemma shapeEntry_injective {names names' : List FileName} {node node' : Node FileIdentity}
    (h : shapeEntry names node = shapeEntry names' node') : names = names' ∧ node = node' := by
  have hpath := congrArg B4TreeEntryV1.path h
  have hnode := congrArg nodeOf h
  rw [shapeEntry_path, shapeEntry_path] at hpath
  rw [nodeOf_shapeEntry, nodeOf_shapeEntry] at hnode
  exact ⟨join_injective hpath, hnode⟩

lemma entry_of_inventories {shape : TreeShape FileIdentity} (h : Inventories manifest shape)
    {names : List FileName} {node : Node FileIdentity} (hnames : names ≠ []) :
    shape.entry names = some node ↔ shapeEntry names node ∈ manifest.entries := by
  rw [h]
  constructor
  · exact fun hentry => ⟨names, node, hnames, hentry, rfl⟩
  · intro hmem
    obtain ⟨names', node', -, hentry, heq⟩ := hmem
    obtain ⟨rfl, rfl⟩ := shapeEntry_injective heq
    exact hentry

lemma components_of_valid {path : Bytes} (h : validateRelativePath path = .ok ()) :
    ∃ names, names ≠ [] ∧ join names = path := by
  simp only [validateRelativePath, bind_ok, exists_unit, ensure_ok, List.all_eq_true] at h
  apply exists_join
  intro c hc
  have hcomponent := h.2.2.2 c hc
  simp only [isAmbiguousComponent, Bool.not_eq_true', Bool.or_eq_false_iff, beq_eq_false_iff_ne]
    at hcomponent
  exact ⟨hcomponent.1.1.1.1.1, hcomponent.1.1.1.1.2, hcomponent.1.1.1.2⟩

/-- The entry that a manifest lists under a path. -/
def findEntry (manifest : Eip0045B4TreeManifestV1) (path : Bytes) : Option B4TreeEntryV1 :=
  manifest.entries.find? fun e => e.path = path

lemma findEntry_eq_some (h : Closed manifest.entries) {path : Bytes} {e : B4TreeEntryV1} :
    findEntry manifest path = some e ↔ e ∈ manifest.entries ∧ e.path = path := by
  constructor
  · intro hfind
    exact ⟨List.mem_of_find?_eq_some hfind, by simpa using List.find?_some hfind⟩
  · intro he
    obtain ⟨hmem, rfl⟩ := he
    exact Keyed.find?_key (paths_nodup h.sorted) hmem

/-- What a manifest has under a list of names. -/
def manifestEntry (manifest : Eip0045B4TreeManifestV1) (names : List FileName) :
    Option (Node FileIdentity) :=
  if names = [] then some .directory else (findEntry manifest (join names)).map nodeOf

lemma manifestEntry_eq_some (h : Closed manifest.entries) {names : List FileName}
    (hnames : names ≠ []) {node : Node FileIdentity} :
    manifestEntry manifest names = some node ↔ shapeEntry names node ∈ manifest.entries := by
  rw [manifestEntry, if_neg hnames, Option.map_eq_some_iff]
  constructor
  · intro hfind
    obtain ⟨e, he, rfl⟩ := hfind
    obtain ⟨hmem, hpath⟩ := (findEntry_eq_some h).mp he
    rwa [shapeEntry_nodeOf hpath]
  · intro hmem
    exact ⟨_, (findEntry_eq_some h).mpr ⟨hmem, shapeEntry_path names node⟩, nodeOf_shapeEntry names node⟩

/-- The tree shape that a closed manifest spells out. -/
def manifestShape (manifest : Eip0045B4TreeManifestV1) (h : Closed manifest.entries) :
    TreeShape FileIdentity where
  entry := manifestEntry manifest
  root := if_pos rfl
  closed := by
    intro parents name hentry
    by_cases hparents : parents = []
    · exact if_pos hparents
    · obtain ⟨node, hnode⟩ := Option.ne_none_iff_exists'.mp hentry
      have hmem := (manifestEntry_eq_some h (by simp)).mp hnode
      have hparent : parentPath (shapeEntry (parents ++ [name]) node).path = some (join parents) := by
        rw [shapeEntry_path, parentPath, rsplitOnce_join, if_neg hparents]
        rfl
      exact (manifestEntry_eq_some h hparents).mpr (h.parents _ hmem _ hparent)
  finite := by
    have hfinite : {names : List FileName |
        join names ∈ manifest.entries.map B4TreeEntryV1.path}.Finite :=
      (List.finite_toSet _).preimage join_injective.injOn
    refine (hfinite.insert []).subset fun names hentry => ?_
    by_cases hnames : names = []
    · exact .inl hnames
    · right
      obtain ⟨node, hnode⟩ := Option.ne_none_iff_exists'.mp hentry
      have hmem := (manifestEntry_eq_some h hnames).mp hnode
      exact List.mem_map.mpr ⟨_, hmem, shapeEntry_path names node⟩

lemma inventories_manifestShape (h : Closed manifest.entries) :
    Inventories manifest (manifestShape manifest h) := by
  intro e
  constructor
  · intro he
    obtain ⟨names, hnames, hjoin⟩ := components_of_valid (h.valid e he)
    have hentry := shapeEntry_nodeOf hjoin.symm
    exact ⟨names, nodeOf e, hnames, (manifestEntry_eq_some h hnames).mpr (by rwa [hentry]), hentry.symm⟩
  · intro he
    obtain ⟨names, node, hnames, hentry, rfl⟩ := he
    exact (manifestEntry_eq_some h hnames).mp hentry

lemma existsUnique_shape (h : Closed manifest.entries) : ∃! shape, Inventories manifest shape := by
  refine ⟨manifestShape manifest h, inventories_manifestShape h, ?_⟩
  intro shape hshape
  apply TreeShape.ext
  intro names
  by_cases hnames : names = []
  · rw [hnames, shape.root, (manifestShape manifest h).root]
  · apply Option.ext
    intro node
    rw [entry_of_inventories hshape hnames,
      entry_of_inventories (inventories_manifestShape h) hnames]

/-- What a manifest says of an entry of a tree. -/
def identify (host : Host) : Node Leaf → Option (Node FileIdentity)
  | .directory => some .directory
  | .leaf (.file _ contents) =>
    some (.leaf ⟨UInt64.ofNat contents.length, Hex.encode (host.sha256 contents).val⟩)
  | .leaf _ => none

/-- The two paths that a manifest leaves out, in their exact spelling. -/
def ReservedNames (names : List FileName) : Prop :=
  join names = b4TreeManifestPath ∨ join names = b4LockPath

/-- A shape is that of a tree without its reserved files. -/
structure Depicts (host : Host) (tree : FileTree Leaf) (shape : TreeShape FileIdentity) : Prop where
  listed : ∀ names, ¬ReservedNames names → shape.entry names = (tree.entry names).bind (identify host)
  reserved : ∀ names, ReservedNames names → shape.entry names = none

lemma entryOf_shapeEntry {names : List FileName} {node : Node Leaf} {identity : Node FileIdentity}
    (h : identify host node = some identity) :
    entryOf host (names, node) = shapeEntry names identity := by
  obtain _ | (_ | _ | _) := node <;> cases h <;> rfl

lemma exists_identify (host : Host) {b : List FileName × Node Leaf} (hok : NodeOk b)
    (hlisted : isReserved (join b.1) = false) : ∃ identity, identify host b.2 = some identity := by
  obtain ⟨names, node⟩ := b
  obtain hnode | ⟨contents, hnode, -⟩ := hok.listed hlisted
  all_goals
    obtain rfl : node = _ := hnode
    exact ⟨_, rfl⟩

lemma isReserved_of_names {names : List FileName} (h : ReservedNames names) :
    isReserved (join names) = true := by
  obtain h | h := h <;> rw [h] <;> decide

lemma unreserved_of_names (hok : ∀ b ∈ tree.nodes, NodeOk b) {names : List FileName}
    {node : Node Leaf} (hmem : (names, node) ∈ tree.nodes) (h : ¬ReservedNames names) :
    isReserved (join names) = false := by
  by_contra hreserved
  exact h ((hok _ hmem).reserved (Bool.eq_true_of_not_eq_false hreserved)).1

lemma depicts_of_inventories (hok : ∀ b ∈ tree.nodes, NodeOk b)
    (hperm : manifest.entries.Perm ((listedNodes tree).map (entryOf host)))
    {shape : TreeShape FileIdentity} (hshape : Inventories manifest shape) :
    Depicts host tree shape := by
  have hmem : ∀ {names identity}, names ≠ [] → (shape.entry names = some identity ↔
      ∃ node, (names, node) ∈ listedNodes tree ∧ identify host node = some identity) := by
    intro names identity hnames
    rw [entry_of_inventories hshape hnames, hperm.mem_iff, List.mem_map]
    constructor
    · intro h
      obtain ⟨⟨names', node⟩, hb, heq⟩ := h
      obtain ⟨hnode, hlisted⟩ := mem_listedNodes.mp hb
      obtain ⟨identity', hidentity⟩ := exists_identify host (hok _ hnode) hlisted
      rw [entryOf_shapeEntry hidentity] at heq
      obtain ⟨rfl, rfl⟩ := shapeEntry_injective heq
      exact ⟨node, hb, hidentity⟩
    · intro h
      obtain ⟨node, hb, hidentity⟩ := h
      exact ⟨_, hb, entryOf_shapeEntry hidentity⟩
  refine ⟨?_, ?_⟩
  · intro names hreserved
    by_cases hnames : names = []
    · rw [hnames, shape.root]
      rfl
    · apply Option.ext
      intro identity
      rw [hmem hnames, Option.bind_eq_some_iff]
      apply exists_congr
      intro node
      rw [mem_listedNodes, entry_eq_some hnames]
      apply and_congr_left'
      exact and_iff_left_of_imp fun hnode => unreserved_of_names hok hnode hreserved
  · intro names hreserved
    have hnames : names ≠ [] := by
      rintro rfl
      exact absurd hreserved (by rw [ReservedNames]; decide)
    apply Option.eq_none_iff_forall_ne_some.mpr
    intro identity hentry
    obtain ⟨node, hb, -⟩ := (hmem hnames).mp hentry
    have hlisted := (mem_listedNodes.mp hb).2
    rw [isReserved_of_names hreserved] at hlisted
    cases hlisted

end Shapes

section Equality

variable {tree' : FileTree Leaf}

def SameExceptReserved (tree tree' : FileTree Leaf) : Prop :=
  ∀ names, ¬ReservedNames names → tree.entry names = tree'.entry names

/-- No file of the one tree collides under SHA-256 with another file of the other. -/
def NoCollision (host : Host) (tree tree' : FileTree Leaf) : Prop :=
  ∀ names names' links links' contents contents',
    tree.entry names = some (.leaf (.file links contents)) →
    tree'.entry names' = some (.leaf (.file links' contents')) →
    host.sha256 contents = host.sha256 contents' → contents = contents'

lemma kind_of_entry (hok : ∀ b ∈ tree.nodes, NodeOk b) {names : List FileName} {node : Node Leaf}
    (hreserved : ¬ReservedNames names) (h : tree.entry names = some node) :
    node = .directory ∨ ∃ contents, node = .leaf (.file 1 contents) := by
  by_cases hnames : names = []
  · subst hnames
    exact .inl (Option.some.inj h).symm
  · have hmem := (entry_eq_some hnames).mp h
    obtain hnode | ⟨contents, hnode, -⟩ :=
      (hok _ hmem).listed (unreserved_of_names hok hmem hreserved)
    · exact .inl hnode
    · exact .inr ⟨contents, hnode⟩

lemma identify_injective (hsha : NoCollision host tree tree') (hok : ∀ b ∈ tree.nodes, NodeOk b)
    (hok' : ∀ b ∈ tree'.nodes, NodeOk b) {names : List FileName} (hreserved : ¬ReservedNames names)
    {node node' : Node Leaf} (h : tree.entry names = some node) (h' : tree'.entry names = some node')
    (heq : identify host node = identify host node') : node = node' := by
  obtain rfl | ⟨contents, rfl⟩ := kind_of_entry hok hreserved h
  all_goals obtain rfl | ⟨contents', rfl⟩ := kind_of_entry hok' hreserved h'
  · rfl
  · cases heq
  · cases heq
  · simp only [identify, Option.some.injEq, Node.leaf.injEq, FileIdentity.mk.injEq] at heq
    rw [hsha _ _ _ _ _ _ h h' (Hex.encode_injective heq.2)]

lemma identify_ne_none (hok : ∀ b ∈ tree.nodes, NodeOk b) {names : List FileName}
    (hreserved : ¬ReservedNames names) {node : Node Leaf} (h : tree.entry names = some node) :
    identify host node ≠ none := by
  obtain rfl | ⟨contents, rfl⟩ := kind_of_entry hok hreserved h <;> simp [identify]

lemma same_of_derived (hsha : NoCollision host tree tree')
    (h : deriveTreeSnapshot host tree = .ok manifest)
    (h' : deriveTreeSnapshot host tree' = .ok manifest) : SameExceptReserved tree tree' := by
  obtain ⟨hok, hvalid, hperm⟩ := deriveTreeSnapshot_ok.mp h
  obtain ⟨hok', -, hperm'⟩ := deriveTreeSnapshot_ok.mp h'
  have hshape := inventories_manifestShape hvalid.closed
  have hdepicts := depicts_of_inventories hok hperm hshape
  have hdepicts' := depicts_of_inventories hok' hperm' hshape
  intro names hreserved
  have hidentify := (hdepicts.listed names hreserved).symm.trans (hdepicts'.listed names hreserved)
  cases hnode : tree.entry names with
  | none =>
    cases hnode' : tree'.entry names with
    | none => rfl
    | some node' =>
      rw [hnode, hnode'] at hidentify
      exact absurd hidentify.symm (identify_ne_none hok' hreserved hnode')
  | some node =>
    cases hnode' : tree'.entry names with
    | none =>
      rw [hnode, hnode'] at hidentify
      exact absurd hidentify (identify_ne_none hok hreserved hnode)
    | some node' =>
      rw [hnode, hnode'] at hidentify
      rw [identify_injective hsha hok hok' hreserved hnode hnode' hidentify]

end Equality

/-- Tree manifests are faithful inventories. -/
theorem tree_manifests_faithful (host : Host) :
    (∀ tree, (∃ manifest, deriveTreeSnapshot host tree = .ok manifest) ↔ Acceptable tree) ∧
    (∀ tree manifest, deriveTreeSnapshot host tree = .ok manifest → manifest.validate = .ok () ∧
      ∀ shape, Inventories manifest shape → Depicts host tree shape) ∧
    (∀ tree tree' manifest, NoCollision host tree tree' →
      deriveTreeSnapshot host tree = .ok manifest → deriveTreeSnapshot host tree' = .ok manifest →
        SameExceptReserved tree tree') ∧
    ∀ manifest : Eip0045B4TreeManifestV1, manifest.validate = .ok () →
      ValidManifest manifest ∧ ∃! shape, Inventories manifest shape := by
  refine ⟨?_, ?_, ?_, ?_⟩
  · intro tree
    exact ⟨fun ⟨_, h⟩ => acceptable_of_derived h, derived_of_acceptable⟩
  · intro tree manifest h
    obtain ⟨hok, hvalid, hperm⟩ := deriveTreeSnapshot_ok.mp h
    exact ⟨validate_ok.mpr hvalid, fun shape hshape => depicts_of_inventories hok hperm hshape⟩
  · intro tree tree' manifest hsha h h'
    exact same_of_derived hsha h h'
  · intro manifest h
    have hvalid := validate_ok.mp h
    exact ⟨hvalid, existsUnique_shape hvalid.closed⟩

end Eip0045.B4Tree
