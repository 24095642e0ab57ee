import Eip0045.Corpus.TreeWalk
import Eip0045.Quarantine.Walks

/-! What the walks of the quarantine accept, and the files that they collect. -/

namespace Eip0045.Quarantine

open Bytes Checked FileTree Windows

section Paths

lemma validateRelativePath_ok {path : Bytes} : validateRelativePath path = .ok () ↔
    (path ≠ [] ∧ (∀ byte ∈ path, byte < 128) ∧ path.head? ≠ some slash ∧ 92 ∉ path) ∧
      ∀ segment ∈ path.splitOn slash, isSafeSegment segment = true := by
  simp only [validateRelativePath, bind_ok, exists_unit, ensure_ok, List.all_eq_true, decide_eq_true_eq]
  tauto

lemma isSafeSegment_ne {segment : Bytes} (h : isSafeSegment segment = true) :
    segment ≠ [] ∧ segment ≠ utf8 "." ∧ segment ≠ utf8 ".." := by
  refine ⟨?_, ?_, ?_⟩
  · rintro rfl
    exact absurd h (by decide)
  · rintro rfl
    exact absurd h (by decide)
  · rintro rfl
    exact absurd h (by decide)

lemma fileName_bytes (name : FileName) : fileName name.bytes = some name := by
  rw [fileName, dif_pos ⟨name.nonempty, name.noSlash, name.ordinary⟩]

lemma pathFromPosix_join {names : List FileName} (h : names ≠ []) : pathFromPosix (join names) = names := by
  rw [pathFromPosix, splitOn_join h, List.filterMap_map]
  have hsome : fileName ∘ FileName.bytes = some := funext fileName_bytes
  rw [hsome, List.filterMap_some]

lemma exists_names {path : Bytes} (h : validateRelativePath path = .ok ()) :
    ∃ names, names ≠ [] ∧ join names = path ∧ pathFromPosix path = names := by
  obtain ⟨names, hnames, hjoin⟩ := exists_join fun c hc =>
    isSafeSegment_ne ((validateRelativePath_ok.mp h).2 c hc)
  exact ⟨names, hnames, hjoin, by rw [← hjoin, pathFromPosix_join hnames]⟩

lemma canonical_utf8 {names : List FileName} (h : validateRelativePath (join names) = .ok ()) :
    names.all (fun name => B4Tree.isUtf8 name.bytes) = true := by
  rw [List.all_eq_true]
  intro name hname
  apply ByteArray.validateUTF8_eq_true_iff.mpr
  apply B4Tree.isValidUTF8_ascii
  intro c hc
  exact UInt8.lt_iff_toNat_lt.mp ((validateRelativePath_ok.mp h).1.2.1 c (mem_join hname hc))

lemma repositoryRelative_ok {names : List FileName} {relative : Bytes} :
    repositoryRelative names = .ok relative ↔
      names.all (fun name => B4Tree.isUtf8 name.bytes) = true ∧ relative = join names := by
  simp only [repositoryRelative, bind_ok, exists_unit, ensure_ok, pure_ok]
  exact and_congr_right fun _ => eq_comm

lemma join_below {quarantine names : List FileName} (hq : quarantine ≠ []) (hn : names ≠ []) :
    join quarantine ++ [slash] <+: join names ↔ quarantine <+: names ∧ quarantine ≠ names := by
  have hcomponents : quarantine <+: names ↔
      join quarantine = join names ∨ Paths.Below slash (join quarantine) (join names) := by
    rw [← Paths.splitOn_prefix_iff, splitOn_join hq, splitOn_join hn]
    exact (List.prefix_map_iff_of_injective fun _ _ => FileName.ext).symm
  rw [hcomponents]
  constructor
  · intro h
    refine ⟨.inr h, fun heq => ?_⟩
    have hself : Paths.Below slash (join quarantine) (join quarantine) := by
      rw [heq] at h ⊢
      exact h
    exact Paths.Below.irrefl _ hself
  · rintro ⟨h | h, hne⟩
    · exact absurd (join_injective h) hne
    · exact h

end Paths

section Walks

variable {quarantine names : List FileName} {d : Directory CandidateNode}

/-- The path and the bytes of a regular file. -/
def regularFile (b : List FileName × Node CandidateNode) : Option (Bytes × Bytes) :=
  match b.2 with
  | .leaf (.regular bytes) => some (join b.1, bytes)
  | _ => none

/-- What the walk below the quarantine root asks of an entry. -/
structure NodeCanonical (b : List FileName × Node CandidateNode) : Prop where
  canonical : validateRelativePath (join b.1) = .ok ()
  leaf : ∀ node, b.2 = .leaf node → ∃ bytes, node = .regular bytes

/-- What the other walks ask of an entry outside the quarantine. -/
structure NodePlain (b : List FileName × Node CandidateNode) : Prop where
  leaf : ∀ node, b.2 = .leaf node →
    (∃ bytes, node = .regular bytes) ∧ b.1.all (fun name => B4Tree.isUtf8 name.bytes) = true

lemma regularFile_eq_some {b : List FileName × Node CandidateNode} {file : Bytes × Bytes} :
    regularFile b = some file ↔ b.2 = .leaf (.regular file.2) ∧ file.1 = join b.1 := by
  obtain ⟨names, node⟩ := b
  obtain ⟨path, bytes⟩ := file
  cases node with
  | directory => simp [regularFile]
  | leaf contents => cases contents <;> simp [regularFile, eq_comm, and_comm]

lemma collectCandidateFiles_ok {paths : List Bytes} : collectCandidateFiles names d = .ok paths ↔
    (∀ b ∈ d.nodes names, NodeCanonical b) ∧
      paths = ((d.nodes names).filterMap regularFile).map Prod.fst := by
  induction d generalizing names paths with
  | empty =>
    rw [collectCandidateFiles, pure_ok, eq_comm]
    simp [Directory.nodes]
  | leaf name node rest ih =>
    have hfirst : NodeCanonical (names ++ [name], .leaf node) ↔
        validateRelativePath (join (names ++ [name])) = .ok () ∧ ∃ bytes, node = .regular bytes := by
      constructor
      · exact fun h => ⟨h.canonical, h.leaf node rfl⟩
      · rintro ⟨hcanonical, hregular⟩
        refine ⟨hcanonical, ?_⟩
        rintro _ ⟨⟩
        exact hregular
    simp only [collectCandidateFiles, bind_ok, exists_unit, repositoryRelative_ok, Directory.nodes,
      List.forall_mem_cons, hfirst]
    constructor
    · rintro ⟨relative, ⟨-, rfl⟩, hcanonical, hnode⟩
      cases node with
      | special => cases hnode
      | link resolves => cases hnode
      | regular bytes =>
        dsimp only at hnode
        simp only [bind_ok, ih, pure_ok] at hnode
        obtain ⟨others, ⟨hrest, rfl⟩, rfl⟩ := hnode
        exact ⟨⟨⟨hcanonical, bytes, rfl⟩, hrest⟩, rfl⟩
    · rintro ⟨⟨⟨hcanonical, bytes, rfl⟩, hrest⟩, rfl⟩
      refine ⟨_, ⟨canonical_utf8 hcanonical, rfl⟩, hcanonical, ?_⟩
      dsimp only
      simp only [bind_ok, ih, pure_ok]
      exact ⟨_, ⟨hrest, rfl⟩, rfl⟩
  | directory name children rest ihc ihr =>
    have hfirst : NodeCanonical (names ++ [name], .directory) ↔
        validateRelativePath (join (names ++ [name])) = .ok () :=
      ⟨fun h => h.canonical, fun h => ⟨h, fun _ hleaf => (by cases hleaf)⟩⟩
    simp only [collectCandidateFiles, bind_ok, exists_unit, repositoryRelative_ok, Directory.nodes,
      List.forall_mem_cons, List.forall_mem_append, hfirst, ihc, ihr, pure_ok]
    constructor
    · rintro ⟨relative, ⟨-, rfl⟩, hcanonical, _, ⟨hbelow, rfl⟩, _, ⟨hrest, rfl⟩, rfl⟩
      refine ⟨⟨hcanonical, hbelow, hrest⟩, ?_⟩
      rw [List.filterMap_cons_none rfl, List.filterMap_append, List.map_append]
    · rintro ⟨⟨hcanonical, hbelow, hrest⟩, rfl⟩
      refine ⟨_, ⟨canonical_utf8 hcanonical, rfl⟩, hcanonical, _, ⟨hbelow, rfl⟩, _, ⟨hrest, rfl⟩, ?_⟩
      rw [List.filterMap_cons_none rfl, List.filterMap_append, List.map_append]

/-- The files that a walk collects outside the quarantine. -/
def outside (quarantine : List FileName) (nodes : List (List FileName × Node CandidateNode)) :
    List (Bytes × Bytes) :=
  (nodes.filter fun b => ¬quarantine <+: b.1).filterMap regularFile

lemma outside_cons (quarantine : List FileName) (b : List FileName × Node CandidateNode)
    (nodes : List (List FileName × Node CandidateNode)) : outside quarantine (b :: nodes) =
      (if quarantine <+: b.1 then [] else (regularFile b).toList) ++ outside quarantine nodes := by
  rw [outside, List.filter_cons]
  by_cases h : quarantine <+: b.1
  · rw [if_neg (by simpa using h), if_pos h, List.nil_append, outside]
  · rw [if_pos (by simpa using h), if_neg h, List.filterMap_cons, outside]
    cases regularFile b <;> rfl

lemma outside_append (quarantine : List FileName) (xs ys : List (List FileName × Node CandidateNode)) :
    outside quarantine (xs ++ ys) = outside quarantine xs ++ outside quarantine ys := by
  rw [outside, List.filter_append, List.filterMap_append, outside, outside]

lemma outside_below {parents : List FileName} (h : quarantine <+: parents) :
    outside quarantine (d.nodes parents) = [] ∧ ∀ b ∈ d.nodes parents, quarantine <+: b.1 := by
  have hall : ∀ b ∈ d.nodes parents, quarantine <+: b.1 := by
    intro b hb
    obtain ⟨name, rest, heq⟩ := Directory.nodes_below hb
    rw [heq]
    exact h.trans (List.prefix_append _ _)
  refine ⟨?_, hall⟩
  rw [outside, List.filter_eq_nil_iff.mpr fun b hb => by simpa using hall b hb, List.filterMap_nil]

lemma nodePlain_directory : NodePlain (names, .directory) := ⟨fun _ h => (by cases h)⟩

lemma nodePlain_leaf {node : CandidateNode} : NodePlain (names, .leaf node) ↔
    (∃ bytes, node = .regular bytes) ∧ names.all (fun name => B4Tree.isUtf8 name.bytes) = true := by
  constructor
  · exact fun h => h.leaf node rfl
  · intro h
    refine ⟨?_⟩
    rintro _ ⟨⟩
    exact h

lemma collectRegularBelow_ok {files : List (Bytes × Bytes)} : collectRegularBelow quarantine names d = .ok files ↔
    (∀ b ∈ d.nodes names, ¬quarantine <+: b.1 → NodePlain b) ∧ files = outside quarantine (d.nodes names) := by
  induction d generalizing names files with
  | empty =>
    rw [collectRegularBelow, pure_ok, eq_comm]
    simp [Directory.nodes, outside]
  | leaf name node rest ih =>
    rw [collectRegularBelow.eq_def, Directory.nodes, List.forall_mem_cons, outside_cons]
    dsimp only
    by_cases hq : quarantine <+: names ++ [name]
    · rw [if_pos hq, if_pos hq, ih, List.nil_append]
      exact and_congr_left fun _ => ⟨fun h => ⟨fun hne => absurd hq hne, h⟩, fun h => h.2⟩
    · rw [if_neg hq, if_neg hq, imp_iff_right hq, nodePlain_leaf]
      cases node with
      | special => simp
      | link resolves => simp
      | regular bytes =>
        simp only [bind_ok, repositoryRelative_ok, ih, pure_ok, regularFile, Option.toList_some]
        constructor
        · rintro ⟨_, ⟨hutf8, rfl⟩, _, ⟨hrest, rfl⟩, rfl⟩
          exact ⟨⟨⟨⟨bytes, rfl⟩, hutf8⟩, hrest⟩, rfl⟩
        · rintro ⟨⟨⟨-, hutf8⟩, hrest⟩, rfl⟩
          exact ⟨_, ⟨hutf8, rfl⟩, _, ⟨hrest, rfl⟩, rfl⟩
  | directory name children rest ihc ihr =>
    rw [collectRegularBelow, Directory.nodes, List.forall_mem_cons, List.forall_mem_append, outside_cons,
      outside_append]
    by_cases hq : quarantine <+: names ++ [name]
    · obtain ⟨hnone, hall⟩ := outside_below (d := children) hq
      have hbelow : ∀ b ∈ children.nodes (names ++ [name]), ¬quarantine <+: b.1 → NodePlain b :=
        fun b hb h => absurd (hall b hb) h
      rw [if_pos hq, if_pos hq, ihr, hnone, List.nil_append, List.nil_append]
      constructor
      · rintro ⟨hrest, rfl⟩
        exact ⟨⟨fun h => absurd hq h, hbelow, hrest⟩, rfl⟩
      · rintro ⟨⟨-, -, hrest⟩, rfl⟩
        exact ⟨hrest, rfl⟩
    · rw [if_neg hq, if_neg hq]
      simp only [bind_ok, ihc, ihr, pure_ok, regularFile, Option.toList_none, List.nil_append]
      constructor
      · rintro ⟨_, ⟨hbelow, rfl⟩, _, ⟨hrest, rfl⟩, rfl⟩
        exact ⟨⟨fun _ => nodePlain_directory, hbelow, hrest⟩, rfl⟩
      · rintro ⟨⟨-, hbelow, hrest⟩, rfl⟩
        exact ⟨_, ⟨hbelow, rfl⟩, _, ⟨hrest, rfl⟩, rfl⟩

lemma collectRegularFiles_ok {located : Located CandidateNode} {files : List (Bytes × Bytes)} :
    collectRegularFiles quarantine names located = .ok files ↔
      (∀ b ∈ located.nodes names, ¬quarantine <+: b.1 → NodePlain b) ∧
        files = outside quarantine (located.nodes names) := by
  rw [collectRegularFiles.eq_def]
  dsimp only
  by_cases hq : quarantine <+: names
  · have hall : (∀ b ∈ located.nodes names, quarantine <+: b.1) ∧ outside quarantine (located.nodes names) = [] := by
      cases located with
      | leaf contents => simp [Located.nodes, outside, hq]
      | directory children =>
        obtain ⟨hnone, hbelow⟩ := outside_below (d := children) hq
        rw [Located.nodes, List.forall_mem_cons, outside_cons, if_pos hq, hnone]
        exact ⟨⟨hq, hbelow⟩, rfl⟩
    rw [if_pos hq, pure_ok, hall.2, eq_comm]
    exact ⟨fun h => ⟨fun b hb hne => absurd (hall.1 b hb) hne, h⟩, fun h => h.2⟩
  · rw [if_neg hq]
    cases located with
    | directory children =>
      rw [collectRegularBelow_ok, Located.nodes, List.forall_mem_cons, outside_cons, if_neg hq]
      simp only [regularFile, Option.toList_none, List.nil_append, nodePlain_directory, implies_true, true_and]
    | leaf contents =>
      rw [Located.nodes, outside_cons, if_neg hq]
      simp only [List.forall_mem_singleton, imp_iff_right hq, nodePlain_leaf]
      cases contents with
      | special => simp
      | link resolves => simp
      | regular bytes =>
        simp only [bind_ok, repositoryRelative_ok, pure_ok, regularFile, Option.toList_some]
        constructor
        · rintro ⟨_, ⟨hutf8, rfl⟩, rfl⟩
          exact ⟨⟨⟨bytes, rfl⟩, hutf8⟩, rfl⟩
        · rintro ⟨⟨-, hutf8⟩, rfl⟩
          exact ⟨_, ⟨hutf8, rfl⟩, rfl⟩

end Walks

section Roots

variable {tree : FileTree CandidateNode} {quarantine names : List FileName} {files : List (Bytes × Bytes)}

lemma returned {α : Type} {a b : α} : (pure a : Result α) = .ok b ↔ b = a := by
  rw [pure_ok, eq_comm]

/-- The walk from a path passes an entry, or the path is a link that leads nowhere. -/
def RootPlain (names : List FileName) (b : List FileName × Node CandidateNode) : Prop :=
  NodePlain b ∨ b = (names, .leaf (.link false))

/-- What a walk from a path collects: the regular files at and below it, outside the quarantine. -/
def filesUnder (tree : FileTree CandidateNode) (quarantine names : List FileName) : List (Bytes × Bytes) :=
  outside quarantine (tree.nodes.filter fun b => names <+: b.1)

lemma collectRoot_ok (hnames : names ≠ []) : collectRoot tree quarantine names = .ok files ↔
    (∀ b ∈ tree.nodes, names <+: b.1 → ¬quarantine <+: b.1 → RootPlain names b) ∧
      files = filesUnder tree quarantine names := by
  have hnodes : (∀ b ∈ tree.nodes, names <+: b.1 → ¬quarantine <+: b.1 → RootPlain names b) ↔
      ∀ b ∈ nodesOf names (tree.root.locate names), ¬quarantine <+: b.1 → RootPlain names b := by
    rw [← filter_locate tree hnames]
    simp only [List.mem_filter, decide_eq_true_eq, and_imp]
  rw [hnodes, filesUnder, filter_locate tree hnames, collectRoot]
  cases hlocated : tree.root.locate names with
  | none => simp [nodesOf, outside, returned]
  | some located =>
    have hplain : ∀ b ∈ located.nodes names, located ≠ .leaf (.link false) →
        (RootPlain names b ↔ NodePlain b) := by
      intro b hb hne
      refine ⟨fun h => h.resolve_right fun heq => ?_, .inl⟩
      subst heq
      cases located with
      | directory children =>
        obtain ⟨name, rest, hbelow⟩ := Directory.nodes_below ((List.mem_cons.mp hb).resolve_left (by simp))
        simp at hbelow
      | leaf contents =>
        rw [Located.nodes, List.mem_singleton] at hb
        cases hb
        exact hne rfl
    by_cases hlink : located = .leaf (.link false)
    · subst hlink
      have hempty : outside quarantine (nodesOf names (some (Located.leaf (CandidateNode.link false)))) = [] := by
        rw [nodesOf, Located.nodes, outside_cons]
        simp [regularFile, outside]
      have hpass : ∀ b ∈ nodesOf names (some (Located.leaf (CandidateNode.link false))),
          ¬quarantine <+: b.1 → RootPlain names b := by
        intro b hb _
        rw [nodesOf, Located.nodes, List.mem_singleton] at hb
        exact .inr hb
      rw [hempty]
      simp only [pathExists, Bool.false_eq_true, if_false, pure_ok]
      exact ⟨fun h => ⟨hpass, h.symm⟩, fun h => h.2.symm⟩
    · have hexists : pathExists (some located) = true ∨ located = .leaf (.link false) := by
        cases located with
        | directory children => exact .inl rfl
        | leaf contents =>
          cases contents with
          | regular bytes => exact .inl rfl
          | special => exact .inl rfl
          | link resolves => cases resolves <;> simp [pathExists]
      dsimp only
      rw [if_pos (hexists.resolve_right hlink), collectRegularFiles_ok]
      refine and_congr_left fun _ => ?_
      constructor
      · exact fun h b hb hq => (hplain b hb hlink).mpr (h b hb hq)
      · exact fun h b hb hq => (hplain b hb hlink).mp (h b hb hq)

def RegularAt (tree : FileTree CandidateNode) (names : List FileName) (bytes : Bytes) : Prop :=
  (names, Node.leaf (CandidateNode.regular bytes)) ∈ tree.nodes

lemma mem_outside {nodes : List (List FileName × Node CandidateNode)} {file : Bytes × Bytes} :
    file ∈ outside quarantine nodes ↔ ∃ names, (names, Node.leaf (CandidateNode.regular file.2)) ∈ nodes ∧
      ¬quarantine <+: names ∧ file.1 = join names := by
  simp only [outside, List.mem_filterMap, List.mem_filter, regularFile_eq_some, decide_not, Bool.not_eq_true',
    decide_eq_false_iff_not]
  constructor
  · rintro ⟨⟨names, node⟩, ⟨hnode, hq⟩, rfl, hpath⟩
    exact ⟨names, hnode, hq, hpath⟩
  · rintro ⟨names, hnode, hq, hpath⟩
    exact ⟨_, ⟨hnode, hq⟩, rfl, hpath⟩

lemma mem_filesUnder {file : Bytes × Bytes} : file ∈ filesUnder tree quarantine names ↔
    ∃ found, RegularAt tree found file.2 ∧ names <+: found ∧ ¬quarantine <+: found ∧ file.1 = join found := by
  simp only [filesUnder, mem_outside, List.mem_filter, decide_eq_true_eq, RegularAt, and_assoc]

/-- The file of an exact final-looking path, outside the quarantine. -/
def fileAt (tree : FileTree CandidateNode) (quarantine names : List FileName) : List (Bytes × Bytes) :=
  outside quarantine (tree.nodes.filter fun b => b.1 = names)

lemma mem_fileAt {file : Bytes × Bytes} : file ∈ fileAt tree quarantine names ↔
    RegularAt tree names file.2 ∧ ¬quarantine <+: names ∧ file.1 = join names := by
  simp only [fileAt, mem_outside, List.mem_filter, decide_eq_true_eq, RegularAt]
  constructor
  · rintro ⟨_, ⟨hnode, rfl⟩, hq, hpath⟩
    exact ⟨hnode, hq, hpath⟩
  · rintro ⟨hnode, hq, hpath⟩
    exact ⟨names, ⟨hnode, rfl⟩, hq, hpath⟩

lemma filter_at (tree : FileTree CandidateNode) (hnames : names ≠ []) :
    tree.nodes.filter (fun b => b.1 = names) =
      (nodesOf names (tree.root.locate names)).filter fun b => b.1 = names := by
  rw [← filter_locate tree hnames, List.filter_filter]
  apply List.filter_congr
  intro b _
  rw [Bool.eq_iff_iff, Bool.and_eq_true, decide_eq_true_eq, decide_eq_true_eq]
  exact ⟨fun h => ⟨h, h ▸ List.prefix_rfl⟩, fun h => h.1⟩

lemma filter_directory (names : List FileName) (children : Directory CandidateNode) :
    ((Located.directory children).nodes names).filter (fun b => b.1 = names) = [(names, .directory)] := by
  have hbelow : (children.nodes names).filter (fun b => b.1 = names) = [] := by
    rw [List.filter_eq_nil_iff]
    intro b hb heq
    obtain ⟨name, rest, hname⟩ := Directory.nodes_below hb
    rw [of_decide_eq_true heq] at hname
    simp at hname
  rw [Located.nodes, List.filter_cons, if_pos (decide_eq_true rfl), hbelow]

lemma collectExact_ok {path : Bytes} (hnames : names ≠ []) (hpath : path = join names) :
    collectExact tree quarantine path = .ok files ↔
      ((names, Node.leaf (CandidateNode.link true)) ∈ tree.nodes → quarantine <+: names) ∧
        files = fileAt tree quarantine names := by
  subst hpath
  have hlink : (names, Node.leaf (CandidateNode.link true)) ∈ tree.nodes ↔
      (names, Node.leaf (CandidateNode.link true)) ∈ nodesOf names (tree.root.locate names) := by
    rw [← filter_locate tree hnames, List.mem_filter]
    exact ⟨fun h => ⟨h, decide_eq_true List.prefix_rfl⟩, fun h => h.1⟩
  rw [hlink, fileAt, filter_at tree hnames, collectExact, pathFromPosix_join hnames]
  by_cases hq : quarantine <+: names
  · have hnone : outside quarantine ((nodesOf names (tree.root.locate names)).filter fun b => b.1 = names) = [] := by
      rw [List.eq_nil_iff_forall_not_mem]
      intro file hfile
      obtain ⟨found, hfound, hout, -⟩ := mem_outside.mp hfile
      have heq : found = names := of_decide_eq_true (List.mem_filter.mp hfound).2
      exact hout (heq ▸ hq)
    rw [if_neg (fun h => h.2 hq), pure_ok, hnone, eq_comm]
    exact ⟨fun h => ⟨fun _ => hq, h⟩, fun h => h.2⟩
  · cases hlocated : tree.root.locate names with
    | none => simp [pathExists, nodesOf, outside, returned]
    | some located =>
      cases located with
      | directory children =>
        have hnot : (names, Node.leaf (CandidateNode.link true)) ∉ (Located.directory children).nodes names := by
          intro h
          obtain ⟨name, rest, hbelow⟩ := Directory.nodes_below ((List.mem_cons.mp h).resolve_left (by simp))
          simp at hbelow
        rw [if_pos ⟨rfl, hq⟩, pure_ok, nodesOf, filter_directory, outside_cons, if_neg hq]
        simp only [hnot, false_imp_iff, true_and]
        exact eq_comm
      | leaf contents =>
        rw [nodesOf, Located.nodes, List.filter_cons, if_pos (decide_eq_true rfl), List.filter_nil, outside_cons,
          if_neg hq]
        cases contents with
        | regular bytes => simp [pathExists, hq, returned, regularFile, outside]
        | special => simp [pathExists, hq, returned, regularFile, outside]
        | link resolves => cases resolves <;> simp [pathExists, hq, returned, regularFile, outside]

end Roots

end Eip0045.Quarantine
