import Eip0045.Library.Scans
import Eip0045.Metadata.Packet

/-! The grammar of the subject list, and the cursor that walks it. -/

namespace Eip0045.Metadata

open Checked Scans
open Rootfs (PositiveRunnerRole)

variable {W : WordSize} {subjects : List MetadataSubjectIdentity} {role : PositiveRunnerRole}
  {kind : MetadataSubjectKind}

section Grammar

abbrev Place := MetadataSubjectKind × Option PositiveRunnerRole × Option ℕ

def MetadataSubjectIdentity.place (subject : MetadataSubjectIdentity) : Place :=
  (subject.kind, subject.role, subject.entryIndex)

/-- Entries of one kind, with `n` indices from `start`. -/
def entriesFrom (role : PositiveRunnerRole) (kind : MetadataSubjectKind) (start n : ℕ) :
    List Place :=
  (List.range' start n).map fun index => (kind, some role, some index)

def entries (role : PositiveRunnerRole) (kind : MetadataSubjectKind) (n : ℕ) : List Place :=
  (List.range n).map fun index => (kind, some role, some index)

/-- One role's root, then its directories, files and links. -/
def rolePlaces (role : PositiveRunnerRole) (members : DynamicSubjectCounts) : List Place :=
  (.roleRoot, some role, none) ::
    (entries role .retainedDirectory members.retainedDirectories ++
      (entries role .retainedRegularFile members.retainedRegularFiles ++
        entries role .retainedSymbolicLink members.retainedSymbolicLinks))

/-- How many subjects of each dynamic kind every role has. -/
abbrev Inventory := PositiveRunnerRole → DynamicSubjectCounts

def Inventory.places (inventory : Inventory) : List Place :=
  (.mountRoot, none, none) :: canonicalRoles.flatMap fun role => rolePlaces role (inventory role)

def Inventory.totals (inventory : Inventory) (roles : List PositiveRunnerRole) :
    DynamicSubjectCounts where
  retainedDirectories := (roles.map fun role => (inventory role).retainedDirectories).sum
  retainedRegularFiles := (roles.map fun role => (inventory role).retainedRegularFiles).sum
  retainedSymbolicLinks := (roles.map fun role => (inventory role).retainedSymbolicLinks).sum

def DynamicSubjectCounts.add (a b : DynamicSubjectCounts) : DynamicSubjectCounts where
  retainedDirectories := a.retainedDirectories + b.retainedDirectories
  retainedRegularFiles := a.retainedRegularFiles + b.retainedRegularFiles
  retainedSymbolicLinks := a.retainedSymbolicLinks + b.retainedSymbolicLinks

def DynamicSubjectCounts.total (counts : DynamicSubjectCounts) : ℕ :=
  counts.retainedDirectories + counts.retainedRegularFiles + counts.retainedSymbolicLinks

lemma entries_eq (role : PositiveRunnerRole) (kind : MetadataSubjectKind) (n : ℕ) :
    entries role kind n = entriesFrom role kind 0 n := by
  rw [entries, entriesFrom, List.range_eq_range']

lemma entriesFrom_succ (role : PositiveRunnerRole) (kind : MetadataSubjectKind) (start n : ℕ) :
    entriesFrom role kind start (n + 1) =
      (kind, some role, some start) :: entriesFrom role kind (start + 1) n := by
  rw [entriesFrom, List.range'_succ, List.map_cons]
  rfl

lemma entries_length (role : PositiveRunnerRole) (kind : MetadataSubjectKind) (n : ℕ) :
    (entries role kind n).length = n := by
  rw [entries, List.length_map, List.length_range]

lemma rolePlaces_length (role : PositiveRunnerRole) (members : DynamicSubjectCounts) :
    (rolePlaces role members).length = 1 + members.total := by
  simp only [rolePlaces, List.length_cons, List.length_append, entries_length,
    DynamicSubjectCounts.total]
  omega

end Grammar

section Cursor

def remaining (subjects : List MetadataSubjectIdentity) (cursor : ℕ) : List Place :=
  (subjects.drop cursor).map MetadataSubjectIdentity.place

lemma remaining_cons {cursor : ℕ} (h : cursor < subjects.length) :
    remaining subjects cursor = subjects[cursor].place :: remaining subjects (cursor + 1) := by
  rw [remaining, List.drop_eq_getElem_cons h, List.map_cons]
  rfl

lemma remaining_nil {cursor : ℕ} (h : ¬cursor < subjects.length) :
    remaining subjects cursor = [] := by
  rw [remaining, List.drop_eq_nil_of_le (not_lt.mp h), List.map_nil]

lemma remaining_append {cursor : ℕ} {xs rest : List Place}
    (h : remaining subjects cursor = xs ++ rest) :
    remaining subjects (cursor + xs.length) = rest := by
  rw [remaining, ← List.drop_drop, List.map_drop]
  rw [remaining] at h
  rw [h, List.drop_left]

lemma consumeEntries_sound {cursor aggregate index next total : ℕ}
    (h : consumeEntries W subjects role kind cursor aggregate index = .ok (next, total)) :
    ∃ n, next = cursor + n ∧ total = aggregate + n ∧
      remaining subjects cursor = entriesFrom role kind index n ++ remaining subjects next := by
  fun_induction consumeEntries W subjects role kind cursor aggregate index with
  | case1 cursor aggregate index hlt hother =>
    obtain ⟨rfl, rfl⟩ := Prod.mk.inj (pure_ok.mp h)
    exact ⟨0, rfl, rfl, rfl⟩
  | case2 cursor aggregate index hlt hsame ih =>
    simp only [bind_ok, exists_unit, ensure_ok, context_ok, WordSize.checkedAdd,
      WordSize.checked_eq_some] at h
    obtain ⟨hindex, _, ⟨-, rfl⟩, _, ⟨-, rfl⟩, _, -, hrest⟩ := h
    obtain ⟨n, rfl, rfl, hremaining⟩ := ih _ _ hrest
    refine ⟨n + 1, by omega, by omega, ?_⟩
    have hplace : subjects[cursor].place = (kind, some role, some index) := by
      rw [not_or, not_not, not_not] at hsame
      rw [MetadataSubjectIdentity.place, hsame.1, hsame.2, hindex]
    rw [remaining_cons hlt, entriesFrom_succ, hplace, hremaining, List.cons_append]
  | case3 cursor aggregate index hlt =>
    obtain ⟨rfl, rfl⟩ := Prod.mk.inj (pure_ok.mp h)
    exact ⟨0, rfl, rfl, rfl⟩

def Avoids (kind : MetadataSubjectKind) (places : List Place) : Prop :=
  ∀ place ∈ places.head?, place.1 ≠ kind

lemma avoids_entries {other : MetadataSubjectKind} {n : ℕ} {rest : List Place} (hne : other ≠ kind)
    (h : Avoids kind rest) : Avoids kind (entries role other n ++ rest) := by
  cases n with
  | zero => exact h
  | succ n =>
    rw [entries_eq, entriesFrom_succ]
    intro place hplace
    cases hplace
    exact hne

/-- Words that hold every position of the list. -/
def Spans (W : WordSize) (subjects : List MetadataSubjectIdentity) : Prop :=
  ∀ n ≤ subjects.length, W.holds n

lemma consumeEntries_complete {cursor aggregate index n : ℕ} {rest : List Place}
    (hW : Spans W subjects) (h : remaining subjects cursor = entriesFrom role kind index n ++ rest)
    (hrest : Avoids kind rest) (haggregate : aggregate ≤ cursor) (hindex : index ≤ cursor) :
    consumeEntries W subjects role kind cursor aggregate index =
      .ok (cursor + n, aggregate + n) := by
  induction n generalizing cursor aggregate index with
  | zero =>
    have hsame : remaining subjects cursor = rest := h
    rw [consumeEntries]
    split
    case isTrue hlt =>
      rw [remaining_cons hlt] at hsame
      have hkind : subjects[cursor].kind ≠ kind := by
        apply hrest subjects[cursor].place
        rw [← hsame]
        rfl
      rw [if_pos (.inl hkind)]
      rfl
    case isFalse => rfl
  | succ n ih =>
    rw [entriesFrom_succ, List.cons_append] at h
    have hlt : cursor < subjects.length := by
      by_contra hnot
      rw [remaining_nil hnot] at h
      cases h
    rw [remaining_cons hlt] at h
    obtain ⟨hplace, hnext⟩ := List.cons.inj h
    obtain ⟨hkind, hrole, hentry⟩ : subjects[cursor].kind = kind ∧
        subjects[cursor].role = some role ∧ subjects[cursor].entryIndex = some index := by
      simpa [MetadataSubjectIdentity.place] using hplace
    have hsame : ¬(subjects[cursor].kind ≠ kind ∨ subjects[cursor].role ≠ some role) := by
      simp [hkind, hrole]
    have hadd : ∀ m ≤ cursor, W.checkedAdd m 1 = some (m + 1) := by
      intro m hm
      exact WordSize.checked_eq_some.mpr ⟨hW (m + 1) (by omega), rfl⟩
    rw [consumeEntries, dif_pos hlt, if_neg hsame, hadd aggregate haggregate, hadd index hindex,
      hadd cursor (le_refl _), ensure_pass hentry]
    have hrun := ih hnext (by omega : aggregate + 1 ≤ cursor + 1) (by omega)
    rw [show cursor + 1 + n = cursor + (n + 1) from by omega,
      show aggregate + 1 + n = aggregate + (n + 1) from by omega] at hrun
    exact hrun

lemma consumeDynamicKind_complete {cursor aggregate n : ℕ} {rest : List Place}
    (hW : Spans W subjects) (h : remaining subjects cursor = entries role kind n ++ rest)
    (hrest : Avoids kind rest) (haggregate : aggregate ≤ cursor) :
    consumeDynamicKind W subjects cursor role kind aggregate = .ok (cursor + n, aggregate + n) ∧
      remaining subjects (cursor + n) = rest := by
  have hnext := remaining_append h
  rw [entries_length] at hnext
  rw [entries_eq] at h
  exact ⟨consumeEntries_complete hW h hrest haggregate (Nat.zero_le _), hnext⟩

lemma requireSubject_ok {cursor : ℕ} {index : Option ℕ} :
    requireSubject subjects cursor kind role index = .ok () ↔
      remaining subjects cursor = (kind, some role, index) :: remaining subjects (cursor + 1) := by
  simp only [requireSubject, bind_ok, context_ok, ensure_ok, not_or, not_not]
  by_cases hlt : cursor < subjects.length
  · rw [remaining_cons hlt, List.getElem?_eq_getElem hlt]
    simp [MetadataSubjectIdentity.place]
  · rw [remaining_nil hlt, List.getElem?_eq_none (not_lt.mp hlt)]
    simp

end Cursor

section Roles

lemma consumeRole_sound {cursor next : ℕ} {counts total : DynamicSubjectCounts}
    (h : consumeRole W subjects (cursor, counts) role = .ok (next, total)) :
    ∃ members : DynamicSubjectCounts, next = cursor + 1 + members.total ∧
      total = counts.add members ∧
      remaining subjects cursor = rolePlaces role members ++ remaining subjects next := by
  simp only [consumeRole, consumeDynamicKind, bind_ok, exists_unit, pure_ok] at h
  obtain ⟨hroot, ⟨afterDirectories, directories⟩, hdirectories, ⟨afterFiles, files⟩, hfiles,
    ⟨afterLinks, links⟩, hlinks, heq⟩ := h
  obtain ⟨rfl, rfl⟩ := Prod.mk.inj heq
  obtain ⟨d, rfl, rfl, hd⟩ := consumeEntries_sound hdirectories
  obtain ⟨f, rfl, rfl, hf⟩ := consumeEntries_sound hfiles
  obtain ⟨l, rfl, rfl, hl⟩ := consumeEntries_sound hlinks
  refine ⟨⟨d, f, l⟩, by simp only [DynamicSubjectCounts.total]; omega, rfl, ?_⟩
  rw [requireSubject_ok.mp hroot, hd, hf, hl]
  simp only [rolePlaces, entries_eq, List.cons_append, List.append_assoc]

def Within (counts : DynamicSubjectCounts) (cursor : ℕ) : Prop :=
  counts.retainedDirectories ≤ cursor ∧ counts.retainedRegularFiles ≤ cursor ∧
    counts.retainedSymbolicLinks ≤ cursor

/-- The list is at its end, or at a role's root. -/
def Opens (places : List Place) : Prop := ∀ place ∈ places.head?, place.1 = .roleRoot

lemma Opens.avoids {places : List Place} (h : Opens places) (hne : kind ≠ .roleRoot) :
    Avoids kind places := by
  intro place hplace heq
  exact hne (heq.symm.trans (h place hplace))

lemma consumeRole_complete {cursor : ℕ} {counts members : DynamicSubjectCounts}
    {rest : List Place} (hW : Spans W subjects)
    (h : remaining subjects cursor = rolePlaces role members ++ rest) (hrest : Opens rest)
    (hcounts : Within counts cursor) :
    consumeRole W subjects (cursor, counts) role =
      .ok (cursor + 1 + members.total, counts.add members) := by
  obtain ⟨d, f, l⟩ := members
  obtain ⟨hd, hf, hl⟩ := hcounts
  rw [rolePlaces, List.cons_append, List.append_assoc, List.append_assoc] at h
  have hroot : remaining subjects (cursor + 1) = entries role .retainedDirectory d ++
      (entries role .retainedRegularFile f ++ (entries role .retainedSymbolicLink l ++ rest)) := by
    have hsplit : remaining subjects cursor = [(.roleRoot, some role, none)] ++
        (entries role .retainedDirectory d ++
          (entries role .retainedRegularFile f ++
            (entries role .retainedSymbolicLink l ++ rest))) := h
    exact remaining_append hsplit
  have hrequire : requireSubject subjects cursor .roleRoot role none = .ok () := by
    rw [requireSubject_ok, h, hroot]
  have havoids : ∀ kind ≠ .retainedSymbolicLink, kind ≠ .roleRoot →
      Avoids kind (entries role .retainedSymbolicLink l ++ rest) := by
    intro kind hlink hopen
    exact avoids_entries hlink.symm (hrest.avoids hopen)
  obtain ⟨hdirectories, hafter⟩ := consumeDynamicKind_complete hW hroot
    (avoids_entries (by decide) (havoids .retainedDirectory (by decide) (by decide)))
    (by omega : counts.retainedDirectories ≤ cursor + 1)
  obtain ⟨hfiles, hlast⟩ := consumeDynamicKind_complete hW hafter
    (havoids .retainedRegularFile (by decide) (by decide))
    (by omega : counts.retainedRegularFiles ≤ cursor + 1 + d)
  obtain ⟨hlinks, -⟩ := consumeDynamicKind_complete hW hlast (hrest.avoids (by decide))
    (by omega : counts.retainedSymbolicLinks ≤ cursor + 1 + d + f)
  have htotal : cursor + 1 + (DynamicSubjectCounts.mk d f l).total = cursor + 1 + d + f + l := by
    simp only [DynamicSubjectCounts.total]
    omega
  simp only [consumeRole, hrequire, hdirectories, hfiles, hlinks, ok_bind, htotal]
  rfl

lemma Within.add {counts members : DynamicSubjectCounts} {cursor : ℕ} (h : Within counts cursor) :
    Within (counts.add members) (cursor + 1 + members.total) := by
  obtain ⟨hd, hf, hl⟩ := h
  simp only [Within, DynamicSubjectCounts.add, DynamicSubjectCounts.total]
  omega

lemma DynamicSubjectCounts.add_assoc (a b c : DynamicSubjectCounts) :
    (a.add b).add c = a.add (b.add c) := by
  simp only [DynamicSubjectCounts.add, Nat.add_assoc]

lemma totals_cons (inventory : Inventory) (role : PositiveRunnerRole)
    (roles : List PositiveRunnerRole) :
    inventory.totals (role :: roles) = (inventory role).add (inventory.totals roles) := by
  simp only [Inventory.totals, DynamicSubjectCounts.add, List.map_cons, List.sum_cons]

lemma totals_update {inventory : Inventory} {members : DynamicSubjectCounts}
    {roles : List PositiveRunnerRole} (h : role ∉ roles) :
    Inventory.totals (Function.update inventory role members) roles = inventory.totals roles := by
  have hsame : ∀ other ∈ roles, Function.update inventory role members other = inventory other := by
    intro other hother
    exact Function.update_of_ne (ne_of_mem_of_not_mem hother h) _ _
  simp only [Inventory.totals]
  congr 2 <;> exact List.map_congr_left fun other hother => by rw [hsame other hother]

lemma consumeRoles_sound {roles : List PositiveRunnerRole} {cursor next : ℕ}
    {counts total : DynamicSubjectCounts} (hroles : roles.Nodup)
    (h : roles.foldlM (consumeRole W subjects) (cursor, counts) = .ok (next, total)) :
    ∃ inventory : Inventory, total = counts.add (inventory.totals roles) ∧
      remaining subjects cursor =
        (roles.flatMap fun role => rolePlaces role (inventory role)) ++ remaining subjects next := by
  induction roles generalizing cursor counts with
  | nil =>
    obtain ⟨rfl, rfl⟩ := Prod.mk.inj (pure_ok.mp h)
    exact ⟨fun _ => ⟨0, 0, 0⟩, rfl, rfl⟩
  | cons role roles ih =>
    obtain ⟨hfresh, hnodup⟩ := List.nodup_cons.mp hroles
    rw [List.foldlM_cons, bind_ok] at h
    obtain ⟨⟨middle, subtotal⟩, hrole, hrest⟩ := h
    obtain ⟨members, -, rfl, hplaces⟩ := consumeRole_sound hrole
    obtain ⟨inventory, rfl, hremaining⟩ := ih hnodup hrest
    refine ⟨Function.update inventory role members, ?_, ?_⟩
    · rw [totals_cons, totals_update hfresh, Function.update_self, DynamicSubjectCounts.add_assoc]
    · have hsame : (roles.flatMap fun other =>
          rolePlaces other (Function.update inventory role members other)) =
          roles.flatMap fun other => rolePlaces other (inventory other) := by
        apply List.flatMap_congr
        intro other hother
        rw [Function.update_of_ne (ne_of_mem_of_not_mem hother hfresh)]
      rw [hplaces, hremaining, List.flatMap_cons, hsame, Function.update_self, List.append_assoc]

lemma consumeRoles_complete {inventory : Inventory} {roles : List PositiveRunnerRole} {cursor : ℕ}
    {counts : DynamicSubjectCounts} (hW : Spans W subjects) (hcounts : Within counts cursor)
    (h : remaining subjects cursor = roles.flatMap fun role => rolePlaces role (inventory role)) :
    roles.foldlM (consumeRole W subjects) (cursor, counts) =
      .ok (cursor + (remaining subjects cursor).length, counts.add (inventory.totals roles)) := by
  induction roles generalizing cursor counts with
  | nil =>
    rw [h]
    rfl
  | cons role roles ih =>
    rw [List.flatMap_cons] at h
    have hopens : Opens (roles.flatMap fun role => rolePlaces role (inventory role)) := by
      cases roles with
      | nil => exact fun place hplace => (by cases hplace)
      | cons other roles =>
        intro place hplace
        cases hplace
        rfl
    have hnext := remaining_append h
    rw [rolePlaces_length, ← Nat.add_assoc] at hnext
    have hrole := consumeRole_complete hW h hopens hcounts
    have hrest := ih hcounts.add hnext
    rw [List.foldlM_cons, hrole, ok_bind, hrest, hnext, h, List.length_append, rolePlaces_length,
      totals_cons, DynamicSubjectCounts.add_assoc]
    simp only [Nat.add_assoc]

end Roles

section Subjects

/-- A complete identity on the root's mount, device and epoch. -/
structure Mounted (root subject : MetadataSubjectIdentity) : Prop where
  mountId_ne : subject.descriptor.mountIdUnique ≠ 0
  inode_ne : subject.descriptor.inode ≠ 0
  epoch_ne : subject.mountEpoch ≠ ByteArr.zero 32
  mountId : subject.descriptor.mountIdUnique = root.descriptor.mountIdUnique
  deviceMajor : subject.descriptor.deviceMajor = root.descriptor.deviceMajor
  deviceMinor : subject.descriptor.deviceMinor = root.descriptor.deviceMinor
  mountEpoch : subject.mountEpoch = root.mountEpoch

lemma validateIdentities_ok {root : MetadataSubjectIdentity} {ordinal : ℕ}
    {identities : List DescriptorIdentity} :
    validateIdentities root subjects ordinal identities = .ok () ↔
      (∀ subject ∈ subjects, validSubjectShape subject ∧ Mounted root subject) ∧
        Fresh identities (subjects.map MetadataSubjectIdentity.descriptor) := by
  induction subjects generalizing ordinal identities with
  | nil => simp [validateIdentities, pure_ok, fresh_nil]
  | cons subject rest ih =>
    simp only [validateIdentities, validateSubjectShape, bind_ok, exists_unit, ensure_ok, ih,
      List.forall_mem_cons, List.map_cons, fresh_cons, not_or, ne_eq, not_not]
    constructor
    · intro h
      obtain ⟨hshape, ⟨h1, h2, h3⟩, ⟨h4, h5, h6, h7⟩, halias, hrest, hfresh⟩ := h
      exact ⟨⟨⟨hshape, h1, h2, h3, h4, h5, h6, h7⟩, hrest⟩, halias, hfresh⟩
    · intro h
      obtain ⟨⟨⟨hshape, h1, h2, h3, h4, h5, h6, h7⟩, hrest⟩, halias, hfresh⟩ := h
      exact ⟨hshape, ⟨h1, h2, h3⟩, ⟨h4, h5, h6, h7⟩, halias, hrest, hfresh⟩

lemma validShape_of_place {inventory : Inventory} {subject : MetadataSubjectIdentity}
    (h : subject.place ∈ inventory.places) : validSubjectShape subject := by
  have hplace : subject.place = (.mountRoot, none, none) ∨
      ∃ role : PositiveRunnerRole, subject.place = (.roleRoot, some role, none) ∨
        ∃ index : ℕ, subject.place = (.retainedDirectory, some role, some index) ∨
          subject.place = (.retainedRegularFile, some role, some index) ∨
          subject.place = (.retainedSymbolicLink, some role, some index) := by
    simp only [Inventory.places, rolePlaces, entries, List.mem_cons, List.mem_flatMap,
      List.mem_append, List.mem_map] at h
    rcases h with h | ⟨role, -, h | ⟨i, -, h⟩ | ⟨i, -, h⟩ | ⟨i, -, h⟩⟩
    · exact .inl h
    · exact .inr ⟨role, .inl h⟩
    · exact .inr ⟨role, .inr ⟨i, .inl h.symm⟩⟩
    · exact .inr ⟨role, .inr ⟨i, .inr (.inl h.symm)⟩⟩
    · exact .inr ⟨role, .inr ⟨i, .inr (.inr h.symm)⟩⟩
  obtain ⟨kind, role, index, descriptor, epoch⟩ := subject
  simp only [MetadataSubjectIdentity.place, Prod.mk.injEq] at hplace
  rcases hplace with ⟨rfl, rfl, rfl⟩ | ⟨r, ⟨rfl, rfl, rfl⟩ | ⟨i, ⟨rfl, rfl, rfl⟩ | ⟨rfl, rfl, rfl⟩ |
    ⟨rfl, rfl, rfl⟩⟩⟩ <;> rfl

/-- The subjects are listed by the grammar, each on the first one's mount, and no two alias. -/
structure SubjectsListed (subjects : List MetadataSubjectIdentity) (inventory : Inventory) :
    Prop where
  places : subjects.map MetadataSubjectIdentity.place = inventory.places
  mounted : ∀ root ∈ subjects.head?, ∀ subject ∈ subjects, Mounted root subject
  distinct : (subjects.map MetadataSubjectIdentity.descriptor).Nodup

lemma mountRoot_place {root : MetadataSubjectIdentity} (hkind : root.kind = .mountRoot)
    (hshape : validSubjectShape root) : root.place = (.mountRoot, none, none) := by
  rw [validSubjectShape, hkind] at hshape
  simp only [Bool.and_eq_true, Option.isNone_iff_eq_none] at hshape
  rw [MetadataSubjectIdentity.place, hkind, hshape.1, hshape.2]

lemma validateSubjects_sound {counts : DynamicSubjectCounts}
    (h : validateSubjects W subjects = .ok counts) : ∃ inventory : Inventory,
      SubjectsListed subjects inventory ∧ counts = inventory.totals canonicalRoles := by
  simp only [validateSubjects, bind_ok, exists_unit, context_ok, ensure_ok, pure_ok] at h
  obtain ⟨root, hhead, hkind, hidentities, ⟨cursor, total⟩, hroles, hcursor, rfl⟩ := h
  obtain ⟨hall, hfresh⟩ := validateIdentities_ok.mp hidentities
  obtain ⟨inventory, htotal, hremaining⟩ := consumeRoles_sound (by decide) hroles
  have hend : remaining subjects cursor = [] := remaining_nil (by omega)
  rw [hend, List.append_nil] at hremaining
  obtain ⟨rest, rfl⟩ := List.head?_eq_some_iff.mp hhead
  refine ⟨inventory, ⟨?_, ?_, fresh_start.mp hfresh⟩, ?_⟩
  · rw [List.map_cons, mountRoot_place hkind (hall root List.mem_cons_self).1, Inventory.places]
    congr 1
  · intro other hother subject hsubject
    cases hother
    exact (hall subject hsubject).2
  · rw [htotal]
    simp only [DynamicSubjectCounts.add, Nat.zero_add]

lemma validateSubjects_complete {inventory : Inventory} (hW : Spans W subjects)
    (h : SubjectsListed subjects inventory) :
    validateSubjects W subjects = .ok (inventory.totals canonicalRoles) := by
  cases subjects with
  | nil => exact absurd h.places (by simp [Inventory.places])
  | cons root rest =>
    obtain ⟨hroot, hplaces⟩ := List.cons.inj h.places
    have hkind : root.kind = .mountRoot := congrArg Prod.fst hroot
    have hshape : ∀ subject ∈ root :: rest, validSubjectShape subject := by
      intro subject hsubject
      apply @validShape_of_place inventory
      rw [← h.places]
      exact List.mem_map_of_mem hsubject
    have hidentities : validateIdentities root (root :: rest) 0 [] = .ok () := by
      apply validateIdentities_ok.mpr
      refine ⟨?_, fresh_start.mpr h.distinct⟩
      intro subject hsubject
      exact ⟨hshape subject hsubject, h.mounted root rfl subject hsubject⟩
    have hwithin : Within ⟨0, 0, 0⟩ 1 := ⟨Nat.zero_le _, Nat.zero_le _, Nat.zero_le _⟩
    have hremaining : remaining (root :: rest) 1 =
        canonicalRoles.flatMap fun role => rolePlaces role (inventory role) := hplaces
    have hroles := consumeRoles_complete hW hwithin hremaining
    have hlength : 1 + (remaining (root :: rest) 1).length = (root :: rest).length := by
      rw [remaining, List.length_map, List.drop_one, List.tail_cons, List.length_cons, Nat.add_comm]
    rw [hlength] at hroles
    rw [validateSubjects, List.head?_cons, context, ok_bind, ensure_pass hkind, ok_bind, hidentities,
      ok_bind, hroles, ok_bind]
    simp only [ensure_pass, ok_bind, DynamicSubjectCounts.add, Nat.zero_add]
    rfl

lemma SubjectsListed.length {inventory : Inventory} (h : SubjectsListed subjects inventory) :
    subjects.length = 1 + canonicalRoles.length + (inventory.totals canonicalRoles).total := by
  have hlength := congrArg List.length h.places
  rw [List.length_map] at hlength
  rw [hlength, Inventory.places]
  simp only [canonicalRoles, List.flatMap_cons, List.flatMap_nil, List.length_cons,
    List.length_append, rolePlaces_length, List.length_nil, Inventory.totals,
    DynamicSubjectCounts.total, List.map_cons, List.map_nil, List.sum_cons, List.sum_nil]
  omega

end Subjects

end Eip0045.Metadata
