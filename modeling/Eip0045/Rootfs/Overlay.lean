import Mathlib
import Eip0045.Rootfs.Journal

/-! The overlay semantics of an OCI changeset: what a sequence of layers leaves live. -/

namespace Eip0045.Rootfs

open Checked

inductive EntryKind
  | regular (sha256 : Digest)
  | directory
  | symbolicLink (target : Bytes)
  | remove (target : Bytes)
  | opaqueDirectory (path : Bytes)
  deriving DecidableEq

structure Entry where
  path : Bytes
  mode : UInt32
  byteLength : UInt64
  kind : EntryKind
  deriving DecidableEq

abbrev Live := SortedMap Bytes Entry

/-- The subtree of a subject; the empty subject is the root, which holds every path. -/
def Inside (subject path : Bytes) : Prop :=
  subject = [] ∨ path = subject ∨ Paths.Below slash subject path

def StrictlyInside (subject path : Bytes) : Prop :=
  subject = [] ∨ Paths.Below slash subject path

instance (subject path : Bytes) : Decidable (Inside subject path) :=
  inferInstanceAs (Decidable (_ ∨ _ ∨ _))

instance (subject path : Bytes) : Decidable (StrictlyInside subject path) :=
  inferInstanceAs (Decidable (_ ∨ _))

def Overlap (subject other : Bytes) : Prop :=
  subject = other ∨ subject = [] ∨ other = [] ∨ Paths.Below slash subject other ∨
    Paths.Below slash other subject

instance (subject other : Bytes) : Decidable (Overlap subject other) :=
  inferInstanceAs (Decidable (_ ∨ _ ∨ _ ∨ _ ∨ _))

namespace Entry

variable (entry : Entry)

def whiteoutSubject : Option Bytes :=
  match entry.kind with
  | .remove target => some target
  | .opaqueDirectory path => some path
  | .regular _ | .directory | .symbolicLink _ => none

def deletes (path : Bytes) : Bool :=
  match entry.kind with
  | .remove target => Inside target path
  | .opaqueDirectory subject => StrictlyInside subject path
  | .regular _ | .directory | .symbolicLink _ => false

def isDirectory : Bool := entry.kind = .directory

/-- What one entry adds to the live counters. -/
def counts : LiveCounters :=
  match entry.kind with
  | .regular _ => ⟨1, 1, 0, 0, entry.byteLength.toNat⟩
  | .directory => ⟨1, 0, 1, 0, 0⟩
  | .symbolicLink _ => ⟨1, 0, 0, 1, 0⟩
  | .remove _ | .opaqueDirectory _ => ⟨1, 0, 0, 0, 0⟩

end Entry

namespace Live

variable (live : Live)

def directoryAt (path : Bytes) : Bool := live[path]?.any Entry.isDirectory

/-- The directory part of a path is the root or a live directory. -/
def parentReady (path : Bytes) : Bool :=
  match Paths.rsplitOnce slash path with
  | none => true
  | some (parent, _) => live.directoryAt parent

def tallyOf (weight : Entry → ℕ) : ℕ := SortedMap.total (fun _ entry => weight entry) live

def tally : LiveCounters where
  entryCount := live.tallyOf fun entry => entry.counts.entryCount
  regularFileCount := live.tallyOf fun entry => entry.counts.regularFileCount
  directoryCount := live.tallyOf fun entry => entry.counts.directoryCount
  symbolicLinkCount := live.tallyOf fun entry => entry.counts.symbolicLinkCount
  regularFileBytes := live.tallyOf fun entry => entry.counts.regularFileBytes

end Live

/-- A whiteout is admissible over the lower snapshot. -/
def Entry.admissible (lower : Live) (entry : Entry) : Bool :=
  match entry.kind with
  | .remove target => lower[target]?.isSome
  | .opaqueDirectory path => path = [] || lower.directoryAt path
  | .regular _ | .directory | .symbolicLink _ => true

def overlayEntry (live : Live) (entry : Entry) : Option Live :=
  match entry.kind with
  | .remove _ | .opaqueDirectory _ => some live
  | .directory =>
    if live.parentReady entry.path && live[entry.path]?.all Entry.isDirectory then
      some (live.insert entry.path entry)
    else none
  | .regular _ | .symbolicLink _ =>
    if live.parentReady entry.path then
      some ((SortedMap.without (Inside entry.path) live).insert entry.path entry)
    else none

def whiteoutsAdmissible (lower : Live) (entries : List Entry) : Prop :=
  (entries.all (Entry.admissible lower)) ∧
    (entries.filterMap Entry.whiteoutSubject).Pairwise fun a b => ¬Overlap a b

instance (lower : Live) (entries : List Entry) : Decidable (whiteoutsAdmissible lower entries) :=
  inferInstanceAs (Decidable (_ ∧ _))

def withinCeilings (live : Live) : Prop :=
  live.tally.entryCount ≤ postChangesetRootfs.maximumEntries ∧
    live.tally.regularFileBytes ≤ postChangesetRootfs.maximumRegularFileBytes

instance (live : Live) : Decidable (withinCeilings live) := inferInstanceAs (Decidable (_ ∧ _))

/-- One layer over the lower snapshot: its whiteouts first, then its entries. -/
def overlayLayer (lower : Live) (entries : List Entry) : Option Live :=
  if whiteoutsAdmissible lower entries then
    (entries.foldlM overlayEntry
      (SortedMap.without (fun path => entries.any fun entry => entry.deletes path) lower)).filter
        fun live => withinCeilings live
  else none

def overlay (layers : List (List Entry)) : Option Live := layers.foldlM overlayLayer ∅

/-- Every live path has the root or a live directory above it. -/
def ParentClosed (live : Live) : Prop := ∀ path entry, live[path]? = some entry → live.parentReady path

def NoWhiteoutLive (live : Live) : Prop :=
  ∀ (path : Bytes) (entry : Entry), live[path]? = some entry → entry.whiteoutSubject = none

/-- Every live entry is bound to its own path. -/
def SelfNamed (live : Live) : Prop :=
  ∀ (path : Bytes) (entry : Entry), live[path]? = some entry → entry.path = path

section Tree

variable {live : Live} {subject path : Bytes}

lemma directoryAt_iff : live.directoryAt path ↔ ∃ entry, live[path]? = some entry ∧ entry.isDirectory := by
  rw [Live.directoryAt]
  cases live[path]? <;> simp

lemma Inside.of_below_inside {parent : Bytes} (hp : Inside subject parent)
    (h : Paths.Below slash parent path) : Inside subject path := by
  rcases hp with hp | rfl | hp
  · exact .inl hp
  · exact .inr (.inr h)
  · exact .inr (.inr (hp.trans h))

lemma ParentClosed.directory_above (hc : ParentClosed live) (hb : Paths.Below slash subject path)
    (hl : live[path]? ≠ none) : live.directoryAt subject := by
  induction hn : path.length using Nat.strong_induction_on generalizing path with
  | _ n ih =>
    obtain ⟨entry, he⟩ := Option.ne_none_iff_exists'.mp hl
    obtain ⟨parent, name, hsplit⟩ := hb.rsplitOnce
    have hready := hc path entry he
    rw [Live.parentReady, hsplit] at hready
    rcases hb.parent hsplit with rfl | hb'
    · exact hready
    · have hlt := (Paths.below_of_rsplitOnce hsplit).length_lt
      obtain ⟨parentEntry, hparent, _⟩ := directoryAt_iff.mp hready
      exact ih parent.length (by omega) hb' (by rw [hparent]; simp) rfl

lemma parentReady_of_directories {other : Live} (h : live.parentReady path)
    (hd : ∀ parent, Paths.Below slash parent path → live.directoryAt parent →
      other.directoryAt parent) : other.parentReady path := by
  rw [Live.parentReady] at h ⊢
  cases hsplit : Paths.rsplitOnce slash path with
  | none => rfl
  | some split =>
    obtain ⟨parent, name⟩ := split
    rw [hsplit] at h
    exact hd parent (Paths.below_of_rsplitOnce hsplit) h

lemma parentClosed_empty : ParentClosed ∅ := by
  intro path entry h
  simp at h

lemma directoryAt_without {drop : Bytes → Bool} :
    Live.directoryAt (SortedMap.without drop live) path ↔ drop path = false ∧ live.directoryAt path := by
  rw [Live.directoryAt, SortedMap.getElem?_without]
  cases h : drop path <;> simp [Live.directoryAt]

lemma ParentClosed.without (hc : ParentClosed live) {drop : Bytes → Bool}
    (hd : ∀ parent path, Paths.Below slash parent path → drop parent → drop path) :
    ParentClosed (SortedMap.without drop live) := by
  intro path entry h
  obtain ⟨hkept, hlive⟩ := SortedMap.getElem?_without_eq_some.mp h
  apply parentReady_of_directories (hc path entry hlive)
  intro parent hb hdir
  refine directoryAt_without.mpr ⟨?_, hdir⟩
  by_contra hdrop
  rw [Bool.not_eq_false] at hdrop
  rw [hd parent path hb hdrop] at hkept
  cases hkept

lemma Entry.deletes_below {entry : Entry} {parent : Bytes} (hb : Paths.Below slash parent path)
    (h : entry.deletes parent) : entry.deletes path := by
  unfold Entry.deletes at h ⊢
  cases hk : entry.kind <;> rw [hk] at h
  case remove target =>
    simp only [decide_eq_true_eq] at h ⊢
    exact h.of_below_inside hb
  case opaqueDirectory target =>
    simp only [decide_eq_true_eq] at h ⊢
    rcases h with h | h
    · exact .inl h
    · exact .inr (h.trans hb)
  all_goals cases h

lemma directoryAt_insert {entry : Entry} :
    Live.directoryAt (live.insert subject entry) path ↔
      if subject = path then entry.isDirectory else live.directoryAt path := by
  rw [Live.directoryAt, SortedMap.getElem?_insert']
  by_cases h : subject = path <;> simp [h, Live.directoryAt]

lemma ParentClosed.insert_directory (hc : ParentClosed live) {entry : Entry}
    (hready : live.parentReady subject) (hd : entry.isDirectory) :
    ParentClosed (live.insert subject entry) := by
  have hkeep : ∀ parent, live.directoryAt parent →
      Live.directoryAt (live.insert subject entry) parent := by
    intro parent hdir
    rw [directoryAt_insert]
    by_cases h : subject = parent <;> simp [h, hd, hdir]
  intro path other h
  rw [SortedMap.getElem?_insert'] at h
  by_cases hp : subject = path
  · exact parentReady_of_directories (hp ▸ hready) fun parent _ => hkeep parent
  · rw [if_neg hp] at h
    exact parentReady_of_directories (hc path other h) fun parent _ => hkeep parent

lemma ParentClosed.replace (hc : ParentClosed live) {entry : Entry}
    (hready : live.parentReady subject) :
    ParentClosed ((SortedMap.without (Inside subject) live).insert subject entry) := by
  intro path other h
  have hkeep : ∀ parent, ¬Inside subject parent → live.directoryAt parent →
      Live.directoryAt ((SortedMap.without (Inside subject) live).insert subject entry) parent := by
    intro parent hin hdir
    have hne : subject ≠ parent := fun h => hin (.inr (.inl h.symm))
    rw [directoryAt_insert, if_neg hne, directoryAt_without]
    exact ⟨by simpa using hin, hdir⟩
  rw [SortedMap.getElem?_insert'] at h
  by_cases hp : subject = path
  · subst hp
    apply parentReady_of_directories hready
    intro parent hb hdir
    apply hkeep parent _ hdir
    rintro (rfl | rfl | hin)
    · exact absurd hb.length_lt (by simp)
    · exact hb.irrefl _
    · exact Paths.Below.irrefl _ (hin.trans hb)
  · rw [if_neg hp] at h
    obtain ⟨hkept, hlive⟩ := SortedMap.getElem?_without_eq_some.mp h
    apply parentReady_of_directories (hc path other hlive)
    intro parent hb hdir
    apply hkeep parent _ hdir
    intro hin
    rw [decide_eq_true (hin.of_below_inside hb)] at hkept
    cases hkept

end Tree

end Eip0045.Rootfs
