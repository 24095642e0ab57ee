import Mathlib
import Eip0045.Provider.ChildDescriptors

/-! What a spawned child holds before and after the execution of its program. -/

namespace Eip0045.Provider

open Checked Stateful

section Surplus

variable {File : Type} {kept : List ℕ} {s : ChildState File}

lemma closeGaps_always {first : ℕ} {descriptors : List ℕ} (hsorted : descriptors.Pairwise (· < ·))
    (hfirst : ∀ d ∈ descriptors, first ≤ d) (hcursor : first < maxU32)
    (hmax : ∀ d ∈ descriptors, d + 1 < maxU32) (hkept : ∀ d ∈ kept, d < first ∨ d ∈ descriptors) :
    Always (closeGaps first descriptors) s fun closed s' => closed = true ∧ Added kept s s' ∧
      ∀ n, s'.table.entry n =
        if n < first ∨ n ∈ descriptors ∨ maxU32 < n then s.table.entry n else none := by
  induction descriptors generalizing first s with
  | nil =>
    rw [closeGaps, if_pos hcursor.ne]
    have hclear : ∀ d ∈ kept, ¬(first ≤ d ∧ d ≤ maxU32) := by
      intro d hd h
      have := (hkept d hd).resolve_right List.not_mem_nil
      omega
    refine (closeRange_always hcursor.le hclear).imp ?_ fun _ _ h => h
    intro closed s' h
    refine ⟨h.1, h.2.1, fun n => ?_⟩
    rw [h.2.2, Table.entry_close]
    by_cases hin : first ≤ n ∧ n ≤ maxU32
    · rw [if_pos hin, if_neg]
      simp only [List.not_mem_nil, false_or]
      omega
    · rw [if_neg hin, if_pos]
      simp only [List.not_mem_nil, false_or]
      omega
  | cons d ds ih =>
    obtain ⟨hd, hds⟩ := List.pairwise_cons.mp hsorted
    have hle : first ≤ d := hfirst d List.mem_cons_self
    have hdmax : d + 1 < maxU32 := hmax d List.mem_cons_self
    have hnext : ∀ t : ChildState File, Always (closeGaps (min (d + 1) maxU32) ds) t fun closed s' =>
        closed = true ∧ Added kept t s' ∧
          ∀ n, s'.table.entry n =
            if n < d + 1 ∨ n ∈ ds ∨ maxU32 < n then t.table.entry n else none := by
      intro t
      rw [min_eq_left hdmax.le]
      refine ih hds (fun e he => hd e he) hdmax (fun e he => hmax e (List.mem_cons_of_mem _ he)) ?_
      intro e he
      obtain h | h := hkept e he
      · exact Or.inl (by omega)
      · obtain rfl | h := List.mem_cons.mp h
        · exact Or.inl (Nat.lt_succ_self e)
        · exact Or.inr h
    rw [closeGaps]
    split
    case isTrue hlt =>
      have hclear : ∀ e ∈ kept, ¬(first ≤ e ∧ e ≤ d - 1) := by
        intro e he h
        obtain hbefore | hmem := hkept e he
        · omega
        · obtain rfl | hmem := List.mem_cons.mp hmem
          · omega
          · have := hd e hmem
            omega
      refine Always.bind (closeRange_always (by omega) hclear) ?_
      intro closed t h
      obtain ⟨rfl, hadded, htable⟩ := h
      refine (hnext t).imp ?_ fun _ _ h => h
      intro closed s' h
      refine ⟨h.1, hadded.trans h.2.1, fun n => ?_⟩
      rw [h.2.2 n, htable, Table.entry_close]
      simp only [List.mem_cons]
      by_cases hgap : first ≤ n ∧ n ≤ d - 1
      · have hout : ¬(n < first ∨ (n = d ∨ n ∈ ds) ∨ maxU32 < n) := by
          intro h
          obtain h | (h | h) | h := h
          · omega
          · omega
          · have := hd n h
            omega
          · omega
        rw [if_neg hout, if_pos hgap, ite_self]
      · rw [if_neg hgap]
        refine if_congr ?_ rfl rfl
        by_cases hmem : n ∈ ds
        · simp [hmem]
        · simp only [hmem, or_false, false_or]
          omega
    case isFalse hlt =>
      obtain rfl : first = d := by omega
      refine (hnext s).imp ?_ fun _ _ h => h
      intro closed s' h
      refine ⟨h.1, h.2.1, fun n => ?_⟩
      rw [h.2.2 n]
      refine if_congr ?_ rfl rfl
      rw [List.mem_cons, Nat.lt_succ_iff, le_iff_lt_or_eq, or_assoc, or_assoc]

lemma closeEverySurplus_always {prepared : PreparedSpawn} {temporary : List ℕ}
    (hlength : temporary.length ≤ 2) (hnodup : (prepared.allowedAfterRemap ++ temporary).Nodup)
    (hmax : ∀ d ∈ prepared.allowedAfterRemap ++ temporary, d + 1 < maxU32)
    (hkept : ∀ d ∈ kept, d ∈ prepared.allowedAfterRemap ++ temporary) :
    Always (closeEverySurplus prepared temporary) s fun closed s' => closed = true ∧ Added kept s s' ∧
      ∀ n, s'.table.entry n = if n ∈ prepared.allowedAfterRemap ++ temporary ∨ maxU32 < n
        then s.table.entry n else none := by
  obtain ⟨hperm, hle⟩ := InsertionSort.sorted_spec (prepared.allowedAfterRemap ++ temporary)
  have hchain : (InsertionSort.sorted (prepared.allowedAfterRemap ++ temporary)).IsChain (· ≠ ·) :=
    List.Pairwise.isChain (hperm.nodup_iff.mpr hnodup)
  rw [closeEverySurplus, if_pos hlength]
  simp only [hchain, if_true]
  refine (closeGaps_always (InsertionSort.strict_of_isChain_ne hle hchain) (fun d _ => Nat.zero_le d)
    (by decide) (fun d hd => hmax d (hperm.mem_iff.mp hd))
    (fun d hd => Or.inr (hperm.mem_iff.mpr (hkept d hd)))).imp ?_ fun _ _ h => h
  intro closed s' h
  refine ⟨h.1, h.2.1, fun n => ?_⟩
  rw [h.2.2 n]
  simp only [Nat.not_lt_zero, false_or, hperm.mem_iff]

end Surplus

section Mappings

variable {File : Type} {kept : List ℕ} {s : ChildState File}

lemma mappings_always {mappings : List FdMapping}
    (hsource : ∀ mapping ∈ mappings, s.table.entry mapping.source ≠ none)
    (htarget : ∀ mapping ∈ mappings, s.table.entry mapping.target = none)
    (hnodup : (mappings.map FdMapping.target).Nodup) :
    Always (mappings.forM fun mapping => orExit (dup3 mapping.source mapping.target)) s fun _ s' =>
      Added kept s s' ∧
      (∀ mapping ∈ mappings, ∀ opened, s.table.entry mapping.source = some opened →
        s'.table.entry mapping.target = some { file := opened.file, cloexec := false }) ∧
      ∀ n ∉ mappings.map FdMapping.target, s'.table.entry n = s.table.entry n := by
  induction mappings generalizing s with
  | nil => exact ⟨Added.refl, fun _ h => absurd h List.not_mem_nil, fun _ _ => rfl⟩
  | cons mapping mappings ih =>
    obtain ⟨hfresh, hrest⟩ := List.nodup_cons.mp hnodup
    obtain ⟨opened, hopened⟩ := Option.ne_none_iff_exists'.mp (hsource mapping List.mem_cons_self)
    have hfree := htarget mapping List.mem_cons_self
    refine Always.bind (orExit_always (@dup3_always _ kept _ _ _ _ hopened hfree)) ?_
    intro _ t h
    obtain ⟨hadded, htable⟩ := h
    have hother : ∀ n ≠ mapping.target, t.table.entry n = s.table.entry n := by
      intro n hn
      rw [htable, Table.entry_insert_of_ne _ _ hn]
    -- the sources are open before the mapping, its target is not
    have hsources : ∀ m ∈ mappings, m.source ≠ mapping.target := by
      intro m hm he
      exact hsource m (List.mem_cons_of_mem _ hm) (he ▸ hfree)
    have htargets : ∀ m ∈ mappings, m.target ≠ mapping.target := by
      intro m hm he
      exact hfresh (he ▸ List.mem_map_of_mem hm)
    refine (ih ?_ ?_ hrest).imp ?_ fun _ _ h => h
    · intro m hm
      rw [hother _ (hsources m hm)]
      exact hsource m (List.mem_cons_of_mem _ hm)
    · intro m hm
      rw [hother _ (htargets m hm)]
      exact htarget m (List.mem_cons_of_mem _ hm)
    · intro _ s' h
      obtain ⟨hadded', hmapped, hrest'⟩ := h
      refine ⟨hadded.trans hadded', ?_, ?_⟩
      · intro m hm opened' hopened'
        obtain rfl | hm := List.mem_cons.mp hm
        · rw [hrest' _ hfresh, htable, Table.entry_insert_self]
          obtain rfl : opened = opened' := Option.some.inj (hopened.symm.trans hopened')
          rfl
        · exact hmapped m hm opened' (by rw [hother _ (hsources m hm), hopened'])
      · intro n hn
        rw [List.map_cons, List.mem_cons, not_or] at hn
        rw [hrest' n hn.2, hother n hn.1]

end Mappings

section Plans

variable {plan : SpawnInputs} {prepared : PreparedSpawn}

def PreparedSpawn.targets (prepared : PreparedSpawn) : List ℕ := prepared.mappings.map FdMapping.target

lemma preparedExec_ok {executable : BorrowedFd} {argv envp : List (List UInt8)} {n : ℕ}
    (h : preparedExec executable argv envp = .ok n) : n = executable.raw := by
  obtain ⟨_, _, h⟩ := bind_ok.mp h
  exact (pure_ok.mp h).symm

lemma prepareAllowedAfterRemap_ok {executable : ℕ} {mappings : List FdMapping} {allowed : List ℕ}
    (h : prepareAllowedAfterRemap executable mappings = .ok allowed) :
    allowed.Perm (mappings.map FdMapping.target ++ [executable]) := by
  obtain ⟨_, _, h⟩ := bind_ok.mp h
  rw [← pure_ok.mp h]
  exact List.mergeSort_perm _ _

structure Laid (plan : SpawnInputs) (prepared : PreparedSpawn) : Prop where
  passed : prepared.mappings.map FdMapping.source = plan.passed.map BorrowedFd.raw
  targets : prepared.targets = List.range' 3 plan.passed.length
  length : plan.passed.length ≤ 19
  allowed : prepared.allowedAfterRemap.Perm (prepared.targets ++ [prepared.executable])
  executable : prepared.executable ∈ prepared.sources.map BorrowedFd.raw
  sources : ∀ n ∈ plan.passed.map BorrowedFd.raw,
    n ∈ (prepared.sources ++ [plan.endpoint]).map BorrowedFd.raw

lemma mapIdx_sources (first : ℕ) (fds : List BorrowedFd) :
    (fds.mapIdx fun index descriptor => (⟨descriptor.raw, first + index⟩ : FdMapping)).map
      FdMapping.source = fds.map BorrowedFd.raw := by
  refine List.ext_getElem (by simp) ?_
  intro i _ _
  simp

lemma mapIdx_targets (first : ℕ) (fds : List BorrowedFd) :
    (fds.mapIdx fun index descriptor => (⟨descriptor.raw, first + index⟩ : FdMapping)).map
      FdMapping.target = List.range' first fds.length := by
  refine List.ext_getElem (by simp) ?_
  intro i _ _
  simp

lemma prepareSpawn_laid (h : plan.prepareSpawn = .ok prepared) : Laid plan prepared := by
  cases plan with
  | worker w =>
    obtain ⟨executable, hexec, h⟩ := bind_ok.mp h
    obtain ⟨allowed, hallowed, h⟩ := bind_ok.mp h
    rw [← pure_ok.mp h]
    refine ⟨rfl, rfl, by simp [SpawnInputs.passed], prepareAllowedAfterRemap_ok hallowed, ?_, ?_⟩
    · rw [preparedExec_ok hexec]
      simp
    · simp [SpawnInputs.passed, SpawnInputs.endpoint]
  | generator g =>
    obtain ⟨_, hlength, h⟩ := bind_ok.mp h
    obtain ⟨executable, hexec, h⟩ := bind_ok.mp h
    obtain ⟨allowed, hallowed, h⟩ := bind_ok.mp h
    rw [← pure_ok.mp h]
    have hingress : g.ingress.length ≤ 16 := ensure_ok.mp hlength
    have hpassed : (SpawnInputs.generator g).passed.length = 3 + g.ingress.length := by
      simp [SpawnInputs.passed]
      omega
    refine ⟨?_, ?_, ?_, prepareAllowedAfterRemap_ok hallowed, ?_, ?_⟩
    · simp only [List.map_append, mapIdx_sources]
      rfl
    · simp only [PreparedSpawn.targets, List.map_append, mapIdx_targets]
      rw [hpassed]
      exact @List.range'_append_1 3 3 g.ingress.length
    · omega
    · rw [preparedExec_ok hexec]
      simp
    · intro n hn
      simp only [SpawnInputs.passed, List.map_append, List.mem_append, List.map_cons,
        List.mem_cons] at hn
      simp only [SpawnInputs.endpoint, List.map_append, List.mem_append, List.map_cons, List.mem_cons]
      tauto

end Plans

section Observed

variable {File : Type} {table : Table File}

lemma foldlM_observeEntry {ignored : ℕ} {entries observed observed' : List ℕ}
    (h : entries.foldlM (observeEntry ignored) observed = .ok observed') :
    observed' = observed ++ entries.filter (· ≠ ignored) := by
  induction entries generalizing observed with
  | nil => simpa using (pure_ok.mp h).symm
  | cons value entries ih =>
    rw [List.foldlM_cons] at h
    obtain ⟨next, hnext, h⟩ := bind_ok.mp h
    rw [ih h]
    obtain ⟨_, _, hnext⟩ := bind_ok.mp hnext
    split at hnext
    case isTrue heq =>
      rw [← pure_ok.mp hnext]
      simp [heq]
    case isFalse hne =>
      obtain ⟨_, _, hnext⟩ := bind_ok.mp hnext
      rw [← pure_ok.mp hnext]
      simp [hne]

/-- The open descriptors are the given ones, above the targets and to be closed at an execution. -/
structure Observed (table : Table File) (raws : List ℕ) : Prop where
  nodup : raws.Nodup
  reserved : ∀ n ∈ raws, lastReservedDescriptor < n
  lt : ∀ n ∈ raws, n < 2 ^ 31
  entry : ∀ n, table.entry n ≠ none ↔ n ∈ raws
  cloexec : ∀ n opened, table.entry n = some opened → opened.cloexec = true

lemma validateSourceDescriptor_ok {before : List BorrowedFd} {descriptor : BorrowedFd}
    (h : validateSourceDescriptor table before descriptor = .ok ()) :
    lastReservedDescriptor < descriptor.raw ∧ descriptor.raw ∉ before.map BorrowedFd.raw ∧
      ∀ opened, table.entry descriptor.raw = some opened → opened.cloexec = true := by
  obtain ⟨_, hreserved, h⟩ := bind_ok.mp h
  obtain ⟨_, hfresh, h⟩ := bind_ok.mp h
  obtain ⟨opened, hopened, h⟩ := bind_ok.mp h
  refine ⟨not_le.mp (ensure_ok.mp hreserved), ensure_ok.mp hfresh, ?_⟩
  intro opened' hopened'
  obtain rfl : opened = opened' := Option.some.inj ((context_ok.mp hopened).symm.trans hopened')
  exact ensure_ok.mp h

lemma validateSourceDescriptors_ok {sources : List BorrowedFd}
    (h : validateSourceDescriptors table sources = .ok ()) : (sources.map BorrowedFd.raw).Nodup ∧
      ∀ n ∈ sources.map BorrowedFd.raw, lastReservedDescriptor < n ∧
        ∀ opened, table.entry n = some opened → opened.cloexec = true := by
  obtain ⟨_, _, h⟩ := bind_ok.mp h
  have hall : ∀ i (hi : i < sources.length),
      validateSourceDescriptor table (sources.take i) sources[i] = .ok () := by
    intro i hi
    exact forM_ok.mp h (sources[i], i) (List.mk_mem_zipIdx_iff_getElem?.mpr (List.getElem?_eq_getElem hi))
  refine ⟨List.pairwise_iff_getElem.mpr ?_, ?_⟩
  · intro i j hi hj hij
    rw [List.length_map] at hi hj
    rw [List.getElem_map, List.getElem_map]
    intro heq
    refine (validateSourceDescriptor_ok (hall j hj)).2.1 (heq ▸ List.mem_map_of_mem ?_)
    exact List.mem_take_iff_getElem.mpr ⟨i, by omega, rfl⟩
  · intro n hn
    obtain ⟨descriptor, hmem, rfl⟩ := List.mem_map.mp hn
    obtain ⟨i, hi, rfl⟩ := List.getElem_of_mem hmem
    obtain ⟨hreserved, -, hcloexec⟩ := validateSourceDescriptor_ok (hall i hi)
    exact ⟨hreserved, hcloexec⟩

/-- The sources of a plan as they are observed. -/
def observedSources (prepared : PreparedSpawn) (endpoint : BorrowedFd)
    (additionalSources : List BorrowedFd) : List ℕ :=
  (prepared.sources ++ [endpoint] ++ additionalSources ++ [prepared.authorityRoot]).map BorrowedFd.raw

lemma observe_ok {prepared : PreparedSpawn} {endpoint : BorrowedFd} {additionalSources : List BorrowedFd}
    {directory : FdDirectory table} {threads : Except ProcessContractError Unit}
    (h : observeLiveDescriptorInventory prepared endpoint additionalSources table directory threads =
      .ok ()) : Observed table (observedSources prepared endpoint additionalSources) := by
  obtain ⟨_, _, h⟩ := bind_ok.mp h
  obtain ⟨_, hsources, h⟩ := bind_ok.mp h
  obtain ⟨observed, hobserved, h⟩ := bind_ok.mp h
  obtain ⟨_, _, h⟩ := bind_ok.mp h
  obtain ⟨entries, hentries, hobserved⟩ := bind_ok.mp hobserved
  obtain ⟨_, _, hobserved⟩ := bind_ok.mp hobserved
  obtain ⟨hnodup, hall⟩ := validateSourceDescriptors_ok hsources
  have hentry : ∀ n, table.entry n ≠ none ↔ n ∈ observedSources prepared endpoint additionalSources := by
    intro n
    have hsame : n ∈ entries.mergeSort (· ≤ ·) ↔
        n ∈ (observedSources prepared endpoint additionalSources).mergeSort (· ≤ ·) := by
      rw [pure_ok.mp hobserved, ensure_ok.mp h]
      rfl
    rw [List.mem_mergeSort, List.mem_mergeSort, foldlM_observeEntry hentries, List.nil_append,
      List.mem_filter, directory.complete] at hsame
    rw [← hsame]
    constructor
    · intro hopen
      refine ⟨Or.inl hopen, ?_⟩
      simp only [ne_eq, decide_eq_true_eq]
      intro heq
      exact hopen (heq ▸ directory.fresh)
    · intro hopen
      exact hopen.1.resolve_right (by simpa using hopen.2)
  have hlt : ∀ n ∈ observedSources prepared endpoint additionalSources, n < 2 ^ 31 := by
    intro n hn
    obtain ⟨descriptor, -, rfl⟩ := List.mem_map.mp hn
    exact descriptor.lt
  refine ⟨hnodup, fun n hn => (hall n hn).1, hlt, hentry, ?_⟩
  intro n opened hopened
  refine (hall n ((hentry n).mp ?_)).2 opened hopened
  rw [hopened]
  exact Option.some_ne_none _

end Observed

section Child

variable {File : Type} {table : Table File} {plan : SpawnInputs} {prepared : PreparedSpawn}
  {reader writer : BorrowedFd}

/-- A table with the files of a plan at their targets, and with some of the descriptors that the
child started with. -/
structure Carries (table : Table File) (plan : SpawnInputs) (kept : List ℕ) (t : Table File) : Prop where
  passed : ∀ (i : ℕ) (fd : BorrowedFd), plan.passed[i]? = some fd →
    ∃ opened, table.entry fd.raw = some opened ∧
      t.entry (3 + i) = some { file := opened.file, cloexec := false }
  rest : ∀ n ∈ kept, t.entry n = table.entry n
  high : ∀ n, maxU32 < n → t.entry n = none

structure Holds (table : Table File) (plan : SpawnInputs) (kept : List ℕ) (t : Table File) : Prop
    extends Carries table plan kept t where
  only : ∀ n, t.entry n ≠ none ↔ n ∈ List.range' 3 plan.passed.length ∨ n ∈ kept

/-- The descriptors that the child keeps up to its first message. -/
def PreparedSpawn.duringTransition (prepared : PreparedSpawn) (reader : BorrowedFd) : List ℕ :=
  [prepared.executable, reader.raw, prepared.authorityRoot.raw]

lemma distinct (hlaid : Laid plan prepared)
    (h : (observedSources prepared plan.endpoint [reader, writer]).Nodup) :
    (prepared.duringTransition reader).Nodup ∧ writer.raw ∉ prepared.duringTransition reader ∧
      writer.raw ∉ plan.passed.map BorrowedFd.raw := by
  have hexec := hlaid.executable
  simp only [observedSources, List.map_append, List.nodup_append, List.map_cons, List.map_nil,
    List.nodup_cons, List.mem_append, List.mem_cons, List.not_mem_nil, or_false,
    not_false_eq_true, List.nodup_nil, and_true] at h
  obtain ⟨⟨⟨-, hendpoint⟩, hpair, hbefore⟩, hroot⟩ := h
  have hexecReader := hbefore _ (Or.inl hexec) _ (Or.inl rfl)
  have hexecWriter := hbefore _ (Or.inl hexec) _ (Or.inr rfl)
  have hexecRoot := hroot.2 _ (Or.inl (Or.inl hexec)) _ rfl
  have hreaderRoot := hroot.2 _ (Or.inr (Or.inl rfl)) _ rfl
  have hwriterRoot := hroot.2 _ (Or.inr (Or.inr rfl)) _ rfl
  refine ⟨?_, ?_, ?_⟩
  · simp [PreparedSpawn.duringTransition, hexecReader, hexecRoot, hreaderRoot]
  · simp [PreparedSpawn.duringTransition, hexecWriter.symm, Ne.symm hpair, hwriterRoot]
  · intro hmem
    have hsource := hlaid.sources _ hmem
    rw [List.map_append, List.mem_append, List.map_singleton, List.mem_singleton] at hsource
    exact hbefore _ hsource _ (Or.inr rfl) rfl

lemma target_lt (hlaid : Laid plan prepared) {n : ℕ} (h : n ∈ prepared.targets) :
    n ≤ lastReservedDescriptor := by
  have := hlaid.length
  rw [hlaid.targets, List.mem_range'_1] at h
  exact Nat.le_of_lt_succ (lt_of_lt_of_le h.2 (by simp only [lastReservedDescriptor]; omega))

lemma Carries.open_target {kept : List ℕ} {t : Table File} (h : Carries table plan kept t) {n : ℕ}
    (hn : n ∈ List.range' 3 plan.passed.length) : t.entry n ≠ none := by
  obtain ⟨i, hi, rfl⟩ := List.mem_range'.mp hn
  obtain ⟨opened, -, hentry⟩ := h.passed i plan.passed[i] (List.getElem?_eq_getElem hi)
  rw [one_mul, hentry]
  exact Option.some_ne_none _

lemma Holds.afterExec {raws : List ℕ} {kept : List ℕ} {t : Table File} (h : Holds table plan kept t)
    (hobserved : Observed table raws) : Holds table plan [] t.afterExec := by
  have hcarries : Carries table plan [] t.afterExec := by
    refine ⟨?_, fun _ hn => absurd hn List.not_mem_nil, ?_⟩
    · intro i fd hfd
      obtain ⟨opened, hopened, hentry⟩ := h.passed i fd hfd
      refine ⟨opened, hopened, ?_⟩
      rw [Table.entry_afterExec, hentry]
      rfl
    · intro n hn
      rw [Table.entry_afterExec, h.high n hn]
      rfl
  refine ⟨hcarries, fun n => ⟨?_, fun hn => ?_⟩⟩
  · intro hopen
    rw [Table.entry_afterExec] at hopen
    refine Or.inl (((h.only n).mp ?_).resolve_right ?_)
    · intro hnone
      rw [hnone] at hopen
      exact hopen rfl
    · intro hn
      rw [h.rest n hn] at hopen
      rcases hentry : table.entry n with _ | opened
      · rw [hentry] at hopen
        exact hopen rfl
      · rw [hentry, Option.filter_some, hobserved.cloexec n opened hentry] at hopen
        exact hopen rfl
  · exact hcarries.open_target (hn.resolve_right List.not_mem_nil)

lemma surplus_holds {raws temporary : List ℕ} {s : ChildState File} (hlaid : Laid plan prepared)
    (hobserved : Observed table raws) (hlength : temporary.length ≤ 2)
    (hnodup : (prepared.executable :: temporary).Nodup)
    (hmem : ∀ n ∈ prepared.executable :: temporary, n ∈ raws)
    (hcarries : Carries table plan (prepared.executable :: temporary) s.table) :
    Always (closeEverySurplus prepared temporary) s fun closed s' => closed = true ∧
      Added (prepared.targets ++ prepared.executable :: temporary) s s' ∧
        Holds table plan (prepared.executable :: temporary) s'.table := by
  have hperm : (prepared.allowedAfterRemap ++ temporary).Perm
      (prepared.targets ++ prepared.executable :: temporary) := by
    refine (hlaid.allowed.append_right temporary).trans ?_
    rw [List.append_assoc, List.singleton_append]
  have hdisjoint : ∀ n ∈ prepared.targets, n ∉ prepared.executable :: temporary := by
    intro n hn h
    exact absurd (target_lt hlaid hn) (not_le.mpr (hobserved.reserved n (hmem n h)))
  have hkept : (prepared.targets ++ prepared.executable :: temporary).Nodup := by
    refine List.nodup_append.mpr ⟨hlaid.targets ▸ List.nodup_range', hnodup, ?_⟩
    intro a ha b hb h
    exact hdisjoint a ha (h ▸ hb)
  have hmax : ∀ d ∈ prepared.targets ++ prepared.executable :: temporary, d + 1 < maxU32 := by
    intro d hd
    have hlt : d < 2 ^ 31 := by
      obtain hd | hd := List.mem_append.mp hd
      · exact lt_of_le_of_lt (target_lt hlaid hd) (by decide)
      · exact hobserved.lt d (hmem d hd)
    rw [maxU32]
    omega
  refine (closeEverySurplus_always hlength (hperm.nodup_iff.mpr hkept)
    (fun d hd => hmax d (hperm.mem_iff.mp hd)) (fun d hd => hperm.mem_iff.mpr hd)).imp ?_ fun _ _ h => h
  intro closed s' h
  obtain ⟨hclosed, hadded, hentry⟩ := h
  have hsame : ∀ n ∈ prepared.targets ++ prepared.executable :: temporary,
      s'.table.entry n = s.table.entry n := by
    intro n hn
    rw [hentry n, if_pos (Or.inl (hperm.mem_iff.mpr hn))]
  refine ⟨hclosed, hadded, ⟨?_, ?_, ?_⟩, ?_⟩
  · intro i fd hfd
    obtain ⟨opened, hopened, htarget⟩ := hcarries.passed i fd hfd
    refine ⟨opened, hopened, ?_⟩
    rw [hsame _ (List.mem_append_left _ ?_), htarget]
    rw [hlaid.targets, List.mem_range'_1]
    have := (List.getElem?_eq_some_iff.mp hfd).1
    omega
  · intro n hn
    rw [hsame n (List.mem_append_right _ hn), hcarries.rest n hn]
  · intro n hn
    rw [hentry n, hcarries.high n hn, ite_self]
  · intro n
    rw [← hlaid.targets, ← List.mem_append]
    constructor
    · intro hopen
      by_contra hn
      refine hopen ?_
      rw [hentry n]
      split
      case isTrue h =>
        exact hcarries.high n (h.resolve_left fun h => hn (hperm.mem_iff.mp h))
      case isFalse h => rfl
    · intro hn
      rw [hsame n hn]
      obtain hn | hn := List.mem_append.mp hn
      · exact hcarries.open_target (hlaid.targets ▸ hn)
      · rw [hcarries.rest n hn]
        exact (hobserved.entry n).mpr (hmem n hn)

lemma mem_observed (hlaid : Laid plan prepared) {n : ℕ}
    (h : n ∈ plan.passed.map BorrowedFd.raw ∨ n ∈ prepared.duringTransition reader) :
    n ∈ observedSources prepared plan.endpoint [reader, writer] := by
  have hpassed := hlaid.sources n
  have hexec := hlaid.executable
  simp only [observedSources, List.map_append, List.mem_append] at hpassed ⊢
  obtain h | h := h
  · exact Or.inl (Or.inl (hpassed h))
  · simp only [PreparedSpawn.duringTransition, List.mem_cons, List.not_mem_nil, or_false] at h
    obtain rfl | rfl | rfl := h
    · exact Or.inl (Or.inl (Or.inl hexec))
    · exact Or.inl (Or.inr List.mem_cons_self)
    · exact Or.inr List.mem_cons_self

lemma mapping_at (hlaid : Laid plan prepared) {i : ℕ} {fd : BorrowedFd} (hfd : plan.passed[i]? = some fd) :
    ∃ mapping ∈ prepared.mappings, mapping.source = fd.raw ∧ mapping.target = 3 + i := by
  have hsource : (prepared.mappings.map FdMapping.source)[i]? = some fd.raw := by
    rw [hlaid.passed, List.getElem?_map, hfd]
    rfl
  rw [List.getElem?_map, Option.map_eq_some_iff] at hsource
  obtain ⟨mapping, hmapping, hsource⟩ := hsource
  have htarget : prepared.targets[i]? = some mapping.target := by
    rw [PreparedSpawn.targets, List.getElem?_map, hmapping]
    rfl
  have hi : i < plan.passed.length := (List.getElem?_eq_some_iff.mp hfd).1
  rw [hlaid.targets, List.getElem?_range' hi, one_mul] at htarget
  exact ⟨mapping, List.mem_of_getElem? hmapping, hsource, (Option.some.inj htarget).symm⟩

lemma remapDescriptors_always (hlaid : Laid plan prepared)
    (hobserved : Observed table (observedSources prepared plan.endpoint [reader, writer])) :
    Always (remapDescriptors prepared reader.raw writer.raw) ⟨table, []⟩ fun _ s =>
      Added (prepared.targets ++ prepared.duringTransition reader) ⟨table, []⟩ s ∧
        Holds table plan (prepared.duringTransition reader) s.table := by
  obtain ⟨hnodup, hwriter, hwriterPassed⟩ := distinct hlaid hobserved.nodup
  have hopen : ∀ n, n ∈ plan.passed.map BorrowedFd.raw ∨ n ∈ prepared.duringTransition reader →
      table.entry n ≠ none := fun n h => (hobserved.entry n).mpr (mem_observed hlaid h)
  have hfree : ∀ n ∈ prepared.targets, table.entry n = none := by
    intro n hn
    by_contra h
    exact absurd (target_lt hlaid hn) (not_le.mpr (hobserved.reserved n ((hobserved.entry n).mp h)))
  have hwriterHigh : lastReservedDescriptor < writer.raw :=
    hobserved.reserved _ (by simp [observedSources])
  have hclear : ∀ d ∈ prepared.targets ++ prepared.duringTransition reader,
      ¬(writer.raw ≤ d ∧ d ≤ writer.raw) := by
    intro d hd h
    obtain rfl := le_antisymm h.1 h.2
    obtain hd | hd := List.mem_append.mp hd
    · exact absurd (target_lt hlaid hd) (not_le.mpr hwriterHigh)
    · exact hwriter hd
  refine Always.bind (orExit_always (closeRange_always le_rfl hclear)) ?_
  intro _ s₁ h
  obtain ⟨hadded₁, hclosed⟩ := h
  have hentry₁ : ∀ n ≠ writer.raw, s₁.table.entry n = table.entry n := by
    intro n hn
    rw [hclosed, Table.entry_close, if_neg]
    intro h
    exact hn (le_antisymm h.2 h.1)
  have hnone₁ : ∀ n, table.entry n = none → s₁.table.entry n = none := by
    intro n hn
    rw [hclosed, Table.entry_close, hn, ite_self]
  have hsource : ∀ mapping ∈ prepared.mappings, mapping.source ∈ plan.passed.map BorrowedFd.raw := by
    intro mapping hmapping
    rw [← hlaid.passed]
    exact List.mem_map_of_mem hmapping
  have hne : ∀ n ∈ plan.passed.map BorrowedFd.raw, n ≠ writer.raw := by
    intro n hn h
    exact hwriterPassed (h ▸ hn)
  refine Always.bind (@mappings_always _ (prepared.targets ++ prepared.duringTransition reader) _ _
    ?_ ?_ ?_) ?_
  · intro mapping hmapping
    rw [hentry₁ _ (hne _ (hsource mapping hmapping))]
    exact hopen _ (Or.inl (hsource mapping hmapping))
  · intro mapping hmapping
    exact hnone₁ _ (hfree _ (List.mem_map_of_mem hmapping))
  · exact (hlaid.targets ▸ List.nodup_range' : prepared.targets.Nodup)
  · intro _ s₂ h
    obtain ⟨hadded₂, hmapped, hother⟩ := h
    have htarget : ∀ n ∈ observedSources prepared plan.endpoint [reader, writer],
        n ∉ prepared.targets := by
      intro n hn h
      exact absurd (target_lt hlaid h) (not_le.mpr (hobserved.reserved n hn))
    have hcarries : Carries table plan (prepared.duringTransition reader) s₂.table := by
      refine ⟨?_, ?_, ?_⟩
      · intro i fd hfd
        obtain ⟨mapping, hmapping, hraw, hnumber⟩ := mapping_at hlaid hfd
        have hmem := hsource mapping hmapping
        obtain ⟨opened, hopened⟩ := Option.ne_none_iff_exists'.mp (hopen _ (Or.inl hmem))
        refine ⟨opened, hraw ▸ hopened, ?_⟩
        rw [← hnumber]
        exact hmapped mapping hmapping opened (by rw [hentry₁ _ (hne _ hmem), hopened])
      · intro n hn
        rw [hother n (htarget n (mem_observed hlaid (Or.inr hn))), hentry₁]
        intro h
        exact hwriter (h ▸ hn)
      · intro n hn
        have hhigh : table.entry n = none := by
          by_contra h
          have := hobserved.lt n ((hobserved.entry n).mp h)
          rw [maxU32] at hn
          omega
        rw [hother n, hnone₁ n hhigh]
        intro h
        have := target_lt hlaid h
        rw [maxU32] at hn
        rw [lastReservedDescriptor] at this
        omega
    refine (orExit_always (surplus_holds hlaid hobserved le_rfl hnodup
      (fun n hn => mem_observed hlaid (Or.inr hn)) hcarries)).imp ?_ fun _ _ h => h
    intro _ s₃ h
    exact ⟨hadded₁.trans (hadded₂.trans h.1), h.2⟩

lemma readChildThreadSelfStatus_always {threadSelf status : File} {kept : List ℕ} {s : ChildState File}
    (hkept : ∀ d ∈ kept, s.table.entry d ≠ none) :
    Always (readChildThreadSelfStatus threadSelf status) s fun _ s' =>
      Added kept s s' ∧ ∀ n, s'.table.entry n = s.table.entry n := by
  have hclear : ∀ number, s.table.entry number = none → ∀ d ∈ kept, ¬(number ≤ d ∧ d ≤ number) := by
    intro number hnumber d hd h
    obtain rfl := le_antisymm h.1 h.2
    exact hkept _ hd hnumber
  refine Always.bind (@openAt_always _ kept _ _) ?_
  intro directory s₁ h
  obtain ⟨rfl, hadded₁, htable₁⟩ := h
  refine Always.bind (@openAt_always _ kept _ _) ?_
  intro descriptor s₂ h
  obtain ⟨rfl, hadded₂, htable₂⟩ := h
  have hdirectory := s.table.entry_lowestFree
  have hdescriptor := s₁.table.entry_lowestFree
  generalize s.table.lowestFree = directory at *
  generalize s₁.table.lowestFree = descriptor at *
  -- the second descriptor is free beside the first
  have hne : descriptor ≠ directory := by
    rintro rfl
    rw [htable₁, Table.entry_insert_self] at hdescriptor
    cases hdescriptor
  rw [htable₁, Table.entry_insert_of_ne _ _ hne] at hdescriptor
  refine Always.bind (orExit_always (closeRange_always le_rfl (hclear directory hdirectory))) ?_
  intro _ s₃ h
  obtain ⟨hadded₃, htable₃⟩ := h
  refine (orExit_always (closeRange_always le_rfl (hclear descriptor hdescriptor))).imp ?_
    fun _ _ h => h
  intro _ s₄ h
  obtain ⟨hadded₄, htable₄⟩ := h
  refine ⟨hadded₁.trans (hadded₂.trans (hadded₃.trans hadded₄)), fun n => ?_⟩
  rw [htable₄, htable₃, htable₂, htable₁]
  simp only [Table.entry_close]
  by_cases hn : n = descriptor
  · rw [hn, hdescriptor, if_pos ⟨le_rfl, le_rfl⟩]
  · rw [if_neg fun h => hn (le_antisymm h.2 h.1)]
    by_cases hn' : n = directory
    · rw [hn', hdirectory, if_pos ⟨le_rfl, le_rfl⟩]
    · rw [if_neg fun h => hn' (le_antisymm h.2 h.1), Table.entry_insert_of_ne _ _ hn,
        Table.entry_insert_of_ne _ _ hn']

lemma releaseDescriptors_always {threadSelf status : File} {s : ChildState File}
    (hlaid : Laid plan prepared)
    (hobserved : Observed table (observedSources prepared plan.endpoint [reader, writer]))
    (hholds : Holds table plan (prepared.duringTransition reader) s.table) :
    Always (releaseDescriptors prepared threadSelf status) s fun _ s' =>
      Added (prepared.targets ++ [prepared.executable]) s s' ∧
        Holds table plan [prepared.executable] s'.table := by
  have hexec : prepared.executable ∈ prepared.duringTransition reader := List.mem_cons_self
  have hkept : ∀ d ∈ prepared.targets ++ [prepared.executable], s.table.entry d ≠ none := by
    intro d hd
    rw [hholds.only, ← hlaid.targets]
    obtain hd | hd := List.mem_append.mp hd
    · exact Or.inl hd
    · exact Or.inr (List.mem_singleton.mp hd ▸ hexec)
  refine Always.bind (readChildThreadSelfStatus_always hkept) ?_
  intro _ s₁ h
  obtain ⟨hadded₁, hsame⟩ := h
  have hcarries : Carries table plan [prepared.executable] s₁.table := by
    refine ⟨?_, ?_, ?_⟩
    · intro i fd hfd
      rw [hsame]
      exact hholds.passed i fd hfd
    · intro n hn
      rw [hsame]
      exact hholds.rest n (List.mem_singleton.mp hn ▸ hexec)
    · intro n hn
      rw [hsame]
      exact hholds.high n hn
  refine (orExit_always (surplus_holds hlaid hobserved (by decide) (List.nodup_singleton _) ?_
    hcarries)).imp ?_ fun _ _ h => h
  · intro n hn
    exact mem_observed hlaid (Or.inr (List.mem_singleton.mp hn ▸ hexec))
  · intro _ s₂ h
    exact ⟨hadded₁.trans h.1, h.2⟩

end Child

section Admitted

variable {File : Type}

/-- A plan whose descriptors are observed in the table of its process, with the two ends of the
barrier besides them. -/
structure Admitted (plan : SpawnInputs) (prepared : PreparedSpawn) (reader writer : BorrowedFd)
    (table : Table File) : Prop where
  planned : plan.prepareSpawn = .ok prepared
  observed : ∃ (directory : FdDirectory table) (threads : Except ProcessContractError Unit),
    observeLiveDescriptorInventory prepared plan.endpoint [reader, writer] table directory threads =
      .ok ()

/-- From an admitted table the child does not exit, closes and replaces nothing that it keeps, and
holds exactly the planned descriptors at its first message, at the execution of its program, and in
that program. -/
theorem child_descriptors_exact :
    (∀ (plan : SpawnInputs) (prepared : PreparedSpawn) (reader writer : BorrowedFd)
        (table : Table File), Admitted plan prepared reader writer table →
      ∃ s : ChildState File, exec (remapDescriptors prepared reader.raw writer.raw) ⟨table, []⟩ =
          (.ok (), s) ∧
        (∀ call ∈ s.calls, call.Sound (prepared.targets ++
          [prepared.executable, reader.raw, prepared.authorityRoot.raw])) ∧
        (∀ n, s.table.entry n ≠ none ↔ n ∈ prepared.targets ∨
          n ∈ [prepared.executable, reader.raw, prepared.authorityRoot.raw]) ∧
        (∀ n ∈ [prepared.executable, reader.raw, prepared.authorityRoot.raw],
          s.table.entry n = table.entry n) ∧
        ∀ threadSelf status : File, ∃ s' : ChildState File,
          exec (releaseDescriptors prepared threadSelf status) s = (.ok (), s') ∧
          (∀ call ∈ s'.calls, call.Sound (prepared.targets ++ [prepared.executable])) ∧
          (∀ n, s'.table.entry n ≠ none ↔ n ∈ prepared.targets ∨ n = prepared.executable) ∧
          s'.table.entry prepared.executable = table.entry prepared.executable ∧
          (∀ n, s'.table.afterExec.entry n ≠ none ↔ 3 ≤ n ∧ n < 3 + plan.passed.length) ∧
          ∀ (i : ℕ) (fd : BorrowedFd), plan.passed[i]? = some fd →
            ∃ opened, table.entry fd.raw = some opened ∧
              s'.table.afterExec.entry (3 + i) = some { file := opened.file, cloexec := false }) ∧
    ∀ (plan : SpawnInputs) (prepared : PreparedSpawn), plan.prepareSpawn = .ok prepared →
      prepared.targets = List.range' 3 plan.passed.length ∧ plan.passed.length ≤ 19 ∧
        prepared.mappings.map FdMapping.source = plan.passed.map BorrowedFd.raw := by
  refine ⟨?_, fun plan prepared h =>
    ⟨(prepareSpawn_laid h).targets, (prepareSpawn_laid h).length, (prepareSpawn_laid h).passed⟩⟩
  intro plan prepared reader writer table hadmitted
  obtain ⟨directory, threads, hobserve⟩ := hadmitted.observed
  have hlaid := prepareSpawn_laid hadmitted.planned
  have hobserved := observe_ok hobserve
  obtain ⟨_, s, hrun, hadded, hholds⟩ := (remapDescriptors_always hlaid hobserved).run
  refine ⟨s, hrun, ?_, ?_, hholds.rest, ?_⟩
  · exact hadded.sound
  · rw [hlaid.targets]
    exact hholds.only
  · intro threadSelf status
    obtain ⟨_, s', hrun', hadded', hholds'⟩ :=
      (@releaseDescriptors_always _ _ _ _ _ _ threadSelf status _ hlaid hobserved hholds).run
    have hexec := hholds'.afterExec hobserved
    refine ⟨s', hrun', ?_, ?_, hholds'.rest _ List.mem_cons_self, ?_, hexec.passed⟩
    · have hsound : Added (prepared.targets ++ [prepared.executable]) ⟨table, []⟩ s := by
        refine hadded.mono fun d hd => ?_
        obtain hd | hd := List.mem_append.mp hd
        · exact List.mem_append_left _ hd
        · exact List.mem_append_right _ (List.mem_singleton.mp hd ▸ List.mem_cons_self)
      exact (hsound.trans hadded').sound
    · intro n
      rw [hholds'.only, hlaid.targets, List.mem_singleton]
    · intro n
      rw [hexec.only, List.mem_range'_1, or_iff_left List.not_mem_nil]

end Admitted

end Eip0045.Provider
