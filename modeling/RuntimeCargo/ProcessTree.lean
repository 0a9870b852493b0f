import RuntimeCargo.Wire

/-!
# The memory of a process tree

To say how much memory the customer's program uses, the supervisor reads the
table of processes and sums over those that belong to it: the process it has
started, the members of the group that process leads, and whatever any of these
has started in turn. Processes come and go while the table is read, so a parent
may be missing, and there may even be a cycle.

`tree` goes over the table until a round finds nobody new. What it has then is
the least set that has the root and its group and is closed under children, and
the memory that is reported is the sum over this set.
-/

namespace Memory

/-- What is read of a process. A zombie has no memory. -/
structure Process where
  parent : Option ℕ
  group : Option ℕ
  rssKib : Option ℕ
  peakKib : Option ℕ

/-- The processes that were read, by their numbers. -/
abbrev Processes := Std.ExtTreeMap ℕ Process

namespace Processes

/-- The numbers of the processes with some property. -/
def pidsWith (processes : Processes) (p : ℕ → Process → Bool) : Finset ℕ :=
  ((processes.toList.filter fun entry => p entry.1 entry.2).map Prod.fst).toFinset

/-- The children of members that are not members themselves. -/
def descendants (processes : Processes) (members : Finset ℕ) : Finset ℕ :=
  processes.pidsWith fun pid process => pid ∉ members && process.parent.any (· ∈ members)

variable {processes : Processes} {root pid : ℕ} {members : Finset ℕ}

theorem mem_pidsWith {p : ℕ → Process → Bool} :
    pid ∈ processes.pidsWith p ↔ ∃ process, processes[pid]? = some process ∧ p pid process := by
  simp [pidsWith, and_comm]

theorem mem_descendants :
    pid ∈ processes.descendants members ↔ pid ∉ members ∧ ∃ process parent,
      processes[pid]? = some process ∧ process.parent = some parent ∧ parent ∈ members := by
  simp only [descendants, mem_pidsWith, Bool.and_eq_true, decide_eq_true_eq, Option.any_eq_true]
  grind

/-- After a round that finds somebody new fewer are left to be found. -/
theorem card_sdiff_lt (h : (members ∪ processes.descendants members).card ≠ members.card) :
    (processes.pidsWith (fun _ _ => true) \ (members ∪ processes.descendants members)).card
      < (processes.pidsWith (fun _ _ => true) \ members).card := by
  obtain ⟨pid, hpid⟩ : (processes.descendants members).Nonempty := by
    rw [Finset.nonempty_iff_ne_empty]
    intro hnone
    rw [hnone, Finset.union_empty] at h
    exact h rfl
  obtain ⟨hnew, process, -, hlisted, -⟩ := mem_descendants.mp hpid
  refine Finset.card_lt_card (Finset.ssubset_iff_of_subset ?_ |>.mpr ⟨pid, ?_, ?_⟩)
  · exact Finset.sdiff_subset_sdiff le_rfl Finset.subset_union_left
  · exact Finset.mem_sdiff.mpr ⟨mem_pidsWith.mpr ⟨process, hlisted, rfl⟩, hnew⟩
  · exact fun hmem => (Finset.mem_sdiff.mp hmem).2 (Finset.mem_union_right _ hpid)

variable (processes)

/-- The loop of `tree`. -/
def treeFrom (members : Finset ℕ) : Finset ℕ :=
  let grown := members ∪ processes.descendants members
  if grown.card = members.card then grown else treeFrom grown
termination_by (processes.pidsWith (fun _ _ => true) \ members).card
decreasing_by exact card_sdiff_lt ‹_›

def tree (root : ℕ) : Finset ℕ :=
  processes.treeFrom
    (processes.pidsWith fun pid process => pid = root || process.group = some root)

/-- **A set that has the root and its group** and is closed under children. -/
structure IsTree (root : ℕ) (members : Set ℕ) : Prop where
  started : ∀ pid process, processes[pid]? = some process →
    pid = root ∨ process.group = some root → pid ∈ members
  children : ∀ pid process parent, processes[pid]? = some process →
    process.parent = some parent → parent ∈ members → pid ∈ members

/-- The loop keeps the members and ends when nobody is missing. -/
theorem treeFrom_closed (members : Finset ℕ) :
    members ⊆ processes.treeFrom members
      ∧ processes.descendants (processes.treeFrom members) ⊆ processes.treeFrom members := by
  fun_induction treeFrom processes members with
  | case1 members grown hcard =>
    have hsame : members ∪ processes.descendants members = members :=
      (Finset.eq_of_subset_of_card_le Finset.subset_union_left hcard.le).symm
    show members ⊆ members ∪ _ ∧ processes.descendants (members ∪ _) ⊆ members ∪ _
    rw [hsame]
    exact ⟨subset_rfl, Finset.union_eq_left.mp hsame⟩
  | case2 members grown hcard ih => exact ⟨Finset.subset_union_left.trans ih.1, ih.2⟩

variable {processes}

/-- The loop adds only what a closed set has. -/
theorem treeFrom_subset {closed : Set ℕ} (h : processes.IsTree root closed)
    (hmembers : ↑members ⊆ closed) : ↑(processes.treeFrom members) ⊆ closed := by
  have hgrown : ∀ members : Finset ℕ, ↑members ⊆ closed →
      ↑(members ∪ processes.descendants members) ⊆ closed := by
    intro members hmembers pid hpid
    obtain hpid | hpid := Finset.mem_union.mp hpid
    · exact hmembers hpid
    · obtain ⟨-, process, parent, hlisted, hparent, hmem⟩ := mem_descendants.mp hpid
      exact h.children pid process parent hlisted hparent (hmembers hmem)
  fun_induction treeFrom processes members with
  | case1 members grown hcard => exact hgrown members hmembers
  | case2 members grown hcard ih => exact ih (hgrown members hmembers)

theorem isLeast_tree :
    IsLeast {members : Set ℕ | processes.IsTree root members} (processes.tree root) := by
  obtain ⟨hstart, hclosed⟩ := processes.treeFrom_closed
    (processes.pidsWith fun pid process => pid = root || process.group = some root)
  refine ⟨⟨fun pid process hlisted h => hstart ?_, fun pid process parent hlisted hparent hmem => ?_⟩,
    fun closed h => treeFrom_subset h fun pid hpid => ?_⟩
  · exact mem_pidsWith.mpr ⟨process, hlisted, by simpa using h⟩
  · by_cases hpid : pid ∈ processes.tree root
    · exact hpid
    · exact hclosed (mem_descendants.mpr ⟨hpid, process, parent, hlisted, hparent, hmem⟩)
  · obtain ⟨process, hlisted, hstart⟩ := mem_pidsWith.mp hpid
    exact h.started pid process hlisted (by simpa using hstart)

/-- The memory of a process that is listed. -/
def rssOf (processes : Processes) (pid : ℕ) : ℕ := ((processes[pid]?).bind Process.rssKib).getD 0

end Processes

/-! ## What is reported -/

def i32Max : ℕ := 2 ^ 31 - 1

/-- The part of the summary that is about the workload. -/
structure MemorySummary where
  workloadRssKib : Option ℕ
  workloadRssPeakKib : Option ℕ
  deniedCount : ℕ

def MemorySummary.deny (summary : MemorySummary) : MemorySummary :=
  { summary with deniedCount := min (summary.deniedCount + 1) (2 ^ 32 - 1) }

/-- `wire_kib`: what does not fit is null, and counted. -/
def wireKib (value : Option ℕ) (summary : MemorySummary) : Option ℕ × MemorySummary :=
  let value := value.filter (· ≤ i32Max)
  (value, if value.isNone then summary.deny else summary)

/-- What `walk` has found. -/
inductive Walk where
  | processes (processes : Processes)
  | overBudget
  | unlisted

/-- `read_workload`. -/
def readWorkload (walked : Walk) (root : ℕ) (summary : MemorySummary) : MemorySummary :=
  match walked with
  | .overBudget | .unlisted => summary.deny
  | .processes processes =>
    match (processes[root]?).bind Process.rssKib with
    | none => summary
    | some _ =>
      let pids := (processes.tree root).sort
      let rss := pids.foldl (fun rss pid => saturatingAdd rss (processes.rssOf pid)) 0
      let peak := pids.foldl (fun (peak : Option ℕ) pid =>
        match (processes[pid]?).bind Process.peakKib with
        | none => peak
        | some hwm => some (peak.elim hwm (max hwm))) none
      let (rss, summary) := wireKib (some rss) summary
      let (peak, summary) := wireKib peak summary
      { summary with workloadRssKib := rss, workloadRssPeakKib := peak }

/-- A sum that stays at the largest number once it is there. -/
theorem foldl_saturatingAdd {f : ℕ → ℕ} {l : List ℕ} {n : ℕ} :
    l.foldl (fun n x => saturatingAdd n (f x)) (min n u64Max) = min (n + (l.map f).sum) u64Max := by
  induction l generalizing n with
  | nil => rfl
  | cons x l ih =>
    have hmin : saturatingAdd (min n u64Max) (f x) = min (n + f x) u64Max := by
      unfold saturatingAdd
      omega
    rw [List.foldl_cons, hmin, ih, List.map_cons, List.sum_cons, Nat.add_assoc]

/-- **The processes of the workload, and their memory.** Whatever the table is,
`tree` gives the least set that has the root and its group, as far as they are
listed, and is closed under listed children. If the root is listed with its
memory, then the sum over this set, each process once, is what is reported,
unless it is too large for any report; else nothing is reported. -/
theorem workload_is_least_tree (processes : Processes) (root : ℕ) (summary : MemorySummary) :
    IsLeast {members : Set ℕ | processes.IsTree root members} (processes.tree root)
      ∧ (readWorkload (.processes processes) root summary).workloadRssKib
        = if ((processes[root]?).bind Process.rssKib).isSome then
            (some (∑ pid ∈ processes.tree root, processes.rssOf pid)).filter (· ≤ i32Max)
          else summary.workloadRssKib := by
  refine ⟨Processes.isLeast_tree, ?_⟩
  unfold readWorkload
  dsimp only
  cases (processes[root]?).bind Process.rssKib with
  | none => rfl
  | some _ =>
    have hsum := foldl_saturatingAdd (f := processes.rssOf) (l := (processes.tree root).sort)
      (n := 0)
    rw [Nat.zero_min, Nat.zero_add, ← Multiset.sum_coe, ← Multiset.map_coe, Finset.sort_eq] at hsum
    dsimp only [wireKib]
    rw [hsum]
    show (some (min (∑ pid ∈ processes.tree root, processes.rssOf pid) u64Max)).filter _ = _
    generalize ∑ pid ∈ processes.tree root, processes.rssOf pid = sum
    -- the largest number does not fit either
    by_cases hfits : sum ≤ i32Max
    · rw [min_eq_left (hfits.trans (by decide))]
      rfl
    · have hmin : ¬ min sum u64Max ≤ i32Max := by
        simp only [i32Max, u64Max] at *
        omega
      simp [Option.filter, hfits, hmin]

end Memory
