import DurableWatch.Proofs.Lookup

/-!
# Exact differences of child lists

What a difference says is settled by the two sets and by two orders: creations as they first appear,
deletions ascending. So it does not depend on how the known names happen to be kept, nothing is left
to say when the same names are listed again, and over any number of snapshots what is said of a name
adds up to whether it is there.
-/
namespace DurableWatch.ChildDiff

/-- `d` is what leads from the known names to those of the snapshot. -/
structure Leads (known : TextSet) (snapshot : List String) (d : ChildDiff) : Prop where
  created : ∀ n, n ∈ d.created ↔ n ∈ snapshot ∧ known.contains n = false
  /-- No name stands behind one that appears later, or behind itself. -/
  appearing : d.created.Pairwise fun n m => snapshot.idxOf n < snapshot.idxOf m
  deleted : ∀ n, n ∈ d.deleted ↔ known.contains n = true ∧ n ∉ snapshot
  ascending : d.deleted.Pairwise (· < ·)

/-- The names to report as deleted when the known ones come in this order. -/
def sweep (order snapshot : List String) : List String :=
  (order.filter fun n => !snapshot.contains n).mergeSort

/-- The differences of some snapshots, each from what was known after the one before it. -/
def series (known : TextSet) : List (List String) → List ChildDiff
  | [] => []
  | snapshot :: snapshots =>
    between known snapshot :: series ((between known snapshot).applyTo known) snapshots

/-- The names that are known after these snapshots. -/
def knownAfterAll (known : TextSet) (snapshots : List (List String)) : TextSet :=
  snapshots.foldl (fun known snapshot => (between known snapshot).applyTo known) known

/-! ### One difference -/

theorem newNames_appearing (known : TextSet) (names : List String) :
    (newNames known names).Pairwise fun n m => names.idxOf n < names.idxOf m := by
  induction names generalizing known with
  | nil => exact .nil
  | cons first names ih =>
    have other {known : TextSet} (old : known.contains first = true) {n : String}
        (hn : n ∈ newNames known names) : first ≠ n := by
      rintro rfl
      rw [(mem_newNames.1 hn).2] at old
      cases old
    -- behind the first name each other one stands a place later than without it
    have later {known : TextSet} (old : known.contains first = true) :
        (newNames known names).Pairwise fun n m =>
          (first :: names).idxOf n < (first :: names).idxOf m := by
      refine (ih known).imp_of_mem fun {n m} hn hm less => ?_
      rw [List.idxOf_cons_ne _ (other old hn), List.idxOf_cons_ne _ (other old hm)]
      omega
    by_cases old : known.contains first = true
    · rw [newNames, if_pos old]
      exact later old
    · rw [newNames, if_neg old]
      have added : (TextSet.insert known first).contains first = true := by simp
      refine List.pairwise_cons.2 ⟨fun m hm => ?_, later added⟩
      rw [List.idxOf_cons_self, List.idxOf_cons_ne _ (other added hm)]
      omega

theorem leads_between (known : TextSet) (snapshot : List String) :
    Leads known snapshot (between known snapshot) where
  created _ := mem_created
  appearing := newNames_appearing known snapshot
  deleted _ := mem_deleted
  ascending := known.keys_pairwise.filter _

/-- Only one difference leads from the one to the other. -/
theorem leads_iff {known : TextSet} {snapshot : List String} {d : ChildDiff} :
    Leads known snapshot d ↔ d = between known snapshot := by
  constructor
  · intro leads
    have found := leads_between known snapshot
    have : Std.Irrefl fun n m => snapshot.idxOf n < snapshot.idxOf m := ⟨fun _ => lt_irrefl _⟩
    have : Std.Antisymm fun n m => snapshot.idxOf n < snapshot.idxOf m :=
      ⟨fun _ _ less more => absurd more (lt_asymm less)⟩
    have created : d.created = (between known snapshot).created :=
      leads.appearing.eq_of_mem_iff found.appearing fun n => by
        rw [leads.created, found.created]
    have deleted : d.deleted = (between known snapshot).deleted :=
      leads.ascending.eq_of_mem_iff found.ascending fun n => by
        rw [leads.deleted, found.deleted]
    cases d
    simp_all
  · rintro rfl
    exact leads_between known snapshot

/-- No name is reported both ways. -/
theorem created_disjoint_deleted (known : TextSet) (snapshot : List String) :
    (between known snapshot).created.Disjoint (between known snapshot).deleted := by
  intro n created deleted
  exact (mem_deleted.1 deleted).2 (mem_created.1 created).1

theorem applyTo_between (known : TextSet) (snapshot : List String) :
    (between known snapshot).applyTo known = TextSet.ofList snapshot := by
  refine TextSet.ext_contains fun n => ?_
  rw [Bool.eq_iff_iff, contains_applyTo]
  simp [TextSet.ofList]

/-- The deletions are the same in whatever order the known names come. -/
theorem sweep_eq {known : TextSet} {snapshot order : List String}
    (enumerated : order.Perm (TextSet.insertAll known (between known snapshot).created).keys) :
    sweep order snapshot = (between known snapshot).deleted := by
  have sorted : (sweep order snapshot).Pairwise (· ≤ ·) :=
    List.pairwise_mergeSort' (· ≤ ·) (order.filter fun n => !snapshot.contains n)
  have ascending : (between known snapshot).deleted.Pairwise (· ≤ ·) :=
    (leads_between known snapshot).ascending.imp fun less => String.not_lt.1 (String.lt_asymm less)
  refine List.Perm.eq_of_pairwise (fun _ _ _ _ => String.le_antisymm) sorted ascending ?_
  refine (List.mergeSort_perm _ _).trans ((List.perm_ext_iff_of_nodup ?_ ?_).2 fun n => ?_)
  · exact (enumerated.nodup_iff.2 (Table.keys_nodup _)).filter _
  · exact deleted_nodup known snapshot
  · rw [List.mem_filter, enumerated.mem_iff, Table.mem_keys, mem_deleted]
    by_cases listed : n ∈ snapshot <;> simp [listed, mem_created]

theorem isEmpty_between {known : TextSet} {snapshot : List String} :
    (between known snapshot).isEmpty = true ↔ ∀ n, n ∈ snapshot ↔ known.contains n = true := by
  simp only [isEmpty, Bool.and_eq_true, List.isEmpty_iff, List.eq_nil_iff_forall_not_mem,
    mem_created, mem_deleted]
  rw [← forall_and]
  refine forall_congr' fun n => ?_
  cases known.contains n <;> simp

/-! ### Many differences -/

theorem contains_applyTo_eq (known : TextSet) (snapshot : List String) (n : String) :
    ((between known snapshot).applyTo known).contains n = decide (n ∈ snapshot) := by
  rw [Bool.eq_iff_iff, contains_applyTo, decide_eq_true_eq]

theorem count_between (known : TextSet) (snapshot : List String) (n : String) :
    (between known snapshot).created.count n + (known.contains n).toNat =
      (between known snapshot).deleted.count n + (decide (n ∈ snapshot)).toNat := by
  simp only [(created_nodup known snapshot).count, (deleted_nodup known snapshot).count,
    mem_created, mem_deleted]
  by_cases listed : n ∈ snapshot <;> cases known.contains n <;> simp [listed]

/-- What is said of a name takes it from where it was to where it is. -/
theorem count_series (known : TextSet) (snapshots : List (List String)) (n : String) :
    ((series known snapshots).flatMap created).count n + (known.contains n).toNat =
      ((series known snapshots).flatMap deleted).count n +
        ((knownAfterAll known snapshots).contains n).toNat := by
  induction snapshots generalizing known with
  | nil => simp [series, knownAfterAll]
  | cons snapshot snapshots ih =>
    have first := count_between known snapshot n
    have rest := ih ((between known snapshot).applyTo known)
    rw [contains_applyTo_eq] at rest
    simp only [series, List.flatMap_cons, List.count_append, knownAfterAll, List.foldl_cons]
      at rest ⊢
    omega

/-- Between the known names and a snapshot there is one difference, and it leads to the snapshot. -/
theorem exact_difference (known : TextSet) (snapshot : List String) :
    (∀ d, Leads known snapshot d ↔ d = between known snapshot) ∧
    (between known snapshot).created.Disjoint (between known snapshot).deleted ∧
    (between known snapshot).applyTo known = TextSet.ofList snapshot ∧
    (∀ order : List String,
      order.Perm (TextSet.insertAll known (between known snapshot).created).keys →
      sweep order snapshot = (between known snapshot).deleted) ∧
    (∀ again : List String,
      (between ((between known snapshot).applyTo known) again).isEmpty = true ↔
        ∀ n, n ∈ again ↔ n ∈ snapshot) ∧
    ∀ (earlier : List (List String)) (n : String),
      (((series known (earlier ++ [snapshot])).flatMap created).count n : ℤ) -
          ((series known (earlier ++ [snapshot])).flatMap deleted).count n =
        (decide (n ∈ snapshot)).toNat - (known.contains n).toNat := by
  refine ⟨fun d => leads_iff, created_disjoint_deleted known snapshot,
    applyTo_between known snapshot, fun order => sweep_eq, fun again => ?_, fun earlier n => ?_⟩
  · rw [isEmpty_between]
    simp only [contains_applyTo]
  · have total := count_series known (earlier ++ [snapshot]) n
    have last : (knownAfterAll known (earlier ++ [snapshot])).contains n =
        decide (n ∈ snapshot) := by
      rw [knownAfterAll, List.foldl_append]
      exact contains_applyTo_eq _ snapshot n
    rw [last] at total
    omega

/-- Known names that come in no order are reported as deleted in theirs. -/
theorem exact_difference_shuffled :
    let known := TextSet.ofList ["y", "b", "x"]
    let snapshot := ["c", "b", "c", "a"]
    let order := ["y", "c", "x", "b", "a"]
    order.Perm (TextSet.insertAll known (between known snapshot).created).keys ∧
      sweep order snapshot = ["x", "y"] ∧ (between known snapshot).created = ["c", "a"] := by
  intro known snapshot order
  have enumerated : order.Perm (TextSet.insertAll known (between known snapshot).created).keys := by
    decide
  have swept : sweep order snapshot = (between known snapshot).deleted :=
    (exact_difference known snapshot).2.2.2.1 order enumerated
  exact ⟨enumerated, swept.trans (by decide), by decide⟩

end DurableWatch.ChildDiff
