import DurableWatch.ChildDiff
import Mathlib.Tactic

/-!
# Look-ups in tables, and what a difference holds

A table is read through `get?` and a set of texts through `contains`. Each operation has one
equation for what it does to these views, so that no later proof looks at entries.
-/
namespace DurableWatch

namespace Table

variable {α : Type}

theorem findEntry_eq_none {k : String} {es : List (String × α)} (h : ∀ e ∈ es, e.1 ≠ k) :
    findEntry k es = none := by
  induction es with
  | nil => rfl
  | cons e es ih => grind [findEntry]

theorem findEntry_filter (keep : String → α → Bool) (k : String) {es : List (String × α)}
    (ascending : es.Pairwise fun a b => a.1 < b.1) :
    findEntry k (es.filter fun e => keep e.1 e.2) = (findEntry k es).filter (keep k) := by
  induction es with
  | nil => rfl
  | cons e es ih =>
    obtain ⟨first, rest⟩ := List.pairwise_cons.1 ascending
    have hrest := ih rest
    by_cases he : e.1 = k
    · have absent : findEntry k es = none := by
        refine findEntry_eq_none fun d hd hk => ?_
        have hlt := first d hd
        rw [he, hk] at hlt
        exact String.lt_irrefl k hlt
      rw [absent] at hrest
      by_cases hk : keep e.1 e.2 = true <;> grind [findEntry]
    · by_cases hk : keep e.1 e.2 = true <;> grind [findEntry]

@[simp] theorem get?_filter (t : Table α) (keep : String → α → Bool) (k : String) :
    (t.filter keep).get? k = (t.get? k).filter (keep k) :=
  findEntry_filter keep k t.ascending

theorem findEntry_isSome (k : String) (es : List (String × α)) :
    (findEntry k es).isSome = true ↔ k ∈ es.map Prod.fst := by
  induction es with
  | nil => simp [findEntry]
  | cons e es ih => grind [findEntry]

theorem mem_keys {t : Table α} {k : String} : k ∈ t.keys ↔ t.contains k = true :=
  (findEntry_isSome k t.entries).symm

theorem contains_eq_true {t : Table α} {k : String} :
    t.contains k = true ↔ ∃ v, t.get? k = some v := by
  simp only [contains, Option.isSome_iff_exists]

theorem contains_eq_false {t : Table α} {k : String} :
    t.contains k = false ↔ t.get? k = none := by
  simp only [contains, Option.isSome_eq_false_iff, Option.isNone_iff_eq_none]

theorem findEntry_eq_some {k : String} {v : α} {es : List (String × α)}
    (ascending : es.Pairwise fun a b => a.1 < b.1) :
    findEntry k es = some v ↔ (k, v) ∈ es := by
  induction es with
  | nil => simp [findEntry]
  | cons e es ih =>
    obtain ⟨first, rest⟩ := List.pairwise_cons.1 ascending
    by_cases he : e.1 = k
    · have only : (k, v) ∉ es := fun hv => String.lt_irrefl k (he ▸ first (k, v) hv)
      subst he
      simp [findEntry, only, Prod.ext_iff, eq_comm]
    · have other : (k, v) ≠ e := fun h => he (by rw [← h])
      simp [findEntry, he, ih rest, other]

theorem mem_entries {t : Table α} {k : String} {v : α} :
    (k, v) ∈ t.entries ↔ t.get? k = some v := (findEntry_eq_some t.ascending).symm

theorem contains_of_get? {t : Table α} {k : String} {v : α} (h : t.get? k = some v) :
    t.contains k = true := contains_eq_true.2 ⟨v, h⟩

/-- What is left after an erasure was there before. -/
theorem get?_of_erase {t : Table α} {k j : String} {v : α} (h : (t.erase k).get? j = some v) :
    t.get? j = some v := by
  rw [get?_erase] at h
  split at h
  · cases h
  · exact h

theorem get?_of_insert {t : Table α} {k j : String} {u v : α}
    (h : (t.insert k u).get? j = some v) : j = k ∧ u = v ∨ t.get? j = some v := by
  rw [get?_insert] at h
  split at h
  · next hj => exact .inl ⟨hj, Option.some.inj h⟩
  · exact .inr h

@[simp] theorem contains_empty (k : String) : (∅ : Table α).contains k = false := rfl

@[simp] theorem contains_insert (t : Table α) (k j : String) (v : α) :
    (t.insert k v).contains j = (decide (j = k) || t.contains j) := by
  by_cases h : j = k <;> simp [contains, h]

@[simp] theorem contains_erase (t : Table α) (k j : String) :
    (t.erase k).contains j = (!decide (j = k) && t.contains j) := by
  by_cases h : j = k <;> simp [contains, h]

theorem keys_pairwise (t : Table α) : t.keys.Pairwise (· < ·) :=
  List.pairwise_map.2 t.ascending

theorem keys_nodup (t : Table α) : t.keys.Nodup := by
  refine t.keys_pairwise.imp ?_
  rintro a _ h rfl
  exact String.lt_irrefl a h

theorem keys_congr {β : Type} {t : Table α} {t' : Table β}
    (same : ∀ k, t.contains k = t'.contains k) : t.keys = t'.keys :=
  t.keys_pairwise.eq_of_mem_iff t'.keys_pairwise fun k => by rw [mem_keys, mem_keys, same]

theorem findEntry_of_lt {k : String} {es : List (String × α)} (below : ∀ e ∈ es, k < e.1) :
    findEntry k es = none := by
  refine findEntry_eq_none fun e he hk => ?_
  have less := below e he
  rw [hk] at less
  exact String.lt_irrefl k less

/-- Of two tables with the same look-ups neither starts with a smaller key. -/
theorem head_not_lt {e e' : String × α} {es es' : List (String × α)}
    (ascending' : (e' :: es').Pairwise fun a b => a.1 < b.1)
    (same : ∀ k, findEntry k (e :: es) = findEntry k (e' :: es')) : ¬e.1 < e'.1 := by
  intro less
  have below : ∀ d ∈ e' :: es', e.1 < d.1 := List.forall_mem_cons.2
    ⟨less, fun d hd => String.lt_trans less (List.rel_of_pairwise_cons ascending' hd)⟩
  have found := same e.1
  rw [findEntry_of_lt below] at found
  simp [findEntry] at found

theorem entries_ext {es es' : List (String × α)} (ascending : es.Pairwise fun a b => a.1 < b.1)
    (ascending' : es'.Pairwise fun a b => a.1 < b.1)
    (same : ∀ k, findEntry k es = findEntry k es') : es = es' := by
  induction es generalizing es' with
  | nil =>
    cases es' with
    | nil => rfl
    | cons e' es' => simpa [findEntry] using same e'.1
  | cons e es ih =>
    cases es' with
    | nil => simpa [findEntry] using same e.1
    | cons e' es' =>
      have key : e.1 = e'.1 := String.le_antisymm
        (String.not_lt.1 (head_not_lt ascending fun k => (same k).symm))
        (String.not_lt.1 (head_not_lt ascending' same))
      have value : e.2 = e'.2 := by simpa [findEntry, key] using same e.1
      obtain rfl : e = e' := Prod.ext key value
      obtain ⟨first, rest⟩ := List.pairwise_cons.1 ascending
      obtain ⟨first', rest'⟩ := List.pairwise_cons.1 ascending'
      have tails (k : String) : findEntry k es = findEntry k es' := by
        by_cases hk : e.1 = k
        · rw [← hk, findEntry_of_lt first, findEntry_of_lt first']
        · simpa [findEntry, hk] using same k
      rw [ih rest rest' tails]

/-- A table is determined by its look-ups. -/
theorem ext_get? {t t' : Table α} (same : ∀ k, t.get? k = t'.get? k) : t = t' := by
  have entries := entries_ext t.ascending t'.ascending same
  cases t
  cases t'
  cases entries
  rfl

@[simp] theorem erase_insert (t : Table α) (k : String) (v : α) :
    (t.insert k v).erase k = t.erase k := by
  apply ext_get?
  intro j
  by_cases here : j = k <;> simp [here]

@[simp] theorem insert_erase (t : Table α) (k : String) (v : α) :
    (t.erase k).insert k v = t.insert k v := by
  apply ext_get?
  intro j
  by_cases here : j = k <;> simp [here]

theorem insert_eq_self {t : Table α} {k : String} {v : α} (there : t.get? k = some v) :
    t.insert k v = t := by
  apply ext_get?
  intro j
  by_cases here : j = k <;> simp [here, there]

/-- To take away what is not there changes nothing. -/
theorem erase_eq_self {t : Table α} {k : String} : t.erase k = t ↔ t.get? k = none := by
  constructor
  · intro same
    rw [← same]
    simp
  · intro absent
    apply ext_get?
    intro j
    by_cases here : j = k <;> simp [here, absent]

/-- Insertions under different keys commute. -/
theorem insert_comm (t : Table α) {k j : String} (other : k ≠ j) (u v : α) :
    (t.insert k u).insert j v = (t.insert j v).insert k u := by
  refine ext_get? fun i => ?_
  by_cases hj : i = j
  · simp [hj, other.symm]
  · simp [hj]

end Table

namespace TextSet

@[simp] theorem contains_insert (s : TextSet) (n m : String) :
    (TextSet.insert s n).contains m = (decide (m = n) || s.contains m) :=
  Table.contains_insert s n m ()

@[simp] theorem contains_insertAll (names : List String) (s : TextSet) (m : String) :
    (TextSet.insertAll s names).contains m = (names.contains m || s.contains m) := by
  induction names generalizing s with
  | nil => rfl
  | cons n ns ih =>
    simp only [TextSet.insertAll, List.foldl_cons] at ih ⊢
    rw [ih, contains_insert, List.contains_cons]
    by_cases h : m = n
    · simp [h]
    · rw [decide_eq_false h, Bool.false_or, beq_false_of_ne h, Bool.false_or]

@[simp] theorem contains_without (s : TextSet) (names : List String) (m : String) :
    (s.without names).contains m = (s.contains m && !names.contains m) := by
  simp only [TextSet.without, Table.contains, Table.get?_filter]
  cases Table.get? s m <;> simp [Option.filter]
  by_cases h : m ∈ names <;> simp [h]

/-- A set is determined by what it contains. -/
theorem ext_contains {s s' : TextSet} (same : ∀ n, s.contains n = s'.contains n) : s = s' := by
  refine Table.ext_get? fun n => ?_
  have h := same n
  simp only [Table.contains] at h
  cases hs : Table.get? s n <;> cases hs' : Table.get? s' n <;> simp_all

end TextSet

namespace ChildDiff

theorem mem_newNames {known : TextSet} {names : List String} {n : String} :
    n ∈ newNames known names ↔ n ∈ names ∧ known.contains n = false := by
  induction names generalizing known with
  | nil => simp [newNames]
  | cons m ms ih =>
    by_cases hm : known.contains m = true
    · grind [newNames]
    · grind [newNames, TextSet.contains_insert]

theorem newNames_nodup (known : TextSet) (names : List String) :
    (newNames known names).Nodup := by
  induction names generalizing known with
  | nil => simp [newNames]
  | cons m ms ih =>
    by_cases hm : known.contains m = true
    · simpa [newNames, hm] using ih known
    · have fresh : m ∉ newNames (TextSet.insert known m) ms := by
        simp [mem_newNames]
      simpa [newNames, hm] using ⟨fresh, ih _⟩

/-- Of names that are all new and different, none is left out. -/
theorem newNames_of_new {known : TextSet} {names : List String} (distinct : names.Nodup)
    (new : ∀ n ∈ names, known.contains n = false) : newNames known names = names := by
  induction names generalizing known with
  | nil => rfl
  | cons n ns ih =>
    obtain ⟨hn, hns⟩ := List.nodup_cons.1 distinct
    obtain ⟨first, rest⟩ := List.forall_mem_cons.1 new
    have later : ∀ m ∈ ns, (TextSet.insert known n).contains m = false := by
      intro m hm
      have other : m ≠ n := fun same => hn (same ▸ hm)
      simp [other, rest m hm]
    simp [newNames, first, ih hns later]

theorem mem_created {known : TextSet} {snapshot : List String} {n : String} :
    n ∈ (between known snapshot).created ↔ n ∈ snapshot ∧ known.contains n = false :=
  mem_newNames

theorem created_nodup (known : TextSet) (snapshot : List String) :
    (between known snapshot).created.Nodup := newNames_nodup known snapshot

theorem mem_deleted {known : TextSet} {snapshot : List String} {n : String} :
    n ∈ (between known snapshot).deleted ↔ known.contains n = true ∧ n ∉ snapshot := by
  simp [between, Table.mem_keys]

theorem deleted_nodup (known : TextSet) (snapshot : List String) :
    (between known snapshot).deleted.Nodup := (Table.keys_nodup known).filter _

/-- After the difference the names of the snapshot are known, and no others. -/
theorem contains_applyTo (known : TextSet) (snapshot : List String) (n : String) :
    ((between known snapshot).applyTo known).contains n = true ↔ n ∈ snapshot := by
  have created : n ∈ (between known snapshot).created ↔ n ∈ snapshot ∧ known.contains n = false :=
    mem_created
  have deleted : n ∈ (between known snapshot).deleted ↔ known.contains n = true ∧ n ∉ snapshot :=
    mem_deleted
  simp only [applyTo, TextSet.contains_without, TextSet.contains_insertAll, Bool.and_eq_true,
    Bool.or_eq_true, Bool.not_eq_true', List.contains_eq_mem, decide_eq_true_eq,
    decide_eq_false_iff_not]
  by_cases hn : known.contains n = true
  · simp only [hn, or_true, true_and, deleted, not_not]
  · rw [Bool.not_eq_true] at hn
    simp only [hn, created, deleted, and_true, Bool.false_eq_true, or_false, false_and,
      not_false_eq_true]

end ChildDiff

end DurableWatch
