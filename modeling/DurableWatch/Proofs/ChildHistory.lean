import DurableWatch.Proofs.ChildStreams
import DurableWatch.Proofs.MemoryHost

/-!
# The history of one child subscription

`Tracks` ties the three places where a child shows: the known set of its parent's subscription, the
data subscription that a pass made for it, and the events produced so far. Every move keeps them in
step. From this the events of each child are a beginning of lives, and the known set is what the
events tell.
-/
namespace DurableWatch

open World Coordinator

variable {c c' : Coordinator} {p q : Path} {i : Nat} {withData : Bool}

/-- The child subscription that a data subscription works for, else itself. -/
def DataSubscription.family (e : DataSubscription) : Nat := e.owner?.getD e.id

/-- Where the subscription `i` at `p` stands, from its registration on, replaced or removed as it
may be by now. -/
structure Tracks (i : Nat) (p : Path) (withData : Bool) (c : Coordinator) : Prop where
  old : i < c.nextId
  place : ∀ q s, c.children.get? q = some s → s.id = i → q = p ∧ s.watchesChildData = withData
  managed : ∀ q e, c.data.get? q = some e → e.family = i →
    withData = true ∧ e.owner? = some i ∧
      ∃ n, q = p.child n ∧ aliveAfter false (c.changesFor i q) = true
  ordered : ∀ n, follow false (c.changesFor i (p.child n)) = true
  quiet : withData = false → ∀ n d, .dataChanged d ∉ c.changesFor i (p.child n)
  known : ∀ s, c.children.get? p = some s → s.id = i →
    ∀ n, s.known.contains n = aliveAfter false (c.changesFor i (p.child n))

/-- All numbers in use are below the next one. -/
structure Numbered (c : Coordinator) : Prop where
  children : ∀ q s, c.children.get? q = some s → s.id < c.nextId
  data : ∀ q e, c.data.get? q = some e → e.id < c.nextId ∧ e.family < c.nextId
  journal : ∀ r ∈ c.journal, r.family < c.nextId

/-- What becomes of other subscriptions is nothing to this one. -/
theorem Tracks.of_others (tracks : Tracks i p withData c) (grows : c.nextId ≤ c'.nextId)
    (changes : ∀ q, c'.changesFor i q = c.changesFor i q)
    (children : ∀ q s, c'.children.get? q = some s → s.id = i → c.children.get? q = some s)
    (data : ∀ q e, c'.data.get? q = some e → e.family = i → c.data.get? q = some e) :
    Tracks i p withData c' where
  old := Nat.lt_of_lt_of_le tracks.old grows
  place q s hs hi := tracks.place q s (children q s hs hi) hi
  managed q e he hi := by
    rw [changes]
    exact tracks.managed q e (data q e he hi) hi
  ordered n := by
    rw [changes]
    exact tracks.ordered n
  quiet without n d := by
    rw [changes]
    exact tracks.quiet without n d
  known s hs hi n := by
    rw [changes]
    exact tracks.known s (children p s hs hi) hi n

theorem family_of_fresh {listener : Listener} (tracks : Tracks i p withData c) :
    (c.freshData listener none).family ≠ i := by
  have old := tracks.old
  simp only [freshData, DataSubscription.family, Option.getD_none]
  omega

theorem filter_singleton_stream (r : Report) (i : Nat) (q : Path) :
    (([r].filter fun r => r.family == i && r.event.path == q).map (·.event.change)) =
      if r.family = i ∧ r.event.path = q then [r.event.change] else [] := by
  by_cases h : r.family = i ∧ r.event.path = q
  · simp [h.1, h.2]
  · rw [if_neg h]
    rcases not_and_or.1 h with h | h <;> simp [h]

/-- The child of a data subscription that reports is alive, and stays so. -/
theorem Tracks.reread (tracks : Tracks i p withData c) {e : DataSubscription} {q : Path} (d : Data)
    (registered : c.data.get? q = some e) :
    Tracks i p withData (c.record [e.report ⟨q, .dataChanged d⟩]) := by
  have changes (r : Path) :
      (c.record [e.report ⟨q, .dataChanged d⟩]).changesFor i r = c.changesFor i r ++
        if e.family = i ∧ q = r then [.dataChanged d] else [] := by
    rw [changesFor_of_journal rfl, filter_singleton_stream]
    rfl
  have alive (r : Path) :
      aliveAfter false ((c.record [e.report ⟨q, .dataChanged d⟩]).changesFor i r) =
        aliveAfter false (c.changesFor i r) := by
    rw [changes, aliveAfter_append]
    split <;> rfl
  refine ⟨tracks.old, tracks.place, ?_, ?_, ?_, ?_⟩
  · intro r e' he' hi
    rw [alive]
    exact tracks.managed r e' he' hi
  · intro n
    rw [changes, follow_append, tracks.ordered n]
    split
    · next own =>
      obtain ⟨-, -, m, -, living⟩ := tracks.managed q e registered own.1
      rw [← own.2, living]
      rfl
    · rfl
  · intro without n d' hd'
    rw [changes] at hd'
    split at hd'
    · next own =>
      have watches := (tracks.managed q e registered own.1).1
      rw [without] at watches
      cases watches
    · rw [List.append_nil] at hd'
      exact tracks.quiet without n d' hd'
  · intro s hs hi n
    rw [alive]
    exact tracks.known s hs hi n

section pass

variable {s : ChildSubscription} {delivery : Delivery} {snapshot : List String} {new : NewChildren}

/-- What a pass of `s` adds to the stream of the child `n`. -/
theorem changesFor_absorb_own (diff : ChildDiff) (n : String) :
    (c.absorb p s delivery diff new).changesFor s.id (p.child n) =
      c.changesFor s.id (p.child n) ++
        ((new.found.filter fun e => e.1 == n).map (fun e => Change.created e.2) ++
          (diff.deleted.filter fun m => m == n).map fun _ => Change.deleted) := by
  rw [changesFor_of_journal (journal_absorb delivery diff new), List.filter_append,
    List.map_append, createdReports_stream, deletedReports_stream]

/-- A pass creates a child that was not known, deletes one that was, or tells nothing of it. -/
theorem changesFor_absorb_cases (c : Coordinator) (p : Path) (delivery : Delivery)
    (covers : new.Covers (ChildDiff.between s.known snapshot).created) (n : String) :
    let diff := ChildDiff.between s.known snapshot
    let told := (c.absorb p s delivery diff new).changesFor s.id (p.child n)
    (∃ d, s.known.contains n = false ∧ (knownAfter s.known diff new).contains n = true ∧
        n ∈ new.found.map Prod.fst ∧ told = c.changesFor s.id (p.child n) ++ [.created d]) ∨
      (s.known.contains n = true ∧ (knownAfter s.known diff new).contains n = false ∧
        n ∈ diff.deleted ∧ n ∉ new.found.map Prod.fst ∧
        told = c.changesFor s.id (p.child n) ++ [.deleted]) ∨
      ((knownAfter s.known diff new).contains n = s.known.contains n ∧
        n ∉ new.found.map Prod.fst ∧ told = c.changesFor s.id (p.child n)) := by
  intro diff told
  have htold : told = _ := changesFor_absorb_own diff n
  have created : n ∈ diff.created ↔ n ∈ snapshot ∧ s.known.contains n = false :=
    ChildDiff.mem_created
  have deleted : n ∈ diff.deleted ↔ s.known.contains n = true ∧ n ∉ snapshot :=
    ChildDiff.mem_deleted
  have after := contains_knownAfter s.known snapshot new n
  have none (kept : n ∉ diff.deleted) : diff.deleted.filter (fun m => m == n) = [] := by
    rw [List.filter_beq, List.count_eq_zero_of_not_mem kept, List.replicate_zero]
  by_cases found : n ∈ new.found.map Prod.fst
  · obtain ⟨isNew, readable⟩ := covers.mem_found.1 found
    obtain ⟨listed, unknown⟩ := created.1 isNew
    obtain ⟨d, only⟩ := filter_key_of_mem (covers.found_nodup (ChildDiff.created_nodup _ _)) found
    refine .inl ⟨d, unknown, after.2 ⟨listed, readable⟩, found, ?_⟩
    rw [htold, only, none fun h => (deleted.1 h).2 listed]
    rfl
  · rw [filter_key_of_not_mem found] at htold
    by_cases gone : n ∈ diff.deleted
    · obtain ⟨was, unlisted⟩ := deleted.1 gone
      have forgotten : (knownAfter s.known diff new).contains n = false := by
        rw [← Bool.not_eq_true]
        exact fun h => unlisted (after.1 h).1
      refine .inr (.inl ⟨was, forgotten, gone, found, ?_⟩)
      rw [htold, List.filter_beq, List.count_eq_one_of_mem (ChildDiff.deleted_nodup _ _) gone]
      rfl
    · refine .inr (.inr ⟨?_, found, ?_⟩)
      · rw [Bool.eq_iff_iff, after]
        constructor
        · rintro ⟨listed, readable⟩
          by_contra unknown
          rw [Bool.not_eq_true] at unknown
          exact found (covers.mem_found.2 ⟨created.2 ⟨listed, unknown⟩, readable⟩)
        · intro was
          have listed : n ∈ snapshot := by
            by_contra unlisted
            exact gone (deleted.2 ⟨was, unlisted⟩)
          refine ⟨listed, fun hn => ?_⟩
          have unknown := (created.1 (covers.unreadable n hn)).2
          rw [was] at unknown
          cases unknown
      · rw [htold, none gone]
        simp

/-- A pass of the subscription itself. -/
theorem Tracks.pass_own (tracks : Tracks s.id p withData c)
    (registered : c.children.get? p = some s)
    (covers : new.Covers (ChildDiff.between s.known snapshot).created) :
    Tracks s.id p withData (c.absorb p s delivery (ChildDiff.between s.known snapshot) new) := by
  have cases := changesFor_absorb_cases c p delivery covers
  have watches := (tracks.place p s registered rfl).2
  have hknown := tracks.known s registered rfl
  refine ⟨Nat.lt_of_lt_of_le tracks.old (nextId_le_absorb delivery _ new), ?_, ?_, ?_, ?_, ?_⟩
  · intro q s' hs' hi
    rw [children_absorb registered] at hs'
    split at hs'
    · next hq =>
      cases hs'
      exact ⟨hq, watches⟩
    · exact tracks.place q s' hs' hi
  · intro q e he hi
    rw [data_absorb] at he
    split at he
    · cases he
    · next kept =>
      rcases data_addFound c p s new.found q with ⟨same, absent⟩ | ⟨hwatches, ⟨f, hf, hq⟩, fresh⟩
      · rw [same] at he
        obtain ⟨hdata, howner, n, hq, living⟩ := tracks.managed q e he hi
        rw [hdata] at watches
        refine ⟨hdata, howner, n, hq, ?_⟩
        subst hq
        rcases cases n with ⟨d, -, -, found, -⟩ | ⟨-, -, gone, -, -⟩ | ⟨-, -, htold⟩
        · obtain ⟨f, hf, rfl⟩ := List.mem_map.1 found
          exact absurd rfl (absent watches f hf)
        · exact absurd ⟨watches, List.mem_map_of_mem gone⟩ kept
        · rw [htold]
          exact living
      · obtain ⟨id, -, -, hget⟩ := fresh
        rw [hget] at he
        cases he
        refine ⟨watches ▸ hwatches, rfl, f.1, hq, ?_⟩
        subst hq
        have found : f.1 ∈ new.found.map Prod.fst := List.mem_map_of_mem hf
        rcases cases f.1 with ⟨d, -, -, -, htold⟩ | ⟨-, -, -, absent, -⟩ | ⟨-, absent, -⟩
        · rw [htold, aliveAfter_append]
          rfl
        · exact absurd found absent
        · exact absurd found absent
  · intro n
    have ordered := tracks.ordered n
    rcases cases n with ⟨d, unknown, -, -, htold⟩ | ⟨was, -, -, -, htold⟩ | ⟨-, -, htold⟩
    · rw [htold, follow_append, ordered, ← hknown n, unknown]
      rfl
    · rw [htold, follow_append, ordered, ← hknown n, was]
      rfl
    · rw [htold]
      exact ordered
  · intro without n d hd
    have quiet := tracks.quiet without n d
    rcases cases n with ⟨d', -, -, -, htold⟩ | ⟨-, -, -, -, htold⟩ | ⟨-, -, htold⟩
    · rw [htold] at hd
      exact quiet (by simpa using hd)
    · rw [htold] at hd
      exact quiet (by simpa using hd)
    · rw [htold] at hd
      exact quiet hd
  · intro s' hs' hi n
    rw [children_absorb registered, if_pos rfl] at hs'
    cases hs'
    rcases cases n with ⟨d, -, now, -, htold⟩ | ⟨-, now, -, -, htold⟩ | ⟨same, -, htold⟩
    · rw [htold, aliveAfter_append]
      exact now
    · rw [htold, aliveAfter_append]
      exact now
    · rw [htold, ← hknown n]
      exact same

theorem family_of_pass {found : List (String × Data)} {gone : List Path} {r : Report}
    (produced : r ∈ s.createdReports p delivery found ++ s.deletedReports gone) :
    r.family = s.id := by
  rcases List.mem_append.1 produced with hr | hr
  · obtain ⟨e, -, rfl⟩ := List.mem_map.1 hr
    rfl
  · obtain ⟨q, -, rfl⟩ := List.mem_map.1 hr
    rfl

theorem Tracks.pass_other (tracks : Tracks i p withData c) {p' : Path}
    (registered : c.children.get? p' = some s) (other : s.id ≠ i) (diff : ChildDiff) :
    Tracks i p withData (c.absorb p' s delivery diff new) := by
  refine tracks.of_others (nextId_le_absorb delivery diff new) (fun q => ?_) ?_ ?_
  · refine changesFor_others (journal_absorb delivery diff new) fun r hr => .inl ?_
    rw [family_of_pass hr]
    exact other
  · intro q s' hs' hi
    rw [children_absorb registered] at hs'
    split at hs'
    · cases hs'
      exact absurd hi other
    · exact hs'
  · intro q e he hi
    rw [data_absorb] at he
    split at he
    · cases he
    · rcases data_addFound c p' s new.found q with ⟨same, -⟩ | ⟨-, -, id, -, -, hget⟩
      · rwa [same] at he
      · rw [hget] at he
        cases he
        exact absurd hi other

end pass

theorem Tracks.move (tracks : Tracks i p withData c) (move : Coordinator.Move c c') :
    Tracks i p withData c' := by
  cases move with
  | aside children data nextId journal =>
    refine tracks.of_others nextId.ge (changesFor_congr journal i) ?_ ?_
    · intro q s hs _
      rwa [children] at hs
    · intro q e he _
      rwa [data] at he
  | reread d registered => exact tracks.reread d registered
  | @ended q e registered plain =>
    have others : e.family ≠ i := by
      intro hi
      have managed := (tracks.managed q e registered hi).2.1
      rw [plain] at managed
      cases managed
    rw [removeDataIf_of_get? registered]
    refine tracks.of_others le_rfl (fun r => changesFor_others rfl ?_) (fun _ _ hs _ => hs)
      fun _ _ he' _ => Table.get?_of_erase he'
    intro r hr
    obtain rfl := List.mem_singleton.1 hr
    exact .inl others
  | @pass q s delivery snapshot new registered covers =>
    by_cases hi : s.id = i
    · subst hi
      obtain ⟨rfl, -⟩ := tracks.place q s registered rfl
      exact tracks.pass_own registered covers
    · exact tracks.pass_other registered hi _
  | addChildren q l watches =>
    refine tracks.of_others (Nat.le_succ _) (fun _ => changesFor_congr rfl _ _) ?_
      fun _ _ he _ => he
    intro r s hs hi
    rcases Table.get?_of_insert hs with ⟨-, rfl⟩ | before
    · exact absurd hi (Nat.ne_of_gt tracks.old)
    · exact before
  | addData q l =>
    refine tracks.of_others (Nat.le_succ _) (fun _ => changesFor_congr rfl _ _)
      (fun _ _ hs _ => hs) ?_
    intro r e he hi
    rcases Table.get?_of_insert he with ⟨-, rfl⟩ | before
    · exact absurd hi (family_of_fresh tracks)
    · exact before
  | removeChildren q =>
    exact tracks.of_others le_rfl (fun _ => changesFor_congr rfl _ _)
      (fun _ _ hs _ => Table.get?_of_erase hs) fun _ _ he _ => he
  | removeData q =>
    exact tracks.of_others le_rfl (fun _ => changesFor_congr rfl _ _) (fun _ _ hs _ => hs)
      fun _ _ he _ => Table.get?_of_erase he

/-! ### Registration -/

theorem changesFor_unused (numbered : Numbered c) {i : Nat} (unused : c.nextId ≤ i) (q : Path) :
    c.changesFor i q = [] := by
  have none : (c.journal.filter fun r => r.family == i && r.event.path == q) = [] := by
    rw [List.filter_eq_nil_iff]
    intro r hr hi
    have used := numbered.journal r hr
    simp only [Bool.and_eq_true, beq_iff_eq] at hi
    omega
  rw [changesFor, none, List.map_nil]

/-- Nothing has been heard of a subscription when it is registered. -/
theorem tracks_fresh (numbered : Numbered c) (p : Path) (l : Listener) (withData : Bool) :
    Tracks c.nextId p withData (c.addChildren p l withData) := by
  have silence (q : Path) : (c.addChildren p l withData).changesFor c.nextId q = [] :=
    (changesFor_congr rfl _ q).trans (changesFor_unused numbered le_rfl q)
  refine ⟨Nat.lt_succ_self _, ?_, ?_, ?_, ?_, ?_⟩
  · intro q s hs hi
    rcases Table.get?_of_insert hs with ⟨hq, rfl⟩ | before
    · exact ⟨hq, rfl⟩
    · have used := numbered.children q s before
      omega
  · intro q e he hi
    have used := (numbered.data q e he).2
    omega
  · intro n
    rw [silence]
    rfl
  · intro _ n d
    rw [silence]
    exact List.not_mem_nil
  · intro s hs _ n
    simp only [addChildren, Table.get?_insert, if_true] at hs
    cases hs
    rw [silence]
    rfl

theorem Numbered.move (numbered : Numbered c) (move : Coordinator.Move c c') : Numbered c' := by
  cases move with
  | aside children data nextId journal =>
    refine ⟨?_, ?_, ?_⟩
    · rw [children, nextId]
      exact numbered.children
    · rw [data, nextId]
      exact numbered.data
    · rw [journal, nextId]
      exact numbered.journal
  | @reread q e d registered =>
    refine ⟨numbered.children, numbered.data, fun r hr => ?_⟩
    rcases List.mem_append.1 hr with hr | hr
    · exact numbered.journal r hr
    · obtain rfl := List.mem_singleton.1 hr
      exact (numbered.data q e registered).2
  | @ended q e registered plain =>
    rw [removeDataIf_of_get? registered]
    refine ⟨numbered.children, fun r e' he' => numbered.data r e' (Table.get?_of_erase he'),
      fun r hr => ?_⟩
    rcases List.mem_append.1 hr with hr | hr
    · exact numbered.journal r hr
    · obtain rfl := List.mem_singleton.1 hr
      exact (numbered.data q e registered).2
  | @pass q s delivery snapshot new registered covers =>
    have grows := nextId_le_absorb (c := c) (p := q) (s := s) delivery
      (ChildDiff.between s.known snapshot) new
    have old := numbered.children q s registered
    refine ⟨fun r s' hs' => ?_, fun r e he => ?_, fun r hr => ?_⟩
    · rw [children_absorb registered] at hs'
      split at hs'
      · cases hs'
        exact Nat.lt_of_lt_of_le old grows
      · exact Nat.lt_of_lt_of_le (numbered.children r s' hs') grows
    · rw [data_absorb] at he
      split at he
      · cases he
      · rcases data_addFound c q s new.found r with ⟨same, -⟩ | ⟨-, -, id, -, below, hget⟩
        · rw [same] at he
          have used := numbered.data r e he
          exact ⟨Nat.lt_of_lt_of_le used.1 grows, Nat.lt_of_lt_of_le used.2 grows⟩
        · rw [hget] at he
          cases he
          rw [nextId_absorb] at grows ⊢
          exact ⟨below, Nat.lt_of_lt_of_le old grows⟩
    · rw [journal_absorb] at hr
      rcases List.mem_append.1 hr with hr | hr
      · exact Nat.lt_of_lt_of_le (numbered.journal r hr) grows
      · rw [family_of_pass hr]
        exact Nat.lt_of_lt_of_le old grows
  | addChildren q l watches =>
    refine ⟨fun r s hs => ?_, fun r e he => ?_, fun r hr => ?_⟩
    · rcases Table.get?_of_insert hs with ⟨-, rfl⟩ | before
      · exact Nat.lt_succ_self _
      · exact Nat.lt_succ_of_lt (numbered.children r s before)
    · have used := numbered.data r e he
      exact ⟨Nat.lt_succ_of_lt used.1, Nat.lt_succ_of_lt used.2⟩
    · exact Nat.lt_succ_of_lt (numbered.journal r hr)
  | addData q l =>
    refine ⟨fun r s hs => ?_, fun r e he => ?_, fun r hr => ?_⟩
    · exact Nat.lt_succ_of_lt (numbered.children r s hs)
    · rcases Table.get?_of_insert he with ⟨-, rfl⟩ | before
      · exact ⟨Nat.lt_succ_self _, Nat.lt_succ_self _⟩
      · have used := numbered.data r e before
        exact ⟨Nat.lt_succ_of_lt used.1, Nat.lt_succ_of_lt used.2⟩
    · exact Nat.lt_succ_of_lt (numbered.journal r hr)
  | removeChildren q =>
    exact ⟨fun r s hs => numbered.children r s (Table.get?_of_erase hs), numbered.data,
      numbered.journal⟩
  | removeData q =>
    exact ⟨numbered.children, fun r e he => numbered.data r e (Table.get?_of_erase he),
      numbered.journal⟩

/-- Every registered child subscription is tracked. -/
structure Coordinator.Sound (c : Coordinator) : Prop where
  numbered : Numbered c
  tracks : ∀ q s, c.children.get? q = some s → Tracks s.id q s.watchesChildData c

theorem sound_new (dispatcher : Dispatcher) (failFast : Bool) :
    (Coordinator.new dispatcher failFast).Sound := by
  refine ⟨⟨?_, ?_, ?_⟩, ?_⟩
  · intro q s hs
    cases hs
  · intro q e he
    cases he
  · intro r hr
    cases hr
  · intro q s hs
    cases hs

theorem Coordinator.Sound.move (sound : c.Sound) (move : Coordinator.Move c c') : c'.Sound := by
  refine ⟨sound.numbered.move move, fun q s hs => ?_⟩
  -- either the subscription was there before, with the same number, or it is the one now added
  have before (s₀ : ChildSubscription) (hs₀ : c.children.get? q = some s₀) (hid : s₀.id = s.id)
      (hwatches : s₀.watchesChildData = s.watchesChildData) :
      Tracks s.id q s.watchesChildData c' := by
    rw [← hid, ← hwatches]
    exact (sound.tracks q s₀ hs₀).move move
  cases move with
  | aside children data nextId journal =>
    rw [children] at hs
    exact before s hs rfl rfl
  | reread d registered => exact before s hs rfl rfl
  | @ended r e registered plain =>
    rw [record, removeDataIf] at hs
    split at hs
    · exact before s hs rfl rfl
    · exact before s hs rfl rfl
  | @pass r s' delivery snapshot new registered covers =>
    rw [children_absorb registered] at hs
    split at hs
    · next hq =>
      subst hq
      cases hs
      exact before s' registered rfl rfl
    · exact before s hs rfl rfl
  | addChildren r l watches =>
    by_cases hq : q = r
    · subst hq
      simp only [addChildren, Table.get?_insert, if_true] at hs
      cases hs
      exact tracks_fresh sound.numbered q l watches
    · simp only [addChildren, Table.get?_insert, if_neg hq] at hs
      exact before s hs rfl rfl
  | addData r l => exact before s hs rfl rfl
  | removeChildren r => exact before s (Table.get?_of_erase hs) rfl rfl
  | removeData r => exact before s hs rfl rfl

theorem Coordinator.Sound.moves (sound : c.Sound)
    (moves : Relation.ReflTransGen Coordinator.Move c c') : c'.Sound := by
  induction moves with
  | refl => exact sound
  | tail _ move ih => exact ih.move move

theorem Tracks.moves (tracks : Tracks i p withData c)
    (moves : Relation.ReflTransGen Coordinator.Move c c') : Tracks i p withData c' := by
  induction moves with
  | refl => exact tracks
  | tail _ move ih => exact ih.move move

/-- The events of one child, as the subscription `s` at `p` produces them from its registration on,
are a beginning of lives, with changes of data only if `s` asked for them. As long as `s` is
registered, it knows the child exactly when the last it told of it, changes of data apart, is its
creation. -/
theorem child_events_replay {σ : Type} {client : Host σ} (orderly : client.Orderly)
    {audience : Audience σ} (tame : Tame client World.Step audience)
    (dispatcher : Dispatcher) (failFast : Bool) {w₀ w₁ w₂ : World σ}
    (start : w₀.coordinator = Coordinator.new dispatcher failFast)
    (before : Relation.ReflTransGen (World.Step (client.facing audience)) w₀ w₁)
    {p : Path} {s : ChildSubscription} (registered : w₁.coordinator.children.get? p = some s)
    (later : Relation.ReflTransGen (World.Step (client.facing audience)) w₁ w₂) (n : String) :
    let told := w₂.coordinator.changesFor s.id (p.child n)
    (∃ word, Lives word ∧ told <+: word) ∧
      (s.watchesChildData = false → ∀ d, .dataChanged d ∉ told) ∧
      ∀ s', w₂.coordinator.children.get? p = some s' → s'.id = s.id →
        (s'.known.contains n = true ↔ ToldOf told) := by
  intro told
  have routine := tame_routine orderly tame
  have sound : w₁.coordinator.Sound := by
    have sound₀ : w₀.coordinator.Sound := start ▸ sound_new dispatcher failFast
    exact sound₀.moves (run_moves (orderly.facing _) routine before)
  have tracks : Tracks s.id p s.watchesChildData w₂.coordinator :=
    (sound.tracks p s registered).moves (run_moves (orderly.facing _) routine later)
  refine ⟨?_, ?_, ?_⟩
  · have lives := exists_lives_of_follow (tracks.ordered n)
    simpa using lives
  · intro without
    exact tracks.quiet without n
  · intro s' hs' hid
    rw [tracks.known s' hs' hid n]
    exact aliveAfter_eq_true_iff told

/-- A child that is created, changes, and is deleted and created again while its parent's fire waits
to be handled: the deletion is never told of, nor is the second creation. -/
theorem child_events_replay_over_memory :
    let w₁ := World.blank.play [.change (.create "/a" .empty),
      .command (.listen "/a" "one" (.children true)), .change (.create "/a/c" .empty), .handleNext]
    let w₂ := w₁.play [.change (.setData "/a/c" .empty), .handleNext, .change (.delete "/a/c"),
      .change (.create "/a/c" .empty), .handleNext, .handleNext]
    ∃ s, w₁.coordinator.children.get? "/a" = some s ∧
      w₂.coordinator.changesFor s.id "/a/c" =
        [.created .empty, .dataChanged .empty, .dataChanged .empty] ∧
      ∃ word, Lives word ∧ w₂.coordinator.changesFor s.id "/a/c" <+: word := by
  intro w₁ w₂
  have before : Relation.ReflTransGen (World.Step (memoryClient.facing .silent)) .blank w₁ :=
    memory_run_steps (play_run (allows_any _ _))
  have later : Relation.ReflTransGen (World.Step (memoryClient.facing .silent)) w₁ w₂ :=
    memory_run_steps (play_run (allows_any _ _))
  have numbered : (w₁.coordinator.children.get? "/a").map (·.id) = some 0 := by decide
  obtain ⟨s, hs, hid⟩ := Option.map_eq_some_iff.1 numbered
  have lives := (child_events_replay memoryClient_orderly .silent (.ofSize 1) false rfl before hs
    later "c").1
  refine ⟨s, hs, ?_, lives⟩
  rw [hid]
  decide

end DurableWatch
