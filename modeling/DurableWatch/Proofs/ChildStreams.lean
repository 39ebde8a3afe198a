import DurableWatch.Proofs.Moves

/-!
# What a listener is told about a child

The events of one child, as one subscription produces them, come in lives: the child is created, its
data changes some number of times, and it is deleted. The known set says whether the child is in its
life. A pass that fails, a child that cannot be read, a stale fire and a recovery either leave the
stream and the known set as they are, or move both.
-/
namespace DurableWatch

def Change.isDataChange : Change → Bool
  | dataChanged _ => true
  | created _ | deleted => false

/-- Any number of complete lives. -/
inductive Lives : List Change → Prop
  | none : Lives []
  | life (d : Data) (ds : List Data) {rest : List Change} (later : Lives rest) :
      Lives (.created d :: (ds.map .dataChanged ++ .deleted :: rest))

/-- The last thing told, changes of data apart, is a creation. -/
def ToldOf (cs : List Change) : Prop :=
  ∃ d, (cs.filter fun c => !c.isDataChange).getLast? = some (.created d)

namespace Change

/-- Whether the child lives after the change, if it did or did not before. -/
def after (alive : Bool) : Change → Bool
  | created _ => true
  | deleted => false
  | dataChanged _ => alive

/-- Only a child that does not live can be created, and nothing else can happen to it. -/
def fits (alive : Bool) : Change → Bool
  | created _ => !alive
  | deleted | dataChanged _ => alive

end Change

def aliveAfter (alive : Bool) (cs : List Change) : Bool := cs.foldl Change.after alive

/-- Each change fits what has happened before it. -/
def follow (alive : Bool) : List Change → Bool
  | [] => true
  | c :: cs => c.fits alive && follow (c.after alive) cs

theorem aliveAfter_append (alive : Bool) (cs ds : List Change) :
    aliveAfter alive (cs ++ ds) = aliveAfter (aliveAfter alive cs) ds := List.foldl_append

theorem follow_append (alive : Bool) (cs ds : List Change) :
    follow alive (cs ++ ds) = (follow alive cs && follow (aliveAfter alive cs) ds) := by
  induction cs generalizing alive with
  | nil => simp [follow, aliveAfter]
  | cons c cs ih => simp [follow, aliveAfter, ih, Bool.and_assoc]

/-- A list in which everything fits is the beginning of lives, the first of which may be on already.
-/
theorem exists_lives_of_follow {alive : Bool} {cs : List Change} (h : follow alive cs = true) :
    if alive = true
    then ∃ (ds : List Data) (rest : List Change),
      Lives rest ∧ cs <+: ds.map Change.dataChanged ++ .deleted :: rest
    else ∃ word, Lives word ∧ cs <+: word := by
  induction cs generalizing alive with
  | nil =>
    cases alive with
    | false => exact ⟨[], .none, List.nil_prefix⟩
    | true => exact ⟨[], [], .none, List.nil_prefix⟩
  | cons c cs ih =>
    simp only [follow, Bool.and_eq_true] at h
    have rest := ih h.2
    cases c with
    | created d =>
      obtain rfl : alive = false := by simpa [Change.fits] using h.1
      simp only [Change.after, if_true] at rest
      obtain ⟨ds, rest, lives, hprefix⟩ := rest
      exact ⟨_, .life d ds lives, List.cons_prefix_cons.2 ⟨rfl, hprefix⟩⟩
    | deleted =>
      obtain rfl : alive = true := by simpa [Change.fits] using h.1
      simp only [Change.after, Bool.false_eq_true, if_false] at rest
      obtain ⟨word, lives, hprefix⟩ := rest
      exact ⟨[], word, lives, List.cons_prefix_cons.2 ⟨rfl, hprefix⟩⟩
    | dataChanged d =>
      obtain rfl : alive = true := by simpa [Change.fits] using h.1
      simp only [Change.after, if_true] at rest
      obtain ⟨ds, rest, lives, hprefix⟩ := rest
      exact ⟨d :: ds, rest, lives, List.cons_prefix_cons.2 ⟨rfl, hprefix⟩⟩

theorem aliveAfter_eq_true_iff (cs : List Change) : aliveAfter false cs = true ↔ ToldOf cs := by
  induction cs using List.reverseRecOn with
  | nil => simp [aliveAfter, ToldOf]
  | append_singleton cs c ih =>
    rw [aliveAfter_append]
    cases c with
    | created d => simp [aliveAfter, Change.after, ToldOf, Change.isDataChange]
    | deleted => simp [aliveAfter, Change.after, ToldOf, Change.isDataChange]
    | dataChanged d =>
      have same : ToldOf (cs ++ [.dataChanged d]) ↔ ToldOf cs := by
        simp [ToldOf, Change.isDataChange]
      rw [same, ← ih]
      rfl

namespace Coordinator

/-- What the subscription with this number, or those it has made for children, have produced about
the node at `q`. -/
def changesFor (c : Coordinator) (family : Nat) (q : Path) : List Change :=
  (c.journal.filter fun r => r.family == family && r.event.path == q).map (·.event.change)

theorem changesFor_of_journal {c c' : Coordinator} {rs : List Report}
    (h : c'.journal = c.journal ++ rs) (family : Nat) (q : Path) :
    c'.changesFor family q = c.changesFor family q ++
      (rs.filter fun r => r.family == family && r.event.path == q).map (·.event.change) := by
  simp [changesFor, h]

theorem changesFor_congr {c c' : Coordinator} (h : c'.journal = c.journal) (family : Nat)
    (q : Path) : c'.changesFor family q = c.changesFor family q := by
  simp [changesFor, h]

/-- Reports of others leave the stream as it is. -/
theorem changesFor_others {c c' : Coordinator} {rs : List Report}
    (h : c'.journal = c.journal ++ rs) {family : Nat} {q : Path}
    (others : ∀ r ∈ rs, r.family ≠ family ∨ r.event.path ≠ q) :
    c'.changesFor family q = c.changesFor family q := by
  have none : (rs.filter fun r => r.family == family && r.event.path == q) = [] := by
    rw [List.filter_eq_nil_iff]
    intro r hr
    rcases others r hr with hne | hne <;> simp [hne]
  rw [changesFor_of_journal h, none]
  simp

end Coordinator

/-! ### What one pass adds to the stream of one child -/

section passStream

variable (s : ChildSubscription) (p : Path) (delivery : Delivery)

theorem filter_key_of_not_mem {α : Type} {n : String} {es : List (String × α)}
    (h : n ∉ es.map Prod.fst) : es.filter (fun e => e.1 == n) = [] := by
  rw [List.filter_eq_nil_iff]
  intro e he hn
  exact h (List.mem_map.2 ⟨e, he, by simpa using hn⟩)

theorem filter_key_of_mem {α : Type} {n : String} {es : List (String × α)}
    (distinct : (es.map Prod.fst).Nodup) (h : n ∈ es.map Prod.fst) :
    ∃ d, es.filter (fun e => e.1 == n) = [(n, d)] := by
  induction es with
  | nil => simp at h
  | cons e es ih =>
    obtain ⟨first, rest⟩ := List.nodup_cons.1 distinct
    by_cases he : e.1 = n
    · refine ⟨e.2, ?_⟩
      rw [List.filter_cons_of_pos (by simpa using he),
        filter_key_of_not_mem (fun hn => first (he ▸ hn)), ← he]
    · have hn : n ∈ es.map Prod.fst := by
        rcases List.mem_cons.1 h with hn | hn
        · exact absurd hn.symm he
        · exact hn
      obtain ⟨d, hd⟩ := ih rest hn
      refine ⟨d, ?_⟩
      rw [List.filter_cons_of_neg (by simpa using he), hd]

theorem createdReports_on (found : List (String × Data)) (n : String) :
    (s.createdReports p delivery found).filter (fun r => r.event.path == p.child n) =
      s.createdReports p delivery (found.filter fun e => e.1 == n) := by
  rw [ChildSubscription.createdReports, List.filter_map]
  refine congrArg _ (List.filter_congr fun e _ => ?_)
  simp [ChildSubscription.report, Bool.beq_eq_decide_eq]

theorem deletedReports_on (gone : List String) (n : String) :
    (s.deletedReports (gone.map p.child)).filter (fun r => r.event.path == p.child n) =
      s.deletedReports ((gone.filter (· == n)).map p.child) := by
  rw [ChildSubscription.deletedReports, List.filter_map, List.filter_map]
  refine congrArg _ (congrArg _ (List.filter_congr fun m _ => ?_))
  simp [ChildSubscription.report, Bool.beq_eq_decide_eq]

theorem filter_own {rs : List Report} (own : ∀ r ∈ rs, r.family = s.id) (q : Path) :
    (rs.filter fun r => r.family == s.id && r.event.path == q) =
      rs.filter fun r => r.event.path == q :=
  List.filter_congr fun r hr => by rw [own r hr, beq_self_eq_true, Bool.true_and]

theorem createdReports_stream (found : List (String × Data)) (n : String) :
    (((s.createdReports p delivery found).filter
        fun r => r.family == s.id && r.event.path == p.child n).map (·.event.change)) =
      (found.filter fun e => e.1 == n).map fun e => Change.created e.2 := by
  have own : ∀ r ∈ s.createdReports p delivery found, r.family = s.id :=
    List.forall_mem_map.2 fun _ _ => rfl
  rw [filter_own s own, createdReports_on]
  simp [ChildSubscription.createdReports, ChildSubscription.report]

theorem deletedReports_stream (gone : List String) (n : String) :
    (((s.deletedReports (gone.map p.child)).filter
        fun r => r.family == s.id && r.event.path == p.child n).map (·.event.change)) =
      (gone.filter fun m => m == n).map fun _ => Change.deleted := by
  have own : ∀ r ∈ s.deletedReports (gone.map p.child), r.family = s.id :=
    List.forall_mem_map.2 fun _ _ => rfl
  rw [filter_own s own, deletedReports_on, ChildSubscription.deletedReports, List.map_map,
    List.map_map]
  rfl

end passStream

end DurableWatch
