import DurableWatch.Proofs.UpToDate

/-!
# The life of a plain data subscription

A plain subscription tells of changes of data, and last of the end of its node, with which it is
gone. What it produces is told from the reports of others by its number, which nothing else is ever
given: neither a child subscription nor, as the one that it stands for, a subscription made for a
child. While the session is alive its watch is armed or the fire is in the channel, for a plain
subscription whose node is found missing ends on the spot.
-/
namespace DurableWatch

open World Coordinator

namespace Coordinator

variable {c c' : Coordinator} {i : Nat} {q : Path} {l : Listener}

/-! ### Where entries and reports come from -/

/-- An entry that is there after a move was there before, or it is new and has a new number. A new
data subscription is the plain one that is added, or it is made for a child and stands for a
subscription that is registered. -/
structure Move.Origins (c c' : Coordinator) : Prop where
  nextId : c.nextId ≤ c'.nextId
  children : ∀ q s', c'.children.get? q = some s' →
    s'.id = c.nextId ∨ ∃ s, c.children.get? q = some s ∧ s.id = s'.id
  data : ∀ q e, c'.data.get? q = some e → c.data.get? q = some e ∨
    (e = c.freshData e.listener none ∧ c' = c.addData q e.listener none) ∨
    c.nextId ≤ e.id ∧ ∃ p s, c.children.get? p = some s ∧ e.owner? = some s.id

theorem Move.Origins.of_fewer (nextId : c'.nextId = c.nextId)
    (children : ∀ q s, c'.children.get? q = some s → c.children.get? q = some s)
    (data : ∀ q e, c'.data.get? q = some e → c.data.get? q = some e) : Move.Origins c c' :=
  ⟨nextId.ge, fun q s hs => .inr ⟨s, children q s hs, rfl⟩, fun q e he => .inl (data q e he)⟩

theorem Move.origins (move : Coordinator.Move c c') : Move.Origins c c' := by
  cases move with
  | aside children data nextId _ =>
    refine .of_fewer nextId (fun q s hs => ?_) fun q e he => ?_
    · rwa [children] at hs
    · rwa [data] at he
  | reread d _ => exact .of_fewer rfl (fun _ _ hs => hs) fun _ _ he => he
  | ended registered _ =>
    rw [removeDataIf_of_get? registered]
    exact .of_fewer rfl (fun _ _ hs => hs) fun _ _ he => Table.get?_of_erase he
  | @pass p s delivery snapshot new registered _ =>
    refine ⟨nextId_le_absorb _ _ _, fun q s' hs' => ?_, fun q e he => ?_⟩
    · rw [children_absorb registered] at hs'
      split at hs'
      · next hq =>
        cases hs'
        exact .inr ⟨s, hq ▸ registered, rfl⟩
      · exact .inr ⟨s', hs', rfl⟩
    · rw [data_absorb] at he
      split at he
      · cases he
      · rcases data_addFound c p s new.found q with ⟨same, -⟩ | ⟨-, -, id, isNew, -, hget⟩
        · exact .inl (same ▸ he)
        · rw [hget] at he
          cases he
          exact .inr (.inr ⟨isNew, p, s, registered, rfl⟩)
  | addChildren p l withData =>
    refine ⟨Nat.le_succ _, fun q s hs => ?_, fun _ _ he => .inl he⟩
    rcases Table.get?_of_insert hs with ⟨-, rfl⟩ | before
    · exact .inl rfl
    · exact .inr ⟨s, before, rfl⟩
  | addData p l =>
    refine ⟨Nat.le_succ _, fun q s hs => .inr ⟨s, hs, rfl⟩, fun q e he => ?_⟩
    rcases Table.get?_of_insert he with ⟨rfl, rfl⟩ | before
    · exact .inr (.inl ⟨rfl, rfl⟩)
    · exact .inl before
  | removeChildren p =>
    exact .of_fewer rfl (fun _ _ hs => Table.get?_of_erase hs) fun _ _ he => he
  | removeData p => exact .of_fewer rfl (fun _ _ hs => hs) fun _ _ he => Table.get?_of_erase he

/-- What a move notes in the journal. -/
inductive Move.Produces (c c' : Coordinator) : Prop
  | nothing (journal : c'.journal = c.journal)
  | change {q : Path} {e : DataSubscription} (d : Data) (registered : c.data.get? q = some e)
      (data : c'.data = c.data)
      (journal : c'.journal = c.journal ++ [e.report ⟨q, .dataChanged d⟩])
  | ending {q : Path} {e : DataSubscription} (registered : c.data.get? q = some e)
      (plain : e.owner? = none) (data : c'.data = c.data.erase q)
      (journal : c'.journal = c.journal ++ [e.report ⟨q, .deleted⟩])
  | pass {p : Path} {s : ChildSubscription} {rs : List Report}
      (registered : c.children.get? p = some s) (journal : c'.journal = c.journal ++ rs)
      (own : ∀ r ∈ rs, r.subscription = s.id ∧ r.family = s.id)

theorem Move.produces (move : Coordinator.Move c c') : Move.Produces c c' := by
  cases move with
  | aside _ _ _ journal => exact .nothing journal
  | reread d registered => exact .change d registered rfl rfl
  | ended registered plain =>
    rw [removeDataIf_of_get? registered]
    exact .ending registered plain rfl rfl
  | @pass p s delivery snapshot new registered _ =>
    refine .pass registered (journal_absorb delivery _ new) fun r hr => ?_
    rcases List.mem_append.1 hr with hr | hr
    · obtain ⟨e, -, rfl⟩ := List.mem_map.1 hr
      exact ⟨rfl, rfl⟩
    · obtain ⟨q, -, rfl⟩ := List.mem_map.1 hr
      exact ⟨rfl, rfl⟩
  | addChildren _ _ _ => exact .nothing rfl
  | addData _ _ => exact .nothing rfl
  | removeChildren _ => exact .nothing rfl
  | removeData _ => exact .nothing rfl

/-! ### The reports of one subscription -/

/-- What the subscription with this number has produced. -/
def reportsBy (c : Coordinator) (i : Nat) : List Report :=
  c.journal.filter fun r => r.subscription == i

theorem mem_reportsBy {r : Report} : r ∈ c.reportsBy i ↔ r ∈ c.journal ∧ r.subscription = i := by
  simp [reportsBy]

theorem reportsBy_of_journal {rs : List Report} (h : c'.journal = c.journal ++ rs) :
    c'.reportsBy i = c.reportsBy i ++ rs.filter fun r => r.subscription == i := by
  simp [reportsBy, h]

theorem reportsBy_others {rs : List Report} (h : c'.journal = c.journal ++ rs)
    (others : ∀ r ∈ rs, r.subscription ≠ i) : c'.reportsBy i = c.reportsBy i := by
  rw [reportsBy_of_journal h, List.filter_eq_nil_iff.2 (by simpa using others), List.append_nil]

theorem reportsBy_own {r : Report} (h : c'.journal = c.journal ++ [r])
    (own : r.subscription = i) : c'.reportsBy i = c.reportsBy i ++ [r] := by
  rw [reportsBy_of_journal h]
  simp [own]

/-- Whether a subscription with this number is registered for data. -/
def Listed (c : Coordinator) (i : Nat) : Prop := ∃ p e, c.data.get? p = some e ∧ e.id = i

/-- Changes of data only if the subscription may go on, else these and the end of the node. -/
def Life (c : Coordinator) (i : Nat) : Prop :=
  ∃ ds : List Data,
    (c.reportsBy i).map (·.event.change) = ds.map .dataChanged ∨
      (c.reportsBy i).map (·.event.change) = ds.map .dataChanged ++ [.deleted] ∧ ¬c.Listed i

/-- `i` is the number of a plain data subscription of `l` at `q`, registered or not by now. -/
structure Plain (i : Nat) (q : Path) (l : Listener) (c : Coordinator) : Prop where
  used : i < c.nextId
  children : ∀ p s, c.children.get? p = some s → s.id ≠ i
  place : ∀ p e, c.data.get? p = some e → e.id = i → p = q ∧ e = ⟨i, l, none⟩
  unowned : ∀ p e, c.data.get? p = some e → e.owner? ≠ some i
  reports : ∀ r ∈ c.reportsBy i, r.family = i ∧ r.listener = l ∧ r.event.path = q
  family : ∀ r ∈ c.journal, r.family = i → r.subscription = i
  life : c.Life i

/-- The number is not given to another. -/
theorem Plain.before (plain : Plain i q l c) (origins : Move.Origins c c') {p : Path}
    {e : DataSubscription} (he : c'.data.get? p = some e) (hi : e.id = i) :
    c.data.get? p = some e := by
  have used := plain.used
  rcases origins.data p e he with before | ⟨isNew, -⟩ | ⟨isNew, -⟩
  · exact before
  · have number : e.id = c.nextId := congrArg DataSubscription.id isNew
    omega
  · omega

theorem Plain.frame (plain : Plain i q l c) (origins : Move.Origins c c')
    (reports : ∀ r ∈ c'.reportsBy i, r.family = i ∧ r.listener = l ∧ r.event.path = q)
    (family : ∀ r ∈ c'.journal, r.family = i → r.subscription = i) (life : c'.Life i) :
    Plain i q l c' where
  used := plain.used.trans_le origins.nextId
  children p s hs hi := by
    rcases origins.children p s hs with isNew | ⟨s', hs', same⟩
    · have used := plain.used
      omega
    · exact plain.children p s' hs' (same.trans hi)
  place p e he hi := plain.place p e (plain.before origins he hi) hi
  unowned p e he hi := by
    rcases origins.data p e he with before | ⟨isNew, -⟩ | ⟨-, p', s, hs, owner⟩
    · exact plain.unowned p e before hi
    · rw [isNew] at hi
      cases hi
    · rw [owner] at hi
      exact plain.children p' s hs (Option.some.inj hi)
  reports := reports
  family := family
  life := life

/-- What others report is nothing to this one. -/
theorem Plain.of_others (plain : Plain i q l c) (origins : Move.Origins c c') {rs : List Report}
    (journal : c'.journal = c.journal ++ rs)
    (others : ∀ r ∈ rs, r.subscription ≠ i ∧ r.family ≠ i) :
    Plain i q l c' ∧ c'.reportsBy i = c.reportsBy i := by
  have same : c'.reportsBy i = c.reportsBy i :=
    reportsBy_others journal fun r hr => (others r hr).1
  refine ⟨plain.frame origins (same ▸ plain.reports) (fun r hr hi => ?_) ?_, same⟩
  · rw [journal] at hr
    rcases List.mem_append.1 hr with old | new
    · exact plain.family r old hi
    · exact absurd hi (others r new).2
  · obtain ⟨ds, going | ⟨ended, gone⟩⟩ := plain.life
    · exact ⟨ds, .inl (by rw [same, going])⟩
    · refine ⟨ds, .inr ⟨by rw [same, ended], ?_⟩⟩
      rintro ⟨p, e, he, hi⟩
      exact gone ⟨p, e, plain.before origins he hi, hi⟩

theorem Plain.of_own (plain : Plain i q l c) (origins : Move.Origins c c') {change : Change}
    (journal : c'.journal =
      c.journal ++ [(⟨i, l, none⟩ : DataSubscription).report ⟨q, change⟩])
    (life : (c'.reportsBy i).map (·.event.change) =
      (c.reportsBy i).map (·.event.change) ++ [change] → c'.Life i) : Plain i q l c' := by
  have told : c'.reportsBy i = c.reportsBy i ++ [_] := reportsBy_own journal rfl
  refine plain.frame origins (fun r hr => ?_) (fun r hr hi => ?_) (life ?_)
  · rw [told] at hr
    rcases List.mem_append.1 hr with old | new
    · exact plain.reports r old
    · rw [List.mem_singleton.1 new]
      exact ⟨rfl, rfl, rfl⟩
  · rw [journal] at hr
    rcases List.mem_append.1 hr with old | new
    · exact plain.family r old hi
    · rw [List.mem_singleton.1 new]
      rfl
  · rw [told, List.map_append]
    rfl

/-- A subscription that is registered has not told of the end of its node. -/
theorem Plain.going (plain : Plain i q l c) (listed : c.Listed i) :
    ∃ ds : List Data, (c.reportsBy i).map (·.event.change) = ds.map .dataChanged := by
  obtain ⟨ds, going | ⟨-, gone⟩⟩ := plain.life
  · exact ⟨ds, going⟩
  · exact absurd listed gone

/-- No other data subscription speaks for this one. -/
theorem Plain.others (plain : Plain i q l c) {p : Path} {e : DataSubscription}
    (registered : c.data.get? p = some e) (other : e.id ≠ i) : e.family ≠ i := by
  intro own
  unfold DataSubscription.family at own
  cases owner : e.owner? with
  | none =>
    rw [owner] at own
    exact other own
  | some j =>
    rw [owner] at own
    exact plain.unowned p e registered (owner.trans (congrArg some own))

theorem Plain.move (plain : Plain i q l c) (move : Coordinator.Move c c') : Plain i q l c' := by
  have origins := move.origins
  -- only a report of its own needs a look at what has been told before
  cases move.produces with
  | nothing journal =>
    exact (plain.of_others origins (journal.trans (List.append_nil _).symm) (by simp)).1
  | @change p e d registered data journal =>
    by_cases own : e.id = i
    · obtain ⟨rfl, rfl⟩ := plain.place p e registered own
      obtain ⟨ds, told⟩ := plain.going ⟨p, _, registered, rfl⟩
      refine plain.of_own origins journal fun now => ⟨ds ++ [d], .inl ?_⟩
      rw [now, told, List.map_append]
      rfl
    · refine (plain.of_others origins journal fun r hr => ?_).1
      rw [List.mem_singleton.1 hr]
      exact ⟨own, plain.others registered own⟩
  | @ending p e registered _ data journal =>
    by_cases own : e.id = i
    · obtain ⟨rfl, rfl⟩ := plain.place p e registered own
      obtain ⟨ds, told⟩ := plain.going ⟨p, _, registered, rfl⟩
      refine plain.of_own origins journal fun now => ⟨ds, .inr ⟨?_, ?_⟩⟩
      · rw [now, told]
      · rintro ⟨r, e', he', hi⟩
        obtain ⟨rfl, -⟩ := plain.place r e' (plain.before origins he' hi) hi
        rw [data] at he'
        simp at he'
    · refine (plain.of_others origins journal fun r hr => ?_).1
      rw [List.mem_singleton.1 hr]
      exact ⟨own, plain.others registered own⟩
  | pass registered journal own =>
    refine (plain.of_others origins journal fun r hr => ?_).1
    obtain ⟨subscription, family⟩ := own r hr
    rw [subscription, family]
    exact ⟨plain.children _ _ registered, plain.children _ _ registered⟩

theorem Plain.moves (plain : Plain i q l c)
    (moves : Relation.ReflTransGen Coordinator.Move c c') : Plain i q l c' := by
  induction moves with
  | refl => exact plain
  | tail _ move ih => exact ih.move move

/-- Without an entry there are no more reports. -/
theorem Plain.silent (plain : Plain i q l c) (gone : ¬c.Listed i)
    (moves : Relation.ReflTransGen Coordinator.Move c c') :
    ¬c'.Listed i ∧ c'.reportsBy i = c.reportsBy i := by
  induction moves with
  | refl => exact ⟨gone, rfl⟩
  | @tail c₁ c₂ moves move ih =>
    have known := plain.moves moves
    refine ⟨?_, ?_⟩
    · rintro ⟨p, e, he, hi⟩
      exact ih.1 ⟨p, e, known.before move.origins he hi, hi⟩
    · rw [← ih.2]
      cases move.produces with
      | nothing journal => exact reportsBy_others (journal.trans (List.append_nil _).symm) (by simp)
      | change d registered _ journal =>
        refine reportsBy_others journal fun r hr own => ih.1 ⟨_, _, registered, ?_⟩
        rwa [List.mem_singleton.1 hr] at own
      | ending registered _ _ journal =>
        refine reportsBy_others journal fun r hr own => ih.1 ⟨_, _, registered, ?_⟩
        rwa [List.mem_singleton.1 hr] at own
      | pass registered journal own =>
        refine reportsBy_others journal fun r hr => ?_
        rw [(own r hr).1]
        exact known.children _ _ registered

/-- Every plain data subscription that is registered leads such a life. -/
structure PlainSound (c : Coordinator) : Prop where
  reported : ∀ r ∈ c.journal, r.subscription < c.nextId
  plain : ∀ q e, c.data.get? q = some e → e.owner? = none → Plain e.id q e.listener c

theorem plain_fresh (numbered : Numbered c) (reported : ∀ r ∈ c.journal, r.subscription < c.nextId)
    (q : Path) (l : Listener) : Plain c.nextId q l (c.addData q l none) := by
  have none : (c.addData q l none).reportsBy c.nextId = [] := by
    refine List.filter_eq_nil_iff.2 fun r hr => ?_
    have old := reported r hr
    simp only [beq_iff_eq]
    omega
  refine ⟨Nat.lt_succ_self _, fun p s hs hi => ?_, fun p e he hi => ?_, fun p e he hi => ?_,
    fun r hr => ?_, fun r hr hi => ?_, [], .inl ?_⟩
  · have old := numbered.children p s hs
    omega
  · rcases Table.get?_of_insert he with ⟨rfl, rfl⟩ | before
    · exact ⟨rfl, rfl⟩
    · have old := (numbered.data p e before).1
      omega
  · rcases Table.get?_of_insert he with ⟨rfl, rfl⟩ | before
    · cases hi
    · have old := (numbered.data p e before).2
      rw [DataSubscription.family, hi] at old
      exact Nat.lt_irrefl _ old
  · rw [none] at hr
    cases hr
  · have old := numbered.journal r hr
    omega
  · rw [none]
    rfl

theorem PlainSound.move (lives : PlainSound c) (numbered : Numbered c)
    (move : Coordinator.Move c c') : PlainSound c' := by
  have grows := move.origins.nextId
  refine ⟨fun r hr => ?_, fun q e he plain => ?_⟩
  · have mem_of {rs : List Report} (journal : c'.journal = c.journal ++ rs) :
        r.subscription < c.nextId ∨ r ∈ rs := by
      rw [journal] at hr
      exact (List.mem_append.1 hr).imp_left (lives.reported r)
    cases move.produces with
    | nothing journal =>
      rw [journal] at hr
      exact (lives.reported r hr).trans_le grows
    | change d registered _ journal =>
      rcases mem_of journal with old | own
      · exact old.trans_le grows
      · rw [List.mem_singleton.1 own]
        exact (numbered.data _ _ registered).1.trans_le grows
    | ending registered _ _ journal =>
      rcases mem_of journal with old | own
      · exact old.trans_le grows
      · rw [List.mem_singleton.1 own]
        exact (numbered.data _ _ registered).1.trans_le grows
    | pass registered journal own =>
      rcases mem_of journal with old | produced
      · exact old.trans_le grows
      · rw [(own r produced).1]
        exact (numbered.children _ _ registered).trans_le grows
  · rcases move.origins.data q e he with before | ⟨isNew, added⟩ | ⟨-, p, s, -, owner⟩
    · exact (lives.plain q e before plain).move move
    · rw [added, isNew]
      exact plain_fresh numbered lives.reported q e.listener
    · rw [plain] at owner
      cases owner

theorem PlainSound.moves (lives : PlainSound c) (sound : c.Sound)
    (moves : Relation.ReflTransGen Coordinator.Move c c') : PlainSound c' := by
  induction moves with
  | refl => exact lives
  | tail moves move ih => exact ih.move (sound.moves moves).numbered move

theorem plainSound_new (dispatcher : Dispatcher) (failFast : Bool) :
    PlainSound (.new dispatcher failFast) := by
  refine ⟨fun r hr => ?_, fun q e he => ?_⟩
  · cases hr
  · cases he

end Coordinator

namespace Setting

variable {rule : Rule} {a b : Setting}

/-! ### No plain subscription waits for a node that is missing -/

/-- While the session is alive, the last watched read for a plain subscription was not refused. -/
def Unrefused (a : Setting) : Prop :=
  a.service.alive = true → ∀ q e, a.coordinator.data.get? q = some e → e.owner? = none →
    a.lastTry q .data ≠ some false

theorem Unrefused.frame (unrefused : Unrefused a)
    (alive : b.service.alive = true → a.service.alive = true)
    (kept : b.service.alive = true → ∀ q e, b.coordinator.data.get? q = some e →
      e.owner? = none → b.lastTry q .data = some true ∨
        a.coordinator.data.get? q = some e ∧ b.lastTry q .data = a.lastTry q .data) :
    Unrefused b := by
  intro living q e he plain refused
  rcases kept living q e he plain with answered | ⟨before, same⟩
  · rw [answered] at refused
    cases refused
  · exact unrefused (alive living) q e before plain (same ▸ refused)

/-- The reads of a move were answered, and whoever is not among their subscribers was there before.
-/
theorem Unrefused.looked (unrefused : Unrefused a) {seen : Path → WatchKind → Prop}
    (looked : Looked a b seen)
    (before : ∀ q e, b.coordinator.data.get? q = some e → e.owner? = none → ¬seen q .data →
      a.coordinator.data.get? q = some e) : Unrefused b := by
  refine unrefused.frame (fun alive => looked.alive ▸ alive) fun _ q e he plain => ?_
  by_cases hit : seen q .data
  · exact .inl (looked.tried q .data hit)
  · exact .inr ⟨before q e he plain hit, looked.others q .data hit⟩

/-- Fewer subscriptions, and no other reads. -/
theorem Unrefused.of_fewer (unrefused : Unrefused a)
    (alive : b.service.alive = true → a.service.alive = true)
    (data : ∀ q e, b.coordinator.data.get? q = some e → a.coordinator.data.get? q = some e)
    (tries : ∀ q, b.lastTry q .data = a.lastTry q .data) : Unrefused b :=
  unrefused.frame alive fun _ q e he _ => .inr ⟨data q e he, tries q⟩

/-- A pass makes no plain subscription. -/
theorem Unrefused.passed (unrefused : Unrefused a) {c : Coordinator} {p : Path}
    {s : ChildSubscription} {delivery : Delivery} {new : NewChildren}
    (passed : Passed a b c p s delivery new) (data : c.data = a.coordinator.data) :
    Unrefused b := by
  refine unrefused.looked passed.looked fun q e he plain _ => ?_
  rcases passed.entry q with ⟨-, -, id, -, hget⟩ | ⟨-, -, gone⟩ | ⟨same, -⟩
  · rw [hget] at he
    cases he
    cases plain
  · rw [gone] at he
    cases he
  · rwa [same, data] at he

theorem Unrefused.move (unrefused : Unrefused a) (move : Move rule a b) : Unrefused b := by
  cases move with
  | aside beside edited tries =>
    exact unrefused.of_fewer edited.alive (fun q e he => beside.data ▸ he) fun q => tries q .data
  | unclaimed taken coordinator _ =>
    exact unrefused.of_fewer (fun alive => taken.alive ▸ alive) (fun q e he => coordinator ▸ he)
      fun q => taken.lastTry q .data
  | reread d _ looked coordinator _ =>
    refine unrefused.looked looked fun q e he _ _ => ?_
    rwa [coordinator] at he
  | @unread _ p kind missed coordinator managed =>
    refine unrefused.frame (fun alive => missed.alive ▸ alive) fun alive q e he plain => ?_
    rw [coordinator] at he
    have other : ¬(q = p ∧ .data = kind) := by
      rintro ⟨rfl, rfl⟩
      exact managed (missed.alive ▸ alive) rfl e he plain
    exact .inr ⟨he, missed.others q .data other⟩
  | @ended _ p e registered plain missed coordinator =>
    refine unrefused.frame (fun alive => missed.alive ▸ alive) fun _ q e he _ => ?_
    rw [coordinator] at he
    have kept : (a.coordinator.data.erase p).get? q = some e := he
    have other : ¬(q = p ∧ WatchKind.data = .data) := by
      rintro ⟨rfl, -⟩
      simp at kept
    exact .inr ⟨Table.get?_of_erase kept, missed.others q .data other⟩
  | pass passed => exact unrefused.passed passed rfl
  | subscribe _ passed => exact unrefused.passed passed rfl
  | @subscribeData _ p l d _ looked coordinator _ =>
    refine unrefused.looked looked fun q e he _ other => ?_
    rw [coordinator] at he
    rcases Table.get?_of_insert he with ⟨rfl, -⟩ | before
    · exact absurd ⟨rfl, rfl⟩ other
    · exact before
  | @unsubscribe p gone _ _ =>
    refine unrefused.of_fewer id (fun q e he => ?_) fun _ => rfl
    rw [data_removeDataAll] at he
    split at he
    · cases he
    · exact he
  | dropChild _ _ =>
    exact unrefused.of_fewer id (fun q e he => Table.get?_of_erase he) fun _ => rfl
  | unsubscribeData _ =>
    exact unrefused.of_fewer id (fun q e he => Table.get?_of_erase he) fun _ => rfl
  | cancel _ coordinator service tries =>
    refine unrefused.of_fewer (fun alive => ?_) (fun q e he => coordinator ▸ he)
      fun q => tries q .data
    rwa [service, MemoryService.alive_disarm] at alive

theorem Unrefused.resumed (a : Setting) : Unrefused a.resumed := by
  intro _ q e _ _ refused
  rw [lastTry_resumed] at refused
  cases refused

theorem armed_or_fired {a : Setting} (watching : Watching a) (attempted : Attempted a)
    (unrefused : Unrefused a) (alive : a.service.alive = true) {q : Path} {e : DataSubscription}
    (registered : a.coordinator.data.get? q = some e) (plain : e.owner? = none) :
    a.service.armed q .data = true ∨ .watch q .data ∈ a.service.channel := by
  have subscribed : a.subscribed q .data = true := Table.contains_of_get? registered
  have tried := attempted.data q subscribed
  have notRefused := unrefused alive q e registered plain
  refine watching.answered alive q .data subscribed ?_
  cases last : a.lastTry q .data with
  | none => exact absurd last tried
  | some answered =>
    cases answered with
    | true => rfl
    | false => exact absurd last notRefused

end Setting

namespace Coordinator

/-- For a plain subscription, the last that was heard of the node is the last that it told of. -/
theorem Plain.last_of_told {c : Coordinator} {q : Path} {e : DataSubscription} {d : Data}
    (plain : Plain e.id q e.listener c) (unowned : e.owner? = none) (told : c.LastTold q e d) :
    ∃ r, (c.reportsBy e.id).getLast? = some r ∧ r.event.change = .dataChanged d := by
  have family : e.family = e.id := by
    rw [DataSubscription.family, unowned]
    rfl
  have same : (c.journal.filter fun r => r.family == e.family && r.event.path == q) =
      c.reportsBy e.id := by
    refine List.filter_congr fun r hr => ?_
    rw [Bool.eq_iff_iff, family]
    simp only [Bool.and_eq_true, beq_iff_eq]
    constructor
    · exact fun about => plain.family r hr about.1
    · intro own
      obtain ⟨ofFamily, -, path⟩ := plain.reports r (mem_reportsBy.2 ⟨hr, own⟩)
      exact ⟨ofFamily, path⟩
  obtain ⟨r, last, ⟨-, change⟩ | ⟨owner, -⟩⟩ := told
  · rw [lastReport?, same] at last
    exact ⟨r, last, change⟩
  · rw [unowned] at owner
    cases owner

end Coordinator

/-! ### The life of a subscription -/

variable {τ : Type}

theorem World.IsNew.unrefused {w : World (Backstage τ)} (isNew : w.IsNew) :
    w.setting.Unrefused := by
  intro _ q e he
  have subscribed : w.setting.subscribed q .data = true := Table.contains_of_get? he
  rw [isNew.unsubscribed q .data] at subscribed
  cases subscribed

/-- What a plain data subscription `e` at `q` tells its listener are changes of the data of `q`, and
the end of `q` as the last, with which it is gone and silent for good. In a session that is alive,
as long as it is registered its watch is armed or has a fire in the channel; with an empty channel
the node is there and watched, and its data is what the listener was told of last. -/
theorem plain_data_life {audience : Audience (Backstage τ)}
    (tame : Tame memoryClient (MemoryStep .any) audience) {w₀ w₁ w₂ : World (Backstage τ)}
    (isNew : w₀.IsNew)
    (before : Relation.ReflTransGen (MemoryStep .any (memoryClient.facing audience)) w₀ w₁)
    {q : Path} {e : DataSubscription} (registered : w₁.coordinator.data.get? q = some e)
    (plain : e.owner? = none)
    (later : Relation.ReflTransGen (MemoryStep .any (memoryClient.facing audience)) w₁ w₂) :
    let told := w₂.coordinator.reportsBy e.id
    (∀ r ∈ told, r.listener = e.listener ∧ r.event.path = q) ∧
    (∃ ds : List Data,
      told.map (·.event.change) <+: ds.map .dataChanged ++ [.deleted]) ∧
    (.deleted ∈ told.map (·.event.change) → ¬w₂.coordinator.Listed e.id ∧
      ∀ w₃, Relation.ReflTransGen (MemoryStep .any (memoryClient.facing audience)) w₂ w₃ →
        w₃.coordinator.reportsBy e.id = told) ∧
    (w₂.coordinator.data.get? q = some e → w₂.outside.service.alive = true →
      (w₂.outside.service.armed q .data = true ∨
        .watch q .data ∈ w₂.outside.service.channel) ∧
      (w₂.outside.service.channel = [] → ∃ node r,
        w₂.outside.service.nodes.get? q = some node ∧
        w₂.outside.service.armed q .data = true ∧
        told.getLast? = some r ∧ r.event.change = .dataChanged node.data)) := by
  intro told
  have routine := memory_tame_routine tame
  have moves {w w' : World (Backstage τ)}
      (run : Relation.ReflTransGen (MemoryStep .any (memoryClient.facing audience)) w w') :
      Relation.ReflTransGen Coordinator.Move w.coordinator w'.coordinator :=
    run_moves (memoryClient_orderly.facing _)
      (tame_routine memoryClient_orderly (memory_tame tame)) (memory_run_steps run)
  have lives : PlainSound w₁.coordinator := by
    obtain ⟨dispatcher, failFast, new⟩ := isNew.coordinator
    have fresh : PlainSound w₀.coordinator := new ▸ plainSound_new dispatcher failFast
    exact fresh.moves isNew.sound (moves before)
  have life : Plain e.id q e.listener w₂.coordinator :=
    (lives.plain q e registered plain).moves (moves later)
  obtain ⟨ds, shape⟩ := life.life
  refine ⟨fun r hr => (life.reports r hr).2, ⟨ds, ?_⟩, fun ended => ?_, fun still alive => ?_⟩
  · rcases shape with going | ⟨ended, -⟩
    · exact going ▸ List.prefix_append _ _
    · exact ended ▸ List.prefix_rfl
  · rcases shape with going | ⟨-, gone⟩
    · rw [going] at ended
      simp at ended
    · exact ⟨gone, fun w₃ run => (life.silent gone (moves run)).2⟩
  · have run := before.trans later
    obtain ⟨sane, turns⟩ := memory_run_turns routine run isNew.sane
    have kept : w₂.setting.Kept := isNew.kept_of_run tame run
    have unrefused : w₂.setting.Unrefused :=
      Setting.turns_preserve (fun _ _ _ unrefused move => unrefused.move move)
        (fun a _ _ => Setting.Unrefused.resumed a) isNew.sane (isNew.unrefused) turns
    have watched := Setting.armed_or_fired kept.watching (isNew.attempted.turns turns) unrefused
      alive still plain
    refine ⟨watched, fun quiet => ?_⟩
    have armed : w₂.outside.service.armed q .data = true := by
      refine watched.resolve_right fun sent => ?_
      rw [show w₂.setting.service.channel = [] from quiet] at sent
      cases sent
    obtain ⟨node, found⟩ := Table.contains_eq_true.1 (kept.sane.watched q .data armed)
    obtain ⟨r, last, change⟩ := life.last_of_told plain (kept.current q e node still armed found)
    exact ⟨node, r, found, armed, last, change⟩

/-- The data changes twice, once while the connection is lost; then the node is deleted, comes back
and changes again. -/
theorem plain_data_life_over_reconnection :
    let w₁ := World.blank.play [.change (.create "/a" .empty), .command (.listen "/a" "one" .data)]
    let w₂ := w₁.play [.change (.setData "/a" ⟨#[1]⟩), .handleNext, .disconnect,
      .change (.setData "/a" ⟨#[2]⟩), .command (.reconnect .ascending), .handleNext, .handleNext,
      .handleNext]
    let w₃ := w₂.play [.change (.delete "/a"), .handleNext, .change (.create "/a" .empty),
      .change (.setData "/a" ⟨#[3]⟩), .handleNext]
    ∃ e, w₁.coordinator.data.get? "/a" = some e ∧
      (∃ node r, w₂.outside.service.nodes.get? "/a" = some node ∧
        w₂.outside.service.armed "/a" .data = true ∧
        (w₂.coordinator.reportsBy e.id).getLast? = some r ∧
        r.event.change = .dataChanged node.data) ∧
      (w₃.coordinator.reportsBy e.id).getLast?.map (·.event.change) = some .deleted ∧
      ¬w₃.coordinator.Listed e.id := by
  intro w₁ w₂ w₃
  have before : Relation.ReflTransGen (MemoryStep .any (memoryClient.facing .silent)) .blank w₁ :=
    play_run (allows_any _ _)
  have later : Relation.ReflTransGen (MemoryStep .any (memoryClient.facing .silent)) w₁ w₂ :=
    play_run (allows_any _ _)
  have last : Relation.ReflTransGen (MemoryStep .any (memoryClient.facing .silent)) w₂ w₃ :=
    play_run (allows_any _ _)
  have registered : w₁.coordinator.data.get? "/a" = some ⟨0, "one", none⟩ := by decide
  have still : w₂.coordinator.data.get? "/a" = some ⟨0, "one", none⟩ := by decide
  obtain ⟨-, -, -, watched⟩ := plain_data_life .silent blank_isNew before registered rfl later
  obtain ⟨-, -, ended, -⟩ :=
    plain_data_life .silent blank_isNew before registered rfl (later.trans last)
  refine ⟨_, registered, (watched still (by decide)).2 (by decide), by decide, ?_⟩
  exact (ended (by decide)).1

end DurableWatch
