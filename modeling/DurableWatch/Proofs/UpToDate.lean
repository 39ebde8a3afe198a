import DurableWatch.Proofs.ChildHistory
import DurableWatch.Proofs.Convergence

/-!
# An armed watch and what its subscriber has heard

While a watch is armed, its subscriber is up to date: a change of the tree fires every watch on what
it changes, and a read that arms a watch has its answer reported in the same move. For a child list
what is known is what the service lists. For the data of a node the last report carries the data
that the node has: the change of data that the subscription reported last, or the creation reported
by the pass that made the subscription.
-/
namespace DurableWatch

open World Coordinator

/-! ### The last report on a node -/

namespace Coordinator

variable {c c' : Coordinator} {p q : Path} {e : DataSubscription} {d : Data}

/-- The last report on the node at `q` by the subscription with this number, or by those that it
has made for children. -/
def lastReport? (c : Coordinator) (family : Nat) (q : Path) : Option Report :=
  (c.journal.filter fun r => r.family == family && r.event.path == q).getLast?

/-- The last that was heard of the node at `q` through `e` is this data: from `e` itself, or from
the pass that made it. -/
def LastTold (c : Coordinator) (q : Path) (e : DataSubscription) (d : Data) : Prop :=
  ∃ r, c.lastReport? e.family q = some r ∧
    (r.subscription = e.id ∧ r.event.change = .dataChanged d ∨
      e.owner? = some r.subscription ∧ r.event.change = .created d)

theorem lastReport?_others {rs : List Report} (h : c'.journal = c.journal ++ rs) {family : Nat}
    (others : ∀ r ∈ rs, r.family ≠ family ∨ r.event.path ≠ q) :
    c'.lastReport? family q = c.lastReport? family q := by
  have none : (rs.filter fun r => r.family == family && r.event.path == q) = [] := by
    rw [List.filter_eq_nil_iff]
    intro r hr
    rcases others r hr with hne | hne <;> simp [hne]
  rw [lastReport?, h, List.filter_append, none, List.append_nil, lastReport?]

theorem lastReport?_of_single {rs : List Report} {r : Report} {family : Nat}
    (h : c'.journal = c.journal ++ rs)
    (only : (rs.filter fun r => r.family == family && r.event.path == q) = [r]) :
    c'.lastReport? family q = some r := by
  rw [lastReport?, h, List.filter_append, only, List.getLast?_concat]

theorem LastTold.congr (told : c.LastTold q e d)
    (same : c'.lastReport? e.family q = c.lastReport? e.family q) : c'.LastTold q e d := by
  obtain ⟨r, last, carries⟩ := told
  exact ⟨r, same.trans last, carries⟩

/-- A subscription that has just reported has been heard last. -/
theorem lastTold_of_report (h : c'.journal = c.journal ++ [e.report ⟨q, .dataChanged d⟩]) :
    c'.LastTold q e d := by
  have only : ([e.report ⟨q, .dataChanged d⟩].filter fun r =>
      r.family == e.family && r.event.path == q) = [e.report ⟨q, .dataChanged d⟩] := by
    simp [DataSubscription.report, DataSubscription.family]
  exact ⟨_, lastReport?_of_single h only, .inl ⟨rfl, rfl⟩⟩

/-- A pass reports one creation of each child that it has found, and nothing else of it. -/
theorem lastReport?_found {s : ChildSubscription} (delivery : Delivery) {snapshot : List String}
    {new : NewChildren} (covers : new.Covers (ChildDiff.between s.known snapshot).created)
    {n : String} (found : n ∈ new.found.map Prod.fst) :
    ∃ d, (n, d) ∈ new.found ∧
      (c.absorb p s delivery (ChildDiff.between s.known snapshot) new).lastReport? s.id
        (p.child n) = some (s.report delivery ⟨p.child n, .created d⟩) := by
  have distinct : (new.found.map Prod.fst).Nodup :=
    covers.found_nodup (ChildDiff.created_nodup _ _)
  obtain ⟨d, hd⟩ := filter_key_of_mem distinct found
  have member : (n, d) ∈ new.found := by
    have h : (n, d) ∈ new.found.filter fun e => e.1 == n := by
      rw [hd]
      exact List.mem_singleton_self _
    exact (List.mem_filter.1 h).1
  have created : ((s.createdReports p delivery new.found).filter fun r =>
      r.family == s.id && r.event.path == p.child n) =
        [s.report delivery ⟨p.child n, .created d⟩] := by
    have keys : ((fun r : Report => r.family == s.id && r.event.path == p.child n) ∘
        fun e : String × Data => s.report delivery ⟨p.child e.1, .created e.2⟩) =
          fun e => e.1 == n := by
      funext e
      rw [Bool.eq_iff_iff]
      simp [ChildSubscription.report]
    rw [ChildSubscription.createdReports, List.filter_map, keys, hd]
    rfl
  have listed : n ∈ snapshot := (ChildDiff.mem_created.1 (covers.mem_found.1 found).1).1
  have deleted : ((s.deletedReports ((ChildDiff.between s.known snapshot).deleted.map
      p.child)).filter fun r => r.family == s.id && r.event.path == p.child n) = [] := by
    rw [List.filter_eq_nil_iff]
    intro r hr hit
    obtain ⟨q, hq, rfl⟩ := List.mem_map.1 hr
    obtain ⟨m, hm, rfl⟩ := List.mem_map.1 hq
    obtain rfl : m = n := by simpa [ChildSubscription.report] using hit
    exact (ChildDiff.mem_deleted.1 hm).2 listed
  refine ⟨d, member, lastReport?_of_single (journal_absorb delivery _ new) ?_⟩
  rw [List.filter_append, created, deleted, List.append_nil]

theorem moves_removeDataAll (c : Coordinator) (qs : List Path) :
    Relation.ReflTransGen Coordinator.Move c (c.removeDataAll qs) := by
  induction qs generalizing c with
  | nil => exact .refl
  | cons q qs ih => exact .head (.removeData c q) (ih (c.removeData q))

end Coordinator

namespace Setting

variable {rule : Rule} {a b : Setting} {p : Path} {kind : WatchKind}

/-- What a move does to the coordinator is what any client can bring about. -/
theorem Move.coordinator_moves (move : Move rule a b) :
    Relation.ReflTransGen Coordinator.Move a.coordinator b.coordinator := by
  cases move with
  | aside beside _ _ =>
    exact .single (.aside beside.children beside.data beside.nextId beside.journal)
  | unclaimed _ coordinator _ =>
    rw [coordinator]
  | reread d registered _ coordinator _ =>
    rw [coordinator]
    exact .single (.reread d registered)
  | unread _ coordinator =>
    rw [coordinator]
  | ended registered plain _ coordinator =>
    rw [coordinator, ← removeDataIf_of_get? registered]
    exact .single (.ended registered plain)
  | pass passed =>
    rw [passed.coordinator]
    exact .single (.pass _ _ _ passed.registered passed.covers)
  | @subscribe _ p l withData _ _ passed =>
    rw [passed.coordinator]
    exact .head (.addChildren _ p l withData)
      (.single (.pass _ _ _ passed.registered passed.covers))
  | @subscribeData _ p l d _ _ coordinator _ =>
    rw [coordinator]
    refine .head (.addData _ p l) (.single (.reread d ?_))
    simp [addData]
  | @unsubscribe p gone _ _ =>
    exact .head (.removeChildren _ p) (moves_removeDataAll _ gone)
  | @dropChild p n _ _ => exact .single (.removeData _ _)
  | @unsubscribeData p _ => exact .single (.removeData _ p)
  | cancel _ coordinator _ _ =>
    rw [coordinator]

theorem sound_move (sound : a.coordinator.Sound) (move : Move rule a b) : b.coordinator.Sound :=
  sound.moves move.coordinator_moves

/-- While the data of a node is watched, the last that was heard of it is the data it has. -/
def Current (a : Setting) : Prop :=
  ∀ (q : Path) e n, a.coordinator.data.get? q = some e → a.service.armed q .data = true →
    a.service.nodes.get? q = some n → a.coordinator.LastTold q e n.data

/-- No watch is armed, no node that is watched changes, and nothing is reported. -/
theorem Current.frame (current : Current a)
    (data : ∀ q e, b.coordinator.data.get? q = some e → a.coordinator.data.get? q = some e)
    (last : ∀ q e, b.coordinator.data.get? q = some e →
      b.coordinator.lastReport? e.family q = a.coordinator.lastReport? e.family q)
    (unarms : ∀ q, b.service.armed q .data = true → a.service.armed q .data = true)
    (reads : ∀ q, b.service.armed q .data = true →
      b.service.nodes.get? q = a.service.nodes.get? q) : Current b := by
  intro q e n he armed found
  rw [reads q armed] at found
  have told : a.coordinator.LastTold q e n.data :=
    current q e n (data q e he) (unarms q armed) found
  exact told.congr (last q e he)

theorem lastReport?_of_journal {c c' : Coordinator} (h : c'.journal = c.journal) (family : Nat)
    (q : Path) : c'.lastReport? family q = c.lastReport? family q := by
  rw [lastReport?, lastReport?, h]

/-- The data is read and reported in one move. -/
theorem Current.reported (current : Current a) {e : DataSubscription} {d : Data}
    (looked : Looked a b fun q k => q = p ∧ k = .data)
    (own : b.coordinator.data.get? p = some e)
    (data : ∀ q, q ≠ p → b.coordinator.data.get? q = a.coordinator.data.get? q)
    (journal : b.coordinator.journal = a.coordinator.journal ++ [e.report ⟨p, .dataChanged d⟩])
    (read : (a.service.nodes.get? p).map Node.data = some d) : Current b := by
  intro q e' n he' armed found
  rw [looked.nodes] at found
  by_cases hq : q = p
  · subst hq
    rw [own] at he'
    cases he'
    obtain rfl : n.data = d := by
      rw [found] at read
      exact Option.some.inj read
    exact lastTold_of_report journal
  · rw [data q hq] at he'
    have before : a.service.armed q .data = true := by
      rcases (looked.armed q .data).1 armed with before | ⟨same, -⟩
      · exact before
      · exact absurd same hq
    have told : a.coordinator.LastTold q e' n.data := current q e' n he' before found
    refine told.congr (lastReport?_others journal fun r hr => .inr ?_)
    obtain rfl := List.mem_singleton.1 hr
    exact fun same => hq same.symm

/-- A pass reports of the children that it found or missed, and so of no subscription that it
leaves as it is. -/
theorem lastReport?_passed {c : Coordinator} {s : ChildSubscription} {delivery : Delivery}
    {new : NewChildren} (passed : Passed a b c p s delivery new) (sound : c.Sound) {q : Path}
    {e : DataSubscription} (registered : c.data.get? q = some e)
    (kept : s.watchesChildData = true → ∀ n, q = p.child n →
      (s.known.contains n = true ↔ n ∈ a.service.childNames p)) :
    b.coordinator.lastReport? e.family q = c.lastReport? e.family q := by
  have journal := journal_absorb (c := c) (p := p) (s := s) delivery
    (ChildDiff.between s.known (a.service.childNames p)) new
  rw [← passed.coordinator] at journal
  refine lastReport?_others journal fun r hr => ?_
  by_cases own : e.family = s.id
  · have tracks : Tracks s.id p s.watchesChildData c := sound.tracks p s passed.registered
    have watches : s.watchesChildData = true := (tracks.managed q e registered own).1
    refine .inr fun hq => ?_
    rcases List.mem_append.1 hr with hr | hr
    · obtain ⟨f, hf, rfl⟩ := List.mem_map.1 hr
      have found : f.1 ∈ new.found.map Prod.fst := List.mem_map_of_mem hf
      obtain ⟨listed, unknown⟩ := passed.mem_found.1 found
      rw [(kept watches f.1 hq.symm).2 listed] at unknown
      cases unknown
    · obtain ⟨gone, hgone, rfl⟩ := List.mem_map.1 hr
      obtain ⟨m, hm, rfl⟩ := List.mem_map.1 hgone
      obtain ⟨known, unlisted⟩ := ChildDiff.mem_deleted.1 hm
      exact unlisted ((kept watches m hq.symm).1 known)
  · refine .inl fun same => own ?_
    rw [← same]
    exact family_of_pass hr

theorem Current.passed {c : Coordinator} {s : ChildSubscription} {delivery : Delivery}
    {new : NewChildren} (current : Current a) (passed : Passed a b c p s delivery new)
    (sound : c.Sound) (data : c.data = a.coordinator.data)
    (journal : c.journal = a.coordinator.journal) : Current b := by
  intro q e n he armed found
  rw [passed.looked.nodes] at found
  rcases passed.entry q with
    ⟨watches, ⟨m, listed, unknown, rfl⟩, id, -, hget⟩ | ⟨-, -, gone⟩ | ⟨same, kept⟩
  · rw [hget] at he
    cases he
    obtain ⟨d, member, last⟩ := lastReport?_found (c := c) (p := p) delivery passed.covers
      (passed.mem_found.2 ⟨listed, unknown⟩)
    obtain rfl : n.data = d := by
      have read := passed.read (m, d) member
      rw [found] at read
      exact Option.some.inj read
    rw [← passed.coordinator] at last
    exact ⟨_, last, .inr ⟨rfl, rfl⟩⟩
  · rw [gone] at he
    cases he
  · rw [same] at he
    have before : a.service.armed q .data = true := by
      rcases (passed.looked.armed q .data).1 armed with before | ⟨-, h⟩ | ⟨watches, -, m, hm, hq⟩
      · exact before
      · cases h
      · obtain ⟨listed, unknown⟩ := ChildDiff.mem_created.1 hm
        rw [(kept watches m hq).2 listed] at unknown
        cases unknown
    have told : a.coordinator.LastTold q e n.data := current q e n (data ▸ he) before found
    refine told.congr ?_
    rw [lastReport?_passed passed sound he kept]
    exact lastReport?_of_journal journal e.family q

theorem Current.move (current : Current a) (sound : a.coordinator.Sound) (move : Move rule a b) :
    Current b := by
  cases move with
  | aside beside edited _ =>
    refine current.frame (fun q e he => ?_) (fun q e _ => ?_) (fun q => edited.unarms q .data)
      edited.reads
    · rwa [beside.data] at he
    · exact lastReport?_of_journal beside.journal e.family q
  | unclaimed taken coordinator _ =>
    refine current.frame (fun q e he => ?_) (fun q e _ => by rw [coordinator]) (fun q armed => ?_)
      fun q _ => by rw [taken.nodes]
    · rwa [coordinator] at he
    · rwa [taken.armed] at armed
  | @reread _ p e d registered looked coordinator read =>
    refine current.reported (e := e) looked ?_ (fun q _ => ?_) ?_ read
    · rw [coordinator]
      exact registered
    · rw [coordinator]
      rfl
    · rw [coordinator]
      rfl
  | unread missed coordinator =>
    refine current.frame (fun q e he => ?_) (fun q e _ => by rw [coordinator]) (fun q armed => ?_)
      fun q _ => by rw [missed.nodes]
    · rwa [coordinator] at he
    · rwa [missed.armed] at armed
  | @ended _ p e registered _ missed coordinator =>
    have left (q : Path) (e' : DataSubscription) (he' : b.coordinator.data.get? q = some e') :
        q ≠ p ∧ a.coordinator.data.get? q = some e' := by
      rw [coordinator] at he'
      have kept : (a.coordinator.data.erase p).get? q = some e' := he'
      refine ⟨?_, Table.get?_of_erase kept⟩
      rintro rfl
      simp at kept
    refine current.frame (fun q e' he' => (left q e' he').2) (fun q e' he' => ?_)
      (fun q armed => ?_) fun q _ => by rw [missed.nodes]
    · have journal : b.coordinator.journal =
          a.coordinator.journal ++ [e.report ⟨p, .deleted⟩] := by
        rw [coordinator]
        rfl
      refine lastReport?_others journal fun r hr => .inr ?_
      obtain rfl := List.mem_singleton.1 hr
      exact fun same => (left q e' he').1 same.symm
    · rwa [missed.armed] at armed
  | pass passed => exact current.passed passed sound rfl rfl
  | @subscribe _ p l withData _ _ passed =>
    exact current.passed passed (sound.move (.addChildren _ p l withData)) rfl rfl
  | @subscribeData _ p l d _ looked coordinator read =>
    refine current.reported (e := a.coordinator.freshData l none) looked ?_ (fun q hq => ?_) ?_ read
    · rw [coordinator]
      simp [record, addData]
    · rw [coordinator]
      simp [record, addData, hq]
    · rw [coordinator]
      rfl
  | @unsubscribe p gone _ _ =>
    refine current.frame (fun q e he => ?_) (fun q e _ => ?_) (fun _ armed => armed) fun _ _ => rfl
    · rw [data_removeDataAll] at he
      split at he
      · cases he
      · exact he
    · exact lastReport?_of_journal (journal_removeDataAll _ gone) e.family q
  | dropChild _ _ =>
    exact current.frame (fun q e he => Table.get?_of_erase he) (fun _ _ _ => rfl)
      (fun _ armed => armed) fun _ _ => rfl
  | unsubscribeData _ =>
    exact current.frame (fun q e he => Table.get?_of_erase he) (fun _ _ _ => rfl)
      (fun _ armed => armed) fun _ _ => rfl
  | cancel _ coordinator service _ =>
    refine current.frame (fun q e he => ?_) (fun q e _ => by rw [coordinator]) (fun q armed => ?_)
      fun q _ => by rw [service, MemoryService.nodes_disarm]
    · rwa [coordinator] at he
    · rw [service, MemoryService.armed_disarm] at armed
      exact armed.1

theorem Current.resumed (current : Current a) : Current a.resumed := by
  refine current.frame (fun _ _ he => he) (fun _ _ _ => rfl) (fun q armed => ?_) fun q _ => ?_
  · rwa [Setting.resumed, MemoryService.armed_reconnect] at armed
  · rw [Setting.resumed, MemoryService.nodes_reconnect]

/-- What is known of every setting that a run leads to. -/
structure Kept (a : Setting) : Prop where
  sane : a.service.Sane
  watching : a.Watching
  faithful : a.Faithful
  sound : a.coordinator.Sound
  current : a.Current

theorem Kept.move (kept : Kept a) (move : Move rule a b) : Kept b where
  sane := move.sane kept.sane
  watching := kept.watching.move kept.sane move
  faithful := kept.faithful.move kept.sane move
  sound := sound_move kept.sound move
  current := kept.current.move kept.sound move

theorem Kept.resumed (kept : Kept a) : Kept a.resumed where
  sane := sane_reconnect kept.sane
  watching := .resumed a
  faithful := kept.faithful.resumed
  sound := kept.sound
  current := kept.current.resumed

end Setting

/-! ### From the start of a session -/

variable {τ : Type} {w : World (Backstage τ)}

theorem World.IsNew.sound (isNew : w.IsNew) : w.coordinator.Sound := by
  obtain ⟨dispatcher, failFast, h⟩ := isNew.coordinator
  exact h ▸ sound_new dispatcher failFast

theorem World.IsNew.current (isNew : w.IsNew) : w.setting.Current := by
  obtain ⟨dispatcher, failFast, h⟩ := isNew.coordinator
  intro q e n he
  rw [setting, h] at he
  cases he

theorem World.IsNew.kept (isNew : w.IsNew) : w.setting.Kept :=
  ⟨isNew.sane, isNew.watching, isNew.faithful, isNew.sound, isNew.current⟩

theorem World.IsNew.kept_of_run {rule : Rule} {audience : Audience (Backstage τ)}
    (tame : Tame memoryClient (MemoryStep rule) audience) {w₀ : World (Backstage τ)}
    (isNew : w₀.IsNew)
    (run : Relation.ReflTransGen (MemoryStep rule (memoryClient.facing audience)) w₀ w) :
    w.setting.Kept :=
  Setting.turns_preserve (fun _ _ _ kept move => kept.move move) (fun _ _ kept => kept.resumed)
    isNew.sane isNew.kept (memory_run_turns (memory_tame_routine tame) run isNew.sane).2

/-- Where a watch is armed, its subscriber is up to date. A child subscription knows the children
that the service lists, and what was last heard through a data subscription, from itself or from the
pass that made it, is the data of the node. -/
theorem armed_up_to_date {audience : Audience (Backstage τ)}
    (tame : Tame memoryClient (MemoryStep .any) audience) {w₀ w : World (Backstage τ)}
    (isNew : w₀.IsNew)
    (run : Relation.ReflTransGen (MemoryStep .any (memoryClient.facing audience)) w₀ w) :
    (∀ (p : Path) s, w.coordinator.children.get? p = some s →
        w.outside.service.armed p .children = true →
        ∀ n, s.known.contains n = true ↔ n ∈ w.outside.service.childNames p) ∧
      ∀ (q : Path) e, w.coordinator.data.get? q = some e → w.outside.service.armed q .data = true →
        ∃ node, w.outside.service.nodes.get? q = some node ∧
          w.coordinator.LastTold q e node.data := by
  have kept : w.setting.Kept := isNew.kept_of_run tame run
  refine ⟨kept.faithful.current, fun q e he armed => ?_⟩
  obtain ⟨node, found⟩ := Table.contains_eq_true.1 (kept.sane.watched q .data armed)
  exact ⟨node, found, kept.current q e node he armed found⟩

/-- A child that appears while the connection is lost, and whose data changes after it is back. -/
theorem up_to_date_after_reconnection :
    let w := World.blank.play [.change (.create "/a" .empty),
      .command (.listen "/a" "one" (.children true)), .disconnect,
      .change (.create "/a/c" .empty), .command (.reconnect .ascending),
      .change (.setData "/a/c" ⟨#[1]⟩), .handleNext, .handleNext, .handleNext, .handleNext]
    (∃ s, w.coordinator.children.get? "/a" = some s ∧
        ∀ n, s.known.contains n = true ↔ n ∈ w.outside.service.childNames "/a") ∧
      ∃ e, w.coordinator.data.get? "/a/c" = some e ∧ w.coordinator.LastTold "/a/c" e ⟨#[1]⟩ := by
  intro w
  have run : Relation.ReflTransGen (MemoryStep .any (memoryClient.facing .silent)) .blank w :=
    play_run (allows_any _ _)
  obtain ⟨current, read⟩ := armed_up_to_date .silent blank_isNew run
  have watching : (w.coordinator.children.get? "/a").isSome = true := by decide
  have following : (w.coordinator.data.get? "/a/c").isSome = true := by decide
  obtain ⟨s, hs⟩ := Option.isSome_iff_exists.1 watching
  obtain ⟨e, he⟩ := Option.isSome_iff_exists.1 following
  obtain ⟨node, found, told⟩ := read "/a/c" e he (by decide)
  have data : (w.outside.service.nodes.get? "/a/c").map Node.data = some ⟨#[1]⟩ := by decide
  have same : node.data = ⟨#[1]⟩ := by
    rw [found] at data
    exact Option.some.inj data
  exact ⟨⟨s, hs, current "/a" s hs (by decide)⟩, e, he, same ▸ told⟩

end DurableWatch
