import DurableWatch.Proofs.ChildHistory
import DurableWatch.Proofs.Convergence

/-!
# Whose the data subscriptions of children are

A data subscription that a pass has made belongs to the child subscription of the parent node, and
goes when that one forgets the child or is cancelled. Only one operation can leave it without its
owner: subscribing anew to the parent replaces the owner but not what it owns. The first pass of the
new subscription takes over the children that it finds, if it watches their data; what it does not
take over stays behind.
-/
namespace DurableWatch

open World

namespace Coordinator

/-- The data subscription `e` at `q` is one of those that `s` keeps for the children of `p`. -/
structure Belongs (c : Coordinator) (q : Path) (e : DataSubscription) (p : Path)
    (s : ChildSubscription) : Prop where
  parent : q.parent? = some p
  path : p.child q.name = q
  registered : c.children.get? p = some s
  owner : e.owner? = some s.id
  watches : s.watchesChildData = true
  known : s.known.contains q.name = true
  listener : e.listener = s.listener

/-- Every data subscription that is managed by a parent belongs to the child subscription there. -/
def Owned (c : Coordinator) : Prop :=
  ∀ (q : Path) e, c.data.get? q = some e → e.parentManaged = true → ∃ p s, c.Belongs q e p s

/-- To subscribe to the children of `p` succeeds, and leaves behind a data subscription of a child
of `p` that the present owner keeps. -/
def Orphans (c : Coordinator) (service : MemoryService) (p : Path) (withData : Bool) : Prop :=
  service.alive = true ∧ service.nodes.contains p = true ∧
    ∃ (q : Path) (e : DataSubscription), c.data.get? q = some e ∧ e.parentManaged = true ∧
      q.parent? = some p ∧
      (withData = false ∨ service.nodes.contains q = false)

end Coordinator

/-- No subscription leaves behind what its predecessor owned. -/
def Rule.noOrphans : Rule := fun c service command =>
  ∀ p l withData, command = .listen p l (.children withData) → ¬c.Orphans service p withData

open Coordinator

namespace Setting

variable {rule : Rule} {a b : Setting}

/-- Data subscriptions may go, and others may come that no parent manages. -/
theorem owned_frame {c c' : Coordinator} (owned : c.Owned)
    (children : ∀ p, c'.children.get? p = c.children.get? p)
    (data : ∀ q e, c'.data.get? q = some e → e.parentManaged = true → c.data.get? q = some e) :
    c'.Owned := by
  intro q e he managed
  obtain ⟨p, s, belongs⟩ := owned q e (data q e he managed) managed
  exact ⟨p, s, { belongs with registered := (children p).trans belongs.registered }⟩

theorem owned_removeData {c : Coordinator} (owned : c.Owned) (p : Path) :
    (c.removeData p).Owned :=
  owned_frame owned (fun _ => rfl) fun _ _ he _ => Table.get?_of_erase he

/-- A pass keeps what the subscription owns in step with what it knows. What it does not own must
not lie below `p`, unless the pass takes it over. -/
theorem owned_passed {c : Coordinator} {p : Path} {s : ChildSubscription} {delivery : Delivery}
    {new : NewChildren} (sane : a.service.Sane) (passed : Passed a b c p s delivery new)
    (own : ∀ q e, c.data.get? q = some e → e.parentManaged = true →
      (∃ p' s', p' ≠ p ∧ c.Belongs q e p' s') ∨ c.Belongs q e p s ∨
        s.watchesChildData = true ∧ ∃ n ∈ a.service.childNames p, q = p.child n ∧
          s.known.contains n = false) : b.coordinator.Owned := by
  have here := passed.children p
  rw [if_pos rfl] at here
  intro (q : Path) e he managed
  rcases passed.data q with ⟨watches, ⟨n, listed, rfl⟩, id, hget⟩ | ⟨-, -, gone⟩ | ⟨same, kept⟩
  · rw [hget] at he
    cases he
    have isChild := (sane.mem_childNames_iff.1 listed).2
    refine ⟨p, _, isChild.parent, by rw [isChild.name], here, rfl, watches, ?_, rfl⟩
    rw [isChild.name]
    exact (passed.known n).2 listed
  · rw [gone] at he
    cases he
  · rw [same] at he
    rcases own q e he managed with
      ⟨p', s', hne, belongs⟩ | belongs | ⟨watches, n, listed, hq, unknown⟩
    · refine ⟨p', s', { belongs with registered := ?_ }⟩
      rw [passed.children, if_neg hne]
      exact belongs.registered
    · have still : q.name ∈ a.service.childNames p :=
        (kept belongs.watches q.name belongs.path.symm).1 belongs.known
      exact ⟨p, _, { belongs with registered := here, known := (passed.known q.name).2 still }⟩
    · rw [(kept watches n hq).2 listed] at unknown
      cases unknown

theorem owned_move (owned : a.coordinator.Owned) (sane : a.service.Sane)
    (move : Move .noOrphans a b) : b.coordinator.Owned := by
  cases move with
  | aside beside _ _ =>
    refine owned_frame owned (fun p => ?_) fun q e he _ => ?_
    · rw [beside.children]
    · rwa [beside.data] at he
  | unclaimed _ coordinator _ =>
    rw [coordinator]
    exact owned
  | reread d _ _ coordinator =>
    rw [coordinator]
    exact owned_frame owned (fun _ => rfl) fun _ _ he _ => he
  | unread _ coordinator =>
    rw [coordinator]
    exact owned
  | @ended _ p _ _ _ _ coordinator =>
    rw [coordinator]
    exact owned_frame (owned_removeData owned p) (fun _ => rfl) fun _ _ he _ => he
  | @pass _ p s _ _ passed =>
    refine owned_passed sane passed fun (q : Path) e he managed => ?_
    obtain ⟨p', s', belongs⟩ := owned q e he managed
    by_cases hp : p' = p
    · subst hp
      have registered := belongs.registered
      rw [passed.registered] at registered
      cases registered
      exact .inr (.inl belongs)
    · exact .inl ⟨p', s', hp, belongs⟩
  | @subscribe _ p l withData _ allowed passed =>
    refine owned_passed sane passed fun (q : Path) e he managed => ?_
    obtain ⟨p', s', belongs⟩ := owned q e he managed
    by_cases hp : p' = p
    · subst hp
      have there := passed.looked.present p' .children (.inl ⟨rfl, rfl⟩)
      have taken : ¬(withData = false ∨ a.service.nodes.contains q = false) := fun left =>
        allowed p' l withData rfl ⟨passed.alive, there, q, e, he, managed, belongs.parent, left⟩
      rw [not_or, Bool.not_eq_false, Bool.not_eq_false] at taken
      have isChild : p'.IsChildName q.name := by
        refine ⟨?_, ?_⟩
        · rw [belongs.path]
          exact belongs.parent
        · rw [belongs.path]
      refine .inr (.inr ⟨taken.1, q.name, ?_, belongs.path.symm, rfl⟩)
      exact sane.mem_childNames_iff.2 ⟨by rw [belongs.path]; exact taken.2, isChild⟩
    · refine .inl ⟨p', s', hp, { belongs with registered := ?_ }⟩
      simpa [addChildren, hp] using belongs.registered
  | @subscribeData _ p l d _ _ coordinator =>
    rw [coordinator]
    refine owned_frame owned (fun _ => rfl) fun q e he managed => ?_
    rcases Table.get?_of_insert he with ⟨-, rfl⟩ | before
    · cases managed
    · exact before
  | @unsubscribe p gone enough own =>
    intro (q : Path) e he managed
    rw [data_removeDataAll] at he
    split at he
    · cases he
    · next kept =>
      obtain ⟨p', s', belongs⟩ := owned q e he managed
      refine ⟨p', s', { belongs with registered := ?_ }⟩
      have hp : p' ≠ p := by
        rintro rfl
        refine kept ?_
        rw [← belongs.path]
        exact enough s' belongs.registered belongs.watches q.name belongs.known
      simpa [removeChildren, hp] using belongs.registered
  | dropChild _ _ => exact owned_removeData owned _
  | unsubscribeData _ => exact owned_removeData owned _
  | cancel _ coordinator _ _ =>
    rw [coordinator]
    exact owned

/-- A subscription that leaves something behind breaks the ownership. -/
theorem not_owned_of_orphans {p : Path} {l : Listener} {withData : Bool} {new : NewChildren}
    (numbered : Numbered a.coordinator) (owned : a.coordinator.Owned) (sane : a.service.Sane)
    (passed : Passed a b (a.coordinator.addChildren p l withData) p
      (a.coordinator.freshChildren l withData) .inline new)
    (orphans : a.coordinator.Orphans a.service p withData) : ¬b.coordinator.Owned := by
  obtain ⟨-, -, q, e, he, managed, parent, left⟩ := orphans
  intro after
  have stays : b.coordinator.data.get? q = some e := by
    rcases passed.data q with ⟨watches, ⟨n, listed, hq⟩, -⟩ | ⟨-, ⟨n, known, -⟩, -⟩ | ⟨same, -⟩
    · have there : a.service.nodes.contains q = true := by
        rw [hq]
        exact (sane.mem_childNames_iff.1 listed).1
      rcases left with without | missing
      · rw [freshChildren, without] at watches
        cases watches
      · rw [there] at missing
        cases missing
    · cases known
    · exact same.trans he
  obtain ⟨p₀, s₀, before⟩ := owned q e he managed
  obtain ⟨p₁, s₁, now⟩ := after q e stays managed
  have hp : p₁ = p := by
    have h := now.parent
    rw [parent] at h
    exact (Option.some.inj h).symm
  subst hp
  have replaced := now.registered
  rw [passed.children, if_pos rfl] at replaced
  cases replaced
  have older := numbered.children p₀ s₀ before.registered
  have same : s₀.id = a.coordinator.nextId := by
    have h := before.owner
    rw [now.owner] at h
    exact (Option.some.inj h).symm
  omega

end Setting

variable {τ : Type}

theorem deliver_silent (created deleted : List Report) (w : World (Backstage τ)) :
    (World.deliver (memoryClient.facing .silent) .inline created deleted w).2 =
      w.update (·.submitAll deleted) := by
  have told : tellAll (memoryClient.facing .silent) created w = (.ok (), w) := by
    induction created with
    | nil => rfl
    | cons r rs ih => exact ih
  unfold World.deliver
  dsimp only
  rw [told]

theorem owned_new (dispatcher : Dispatcher) (failFast : Bool) :
    (Coordinator.new dispatcher failFast).Owned := by
  intro q e he
  cases he

/-- The data subscriptions of children belong to the child subscriptions of their parents, as long
as no subscription leaves any of them behind. The first one that does breaks this: whoever manages
what it leaves behind is no longer there. -/
theorem owned_until_orphaned {audience : Audience (Backstage τ)}
    (tame : Tame memoryClient (MemoryStep .noOrphans) audience) {w₀ w : World (Backstage τ)}
    (isNew : w₀.IsNew)
    (run : Relation.ReflTransGen (MemoryStep .noOrphans (memoryClient.facing audience)) w₀ w) :
    w.coordinator.Owned ∧ ∀ p l withData, w.coordinator.Orphans w.outside.service p withData →
      ¬(w.listen (memoryClient.facing .silent) p l (.children withData)).2.coordinator.Owned := by
  obtain ⟨sane, turns⟩ := memory_run_turns (memory_tame_routine tame) run isNew.sane
  obtain ⟨dispatcher, failFast, new⟩ := isNew.coordinator
  have owned₀ : w₀.coordinator.Owned := new ▸ owned_new dispatcher failFast
  have owned : w.setting.coordinator.Owned :=
    Setting.turns_preserve (I := fun a => a.coordinator.Owned)
      (fun _ _ sane owned move => Setting.owned_move owned sane move)
      (fun _ _ owned => owned) isNew.sane owned₀ turns
  have sound : w.coordinator.Sound := by
    have start : w₀.coordinator.Sound := new ▸ sound_new dispatcher failFast
    have orderly := memoryClient_orderly (τ := τ)
    exact start.moves (run_moves (orderly.facing audience) (tame_routine orderly (memory_tame tame))
      (memory_run_steps run))
  refine ⟨owned, fun p l withData orphans => ?_⟩
  have ⟨alive, there, _⟩ := orphans
  obtain ⟨new, created, deleted, w', passed, h⟩ := register_children_passed .silent l withData
    (w := w.noting w.outside.service (.existence p) true) sane alive there
  rw [listen_of_there .silent l _ alive there, h, deliver_silent]
  have broken : ¬w'.coordinator.Owned :=
    Setting.not_owned_of_orphans (a := (w.noting w.outside.service (.existence p) true).setting)
      sound.numbered owned sane passed orphans
  have beside := beside_submitAll w'.coordinator deleted
  intro after
  refine broken (Setting.owned_frame after (fun p => ?_) fun q e he _ => ?_)
  · exact congrArg (Table.get? · p) beside.children.symm
  · rw [← beside.data] at he
    exact he

/-- A child whose data is watched, and then a new subscription to its parent that leaves the data
of children alone. -/
theorem owned_until_replaced :
    let w := World.blank.play [.change (.create "/a" .empty), .change (.create "/a/c" .empty),
      .command (.listen "/a" "old" (.children true)), .change (.setData "/a/c" .empty), .handleNext]
    w.coordinator.Owned ∧ ¬(w.listen (memoryClient.facing .silent) "/a" "new"
      (.children false)).2.coordinator.Owned := by
  intro w
  have run : Relation.ReflTransGen (MemoryStep .noOrphans (memoryClient.facing .silent))
      .blank w := by
    refine play_run ⟨nofun, nofun, ?_, nofun, nofun, trivial⟩
    -- there is nothing yet to be left behind
    rintro command - p l withData rfl ⟨-, -, q, e, he, -⟩
    cases he
  obtain ⟨owned, breaks⟩ := owned_until_orphaned .silent blank_isNew run
  refine ⟨owned, breaks "/a" "new" false ⟨by decide, by decide, "/a/c", ?_⟩⟩
  have watched : (w.coordinator.data.get? "/a/c").any (·.parentManaged) = true := by decide
  obtain ⟨e, he, managed⟩ := (Option.any_eq_true _ _).1 watched
  exact ⟨e, he, managed, by decide, .inl rfl⟩

/-- The listener that was replaced still hears of the child. -/
theorem replaced_listener_still_told :
    let w := World.blank.play [.change (.create "/a" .empty), .change (.create "/a/c" .empty),
      .command (.listen "/a" "old" (.children true)),
      .command (.listen "/a" "new" (.children false)), .change (.setData "/a/c" .empty),
      .handleNext]
    (w.coordinator.children.get? "/a").map (·.listener) = some "new" ∧
      w.coordinator.dispatcher.pending = [⟨"old", ⟨"/a/c", .dataChanged .empty⟩⟩] := by
  decide

end DurableWatch
