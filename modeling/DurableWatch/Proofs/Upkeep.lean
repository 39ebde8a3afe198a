import DurableWatch.Proofs.MemoryMoves

/-!
# The moves that keep subscriptions up

Handling a notification and recovering after a reconnection make a few of the moves only: watched
reads, passes, and new nodes. None of them subscribes or unsubscribes anyone, and no node goes or
changes, so a node that is there stays within reach of every later read.
-/
namespace DurableWatch

open World Coordinator

namespace MemoryService

variable {s s' : MemoryService}

/-- Nodes may have come, and none has gone or changed. -/
structure Grown (s s' : MemoryService) : Prop where
  alive : s'.alive = s.alive
  kept : ∀ q n, s.nodes.get? q = some n → s'.nodes.get? q = some n

theorem Grown.of_nodes (nodes : s'.nodes = s.nodes) (alive : s'.alive = s.alive) : Grown s s' :=
  ⟨alive, fun q n found => by rwa [nodes]⟩

theorem Grown.refl (s : MemoryService) : Grown s s := .of_nodes rfl rfl

theorem Grown.trans {s₁ s₂ s₃ : MemoryService} (h : Grown s₁ s₂) (h' : Grown s₂ s₃) :
    Grown s₁ s₃ :=
  ⟨h'.alive.trans h.alive, fun q n found => h'.kept q n (h.kept q n found)⟩

theorem Grown.contains (grown : Grown s s') {q : Path} (there : s.nodes.contains q = true) :
    s'.nodes.contains q = true := by
  obtain ⟨n, found⟩ := Table.contains_eq_true.1 there
  exact Table.contains_of_get? (grown.kept q n found)

/-- A new node stands in the place of none. -/
theorem grown_createNode (s : MemoryService) (p : Path) (node : Node) :
    Grown s (s.createNode p node).2 := by
  unfold createNode
  split
  · exact .refl s
  · next parent site =>
    have fired := fired_fire { s with nodes := s.nodes.insert p node } parent .children
    refine ⟨fired.alive, fun q n found => ?_⟩
    have hq : q ≠ p := by
      rintro rfl
      have absent := (creationSite_ok site).2.1
      rw [Table.contains_of_get? found] at absent
      cases absent
    rw [fired.nodes]
    simpa [hq] using found

end MemoryService

/-- The subscription, whatever it knows. -/
def ChildSubscription.face (s : ChildSubscription) : ChildSubscription := { s with known := ∅ }

theorem ChildSubscription.watches_of_face {s s' : ChildSubscription} (same : s.face = s'.face) :
    s.watchesChildData = s'.watchesChildData := (ChildSubscription.mk.inj same).2.2.1

namespace Setting

inductive Upkeep : Setting → Setting → Prop
  | aside {a b : Setting} (beside : a.coordinator.Beside b.coordinator)
      (stubborn : b.coordinator.stubborn = a.coordinator.stubborn)
      (edited : a.service.Edited b.service) (grown : a.service.Grown b.service)
      (tries : ∀ q k, b.lastTry q k = a.lastTry q k) : Upkeep a b
  | unclaimed {a b : Setting} {note : Notification} (taken : Taken a note b)
      (coordinator : b.coordinator = a.coordinator)
      (noOne : ∀ q k, note = .watch q k → a.subscribed q k = false) : Upkeep a b
  | reread {a b : Setting} {p : Path} {e : DataSubscription} (d : Data)
      (registered : a.coordinator.data.get? p = some e)
      (looked : Looked a b fun q k => q = p ∧ k = .data)
      (coordinator : b.coordinator = a.coordinator.record [e.report ⟨p, .dataChanged d⟩])
      (read : (a.service.nodes.get? p).map Node.data = some d) : Upkeep a b
  | unread {a b : Setting} {p : Path} {kind : WatchKind} (missed : Missed a b p kind)
      (coordinator : b.coordinator = a.coordinator)
      (managed : a.service.alive = true → kind = .data →
        ∀ e, a.coordinator.data.get? p = some e → e.owner? ≠ none) : Upkeep a b
  | ended {a b : Setting} {p : Path} {e : DataSubscription}
      (registered : a.coordinator.data.get? p = some e) (plain : e.owner? = none)
      (missed : Missed a b p .data)
      (coordinator : b.coordinator =
        (a.coordinator.removeData p).record [e.report ⟨p, .deleted⟩]) : Upkeep a b
  | pass {a b : Setting} {p : Path} {s : ChildSubscription} {delivery : Delivery}
      {new : NewChildren} (passed : Passed a b a.coordinator p s delivery new) : Upkeep a b

variable {a b : Setting}

theorem Upkeep.move (rule : Rule) (upkeep : Upkeep a b) : Move rule a b := by
  cases upkeep with
  | aside beside _ edited _ tries => exact .aside beside edited tries
  | unclaimed taken coordinator noOne => exact .unclaimed taken coordinator noOne
  | reread d registered looked coordinator read =>
    exact .reread d registered looked coordinator read
  | unread missed coordinator managed => exact .unread missed coordinator managed
  | ended registered plain missed coordinator => exact .ended registered plain missed coordinator
  | pass passed => exact .pass passed

theorem upkeep_moves (rule : Rule) (upkeep : Relation.ReflTransGen Upkeep a b) :
    Relation.ReflTransGen (Move rule) a b := upkeep.lift id fun _ _ step => step.move rule

theorem upkeep_sane (upkeep : Relation.ReflTransGen Upkeep a b) (sane : a.service.Sane) :
    b.service.Sane := moves_sane (upkeep_moves .any upkeep) sane

theorem upkeep_preserve {I : Setting → Prop}
    (step : ∀ a b, a.service.Sane → I a → Upkeep a b → I b) (sane : a.service.Sane) (holds : I a)
    (upkeep : Relation.ReflTransGen Upkeep a b) : I b := by
  induction upkeep with
  | refl => exact holds
  | tail before last ih => exact step _ _ (upkeep_sane before sane) ih last

theorem upkeep_view {β : Type} (view : Setting → β)
    (step : ∀ {a b}, Upkeep a b → view b = view a) (upkeep : Relation.ReflTransGen Upkeep a b) :
    view b = view a := by
  induction upkeep with
  | refl => rfl
  | tail _ last ih => exact (step last).trans ih

theorem Looked.grown {seen : Path → WatchKind → Prop} (looked : Looked a b seen) :
    a.service.Grown b.service := .of_nodes looked.nodes looked.alive

theorem Missed.grown {p : Path} {kind : WatchKind} (missed : Missed a b p kind) :
    a.service.Grown b.service := .of_nodes missed.nodes missed.alive

theorem Upkeep.grown (upkeep : Upkeep a b) : a.service.Grown b.service := by
  cases upkeep with
  | aside _ _ _ grown _ => exact grown
  | unclaimed taken _ _ => exact .of_nodes taken.nodes taken.alive
  | reread d _ looked _ _ => exact looked.grown
  | unread missed _ _ => exact missed.grown
  | ended _ _ missed _ => exact missed.grown
  | pass passed => exact passed.looked.grown

theorem upkeep_grown (upkeep : Relation.ReflTransGen Upkeep a b) : a.service.Grown b.service := by
  induction upkeep with
  | refl => exact .refl _
  | tail _ step ih => exact ih.trans step.grown

theorem Upkeep.stubborn (upkeep : Upkeep a b) :
    b.coordinator.stubborn = a.coordinator.stubborn := by
  cases upkeep with
  | aside _ stubborn _ _ _ => exact stubborn
  | unclaimed _ coordinator _ => rw [coordinator]
  | reread d _ _ coordinator _ => rw [coordinator]; rfl
  | unread _ coordinator _ => rw [coordinator]
  | ended _ _ _ coordinator => rw [coordinator]; rfl
  | pass passed => rw [passed.coordinator, stubborn_absorb]

theorem upkeep_stubborn (upkeep : Relation.ReflTransGen Upkeep a b) :
    b.coordinator.stubborn = a.coordinator.stubborn :=
  upkeep_view (fun a => a.coordinator.stubborn) Upkeep.stubborn upkeep

/-- Only a pass changes what is known of children. -/
theorem Upkeep.children_or_passed (upkeep : Upkeep a b) :
    b.coordinator.children = a.coordinator.children ∨
      ∃ p s delivery new, Passed a b a.coordinator p s delivery new := by
  cases upkeep with
  | aside beside _ _ _ _ => exact .inl beside.children
  | unclaimed _ coordinator _ => exact .inl (by rw [coordinator])
  | reread d _ _ coordinator _ => exact .inl (by rw [coordinator]; rfl)
  | unread _ coordinator _ => exact .inl (by rw [coordinator])
  | ended _ _ _ coordinator => exact .inl (by rw [coordinator]; rfl)
  | pass passed => exact .inr ⟨_, _, _, _, passed⟩

/-- No one subscribes to the children of a node or ceases to; only what is known changes. -/
theorem Upkeep.faces (upkeep : Upkeep a b) (p : Path) :
    (b.coordinator.children.get? p).map ChildSubscription.face =
      (a.coordinator.children.get? p).map ChildSubscription.face := by
  rcases upkeep.children_or_passed with same | ⟨q, s, delivery, new, passed⟩
  · rw [same]
  · rw [passed.children]
    split
    · next hp =>
      subst hp
      rw [passed.registered]
      rfl
    · rfl

theorem upkeep_faces (upkeep : Relation.ReflTransGen Upkeep a b) (p : Path) :
    (b.coordinator.children.get? p).map ChildSubscription.face =
      (a.coordinator.children.get? p).map ChildSubscription.face :=
  upkeep_view (fun a => (a.coordinator.children.get? p).map ChildSubscription.face)
    (fun step => step.faces p) upkeep

/-- A child subscription that is there after upkeep was there before, whatever it knew then. -/
theorem upkeep_former (upkeep : Relation.ReflTransGen Upkeep a b) {p : Path}
    {s' : ChildSubscription} (after : b.coordinator.children.get? p = some s') :
    ∃ s, a.coordinator.children.get? p = some s ∧ s.face = s'.face := by
  have same := upkeep_faces upkeep p
  rw [after, Option.map_some] at same
  exact Option.map_eq_some_iff.1 same.symm

end Setting

end DurableWatch
