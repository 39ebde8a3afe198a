import DurableWatch.Proofs.PassEffect
import DurableWatch.Proofs.Routine

/-!
# What any operation can do to the coordinator

Whatever the client answers, an operation changes pools and journal by a few kinds of moves only.
An invariant of the coordinator is therefore proved once for each kind of move, and holds then
along every run, callbacks of listeners included.
-/
namespace DurableWatch

open World

namespace Coordinator

inductive Move : Coordinator → Coordinator → Prop
  /-- Pools and journal stay as they are. -/
  | aside {c c' : Coordinator} (children : c'.children = c.children) (data : c'.data = c.data)
      (nextId : c'.nextId = c.nextId) (journal : c'.journal = c.journal) : Move c c'
  /-- A data subscription reports what was read. -/
  | reread {c : Coordinator} {p : Path} {s : DataSubscription} (d : Data)
      (registered : c.data.get? p = some s) :
      Move c (c.record [s.report ⟨p, .dataChanged d⟩])
  /-- A plain data subscription ends with its node. -/
  | ended {c : Coordinator} {p : Path} {s : DataSubscription}
      (registered : c.data.get? p = some s) (plain : s.owner? = none) :
      Move c ((c.removeDataIf p s.id).record [s.report ⟨p, .deleted⟩])
  | pass {c : Coordinator} {p : Path} {s : ChildSubscription} (delivery : Delivery)
      (snapshot : List String) (new : NewChildren) (registered : c.children.get? p = some s)
      (covers : new.Covers (ChildDiff.between s.known snapshot).created) :
      Move c (c.absorb p s delivery (ChildDiff.between s.known snapshot) new)
  | addChildren (c : Coordinator) (p : Path) (l : Listener) (withData : Bool) :
      Move c (c.addChildren p l withData)
  | addData (c : Coordinator) (p : Path) (l : Listener) : Move c (c.addData p l none)
  | removeChildren (c : Coordinator) (p : Path) : Move c (c.removeChildren p)
  | removeData (c : Coordinator) (p : Path) : Move c (c.removeData p)

end Coordinator

open Coordinator

namespace World

variable {σ : Type}

/-- The coordinator of `w'` comes from that of `w` by moves. -/
def Moves (w w' : World σ) : Prop :=
  Relation.ReflTransGen Coordinator.Move w.coordinator w'.coordinator

namespace Moves

theorem refl (w : World σ) : Moves w w := Relation.ReflTransGen.refl

theorem trans {w₁ w₂ w₃ : World σ} (h : Moves w₁ w₂) (h' : Moves w₂ w₃) : Moves w₁ w₃ :=
  Relation.ReflTransGen.trans h h'

theorem of_move {w w' : World σ} (h : Coordinator.Move w.coordinator w'.coordinator) :
    Moves w w' := Relation.ReflTransGen.single h

theorem of_eq {w w' : World σ} (h : w'.coordinator = w.coordinator) : Moves w w' := by
  unfold Moves
  rw [h]

end Moves

/-- With such a client and such listeners the small steps are moves, if any. -/
theorem moves_routine {host : Host σ} (orderly : host.Orderly)
    (hear : ∀ l event w, Moves w (host.hear l event w).2)
    (hearState : ∀ l state w, Moves w (host.hearState l state w).2) : Routine host Moves where
  refl := Moves.refl
  trans := Moves.trans
  isAlive w := Moves.of_eq (orderly.isAlive_coordinator w)
  ask r w _ := Moves.of_eq (orderly.ask_coordinator r w)
  aside _ _ beside _ :=
    Moves.of_move (.aside beside.children beside.data beside.nextId beside.journal)
  hear := hear
  hearState := hearState

variable {host : Host σ}

theorem moves_of_ask (orderly : host.Orderly) {r : Request} {w w₁ : World σ}
    {a : Except Stop r.Answer} (asked : host.ask r w = (a, w₁)) : Moves w w₁ :=
  Moves.of_eq (orderly.coordinator_of_ask asked)

theorem dataChange_moves (orderly : host.Orderly) (p : Path) (w : World σ) :
    Moves w (dataChange host p w).2 := by
  unfold dataChange
  split
  · exact Moves.refl w
  · next s registered =>
    split
    · next d w₁ asked =>
      have still : w₁.coordinator.data.get? p = some s := by
        rw [orderly.coordinator_of_ask asked]
        exact registered
      have reread : Moves w₁ (w₁.update (·.record [s.report ⟨p, .dataChanged d⟩])) :=
        Moves.of_move (.reread d still)
      exact ((moves_of_ask orderly asked).trans reread).trans
        (Moves.of_move (.aside rfl rfl rfl rfl))
    · next stop w₁ asked =>
      split
      · exact moves_of_ask orderly asked
      · split
        · exact moves_of_ask orderly asked
        · next managed =>
          have still : w₁.coordinator.data.get? p = some s := by
            rw [orderly.coordinator_of_ask asked]
            exact registered
          have plain : s.owner? = none := by simpa [DataSubscription.parentManaged] using managed
          have ended : Moves w₁
              (w₁.update fun c => (c.removeDataIf p s.id).record [s.report ⟨p, .deleted⟩]) :=
            Moves.of_move (.ended still plain)
          exact ((moves_of_ask orderly asked).trans ended).trans
            (Moves.of_move (.aside rfl rfl rfl rfl))

theorem childPass_moves (orderly : host.Orderly) (routine : Routine host Moves) {p : Path}
    {s : ChildSubscription} (delivery : Delivery) {w : World σ}
    (registered : w.coordinator.children.get? p = some s) :
    Moves w (childPass host p s delivery w).2 := by
  rcases asked : host.ask (.listChildren p true) w with ⟨answer, w₁⟩
  cases answer with
  | error stop =>
    unfold childPass
    rw [asked]
    exact moves_of_ask orderly asked
  | ok snapshot =>
    rw [childPass_listed orderly p s delivery asked]
    refine Moves.trans (Moves.of_move ?_) (routine.deliver _ _ _ _)
    exact .pass delivery snapshot _ registered
      (readNew_covers orderly p s (ChildDiff.created_nodup _ _) w₁)

theorem moves_passing (orderly : host.Orderly) (routine : Routine host Moves) :
    Routine.Passing host Moves where
  routine := routine
  dataChange := dataChange_moves orderly
  childChange p delivery w := by
    unfold childChange
    split
    · exact Moves.refl w
    · next registered => exact childPass_moves orderly routine delivery registered

theorem moves_registering (orderly : host.Orderly) (routine : Routine host Moves) :
    Routine.Registering host Moves where
  toPassing := moves_passing orderly routine
  toMarking := .of_beside fun _ _ beside =>
    Moves.of_move (.aside beside.children beside.data beside.nextId beside.journal)
  asks r w := Moves.of_eq (orderly.ask_coordinator r w)
  addChildren p l withData w := Moves.of_move (.addChildren w.coordinator p l withData)
  addData p l w := Moves.of_move (.addData w.coordinator p l)
  removeChildren p w := Moves.of_move (.removeChildren w.coordinator p)
  removeData p w := Moves.of_move (.removeData w.coordinator p)

theorem run_moves (orderly : host.Orderly) (routine : Routine host Moves) {w w' : World σ}
    (run : Relation.ReflTransGen (Step host) w w') : Moves w w' :=
  (moves_registering orderly routine).run (fun _ _ => Moves.of_eq rfl) run

/-- Listeners that call back change the coordinator by moves, however deep the calls lie. -/
theorem tame_routine {client : Host σ} (orderly : client.Orderly) {audience : Audience σ}
    (tame : Tame client Step audience) : Routine (client.facing audience) Moves := by
  obtain ⟨hear, hearState⟩ := tame.within Moves.refl Moves.trans fun hear hearState _ _ step =>
    run_moves (orderly.facing _) (moves_routine (orderly.facing _) hear hearState) (.single step)
  exact moves_routine (orderly.facing _) hear hearState

end World

end DurableWatch
