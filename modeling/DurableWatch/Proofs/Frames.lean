import DurableWatch.Proofs.PassEffect
import DurableWatch.Proofs.Routine

/-!
# What does not depend on subscriptions or listeners

A relation that has nothing to do with subscriptions contains their every change, and with it the
passes and everything that is made of them. And most operations call no listener: whatever the
listeners are, they do the same as before listeners that do nothing.
-/
namespace DurableWatch

variable {σ : Type}

namespace Coordinator

theorem stubborn_removeDataIf (c : Coordinator) (p : Path) (id : Nat) :
    (c.removeDataIf p id).stubborn = c.stubborn := by
  unfold removeDataIf
  split <;> rfl

end Coordinator

namespace Routine

/-- The relation contains every request, and every change that leaves the stubborn nodes as they
are. -/
structure Framing (host : Host σ) (R : World σ → World σ → Prop) : Prop
    extends Routine host R where
  asks : ∀ r w, R w (host.ask r w).2
  updates : ∀ w f, (f w.coordinator).stubborn = w.coordinator.stubborn → R w (w.update f)

namespace Framing

variable {host : Host σ} {R : World σ → World σ → Prop}

theorem answered (framing : Framing host R) {r : Request} {w w₁ : World σ}
    {a : Except Stop r.Answer} (asked : host.ask r w = (a, w₁)) : R w w₁ := by
  have h := framing.asks r w
  rwa [asked] at h

theorem dataChange (framing : Framing host R) (p : Path) (w : World σ) :
    R w (World.dataChange host p w).2 := by
  unfold World.dataChange
  split
  · exact framing.refl w
  · split
    · next asked =>
      refine framing.trans (framing.answered asked) ?_
      dsimp only
      apply framing.updates
      rfl
    · next asked =>
      have before := framing.answered asked
      split
      · exact before
      · split
        · exact before
        · refine framing.trans before ?_
          dsimp only
          apply framing.updates
          exact Coordinator.stubborn_removeDataIf _ p _

theorem readNew (framing : Framing host R) (p : Path) (s : ChildSubscription) (ns : List String)
    (w : World σ) : R w (World.readNew host p s ns w).2 := by
  induction ns generalizing w with
  | nil => exact framing.refl w
  | cons n ns ih =>
    unfold World.readNew
    split
    · next asked => exact framing.answered asked
    · next asked => exact framing.trans (framing.answered asked) (ih _)
    · next w₁ asked =>
      have added : R w₁ (if s.watchesChildData = true then
          w₁.update (·.addData (p.child n) s.listener (some s.id)) else w₁) := by
        split
        · exact framing.updates w₁ (·.addData (p.child n) s.listener (some s.id)) rfl
        · exact framing.refl w₁
      exact framing.trans (framing.answered asked) (framing.trans added (ih _))

theorem tellChanges (framing : Framing host R) (p : Path) (s : ChildSubscription)
    (delivery : Delivery) (found : List (String × Data)) (gone : List Path) (w : World σ) :
    R w (World.tellChanges host p s delivery found gone w).2 := by
  have taken : R w (if s.watchesChildData = true then w.update (·.removeDataAll gone) else w) := by
    split
    · exact framing.updates w _ (Coordinator.stubborn_removeDataAll w.coordinator gone)
    · exact framing.refl w
  unfold World.tellChanges
  refine framing.trans taken (framing.trans ?_ (framing.deliver delivery _ _ _))
  apply framing.updates
  rfl

theorem childChange (framing : Framing host R) (p : Path) (delivery : Delivery) (w : World σ) :
    R w (World.childChange host p delivery w).2 := by
  unfold World.childChange
  split
  · exact framing.refl w
  · next s _ =>
    unfold World.childPass
    split
    · next asked => exact framing.answered asked
    · next snapshot w₁ asked =>
      have read := framing.trans (framing.answered asked)
        (framing.readNew p s (ChildDiff.between s.known snapshot).created w₁)
      have settled (known : TextSet) (w : World σ) : R w (w.update (·.settle p s known)) :=
        framing.updates w _ (Coordinator.stubborn_settle w.coordinator p s known)
      dsimp only
      split
      · exact framing.trans read (settled _ _)
      · exact framing.trans read
          (framing.trans (settled _ _) (framing.tellChanges p s delivery _ _ _))

theorem subscribing (framing : Framing host R) : Subscribing host R where
  routine := framing.toRoutine
  dataChange := framing.dataChange
  childChange := framing.childChange
  asks := framing.asks
  addChildren _ _ _ w := framing.updates w _ rfl
  addData _ _ w := framing.updates w _ rfl
  removeChildren _ w := framing.updates w _ rfl
  removeData _ w := framing.updates w _ rfl

theorem registering (framing : Framing host R) (marking : Marking R) : Registering host R where
  toSubscribing := framing.subscribing
  toMarking := marking

end Framing

end Routine

/-! ### Operations that call no listener -/

namespace World

variable (host : Host σ) (audience : Audience σ)

theorem ask_facing (r : Request) (w : World σ) :
    (host.facing audience).ask r w = host.ask r w := rfl

theorem readNew_facing (p : Path) (s : ChildSubscription) (ns : List String) (w : World σ) :
    readNew (host.facing audience) p s ns w = readNew host p s ns w := by
  induction ns generalizing w with
  | nil => rfl
  | cons n ns ih =>
    simp only [readNew, ih, ask_facing]

theorem childChange_facing (p : Path) (w : World σ) :
    childChange (host.facing audience) p .dispatched w = childChange host p .dispatched w := by
  simp only [childChange, childPass, readNew_facing, tellChanges, deliver, ask_facing]

theorem relistenIn_facing (order : Enumeration) (w : World σ) :
    relistenIn order (host.facing audience) w = relistenIn order host w := by
  have data : dataChange (host.facing audience) = dataChange host := rfl
  have nodes : recreate (host.facing audience) = recreate host := rfl
  have children : (fun p => childChange (host.facing audience) p .dispatched) =
      fun p => childChange host p .dispatched := by
    funext p w
    exact childChange_facing host audience p w
  simp only [relistenIn, data, children, nodes]

theorem reconnectIn_facing (order : Enumeration) (w : World σ) :
    reconnectIn order (host.facing audience) w = reconnectIn order host w := by
  simp only [reconnectIn, relistenIn_facing, ask_facing]

theorem cancelEach_facing (p : Path) (ns : List String) (w : World σ) :
    cancelEach (host.facing audience) p ns w = cancelEach host p ns w := by
  induction ns generalizing w with
  | nil => rfl
  | cons n ns ih =>
    simp only [cancelEach, ih, ask_facing]

theorem unlisten_facing (p : Path) (flavour : Flavour) (w : World σ) :
    unlisten (host.facing audience) p flavour w = unlisten host p flavour w := by
  cases flavour <;>
    simp only [unlisten, unlistenChildren, unlistenData, cancelChildData, cancelEach_facing,
      ask_facing]

theorem createMissing_facing (ps : List Path) (w : World σ) :
    createMissing (host.facing audience) ps w = createMissing host ps w := by
  induction ps generalizing w with
  | nil => rfl
  | cons a as ih =>
    simp only [createMissing, ih, ask_facing]

theorem createStubborn_facing (p : Path) (d : Data) (w : World σ) :
    createStubborn (host.facing audience) p d w = createStubborn host p d w := by
  have ready : ensureReady (host.facing audience) = ensureReady host := rfl
  have cleared : clearAway (host.facing audience) = clearAway host := rfl
  simp only [createStubborn, ready, cleared, createMissing_facing, ask_facing]

end World

end DurableWatch
