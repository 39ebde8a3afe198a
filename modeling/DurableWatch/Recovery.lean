import DurableWatch.Listening

/-!
# Recovery after a reconnection

The watches of every subscription are armed again and every stubborn node is created again: first
the data subscriptions, then the child subscriptions, then the stubborn nodes. Each phase goes
through what is registered when it starts.
-/
namespace DurableWatch

/-- The orders in which a recovery goes through the registries, each applied to the ascending list.
-/
structure Enumeration where
  data : List Path → List Path
  children : List Path → List Path
  stubborn : List StubbornNode → List StubbornNode
  data_perm : ∀ ps, (data ps).Perm ps
  children_perm : ∀ ps, (children ps).Perm ps
  stubborn_perm : ∀ ns, (stubborn ns).Perm ns

def Enumeration.ascending : Enumeration where
  data := id
  children := id
  stubborn := id
  data_perm := .refl
  children_perm := .refl
  stubborn_perm := .refl

namespace World

variable {σ : Type}

/-- Makes every attempt and lists the paths that failed; if `failFast`, the first failure ends it.
-/
def attemptAll {α : Type} (failFast : Bool) (path : α → Path)
    (attempt : α → World σ → Except Stop Unit × World σ) :
    List α → World σ → Except Stop (List Path) × World σ
  | [], w => (.ok [], w)
  | a :: as, w =>
    match attempt a w with
    | (.ok (), w) => attemptAll failFast path attempt as w
    | (.error (.crashed reason), w) => (.error (.crashed reason), w)
    | (.error (.failed e), w) =>
      if failFast then fail e w
      else
        match attemptAll failFast path attempt as w with
        | (.ok failed, w) => (.ok (path a :: failed), w)
        | stopped => stopped

/-- A node that is still there is no failure: the old session may live on at the service. -/
def recreate (host : Host σ) (n : StubbornNode) (w : World σ) : Except Stop Unit × World σ :=
  match host.ask (.create n.path n.data .ephemeral) w with
  | (.ok _, w) => (.ok (), w)
  | (.error stop, w) =>
    if stop.isNodeExists then (.ok (), w) else (.error (stop.during "create" n.path), w)

def relistenIn (order : Enumeration) (host : Host σ) (w : World σ) :
    Except Stop Unit × World σ :=
  let failFast := w.coordinator.failFast
  match attemptAll failFast id (dataChange host) (order.data w.coordinator.data.keys) w with
  | (.error stop, w) => (.error stop, w)
  | (.ok failedData, w) =>
    match attemptAll failFast id (fun p => childChange host p .dispatched)
        (order.children w.coordinator.children.keys) w with
    | (.error stop, w) => (.error stop, w)
    | (.ok failedChildren, w) =>
      match attemptAll failFast StubbornNode.path (recreate host)
          (order.stubborn w.coordinator.stubbornNodes) w with
      | (.error stop, w) => (.error stop, w)
      | (.ok failedNodes, w) =>
        let failed := failedData ++ failedChildren ++ failedNodes
        if failed.isEmpty then (.ok (), w) else fail (.recoveryIncomplete failed) w

def relisten (host : Host σ) (w : World σ) : Except Stop Unit × World σ :=
  relistenIn .ascending host w

end World

end DurableWatch
