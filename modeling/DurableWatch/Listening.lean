import DurableWatch.Passes

/-!
# Subscribing and unsubscribing

`listen` registers a subscription and runs its first pass; `unlisten` removes a subscription and
cancels the watches that are still armed for it.
-/
namespace DurableWatch

/-- What a subscription watches: the data of the node, or its child list, with the data of each
child if so wanted. -/
inductive Flavour
  | data
  | children (withData : Bool)
  deriving DecidableEq, Repr

/-- To watch the data of the children is to watch the children. -/
def Flavour.ofFlags (children childData : Bool) : Flavour :=
  if children || childData then .children childData else .data

namespace World

variable {σ : Type}

/-- Registers the subscription and runs its first pass. A pass that fails takes the subscription
away again, unless another one has come in its place meanwhile; one that crashes leaves it. -/
def register (host : Host σ) (p : Path) (l : Listener) (flavour : Flavour) (w : World σ) :
    Except Stop Unit × World σ :=
  let id := w.coordinator.nextId
  match flavour with
  | .children withData =>
    match childChange host p .inline (w.update (·.addChildren p l withData)) with
    | (.error (.failed e), w) => fail e (w.update (·.removeChildrenIf p id))
    | done => done
  | .data =>
    match dataChange host p (w.update (·.addData p l none)) with
    | (.error (.failed e), w) => fail e (w.update (·.removeDataIf p id))
    | done => done

/-- Subscribes the listener to an existing node. -/
def listen (host : Host σ) (p : Path) (l : Listener) (flavour : Flavour) (w : World σ) :
    Except Stop Unit × World σ :=
  match ensureAlive host w with
  | (.error stop, w) => (.error stop, w)
  | (.ok (), w) =>
    match host.ask (.existence p) w with
    | (.error stop, w) => (.error (stop.during "exists" p), w)
    | (.ok false, w) => fail (.pathNotFound p) w
    | (.ok true, w) => register host p l flavour w

/-- Goes through all children and answers the first failure, if there was one. -/
def cancelEach (host : Host σ) (p : Path) :
    List String → World σ → Except Stop Unit × World σ
  | [], w => (.ok (), w)
  | n :: ns, w =>
    match host.ask (.cancelDataWatch (p.child n)) (w.update (·.removeData (p.child n))) with
    | (.ok (), w) => cancelEach host p ns w
    | (.error (.crashed reason), w) => (.error (.crashed reason), w)
    | (.error (.failed e), w) =>
      match cancelEach host p ns w with
      | (.error (.crashed reason), w) => (.error (.crashed reason), w)
      | (_, w) => fail (e.during "remove_data_watch" (p.child n)) w

/-- Drops the data subscriptions of the children that the service lists, and cancels their watches.
-/
def cancelChildData (host : Host σ) (p : Path) (w : World σ) : Except Stop Unit × World σ :=
  match host.ask (.existence p) w with
  | (.error stop, w) => (.error (stop.during "exists" p), w)
  | (.ok false, w) => (.ok (), w)
  | (.ok true, w) =>
    match host.ask (.listChildren p false) w with
    | (.error stop, w) => (.error (stop.during "get_children" p), w)
    | (.ok names, w) => cancelEach host p names w

/-- The child subscription goes first, and with it the data subscriptions of the children it knows.
-/
def unlistenChildren (host : Host σ) (p : Path) (withData : Bool) (w : World σ) :
    Except Stop Unit × World σ :=
  let former := w.coordinator.children.get? p
  let childData := withData || former.any (·.watchesChildData)
  let known := (former.map fun s => s.known.keys).getD []
  let w := w.update fun c =>
    if childData then (c.removeChildren p).removeDataAll (known.map p.child) else c.removeChildren p
  if childData then cancelChildData host p w else (.ok (), w)

def unlistenData (host : Host σ) (p : Path) (w : World σ) : Except Stop Unit × World σ :=
  match host.ask (.existence p) (w.update (·.removeData p)) with
  | (.error stop, w) => (.error (stop.during "exists" p), w)
  | (.ok false, w) => (.ok (), w)
  | (.ok true, w) =>
    match host.ask (.cancelDataWatch p) w with
    | (.error stop, w) => (.error (stop.during "remove_data_watch" p), w)
    | (.ok (), w) => (.ok (), w)

/-- The registries are cleaned up before the service is asked anything, so the subscription is gone
whatever the service answers. -/
def unlisten (host : Host σ) (p : Path) (flavour : Flavour) (w : World σ) :
    Except Stop Unit × World σ :=
  match flavour with
  | .children withData => unlistenChildren host p withData w
  | .data => unlistenData host p w

end World

end DurableWatch
