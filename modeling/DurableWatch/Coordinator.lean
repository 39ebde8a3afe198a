import DurableWatch.ChildDiff
import DurableWatch.Dispatcher
import DurableWatch.StateListeners
import DurableWatch.Table

/-!
# The coordinator's state

Subscriptions are kept by path in two pools, one for child lists and one for node data; a path may
be in both. Each subscription has a number of its own, so that a later one at the same path is told
apart from it. The journal lists what the subscriptions have produced, in order.
-/
namespace DurableWatch

structure ChildSubscription where
  id : Nat
  listener : Listener
  watchesChildData : Bool
  /-- The children that the listener has been told about. -/
  known : TextSet
  deriving DecidableEq

structure DataSubscription where
  id : Nat
  listener : Listener
  /-- The child subscription of the parent node that made this one, if it was made so. -/
  owner? : Option Nat
  deriving DecidableEq

def DataSubscription.parentManaged (s : DataSubscription) : Bool := s.owner?.isSome

/-- An event as it was produced. `subscription` is the one whose fire or pass produced it, and
`family` the child subscription it stands for when that one is managed by its parent, else itself.
-/
structure Report where
  subscription : Nat
  family : Nat
  listener : Listener
  event : Event
  delivery : Delivery
  deriving DecidableEq

def ChildSubscription.report (s : ChildSubscription) (delivery : Delivery) (event : Event) :
    Report :=
  ⟨s.id, s.id, s.listener, event, delivery⟩

/-- What a pass over `p` reports of the new children and of the paths that are gone. -/
def ChildSubscription.createdReports (s : ChildSubscription) (p : Path) (delivery : Delivery)
    (found : List (String × Data)) : List Report :=
  found.map fun (n, d) => s.report delivery ⟨p.child n, .created d⟩

def ChildSubscription.deletedReports (s : ChildSubscription) (gone : List Path) : List Report :=
  gone.map fun q => s.report .dispatched ⟨q, .deleted⟩

def DataSubscription.report (s : DataSubscription) (event : Event) : Report :=
  ⟨s.id, s.owner?.getD s.id, s.listener, event, .dispatched⟩

/-- An ephemeral node to create again after every reconnection. -/
structure StubbornNode where
  path : Path
  data : Data
  deriving DecidableEq

structure Coordinator where
  children : Table ChildSubscription
  data : Table DataSubscription
  /-- The data of every stubborn node, by its path. -/
  stubborn : Table Data
  states : StateListeners
  dispatcher : Dispatcher
  failFast : Bool
  nextId : Nat
  journal : List Report

namespace Coordinator

def new (dispatcher : Dispatcher) (failFast : Bool) : Coordinator where
  children := ∅
  data := ∅
  stubborn := ∅
  states := .empty
  dispatcher := dispatcher
  failFast := failFast
  nextId := 0
  journal := []

/-- The child subscription that `addChildren` registers: it knows no child yet. -/
def freshChildren (c : Coordinator) (listener : Listener) (childData : Bool) : ChildSubscription :=
  ⟨c.nextId, listener, childData, ∅⟩

/-- Registers a new child subscription in place of whatever is at `p`. -/
def addChildren (c : Coordinator) (p : Path) (listener : Listener) (childData : Bool) :
    Coordinator :=
  { c with
    children := c.children.insert p (c.freshChildren listener childData)
    nextId := c.nextId + 1 }

def freshData (c : Coordinator) (listener : Listener) (owner? : Option Nat) : DataSubscription :=
  ⟨c.nextId, listener, owner?⟩

/-- Registers a new data subscription in place of whatever is at `p`. -/
def addData (c : Coordinator) (p : Path) (listener : Listener) (owner? : Option Nat) :
    Coordinator :=
  { c with
    data := c.data.insert p (c.freshData listener owner?)
    nextId := c.nextId + 1 }

def removeChildren (c : Coordinator) (p : Path) : Coordinator :=
  { c with children := c.children.erase p }

def removeData (c : Coordinator) (p : Path) : Coordinator :=
  { c with data := c.data.erase p }

def removeDataAll (c : Coordinator) (ps : List Path) : Coordinator := ps.foldl removeData c

/-- Whether the child subscription `id` is the one registered at `p`. -/
def hasChildren (c : Coordinator) (p : Path) (id : Nat) : Bool :=
  (c.children.get? p).any fun s => s.id == id

def hasData (c : Coordinator) (p : Path) (id : Nat) : Bool :=
  (c.data.get? p).any fun s => s.id == id

/-- Removes the child subscription at `p` only if it is still the one with this number. -/
def removeChildrenIf (c : Coordinator) (p : Path) (id : Nat) : Coordinator :=
  if c.hasChildren p id then c.removeChildren p else c

def removeDataIf (c : Coordinator) (p : Path) (id : Nat) : Coordinator :=
  if c.hasData p id then c.removeData p else c

/-- Stores what `s` knows after a pass, if `s` is still the subscription at `p`. -/
def settle (c : Coordinator) (p : Path) (s : ChildSubscription) (known : TextSet) : Coordinator :=
  if c.hasChildren p s.id then { c with children := c.children.insert p { s with known := known } }
  else c

/-- Notes in the journal what has been produced. -/
def record (c : Coordinator) (rs : List Report) : Coordinator :=
  { c with journal := c.journal ++ rs }

/-- Queues the event for the listener. -/
def submit (c : Coordinator) (r : Report) : Coordinator :=
  { c with dispatcher := c.dispatcher.submit ⟨r.listener, r.event⟩ }

def submitAll (c : Coordinator) (rs : List Report) : Coordinator := rs.foldl submit c

/-- Notes the report and queues its event. -/
def dispatch (c : Coordinator) (r : Report) : Coordinator := (c.record [r]).submit r

/-- A stubborn node needs a path and data; its data is fixed until it is marked again. -/
def markStubborn (c : Coordinator) (p : Path) (d : Data) : Except Error Coordinator :=
  if p = "" then .error (.invalidArgument "stubborn node path must not be empty")
  else if d.isEmpty then
    .error (.invalidArgument ("stubborn node " ++ p ++ " needs non-empty data"))
  else .ok { c with stubborn := c.stubborn.insert p d }

def unmarkStubborn (c : Coordinator) (p : Path) : Coordinator :=
  { c with stubborn := c.stubborn.erase p }

def stubbornNode? (c : Coordinator) (p : Path) : Option StubbornNode :=
  (c.stubborn.get? p).map fun d => ⟨p, d⟩

def stubbornNodes (c : Coordinator) : List StubbornNode :=
  c.stubborn.entries.map fun (p, d) => ⟨p, d⟩

def knownChildren? (c : Coordinator) (p : Path) : Option (List String) :=
  (c.children.get? p).map fun s => s.known.keys

/-- The numbers of child and data subscriptions. -/
def watchCounts (c : Coordinator) : Nat × Nat := (c.children.size, c.data.size)

/-- One line on the sizes of everything. -/
def describe (c : Coordinator) : String :=
  "WatchCoordinator \x7b child_watches: " ++ toString c.children.size
    ++ ", data_watches: " ++ toString c.data.size
    ++ ", stubborn_nodes: " ++ toString c.stubborn.size
    ++ ", states: StateRegistry \x7b states: ["
    ++ String.intercalate ", " (c.states.bound.map SessionState.name)
    ++ "] \x7d, dispatcher: " ++ c.dispatcher.describe
    ++ ", fail_fast: " ++ toString c.failFast ++ ", .. \x7d"

end Coordinator

end DurableWatch
