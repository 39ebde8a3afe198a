import DurableWatch.World

/-!
# Handling a fire

A watch fires once. Handling the fire reads the node again with a new watch, compares what is read
with what the subscription knows, and produces the events for the difference. `dataChange` does so
for the data of a node and `childChange` for its child list; both do nothing without a subscription.
-/
namespace DurableWatch.World

variable {σ : Type}

/-- A missing node ends a plain subscription with a last event. A child's subscription is left to
the next pass of its parent, which sees that the child is gone. -/
def dataChange (host : Host σ) (p : Path) (w : World σ) : Except Stop Unit × World σ :=
  match w.coordinator.data.get? p with
  | none => (.ok (), w)
  | some s =>
    match host.ask (.readData p true) w with
    | (.ok d, w) => (.ok (), w.update (·.dispatch (s.report ⟨p, .dataChanged d⟩)))
    | (.error stop, w) =>
      if !stop.isNotFound then (.error (stop.during "get_data" p), w)
      else if s.parentManaged then (.ok (), w)
      else (.ok (), w.update fun c => (c.removeDataIf p s.id).dispatch (s.report ⟨p, .deleted⟩))

/-- What came of reading new children. A crash ends the reading early. -/
structure NewChildren where
  found : List (String × Data)
  unreadable : List String
  crash? : Option String
  deriving DecidableEq

/-- Reads each new child once. If `s` watches the data of its children, each child that could be
read has got a data subscription of its own. -/
def readNew (host : Host σ) (p : Path) (s : ChildSubscription) :
    List String → World σ → NewChildren × World σ
  | [], w => (⟨[], [], none⟩, w)
  | n :: ns, w =>
    match host.ask (.readData (p.child n) s.watchesChildData) w with
    | (.error (.crashed reason), w) => (⟨[], [], some reason⟩, w)
    | (.error (.failed _), w) =>
      let (new, w) := readNew host p s ns w
      ({ new with unreadable := n :: new.unreadable }, w)
    | (.ok d, w) =>
      let w :=
        if s.watchesChildData then w.update (·.addData (p.child n) s.listener (some s.id)) else w
      let (new, w) := readNew host p s ns w
      ({ new with found := (n, d) :: new.found }, w)

/-- What is known after a pass: the names now listed, less the new ones that could not be read. -/
def knownAfter (known : TextSet) (diff : ChildDiff) (new : NewChildren) : TextSet :=
  (diff.applyTo known).without new.unreadable

/-- Creations reach the listener as the pass wants it, deletions always through a worker. -/
def deliver (host : Host σ) (delivery : Delivery) (created deleted : List Report) (w : World σ) :
    Except Stop Unit × World σ :=
  match delivery with
  | .dispatched => (.ok (), w.update (·.submitAll (created ++ deleted)))
  | .inline =>
    match tellAll host created w with
    | (.error stop, w) => (.error stop, w)
    | (.ok (), w) => (.ok (), w.update (·.submitAll deleted))

/-- Takes away the data subscriptions of the children that are gone, and tells of all that has
changed. The events are produced together, before any listener is called. -/
def tellChanges (host : Host σ) (p : Path) (s : ChildSubscription) (delivery : Delivery)
    (found : List (String × Data)) (gone : List Path) (w : World σ) :
    Except Stop Unit × World σ :=
  let w := if s.watchesChildData then w.update (·.removeDataAll gone) else w
  let created := s.createdReports p delivery found
  let deleted := s.deletedReports gone
  deliver host delivery created deleted (w.update (·.record (created ++ deleted)))

/-- A pass of `s` over the children of `p`. A new child that cannot be read is left out of the known
ones, so that a later pass finds it again. Nothing changes when the children cannot be listed. What
is listed is known from then on, even if a crash while the new ones are read leaves it untold. -/
def childPass (host : Host σ) (p : Path) (s : ChildSubscription) (delivery : Delivery)
    (w : World σ) : Except Stop Unit × World σ :=
  match host.ask (.listChildren p true) w with
  | (.error stop, w) => (.error (stop.during "get_children" p), w)
  | (.ok snapshot, w) =>
    let diff := ChildDiff.between s.known snapshot
    let (new, w) := readNew host p s diff.created w
    let w := w.update (·.settle p s (knownAfter s.known diff new))
    match new.crash? with
    | some reason => (.error (.crashed reason), w)
    | none => tellChanges host p s delivery new.found (diff.deleted.map p.child) w

def childChange (host : Host σ) (p : Path) (delivery : Delivery) (w : World σ) :
    Except Stop Unit × World σ :=
  match w.coordinator.children.get? p with
  | none => (.ok (), w)
  | some s => childPass host p s delivery w

/-- A failure of something that no one waits for. -/
def dropFailure : Except Stop Unit × World σ → Except Stop Unit × World σ
  | (.error (.failed _), w) => (.ok (), w)
  | r => r

/-- Handles what the client hands over. A failure has no one to go to and is dropped; the next fire
or recovery tries again. -/
def onNotification (host : Host σ) (note : Notification) (w : World σ) :
    Except Stop Unit × World σ :=
  match note with
  | .watch p .data => dropFailure (dataChange host p w)
  | .watch p .children => dropFailure (childChange host p .dispatched w)
  | .state state => notifyState host state w

end DurableWatch.World
