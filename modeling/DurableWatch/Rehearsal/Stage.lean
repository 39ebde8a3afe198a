import DurableWatch.Rehearsal.Script

/-!
# The stage

What surrounds the coordinator in a rehearsal: the service in memory behind a client that records
its calls and goes wrong by script, and listeners that behave by script. `host` makes surroundings
of them, given a way to do the steps of faults and reactions.
-/
namespace DurableWatch.Rehearsal

/-- A call of the client, and how it failed if it did. -/
structure Call where
  method : String
  path : Path
  watch? : Option Bool
  error? : Option Error
  deriving DecidableEq

structure HeardEvent where
  listener : Listener
  event : Event
  deriving DecidableEq

/-- The state of one path in a snapshot. -/
structure PathView where
  path : Path
  node? : Option Node
  dataWatch : Bool
  childWatch : Bool
  listensData : Bool
  known? : Option (List String)
  deriving DecidableEq

structure Snapshot where
  alive : Bool
  sessionId : Nat
  counts : Nat × Nat
  stubborn : List StubbornNode
  paths : List PathView
  deriving DecidableEq

/-- The answer of a step. -/
inductive Reply
  | nothing
  | flag (b : Bool)
  | number (n : Nat)
  | text (s : String)
  | data (d : Data)
  | names (ns : List String)
  | mode (m : CreateMode)
  | node (n : StubbornNode)
  | nodes (ns : List StubbornNode)
  | counts (children data : Nat)
  | notifications (ns : List Notification)
  | snapshot (s : Snapshot)
  | failed (e : Error)
  | crashed (reason : String)
  deriving DecidableEq

/-- What is seen while a step and everything within it is done. -/
structure Record where
  calls : Array Call
  inlineEvents : Array HeardEvent
  dispatchedEvents : Array HeardEvent
  states : Array (Listener × SessionState)
  nested : Array (String × Reply)
  /-- Whether a recovery ran; its order among the paths is not fixed. -/
  recovered : Bool

def Record.blank : Record := ⟨#[], #[], #[], #[], #[], false⟩

structure Stage where
  service : MemoryService
  unwatchByReading : Bool
  faults : List (Fault × Steps)
  listeners : List (Listener × ListenerScript)
  /-- How often each listener has been called. -/
  heard : Table Nat
  /-- Whether the workers are delivering. -/
  draining : Bool
  record : Record

def methodOf : Request → String
  | .existence _ => "exists"
  | .readData _ _ => "get_data"
  | .writeData _ _ => "set_data"
  | .listChildren _ _ => "get_children"
  | .create _ _ _ => "create"
  | .delete _ => "delete"
  | .cancelDataWatch _ => "remove_data_watch"
  | .reconnect => "reconnect"

def pathOf : Request → Path
  | .existence p | .readData p _ | .writeData p _ | .listChildren p _ | .create p _ _ | .delete p
  | .cancelDataWatch p => p
  | .reconnect => ""

def watchOf : Request → Option Bool
  | .readData _ watch | .listChildren _ watch => some watch
  | _ => none

def kindOf : Change → String
  | .created _ => "created"
  | .deleted => "deleted"
  | .dataChanged _ => "data"

def Fault.concerns (f : Fault) (method : String) (path : Path) (watch? : Option Bool) : Bool :=
  f.method == method && f.path?.all (· == path) && (f.watch?.isNone || f.watch? == watch?)

/-- The first fault that goes off at a call, and the faults as the call leaves them. -/
def takeFault (method : String) (path : Path) (watch? : Option Bool) :
    List (Fault × Steps) → Option (Fault × Steps) × List (Fault × Steps)
  | [] => (none, [])
  | (f, steps) :: rest =>
    let passed (f : Fault) :=
      let (taken, rest) := takeFault method path watch? rest
      (taken, (f, steps) :: rest)
    if !f.concerns method path watch? then passed f
    else if 0 < f.after then passed { f with after := f.after - 1 }
    else if 0 < f.times then (some (f, steps), ({ f with times := f.times - 1 }, steps) :: rest)
    else passed f

/-- The answer that the value stands for, if it is one to this request. Where success is all there
is to answer, any value stands for it. -/
def FaultValue.answer? : FaultValue → (r : Request) → Option r.Answer
  | .flag b, .existence _ => some b
  | .data d, .readData _ _ => some d
  | .names ns, .listChildren _ _ => some ns
  | .path p, .create _ _ _ => some p
  | _, .writeData _ _ | _, .delete _ | _, .cancelDataWatch _ | _, .reconnect => some ()
  | _, _ => none

def Trigger.firesOn (event : Event) : Trigger → Bool
  | .event kind path? => kind == kindOf event.change && path?.all (· == event.path)
  | .state _ => false

def Trigger.firesOnState (state : SessionState) : Trigger → Bool
  | .state s => s == state
  | .event _ _ => false

/-- The first element that passes the test, and the others. -/
def takeFirst {α : Type} (test : α → Bool) : List α → Option (α × List α)
  | [] => none
  | a :: as => if test a then some (a, as) else (takeFirst test as).map fun (b, bs) => (b, a :: bs)

namespace Stage

def scriptOf (s : Stage) (l : Listener) : ListenerScript :=
  ((s.listeners.find? fun (name, _) => name == l).map Prod.snd).getD ⟨[], [], []⟩

/-- The steps of the listener's first reaction that the test accepts; the reaction is used up. -/
def react (s : Stage) (l : Listener) (test : Trigger → Bool) : Steps × Stage :=
  match takeFirst (fun r => test r.trigger) (s.scriptOf l).reactions with
  | none => ([], s)
  | some (r, rest) =>
    (r.steps, { s with
      listeners := s.listeners.map fun (name, script) =>
        (name, if name == l then { script with reactions := rest } else script) })

/-- How the listener's call number `n` ends. -/
def hearing (s : Stage) (l : Listener) (n : Nat) : Hearing :=
  if (s.scriptOf l).crashesOn.contains n then .crashed "listener panic"
  else if (s.scriptOf l).failsOn.contains n then .failed
  else .fine

def seeEvent (s : Stage) (h : HeardEvent) : Stage :=
  { s with
    record :=
      if s.draining then { s.record with dispatchedEvents := s.record.dispatchedEvents.push h }
      else { s.record with inlineEvents := s.record.inlineEvents.push h } }

def seeState (s : Stage) (l : Listener) (state : SessionState) : Stage :=
  { s with record := { s.record with states := s.record.states.push (l, state) } }

def seeReply (s : Stage) (label : String) (reply : Reply) : Stage :=
  { s with record := { s.record with nested := s.record.nested.push (label, reply) } }

def seeCall (s : Stage) (call : Call) : Stage :=
  { s with record := { s.record with calls := s.record.calls.push call } }

/-- Notes how call number `n` failed. -/
def seeFailure (s : Stage) (n : Nat) (e : Error) : Stage :=
  { s with record :=
    { s.record with calls := s.record.calls.modify n fun c => { c with error? := some e } } }

end Stage

/-- A way to do steps within a step. A crash of one of them leaves the others undone; its reason is
answered. -/
abbrev Performance := Steps → World Stage → Option String × World Stage

def onStage (w : World Stage) (f : Stage → Stage) : World Stage :=
  { w with outside := f w.outside }

/-- A call of a listener: it is counted and seen, it reacts, and it ends by script, unless its
reaction crashes. -/
def callListener (perform : Performance) (l : Listener) (see : Stage → Stage)
    (test : Trigger → Bool) (w : World Stage) : Hearing × World Stage :=
  let n := (w.outside.heard.get? l).getD 0
  let stage := see { w.outside with heard := w.outside.heard.insert l (n + 1) }
  let (steps, stage) := stage.react l test
  match perform steps { w with outside := stage } with
  | (some reason, w) => (.crashed reason, w)
  | (none, w) => (w.outside.hearing l n, w)

def askService (r : Request) (w : World Stage) : Except Stop r.Answer × World Stage :=
  let (answer, service) := w.outside.service.ask r
  (answer.mapError .failed, onStage w ({ · with service := service }))

/-- The answer of a call at which the fault goes off. -/
def askFaulty (perform : Performance) (fault : Fault) (steps : Steps) (r : Request)
    (w : World Stage) : Except Stop r.Answer × World Stage :=
  match perform steps w with
  | (some reason, w) => (.error (.crashed reason), w)
  | (none, w) =>
    match fault.error?, fault.value?.bind (·.answer? r) with
    | some e, _ => (.error (.failed e), w)
    | none, some answer => (.ok answer, (askService r w).2)
    | none, none => askService r w

/-- A recorded call of the client. -/
def askRecorded (perform : Performance) (r : Request) (w : World Stage) :
    Except Stop r.Answer × World Stage :=
  let n := w.outside.record.calls.size
  let (taken, faults) := takeFault (methodOf r) (pathOf r) (watchOf r) w.outside.faults
  let w := onStage w fun s =>
    { s with faults := faults }.seeCall ⟨methodOf r, pathOf r, watchOf r, none⟩
  let (answer, w) :=
    match taken with
    | none => askService r w
    | some (fault, steps) => askFaulty perform fault steps r w
  match answer with
  | .error (.failed e) => (.error (.failed e), onStage w (·.seeFailure n e))
  | answer => (answer, w)

def askClient (perform : Performance) :
    (r : Request) → World Stage → Except Stop r.Answer × World Stage
  | .cancelDataWatch p, w =>
    if w.outside.unwatchByReading then
      match askRecorded perform (.readData p false) w with
      | (.ok _, w) => (.ok (), w)
      | (.error stop, w) => (.error stop, w)
    else askRecorded perform (.cancelDataWatch p) w
  | r, w => askRecorded perform r w

/-- Whether the session is alive is not recorded, and a fault can only answer it. -/
def clientIsAlive (w : World Stage) : Bool × World Stage :=
  let (taken, faults) := takeFault "is_alive" "" none w.outside.faults
  let alive :=
    match taken.bind fun (f, _) => f.value? with
    | some (.flag b) => b
    | _ => w.outside.service.alive
  (alive, onStage w ({ · with faults := faults }))

def host (perform : Performance) : Host Stage where
  isAlive := clientIsAlive
  ask := askClient perform
  hear l event := callListener perform l (·.seeEvent ⟨l, event⟩) (·.firesOn event)
  hearState l state := callListener perform l (·.seeState l state) (·.firesOnState state)

end DurableWatch.Rehearsal
