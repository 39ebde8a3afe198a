import DurableWatch.Listening
import DurableWatch.MemoryService

/-!
# Scripts

A rehearsal plays a session against the service in memory. Its script says what is done, step by
step, how the listeners behave, and which calls of the client go wrong. Listeners and faults may do
steps of their own while a step is going on.
-/
namespace DurableWatch.Rehearsal

/-- What a fault answers in place of the service. -/
inductive FaultValue
  | flag (b : Bool)
  | data (d : Data)
  | names (ns : List String)
  | path (p : Path)
  deriving DecidableEq

/-- A fault concerns the calls of one method and, where these are given, of one path and watch flag.
It lets `after` of them pass, and then goes off `times` times. -/
structure Fault where
  method : String
  path? : Option Path
  watch? : Option Bool
  after : Nat
  times : Nat
  error? : Option Error
  value? : Option FaultValue
  deriving DecidableEq

inductive Step
  | listen (path : Path) (listener : Listener) (flavour : Flavour)
  | unlisten (path : Path) (flavour : Flavour)
  | listenState (listener : Listener) (state : SessionState)
  | unlistenState (state : SessionState)
  | create (path : Path) (data : Data) (mode : CreateMode)
  | createEphemeral (path : Path) (data : Data) (recreate : Bool)
  | createRecursive (path : Path) (mode : CreateMode)
  | createStubborn (path : Path) (data : Data)
  | delete (path : Path)
  | reconnect
  | describe
  | dataChange (path : Path)
  | childChange (path : Path) (initial : Bool)
  | relisten
  | markStubborn (path : Path) (data : Data)
  | unmarkStubborn (path : Path)
  | stubbornNode (path : Path)
  | stubbornNodes
  | isListeningState (state : SessionState)
  | isListeningChildren (path : Path)
  | isListeningData (path : Path)
  | notifyState (state : SessionState)
  | watchCounts
  | knownChildren (path : Path)
  | notify (note : Notification)
  /-- Hands over the notifications in the channel, and those that come while it does. -/
  | pump
  /-- Hands over the notifications that are in the channel now. -/
  | pumpOnce
  /-- Drops the notifications in the channel. -/
  | discard
  /-- Asks the service directly, past the session. -/
  | ask (request : Request)
  | serviceIsAlive
  | serviceDisconnect
  | serviceExpire
  | external (change : ExternalChange)
  | nodeData (path : Path)
  | nodeMode (path : Path)
  | isArmed (path : Path) (kind : WatchKind)
  | sessionId
  /-- Adds a fault; when it goes off, its steps are done first. -/
  | fault (fault : Fault) (steps : List (String × Step))
  | clearFaults
  | snapshot
  deriving Inhabited

/-- Steps under the names by which their answers are reported. -/
abbrev Steps := List (String × Step)

mutual

/-- How many steps the step may come to, those of its fault included. -/
def Step.weight : Step → Nat
  | .fault f steps => 1 + f.times * weightOf steps
  | _ => 1

def weightOf : List (String × Step) → Nat
  | [] => 0
  | (_, s) :: rest => s.weight + weightOf rest

end

/-- What sets a listener's reaction off: an event of a kind, perhaps at one path only, or a state.
-/
inductive Trigger
  | event (kind : String) (path? : Option Path)
  | state (state : SessionState)
  deriving DecidableEq, Repr

structure Reaction where
  trigger : Trigger
  steps : Steps

/-- The calls of the listener, counted from 0, that fail or crash, and its reactions, each of which
is used once. -/
structure ListenerScript where
  failsOn : List Nat
  crashesOn : List Nat
  reactions : List Reaction

structure Script where
  workers : Nat
  failFast : Bool
  /-- The client has no call of its own that cancels a watch, and reads the node instead. -/
  unwatchByReading : Bool
  listeners : List (Listener × ListenerScript)
  steps : Steps
  /-- The paths that a snapshot looks at, beside their ancestors and the root. -/
  watchedPaths : List Path

/-- No more steps than this are done within other steps, however the script is played. -/
def Script.weight (s : Script) : Nat :=
  weightOf s.steps
    + weightOf (s.listeners.flatMap fun (_, l) => l.reactions.flatMap Reaction.steps)

end DurableWatch.Rehearsal
