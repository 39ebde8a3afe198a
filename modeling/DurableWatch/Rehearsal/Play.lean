import DurableWatch.Rehearsal.Stage
import DurableWatch.Session

/-!
# Playing a script

Each step of the script is answered, then the workers deliver everything that is queued, and what
was seen meanwhile is noted beside the answer. Steps within steps are bounded by the script's
weight, since each reaction is used once and each fault goes off a stated number of times; so are
the rounds in which channel and queues are emptied, since a round adds to them only by steps within
it.
-/
namespace DurableWatch.Rehearsal

/-- A recovery lists what failed in an order of its own; an answer lists it in ascending order. -/
def ordered : Error → Error
  | .recoveryIncomplete failed => .recoveryIncomplete (failed.mergeSort fun a b => decide (a ≤ b))
  | e => e

def replyOf {α : Type} (ok : α → Reply) : Except Stop α → Reply
  | .ok a => ok a
  | .error (.failed e) => .failed (ordered e)
  | .error (.crashed reason) => .crashed reason

def done : Unit → Reply := fun () => .nothing

/-- The answer of the service to a request of its own. -/
def replyTo : (r : Request) → Except Stop r.Answer → Reply
  | .existence _, a => replyOf Reply.flag a
  | .readData _ _, a => replyOf Reply.data a
  | .writeData _ _, a => replyOf done a
  | .listChildren _ _, a => replyOf Reply.names a
  | .create _ _ _, a => replyOf Reply.text a
  | .delete _, a => replyOf done a
  | .cancelDataWatch _, a => replyOf done a
  | .reconnect, a => replyOf done a

def viewOf (w : World Stage) (p : Path) : PathView where
  path := p
  node? := w.outside.service.nodes.get? p
  dataWatch := w.outside.service.armed p .data
  childWatch := w.outside.service.armed p .children
  listensData := (w.coordinator.data.get? p).isSome
  known? := w.coordinator.knownChildren? p

def PathView.isBlank (v : PathView) : Bool :=
  v.node?.isNone && !v.dataWatch && !v.childWatch && !v.listensData && v.known?.isNone

def snapshotOf (paths : List Path) (w : World Stage) : Snapshot where
  alive := w.outside.service.alive
  sessionId := w.outside.service.sessionId
  counts := w.coordinator.watchCounts
  stubborn := w.coordinator.stubbornNodes
  paths := (paths.map (viewOf w)).filter fun v => !v.isBlank

/-- The root and the paths with their ancestors, in ascending order. -/
def pathsInView (watched : List Path) : List Path :=
  (TextSet.ofList (Path.root :: watched.flatMap fun p => p :: Path.ancestors p)).keys

/-- Hands the notifications over one by one, up to a crash. -/
def handOver (host : Host Stage) :
    List Notification → World Stage → Except Stop Unit × World Stage
  | [], w => (.ok (), w)
  | n :: ns, w =>
    match w.onNotification host n with
    | (.ok (), w) => handOver host ns w
    | stopped => stopped

def takeChannel (w : World Stage) : List Notification × World Stage :=
  (w.outside.service.channel,
    onStage w fun s => { s with service := { s.service with channel := [] } })

/-- The oldest notification, taken out of the channel. -/
def takeNote? (w : World Stage) : Option (Notification × World Stage) :=
  match w.outside.service.channel with
  | [] => none
  | n :: rest =>
    some (n, onStage w fun s => { s with service := { s.service with channel := rest } })

/-- Hands over at most `n` notifications, up to a crash. Each leaves the channel when its turn
comes. -/
def pumpUpTo (host : Host Stage) :
    Nat → World Stage → Except Stop (List Notification) × World Stage
  | 0, w => (.ok [], w)
  | n + 1, w =>
    match takeNote? w with
    | none => (.ok [], w)
    | some (note, w) =>
      match w.onNotification host note with
      | (.error stop, w) => (.error stop, w)
      | (.ok (), w) =>
        let (notes, w) := pumpUpTo host n w
        (notes.map (note :: ·), w)

/-- Empties the channel round by round and answers all that was handed over. -/
def pumpRounds (host : Host Stage) :
    Nat → List Notification → World Stage → Reply × World Stage
  | 0, handed, w => (.notifications handed, w)
  | rounds + 1, handed, w =>
    match w.outside.service.channel.length with
    | 0 => (.notifications handed, w)
    | n =>
      match pumpUpTo host n w with
      | (.ok notes, w) => pumpRounds host rounds (handed ++ notes) w
      | (.error stop, w) => (replyOf done (.error stop), w)

def deliverUpTo (host : Host Stage) : Nat → World Stage → World Stage
  | 0, w => w
  | n + 1, w =>
    match w.deliverNext host with
    | none => w
    | some w => deliverUpTo host n w

/-- Lets the workers deliver all that is queued, round by round. -/
def drainRounds (host : Host Stage) : Nat → World Stage → World Stage
  | 0, w => w
  | rounds + 1, w =>
    match w.coordinator.dispatcher.pending.length with
    | 0 => w
    | n => drainRounds host rounds (deliverUpTo host n w)

def drain (host : Host Stage) (rounds : Nat) (w : World Stage) : World Stage :=
  let w := drainRounds host rounds (onStage w ({ · with draining := true }))
  onStage w ({ · with draining := false })

def noteRecovery (w : World Stage) : World Stage :=
  onStage w fun s => { s with record := { s.record with recovered := true } }

/-- A new coordinator in place of the old, unless it could not be made. -/
def replaceCoordinator (result : Except Error Coordinator) (w : World Stage) :
    Reply × World Stage :=
  match result with
  | .ok c => (.nothing, { w with coordinator := c })
  | .error e => (.failed e, w)

def bindState (result : Except Error StateListeners) (w : World Stage) : Reply × World Stage :=
  replaceCoordinator (result.map fun states => { w.coordinator with states := states }) w

def answered {α : Type} (ok : α → Reply) (r : Except Stop α × World Stage) :
    Reply × World Stage :=
  (replyOf ok r.1, r.2)

/-- Changes the service without asking it anything. -/
def upset (f : MemoryService → MemoryService) (w : World Stage) : Reply × World Stage :=
  (.nothing, onStage w fun s => { s with service := f s.service })

/-- One step, by way of the given surroundings. -/
def performStep (host : Host Stage) (paths : List Path) (rounds : Nat) (w : World Stage) :
    Step → Reply × World Stage
  | .listen p l flavour => answered done (w.listen host p l flavour)
  | .unlisten p flavour => answered done (w.unlisten host p flavour)
  | .listenState l state => bindState (w.coordinator.states.bind state l) w
  | .unlistenState state => bindState (w.coordinator.states.unbind state) w
  | .create p d mode => answered Reply.text (w.create host p d mode)
  | .createEphemeral p d recreate => answered Reply.text (w.createEphemeral host p d recreate)
  | .createRecursive p mode => answered Reply.text (w.createRecursive host p mode)
  | .createStubborn p d => answered Reply.text (w.createStubborn host p d)
  | .delete p => answered done (w.delete host p)
  | .reconnect => answered done ((noteRecovery w).reconnect host)
  | .describe =>
    (.text ("WatchSession \x7b coordinator: " ++ w.coordinator.describe ++ ", .. \x7d"), w)
  | .dataChange p => answered done (w.dataChange host p)
  | .childChange p initial => answered done (w.childChange host p (.forPass initial))
  | .relisten => answered done ((noteRecovery w).relisten host)
  | .markStubborn p d => replaceCoordinator (w.coordinator.markStubborn p d) w
  | .unmarkStubborn p =>
    (.flag (w.coordinator.stubborn.contains p), w.update (·.unmarkStubborn p))
  | .stubbornNode p => (((w.coordinator.stubbornNode? p).map Reply.node).getD .nothing, w)
  | .stubbornNodes => (.nodes w.coordinator.stubbornNodes, w)
  | .isListeningState state => (.flag (w.coordinator.states.get? state).isSome, w)
  | .isListeningChildren p => (.flag (w.coordinator.children.contains p), w)
  | .isListeningData p => (.flag (w.coordinator.data.contains p), w)
  | .notifyState state => answered done (w.notifyState host state)
  | .watchCounts => (.counts w.coordinator.watchCounts.1 w.coordinator.watchCounts.2, w)
  | .knownChildren p => (((w.coordinator.knownChildren? p).map Reply.names).getD .nothing, w)
  | .notify note => answered done (w.onNotification host note)
  | .pump => pumpRounds host rounds [] w
  | .pumpOnce =>
    let (notes, w) := takeChannel w
    answered (fun () => .notifications notes) (handOver host notes w)
  | .discard =>
    let (notes, w) := takeChannel w
    (.notifications notes, w)
  | .ask r =>
    let (answer, w) := askService r w
    (replyTo r answer, w)
  | .serviceIsAlive => (.flag w.outside.service.alive, w)
  | .serviceDisconnect => upset MemoryService.disconnect w
  | .serviceExpire => upset MemoryService.expireSession w
  | .external change =>
    let (answer, service) := w.outside.service.change change
    (replyOf done (answer.mapError .failed), onStage w ({ · with service := service }))
  | .nodeData p =>
    (((w.outside.service.nodes.get? p).map fun n => Reply.data n.data).getD .nothing, w)
  | .nodeMode p =>
    (((w.outside.service.nodes.get? p).map fun n => Reply.mode n.mode).getD .nothing, w)
  | .isArmed p kind => (.flag (w.outside.service.armed p kind), w)
  | .sessionId => (.number w.outside.service.sessionId, w)
  | .fault f steps => (.nothing, onStage w fun s => { s with faults := s.faults ++ [(f, steps)] })
  | .clearFaults => (.nothing, onStage w ({ · with faults := [] }))
  | .snapshot => (.snapshot (snapshotOf paths w), w)

/-- Does the steps one after the other, up to a crash, and notes their answers as those of steps
within a step. -/
def performAll (one : World Stage → Step → Reply × World Stage) : Performance
  | [], w => (none, w)
  | (label, step) :: rest, w =>
    match one w step with
    | (.crashed reason, w) => (some reason, w)
    | (reply, w) => performAll one rest (onStage w (·.seeReply label reply))

/-- Does steps within a step. The fuel bounds how deep they lie within each other. -/
def perform (paths : List Path) : Nat → Performance
  | 0 => fun _ w => (none, w)
  | fuel + 1 => performAll (performStep (host (perform paths fuel)) paths fuel)

/-- What is seen of a step from outside. -/
structure Scene where
  reply : Reply
  counts : Nat × Nat
  record : Record

def sortByPath {α : Type} (path : α → Path) (xs : Array α) : Array α :=
  (xs.toList.mergeSort fun a b => decide (path a ≤ path b)).toArray

/-- Among several workers, and in a recovery, only the order at each path is fixed; what is seen is
then listed by path. -/
def Record.arranged (workers : Nat) (r : Record) : Record :=
  let onePath := fun (h : HeardEvent) => h.event.path
  { r with
    calls := if r.recovered then sortByPath Call.path r.calls else r.calls
    inlineEvents := if r.recovered then sortByPath onePath r.inlineEvents else r.inlineEvents
    dispatchedEvents :=
      if r.recovered || 1 < workers then sortByPath onePath r.dispatchedEvents
      else r.dispatchedEvents }

/-- A step of the script itself, with the deliveries that follow it. -/
def playStep (paths : List Path) (fuel : Nat) (w : World Stage) (step : Step) :
    Scene × World Stage :=
  let host := host (perform paths fuel)
  let w := onStage w ({ · with record := .blank })
  let (reply, w) := performStep host paths fuel w step
  let w := drain host fuel w
  ({ reply := reply
     counts := w.coordinator.watchCounts
     record := w.outside.record.arranged w.coordinator.dispatcher.size }, w)

def playAll (paths : List Path) (fuel : Nat) : Steps → World Stage → List Scene × World Stage
  | [], w => ([], w)
  | (_, step) :: rest, w =>
    let (scene, w) := playStep paths fuel w step
    let (scenes, w) := playAll paths fuel rest w
    (scene :: scenes, w)

def Script.opening (s : Script) : World Stage where
  coordinator := .new (.ofSize s.workers) s.failFast
  outside :=
    { service := .new
      unwatchByReading := s.unwatchByReading
      faults := []
      listeners := s.listeners
      heard := ∅
      draining := false
      record := .blank }

/-- Plays the script: the scenes of its steps, and the state at the end. -/
def Script.play (s : Script) : List Scene × Snapshot :=
  let paths := pathsInView s.watchedPaths
  let (scenes, w) := playAll paths (s.weight + 2) s.steps s.opening
  (scenes, snapshotOf paths w)

end DurableWatch.Rehearsal
