import DurableWatch.Coordinator

/-!
# The coordinator and its surroundings

The coordinator asks the service and tells the listeners; both are outside it and may do anything,
calling back into the coordinator included. A `Host` says what they do: each of its functions takes
the whole world and answers with the world it leaves behind.
-/
namespace DurableWatch

structure World (σ : Type) where
  coordinator : Coordinator
  outside : σ

/-- How a listener's call ends. A crash of a listener called inline ends the call that told it. -/
inductive Hearing
  | fine
  | failed
  | crashed (reason : String)
  deriving DecidableEq, Repr

structure Host (σ : Type) where
  isAlive : World σ → Bool × World σ
  ask : (r : Request) → World σ → Except Stop r.Answer × World σ
  hear : Listener → Event → World σ → Hearing × World σ
  hearState : Listener → SessionState → World σ → Hearing × World σ

namespace World

variable {σ : Type}

def update (w : World σ) (f : Coordinator → Coordinator) : World σ :=
  { w with coordinator := f w.coordinator }

@[simp] theorem coordinator_update (w : World σ) (f : Coordinator → Coordinator) :
    (w.update f).coordinator = f w.coordinator := rfl

@[simp] theorem outside_update (w : World σ) (f : Coordinator → Coordinator) :
    (w.update f).outside = w.outside := rfl

/-- The event reaches the listener before the call goes on. -/
def tellInline (host : Host σ) (r : Report) (w : World σ) : Hearing × World σ :=
  host.hear r.listener r.event w

/-- Tells one report after the other, up to the first crash. -/
def tellAll (host : Host σ) : List Report → World σ → Except Stop Unit × World σ
  | [], w => (.ok (), w)
  | r :: rs, w =>
    match tellInline host r w with
    | (.crashed reason, w) => (.error (.crashed reason), w)
    | (_, w) => tellAll host rs w

/-- A worker takes the next job and the listener hears its event; how that ends changes nothing. -/
def deliverNext (host : Host σ) (w : World σ) : Option (World σ) :=
  w.coordinator.dispatcher.next?.map fun (job, rest) =>
    (host.hear job.listener job.event (w.update fun c => { c with dispatcher := rest })).2

/-- Calls the listener bound to the state, if there is one. -/
def notifyState (host : Host σ) (state : SessionState) (w : World σ) :
    Except Stop Unit × World σ :=
  match w.coordinator.states.get? state with
  | none => (.ok (), w)
  | some l =>
    match host.hearState l state w with
    | (.crashed reason, w) => (.error (.crashed reason), w)
    | (_, w) => (.ok (), w)

/-- The operation stops with this cause. -/
def fail {α : Type} (e : Error) (w : World σ) : Except Stop α × World σ :=
  (.error (.failed e), w)

/-- The session has to be alive before an operation starts. -/
def ensureAlive (host : Host σ) (w : World σ) : Except Stop Unit × World σ :=
  match host.isAlive w with
  | (true, w) => (.ok (), w)
  | (false, w) => fail (.notConnected "session is not alive") w

end World

end DurableWatch
