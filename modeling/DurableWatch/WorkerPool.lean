import DurableWatch.Dispatcher
import DurableWatch.World

/-!
# The threads around a dispatcher

Each worker is a thread that takes jobs from its own queue and calls the listener of each. Threads
of the application and listeners in a call submit jobs; one of them drops the dispatcher in the
end. A `WorkerPool` is the state of all of them between two steps, and an `Act` is a step of one, so
that a list of acts is an interleaving.
-/
namespace DurableWatch

/-- Who uses the dispatcher: a thread of the application, or the listener in a call on a worker. -/
inductive Caller
  | thread (number : Nat)
  | listener (worker : Nat)
  deriving DecidableEq, Repr

/-- What a worker does: it waits at its queue, is in a call to the listener of a job, or is gone. -/
inductive WorkerState
  | waiting
  | calling (job : Job)
  | stopped
  deriving DecidableEq

structure WorkerPool where
  dispatcher : Dispatcher
  workers : List WorkerState
  /-- The jobs that were submitted, in the order in which their queues took them. -/
  submitted : List Job
  /-- The calls to listeners, in the order in which they began. -/
  delivered : List Job
  /-- How calls have ended, which goes to the log and nowhere else. -/
  logged : List (Event × Hearing)
  /-- Who is in the course of dropping the dispatcher. -/
  dropping : Option Caller

namespace WorkerPool

/-- The pool of a new dispatcher, all of whose workers have started. -/
def new (route : Path → Nat) (size : Nat) : WorkerPool where
  dispatcher := .withRoute route size
  workers := List.replicate (max size 1) .waiting
  submitted := []
  delivered := []
  logged := []
  dropping := none

/-- One step of one thread. -/
inductive Act
  | submit (caller : Caller) (job : Job)
  /-- The last owner of the dispatcher gives it up, and with that closes the queues. -/
  | drop (caller : Caller)
  /-- The worker takes its next job and calls the listener. -/
  | call (worker : Nat)
  /-- The listener's call ends: in peace, with an error or in a panic. -/
  | finish (worker : Nat) (outcome : Hearing)
  /-- The worker finds its queue closed and empty. -/
  | stop (worker : Nat)
  /-- Whoever drops the dispatcher has joined the workers. -/
  | joined
  deriving DecidableEq

/-- Whether the caller is running: of the listeners, those in a call are. -/
def runs (pool : WorkerPool) : Caller → Bool
  | .thread _ => true
  | .listener i =>
    match pool.workers[i]? with
    | some (.calling _) => true
    | _ => false

/-- Whether the workers that the caller joins have all stopped. A listener does not join the worker
that it runs on, which would wait for itself. -/
def stoppedFor (pool : WorkerPool) (caller : Caller) : Bool :=
  (List.range pool.workers.length).all fun i =>
    caller = .listener i || pool.workers[i]? = some .stopped

/-- The pool after the act, if the act can be done now. While the dispatcher is dropped by a
listener, its call goes on. -/
def perform? (pool : WorkerPool) : Act → Option WorkerPool
  | .submit caller job =>
    if pool.dispatcher.isOpen && pool.runs caller then
      some { pool with
        dispatcher := pool.dispatcher.submit job
        submitted := pool.submitted ++ [job] }
    else none
  | .drop caller =>
    if pool.dispatcher.isOpen && pool.runs caller then
      some { pool with dispatcher := pool.dispatcher.close, dropping := some caller }
    else none
  | .call i =>
    match pool.workers[i]?, pool.dispatcher.take? i with
    | some .waiting, some (job, rest) =>
      some { pool with
        dispatcher := rest
        workers := pool.workers.set i (.calling job)
        delivered := pool.delivered ++ [job] }
    | _, _ => none
  | .finish i outcome =>
    match pool.workers[i]? with
    | some (.calling job) =>
      if pool.dropping = some (.listener i) then none
      else
        some { pool with
          workers := pool.workers.set i .waiting
          logged := pool.logged ++ [(job.event, outcome)] }
    | _ => none
  | .stop i =>
    if pool.workers[i]? = some .waiting ∧ pool.dispatcher.isOpen = false ∧
        pool.dispatcher.queues[i]? = some [] then
      some { pool with workers := pool.workers.set i .stopped }
    else none
  | .joined =>
    match pool.dropping with
    | some caller =>
      if pool.stoppedFor caller then some { pool with dropping := none } else none
    | none => none

/-- The pool after the acts, if each can be done in its turn. -/
def run? (pool : WorkerPool) (acts : List Act) : Option WorkerPool := acts.foldlM perform? pool

end WorkerPool

end DurableWatch
