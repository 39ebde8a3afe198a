import DurableWatch.Event

/-!
# The dispatcher

A fixed number of workers, each with a queue of its own. Every event of one path goes to the same
worker, so the events of a path are delivered in the order in which they were submitted, whatever
the workers do in between. Closing the dispatcher stops submissions; what is queued is still
delivered.
-/
namespace DurableWatch

/-- An event on its way to a listener. -/
structure Job where
  listener : Listener
  event : Event
  deriving DecidableEq

structure Dispatcher where
  /-- Any function will do: the worker of a path is its value modulo the number of workers. -/
  route : Path → Nat
  queues : List (List Job)
  isOpen : Bool
  size_pos : 0 < queues.length

namespace Dispatcher

/-- A spread of paths over workers that depends on every character. -/
def spread (p : Path) : Nat :=
  p.toList.foldl (fun h c => (31 * h + c.toNat) % 4294967296) 7

/-- At least one worker, whatever size is asked for. -/
def withRoute (route : Path → Nat) (size : Nat) : Dispatcher where
  route := route
  queues := List.replicate (max size 1) []
  isOpen := true
  size_pos := by simp only [List.length_replicate]; omega

def ofSize (size : Nat) : Dispatcher := withRoute spread size

def size (d : Dispatcher) : Nat := d.queues.length

def workerOf (d : Dispatcher) (p : Path) : Nat := d.route p % d.size

theorem workerOf_lt (d : Dispatcher) (p : Path) : d.workerOf p < d.size :=
  Nat.mod_lt _ d.size_pos

/-- Appends the job to the queue of its path's worker. -/
def submit (d : Dispatcher) (job : Job) : Dispatcher :=
  if d.isOpen then
    { d with
      queues := d.queues.modify (d.workerOf job.event.path) (· ++ [job])
      size_pos := by simpa using d.size_pos }
  else d

def close (d : Dispatcher) : Dispatcher := { d with isOpen := false }

/-- The next job of worker `i`, with what is left. -/
def take? (d : Dispatcher) (i : Nat) : Option (Job × Dispatcher) :=
  match d.queues[i]? with
  | some (job :: rest) =>
    some (job, { d with queues := d.queues.set i rest, size_pos := by simpa using d.size_pos })
  | _ => none

/-- The next job of the first worker that has one. -/
def next? (d : Dispatcher) : Option (Job × Dispatcher) :=
  (List.range d.size).findSome? d.take?

def pending (d : Dispatcher) : List Job := d.queues.flatten

/-- Takes jobs, at most `n` of them. -/
def takeUpTo : Nat → Dispatcher → List Job × Dispatcher
  | 0, d => ([], d)
  | n + 1, d =>
    match d.next? with
    | none => ([], d)
    | some (job, rest) =>
      let (jobs, rest) := takeUpTo n rest
      (job :: jobs, rest)

/-- Takes all jobs that are queued, in an order in which the workers may deliver them. -/
def drain (d : Dispatcher) : List Job × Dispatcher := takeUpTo d.pending.length d

def describe (d : Dispatcher) : String :=
  "Dispatcher \x7b workers: " ++ toString d.size ++ " \x7d"

end Dispatcher

end DurableWatch
