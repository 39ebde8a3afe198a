import DurableWatch.Error

/-!
# Settings of a session
-/
namespace DurableWatch

structure Config where
  /-- Number of workers that call listeners. -/
  workerPoolSize : Nat := 2
  /-- Whether the first path that cannot be recovered ends a recovery. -/
  failFast : Bool := false
  deriving DecidableEq, Repr

/-- There has to be a worker. -/
def Config.validate (c : Config) : Except Error Config :=
  if c.workerPoolSize = 0 then
    .error (.config (.message "dispatcher.worker_pool_size must be greater than 0"))
  else .ok c

end DurableWatch
