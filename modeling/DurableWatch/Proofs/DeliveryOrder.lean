import DurableWatch.WorkerPool
import Mathlib.Tactic

/-!
# Order and completeness of delivery

The jobs of one path all stand in the queue of one worker, and only that worker takes them. So what
has been delivered of a path, followed by what of it is still queued, is what was submitted for it,
and every act keeps this, whoever does it. From there a queue that is closed can only get shorter,
and what ends with empty queues has delivered everything.
-/
namespace DurableWatch

/-- The jobs that tell of the node at `p`. -/
def jobsFor (p : Path) (jobs : List Job) : List Job := jobs.filter fun job => job.event.path = p

@[simp] theorem jobsFor_append (p : Path) (jobs jobs' : List Job) :
    jobsFor p (jobs ++ jobs') = jobsFor p jobs ++ jobsFor p jobs' := List.filter_append ..

theorem jobsFor_single (p : Path) (job : Job) :
    jobsFor p [job] = if job.event.path = p then [job] else [] := by
  by_cases h : job.event.path = p <;> simp [jobsFor, h]

theorem jobsFor_cons (p : Path) (job : Job) (jobs : List Job) :
    jobsFor p (job :: jobs) = jobsFor p [job] ++ jobsFor p jobs := jobsFor_append p [job] jobs

/-- Lists that hold the same jobs for every path hold the same jobs. -/
theorem perm_of_jobsFor {jobs jobs' : List Job} (same : ∀ p, jobsFor p jobs = jobsFor p jobs') :
    jobs.Perm jobs' := by
  refine List.perm_iff_count.2 fun job => ?_
  have counted (l : List Job) : (jobsFor job.event.path l).count job = l.count job :=
    List.count_filter (by simp)
  rw [← counted jobs, ← counted jobs', same]

namespace Dispatcher

variable {d rest : Dispatcher} {job : Job} {i : Nat}

/-- What waits for worker `i`. -/
def queue (d : Dispatcher) (i : Nat) : List Job := d.queues[i]?.getD []

@[simp] theorem size_submit (d : Dispatcher) (job : Job) : (d.submit job).size = d.size := by
  unfold submit
  split
  · exact List.length_modify ..
  · rfl

@[simp] theorem workerOf_submit (d : Dispatcher) (job : Job) (p : Path) :
    (d.submit job).workerOf p = d.workerOf p := by
  have route : (d.submit job).route = d.route := by
    unfold submit
    split <;> rfl
  rw [workerOf, workerOf, route, size_submit]

theorem queue_submit (serves : d.isOpen = true) (i : Nat) : (d.submit job).queue i =
    d.queue i ++ if d.workerOf job.event.path = i then [job] else [] := by
  have bound := d.workerOf_lt job.event.path
  rw [size] at bound
  simp only [queue, submit, serves, if_true, List.getElem?_modify]
  by_cases h : d.workerOf job.event.path = i
  · subst h
    simp [List.getElem?_eq_getElem bound]
  · simp [h]

/-- Worker `i` takes the first of its jobs, and that is all that changes. -/
structure Took (d : Dispatcher) (i : Nat) (job : Job) (rest : Dispatcher) : Prop where
  size : rest.size = d.size
  workerOf : ∀ p, rest.workerOf p = d.workerOf p
  isOpen : rest.isOpen = d.isOpen
  own : d.queue i = job :: rest.queue i
  others : ∀ j ≠ i, rest.queue j = d.queue j

theorem took_of_take? (taken : d.take? i = some (job, rest)) : Took d i job rest := by
  unfold take? at taken
  split at taken
  · next first left found =>
    cases taken
    have bound : i < d.queues.length := (List.getElem?_eq_some_iff.1 found).1
    refine ⟨by simp [Dispatcher.size], fun p => by simp [Dispatcher.workerOf, Dispatcher.size],
      rfl, ?_, fun j other => ?_⟩
    · simp only [queue, found, Option.getD_some, List.getElem?_set_self bound]
    · simp [queue, other.symm]
  · cases taken

theorem queue_of_pending (drained : d.pending = []) (i : Nat) : d.queue i = [] := by
  unfold queue
  cases found : d.queues[i]? with
  | none => rfl
  | some q =>
    have member : q ∈ d.queues := List.mem_of_getElem? found
    exact List.flatten_eq_nil_iff.1 drained q member

end Dispatcher

namespace WorkerPool

variable {pool pool' : WorkerPool} {act : Act}

/-- What an act needs, and what it does. -/
inductive Performed (pool : WorkerPool) : Act → WorkerPool → Prop
  | submit {caller : Caller} {job : Job} (serves : pool.dispatcher.isOpen = true)
      (runs : pool.runs caller = true) :
      Performed pool (.submit caller job)
        { pool with
          dispatcher := pool.dispatcher.submit job
          submitted := pool.submitted ++ [job] }
  | drop {caller : Caller} (serves : pool.dispatcher.isOpen = true)
      (runs : pool.runs caller = true) :
      Performed pool (.drop caller)
        { pool with dispatcher := pool.dispatcher.close, dropping := some caller }
  | call {i : Nat} {job : Job} {rest : Dispatcher} (waits : pool.workers[i]? = some .waiting)
      (taken : pool.dispatcher.take? i = some (job, rest)) :
      Performed pool (.call i)
        { pool with
          dispatcher := rest
          workers := pool.workers.set i (.calling job)
          delivered := pool.delivered ++ [job] }
  | finish {i : Nat} {job : Job} (outcome : Hearing)
      (calls : pool.workers[i]? = some (.calling job))
      (free : pool.dropping ≠ some (.listener i)) :
      Performed pool (.finish i outcome)
        { pool with
          workers := pool.workers.set i .waiting
          logged := pool.logged ++ [(job.event, outcome)] }
  | stop {i : Nat} (waits : pool.workers[i]? = some .waiting)
      (closed : pool.dispatcher.isOpen = false)
      (drained : pool.dispatcher.queues[i]? = some []) :
      Performed pool (.stop i) { pool with workers := pool.workers.set i .stopped }
  | joined {caller : Caller} (dropper : pool.dropping = some caller)
      (stopped : pool.stoppedFor caller = true) :
      Performed pool .joined { pool with dropping := none }

theorem performed_of_perform? (done : pool.perform? act = some pool') :
    Performed pool act pool' := by
  cases act with
  | submit caller job =>
    simp only [perform?] at done
    split at done
    · next able =>
      cases done
      obtain ⟨serves, runs⟩ := Bool.and_eq_true_iff.1 able
      exact .submit serves runs
    · cases done
  | drop caller =>
    simp only [perform?] at done
    split at done
    · next able =>
      cases done
      obtain ⟨serves, runs⟩ := Bool.and_eq_true_iff.1 able
      exact .drop serves runs
    · cases done
  | call i =>
    simp only [perform?] at done
    split at done
    · next job rest waits taken =>
      cases done
      exact .call waits taken
    · cases done
  | finish i outcome =>
    simp only [perform?] at done
    split at done
    · next job calls =>
      split at done
      · cases done
      · next free =>
        cases done
        exact .finish outcome calls free
    · cases done
  | stop i =>
    simp only [perform?] at done
    split at done
    · next able =>
      cases done
      exact .stop able.1 able.2.1 able.2.2
    · cases done
  | joined =>
    simp only [perform?] at done
    split at done
    · next caller dropper =>
      split at done
      · next stopped =>
        cases done
        exact .joined dropper stopped
      · cases done
    · cases done

theorem Performed.perform? (performed : Performed pool act pool') :
    pool.perform? act = some pool' := by
  cases performed with
  | submit serves runs => simp only [WorkerPool.perform?, serves, runs, Bool.and_self, if_true]
  | drop serves runs => simp only [WorkerPool.perform?, serves, runs, Bool.and_self, if_true]
  | call waits taken => simp only [WorkerPool.perform?, waits, taken]
  | finish outcome calls free => simp only [WorkerPool.perform?, calls, if_neg free]
  | stop waits closed drained =>
    simp only [WorkerPool.perform?, waits, closed, drained, and_self, if_true]
  | joined dropper stopped => simp only [WorkerPool.perform?, dropper, stopped, if_true]

/-- What every interleaving keeps. -/
structure Ordered (pool : WorkerPool) : Prop where
  sized : pool.workers.length = pool.dispatcher.size
  routed : ∀ i, ∀ job ∈ pool.dispatcher.queue i, pool.dispatcher.workerOf job.event.path = i
  /-- Of each path, what has been delivered comes first and what is queued comes next. -/
  fifo : ∀ p, jobsFor p pool.delivered ++
    jobsFor p (pool.dispatcher.queue (pool.dispatcher.workerOf p)) = jobsFor p pool.submitted
  /-- No worker leaves a job behind. -/
  stopped : ∀ i, pool.workers[i]? = some .stopped →
    pool.dispatcher.isOpen = false ∧ pool.dispatcher.queue i = []
  dropping : ∀ caller, pool.dropping = some caller →
    pool.dispatcher.isOpen = false ∧ pool.runs caller = true

theorem ordered_new (route : Path → Nat) (size : Nat) : (new route size).Ordered := by
  have empty (i : Nat) : (new route size).dispatcher.queue i = [] := by
    simp only [new, Dispatcher.queue, Dispatcher.withRoute, List.getElem?_replicate]
    split <;> rfl
  refine ⟨by simp [new, Dispatcher.withRoute, Dispatcher.size], ?_, ?_, ?_, nofun⟩
  · intro i job queued
    rw [empty i] at queued
    cases queued
  · intro p
    rw [empty]
    rfl
  · intro i stopped
    simp only [new, List.getElem?_replicate] at stopped
    split at stopped <;> cases stopped

/-- A caller goes on running as long as its own worker does not change. -/
theorem runs_set {caller : Caller} {i : Nat} {state : WorkerState} (pool pool' : WorkerPool)
    (set : pool'.workers = pool.workers.set i state) (other : caller ≠ .listener i) :
    pool'.runs caller = pool.runs caller := by
  cases caller with
  | thread _ => rfl
  | listener j =>
    have apart : i ≠ j := by
      rintro rfl
      exact other rfl
    simp [runs, set, apart]

theorem ordered_submit (ordered : pool.Ordered) (job : Job)
    (serves : pool.dispatcher.isOpen = true) :
    Ordered { pool with
      dispatcher := pool.dispatcher.submit job
      submitted := pool.submitted ++ [job] } where
  sized := by simpa using ordered.sized
  routed i queued hq := by
    rw [Dispatcher.queue_submit serves, List.mem_append] at hq
    rw [Dispatcher.workerOf_submit]
    rcases hq with before | added
    · exact ordered.routed i queued before
    · split at added
      · next h =>
        rw [List.mem_singleton.1 added]
        exact h
      · cases added
  fifo p := by
    simp only [Dispatcher.workerOf_submit, Dispatcher.queue_submit serves, jobsFor_append,
      ← ordered.fifo p, List.append_assoc]
    by_cases h : job.event.path = p
    · simp [h]
    · by_cases hw : pool.dispatcher.workerOf job.event.path = pool.dispatcher.workerOf p
      · simp [hw]
      · simp [hw, jobsFor_single, h]
        rfl
  stopped i stopped := by
    rw [(ordered.stopped i stopped).1] at serves
    cases serves
  dropping caller h := by
    rw [(ordered.dropping caller h).1] at serves
    cases serves

theorem ordered_drop (ordered : pool.Ordered) {caller : Caller} (runs : pool.runs caller = true) :
    Ordered { pool with dispatcher := pool.dispatcher.close, dropping := some caller } where
  sized := ordered.sized
  routed := ordered.routed
  fifo := ordered.fifo
  stopped i stopped := ⟨rfl, (ordered.stopped i stopped).2⟩
  dropping _ h := by
    cases h
    exact ⟨rfl, runs⟩

theorem ordered_call (ordered : pool.Ordered) {i : Nat} {job : Job} {rest : Dispatcher}
    (waits : pool.workers[i]? = some .waiting) (took : pool.dispatcher.Took i job rest) :
    Ordered { pool with
      dispatcher := rest
      workers := pool.workers.set i (.calling job)
      delivered := pool.delivered ++ [job] } where
  sized := by simp [ordered.sized, took.size]
  routed j queued hq := by
    rw [took.workerOf]
    by_cases hj : j = i
    · subst hj
      refine ordered.routed j queued ?_
      rw [took.own]
      exact List.mem_cons_of_mem _ hq
    · rw [took.others j hj] at hq
      exact ordered.routed j queued hq
  fifo p := by
    have own : pool.dispatcher.workerOf job.event.path = i := by
      refine ordered.routed i job ?_
      rw [took.own]
      exact List.mem_cons_self
    simp only [took.workerOf, ← ordered.fifo p, jobsFor_append, List.append_assoc]
    by_cases hp : pool.dispatcher.workerOf p = i
    · rw [hp, took.own, jobsFor_cons p job (rest.queue i)]
    · have about : job.event.path ≠ p := by
        rintro rfl
        exact hp own
      rw [took.others _ hp, jobsFor_single, if_neg about, List.nil_append]
  stopped j stopped := by
    have apart : i ≠ j := by
      rintro rfl
      simp [List.getElem?_set] at stopped
    rw [took.isOpen, took.others j apart.symm]
    exact ordered.stopped j (by simpa [apart] using stopped)
  dropping caller h := by
    obtain ⟨closed, runs⟩ := ordered.dropping caller h
    refine ⟨took.isOpen.trans closed, (runs_set pool _ rfl ?_).trans runs⟩
    rintro rfl
    simp [WorkerPool.runs, waits] at runs

theorem ordered_finish (ordered : pool.Ordered) {i : Nat} {logged : List (Event × Hearing)}
    (free : pool.dropping ≠ some (.listener i)) :
    Ordered { pool with workers := pool.workers.set i .waiting, logged := logged } where
  sized := by simp [ordered.sized]
  routed := ordered.routed
  fifo := ordered.fifo
  stopped j stopped := by
    have apart : i ≠ j := by
      rintro rfl
      simp [List.getElem?_set] at stopped
    exact ordered.stopped j (by simpa [apart] using stopped)
  dropping caller h := by
    obtain ⟨closed, runs⟩ := ordered.dropping caller h
    refine ⟨closed, (runs_set pool _ rfl ?_).trans runs⟩
    rintro rfl
    exact free h

theorem ordered_stop (ordered : pool.Ordered) {i : Nat}
    (waits : pool.workers[i]? = some .waiting) (closed : pool.dispatcher.isOpen = false)
    (drained : pool.dispatcher.queues[i]? = some []) :
    Ordered { pool with workers := pool.workers.set i .stopped } where
  sized := by simp [ordered.sized]
  routed := ordered.routed
  fifo := ordered.fifo
  stopped j stopped := by
    refine ⟨closed, ?_⟩
    by_cases apart : i = j
    · subst apart
      simp [Dispatcher.queue, drained]
    · exact (ordered.stopped j (by simpa [apart] using stopped)).2
  dropping caller h := by
    obtain ⟨_, runs⟩ := ordered.dropping caller h
    refine ⟨closed, (runs_set pool _ rfl ?_).trans runs⟩
    rintro rfl
    simp [WorkerPool.runs, waits] at runs

theorem Ordered.perform (ordered : pool.Ordered) (done : pool.perform? act = some pool') :
    pool'.Ordered := by
  cases performed_of_perform? done with
  | submit serves _ => exact ordered_submit ordered _ serves
  | drop _ runs => exact ordered_drop ordered runs
  | call waits taken => exact ordered_call ordered waits (Dispatcher.took_of_take? taken)
  | finish _ _ free => exact ordered_finish ordered free
  | stop waits closed drained => exact ordered_stop ordered waits closed drained
  | joined _ _ =>
    exact ⟨ordered.sized, ordered.routed, ordered.fifo, ordered.stopped, nofun⟩

theorem run?_cons (pool : WorkerPool) (act : Act) (acts : List Act) :
    pool.run? (act :: acts) = (pool.perform? act).bind fun next => next.run? acts :=
  List.foldlM_cons ..

theorem Ordered.run {acts : List Act} (ordered : pool.Ordered)
    (ran : pool.run? acts = some pool') : pool'.Ordered := by
  induction acts generalizing pool with
  | nil =>
    cases ran
    exact ordered
  | cons act acts ih =>
    rw [run?_cons, Option.bind_eq_some_iff] at ran
    obtain ⟨next, done, ran⟩ := ran
    exact ih (ordered.perform done) ran

/-- With the queues empty, what has been delivered is what was submitted. -/
theorem Ordered.perm_of_drained (ordered : pool.Ordered) (drained : pool.dispatcher.pending = []) :
    pool.delivered.Perm pool.submitted := by
  refine perm_of_jobsFor fun p => ?_
  rw [← ordered.fifo p, Dispatcher.queue_of_pending drained]
  exact (List.append_nil _).symm

/-! ### The outcome of a call -/

/-- The act with the outcome of a call left out. -/
def Act.muted : Act → Act
  | .finish i _ => .finish i .fine
  | act => act

theorem muted_eq {act act' : Act} (same : act'.muted = act.muted) :
    act' = act ∨ ∃ i outcome outcome', act = .finish i outcome ∧ act' = .finish i outcome' := by
  cases act with
  | finish i outcome =>
    cases act' with
    | finish j outcome' =>
      obtain rfl : j = i := by
        simp only [Act.muted, Act.finish.injEq, and_true] at same
        exact same
      exact .inr ⟨j, outcome, outcome', rfl, rfl⟩
    | _ => cases same
  | _ =>
    cases act' with
    | finish j outcome' => cases same
    | _ => exact .inl same

theorem Performed.relogged (performed : Performed pool act pool') (log : List (Event × Hearing)) :
    ∃ log', Performed { pool with logged := log } act { pool' with logged := log' } := by
  cases performed with
  | submit serves runs => exact ⟨log, .submit serves runs⟩
  | drop serves runs => exact ⟨log, .drop serves runs⟩
  | call waits taken => exact ⟨log, .call waits taken⟩
  | finish outcome calls free => exact ⟨_, .finish outcome calls free⟩
  | stop waits closed drained => exact ⟨log, .stop waits closed drained⟩
  | joined dropper stopped => exact ⟨log, .joined dropper stopped⟩

/-- Neither the log nor the outcome of a call has a part in what an act does but for the log. -/
theorem perform?_relogged {act' : Act} (done : pool.perform? act = some pool')
    (same : act'.muted = act.muted) (log : List (Event × Hearing)) :
    ∃ log', perform? { pool with logged := log } act' = some { pool' with logged := log' } := by
  have performed := performed_of_perform? done
  obtain rfl | ⟨i, outcome, outcome', rfl, rfl⟩ := muted_eq same
  · obtain ⟨log', relogged⟩ := performed.relogged log
    exact ⟨log', relogged.perform?⟩
  · cases performed with
    | finish _ calls free =>
      exact ⟨_, Performed.perform? (.finish outcome' calls free)⟩

theorem run?_relogged {acts acts' : List Act} (ran : pool.run? acts = some pool')
    (same : acts'.map Act.muted = acts.map Act.muted) (log : List (Event × Hearing)) :
    ∃ log', run? { pool with logged := log } acts' = some { pool' with logged := log' } := by
  induction acts generalizing pool acts' log with
  | nil =>
    cases ran
    obtain rfl := List.map_eq_nil_iff.1 same
    exact ⟨log, rfl⟩
  | cons act acts ih =>
    obtain ⟨act', acts', rfl, first, others⟩ := List.map_eq_cons_iff.1 same
    rw [run?_cons, Option.bind_eq_some_iff] at ran
    obtain ⟨next, done, ran⟩ := ran
    obtain ⟨log₁, done'⟩ := perform?_relogged done first log
    obtain ⟨log₂, ran'⟩ := ih ran others log₁
    refine ⟨log₂, ?_⟩
    rw [run?_cons, done']
    exact ran'

/-- In every interleaving, each path finds the queue of a worker that serves it while the dispatcher
is in use; of each path, a first part of what was submitted has been delivered, in that order; with
the dispatcher dropped and the queues empty, all that was submitted has been delivered once. How the
calls end makes no difference but to the log. -/
theorem delivery_in_order {route : Path → Nat} {size : Nat} {acts : List Act}
    (ran : (new route size).run? acts = some pool) :
    (∀ p, ∃ state, pool.workers[pool.dispatcher.workerOf p]? = some state ∧
      pool.dispatcher.workerOf p < pool.dispatcher.size ∧
      (pool.dispatcher.isOpen = true → state ≠ .stopped)) ∧
    (∀ p, jobsFor p pool.delivered <+: jobsFor p pool.submitted) ∧
    (pool.dispatcher.isOpen = false → pool.dispatcher.pending = [] →
      pool.delivered.Perm pool.submitted) ∧
    ∀ acts' : List Act, acts'.map Act.muted = acts.map Act.muted →
      ∃ log, (new route size).run? acts' = some { pool with logged := log } := by
  have ordered := (ordered_new route size).run ran
  refine ⟨fun p => ?_, fun p => ⟨_, ordered.fifo p⟩, fun _ => ordered.perm_of_drained, ?_⟩
  · have bound := pool.dispatcher.workerOf_lt p
    have there : pool.dispatcher.workerOf p < pool.workers.length := ordered.sized ▸ bound
    refine ⟨pool.workers[pool.dispatcher.workerOf p], List.getElem?_eq_getElem there, bound, ?_⟩
    intro serves stopped
    have closed := (ordered.stopped (pool.dispatcher.workerOf p)
      ((List.getElem?_eq_getElem there).trans (congrArg some stopped))).1
    rw [serves] at closed
    cases closed
  · intro acts' same
    exact run?_relogged ran same []

/-- Two threads and a listener submit, and the second call on worker 0 drops the dispatcher. -/
def busyDay (outcome outcome' : Hearing) : List Act :=
  [.submit (.thread 0) ⟨"l", "/a", .deleted⟩, .submit (.thread 1) ⟨"m", "/b", .deleted⟩, .call 0,
    .submit (.listener 0) ⟨"l", "/a", .created .empty⟩, .finish 0 outcome, .call 0,
    .drop (.listener 0), .call 1, .finish 1 outcome', .stop 1, .joined, .finish 0 .fine, .stop 0]

theorem delivery_in_order_through_crash :
    let start := new (fun p => if p = "/a" then 0 else 1) 2
    ∃ pool log, start.run? (busyDay (.crashed "boom") .failed) = some pool ∧
      pool.submitted.length = 3 ∧ pool.delivered.Perm pool.submitted ∧
      start.run? (busyDay .fine .fine) = some { pool with logged := log } := by
  intro start
  have ran : start.run? (busyDay (.crashed "boom") .failed) = some _ := rfl
  obtain ⟨-, -, complete, heedless⟩ := delivery_in_order ran
  obtain ⟨log, ran'⟩ := heedless (busyDay .fine .fine) rfl
  exact ⟨_, log, ran, rfl, complete rfl rfl, ran'⟩

end WorkerPool

end DurableWatch
