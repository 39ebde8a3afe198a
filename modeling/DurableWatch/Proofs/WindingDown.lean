import DurableWatch.Proofs.DeliveryOrder

/-!
# The end of a dropped dispatcher

From the drop on each act brings the end nearer by one step, whichever thread takes it, and as long
as a worker is there or the drop has not returned, some act can be done: the one worker that may
have to wait for others is the one whose listener drops the dispatcher, and none of the others
waits for it.
-/
namespace DurableWatch

/-- The steps that a worker takes before it is gone, the jobs in its queue apart. -/
def WorkerState.steps : WorkerState → Nat
  | .waiting => 1
  | .calling _ => 2
  | .stopped => 0

theorem sum_map_set {α : Type} (f : α → Nat) {l : List α} {i : Nat} {a : α} (b : α)
    (found : l[i]? = some a) : ((l.set i b).map f).sum + f a = (l.map f).sum + f b := by
  induction l generalizing i with
  | nil => cases found
  | cons c l ih =>
    cases i with
    | zero =>
      cases found
      simp only [List.set_cons_zero, List.map_cons, List.sum_cons]
      omega
    | succ i =>
      have rest := ih found
      simp only [List.set_cons_succ, List.map_cons, List.sum_cons]
      omega

theorem Dispatcher.pending_of_take? {d rest : Dispatcher} {i : Nat} {job : Job}
    (taken : d.take? i = some (job, rest)) : d.pending.length = rest.pending.length + 1 := by
  unfold take? at taken
  split at taken
  · next first left found =>
    cases taken
    have sum := sum_map_set List.length left found
    simp only [pending, List.length_flatten]
    simp only [List.length_cons] at sum
    omega
  · cases taken

namespace WorkerPool

variable {pool pool' : WorkerPool} {act : Act}

/-- The steps that are left when the dispatcher has been dropped, two for each job in a queue. -/
def remaining (pool : WorkerPool) : Nat :=
  2 * pool.dispatcher.pending.length + (pool.workers.map WorkerState.steps).sum +
    pool.dropping.toList.length

theorem remaining_of_perform? (closed : pool.dispatcher.isOpen = false)
    (done : pool.perform? act = some pool') :
    pool'.dispatcher.isOpen = false ∧ pool'.submitted = pool.submitted ∧
      pool.remaining = pool'.remaining + 1 := by
  cases performed_of_perform? done with
  | submit serves _ =>
    rw [closed] at serves
    cases serves
  | drop serves _ =>
    rw [closed] at serves
    cases serves
  | @call i job rest waits taken =>
    have queued := Dispatcher.pending_of_take? taken
    have worked := sum_map_set WorkerState.steps (.calling job) waits
    refine ⟨(Dispatcher.took_of_take? taken).isOpen.trans closed, rfl, ?_⟩
    simp only [WorkerState.steps] at worked
    simp only [remaining]
    omega
  | finish _ calls _ =>
    have worked := sum_map_set WorkerState.steps .waiting calls
    refine ⟨closed, rfl, ?_⟩
    simp only [WorkerState.steps] at worked
    simp only [remaining]
    omega
  | stop waits _ _ =>
    have worked := sum_map_set WorkerState.steps .stopped waits
    refine ⟨closed, rfl, ?_⟩
    simp only [WorkerState.steps] at worked
    simp only [remaining]
    omega
  | joined dropper _ =>
    refine ⟨closed, rfl, ?_⟩
    simp [remaining, dropper]

theorem remaining_of_run? {acts : List Act} (closed : pool.dispatcher.isOpen = false)
    (ran : pool.run? acts = some pool') :
    pool'.dispatcher.isOpen = false ∧ pool'.submitted = pool.submitted ∧
      pool.remaining = acts.length + pool'.remaining := by
  induction acts generalizing pool with
  | nil =>
    cases ran
    exact ⟨closed, rfl, (Nat.zero_add _).symm⟩
  | cons act acts ih =>
    rw [run?_cons, Option.bind_eq_some_iff] at ran
    obtain ⟨next, done, ran⟩ := ran
    obtain ⟨stays, same, first⟩ := remaining_of_perform? closed done
    obtain ⟨still, same', rest⟩ := ih stays ran
    refine ⟨still, same'.trans same, ?_⟩
    rw [List.length_cons]
    omega

/-- Only the worker that the drop is called from can be kept from its next step. -/
theorem stopped_or_dropping (ordered : pool.Ordered) (closed : pool.dispatcher.isOpen = false)
    (stuck : ∀ act, pool.perform? act = none) {i : Nat} (bound : i < pool.workers.length) :
    pool.workers[i]? = some .stopped ∨ pool.dropping = some (.listener i) := by
  have found := List.getElem?_eq_getElem bound
  cases state : pool.workers[i] with
  | stopped => exact .inl (found.trans (congrArg some state))
  | calling job =>
    rw [state] at found
    by_cases own : pool.dropping = some (.listener i)
    · exact .inr own
    · have finishes := (Performed.finish .fine found own).perform?
      rw [stuck] at finishes
      cases finishes
  | waiting =>
    rw [state] at found
    have inQueues : i < pool.dispatcher.queues.length := bound.trans_eq ordered.sized
    have queue := List.getElem?_eq_getElem inQueues
    cases q : pool.dispatcher.queues[i] with
    | nil =>
      rw [q] at queue
      have stops := (Performed.stop found closed queue).perform?
      rw [stuck] at stops
      cases stops
    | cons job rest =>
      rw [q] at queue
      obtain ⟨left, taken⟩ : ∃ left, pool.dispatcher.take? i = some (job, left) := by
        rw [Dispatcher.take?, queue]
        exact ⟨_, rfl⟩
      have calls := (Performed.call found taken).perform?
      rw [stuck] at calls
      cases calls

theorem all_stopped (ordered : pool.Ordered) (closed : pool.dispatcher.isOpen = false)
    (stuck : ∀ act, pool.perform? act = none) :
    pool.dropping = none ∧ ∀ i < pool.workers.length, pool.workers[i]? = some .stopped := by
  have returned : pool.dropping = none := by
    by_contra dropped
    obtain ⟨caller, dropper⟩ := Option.ne_none_iff_exists'.1 dropped
    have able : pool.stoppedFor caller = true := by
      simp only [stoppedFor, List.all_eq_true, List.mem_range, Bool.or_eq_true, decide_eq_true_eq]
      intro i bound
      rcases stopped_or_dropping ordered closed stuck bound with stopped | own
      · exact .inr stopped
      · rw [dropper] at own
        exact .inl (Option.some.inj own)
    have joins := (Performed.joined dropper able).perform?
    rw [stuck] at joins
    cases joins
  refine ⟨returned, fun i bound => ?_⟩
  rcases stopped_or_dropping ordered closed stuck bound with stopped | own
  · exact stopped
  · rw [returned] at own
    cases own

theorem pending_of_all_stopped (ordered : pool.Ordered)
    (stopped : ∀ i < pool.workers.length, pool.workers[i]? = some .stopped) :
    pool.dispatcher.pending = [] := by
  refine List.flatten_eq_nil_iff.2 fun q member => ?_
  obtain ⟨i, bound, rfl⟩ := List.getElem_of_mem member
  have empty := (ordered.stopped i (stopped i (bound.trans_eq ordered.sized.symm))).2
  simpa [Dispatcher.queue, bound] using empty

/-- Once the dispatcher has been dropped, by a thread or from within a listener, the threads come to
an end whatever their order: no interleaving is longer than the steps that remain, and one that
cannot go on has stopped every worker, has let the drop return and has delivered everything. -/
theorem drop_winds_down {route : Path → Nat} {size : Nat} {acts acts' : List Act}
    (ran : (new route size).run? acts = some pool) (dropped : pool.dispatcher.isOpen = false)
    (ran' : pool.run? acts' = some pool') :
    acts'.length ≤ pool.remaining ∧
    ((∀ act, pool'.perform? act = none) →
      (∀ i < pool'.workers.length, pool'.workers[i]? = some .stopped) ∧ pool'.dropping = none ∧
      pool'.delivered.Perm pool.submitted) := by
  have ordered := ((ordered_new route size).run ran).run ran'
  obtain ⟨closed, same, steps⟩ := remaining_of_run? dropped ran'
  refine ⟨by omega, fun stuck => ?_⟩
  obtain ⟨returned, stopped⟩ := all_stopped ordered closed stuck
  refine ⟨stopped, returned, ?_⟩
  rw [← same]
  exact ordered.perm_of_drained (pending_of_all_stopped ordered stopped)

end WorkerPool

end DurableWatch
