import DurableWatch.Proofs.ServiceIntegrity

/-!
# A lost connection only delays

What other clients change while the connection is lost is found in the same state afterwards as if
the connection had stayed. A service that is cut off is compared with one that is not, change by
change: they differ in that the fires which the one has sent wait at the other, in the same order.
-/
namespace DurableWatch.MemoryService

variable {s live away : MemoryService}

/-- The answers to the changes, and the service after the last one. -/
def changeAll (s : MemoryService) : List ExternalChange → List (Except Error Unit) × MemoryService
  | [] => ([], s)
  | c :: cs =>
    let (answer, s) := s.change c
    let (answers, s) := s.changeAll cs
    (answer :: answers, s)

/-- `away` lost its connection after `sent`, and has kept back the fires that `live` has sent since.
-/
structure Parted (sent : List Notification) (fires : List (Path × WatchKind))
    (live away : MemoryService) : Prop where
  alive : live.alive = true
  settled : live.pending = []
  channel : live.channel = sent ++ fires.map fun w => .watch w.1 w.2
  away : away = { live with
    alive := false
    channel := sent ++ [.state .disconnected]
    pending := fires.map fun w => .watch w.1 w.2 }

variable {sent : List Notification} {fires : List (Path × WatchKind)}

theorem Parted.nodes (parted : Parted sent fires live away) : away.nodes = live.nodes := by
  rw [parted.away]

theorem Parted.withNodes (parted : Parted sent fires live away) (t : Table Node) :
    Parted sent fires { live with nodes := t } { away with nodes := t } := by
  obtain ⟨alive, settled, channel, rfl⟩ := parted
  exact ⟨alive, settled, channel, rfl⟩

/-- A fire is kept back in the place where it would have been sent. -/
theorem Parted.fire (parted : Parted sent fires live away) (p : Path) (kind : WatchKind) :
    ∃ more, Parted sent (fires ++ more) (live.fire p kind) (away.fire p kind) := by
  obtain ⟨alive, settled, channel, rfl⟩ := parted
  by_cases fires : live.armed p kind = true
  · refine ⟨[(p, kind)], ?_⟩
    rw [fire_of_armed fires alive]
    constructor
    · simpa [send] using alive
    · simpa [send] using settled
    · simp [send, channel]
    · cases kind <;> simp_all [MemoryService.fire, armed, disarm, send]
  · refine ⟨[], ?_⟩
    have unarmed := Bool.eq_false_of_not_eq_true fires
    rw [fire_of_unarmed unarmed, fire_of_unarmed (by cases kind <;> exact unarmed)]
    exact ⟨alive, settled, by simp [channel], by simp⟩

theorem Parted.fireAll (parted : Parted sent fires live away)
    (watches : List (Path × WatchKind)) :
    ∃ more, Parted sent (fires ++ more) (live.fireAll watches) (away.fireAll watches) := by
  induction watches generalizing fires live away with
  | nil => exact ⟨[], by simpa using parted⟩
  | cons w watches ih =>
    obtain ⟨first, parted⟩ := parted.fire w.1 w.2
    obtain ⟨rest, parted⟩ := ih parted
    exact ⟨first ++ rest, by simpa using parted⟩

/-! ### The tree alone decides what a change does -/

/-- Both answer the same, get the same tree, and then fire the same watches. -/
def Alike (s s' : MemoryService) (r r' : Except Error Unit × MemoryService) : Prop :=
  ∃ answer t watches, r = (answer, fireAll { s with nodes := t } watches) ∧
    r' = (answer, fireAll { s' with nodes := t } watches)

theorem alike_refused {s' : MemoryService} (same : s'.nodes = s.nodes) (e : Error) :
    Alike s s' (.error e, s) (.error e, s') := by
  refine ⟨.error e, s.nodes, [], by simp, ?_⟩
  rw [← same]
  simp

theorem alike_change {s' : MemoryService} (same : s'.nodes = s.nodes) (c : ExternalChange) :
    Alike s s' (s.change c) (s'.change c) := by
  cases c with
  | create p d =>
    have site : s'.creationSite p = s.creationSite p := by simp [creationSite, same]
    simp only [change, createNode, site]
    cases s.creationSite p with
    | error e => exact alike_refused same e
    | ok parent =>
      exact ⟨.ok (), s.nodes.insert p ⟨d, .persistent, 0⟩, [(parent, .children)], by simp,
        by simp [same]⟩
  | setData p d =>
    simp only [change, setData, same]
    cases s.nodes.get? p with
    | none => exact alike_refused same (.pathNotFound p)
    | some node =>
      exact ⟨.ok (), s.nodes.insert p { node with data := d }, [(p, .data)], by simp, by simp⟩
  | delete p =>
    have names : s'.childNames p = s.childNames p := by simp [childNames, same]
    simp only [change, deleteNode, same, names]
    split
    · exact alike_refused same _
    · split
      · exact alike_refused same _
      · split
        · exact alike_refused same _
        · cases p.parent? with
          | none =>
            exact ⟨.ok (), s.nodes.erase p, [(p, .data), (p, .children)], by simp, by simp⟩
          | some parent =>
            exact ⟨.ok (), s.nodes.erase p, [(p, .data), (p, .children), (parent, .children)],
              by simp, by simp⟩

/-! ### The whole absence -/

theorem Parted.change (parted : Parted sent fires live away) (c : ExternalChange) :
    (away.change c).1 = (live.change c).1 ∧
      ∃ more, Parted sent (fires ++ more) (live.change c).2 (away.change c).2 := by
  obtain ⟨answer, t, watches, here, there⟩ := alike_change parted.nodes c
  rw [here, there]
  exact ⟨by simp, (parted.withNodes t).fireAll watches⟩

theorem Parted.changeAll (parted : Parted sent fires live away) (cs : List ExternalChange) :
    (away.changeAll cs).1 = (live.changeAll cs).1 ∧
      ∃ more, Parted sent (fires ++ more) (live.changeAll cs).2 (away.changeAll cs).2 := by
  induction cs generalizing fires live away with
  | nil => exact ⟨by simp [MemoryService.changeAll], [], by simpa [MemoryService.changeAll]⟩
  | cons c cs ih =>
    obtain ⟨answer, first, parted⟩ := parted.change c
    obtain ⟨answers, rest, parted⟩ := ih parted
    refine ⟨?_, first ++ rest, ?_⟩
    · simp [MemoryService.changeAll, answer, answers]
    · simpa [MemoryService.changeAll] using parted

theorem parted_disconnect (alive : s.alive = true) (settled : s.pending = []) :
    Parted s.channel [] s s.disconnect := by
  constructor
  · exact alive
  · exact settled
  · simp
  · simp [disconnect, send, settled]

theorem Parted.reconnect (parted : Parted sent fires live away) (lasting : live.expired = false) :
    away.reconnect = { live with
      channel := sent ++ .state .disconnected :: .state .syncConnected ::
        fires.map fun w => .watch w.1 w.2 } := by
  obtain ⟨alive, settled, channel, rfl⟩ := parted
  simp [MemoryService.reconnect, lasting, alive, settled]

/-- No change of another client ends the session. -/
theorem expired_changeAll (s : MemoryService) (cs : List ExternalChange) :
    (s.changeAll cs).2.expired = s.expired := by
  induction cs generalizing s with
  | nil => simp [changeAll]
  | cons c cs ih =>
    have same := congrArg Prod.snd (regrown_change s c).session
    simpa [changeAll, ih, session] using same

/-- The changes that other clients make while the connection is lost have the same answers as while
it stands, and leave the same service behind, except that the news of the connection precedes all
fires in the channel. -/
theorem disconnection_only_delays (operations : List Operation)
    (alive : (history operations).alive = true) (changes : List ExternalChange) :
    let s := history operations
    let live := s.changeAll changes
    let away := s.disconnect.changeAll changes
    away.1 = live.1 ∧ live.2.alive = true ∧ live.2.pending = [] ∧
      ∃ fires : List (Path × WatchKind),
        live.2.channel = s.channel ++ fires.map (fun w => .watch w.1 w.2) ∧
        away.2.ask .reconnect = (.ok (), { live.2 with
          channel := s.channel ++ .state .disconnected :: .state .syncConnected ::
            fires.map fun w => .watch w.1 w.2 }) := by
  intro s live away
  have wellFormed := history_wellFormed operations
  have lasting : s.expired = false := by
    by_contra expired
    have lost := (wellFormed.vacated (Bool.eq_true_of_not_eq_false expired)).lost
    rw [alive] at lost
    cases lost
  have start := parted_disconnect alive (wellFormed.settled alive)
  obtain ⟨answers, fires, parted⟩ := start.changeAll changes
  have after : live.2.expired = false := by rw [expired_changeAll, lasting]
  refine ⟨answers, parted.alive, parted.settled, fires, ?_, ?_⟩
  · simpa using parted.channel
  · simpa [ask] using parted.reconnect after

/-- A read node is changed, then deleted, and a deletion is refused in between. -/
theorem fire_kept_back_once :
    let s := history [.change (.create "/a" .empty), .request (.readData "/a" true)]
    let changes : List ExternalChange := [.setData "/a" ⟨#[1]⟩, .delete "/b", .delete "/a"]
    let away := s.disconnect.changeAll changes
    s.alive = true ∧ away.1 = [.ok (), .error (.pathNotFound "/b"), .ok ()] ∧
      (away.2.ask .reconnect).2.channel =
        [.state .disconnected, .state .syncConnected, .watch "/a" .data] := by
  intro s changes away
  have alive : s.alive = true := by decide
  obtain ⟨answers, -, -, fires, sent, caught⟩ := disconnection_only_delays
    [.change (.create "/a" .empty), .request (.readData "/a" true)] alive changes
  have live : (s.changeAll changes).1 = [.ok (), .error (.pathNotFound "/b"), .ok ()] ∧
      (s.changeAll changes).2.channel = s.channel ++ [.watch "/a" .data] := by decide
  have fired := List.append_cancel_left (sent.symm.trans live.2)
  refine ⟨alive, answers.trans live.1, ?_⟩
  rw [caught, fired]
  decide

end DurableWatch.MemoryService
