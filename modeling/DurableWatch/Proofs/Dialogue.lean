import DurableWatch.Proofs.PassEffect

/-!
# What is asked, and what is answered

A client that leaves the coordinator alone is known by its answers. Here every exchange with it is
kept in a log, so that a statement can say which requests an operation makes, in which order, and
how its effect hangs on the answers.
-/
namespace DurableWatch

structure Exchange where
  request : Request
  answer : Except Error request.Answer

/-- A client on its own: it answers or fails as its state will have it, and neither sees the
coordinator nor reaches it. -/
structure Client (σ : Type) where
  isAlive : σ → Bool × σ
  ask : (r : Request) → σ → Except Error r.Answer × σ

/-- The state of a client, with all that it has been asked, the oldest first. -/
structure Dialogue (σ : Type) where
  client : σ
  log : List Exchange

variable {σ : Type}

/-- The world after these exchanges, which have left the client in this state. -/
def World.exchanged (w : World (Dialogue σ)) (state : σ) (xs : List Exchange) :
    World (Dialogue σ) :=
  { w with outside := ⟨state, w.outside.log ++ xs⟩ }

/-- The client with its log, before listeners that do nothing. -/
def Client.host (client : Client σ) : Host (Dialogue σ) where
  isAlive w :=
    let (alive, state) := client.isAlive w.outside.client
    (alive, w.exchanged state [])
  ask r w :=
    let (answer, state) := client.ask r w.outside.client
    (answer.mapError .failed, w.exchanged state [⟨r, answer⟩])
  hear _ _ w := (.fine, w)
  hearState _ _ w := (.fine, w)

namespace Client

variable {client : Client σ}

theorem host_orderly (client : Client σ) : client.host.Orderly where
  ask_coordinator _ _ := rfl
  ask_ne_crashed r w reason h := by
    simp only [host] at h
    cases answered : (client.ask r w.outside.client).1 with
    | ok a => rw [answered] at h; cases h
    | error e => rw [answered] at h; cases h
  isAlive_coordinator _ := rfl

variable {audience : Audience (Dialogue σ)} {w : World (Dialogue σ)} {state : σ}

theorem ask_ok {r : Request} {a : r.Answer} (h : client.ask r w.outside.client = (.ok a, state)) :
    (client.host.facing audience).ask r w = (.ok a, w.exchanged state [⟨r, .ok a⟩]) := by
  simp only [Host.facing, host, h]
  rfl

theorem ask_error {r : Request} {e : Error}
    (h : client.ask r w.outside.client = (.error e, state)) :
    (client.host.facing audience).ask r w =
      (.error (.failed e), w.exchanged state [⟨r, .error e⟩]) := by
  simp only [Host.facing, host, h]
  rfl

theorem of_ask_ok {r : Request} {a : r.Answer} {w₁ : World (Dialogue σ)}
    (h : (client.host.facing audience).ask r w = (.ok a, w₁)) :
    ∃ state, client.ask r w.outside.client = (.ok a, state) := by
  rcases asked : client.ask r w.outside.client with ⟨answer, state⟩
  cases answer with
  | ok b =>
    rw [ask_ok asked] at h
    cases h
    exact ⟨state, rfl⟩
  | error e =>
    rw [ask_error asked] at h
    cases h

/-- Asked the requests of these exchanges in turn, the client gives their answers. -/
inductive Answers (client : Client σ) : List Exchange → σ → σ → Prop
  | nil (state : σ) : Answers client [] state state
  | cons {x : Exchange} {xs : List Exchange} {state state₁ state' : σ}
      (asked : client.ask x.request state = (x.answer, state₁))
      (rest : Answers client xs state₁ state') : Answers client (x :: xs) state state'

theorem Answers.uncons {x : Exchange} {xs : List Exchange} {state state' : σ}
    (answered : client.Answers (x :: xs) state state') :
    ∃ state₁, client.ask x.request state = (x.answer, state₁) ∧
      client.Answers xs state₁ state' := by
  cases answered with
  | cons asked rest => exact ⟨_, asked, rest⟩

end Client

/-! ### Reading a node again -/

/-- What becomes of the coordinator when the data of `p` is read for its subscription `e`. -/
def Coordinator.absorbData (c : Coordinator) (p : Path) (e : DataSubscription) :
    Except Error Data → Coordinator
  | .ok d => c.dispatch (e.report ⟨p, .dataChanged d⟩)
  | .error cause =>
    if cause.isNotFound && !e.parentManaged
    then (c.removeData p).dispatch (e.report ⟨p, .deleted⟩) else c

namespace World

variable {client : Client σ} {audience : Audience (Dialogue σ)} {w : World (Dialogue σ)} {p : Path}

theorem dataChange_unregistered {host : Host σ} {w : World σ}
    (absent : w.coordinator.data.get? p = none) : dataChange host p w = (.ok (), w) := by
  simp [dataChange, absent]

theorem childChange_unregistered {host : Host σ} {w : World σ}
    (absent : w.coordinator.children.get? p = none) (delivery : Delivery) :
    childChange host p delivery w = (.ok (), w) := by
  simp [childChange, absent]

theorem childChange_registered {host : Host σ} {w : World σ} {s : ChildSubscription}
    (registered : w.coordinator.children.get? p = some s) (delivery : Delivery) :
    childChange host p delivery w = childPass host p s delivery w := by
  simp [childChange, registered]

/-- A missing node is no failure. -/
def dataOutcome (p : Path) : Except Error Data → Except Stop Unit
  | .ok _ => .ok ()
  | .error cause =>
    if cause.isNotFound then .ok () else .error (.failed (cause.during "get_data" p))

theorem dataChange_asked {e : DataSubscription}
    (registered : w.coordinator.data.get? p = some e) {answer : Except Error Data} {state : σ}
    (asked : client.ask (.readData p true) w.outside.client = (answer, state)) :
    dataChange (client.host.facing audience) p w = (dataOutcome p answer,
      (w.exchanged state [⟨.readData p true, answer⟩]).update (·.absorbData p e answer)) := by
  unfold dataChange
  rw [registered]
  dsimp only
  cases answer with
  | ok d => rw [Client.ask_ok asked]; rfl
  | error cause =>
    rw [Client.ask_error asked]
    have still : (w.exchanged state [⟨.readData p true, .error cause⟩]).coordinator.data.get? p =
        some e := registered
    have removed := Coordinator.removeDataIf_of_get? still
    simp only [Stop.isNotFound, Stop.during, dataOutcome, Coordinator.absorbData]
    by_cases missing : cause.isNotFound = true
    · by_cases managed : e.parentManaged = true
      · simp only [missing, managed]
        rfl
      · simp only [missing, managed, update, removed]
        rfl
    · simp only [missing]
      rfl

/-! ### A pass over children -/

/-- What comes of reading these names, if they are answered so. -/
def NewChildren.ofAnswers (answers : String → Except Error Data) (names : List String) :
    NewChildren where
  found := names.filterMap fun n => (answers n).toOption.map (n, ·)
  unreadable := names.filter fun n => !(answers n).isOk
  crash? := none

theorem NewChildren.mem_found {answers : String → Except Error Data} {names : List String}
    {n : String} {d : Data} :
    (n, d) ∈ (ofAnswers answers names).found ↔ n ∈ names ∧ answers n = .ok d := by
  simp only [ofAnswers, List.mem_filterMap]
  constructor
  · rintro ⟨m, hm, found⟩
    cases answer : answers m with
    | error e => simp [answer, Except.toOption] at found
    | ok d' =>
      simp only [answer, Except.toOption, Option.map_some, Option.some.injEq,
        Prod.mk.injEq] at found
      obtain ⟨rfl, rfl⟩ := found
      exact ⟨hm, answer⟩
  · rintro ⟨hn, answer⟩
    exact ⟨n, hn, by simp [answer, Except.toOption]⟩

theorem NewChildren.mem_unreadable {answers : String → Except Error Data} {names : List String}
    {n : String} :
    n ∈ (ofAnswers answers names).unreadable ↔ n ∈ names ∧ ∀ d, answers n ≠ .ok d := by
  simp only [ofAnswers, List.mem_filter]
  refine and_congr_right fun _ => ?_
  cases answers n <;> simp [Except.isOk, Except.toBool]

theorem NewChildren.ofAnswers_cons_ok {answers : String → Except Error Data} {n : String} {d : Data}
    (found : answers n = .ok d) (names : List String) :
    ofAnswers answers (n :: names) =
      { ofAnswers answers names with found := (n, d) :: (ofAnswers answers names).found } := by
  simp [ofAnswers, found, Except.toOption, Except.isOk, Except.toBool]

theorem NewChildren.ofAnswers_cons_error {answers : String → Except Error Data} {n : String}
    {e : Error} (unread : answers n = .error e) (names : List String) :
    ofAnswers answers (n :: names) =
      { ofAnswers answers names with unreadable := n :: (ofAnswers answers names).unreadable } := by
  simp [ofAnswers, unread, Except.toOption, Except.isOk, Except.toBool]

/-- The reading of the child `n`, with its answer. -/
def childReading (p : Path) (watch : Bool) (answers : String → Except Error Data) (n : String) :
    Exchange :=
  ⟨.readData (p.child n) watch, answers n⟩

/-- However the client answers, it gives each name one answer. -/
theorem exists_answers (client : Client σ) (p : Path) (watch : Bool) {names : List String}
    (distinct : names.Nodup) (state : σ) :
    ∃ answers state', client.Answers (names.map (childReading p watch answers)) state state' := by
  induction names generalizing state with
  | nil => exact ⟨fun _ => .error default, state, .nil state⟩
  | cons n names ih =>
    obtain ⟨fresh, distinct⟩ := List.nodup_cons.1 distinct
    rcases asked : client.ask (.readData (p.child n) watch) state with ⟨answer, state₁⟩
    obtain ⟨answers, state', rest⟩ := ih distinct state₁
    refine ⟨Function.update answers n answer, state', ?_⟩
    -- what is answered for the other names is not touched by what is answered for this one
    have others : names.map (childReading p watch (Function.update answers n answer)) =
        names.map (childReading p watch answers) := List.map_congr_left fun m hm => by
      rw [childReading, childReading, Function.update_of_ne fun same => fresh (by rwa [← same])]
    rw [List.map_cons, others]
    have asked : client.ask (.readData (p.child n) watch) state =
        (Function.update answers n answer n, state₁) := by rw [asked, Function.update_self]
    exact .cons asked rest

theorem readNew_answered (audience : Audience (Dialogue σ)) (s : ChildSubscription)
    {answers : String → Except Error Data} {names : List String} {state : σ}
    (answered : client.Answers (names.map (childReading p s.watchesChildData answers))
      w.outside.client state) :
    readNew (client.host.facing audience) p s names w =
      (.ofAnswers answers names,
        (w.exchanged state (names.map (childReading p s.watchesChildData answers))).update
          (·.addFound p s (NewChildren.ofAnswers answers names).found)) := by
  induction names generalizing w with
  | nil =>
    cases answered
    simp [readNew, NewChildren.ofAnswers, Coordinator.addFound, exchanged, update]
  | cons n names ih =>
    obtain ⟨state₁, asked, rest⟩ := answered.uncons
    have asked : client.ask (.readData (p.child n) s.watchesChildData) w.outside.client =
      (answers n, state₁) := asked
    unfold readNew
    cases answer : answers n with
    | error e =>
      rw [Client.ask_error (asked.trans (by rw [answer]))]
      dsimp only
      rw [ih rest, NewChildren.ofAnswers_cons_error answer, List.map_cons, childReading, answer]
      simp [exchanged, update]
    | ok d =>
      rw [Client.ask_ok (asked.trans (by rw [answer]))]
      dsimp only
      -- a new subscription is no concern of the client
      have rest' (w₁ : World (Dialogue σ)) (same : w₁.outside.client = state₁) :
          client.Answers (names.map (childReading p s.watchesChildData answers))
            (if s.watchesChildData
            then w₁.update (·.addData (p.child n) s.listener (some s.id)) else w₁).outside.client
            state := by
        subst same
        split <;> exact rest
      rw [ih (rest' _ rfl), NewChildren.ofAnswers_cons_ok answer, List.map_cons, childReading,
        answer]
      by_cases watches : s.watchesChildData = true
      · simp [exchanged, update, watches, Coordinator.addFound_cons]
      · simp [exchanged, update, watches, Coordinator.addFound_cons]

/-- What a pass asks, when its list is answered. -/
def passExchanges (p : Path) (s : ChildSubscription) (snapshot : List String)
    (answers : String → Except Error Data) : List Exchange :=
  ⟨.listChildren p true, .ok snapshot⟩ ::
    (ChildDiff.between s.known snapshot).created.map (childReading p s.watchesChildData answers)

/-- A pass whose list is answered reads the new names, changes the coordinator in one go, and then
delivers. -/
theorem childPass_answered (audience : Audience (Dialogue σ)) (s : ChildSubscription)
    (delivery : Delivery) {snapshot : List String} {answers : String → Except Error Data}
    {state : σ}
    (answered : client.Answers (passExchanges p s snapshot answers) w.outside.client state) :
    let diff := ChildDiff.between s.known snapshot
    childPass (client.host.facing audience) p s delivery w =
      deliver (client.host.facing audience) delivery
        (s.createdReports p delivery (NewChildren.ofAnswers answers diff.created).found)
        (s.deletedReports (diff.deleted.map p.child))
        ((w.exchanged state (passExchanges p s snapshot answers)).update
          (·.absorb p s delivery diff (.ofAnswers answers diff.created))) := by
  intro diff
  obtain ⟨state₁, listed, rest⟩ := answered.uncons
  have read := readNew_answered (w := w.exchanged state₁ [⟨.listChildren p true, .ok snapshot⟩])
    audience s rest
  rw [childPass_listed (client.host_orderly.facing audience) p s delivery (Client.ask_ok listed)]
  dsimp only
  rw [read]
  simp [passExchanges, exchanged, update, diff]

/-- However the new names are answered, once the list is. -/
theorem childPass_asked (audience : Audience (Dialogue σ)) (s : ChildSubscription)
    (delivery : Delivery) {snapshot : List String} {state : σ}
    (listed : client.ask (.listChildren p true) w.outside.client = (.ok snapshot, state)) :
    let diff := ChildDiff.between s.known snapshot
    ∃ answers state', client.Answers (passExchanges p s snapshot answers) w.outside.client state' ∧
      childPass (client.host.facing audience) p s delivery w =
        deliver (client.host.facing audience) delivery
          (s.createdReports p delivery (NewChildren.ofAnswers answers diff.created).found)
          (s.deletedReports (diff.deleted.map p.child))
          ((w.exchanged state' (passExchanges p s snapshot answers)).update
            (·.absorb p s delivery diff (.ofAnswers answers diff.created))) := by
  intro diff
  obtain ⟨answers, state', read⟩ := exists_answers client p s.watchesChildData
    (ChildDiff.created_nodup s.known snapshot) state
  have answered : client.Answers (passExchanges p s snapshot answers) w.outside.client state' :=
    .cons listed read
  exact ⟨answers, state', answered, childPass_answered audience s delivery answered⟩

theorem childPass_refused (audience : Audience (Dialogue σ)) (s : ChildSubscription)
    (delivery : Delivery) {e : Error} {state : σ}
    (refused : client.ask (.listChildren p true) w.outside.client = (.error e, state)) :
    childPass (client.host.facing audience) p s delivery w =
      (.error (.failed (e.during "get_children" p)),
        w.exchanged state [⟨.listChildren p true, .error e⟩]) := by
  unfold childPass
  rw [Client.ask_error refused]
  rfl

end World

end DurableWatch
