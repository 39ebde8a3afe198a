import DurableWatch.Proofs.ServiceTree

/-!
# The integrity of the service in memory

Whatever the session and the other clients do, and in whatever order, the service keeps a tree
whose inner nodes last, and holds no watch and no fire without a session that can be told. Two of
the clauses rest on each other: an expiry removes ephemeral nodes without a look at what is below
them, which is safe as nothing ever is; and a new session may take a new number as no node of an
expired one is left.
-/
namespace DurableWatch.MemoryService

variable {s s' : MemoryService}

/-- What can happen to the service. A reconnection is among the requests. -/
inductive Operation
  | request (request : Request)
  | change (change : ExternalChange)
  | disconnect
  | expire
  /-- The owner of the session takes the oldest notification from the channel. -/
  | take
  deriving DecidableEq

def perform (s : MemoryService) : Operation → MemoryService
  | .request r => (s.ask r).2
  | .change c => (s.change c).2
  | .disconnect => s.disconnect
  | .expire => s.expireSession
  | .take => { s with channel := s.channel.tail }

/-- A new service after these operations, the first of them first. -/
def history (operations : List Operation) : MemoryService := operations.foldl perform new

/-- No watch is armed, and no fire waits. -/
structure Unheard (s : MemoryService) : Prop where
  unarmed : ∀ q k, s.armed q k = false
  idle : s.pending = []

/-- Nothing is left that belongs to the session. -/
structure Vacated (s : MemoryService) : Prop extends s.Unheard where
  lost : s.alive = false
  lasting : ∀ q n, s.nodes.get? q = some n → n.mode ≠ .ephemeral

structure WellFormed (s : MemoryService) : Prop where
  root : ∃ n, s.nodes.get? Path.root = some n ∧ n.mode = .persistent
  keys : ∀ q : Path, s.nodes.contains q = true → q.validate = .ok ()
  parents : ∀ q : Path, s.nodes.contains q = true → q ≠ Path.root →
    ∃ p n, q.parent? = some p ∧ s.nodes.get? p = some n ∧ n.mode = .persistent
  owned : ∀ q n, s.nodes.get? q = some n → n.mode = .ephemeral → n.owner = s.sessionId
  watched : ∀ q k, s.armed q k = true → s.nodes.contains q = true
  settled : s.alive = true → s.pending = []
  vacated : s.expired = true → s.Vacated

/-! ### The tree is sane after every operation -/

theorem sane_arm (sane : s.Sane) {p : Path} (there : s.nodes.contains p = true)
    (kind : WatchKind) : (s.arm p kind).Sane := by
  refine sane.of_nodes (nodes_arm s p kind) (alive_arm s p kind) (pending_arm s p kind)
    (session_arm s p kind) fun q k armed => ?_
  rcases (armed_arm s p q kind k).1 armed with before | ⟨rfl, -⟩
  · exact sane.watched q k before
  · exact there

theorem sane_read {α : Type} (sane : s.Sane) (p : Path) (kind : WatchKind) (watch : Bool)
    (answer : Node → α) : (s.read p kind watch answer).2.Sane := by
  unfold read
  split
  · exact sane
  · next found =>
    cases watch
    · exact sane
    · exact sane_arm sane (Table.contains_of_get? found) kind

theorem sane_ask (sane : s.Sane) (r : Request) : (s.ask r).2.Sane := by
  by_cases plain : r.isPlain = true
  · exact (edited_ask sane plain).sane
  · unfold ask
    split
    · exact sane_reconnect sane
    · split
      · cases r with
        | readData p watch => exact sane_read sane p .data watch Node.data
        | listChildren p watch =>
          exact sane_read sane p .children watch fun _ => s.childNames p
        | cancelDataWatch p => exact sane_disarm sane p .data
        | reconnect => exact sane
        | existence p | writeData p d | create p d mode | delete p => exact absurd rfl plain
      · exact sane

theorem sane_perform (sane : s.Sane) (op : Operation) : (s.perform op).Sane := by
  cases op with
  | request r => exact sane_ask sane r
  | change c => exact (edited_change sane c).sane
  | disconnect => exact (edited_disconnect sane).sane
  | expire => exact (edited_expireSession sane).sane
  | take => exact sane.of_nodes rfl rfl rfl rfl sane.watched

/-! ### A new tree, then fires -/

def fireAll (s : MemoryService) (watches : List (Path × WatchKind)) : MemoryService :=
  watches.foldl (fun s w => s.fire w.1 w.2) s

@[simp] theorem fireAll_nil (s : MemoryService) : s.fireAll [] = s := rfl

@[simp] theorem fireAll_cons (s : MemoryService) (w : Path × WatchKind)
    (watches : List (Path × WatchKind)) :
    s.fireAll (w :: watches) = (s.fire w.1 w.2).fireAll watches := rfl

/-- The root is a node that outlives sessions. -/
def Grounded (t : Table Node) : Prop := ∃ n, t.get? Path.root = some n ∧ n.mode = .persistent

/-- Another tree stands in the place of the tree of `s`, and then some watches were fired. -/
def Regrown (s s' : MemoryService) : Prop :=
  ∃ t watches, s' = fireAll { s with nodes := t } watches ∧ (Grounded s.nodes → Grounded t)

theorem fired_fireAll (s : MemoryService) (watches : List (Path × WatchKind)) :
    Fired s (s.fireAll watches) := by
  induction watches generalizing s with
  | nil => exact .refl s
  | cons w watches ih => exact (fired_fire s w.1 w.2).trans (ih _)

theorem fireAll_of_unarmed (unarmed : ∀ q k, s.armed q k = false)
    (watches : List (Path × WatchKind)) : s.fireAll watches = s := by
  induction watches with
  | nil => rfl
  | cons w watches ih => rwa [fireAll_cons, fire_of_unarmed (unarmed w.1 w.2)]

theorem Regrown.refl (s : MemoryService) : Regrown s s := ⟨s.nodes, [], rfl, id⟩

theorem Regrown.grounded (regrown : Regrown s s') (grounded : Grounded s.nodes) :
    Grounded s'.nodes := by
  obtain ⟨t, watches, rfl, keeps⟩ := regrown
  rw [(fired_fireAll { s with nodes := t } watches).nodes]
  exact keeps grounded

theorem Regrown.session (regrown : Regrown s s') : s'.session = s.session := by
  obtain ⟨t, watches, rfl, -⟩ := regrown
  exact (fired_fireAll { s with nodes := t } watches).session

theorem armed_withNodes (t : Table Node) (q : Path) (k : WatchKind) :
    armed { s with nodes := t } q k = s.armed q k := by
  cases k <;> rfl

/-- Where no watch is armed the tree is all that changes. -/
theorem Regrown.of_unarmed (regrown : Regrown s s') (unarmed : ∀ q k, s.armed q k = false) :
    ∃ t, s' = { s with nodes := t } := by
  obtain ⟨t, watches, rfl, -⟩ := regrown
  refine ⟨t, fireAll_of_unarmed (fun q k => ?_) watches⟩
  rw [armed_withNodes]
  exact unarmed q k

/-- What an operation asks of the tree, whoever asks. -/
inductive Deed
  | create (path : Path)
  | write (path : Path)
  | delete (path : Path)
  deriving DecidableEq

/-- The watches that the deed fires, in this order. -/
def Deed.watches : Deed → List (Path × WatchKind)
  | create p => p.parent?.toList.map (·, .children)
  | write p => [(p, .data)]
  | delete p => (p, .data) :: (p, .children) :: p.parent?.toList.map (·, .children)

/-- The deed is refused and changes nothing, or it is done: the tree is another one, and the watches
of the deed have been fired. -/
def Enacted (s : MemoryService) (deed : Deed) (done : Bool) (s' : MemoryService) : Prop :=
  done = false ∧ s' = s ∨
    done = true ∧ ∃ t, s' = fireAll { s with nodes := t } deed.watches ∧
      (Grounded s.nodes → Grounded t)

theorem Enacted.regrown {deed : Deed} {done : Bool} (enacted : Enacted s deed done s') :
    Regrown s s' := by
  rcases enacted with ⟨-, rfl⟩ | ⟨-, t, fired, keeps⟩
  · exact .refl s'
  · exact ⟨t, deed.watches, fired, keeps⟩

/-- A creation takes the place of no node. -/
theorem enacted_createNode (s : MemoryService) (p : Path) (node : Node) :
    Enacted s (.create p) (s.createNode p node).1.isOk (s.createNode p node).2 := by
  unfold createNode
  split
  · exact .inl ⟨rfl, rfl⟩
  · next parent site =>
    obtain ⟨-, absent, above, -⟩ := creationSite_ok site
    refine .inr ⟨rfl, s.nodes.insert p node, ?_, ?_⟩
    · simp [Deed.watches, above]
    · rintro ⟨n, found, lasts⟩
      have other : Path.root ≠ p := by
        rintro rfl
        rw [Table.contains_of_get? found] at absent
        cases absent
      exact ⟨n, by simpa [other] using found, lasts⟩

theorem enacted_setData (s : MemoryService) (p : Path) (d : Data) :
    Enacted s (.write p) (s.setData p d).1.isOk (s.setData p d).2 := by
  unfold setData
  split
  · exact .inl ⟨rfl, rfl⟩
  · next node foundNode =>
    refine .inr ⟨rfl, s.nodes.insert p { node with data := d }, rfl, ?_⟩
    rintro ⟨n, found, lasts⟩
    by_cases same : Path.root = p
    · subst same
      obtain rfl : n = node := Option.some.inj (found.symm.trans foundNode)
      exact ⟨{ n with data := d }, by simp, lasts⟩
    · exact ⟨n, by simpa [same] using found, lasts⟩

theorem enacted_deleteNode (s : MemoryService) (p : Path) :
    Enacted s (.delete p) (s.deleteNode p).1.isOk (s.deleteNode p).2 := by
  unfold deleteNode
  split
  · exact .inl ⟨rfl, rfl⟩
  · next notRoot =>
    split
    · exact .inl ⟨rfl, rfl⟩
    · split
      · exact .inl ⟨rfl, rfl⟩
      · have keeps : Grounded s.nodes → Grounded (s.nodes.erase p) := by
          rintro ⟨n, found, lasts⟩
          exact ⟨n, by simpa [Ne.symm notRoot] using found, lasts⟩
        dsimp only
        split
        · next above =>
          exact .inr ⟨rfl, s.nodes.erase p, by simp [Deed.watches, above], keeps⟩
        · next above =>
          exact .inr ⟨rfl, s.nodes.erase p, by simp [Deed.watches, above], keeps⟩

/-- A node goes if nothing is below it. -/
theorem answer_deleteNode {p : Path} (there : s.nodes.contains p = true) (below : p ≠ Path.root) :
    (s.deleteNode p).1 = if s.childNames p = [] then .ok ()
      else .error (.invalidArgument ("node " ++ p ++ " has children")) := by
  unfold deleteNode
  rw [if_neg below, there]
  by_cases bare : s.childNames p = []
  · simp only [bare, Bool.not_true, List.isEmpty_nil, Bool.false_eq_true, if_false, if_true]
    split <;> rfl
  · simp [bare]

def Deed.ofChange : ExternalChange → Deed
  | .create p _ => .create p
  | .setData p _ => .write p
  | .delete p => .delete p

theorem enacted_change (s : MemoryService) (c : ExternalChange) :
    Enacted s (.ofChange c) (s.change c).1.isOk (s.change c).2 := by
  cases c with
  | create p d =>
    have made := enacted_createNode s p ⟨d, .persistent, 0⟩
    simp only [change]
    split
    · next h => rwa [h] at made
    · next h => rwa [h] at made
  | setData p d => exact enacted_setData s p d
  | delete p => exact enacted_deleteNode s p

theorem regrown_change (s : MemoryService) (c : ExternalChange) : Regrown s (s.change c).2 :=
  (enacted_change s c).regrown

/-! ### What a request keeps -/

theorem read_cases {α : Type} (s : MemoryService) (p : Path) (kind : WatchKind) (watch : Bool)
    (answer : Node → α) :
    (s.read p kind watch answer).2 = s ∨ (s.read p kind watch answer).2 = s.arm p kind := by
  unfold read
  split
  · exact .inl rfl
  · cases watch
    · exact .inl rfl
    · exact .inr rfl

/-- What a change of the tree and a change of the watches both keep holds after any request. -/
theorem serve_induction {P : MemoryService → Prop} (r : Request) (same : P s)
    (regrown : ∀ s', Regrown s s' → P s') (armed : ∀ p kind, P (s.arm p kind))
    (disarmed : ∀ p kind, P (s.disarm p kind)) : P (s.serve r).2 := by
  have read {α : Type} (p : Path) (kind : WatchKind) (watch : Bool) (answer : Node → α) :
      P (s.read p kind watch answer).2 := by
    rcases read_cases s p kind watch answer with h | h
    · rw [h]
      exact same
    · rw [h]
      exact armed p kind
  cases r with
  | existence p => exact same
  | readData p watch => exact read p .data watch Node.data
  | writeData p d => exact regrown _ (enacted_setData s p d).regrown
  | listChildren p watch => exact read p .children watch fun _ => s.childNames p
  | create p d mode => exact regrown _ (enacted_createNode s p _).regrown
  | delete p => exact regrown _ (enacted_deleteNode s p).regrown
  | cancelDataWatch p => exact disarmed p .data
  | reconnect => exact same

theorem session_serve (s : MemoryService) (r : Request) : (s.serve r).2.session = s.session := by
  refine serve_induction (P := fun s' => s'.session = s.session) r rfl (fun s' h => h.session) ?_ ?_
  · exact session_arm s
  · exact session_disarm s

theorem grounded_serve (grounded : Grounded s.nodes) (r : Request) :
    Grounded (s.serve r).2.nodes := by
  refine serve_induction (P := fun s' => Grounded s'.nodes) r grounded
    (fun s' h => h.grounded grounded) ?_ ?_
  · intro p kind
    rwa [nodes_arm]
  · intro p kind
    rwa [nodes_disarm]

/-! ### The root stays -/

theorem grounded_perform (grounded : Grounded s.nodes) (op : Operation) :
    Grounded (s.perform op).nodes := by
  cases op with
  | request r =>
    simp only [perform]
    unfold ask
    split
    · rwa [nodes_reconnect]
    · split
      · exact grounded_serve grounded _
      · exact grounded
  | change c => exact (regrown_change s c).grounded grounded
  | disconnect => exact grounded
  | expire =>
    obtain ⟨n, found, lasts⟩ := grounded
    exact ⟨n, by simp [perform, expireSession, send, found, Node.diesWith, lasts], lasts⟩
  | take => exact grounded

/-! ### An expired session hears of nothing -/

/-- Requests of an expired session change nothing, short of a reconnection. -/
theorem ask_expired (sane : s.Sane) {r : Request} (expired : (s.ask r).2.expired = true) :
    (s.ask r).2 = s := by
  unfold ask at expired ⊢
  split at expired
  · unfold reconnect at expired ⊢
    split at expired
    · next alive =>
      rw [sane.ended expired] at alive
      cases alive
    · cases expired
  · split at expired
    · next alive =>
      have was : s.expired = true :=
        (congrArg Prod.snd (session_serve s _)).symm.trans expired
      rw [sane.ended was] at alive
      cases alive
    · next dead =>
      simp [dead]

theorem unheard_perform (sane : s.Sane) (unheard : s.expired = true → s.Unheard)
    (op : Operation) (expired : (s.perform op).expired = true) : (s.perform op).Unheard := by
  cases op with
  | request r =>
    have still : s.perform (.request r) = s := ask_expired sane expired
    rw [still] at expired ⊢
    exact unheard expired
  | change c =>
    have regrown := regrown_change s c
    have was : s.expired = true := (congrArg Prod.snd regrown.session).symm.trans expired
    obtain ⟨t, h⟩ := regrown.of_unarmed (unheard was).unarmed
    rw [perform, h]
    refine ⟨fun q k => ?_, (unheard was).idle⟩
    rw [armed_withNodes]
    exact (unheard was).unarmed q k
  | disconnect =>
    refine ⟨fun q k => ?_, (unheard expired).idle⟩
    have before := (unheard expired).unarmed q k
    cases k <;> exact before
  | expire => exact ⟨fun q k => by cases k <;> rfl, rfl⟩
  | take =>
    refine ⟨fun q k => ?_, (unheard expired).idle⟩
    have before := (unheard expired).unarmed q k
    cases k <;> exact before

/-! ### The invariant -/

theorem wellFormed_of_parts (sane : s.Sane) (grounded : Grounded s.nodes)
    (unheard : s.expired = true → s.Unheard) : s.WellFormed where
  root := grounded
  keys q there := by rw [Path.validate, sane.paths q there]
  parents q there below := by
    obtain ⟨p, hp⟩ := Path.exists_parent (sane.paths q there) below
    obtain ⟨n, found, lasts⟩ := sane.rooted q p there hp
    exact ⟨p, n, hp, found, lasts⟩
  owned q n found mode := (sane.attached q n found mode).1
  watched := sane.watched
  settled := sane.settled
  vacated expired := by
    refine ⟨unheard expired, sane.ended expired, fun q n found mode => ?_⟩
    have running := (sane.attached q n found mode).2
    rw [expired] at running
    cases running

/-- Whatever is done to a new service, it stays well formed. -/
theorem history_wellFormed (operations : List Operation) : (history operations).WellFormed := by
  have parts : (history operations).Sane ∧ Grounded (history operations).nodes ∧
      ((history operations).expired = true → (history operations).Unheard) := by
    induction operations using List.reverseRecOn with
    | nil => exact ⟨sane_new, ⟨_, rfl, rfl⟩, nofun⟩
    | append_singleton operations op ih =>
      obtain ⟨sane, grounded, unheard⟩ := ih
      rw [history, List.foldl_append]
      exact ⟨sane_perform sane op, grounded_perform grounded op, unheard_perform sane unheard op⟩
  exact wellFormed_of_parts parts.1 parts.2.1 parts.2.2

end DurableWatch.MemoryService
