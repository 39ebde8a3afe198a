import DurableWatch.Proofs.Routine
import DurableWatch.Proofs.ServiceTree

/-!
# Runs over the service in memory

The client of the service in memory never fails on its own account. Every request is noted together
with whether it was answered, so that a run tells which watched reads have gone through since the
session was last connected. A run interleaves commands, changes by other clients, and the handling
of the oldest notification in the channel.
-/
namespace DurableWatch

structure Inquiry where
  request : Request
  answered : Bool
  deriving DecidableEq

/-- The service in memory, the requests made to it, the newest first, and whatever else there is. -/
structure Backstage (τ : Type) where
  service : MemoryService
  calls : List Inquiry
  rest : τ

/-- The read that arms the watch of this kind. -/
def WatchKind.read (p : Path) : WatchKind → Request
  | data => .readData p true
  | children => .listChildren p true

/-- Whether the last watched read of this kind at `p` was answered, if there has been one since the
session was connected. -/
def lastTry (p : Path) (kind : WatchKind) : List Inquiry → Option Bool
  | [] => none
  | i :: earlier =>
    if i.request = .reconnect then none
    else if i.request = kind.read p then some i.answered
    else lastTry p kind earlier

variable {τ : Type}

namespace World

/-- The world after a request that left the service like this. -/
def noting (w : World (Backstage τ)) (service : MemoryService) (r : Request) (answered : Bool) :
    World (Backstage τ) :=
  { w with
    outside := { w.outside with
      service := service
      calls := ⟨r, answered⟩ :: w.outside.calls } }

def withService (w : World (Backstage τ)) (service : MemoryService) : World (Backstage τ) :=
  { w with outside := { w.outside with service := service } }

/-- The world after another client has changed the tree. -/
def changed (w : World (Backstage τ)) (change : ExternalChange) : World (Backstage τ) :=
  w.withService (w.outside.service.change change).2

/-- Takes the oldest notification from the channel and handles it. -/
def handleNext (host : Host (Backstage τ)) (w : World (Backstage τ)) : World (Backstage τ) :=
  match w.outside.service.channel with
  | [] => w
  | note :: rest =>
    ((w.withService { w.outside.service with channel := rest }).onNotification host note).2

theorem handleNext_of_channel {host : Host (Backstage τ)} {w : World (Backstage τ)}
    {note : Notification} {rest : List Notification}
    (next : w.outside.service.channel = note :: rest) : w.handleNext host =
      ((w.withService { w.outside.service with channel := rest }).onNotification host note).2 := by
  unfold handleNext
  split
  · next h =>
    rw [next] at h
    cases h
  · next h =>
    rw [next] at h
    cases h
    rfl

end World

/-- The client of the service in memory, before listeners that do nothing. -/
def memoryClient : Host (Backstage τ) where
  isAlive w := (w.outside.service.alive, w)
  ask r w :=
    let (answer, service) := w.outside.service.ask r
    (answer.mapError .failed, w.noting service r answer.isOk)
  hear _ _ w := (.fine, w)
  hearState _ _ w := (.fine, w)

theorem memoryClient_orderly : (memoryClient : Host (Backstage τ)).Orderly where
  ask_coordinator _ _ := rfl
  ask_ne_crashed r w reason h := by
    simp only [memoryClient] at h
    cases answered : (w.outside.service.ask r).1 with
    | ok a => rw [answered] at h; cases h
    | error e => rw [answered] at h; cases h
  isAlive_coordinator _ := rfl

/-- Which commands a run contains, as they stand to pools and service when they are given. -/
abbrev Rule := Coordinator → MemoryService → Command → Prop

/-- One step of a run over the service in memory. -/
inductive MemoryStep (rule : Rule) (host : Host (Backstage τ)) :
    World (Backstage τ) → World (Backstage τ) → Prop
  | command (w : World (Backstage τ)) (command : Command)
      (allowed : rule w.coordinator w.outside.service command) :
      MemoryStep rule host w (w.perform host command)
  | handleNext (w : World (Backstage τ)) : MemoryStep rule host w (w.handleNext host)
  | change (w : World (Backstage τ)) (change : ExternalChange) :
      MemoryStep rule host w (w.changed change)
  /-- A request past the coordinator, by the owner of the session. -/
  | request (w : World (Backstage τ)) (r : Request) (plain : r.isPlain = true) :
      MemoryStep rule host w (host.ask r w).2
  | disconnect (w : World (Backstage τ)) :
      MemoryStep rule host w (w.withService w.outside.service.disconnect)
  | expire (w : World (Backstage τ)) :
      MemoryStep rule host w (w.withService w.outside.service.expireSession)
  | elsewhere (w : World (Backstage τ)) (rest : τ) :
      MemoryStep rule host w { w with outside := { w.outside with rest := rest } }

/-- A rule that allows every command. -/
def Rule.any : Rule := fun _ _ _ => True

/-- A new coordinator on a new service. -/
structure World.IsNew (w : World (Backstage τ)) : Prop where
  coordinator : ∃ dispatcher failFast, w.coordinator = .new dispatcher failFast
  service : w.outside.service = .new
  calls : w.outside.calls = []

theorem MemoryStep.steps {rule : Rule} {audience : Audience (Backstage τ)}
    {w w' : World (Backstage τ)} (step : MemoryStep rule (memoryClient.facing audience) w w') :
    Relation.ReflTransGen (World.Step (memoryClient.facing audience)) w w' := by
  cases step with
  | command command _ => exact .single (.command w command)
  | handleNext =>
    unfold World.handleNext
    split
    · exact .refl
    · next note rest _ =>
      have popped : World.Step (memoryClient.facing audience) w _ := .outside w
        { w.outside with service := { w.outside.service with channel := rest } }
      exact (Relation.ReflTransGen.single popped).tail (.command _ (.notify note))
  | change change => exact .single (.outside w _)
  | request r plain => exact .single (.outside w _)
  | disconnect => exact .single (.outside w _)
  | expire => exact .single (.outside w _)
  | elsewhere rest => exact .single (.outside w _)

theorem memory_run_steps {rule : Rule} {audience : Audience (Backstage τ)}
    {w w' : World (Backstage τ)}
    (run : Relation.ReflTransGen (MemoryStep rule (memoryClient.facing audience)) w w') :
    Relation.ReflTransGen (World.Step (memoryClient.facing audience)) w w' := by
  induction run with
  | refl => exact .refl
  | tail _ step ih => exact ih.trans step.steps

/-- Runs over the service in memory are runs over a client of any kind. -/
theorem memory_tame {rule : Rule} {audience : Audience (Backstage τ)}
    (tame : Tame memoryClient (MemoryStep rule) audience) :
    Tame memoryClient World.Step audience := tame.of_steps MemoryStep.steps

/-! ### Runs that can be played

With listeners that do nothing a run is determined by what is done, and can be computed.
-/

inductive Act
  | command (command : Command)
  | handleNext
  | change (change : ExternalChange)
  | disconnect
  | expire

namespace World

/-- A new coordinator with one worker, on a new service. -/
def blank : World (Backstage Unit) := ⟨.new (.ofSize 1) false, ⟨.new, [], ()⟩⟩

def act (w : World (Backstage Unit)) : Act → World (Backstage Unit)
  | .command command => w.perform (memoryClient.facing .silent) command
  | .handleNext => w.handleNext (memoryClient.facing .silent)
  | .change change => w.changed change
  | .disconnect => w.withService w.outside.service.disconnect
  | .expire => w.withService w.outside.service.expireSession

def play (w : World (Backstage Unit)) (acts : List Act) : World (Backstage Unit) :=
  acts.foldl act w

theorem blank_isNew : blank.IsNew := ⟨⟨_, _, rfl⟩, rfl, rfl⟩

theorem act_step {rule : Rule} (w : World (Backstage Unit)) (act : Act)
    (allowed : ∀ command, act = .command command →
      rule w.coordinator w.outside.service command) :
    MemoryStep rule (memoryClient.facing .silent) w (w.act act) := by
  cases act with
  | command command => exact .command w command (allowed command rfl)
  | handleNext => exact .handleNext w
  | change change => exact .change w change
  | disconnect => exact .disconnect w
  | expire => exact .expire w

/-- The rule allows each command that is played when its turn comes. -/
def Allows (rule : Rule) : List Act → World (Backstage Unit) → Prop
  | [], _ => True
  | act :: acts, w =>
    (∀ command, act = .command command → rule w.coordinator w.outside.service command) ∧
      Allows rule acts (w.act act)

theorem allows_any (acts : List Act) (w : World (Backstage Unit)) : Allows .any acts w := by
  induction acts generalizing w with
  | nil => trivial
  | cons act acts ih => exact ⟨fun _ _ => trivial, ih (w.act act)⟩

/-- What is played is a run. -/
theorem play_run {rule : Rule} {acts : List Act} {w : World (Backstage Unit)}
    (allowed : Allows rule acts w) :
    Relation.ReflTransGen (MemoryStep rule (memoryClient.facing .silent)) w (w.play acts) := by
  induction acts generalizing w with
  | nil => exact .refl
  | cons act acts ih => exact .head (act_step w act allowed.1) (ih allowed.2)

end World

/-! ### What the client answers -/

section answers

variable (audience : Audience (Backstage τ)) (w : World (Backstage τ))

theorem ask_dead {r : Request} (dead : w.outside.service.alive = false) (other : r ≠ .reconnect) :
    ∃ e, e.isNotFound = false ∧ (memoryClient.facing audience).ask r w =
      (.error (.failed e), w.noting w.outside.service r false) := by
  obtain ⟨e, cause, he⟩ := MemoryService.ask_of_dead dead other
  refine ⟨e, cause, ?_⟩
  simp only [Host.facing, memoryClient, he]
  rfl

theorem ask_alive {r : Request} (alive : w.outside.service.alive = true) (other : r ≠ .reconnect) :
    (memoryClient.facing audience).ask r w =
      ((w.outside.service.serve r).1.mapError .failed,
        w.noting (w.outside.service.serve r).2 r (w.outside.service.serve r).1.isOk) := by
  simp only [Host.facing, memoryClient, MemoryService.ask_of_alive alive other]

theorem ask_readData_found {p : Path} {node : Node} (watch : Bool)
    (alive : w.outside.service.alive = true) (found : w.outside.service.nodes.get? p = some node) :
    (memoryClient.facing audience).ask (.readData p watch) w =
      (.ok node.data, w.noting
        (if watch = true then w.outside.service.arm p .data else w.outside.service)
        (.readData p watch) true) := by
  rw [ask_alive audience w alive (by simp)]
  simp only [MemoryService.serve, MemoryService.read, found]
  rfl

theorem ask_listChildren_found {p : Path} (watch : Bool) (alive : w.outside.service.alive = true)
    (there : w.outside.service.nodes.contains p = true) :
    (memoryClient.facing audience).ask (.listChildren p watch) w =
      (.ok (w.outside.service.childNames p), w.noting
        (if watch = true then w.outside.service.arm p .children else w.outside.service)
        (.listChildren p watch) true) := by
  obtain ⟨node, found⟩ := Table.contains_eq_true.1 there
  rw [ask_alive audience w alive (by simp)]
  simp only [MemoryService.serve, MemoryService.read, found]
  rfl

/-- A watched read fails if the node is missing or the session is not alive; its cause tells which.
-/
theorem ask_read_refused {p : Path} (kind : WatchKind)
    (absent : w.outside.service.alive = true → w.outside.service.nodes.contains p = false) :
    ∃ e, e.isNotFound = w.outside.service.alive ∧
      (memoryClient.facing audience).ask (kind.read p) w =
        (.error (.failed e), w.noting w.outside.service (kind.read p) false) := by
  have other : kind.read p ≠ .reconnect := by cases kind <;> simp [WatchKind.read]
  cases living : w.outside.service.alive with
  | false => exact ask_dead audience w living other
  | true =>
    refine ⟨.pathNotFound p, rfl, ?_⟩
    rw [ask_alive audience w living other]
    have missing := Table.contains_eq_false.1 (absent living)
    cases kind <;>
      simp only [WatchKind.read, MemoryService.serve, MemoryService.read, missing] <;> rfl

theorem ask_existence (p : Path) (alive : w.outside.service.alive = true) :
    (memoryClient.facing audience).ask (.existence p) w =
      (.ok (w.outside.service.nodes.contains p),
        w.noting w.outside.service (.existence p) true) := by
  rw [ask_alive audience w alive (by simp)]
  rfl

end answers

end DurableWatch
