import DurableWatch.Proofs.Dialogue
import DurableWatch.Recovery

/-!
# Failures inside failures

A failure that passes through several operations is wrapped by each of them. The wrappings hide
neither a missing node, which is not wrapped at all, nor a node that is already there, which is
found however deep it lies. A recovery relies on the latter: a stubborn node that cannot be created
because it is still there counts as recovered.
-/
namespace DurableWatch

namespace Error

/-- The failures that come out of an operation as they are. -/
def IsBare (e : Error) : Prop := (∃ reason, e = notConnected reason) ∨ ∃ p, e = pathNotFound p

/-- The failure inside failures of these operations, the outermost first. -/
def inside (operations : List (String × Path)) (e : Error) : Error :=
  operations.foldr (fun o cause => operationFailed o.1 o.2 cause) e

/-- The failure as it comes out of these operations, of which the last one met it first. -/
def duringAll (operations : List (String × Path)) (e : Error) : Error :=
  operations.foldr (fun o cause => cause.during o.1 o.2) e

theorem not_isBare_operationFailed (operation : String) (p : Path) (cause : Error) :
    ¬(operationFailed operation p cause).IsBare := by
  rintro (⟨_, same⟩ | ⟨_, same⟩) <;> cases same

theorem during_of_bare {e : Error} (bare : e.IsBare) (operation : String) (p : Path) :
    e.during operation p = e := by
  rcases bare with ⟨reason, rfl⟩ | ⟨missing, rfl⟩ <;> rfl

theorem during_of_not_bare {e : Error} (wraps : ¬e.IsBare) (operation : String) (p : Path) :
    e.during operation p = operationFailed operation p e := by
  cases e with
  | notConnected reason => exact absurd (.inl ⟨reason, rfl⟩) wraps
  | pathNotFound missing => exact absurd (.inr ⟨missing, rfl⟩) wraps
  | _ => rfl

@[simp] theorem isNotFound_during (e : Error) (operation : String) (p : Path) :
    (e.during operation p).isNotFound = e.isNotFound := by
  cases e <;> rfl

@[simp] theorem isNodeExists_during (e : Error) (operation : String) (p : Path) :
    (e.during operation p).isNodeExists = e.isNodeExists := by
  cases e <;> rfl

section duringAll

variable (operations : List (String × Path)) (e : Error)

@[simp] theorem isNotFound_duringAll : (e.duringAll operations).isNotFound = e.isNotFound := by
  induction operations with
  | nil => rfl
  | cons o operations ih => exact (isNotFound_during _ o.1 o.2).trans ih

@[simp] theorem isNodeExists_duringAll :
    (e.duringAll operations).isNodeExists = e.isNodeExists := by
  induction operations with
  | nil => rfl
  | cons o operations ih => exact (isNodeExists_during _ o.1 o.2).trans ih

@[simp] theorem isNodeExists_inside : (e.inside operations).isNodeExists = e.isNodeExists := by
  induction operations with
  | nil => rfl
  | cons o operations ih => exact ih

end duringAll

theorem duringAll_of_bare {e : Error} (bare : e.IsBare) (operations : List (String × Path)) :
    e.duringAll operations = e := by
  induction operations with
  | nil => rfl
  | cons o operations ih =>
    calc e.duringAll (o :: operations)
      _ = (e.duringAll operations).during o.1 o.2 := rfl
      _ = e := by rw [ih, during_of_bare bare]

theorem duringAll_of_not_bare {e : Error} (wraps : ¬e.IsBare)
    (operations : List (String × Path)) : e.duringAll operations = e.inside operations := by
  induction operations with
  | nil => rfl
  | cons o operations ih =>
    have wraps : ¬(e.inside operations).IsBare := by
      cases operations with
      | nil => exact wraps
      | cons o operations => exact not_isBare_operationFailed o.1 o.2 _
    calc e.duringAll (o :: operations)
      _ = (e.duringAll operations).during o.1 o.2 := rfl
      _ = e.inside (o :: operations) := by rw [ih, during_of_not_bare wraps]; rfl

/-- The node is there if the innermost failure says so. -/
theorem isNodeExists_iff {e : Error} :
    e.isNodeExists = true ↔ ∃ operations p, e = (nodeExists p).inside operations := by
  constructor
  · intro exists_
    induction e with
    | nodeExists p => exact ⟨[], p, rfl⟩
    | operationFailed operation p cause ih =>
      obtain ⟨operations, there, rfl⟩ := ih exists_
      exact ⟨(operation, p) :: operations, there, rfl⟩
    | _ => cases exists_
  · rintro ⟨operations, p, rfl⟩
    rw [isNodeExists_inside]
    rfl

end Error

namespace World

variable {σ : Type} {host : Host σ} {n : StubbornNode} {e : Error} {w w₁ : World σ}

/-- The answer to a request to create a node says that the node is there now: it has been created,
or it was there before. -/
def Stands (answer : Except Stop Path) : Prop :=
  (∃ p, answer = .ok p) ∨
    ∃ operations p, answer = .error (.failed ((Error.nodeExists p).inside operations))

theorem recreate_refused
    (asked : host.ask (.create n.path n.data .ephemeral) w = (.error (.failed e), w₁)) :
    recreate host n w =
      (if e.isNodeExists then .ok () else .error (.failed (e.during "create" n.path)), w₁) := by
  unfold recreate
  rw [asked]
  by_cases there : e.isNodeExists = true <;> simp [Stop.isNodeExists, Stop.during, there]

theorem recreate_of_stands (stands : Stands (host.ask (.create n.path n.data .ephemeral) w).1) :
    (recreate host n w).1 = .ok () := by
  rcases asked : host.ask (.create n.path n.data .ephemeral) w with ⟨answer, w₁⟩
  rw [asked] at stands
  rcases stands with ⟨p, rfl⟩ | ⟨operations, p, rfl⟩
  · simp [recreate, asked]
  · rw [recreate_refused asked, if_pos (Error.isNodeExists_iff.2 ⟨operations, p, rfl⟩)]

/-- No stubborn node that is there in the end is among those that a recovery has failed for. -/
theorem attemptAll_recreate (failFast : Bool) {ns : List StubbornNode}
    (stands : ∀ n ∈ ns, ∀ w, Stands (host.ask (.create n.path n.data .ephemeral) w).1)
    (w : World σ) : (attemptAll failFast StubbornNode.path (recreate host) ns w).1 = .ok [] := by
  induction ns generalizing w with
  | nil => rfl
  | cons n ns ih =>
    obtain ⟨first, rest⟩ := List.forall_mem_cons.1 stands
    have recreated := recreate_of_stands (first w)
    rcases attempt : recreate host n w with ⟨result, w₁⟩
    obtain rfl : result = .ok () := by rwa [attempt] at recreated
    rw [attemptAll, attempt]
    exact ih rest w₁

end World

/-- An operation that passes a failure on wraps it, or leaves it as it is if callers branch on it;
neither changes whether it tells of a missing node or of one that is there, however often it is
done. It tells of a node that is there if and only if the innermost failure does, and then a
recovery takes a stubborn node that could not be created for recovered. -/
theorem wrapping_keeps_meaning (e : Error) {σ : Type} (host : Host σ) :
    (∀ operation p,
      (e.during operation p).isNotFound = e.isNotFound ∧
      (e.during operation p).isNodeExists = e.isNodeExists ∧
      (e.IsBare → e.during operation p = e) ∧
      (¬e.IsBare → e.during operation p = .operationFailed operation p e)) ∧
    (∀ operations,
      (e.duringAll operations).isNotFound = e.isNotFound ∧
      (e.duringAll operations).isNodeExists = e.isNodeExists ∧
      (e.IsBare → e.duringAll operations = e) ∧
      (¬e.IsBare → e.duringAll operations = e.inside operations)) ∧
    (e.isNodeExists = true ↔ ∃ operations p, e = (Error.nodeExists p).inside operations) ∧
    (∀ (n : StubbornNode) (w w₁ : World σ),
      host.ask (.create n.path n.data .ephemeral) w = (.error (.failed e), w₁) →
      (w.recreate host n = (.ok (), w₁) ↔
        ∃ operations p, e = (Error.nodeExists p).inside operations)) ∧
    ∀ failFast ns, (∀ n ∈ ns, ∀ w,
        World.Stands (host.ask (.create n.path n.data .ephemeral) w).1) →
      ∀ w, (World.attemptAll failFast StubbornNode.path (World.recreate host) ns w).1 = .ok [] := by
  refine ⟨fun operation p => ?_, fun operations => ?_, Error.isNodeExists_iff,
    fun n w w₁ asked => ?_, fun failFast ns stands w => World.attemptAll_recreate failFast stands w⟩
  · exact ⟨e.isNotFound_during operation p, e.isNodeExists_during operation p,
      fun bare => Error.during_of_bare bare operation p,
      fun wraps => Error.during_of_not_bare wraps operation p⟩
  · exact ⟨Error.isNotFound_duringAll operations e, Error.isNodeExists_duringAll operations e,
      fun bare => Error.duringAll_of_bare bare operations,
      fun wraps => Error.duringAll_of_not_bare wraps operations⟩
  · rw [World.recreate_refused asked, ← Error.isNodeExists_iff]
    cases e.isNodeExists <;> simp

/-- A client of a client, for which every node is there already. -/
def Client.occupied : Client Unit where
  isAlive _ := (true, ())
  ask
    | .existence _, _ => (.ok true, ())
    | .readData _ _, _ => (.ok .empty, ())
    | .listChildren _ _, _ => (.ok [], ())
    | .create p _ _, _ => (.error ((Error.nodeExists p).inside [("call", p), ("create", p)]), ())
    | .cancelDataWatch _, _ | .writeData _ _, _ | .delete _, _ | .reconnect, _ => (.ok (), ())

/-- Two wrappings, and a third: the node is there, and a recovery that stops at the first failure
does not stop at it. -/
theorem wrapping_keeps_meaning_thrice :
    let e := (Error.nodeExists "/a").inside [("call", "/a"), ("create", "/a")]
    let host := Client.occupied.host
    let w : World (Dialogue Unit) := ⟨.new (.ofSize 1) true, ⟨(), []⟩⟩
    ¬e.IsBare ∧ e.during "create" "/a" = .operationFailed "create" "/a" e ∧
      (e.during "create" "/a").isNodeExists = true ∧
      (w.recreate host ⟨"/a", .empty⟩).1 = .ok () ∧
      (World.attemptAll true StubbornNode.path (World.recreate host)
        [⟨"/a", .empty⟩, ⟨"/a/b", .empty⟩] w).1 = .ok [] := by
  intro e host w
  obtain ⟨once, -, found, recreated, recovered⟩ := wrapping_keeps_meaning e host
  have wraps : ¬e.IsBare := Error.not_isBare_operationFailed _ _ _
  have there : ∃ operations p, e = (Error.nodeExists p).inside operations := ⟨_, _, rfl⟩
  obtain ⟨-, kept, -, wrapped⟩ := once "create" "/a"
  refine ⟨wraps, wrapped wraps, kept.trans (found.2 there), ?_, ?_⟩
  · rw [(recreated ⟨"/a", .empty⟩ w _ rfl).2 there]
  · exact recovered true _
      (fun n _ w => .inr ⟨[("call", n.path), ("create", n.path)], n.path, rfl⟩) w

end DurableWatch
