import DurableWatch.Proofs.MemoryHost
import DurableWatch.Proofs.PassEffect

/-!
# What a failed subscription leaves behind

A subscription is registered before its first read, in place of whatever was there. If the read
fails it is taken away again, by its number; what it had displaced does not come back. So a failed
subscription changes nothing only where there was nothing to displace.
-/
namespace DurableWatch

def Flavour.kind : Flavour → WatchKind
  | data => .data
  | children _ => .children

namespace Coordinator

/-- Registers a new subscription in the pool of the flavour. -/
def subscribe (c : Coordinator) (p : Path) (l : Listener) : Flavour → Coordinator
  | .data => c.addData p l none
  | .children withData => c.addChildren p l withData

/-- The number of the subscription at `p` in the pool of the flavour. -/
def numberAt (c : Coordinator) (p : Path) : Flavour → Option Nat
  | .data => (c.data.get? p).map (·.id)
  | .children _ => (c.children.get? p).map (·.id)

/-- Takes away the subscription at `p` in the pool of the flavour, if there is one. -/
def vacate (c : Coordinator) (p : Path) : Flavour → Coordinator
  | .data => c.removeData p
  | .children _ => c.removeChildren p

variable (c : Coordinator) (p : Path) (l : Listener) (flavour : Flavour)

@[simp] theorem numberAt_subscribe :
    (c.subscribe p l flavour).numberAt p flavour = some c.nextId := by
  cases flavour <;> simp [subscribe, numberAt, addData, addChildren, freshData, freshChildren]

/-- What was displaced is gone. -/
theorem vacate_subscribe :
    (c.subscribe p l flavour).vacate p flavour =
      { c.vacate p flavour with nextId := c.nextId + 1 } := by
  cases flavour <;> simp [subscribe, vacate, addData, addChildren, removeData, removeChildren]

/-- But for the next number nothing changes, if nothing is taken away. -/
theorem vacate_renumbered_iff (n : Nat) :
    { c.vacate p flavour with nextId := n } = { c with nextId := n } ↔
      c.numberAt p flavour = none := by
  cases flavour with
  | data => simp [vacate, removeData, numberAt, Table.erase_eq_self]
  | children withData => simp [vacate, removeChildren, numberAt, Table.erase_eq_self]

theorem removeDataIf_eq (i : Nat) : c.removeDataIf p i =
    if c.numberAt p .data = some i then c.vacate p .data else c := by
  cases there : c.data.get? p <;> simp [removeDataIf, hasData, numberAt, vacate, there]

theorem removeChildrenIf_eq (i : Nat) (withData : Bool) : c.removeChildrenIf p i =
    if c.numberAt p (.children withData) = some i then c.vacate p (.children withData) else c := by
  cases there : c.children.get? p <;> simp [removeChildrenIf, hasChildren, numberAt, vacate, there]

end Coordinator

namespace World

variable {σ : Type} {host : Host σ} {p : Path} {l : Listener} {flavour : Flavour} {w w' : World σ}
  {e : Error}

/-! ### Where an operation can fail -/

/-- Once the children are listed nothing can fail. -/
theorem childPass_failed {s : ChildSubscription} {delivery : Delivery}
    (failed : childPass host p s delivery w = (.error (.failed e), w')) :
    ∃ cause, host.ask (.listChildren p true) w = (.error (.failed cause), w') := by
  unfold childPass at failed
  split at failed
  · next stop w₁ asked =>
    cases stop with
    | failed cause =>
      cases failed
      exact ⟨cause, asked⟩
    | crashed reason => cases failed
  · dsimp only at failed
    split at failed
    · cases failed
    · exact absurd (congrArg Prod.fst failed) (deliver_not_failed host delivery _ _ _ e)

/-- A missing node is no failure of a reading. -/
theorem dataChange_failed (failed : dataChange host p w = (.error (.failed e), w')) :
    ∃ cause, host.ask (.readData p true) w = (.error (.failed cause), w') := by
  unfold dataChange at failed
  split at failed
  · cases failed
  · split at failed
    · cases failed
    · next stop w₁ asked =>
      split at failed
      · cases stop with
        | failed cause =>
          cases failed
          exact ⟨cause, asked⟩
        | crashed reason => cases failed
      · split at failed <;> cases failed

/-- A registration fails with its first read, and what is then at `p` goes if it is still what was
registered. -/
theorem register_failed (failed : register host p l flavour w = (.error (.failed e), w')) :
    ∃ cause w₁, host.ask (flavour.kind.read p) (w.update (·.subscribe p l flavour)) =
        (.error (.failed cause), w₁) ∧
      w'.outside = w₁.outside ∧
      w'.coordinator = if w₁.coordinator.numberAt p flavour = some w.coordinator.nextId
        then w₁.coordinator.vacate p flavour else w₁.coordinator := by
  cases flavour with
  | data =>
    simp only [register] at failed
    split at failed
    · next cause w₁ changed =>
      obtain ⟨cause, asked⟩ := dataChange_failed changed
      refine ⟨cause, w₁, asked, ?_⟩
      cases failed
      simp [Coordinator.removeDataIf_eq]
    · next notFailed => exact absurd failed (notFailed _ _)
  | children withData =>
    simp only [register] at failed
    split at failed
    · next cause w₁ changed =>
      simp only [childChange] at changed
      split at changed
      · cases changed
      · obtain ⟨cause, asked⟩ := childPass_failed changed
        refine ⟨cause, w₁, asked, ?_⟩
        cases failed
        simp [Coordinator.removeChildrenIf_eq _ _ _ withData]
    · next notFailed => exact absurd failed (notFailed _ _)

/-- The world in which the subscription is registered, unless the session is not alive or no node is
known to be there. -/
def admission (host : Host σ) (p : Path) (w : World σ) : Option (World σ) :=
  match ensureAlive host w with
  | (.error _, _) => none
  | (.ok (), w) =>
    match host.ask (.existence p) w with
    | (.ok true, w) => some w
    | _ => none

/-- A subscription fails before it is registered, or with its first read. -/
theorem listen_failed (failed : listen host p l flavour w = (.error (.failed e), w')) :
    (admission host p w = none ∧
        ((ensureAlive host w).2 = w' ∨
          (host.ask (.existence p) (ensureAlive host w).2).2 = w')) ∨
      ∃ w₁, admission host p w = some w₁ ∧
        w₁ = (host.ask (.existence p) (ensureAlive host w).2).2 ∧
        register host p l flavour w₁ = (.error (.failed e), w') := by
  unfold listen at failed
  unfold admission
  split at failed
  · next stop w₁ alive =>
    rw [alive]
    cases failed
    exact .inl ⟨rfl, .inl rfl⟩
  · next w₁ alive =>
    rw [alive]
    dsimp only
    split at failed
    · next asked =>
      rw [asked]
      obtain ⟨-, rfl⟩ := Prod.mk.inj failed
      exact .inl ⟨rfl, .inr rfl⟩
    · next asked =>
      rw [asked]
      obtain ⟨-, rfl⟩ := Prod.mk.inj failed
      exact .inl ⟨rfl, .inr rfl⟩
    · next w₂ asked =>
      rw [asked]
      exact .inr ⟨w₂, rfl, rfl, failed⟩

end World

/-- The client does not call the coordinator back while it is asked. -/
structure Host.Discreet {σ : Type} (host : Host σ) : Prop where
  isAlive : ∀ w, (host.isAlive w).2.coordinator = w.coordinator
  ask : ∀ r w, (host.ask r w).2.coordinator = w.coordinator

namespace World

variable {σ : Type} {host : Host σ}

theorem coordinator_ensureAlive (discreet : host.Discreet) (w : World σ) :
    (ensureAlive host w).2.coordinator = w.coordinator := by
  have same := discreet.isAlive w
  unfold ensureAlive
  split
  · next checked => rwa [checked] at same
  · next checked => rwa [checked] at same

/-- A failed subscription leaves all as it was, if it fails before it is registered. Else the pool
is left without a subscription at `p`, even if there was one before, and that is all that
changes. -/
theorem failed_listen_changes (discreet : host.Discreet) {p : Path} {l : Listener}
    {flavour : Flavour} {w w' : World σ} {e : Error}
    (failed : listen host p l flavour w = (.error (.failed e), w')) :
    (w'.coordinator = if (admission host p w).isSome
        then { w.coordinator.vacate p flavour with nextId := w.coordinator.nextId + 1 }
        else w.coordinator) ∧
      (w'.coordinator = { w.coordinator with nextId := w'.coordinator.nextId } ↔
        admission host p w = none ∨ w.coordinator.numberAt p flavour = none) := by
  have alive := coordinator_ensureAlive discreet w
  have asked : (host.ask (.existence p) (ensureAlive host w).2).2.coordinator = w.coordinator :=
    (discreet.ask _ _).trans alive
  rcases listen_failed failed with ⟨refused, same⟩ | ⟨w₁, admitted, rfl, failed⟩
  · have kept : w'.coordinator = w.coordinator := by
      rcases same with rfl | rfl
      · exact alive
      · exact asked
    simp [refused, kept]
  · obtain ⟨cause, w₂, read, -, left⟩ := register_failed failed
    have before := discreet.ask (flavour.kind.read p)
      ((host.ask (.existence p) (ensureAlive host w).2).2.update (·.subscribe p l flavour))
    rw [read, coordinator_update, asked] at before
    have after : w'.coordinator =
        { w.coordinator.vacate p flavour with nextId := w.coordinator.nextId + 1 } := by
      rw [left, before, asked, Coordinator.numberAt_subscribe, if_pos rfl,
        Coordinator.vacate_subscribe]
    refine ⟨by simp [admitted, after], ?_⟩
    rw [after, Coordinator.vacate_renumbered_iff, admitted]
    simp

end World

/-- Every node is there and has no children, and while the flag is set none can be read. -/
def Host.unsteady : Host Bool where
  isAlive w := (true, w)
  ask
    | .existence _, w => (.ok true, w)
    | .readData _ _, w =>
      if w.outside then (.error (.failed (.invalidArgument "broken")), w) else (.ok .empty, w)
    | .listChildren _ _, w =>
      if w.outside then (.error (.failed (.invalidArgument "broken")), w) else (.ok [], w)
    | .create p _ _, w => (.ok p, w)
    | .writeData _ _, w | .delete _, w | .cancelDataWatch _, w | .reconnect, w => (.ok (), w)
  hear _ _ w := (.fine, w)
  hearState _ _ w := (.fine, w)

namespace World

theorem unsteady_ask (r : Request) (w : World Bool) : (Host.unsteady.ask r w).2 = w := by
  cases r <;> simp only [Host.unsteady] <;> split <;> rfl

theorem unsteady_discreet : Host.unsteady.Discreet where
  isAlive _ := rfl
  ask r w := by rw [unsteady_ask]

/-- A child list is subscribed to, then the flag is set. -/
def unsettled : World Bool :=
  { perform .unsteady ⟨.new (.ofSize 1) false, false⟩ (.listen "/a" "old" (.children false)) with
    outside := true }

/-- The data of the same node cannot be subscribed to, which does no harm to the child list. -/
theorem failed_listen_harmless :
    ∃ e w', listen .unsteady "/a" "new" .data unsettled = (.error (.failed e), w') ∧
      w'.coordinator = { unsettled.coordinator with nextId := w'.coordinator.nextId } := by
  have failed : listen .unsteady "/a" "new" .data unsettled = (.error (.failed _), _) := rfl
  refine ⟨_, _, failed, ?_⟩
  apply (failed_listen_changes unsteady_discreet failed).2.2
  right
  decide

/-- To subscribe to the child list again fails as well, and ends the subscription that was there. -/
theorem failed_listen_harmful :
    Host.unsteady.Discreet ∧
      (unsettled.coordinator.children.get? "/a").map (·.listener) = some "old" ∧
      ∃ e w', listen .unsteady "/a" "new" (.children false) unsettled = (.error (.failed e), w') ∧
        w'.coordinator.children.get? "/a" = none := by
  refine ⟨unsteady_discreet, ?_, _, _, rfl, ?_⟩
  · decide
  · decide

end World

end DurableWatch
