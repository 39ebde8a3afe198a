import DurableWatch.Session
import Mathlib.Logic.Relation

/-!
# Runs

A run does one operation after the other, each to its end, while what surrounds the coordinator
changes as it likes in between. Listeners may call back: what a listener does is a run of its own,
whose listeners may call back in turn, to any finite depth.
-/
namespace DurableWatch

/-- What an application may ask of a session and its coordinator. `deliver` is the step of a worker.
-/
inductive Command
  | listen (path : Path) (listener : Listener) (flavour : Flavour)
  | unlisten (path : Path) (flavour : Flavour)
  | dataChange (path : Path)
  | childChange (path : Path) (delivery : Delivery)
  | notify (note : Notification)
  | relisten (order : Enumeration)
  | reconnect (order : Enumeration)
  | create (path : Path) (data : Data) (mode : CreateMode)
  | createEphemeral (path : Path) (data : Data) (recreate : Bool)
  | createRecursive (path : Path) (mode : CreateMode)
  | createStubborn (path : Path) (data : Data)
  | delete (path : Path)
  | markStubborn (path : Path) (data : Data)
  | unmarkStubborn (path : Path)
  | setState (state : SessionState) (listener? : Option Listener)
  | notifyState (state : SessionState)
  | deliver

variable {σ : Type}

namespace World

/-- The world that the command leaves behind; what it answers is of no concern here. -/
def perform (host : Host σ) (w : World σ) : Command → World σ
  | .listen p l flavour => (w.listen host p l flavour).2
  | .unlisten p flavour => (w.unlisten host p flavour).2
  | .dataChange p => (w.dataChange host p).2
  | .childChange p delivery => (w.childChange host p delivery).2
  | .notify note => (w.onNotification host note).2
  | .relisten order => (w.relistenIn order host).2
  | .reconnect order => (w.reconnectIn order host).2
  | .create p d mode => (w.create host p d mode).2
  | .createEphemeral p d recreate => (w.createEphemeral host p d recreate).2
  | .createRecursive p mode => (w.createRecursive host p mode).2
  | .createStubborn p d => (w.createStubborn host p d).2
  | .delete p => (w.delete host p).2
  | .markStubborn p d => (markCreated p d w).2
  | .unmarkStubborn p => w.update (·.unmarkStubborn p)
  | .setState state l? =>
    match w.coordinator.states.set state l? with
    | .ok states => w.update ({ · with states := states })
    | .error _ => w
  | .notifyState state => (w.notifyState host state).2
  | .deliver => (w.deliverNext host).getD w

/-- One step of a run. -/
inductive Step (host : Host σ) : World σ → World σ → Prop
  | command (w : World σ) (command : Command) : Step host w (w.perform host command)
  | outside (w : World σ) (o : σ) : Step host w { w with outside := o }

end World

/-- What the listeners do when they are called. -/
structure Audience (σ : Type) where
  hear : Listener → Event → World σ → Hearing × World σ
  hearState : Listener → SessionState → World σ → Hearing × World σ

/-- Listeners that do nothing. -/
def Audience.silent : Audience σ where
  hear _ _ w := (.fine, w)
  hearState _ _ w := (.fine, w)

namespace Host

/-- The same client with other listeners. -/
def facing (client : Host σ) (audience : Audience σ) : Host σ :=
  { client with hear := audience.hear, hearState := audience.hearState }

/-- A client that answers or fails, and that leaves the coordinator alone while it does. -/
structure Orderly (client : Host σ) : Prop where
  ask_coordinator : ∀ r w, (client.ask r w).2.coordinator = w.coordinator
  ask_ne_crashed : ∀ r w reason, (client.ask r w).1 ≠ .error (.crashed reason)
  isAlive_coordinator : ∀ w, (client.isAlive w).2.coordinator = w.coordinator

theorem Orderly.coordinator_of_ask {client : Host σ} (orderly : client.Orderly) {r : Request}
    {w w₁ : World σ} {a : Except Stop r.Answer} (asked : client.ask r w = (a, w₁)) :
    w₁.coordinator = w.coordinator := by
  have same := orderly.ask_coordinator r w
  rwa [asked] at same

theorem Orderly.not_crashed {client : Host σ} (orderly : client.Orderly) {r : Request}
    {w w₁ : World σ} {reason : String} (asked : client.ask r w = (.error (.crashed reason), w₁)) :
    False := by
  have answered := orderly.ask_ne_crashed r w reason
  rw [asked] at answered
  exact answered rfl

theorem Orderly.facing {client : Host σ} (orderly : client.Orderly) (audience : Audience σ) :
    (client.facing audience).Orderly :=
  ⟨orderly.ask_coordinator, orderly.ask_ne_crashed, orderly.isAlive_coordinator⟩

end Host

/-- Whatever these listeners do when they are called is a run of steps. The listeners called during
that run are of the same kind, one level deeper, and those of the last level do nothing. -/
inductive Tame (client : Host σ) (step : Host σ → World σ → World σ → Prop) : Audience σ → Prop
  | silent : Tame client step .silent
  | nested {inner outer : Audience σ} (tame : Tame client step inner)
      (hear : ∀ l event w,
        Relation.ReflTransGen (step (client.facing inner)) w (outer.hear l event w).2)
      (hearState : ∀ l state w,
        Relation.ReflTransGen (step (client.facing inner)) w (outer.hearState l state w).2) :
      Tame client step outer

namespace Tame

variable {client : Host σ} {step step' : Host σ → World σ → World σ → Prop}
  {audience : Audience σ}

/-- What the listeners do keeps to `R`, however deep the calls lie, if steps before listeners that
keep to `R` keep to it themselves. -/
theorem within {R : World σ → World σ → Prop} (tame : Tame client step audience)
    (refl : ∀ w, R w w) (trans : ∀ {w₁ w₂ w₃}, R w₁ w₂ → R w₂ w₃ → R w₁ w₃)
    (steps : ∀ {audience : Audience σ}, (∀ l event w, R w (audience.hear l event w).2) →
      (∀ l state w, R w (audience.hearState l state w).2) →
      ∀ {w w' : World σ}, step (client.facing audience) w w' → R w w') :
    (∀ l event w, R w (audience.hear l event w).2) ∧
      ∀ l state w, R w (audience.hearState l state w).2 := by
  induction tame with
  | silent => exact ⟨fun _ _ w => refl w, fun _ _ w => refl w⟩
  | @nested inner _ _ hear hearState ih =>
    have runs {w w' : World σ}
        (run : Relation.ReflTransGen (step (client.facing inner)) w w') : R w w' := by
      induction run with
      | refl => exact refl w
      | tail _ next before => exact trans before (steps ih.1 ih.2 next)
    exact ⟨fun l event w => runs (hear l event w), fun l state w => runs (hearState l state w)⟩

/-- Runs of one kind of steps stand for runs of another. -/
theorem of_steps (tame : Tame client step audience)
    (steps : ∀ {audience : Audience σ} {w w' : World σ}, step (client.facing audience) w w' →
      Relation.ReflTransGen (step' (client.facing audience)) w w') :
    Tame client step' audience := by
  induction tame with
  | silent => exact .silent
  | nested _ hear hearState ih =>
    exact .nested ih (fun l event w => (hear l event w).lift' id fun _ _ next => steps next)
      fun l state w => (hearState l state w).lift' id fun _ _ next => steps next

end Tame

end DurableWatch
