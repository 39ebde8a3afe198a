import DurableWatch.Proofs.Runs
import Mathlib.Tactic

/-!
# What operations are made of

Most operations are sequences of a few small steps: a plain request, a look at the connection, a
change beside the pools, a listener's call. A relation that contains these steps, and is closed
under composition, contains the operations. Handlers and recoveries are treated the same way, once
the two kinds of passes are known to be in the relation.
-/
namespace DurableWatch

/-- A request that neither arms nor cancels a watch, and leaves the session as it is. -/
def Request.isPlain : Request → Bool
  | existence _ | readData _ false | writeData _ _ | listChildren _ false | create _ _ _
  | delete _ => true
  | readData _ true | listChildren _ true | cancelDataWatch _ | reconnect => false

variable {σ : Type}

/-- Equal but for the queues, the stubborn nodes and the listeners for session states. -/
structure Coordinator.Beside (c c' : Coordinator) : Prop where
  children : c'.children = c.children
  data : c'.data = c.data
  failFast : c'.failFast = c.failFast
  nextId : c'.nextId = c.nextId
  journal : c'.journal = c.journal

/-- The relation contains the small steps. -/
structure Routine (host : Host σ) (R : World σ → World σ → Prop) : Prop where
  refl : ∀ w, R w w
  trans : ∀ {w₁ w₂ w₃}, R w₁ w₂ → R w₂ w₃ → R w₁ w₃
  isAlive : ∀ w, R w (host.isAlive w).2
  ask : ∀ r w, r.isPlain = true → R w (host.ask r w).2
  aside : ∀ w c, w.coordinator.Beside c → c.stubborn = w.coordinator.stubborn →
    R w { w with coordinator := c }
  hear : ∀ l event w, R w (host.hear l event w).2
  hearState : ∀ l state w, R w (host.hearState l state w).2

/-- The relation contains every change of what is stubborn. -/
structure Routine.Marking (R : World σ → World σ → Prop) : Prop where
  marked : ∀ w c p d, w.coordinator.markStubborn p d = .ok c → R w { w with coordinator := c }
  unmarked : ∀ w p, R w (w.update (·.unmarkStubborn p))

namespace Coordinator

theorem Beside.refl (c : Coordinator) : c.Beside c := ⟨rfl, rfl, rfl, rfl, rfl⟩

theorem Beside.trans {c₁ c₂ c₃ : Coordinator} (h : c₁.Beside c₂) (h' : c₂.Beside c₃) :
    c₁.Beside c₃ where
  children := h'.children.trans h.children
  data := h'.data.trans h.data
  failFast := h'.failFast.trans h.failFast
  nextId := h'.nextId.trans h.nextId
  journal := h'.journal.trans h.journal

theorem beside_submit (c : Coordinator) (r : Report) : c.Beside (c.submit r) :=
  ⟨rfl, rfl, rfl, rfl, rfl⟩

theorem beside_submitAll (c : Coordinator) (rs : List Report) : c.Beside (c.submitAll rs) := by
  induction rs generalizing c with
  | nil => exact Beside.refl c
  | cons r rs ih => exact (c.beside_submit r).trans (ih (c.submit r))

theorem stubborn_submitAll (c : Coordinator) (rs : List Report) :
    (c.submitAll rs).stubborn = c.stubborn := by
  induction rs generalizing c with
  | nil => rfl
  | cons r rs ih => exact ih (c.submit r)

theorem beside_markStubborn {c c' : Coordinator} {p : Path} {d : Data}
    (marked : c.markStubborn p d = .ok c') : c.Beside c' := by
  unfold markStubborn at marked
  split at marked
  · cases marked
  · split at marked
    · cases marked
    · cases marked
      exact ⟨rfl, rfl, rfl, rfl, rfl⟩

end Coordinator

open World

/-- A relation that leaves room for any change beside the pools contains the marks. -/
theorem Routine.Marking.of_beside {R : World σ → World σ → Prop}
    (aside : ∀ w c, w.coordinator.Beside c → R w { w with coordinator := c }) : Marking R where
  marked w _ _ _ marked := aside w _ (Coordinator.beside_markStubborn marked)
  unmarked w _ := aside w _ ⟨rfl, rfl, rfl, rfl, rfl⟩

theorem World.dropFailure_world (r : Except Stop Unit × World σ) : (dropFailure r).2 = r.2 := by
  unfold dropFailure
  split <;> rfl

/-- Attempts one after the other stay in a relation that contains each of them. -/
theorem World.attemptAll_closed {R : World σ → World σ → Prop} (refl : ∀ w, R w w)
    (trans : ∀ {w₁ w₂ w₃}, R w₁ w₂ → R w₂ w₃ → R w₁ w₃) {α : Type} (failFast : Bool)
    (path : α → Path) {attempt : α → World σ → Except Stop Unit × World σ}
    (contained : ∀ a w, R w (attempt a w).2) (as : List α) (w : World σ) :
    R w (attemptAll failFast path attempt as w).2 := by
  induction as generalizing w with
  | nil => exact refl w
  | cons a as ih =>
    have first := contained a w
    unfold attemptAll
    split
    · next h => rw [h] at first; exact trans first (ih _)
    · next h => rw [h] at first; exact first
    · next w₁ h =>
      rw [h] at first
      split
      · exact first
      · have rest := trans first (ih w₁)
        split
        · next h => rw [h] at rest; exact rest
        · exact rest

namespace Routine

variable {host : Host σ} {R : World σ → World σ → Prop}

theorem asked (routine : Routine host R) {r : Request} {w w₁ : World σ}
    {a : Except Stop r.Answer} (answered : host.ask r w = (a, w₁))
    (plain : r.isPlain = true) : R w w₁ := by
  have h := routine.ask r w plain
  rwa [answered] at h

theorem ensureAlive (routine : Routine host R) {w w₁ : World σ} {a : Except Stop Unit}
    (checked : World.ensureAlive host w = (a, w₁)) : R w w₁ := by
  have h := routine.isAlive w
  unfold World.ensureAlive at checked
  split at checked
  · next answered =>
    rw [answered] at h
    cases checked
    exact h
  · next answered =>
    rw [answered] at h
    cases checked
    exact h

theorem ensureReady (routine : Routine host R) {p : Path} {w w₁ : World σ}
    {a : Except Stop Unit} (checked : World.ensureReady host p w = (a, w₁)) : R w w₁ := by
  unfold World.ensureReady at checked
  split at checked
  · next alive =>
    cases checked
    exact routine.ensureAlive alive
  · next alive =>
    cases checked
    exact routine.ensureAlive alive

theorem tellAll (routine : Routine host R) (rs : List Report) (w : World σ) :
    R w (World.tellAll host rs w).2 := by
  induction rs generalizing w with
  | nil => exact routine.refl w
  | cons r rs ih =>
    have heard := routine.hear r.listener r.event w
    unfold World.tellAll tellInline
    split
    · next told => rw [told] at heard; exact heard
    · next told => rw [told] at heard; exact routine.trans heard (ih _)

theorem deliver (routine : Routine host R) (delivery : Delivery) (created deleted : List Report)
    (w : World σ) : R w (World.deliver host delivery created deleted w).2 := by
  have submitted (w : World σ) (rs : List Report) : R w (w.update (·.submitAll rs)) :=
    routine.aside w _ (w.coordinator.beside_submitAll rs) (w.coordinator.stubborn_submitAll rs)
  unfold World.deliver
  split
  · exact submitted w _
  · have told := routine.tellAll created w
    split
    · next h => rw [h] at told; exact told
    · next h => rw [h] at told; exact routine.trans told (submitted _ _)

theorem deliverNext (routine : Routine host R) (w : World σ) :
    R w ((w.deliverNext host).getD w) := by
  unfold World.deliverNext
  cases w.coordinator.dispatcher.next? with
  | none => exact routine.refl w
  | some taken =>
    refine routine.trans (routine.aside w { w.coordinator with dispatcher := taken.2 } ?_ rfl)
      (routine.hear taken.1.listener taken.1.event _)
    exact ⟨rfl, rfl, rfl, rfl, rfl⟩

theorem notifyState (routine : Routine host R) (state : SessionState) (w : World σ) :
    R w (World.notifyState host state w).2 := by
  unfold World.notifyState
  split
  · exact routine.refl w
  · next l _ =>
    have heard := routine.hearState l state w
    split
    · next h => rw [h] at heard; exact heard
    · next h => rw [h] at heard; exact heard

/-! ### Operations of a session -/

theorem create (routine : Routine host R) (p : Path) (d : Data) (mode : CreateMode)
    (w : World σ) : R w (World.create host p d mode w).2 := by
  unfold World.create
  split
  · next ready => exact routine.ensureReady ready
  · next ready => exact routine.trans (routine.ensureReady ready) (routine.ask _ _ rfl)

theorem markCreated (routine : Routine host R) (marking : Marking R) (p : Path) (d : Data)
    (w : World σ) : R w (World.markCreated p d w).2 := by
  unfold World.markCreated
  split
  · exact routine.refl w
  · next marked => exact marking.marked w _ p d marked

theorem createEphemeral (routine : Routine host R) (marking : Marking R) (p : Path) (d : Data)
    (recreate : Bool) (w : World σ) : R w (World.createEphemeral host p d recreate w).2 := by
  unfold World.createEphemeral
  split
  · exact routine.refl w
  · have made := routine.create p d .ephemeral w
    split
    · next h => rw [h] at made; exact made
    · next h =>
      rw [h] at made
      split
      · exact routine.trans made (routine.markCreated marking _ _ _)
      · exact made

theorem createMissing (routine : Routine host R) (ps : List Path) (w : World σ) :
    R w (World.createMissing host ps w).2 := by
  induction ps generalizing w with
  | nil => exact routine.refl w
  | cons a as ih =>
    unfold World.createMissing
    split
    · next answered => exact routine.asked answered rfl
    · next answered => exact routine.trans (routine.asked answered rfl) (ih _)
    · next answered =>
      refine routine.trans (routine.asked answered rfl) ?_
      split
      · next answered => exact routine.trans (routine.asked answered rfl) (ih _)
      · next answered =>
        split
        · exact routine.trans (routine.asked answered rfl) (ih _)
        · exact routine.asked answered rfl

theorem createRecursive (routine : Routine host R) (p : Path) (mode : CreateMode)
    (w : World σ) : R w (World.createRecursive host p mode w).2 := by
  unfold World.createRecursive
  split
  · next ready => exact routine.ensureReady ready
  · next ready =>
    refine routine.trans (routine.ensureReady ready) ?_
    split
    · next answered => exact routine.asked answered rfl
    · next answered => exact routine.asked answered rfl
    · next w₁ answered =>
      refine routine.trans (routine.asked answered rfl) ?_
      have made := routine.createMissing p.ancestors w₁
      split
      · next h => rw [h] at made; exact made
      · next h => rw [h] at made; exact routine.trans made (routine.ask _ _ rfl)

theorem clearAway (routine : Routine host R) (p : Path) (w : World σ) :
    R w (World.clearAway host p w).2 := by
  unfold World.clearAway
  split
  · next answered => exact routine.asked answered rfl
  · next answered => exact routine.asked answered rfl
  · next answered =>
    refine routine.trans (routine.asked answered rfl) ?_
    split
    · next answered => exact routine.asked answered rfl
    · next answered => split <;> exact routine.asked answered rfl

theorem createStubborn (routine : Routine host R) (marking : Marking R) (p : Path) (d : Data)
    (w : World σ) : R w (World.createStubborn host p d w).2 := by
  unfold World.createStubborn
  split
  · next ready => exact routine.ensureReady ready
  · next w₁ ready =>
    refine routine.trans (routine.ensureReady ready) ?_
    split
    · exact routine.refl _
    · have cleared := routine.clearAway p w₁
      split
      · next h => rw [h] at cleared; exact cleared
      · next w₂ h =>
        rw [h] at cleared
        refine routine.trans cleared ?_
        have made := routine.createMissing p.ancestors w₂
        split
        · next h => rw [h] at made; exact made
        · next h =>
          rw [h] at made
          refine routine.trans made ?_
          split
          · next answered => exact routine.asked answered rfl
          · next answered =>
            exact routine.trans (routine.asked answered rfl) (routine.markCreated marking _ _ _)

theorem remark (routine : Routine host R) (marking : Marking R) (node? : Option StubbornNode)
    (w : World σ) : R w (World.remark node? w).2 := by
  unfold World.remark
  split
  · exact routine.refl w
  · next n =>
    have marked := routine.markCreated marking n.path n.data w
    split
    · next h => rw [h] at marked; exact marked
    · next h => rw [h] at marked; exact marked

theorem delete (routine : Routine host R) (marking : Marking R) (p : Path) (w : World σ) :
    R w (World.delete host p w).2 := by
  unfold World.delete
  split
  · next alive => exact routine.ensureAlive alive
  · next w₁ alive =>
    refine routine.trans (routine.ensureAlive alive) ?_
    refine routine.trans (marking.unmarked w₁ p) ?_
    dsimp only
    split
    · next w₂ answered =>
      refine routine.trans (routine.asked answered rfl) ?_
      have marked := routine.remark marking (w₁.coordinator.stubbornNode? p) w₂
      split
      · next h => rw [h] at marked; exact marked
      · next h => rw [h] at marked; exact marked
    · exact routine.ask _ _ rfl

/-! ### Handlers and recovery -/

/-- The relation contains the passes over data and over child lists as well. -/
structure Passing (host : Host σ) (R : World σ → World σ → Prop) : Prop where
  routine : Routine host R
  dataChange : ∀ p w, R w (World.dataChange host p w).2
  childChange : ∀ p delivery w, R w (World.childChange host p delivery w).2

namespace Passing

theorem onNotification (passing : Passing host R) (note : Notification) (w : World σ) :
    R w (World.onNotification host note w).2 := by
  unfold World.onNotification
  split
  · rw [dropFailure_world]
    exact passing.dataChange _ w
  · rw [dropFailure_world]
    exact passing.childChange _ .dispatched w
  · exact passing.routine.notifyState _ w

theorem recreate (passing : Passing host R) (n : StubbornNode) (w : World σ) :
    R w (World.recreate host n w).2 := by
  unfold World.recreate
  split
  · next answered => exact passing.routine.asked answered rfl
  · next answered => split <;> exact passing.routine.asked answered rfl

theorem relistenIn (passing : Passing host R) (order : Enumeration) (w : World σ) :
    R w (World.relistenIn order host w).2 := by
  have routine := passing.routine
  have data := attemptAll_closed routine.refl routine.trans w.coordinator.failFast id
    passing.dataChange
  have children := attemptAll_closed routine.refl routine.trans w.coordinator.failFast id
    fun p w => passing.childChange p .dispatched w
  have nodes := attemptAll_closed routine.refl routine.trans w.coordinator.failFast
    StubbornNode.path passing.recreate
  have first := data (order.data w.coordinator.data.keys) w
  unfold World.relistenIn
  dsimp only
  split
  · next h => rw [h] at first; exact first
  · next w₁ h =>
    rw [h] at first
    refine routine.trans first ?_
    have second := children (order.children w₁.coordinator.children.keys) w₁
    split
    · next h => rw [h] at second; exact second
    · next w₂ h =>
      rw [h] at second
      refine routine.trans second ?_
      have third := nodes (order.stubborn w₂.coordinator.stubbornNodes) w₂
      split
      · next h => rw [h] at third; exact third
      · next h =>
        rw [h] at third
        split <;> exact third

theorem reconnectIn (passing : Passing host R) (resumes : ∀ w, R w (host.ask .reconnect w).2)
    (order : Enumeration) (w : World σ) : R w (World.reconnectIn order host w).2 := by
  have resumed := resumes w
  unfold World.reconnectIn
  split
  · next h => rw [h] at resumed; exact resumed
  · next h => rw [h] at resumed; exact passing.routine.trans resumed (passing.relistenIn order _)

/-- A command is in the relation if subscribing, unsubscribing and reconnecting are. -/
theorem perform (passing : Passing host R) (marking : Marking R) (w : World σ) (command : Command)
    (reconnects : ∀ order, command = .reconnect order → R w (w.reconnectIn order host).2)
    (listens : ∀ p l flavour, command = .listen p l flavour → R w (w.listen host p l flavour).2)
    (unlistens : ∀ p flavour, command = .unlisten p flavour → R w (w.unlisten host p flavour).2) :
    R w (w.perform host command) := by
  have routine := passing.routine
  cases command with
  | listen p l flavour => exact listens p l flavour rfl
  | unlisten p flavour => exact unlistens p flavour rfl
  | dataChange p => exact passing.dataChange p w
  | childChange p delivery => exact passing.childChange p delivery w
  | notify note => exact passing.onNotification note w
  | relisten order => exact passing.relistenIn order w
  | reconnect order => exact reconnects order rfl
  | create p d mode => exact routine.create p d mode w
  | createEphemeral p d recreate => exact routine.createEphemeral marking p d recreate w
  | createRecursive p mode => exact routine.createRecursive p mode w
  | createStubborn p d => exact routine.createStubborn marking p d w
  | delete p => exact routine.delete marking p w
  | markStubborn p d => exact routine.markCreated marking p d w
  | unmarkStubborn p => exact marking.unmarked w p
  | setState state l? =>
    simp only [World.perform]
    split
    · exact routine.aside w _ ⟨rfl, rfl, rfl, rfl, rfl⟩ rfl
    · exact routine.refl w
  | notifyState state => exact routine.notifyState state w
  | deliver => exact routine.deliverNext w

end Passing

/-! ### Subscribing and unsubscribing -/

/-- The relation contains every request, and every change of one subscription. -/
structure Subscribing (host : Host σ) (R : World σ → World σ → Prop) : Prop
    extends Passing host R where
  asks : ∀ r w, R w (host.ask r w).2
  addChildren : ∀ p l withData w, R w (w.update (·.addChildren p l withData))
  addData : ∀ p l w, R w (w.update (·.addData p l none))
  removeChildren : ∀ p w, R w (w.update (·.removeChildren p))
  removeData : ∀ p w, R w (w.update (·.removeData p))

namespace Subscribing

theorem trans (subscribing : Subscribing host R) {w₁ w₂ w₃ : World σ} (h : R w₁ w₂)
    (h' : R w₂ w₃) : R w₁ w₃ := subscribing.routine.trans h h'

theorem answered (subscribing : Subscribing host R) {r : Request} {w w₁ : World σ}
    {a : Except Stop r.Answer} (asked : host.ask r w = (a, w₁)) : R w w₁ := by
  have h := subscribing.asks r w
  rwa [asked] at h

theorem removeDataAll (subscribing : Subscribing host R) (qs : List Path) (w : World σ) :
    R w (w.update (·.removeDataAll qs)) := by
  induction qs generalizing w with
  | nil => exact subscribing.routine.refl w
  | cons q qs ih =>
    exact subscribing.trans (subscribing.removeData q w) (ih (w.update (·.removeData q)))

theorem removeChildrenIf (subscribing : Subscribing host R) (p : Path) (id : Nat) (w : World σ) :
    R w (w.update (·.removeChildrenIf p id)) := by
  unfold Coordinator.removeChildrenIf
  by_cases there : w.coordinator.hasChildren p id = true
  · simpa [update, there] using subscribing.removeChildren p w
  · simpa [update, there] using subscribing.routine.refl w

theorem removeDataIf (subscribing : Subscribing host R) (p : Path) (id : Nat) (w : World σ) :
    R w (w.update (·.removeDataIf p id)) := by
  unfold Coordinator.removeDataIf
  by_cases there : w.coordinator.hasData p id = true
  · simpa [update, there] using subscribing.removeData p w
  · simpa [update, there] using subscribing.routine.refl w

theorem register (subscribing : Subscribing host R) (p : Path) (l : Listener) (flavour : Flavour)
    (w : World σ) : R w (World.register host p l flavour w).2 := by
  unfold World.register
  cases flavour with
  | children withData =>
    have first := subscribing.trans (subscribing.addChildren p l withData w)
      (subscribing.childChange p .inline _)
    dsimp only
    split
    · next h => rw [h] at first; exact subscribing.trans first (subscribing.removeChildrenIf p _ _)
    · exact first
  | data =>
    have first := subscribing.trans (subscribing.addData p l w) (subscribing.dataChange p _)
    dsimp only
    split
    · next h => rw [h] at first; exact subscribing.trans first (subscribing.removeDataIf p _ _)
    · exact first

theorem listen (subscribing : Subscribing host R) (p : Path) (l : Listener) (flavour : Flavour)
    (w : World σ) : R w (World.listen host p l flavour w).2 := by
  unfold World.listen
  split
  · next alive => exact subscribing.routine.ensureAlive alive
  · next alive =>
    refine subscribing.trans (subscribing.routine.ensureAlive alive) ?_
    split
    · next asked => exact subscribing.answered asked
    · next asked => exact subscribing.answered asked
    · next asked =>
      exact subscribing.trans (subscribing.answered asked) (subscribing.register p l flavour _)

theorem cancelEach (subscribing : Subscribing host R) (p : Path) (ns : List String)
    (w : World σ) : R w (World.cancelEach host p ns w).2 := by
  induction ns generalizing w with
  | nil => exact subscribing.routine.refl w
  | cons n ns ih =>
    have removed := subscribing.removeData (p.child n) w
    unfold World.cancelEach
    split
    · next asked =>
      exact subscribing.trans removed (subscribing.trans (subscribing.answered asked) (ih _))
    · next asked => exact subscribing.trans removed (subscribing.answered asked)
    · next w₁ asked =>
      have rest :=
        subscribing.trans removed (subscribing.trans (subscribing.answered asked) (ih w₁))
      split
      · next h => rw [h] at rest; exact rest
      · next h => rw [h] at rest; exact rest

theorem cancelChildData (subscribing : Subscribing host R) (p : Path) (w : World σ) :
    R w (World.cancelChildData host p w).2 := by
  unfold World.cancelChildData
  split
  · next asked => exact subscribing.answered asked
  · next asked => exact subscribing.answered asked
  · next asked =>
    refine subscribing.trans (subscribing.answered asked) ?_
    split
    · next asked => exact subscribing.answered asked
    · next asked =>
      exact subscribing.trans (subscribing.answered asked) (subscribing.cancelEach p _ _)

theorem unlisten (subscribing : Subscribing host R) (p : Path) (flavour : Flavour) (w : World σ) :
    R w (World.unlisten host p flavour w).2 := by
  unfold World.unlisten
  cases flavour with
  | children withData =>
    have removed := subscribing.removeChildren p w
    simp only [unlistenChildren]
    split
    · refine subscribing.trans removed ?_
      exact subscribing.trans (subscribing.removeDataAll _ _) (subscribing.cancelChildData p _)
    · exact removed
  | data =>
    have removed := subscribing.removeData p w
    simp only [unlistenData]
    split
    · next asked => exact subscribing.trans removed (subscribing.answered asked)
    · next asked => exact subscribing.trans removed (subscribing.answered asked)
    · next asked =>
      refine subscribing.trans (subscribing.trans removed (subscribing.answered asked)) ?_
      split
      · next asked => exact subscribing.answered asked
      · next asked => exact subscribing.answered asked

end Subscribing

/-! ### Commands -/

/-- The relation contains every command. -/
structure Registering (host : Host σ) (R : World σ → World σ → Prop) : Prop
    extends Subscribing host R, Marking R

namespace Registering

theorem perform (registering : Registering host R) (w : World σ) (command : Command) :
    R w (w.perform host command) := by
  apply registering.toPassing.perform registering.toMarking w command
  · intro order _
    exact registering.reconnectIn (registering.asks .reconnect) order w
  · intro p l flavour _
    exact registering.listen p l flavour w
  · intro p flavour _
    exact registering.unlisten p flavour w

/-- A relation that leaves room for anything outside contains every run. -/
theorem run (registering : Registering host R)
    (outside : ∀ (w : World σ) (o : σ), R w { w with outside := o }) {w w' : World σ}
    (run : Relation.ReflTransGen (Step host) w w') : R w w' := by
  induction run with
  | refl => exact registering.routine.refl w
  | tail _ step ih =>
    refine registering.trans ih ?_
    cases step with
    | command command => exact registering.perform _ command
    | outside o => exact outside _ o

end Registering

end Routine

end DurableWatch
