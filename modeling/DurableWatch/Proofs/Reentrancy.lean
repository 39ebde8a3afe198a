import DurableWatch.Proofs.Rollback
import DurableWatch.Proofs.Routine

/-!
# Calls back into the coordinator

While a client is asked it may call the coordinator back, and by the time it answers anything may be
registered at the path that the question was about. What is taken away after the answer is chosen by
its number, so it matters that a number is given once: whoever bears it later is the subscription
that got it. This is `Heir`, which holds between the beginning and the end of every call.
-/
namespace DurableWatch

namespace Coordinator

/-- Every subscription has a number that was given already. -/
structure Issued (c : Coordinator) : Prop where
  children : ∀ q s, c.children.get? q = some s → s.id < c.nextId
  data : ∀ q e, c.data.get? q = some e → e.id < c.nextId

/-- In `c'` the numbers that were given in `c` are borne by the same subscriptions as in `c`, at the
same paths, or by none. What a child subscription knows may have changed. -/
structure Heir (c c' : Coordinator) : Prop where
  nextId : c.nextId ≤ c'.nextId
  children : ∀ q s, c'.children.get? q = some s → s.id < c.nextId →
    ∃ known, c.children.get? q = some { s with known := known }
  data : ∀ q e, c'.data.get? q = some e → e.id < c.nextId → c.data.get? q = some e
  issued : c.Issued → c'.Issued

namespace Heir

variable {c c' c₁ c₂ c₃ : Coordinator}

/-- Subscriptions go and none comes. -/
theorem of_fewer (nextId : c'.nextId = c.nextId)
    (children : ∀ q s, c'.children.get? q = some s → c.children.get? q = some s)
    (data : ∀ q e, c'.data.get? q = some e → c.data.get? q = some e) : c.Heir c' where
  nextId := nextId.ge
  children q s there _ := ⟨s.known, children q s there⟩
  data q e there _ := data q e there
  issued issued := by
    constructor
    · intro q s there
      rw [nextId]
      exact issued.children q s (children q s there)
    · intro q e there
      rw [nextId]
      exact issued.data q e (data q e there)

theorem of_pools (children : c'.children = c.children) (data : c'.data = c.data)
    (nextId : c'.nextId = c.nextId) : c.Heir c' := by
  apply of_fewer nextId
  · simp [children]
  · simp [data]

theorem refl (c : Coordinator) : c.Heir c := of_pools rfl rfl rfl

theorem trans (h : c₁.Heir c₂) (h' : c₂.Heir c₃) : c₁.Heir c₃ where
  nextId := h.nextId.trans h'.nextId
  children q s there old := by
    obtain ⟨known, between⟩ := h'.children q s there (old.trans_le h.nextId)
    obtain ⟨before, there⟩ := h.children q { s with known := known } between old
    exact ⟨before, there⟩
  data q e there old := h.data q e (h'.data q e there (old.trans_le h.nextId)) old
  issued issued := h'.issued (h.issued issued)

variable (c) (p : Path)

theorem addChildren (l : Listener) (withData : Bool) : c.Heir (c.addChildren p l withData) := by
  have either (q : Path) (s : ChildSubscription)
      (there : (c.addChildren p l withData).children.get? q = some s) :
      s.id = c.nextId ∨ c.children.get? q = some s := by
    rcases Table.get?_of_insert there with ⟨-, rfl⟩ | before
    · exact .inl rfl
    · exact .inr before
  refine ⟨Nat.le_succ _, ?_, fun _ _ there _ => there, ?_⟩
  · intro q s there old
    rcases either q s there with new | before
    · omega
    · exact ⟨s.known, before⟩
  · intro issued
    constructor
    · intro q s there
      change s.id < c.nextId + 1
      rcases either q s there with new | before
      · omega
      · have old := issued.children q s before
        omega
    · intro q e there
      exact Nat.lt_succ_of_lt (issued.data q e there)

theorem addData (l : Listener) (owner? : Option Nat) : c.Heir (c.addData p l owner?) := by
  have either (q : Path) (e : DataSubscription)
      (there : (c.addData p l owner?).data.get? q = some e) :
      e.id = c.nextId ∨ c.data.get? q = some e := by
    rcases Table.get?_of_insert there with ⟨-, rfl⟩ | before
    · exact .inl rfl
    · exact .inr before
  refine ⟨Nat.le_succ _, fun _ s there _ => ⟨s.known, there⟩, ?_, ?_⟩
  · intro q e there old
    rcases either q e there with new | before
    · omega
    · exact before
  · intro issued
    constructor
    · intro q s there
      exact Nat.lt_succ_of_lt (issued.children q s there)
    · intro q e there
      change e.id < c.nextId + 1
      rcases either q e there with new | before
      · omega
      · have old := issued.data q e before
        omega

theorem removeChildren : c.Heir (c.removeChildren p) := by
  apply of_fewer
  · rfl
  · intro q s there
    exact Table.get?_of_erase there
  · exact fun _ _ there => there

theorem removeData : c.Heir (c.removeData p) := by
  apply of_fewer
  · rfl
  · exact fun _ _ there => there
  · intro q e there
    exact Table.get?_of_erase there

variable {c} {p}

/-- What a pass knows is stored with the subscription it was started for, or not at all. -/
theorem settle (heir : c.Heir c') {s : ChildSubscription} (registered : c.children.get? p = some s)
    (known : TextSet) : c.Heir (c'.settle p s known) := by
  by_cases there : c'.hasChildren p s.id = true
  · have children := children_settle c' p s known there
    obtain ⟨t, ht, same⟩ : ∃ t, c'.children.get? p = some t ∧ t.id = s.id := by
      simpa [hasChildren, Option.any_eq_true] using there
    have either (q : Path) (s' : ChildSubscription)
        (h : (c'.settle p s known).children.get? q = some s') :
        q = p ∧ { s with known := known } = s' ∨ c'.children.get? q = some s' := by
      rw [children] at h
      exact Table.get?_of_insert h
    refine ⟨by simpa using heir.nextId, ?_, by simpa using heir.data, ?_⟩
    · intro q s' h old
      rcases either q s' h with ⟨rfl, rfl⟩ | before
      · exact ⟨s.known, registered⟩
      · exact heir.children q s' before old
    · intro issued
      have after := heir.issued issued
      refine ⟨?_, by simpa using after.data⟩
      intro q s' h
      rw [nextId_settle]
      rcases either q s' h with ⟨rfl, rfl⟩ | before
      · have given := after.children q t ht
        rwa [same] at given
      · exact after.children q s' before
  · rwa [Coordinator.settle, if_neg there]

end Heir

/-- Nothing has the number `i` but the subscription of this flavour for `l` at `p`. -/
def Sole (c : Coordinator) (i : Nat) (p : Path) (l : Listener) : Flavour → Prop
  | .data =>
    (∀ q e, c.data.get? q = some e → e.id = i → q = p ∧ e = ⟨i, l, none⟩) ∧
      ∀ q s, c.children.get? q = some s → s.id ≠ i
  | .children withData =>
    (∀ q s, c.children.get? q = some s → s.id = i →
        q = p ∧ s.listener = l ∧ s.watchesChildData = withData) ∧
      ∀ q e, c.data.get? q = some e → e.id ≠ i

/-- A subscription keeps its number for itself. -/
theorem Heir.sole {c c' : Coordinator} {p : Path} {l : Listener} {flavour : Flavour}
    (issued : c.Issued) (heir : (c.subscribe p l flavour).Heir c') :
    c'.Sole c.nextId p l flavour := by
  have given : c.nextId < (c.subscribe p l flavour).nextId := by
    cases flavour <;> exact Nat.lt_succ_self _
  cases flavour with
  | data =>
    constructor
    · intro q e there same
      have before := heir.data q e there (same ▸ given)
      rcases Table.get?_of_insert before with ⟨here, rfl⟩ | older
      · exact ⟨here, rfl⟩
      · have old := issued.data q e older
        omega
    · intro q s there same
      obtain ⟨known, before⟩ := heir.children q s there (same ▸ given)
      have old := issued.children q _ before
      simp only at old
      omega
  | children withData =>
    constructor
    · intro q s there same
      obtain ⟨known, before⟩ := heir.children q s there (same ▸ given)
      rcases Table.get?_of_insert before with ⟨here, fresh⟩ | older
      · injection fresh with _ listener flag _
        exact ⟨here, listener.symm, flag.symm⟩
      · have old := issued.children q _ older
        simp only at old
        omega
    · intro q e there same
      have before := heir.data q e there (same ▸ given)
      have old := issued.data q e before
      omega

end Coordinator

open Coordinator World

variable {σ : Type}

/-- What the client and the listeners do when they are called is in the relation. -/
structure Host.Within (host : Host σ) (R : World σ → World σ → Prop) : Prop where
  isAlive : ∀ w, R w (host.isAlive w).2
  ask : ∀ r w, R w (host.ask r w).2
  hear : ∀ l event w, R w (host.hear l event w).2
  hearState : ∀ l state w, R w (host.hearState l state w).2

/-- Whatever is done on a call leaves the coordinator alone, or it is a run of steps. The calls made
during that run are of the same kind, one level deeper. -/
inductive Host.Reentrant : Host σ → Prop
  | still {host : Host σ} (still : host.Within fun w w' => w'.coordinator = w.coordinator) :
      Reentrant host
  | nested {inner outer : Host σ} (reentrant : Reentrant inner)
      (runs : outer.Within (Relation.ReflTransGen (World.Step inner))) : Reentrant outer

namespace World

/-- The coordinator of `w'` is an heir of that of `w`. -/
def Descends (w w' : World σ) : Prop := w.coordinator.Heir w'.coordinator

theorem Descends.refl (w : World σ) : Descends w w := Heir.refl w.coordinator

theorem Descends.trans {w₁ w₂ w₃ : World σ} (h : Descends w₁ w₂) (h' : Descends w₂ w₃) :
    Descends w₁ w₃ := Heir.trans h h'

theorem Descends.of_pools {w : World σ} {c : Coordinator}
    (children : c.children = w.coordinator.children) (data : c.data = w.coordinator.data)
    (nextId : c.nextId = w.coordinator.nextId) : Descends w { w with coordinator := c } :=
  Heir.of_pools children data nextId

variable {host : Host σ}

theorem descends_routine (within : host.Within Descends) : Routine host Descends where
  refl := Descends.refl
  trans := Descends.trans
  isAlive := within.isAlive
  ask r w _ := within.ask r w
  aside _ _ beside _ := Descends.of_pools beside.children beside.data beside.nextId
  hear := within.hear
  hearState := within.hearState

theorem descends_of_ask (within : host.Within Descends) {r : Request} {w w₁ : World σ}
    {a : Except Stop r.Answer} (asked : host.ask r w = (a, w₁)) : Descends w w₁ := by
  have h := within.ask r w
  rwa [asked] at h

theorem descends_dispatch (w : World σ) (r : Report) : Descends w (w.update (·.dispatch r)) :=
  Descends.of_pools rfl rfl rfl

theorem descends_removeDataIf (w : World σ) (p : Path) (id : Nat) :
    Descends w (w.update (·.removeDataIf p id)) := by
  unfold Descends
  rw [coordinator_update]
  unfold removeDataIf
  split
  · exact .removeData _ p
  · exact .refl _

theorem descends_removeDataAll (w : World σ) (qs : List Path) :
    Descends w (w.update (·.removeDataAll qs)) := by
  apply Heir.of_fewer
  · simp
  · simp
  · intro q e there
    rw [coordinator_update, data_removeDataAll] at there
    split at there
    · cases there
    · exact there

theorem dataChange_descends (within : host.Within Descends) (p : Path) (w : World σ) :
    Descends w (dataChange host p w).2 := by
  unfold dataChange
  split
  · exact .refl w
  · next s _ =>
    split
    · next asked => exact (descends_of_ask within asked).trans (descends_dispatch _ _)
    · next asked =>
      split
      · exact descends_of_ask within asked
      · split
        · exact descends_of_ask within asked
        · have removed := (descends_of_ask within asked).trans (descends_removeDataIf _ p s.id)
          exact removed.trans (descends_dispatch _ _)

theorem readNew_descends (within : host.Within Descends) (p : Path) (s : ChildSubscription)
    (ns : List String) (w : World σ) : Descends w (readNew host p s ns w).2 := by
  induction ns generalizing w with
  | nil => exact .refl w
  | cons n ns ih =>
    unfold readNew
    split
    · next asked => exact descends_of_ask within asked
    · next asked => exact (descends_of_ask within asked).trans (ih _)
    · next w₁ asked =>
      refine (descends_of_ask within asked).trans ?_
      dsimp only
      split
      · have added : Descends w₁ (w₁.update (·.addData (p.child n) s.listener (some s.id))) :=
          Heir.addData w₁.coordinator (p.child n) s.listener (some s.id)
        exact added.trans (ih _)
      · exact ih w₁

theorem tellChanges_descends (within : host.Within Descends) (p : Path) (s : ChildSubscription)
    (delivery : Delivery) (found : List (String × Data)) (gone : List Path) (w : World σ) :
    Descends w (tellChanges host p s delivery found gone w).2 := by
  have told (w : World σ) (created deleted : List Report) : Descends w
      (deliver host delivery created deleted (w.update (·.record (created ++ deleted)))).2 := by
    have recorded : Descends w (w.update (·.record (created ++ deleted))) :=
      Descends.of_pools rfl rfl rfl
    exact recorded.trans ((descends_routine within).deliver delivery created deleted _)
  unfold tellChanges
  dsimp only
  split
  · exact (descends_removeDataAll w gone).trans (told _ _ _)
  · exact told w _ _

/-- By the time a pass stores what it knows, its subscription may have been replaced. -/
theorem childChange_descends (within : host.Within Descends) (p : Path) (delivery : Delivery)
    (w : World σ) : Descends w (childChange host p delivery w).2 := by
  unfold childChange
  split
  · exact .refl w
  · next s registered =>
    unfold childPass
    split
    · next asked => exact descends_of_ask within asked
    · next snapshot w₁ asked =>
      have read := (descends_of_ask within asked).trans
        (readNew_descends within p s (ChildDiff.between s.known snapshot).created w₁)
      have settled (known : TextSet) : Descends w
          ((readNew host p s (ChildDiff.between s.known snapshot).created w₁).2.update
            (·.settle p s known)) := Heir.settle read registered known
      dsimp only
      split
      · exact settled _
      · exact (settled _).trans (tellChanges_descends within p s delivery _ _ _)

theorem descends_registering (within : host.Within Descends) :
    Routine.Registering host Descends where
  routine := descends_routine within
  toMarking := .of_beside fun _ _ beside =>
    Descends.of_pools beside.children beside.data beside.nextId
  dataChange := dataChange_descends within
  childChange := childChange_descends within
  asks := within.ask
  addChildren p l withData w := Heir.addChildren w.coordinator p l withData
  addData p l w := Heir.addData w.coordinator p l none
  removeChildren p w := Heir.removeChildren w.coordinator p
  removeData p w := Heir.removeData w.coordinator p

theorem run_descends (within : host.Within Descends) {w w' : World σ}
    (run : Relation.ReflTransGen (Step host) w w') : Descends w w' :=
  (descends_registering within).run (fun _ _ => Descends.of_pools rfl rfl rfl) run

/-- However deep the calls lie, a number stays with its subscription. -/
theorem reentrant_within (reentrant : host.Reentrant) : host.Within Descends := by
  induction reentrant with
  | still still =>
    have same {w w' : World σ} (h : w'.coordinator = w.coordinator) : Descends w w' := by
      unfold Descends
      rw [h]
      exact .refl w.coordinator
    constructor
    · exact fun w => same (still.isAlive w)
    · exact fun r w => same (still.ask r w)
    · exact fun l event w => same (still.hear l event w)
    · exact fun l state w => same (still.hearState l state w)
  | nested _ runs ih =>
    constructor
    · exact fun w => run_descends ih (runs.isAlive w)
    · exact fun r w => run_descends ih (runs.ask r w)
    · exact fun l event w => run_descends ih (runs.hear l event w)
    · exact fun l state w => run_descends ih (runs.hearState l state w)

/-! ### What a call takes away after it was interrupted -/

theorem issued_new (dispatcher : Dispatcher) (failFast : Bool) :
    (Coordinator.new dispatcher failFast).Issued := by
  constructor
  · intro q s there
    cases there
  · intro q e there
    cases there

/-- Of the data subscriptions only the one that was to be read goes, if it is still there. -/
theorem removeDataIf_of_heir {c c' : Coordinator} {p : Path} {s : DataSubscription}
    (issued : c.Issued) (registered : c.data.get? p = some s) (heir : c.Heir c') :
    c'.removeDataIf p s.id = if c'.data.get? p = some s then c'.removeData p else c' := by
  have same : c'.hasData p s.id = true ↔ c'.data.get? p = some s := by
    constructor
    · intro there
      obtain ⟨e, he, number⟩ : ∃ e, c'.data.get? p = some e ∧ e.id = s.id := by
        simpa [hasData, Option.any_eq_true] using there
      have given := issued.data p s registered
      have before := heir.data p e he (number ▸ given)
      rw [he, ← before, registered]
    · intro there
      simp [hasData, there]
  simp [removeDataIf, same]

theorem dataChange_missing {p : Path} {s : DataSubscription} {w w₁ : World σ} {cause : Error}
    (within : host.Within Descends) (issued : w.coordinator.Issued)
    (registered : w.coordinator.data.get? p = some s)
    (asked : host.ask (.readData p true) w = (.error (.failed cause), w₁))
    (missing : cause.isNotFound = true) :
    dataChange host p w = (.ok (), if s.parentManaged then w₁ else w₁.update fun c =>
      (if c.data.get? p = some s then c.removeData p else c).dispatch
        (s.report ⟨p, .deleted⟩)) := by
  have removed := removeDataIf_of_heir issued registered (descends_of_ask within asked)
  unfold dataChange
  simp only [registered, asked, Stop.isNotFound, missing]
  by_cases managed : s.parentManaged = true
  · simp [managed]
  · simp [managed, update, removed]

/-- A failed subscription takes away itself, and nothing that was registered while it was made; nor
does a data subscription whose node is missing take away anything but itself. Before the client
answers it may have called the coordinator back any number of times. -/
theorem rollback_spares_newer (reentrant : host.Reentrant) {dispatcher : Dispatcher}
    {failFast : Bool} {o : σ} {w : World σ}
    (run : Relation.ReflTransGen (Step host) ⟨.new dispatcher failFast, o⟩ w) (p : Path) :
    (∀ l flavour e w₁ w', admission host p w = some w₁ →
      listen host p l flavour w = (.error (.failed e), w') →
      ∃ cause w₂, host.ask (flavour.kind.read p) (w₁.update (·.subscribe p l flavour)) =
          (.error (.failed cause), w₂) ∧
        w₂.coordinator.Sole w₁.coordinator.nextId p l flavour ∧
        w'.outside = w₂.outside ∧
        w'.coordinator = if w₂.coordinator.numberAt p flavour = some w₁.coordinator.nextId
          then w₂.coordinator.vacate p flavour else w₂.coordinator) ∧
    ∀ s cause w₁, w.coordinator.data.get? p = some s →
      host.ask (.readData p true) w = (.error (.failed cause), w₁) → cause.isNotFound = true →
      dataChange host p w = (.ok (), if s.parentManaged then w₁ else w₁.update fun c =>
        (if c.data.get? p = some s then c.removeData p else c).dispatch
          (s.report ⟨p, .deleted⟩)) := by
  have within := reentrant_within reentrant
  have issued : w.coordinator.Issued := (run_descends within run).issued (issued_new _ _)
  constructor
  · intro l flavour e w₁ w' admitted failed
    rcases listen_failed failed with ⟨refused, -⟩ | ⟨w₁', admitted', reached, registering⟩
    · rw [admitted] at refused
      cases refused
    · obtain rfl : w₁ = w₁' := by
        rw [admitted] at admitted'
        exact Option.some.inj admitted'
      obtain ⟨cause, w₂, asked, outside, left⟩ := register_failed registering
      have before : Descends w w₁ := by
        rw [reached]
        exact ((descends_routine within).ensureAlive rfl).trans (within.ask _ _)
      have heir := descends_of_ask within asked
      exact ⟨cause, w₂, asked, Heir.sole (before.issued issued) heir, outside, left⟩
  · intro s cause w₁ registered asked missing
    exact dataChange_missing within issued registered asked missing

end World

/-- While the flag is set a watched read fails, but first somebody else subscribes to what was to be
read. -/
def Host.meddling : Host Bool where
  isAlive w := (true, w)
  ask r w :=
    match r with
    | .listChildren p true =>
      if w.outside then (.error (.failed (.invalidArgument "broken")),
        perform .unsteady { w with outside := false } (.listen p "newer" (.children false)))
      else (.ok [], w)
    | .readData p true =>
      if w.outside then (.error (.failed (.pathNotFound p)),
        perform .unsteady { w with outside := false } (.listen p "newer" .data))
      else (.ok .empty, w)
    | r => Host.unsteady.ask r w
  hear _ _ w := (.fine, w)
  hearState _ _ w := (.fine, w)

namespace World

theorem unsteady_reentrant : Host.unsteady.Reentrant := by
  apply Host.Reentrant.still
  constructor
  · simp [Host.unsteady]
  · simp [unsteady_ask]
  · simp [Host.unsteady]
  · simp [Host.unsteady]

theorem meddling_reentrant : Host.meddling.Reentrant := by
  apply Host.Reentrant.nested unsteady_reentrant
  constructor
  · exact fun w => .refl
  · intro r w
    have subscribed (p : Path) (flavour : Flavour) : Relation.ReflTransGen (Step .unsteady) w
        (perform .unsteady { w with outside := false } (.listen p "newer" flavour)) :=
      .tail (.single (.outside w false)) (.command _ _)
    simp only [Host.meddling]
    split
    · split
      · exact subscribed _ _
      · exact .refl
    · split
      · exact subscribed _ _
      · exact .refl
    · rw [unsteady_ask]
  · exact fun _ _ w => .refl
  · exact fun _ _ w => .refl

/-- The data of a node is subscribed to, then the flag is set. -/
def meddled : World Bool :=
  { perform .meddling ⟨.new (.ofSize 1) false, false⟩ (.listen "/a" "older" .data) with
    outside := true }

/-- Both the failed subscription and the missing node leave the newer subscription where it is. -/
theorem newer_subscription_stays :
    (∃ e w', listen .meddling "/a" "one" (.children false) meddled = (.error (.failed e), w') ∧
      (w'.coordinator.children.get? "/a").map (·.listener) = some "newer") ∧
    ∃ w', dataChange .meddling "/a" meddled = (.ok (), w') ∧
      (w'.coordinator.data.get? "/a").map (·.listener) = some "newer" ∧
      (w'.coordinator.journal.map fun r => (r.listener, r.event)) =
        [("older", ⟨"/a", .dataChanged .empty⟩), ("newer", ⟨"/a", .dataChanged .empty⟩),
          ("older", ⟨"/a", .deleted⟩)] := by
  have run : Relation.ReflTransGen (Step .meddling) ⟨.new (.ofSize 1) false, false⟩ meddled :=
    .tail (.single (.command _ _)) (.outside _ true)
  obtain ⟨listening, reading⟩ := rollback_spares_newer meddling_reentrant run "/a"
  constructor
  · have failed : listen .meddling "/a" "one" (.children false) meddled =
        (.error (.failed _), _) := rfl
    obtain ⟨cause, w₂, asked, -, -, left⟩ := listening "one" (.children false) _ _ _ rfl failed
    refine ⟨_, _, failed, ?_⟩
    rw [left]
    cases asked
    decide
  · refine ⟨_, reading _ _ _ rfl rfl rfl, ?_⟩
    decide

end World

end DurableWatch
