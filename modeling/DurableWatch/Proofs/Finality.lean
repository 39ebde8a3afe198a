import DurableWatch.Proofs.Abandonment
import DurableWatch.Proofs.Replay

/-!
# Unsubscribing is final

Fires may still come for watches that were armed before, and recoveries go on. None of it brings
back what unsubscribing has taken away: nothing is read for it again, and nothing told of it.
-/
namespace DurableWatch

open World

variable {σ : Type} {client : Client σ} {audience : Audience (Dialogue σ)} {p : Path}

/-! ### Later runs -/

/-- Fires, recoveries and deliveries, and subscriptions elsewhere. -/
def Command.Elsewhere (p : Path) : Command → Prop
  | .listen q _ .data => ∀ n, q ≠ p.child n
  | .listen q _ (.children _) => q ≠ p
  | .unlisten q (.children _) => q ≠ p
  | .unlisten _ .data | .dataChange _ | .childChange _ _ | .notify _ | .relisten _ | .reconnect _
  | .markStubborn _ _ | .unmarkStubborn _ | .setState _ _ | .notifyState _ | .deliver => True
  | .create _ _ _ | .createEphemeral _ _ _ | .createRecursive _ _ | .createStubborn _ _
  | .delete _ => False

/-- A step of a run in which nobody subscribes to `p` or its children. -/
inductive World.LaterStep (p : Path) (host : Host (Dialogue σ)) :
    World (Dialogue σ) → World (Dialogue σ) → Prop
  | command (w : World (Dialogue σ)) {command : Command} (elsewhere : command.Elsewhere p) :
    LaterStep p host w (w.perform host command)
  | client (w : World (Dialogue σ)) (state : σ) : LaterStep p host w (w.exchanged state [])

namespace World

theorem later_steps {host : Host (Dialogue σ)} {w w' : World (Dialogue σ)}
    (run : Relation.ReflTransGen (LaterStep p host) w w') :
    Relation.ReflTransGen (Step host) w w' := by
  refine run.lift id fun w₁ w₂ step => ?_
  cases step with
  | command elsewhere => exact .command w₁ _
  | client state => exact .outside w₁ _

theorem later_tame (tame : Tame client.host (LaterStep p) audience) :
    Tame client.host Step audience := tame.of_steps fun step => later_steps (.single step)

namespace Deaf

variable {gone : Path → Prop}

theorem perform (hear : ∀ l event w, Deaf p gone w (audience.hear l event w).2)
    (hearState : ∀ l state w, Deaf p gone w (audience.hearState l state w).2)
    (names : client.ListsNames) (children : client.OnlyChildren p gone)
    {command : Command} (elsewhere : command.Elsewhere p) (w : World (Dialogue σ)) :
    Deaf p gone w (w.perform (client.host.facing audience) command) := by
  have told (state : SessionState) (w : World (Dialogue σ)) :
      Deaf p gone w (World.notifyState (client.host.facing audience) state w).2 := by
    cases bound : w.coordinator.states.get? state with
    | none => rw [notifyState_unbound bound]; exact refl w
    | some l => rw [notifyState_bound bound]; exact hearState l state w
  cases command with
  | listen q l flavour =>
    refine listen hear names (fun found => ?_) l w
    cases flavour with
    | data =>
      intro hq
      obtain ⟨n, rfl⟩ := children.named q hq
      exact elsewhere n rfl
    | children withData =>
      exact ⟨elsewhere, fun n hn hq => elsewhere (children.only q n found hn hq)⟩
  | unlisten q flavour =>
    refine unlisten (fun withData isChildren => ?_) w
    subst isChildren
    exact elsewhere
  | dataChange q => exact dataChange client audience q w
  | childChange q delivery => exact childChange hear names q delivery w
  | notify note =>
    cases note with
    | watch q kind =>
      cases kind with
      | data =>
        have changed : Deaf p gone w (World.dataChange (client.host.facing audience) q w).2 :=
          dataChange client audience q w
        simp only [World.perform, onNotification, dropFailure_world]
        exact changed
      | children =>
        have changed := childChange hear names q .dispatched w
        simp only [World.perform, onNotification, dropFailure_world]
        exact changed
    | state state => exact told state w
  | relisten order => exact relistenIn hear names order w
  | reconnect order =>
    have spares : Request.reconnect.Spares p gone :=
      ⟨fun _ => Request.noConfusion, fun _ _ => Request.noConfusion⟩
    simp only [World.perform, reconnectIn]
    split
    · next resumed => exact asked spares resumed
    · next resumed => exact (asked spares resumed).trans (relistenIn hear names order _)
  | markStubborn q d =>
    simp only [World.perform, markCreated]
    split
    · exact refl w
    · next marked => exact aside (Coordinator.beside_markStubborn marked)
  | unmarkStubborn q => exact aside ⟨rfl, rfl, rfl, rfl, rfl⟩
  | setState state l? =>
    simp only [World.perform]
    split
    · exact aside ⟨rfl, rfl, rfl, rfl, rfl⟩
    · exact refl w
  | notifyState state => exact told state w
  | deliver =>
    simp only [World.perform, deliverNext]
    cases w.coordinator.dispatcher.next? with
    | none => exact refl w
    | some taken =>
      refine Deaf.trans (aside (c := { w.coordinator with dispatcher := taken.2 }) ?_)
        (hear taken.1.listener taken.1.event _)
      exact ⟨rfl, rfl, rfl, rfl, rfl⟩
  | create _ _ _ => exact elsewhere.elim
  | createEphemeral _ _ _ => exact elsewhere.elim
  | createRecursive _ _ => exact elsewhere.elim
  | createStubborn _ _ => exact elsewhere.elim
  | delete _ => exact elsewhere.elim

theorem run (hear : ∀ l event w, Deaf p gone w (audience.hear l event w).2)
    (hearState : ∀ l state w, Deaf p gone w (audience.hearState l state w).2)
    (names : client.ListsNames) (children : client.OnlyChildren p gone)
    {w w' : World (Dialogue σ)}
    (run : Relation.ReflTransGen (LaterStep p (client.host.facing audience)) w w') :
    Deaf p gone w w' := by
  induction run with
  | refl => exact refl w
  | tail _ step ih =>
    refine ih.trans ?_
    cases step with
    | command elsewhere => exact perform hear hearState names children elsewhere _
    | client state =>
      exact of_exchanged (f := id) (fun _ x hx => absurd hx List.not_mem_nil) id

/-- What listeners do when they are called is such a run as well. -/
theorem tame (names : client.ListsNames) (children : client.OnlyChildren p gone)
    (tame : Tame client.host (LaterStep p) audience) :
    (∀ l event w, Deaf p gone w (audience.hear l event w).2) ∧
      ∀ l state w, Deaf p gone w (audience.hearState l state w).2 :=
  tame.within refl trans fun hear hearState _ _ step =>
    run hear hearState names children (.single step)

end Deaf

/-- The children that are gone are named as children are. -/
theorem Unsubscribed.names {w w' : World (Dialogue σ)} {withData : Bool} {calls : List Exchange}
    {gone : List String} {result : Except Stop Unit}
    (unsubscribed : Unsubscribed client w w' p withData calls gone result)
    (names : client.ListsNames) (knows : w.coordinator.KnowsNames) :
    ∀ n ∈ gone, '/' ∉ n.toList := by
  cases cancels : w.cancelsData p withData with
  | false =>
    obtain ⟨-, rfl, -⟩ := unsubscribed.plainly cancels
    exact List.forall_mem_nil _
  | true =>
    obtain ⟨listed, rfl, cancelled⟩ := unsubscribed.cancelled cancels
    intro n hn
    rcases List.mem_append.1 hn with known | found
    · unfold knownAt at known
      cases registered : w.coordinator.children.get? p with
      | none =>
        rw [registered] at known
        cases known
      | some s =>
        rw [registered] at known
        exact knows p s registered n (Table.mem_keys.1 known)
    · cases cancelled with
      | unsure => cases found
      | missing => cases found
      | unlisted => cases found
      | listed attempts =>
        obtain ⟨_, -, rest⟩ := unsubscribed.answers.uncons
        obtain ⟨_, asked, -⟩ := rest.uncons
        exact names p false _ _ _ asked n found

/-- The nodes that are gone are children of `p` and of no other node, but that the empty text may
stand for the root. -/
theorem Unsubscribed.abandoned {w w' : World (Dialogue σ)} {withData : Bool}
    {calls : List Exchange} {gone : List String} {result : Except Stop Unit}
    (unsubscribed : Unsubscribed client w w' p withData calls gone result)
    (names : ∀ n ∈ gone, '/' ∉ n.toList) (valid : p ≠ "")
    (rooted : p = Path.root → w.coordinator.children.get? "" = none ∧ ¬client.MayFind "") :
    client.OnlyChildren p (· ∈ gone.map p.child) ∧
      w'.coordinator.Abandoned p (· ∈ gone.map p.child) := by
  have parent (q : Path) (n : String) (hn : '/' ∉ n.toList) (child : q.child n ∈ gone.map p.child) :
      q = p ∨ p = Path.root ∧ q = "" := by
    obtain ⟨m, hm, same⟩ := List.mem_map.1 child
    rcases Path.parent_unique (names m hm) hn same with here | root | ⟨empty, -⟩
    · exact .inl here.symm
    · exact .inr root
    · exact absurd empty valid
  refine ⟨⟨fun q hq => ?_, fun q n found hn child => ?_⟩, ?_, fun q hq => ?_,
    fun q s hs _ n hn child => ?_⟩
  · obtain ⟨n, -, rfl⟩ := List.mem_map.1 hq
    exact ⟨n, rfl⟩
  · refine (parent q n hn child).resolve_right fun ⟨root, empty⟩ => ?_
    exact (rooted root).2 (empty ▸ found)
  · rw [unsubscribed.left.children, Table.get?_erase, if_pos rfl]
  · rw [unsubscribed.left.data, if_pos hq]
  · rw [unsubscribed.left.children, Table.get?_erase] at hs
    split at hs
    · cases hs
    · next other =>
      rcases parent q n hn child with here | ⟨root, rfl⟩
      · exact other here
      · rw [(rooted root).1] at hs
        cases hs

/-- Unsubscribing from the children of `p` takes the subscription away whatever the client answers,
and what is gone does not come back: in a later run without a new subscription to `p` or its
children nobody lists the children of `p`, the former subscription produces nothing, and the data
of the children whose subscriptions have gone with it is not read again to watch it. -/
theorem unlisten_final (names : client.ListsNames) (tame : Tame client.host Step audience)
    (dispatcher : Dispatcher) (failFast : Bool) {w₀ w : World (Dialogue σ)}
    (start : w₀.coordinator = .new dispatcher failFast)
    (before : Relation.ReflTransGen (Step (client.host.facing audience)) w₀ w)
    (valid : p.defect? = none) (withData : Bool) :
    ∃ result w₁ calls gone,
      w.unlisten (client.host.facing audience) p (.children withData) = (result, w₁) ∧
      Unsubscribed client w w₁ p withData calls gone result ∧
      ∀ {audience' : Audience (Dialogue σ)}, Tame client.host (LaterStep p) audience' →
        ∀ {w₂}, Relation.ReflTransGen (LaterStep p (client.host.facing audience')) w₁ w₂ →
        ∃ xs, w₂.outside.log = w₁.outside.log ++ xs ∧
          w₂.coordinator.children.get? p = none ∧
          (∀ x ∈ xs, ∀ watch, x.request ≠ .listChildren p watch) ∧
          (∀ s, w.coordinator.children.get? p = some s →
            ∃ rs, w₂.coordinator.journal = w₁.coordinator.journal ++ rs ∧
              ∀ r ∈ rs, r.family ≠ s.id) ∧
          ((p = Path.root → w.coordinator.children.get? "" = none ∧ ¬client.MayFind "") →
            ∀ n ∈ gone, w₂.coordinator.data.get? (p.child n) = none ∧
              ∀ x ∈ xs, x.request ≠ .readData (p.child n) true) := by
  have routine := tame_routine client.host_orderly tame
  have sound : w.coordinator.Sound := by
    have sound₀ : w₀.coordinator.Sound := start ▸ sound_new dispatcher failFast
    exact sound₀.moves (run_moves (client.host_orderly.facing _) routine before)
  have knows : w.coordinator.KnowsNames := by
    have knows₀ : w₀.coordinator.KnowsNames :=
      start ▸ Coordinator.knowsNames_new dispatcher failFast
    exact (naming_registering names (naming_tame names tame)).run (fun _ _ => .of_eq rfl) before
      knows₀
  obtain ⟨result, w₁, calls, gone, unlistened, unsubscribed⟩ :=
    unlisten_unsubscribed client audience w p withData
  refine ⟨result, w₁, calls, gone, unlistened, unsubscribed, fun {_} tame' {w₂} later => ?_⟩
  have deaf (gone' : Path → Prop) (children : client.OnlyChildren p gone') :
      Deaf p gone' w₁ w₂ :=
    have heard := Deaf.tame names children tame'
    Deaf.run heard.1 heard.2 names children later
  -- of `p` itself nothing is asked of the rest of the registry
  obtain ⟨lonely, xs, log, unread⟩ := deaf (fun _ => False)
    ⟨fun _ => False.elim, fun _ _ _ _ => False.elim⟩
    ⟨by rw [unsubscribed.left.children, Table.get?_erase, if_pos rfl], fun _ => False.elim,
      fun _ _ _ _ _ _ => id⟩
  refine ⟨xs, log, lonely.children, fun x hx => (unread x hx).1, fun s registered => ?_,
    fun rooted n hn => ?_⟩
  · have extinct : w₁.coordinator.Extinct s.id := by
      refine sound.extinct_of_left registered unsubscribed.left fun watches n known => ?_
      have cancels : w.cancelsData p withData = true := by
        rw [cancelsData, registered, Option.any_some, watches, Bool.or_true]
      obtain ⟨listed, rfl, -⟩ := unsubscribed.cancelled cancels
      refine List.mem_append_left _ ?_
      rw [knownAt, registered]
      exact Table.mem_keys.2 known
    exact (extinct.moves (run_moves (client.host_orderly.facing _)
      (tame_routine client.host_orderly (later_tame tame')) (later_steps later))).2
  · have empty : p ≠ "" := by
      rintro rfl
      cases valid
    obtain ⟨only, abandoned⟩ :=
      unsubscribed.abandoned (unsubscribed.names names knows) empty rooted
    obtain ⟨still, xs', log', unread'⟩ := deaf _ only abandoned
    obtain rfl : xs = xs' := List.append_cancel_left (log.symm.trans log')
    have isGone : p.child n ∈ gone.map p.child := List.mem_map_of_mem hn
    exact ⟨still.data _ isGone, fun x hx => (unread' x hx).2 _ isGone⟩

end World

/-- Every node has the children `x` and `y`, and no watch can be cancelled. -/
def Client.clinging : Client Unit where
  isAlive _ := (true, ())
  ask
    | .existence _, _ => (.ok true, ())
    | .readData _ _, _ => (.ok .empty, ())
    | .listChildren _ _, _ => (.ok ["x", "y"], ())
    | .create p _ _, _ => (.ok p, ())
    | .cancelDataWatch _, _ => (.error (.invalidArgument "watched"), ())
    | .writeData _ _, _ | .delete _, _ | .reconnect, _ => (.ok (), ())

namespace World

/-- Someone watches the children of `/p` and their data. -/
def clung : World (Dialogue Unit) :=
  perform Client.clinging.host ⟨.new (.ofSize 1) false, ⟨(), []⟩⟩
    (.listen "/p" "l" (.children true))

/-- Watches that could not be cancelled still fire, but to no avail; a recovery finds nothing. -/
theorem unlisten_final_clinging :
    let host := Client.clinging.host.facing .silent
    let (result, left) := clung.unlisten host "/p" (.children false)
    let fired := (left.perform host (.dataChange "/p/x")).perform host
      (.childChange "/p" .dispatched)
    let w := fired.perform host (.relisten .ascending)
    result =
        .error (.failed ((Error.invalidArgument "watched").during "remove_data_watch" "/p/x")) ∧
      w.coordinator.children.get? "/p" = none ∧ w.coordinator.data.get? "/p/y" = none ∧
      ∃ xs, w.outside.log = left.outside.log ++ xs ∧
        ∀ x ∈ xs, (∀ watch, x.request ≠ .listChildren "/p" watch) ∧
          x.request ≠ .readData "/p/y" true := by
  intro host
  have names : Client.clinging.ListsNames := by
    intro q watch state found state' asked n hn
    obtain ⟨rfl, -⟩ : ["x", "y"] = found ∧ () = state' := by simpa [Client.clinging] using asked
    have plain : ∀ n ∈ ["x", "y"], '/' ∉ n.toList := by decide
    exact plain n hn
  have before : Relation.ReflTransGen (Step host) ⟨.new (.ofSize 1) false, ⟨(), []⟩⟩ clung :=
    .single (.command _ _)
  obtain ⟨result, left, calls, gone, unlistened, unsubscribed, final⟩ :=
    unlisten_final names .silent (.ofSize 1) false rfl before
      (by decide : Path.defect? "/p" = none) false
  obtain ⟨listed, rfl, -⟩ := unsubscribed.cancelled (by decide)
  have step (w : World (Dialogue Unit)) (command : Command) (elsewhere : command.Elsewhere "/p") :
      LaterStep "/p" host w (w.perform host command) := .command w elsewhere
  have later : Relation.ReflTransGen (LaterStep "/p" host) left
      (((left.perform host (.dataChange "/p/x")).perform host
        (.childChange "/p" .dispatched)).perform host (.relisten .ascending)) :=
    ((Relation.ReflTransGen.single (step _ (.dataChange _) trivial)).tail
      (step _ (.childChange _ _) trivial)).tail (step _ (.relisten _) trivial)
  obtain ⟨xs, log, lonely, unlisted, -, unread⟩ := final .silent later
  have known : "y" ∈ clung.knownAt "/p" ++ listed := List.mem_append_left _ (by decide)
  have isChild : Path.child "/p" "y" = "/p/y" := by decide
  obtain ⟨absent, unread⟩ := unread (fun root => absurd root (by decide)) "y" known
  rw [isChild] at absent unread
  rw [unlistened]
  refine ⟨?_, lonely, absent, xs, log, fun x hx => ⟨unlisted x hx, unread x hx⟩⟩
  have refused : result = (clung.unlisten host "/p" (.children false)).1 := by rw [unlistened]
  rw [refused]
  rfl

end World

end DurableWatch
