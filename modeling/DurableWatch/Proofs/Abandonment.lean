import DurableWatch.Proofs.Departure
import DurableWatch.Proofs.RecoveryIsolation

/-!
# What is not asked again

When nobody is subscribed to the children of a node, none of the operations on other nodes lists
them. The same holds of the data of nodes that nobody is subscribed to. There a child subscription
could be in the way: it makes data subscriptions, but for its own children only, because the name of
a child has no slash in it.
-/
namespace DurableWatch

open World

variable {σ : Type} {client : Client σ} {audience : Audience (Dialogue σ)} {p : Path}

/-! ### The names of children -/

/-- The names that the client lists are names of children. -/
def Client.ListsNames (client : Client σ) : Prop :=
  ∀ p watch state names state', client.ask (.listChildren p watch) state = (.ok names, state') →
    ∀ n ∈ names, '/' ∉ n.toList

/-- The client may answer that there is such a node. -/
def Client.MayFind (client : Client σ) (p : Path) : Prop :=
  ∃ state state', client.ask (.existence p) state = (.ok true, state')

/-- The nodes in `gone` are children of `p`, and of no other node that the client may find. -/
structure Client.OnlyChildren (client : Client σ) (p : Path) (gone : Path → Prop) : Prop where
  named : ∀ q, gone q → ∃ n, q = p.child n
  only : ∀ q n, client.MayFind q → '/' ∉ n.toList → gone (q.child n) → q = p

namespace Coordinator

/-- What is known of children are their names. -/
def KnowsNames (c : Coordinator) : Prop :=
  ∀ q s, c.children.get? q = some s → ∀ n, s.known.contains n = true → '/' ∉ n.toList

theorem KnowsNames.of_children {c c' : Coordinator} (knows : c.KnowsNames)
    (children : ∀ q s, c'.children.get? q = some s → c.children.get? q = some s) :
    c'.KnowsNames :=
  fun q s hs => knows q s (children q s hs)

theorem KnowsNames.absorb {c : Coordinator} {s : ChildSubscription} {snapshot : List String}
    (knows : c.KnowsNames) (registered : c.children.get? p = some s)
    (names : ∀ n ∈ snapshot, '/' ∉ n.toList) (delivery : Delivery) (new : NewChildren) :
    (c.absorb p s delivery (ChildDiff.between s.known snapshot) new).KnowsNames := by
  intro q s' hs' n known
  rw [children_absorb registered] at hs'
  split at hs'
  · cases hs'
    exact names n ((contains_knownAfter s.known snapshot new n).1 known).1
  · exact knows q s' hs' n known

theorem knowsNames_new (dispatcher : Dispatcher) (failFast : Bool) :
    (Coordinator.new dispatcher failFast).KnowsNames := by
  intro q s hs
  cases hs

end Coordinator

namespace World

/-- Names stay names. -/
def Naming (w w' : World σ) : Prop := w.coordinator.KnowsNames → w'.coordinator.KnowsNames

theorem Naming.of_children {w w' : World σ}
    (children : ∀ q s, w'.coordinator.children.get? q = some s →
      w.coordinator.children.get? q = some s) : Naming w w' :=
  fun knows => knows.of_children children

theorem Naming.of_eq {w w' : World σ} (same : w'.coordinator = w.coordinator) : Naming w w' :=
  .of_children fun q s hs => by rwa [same] at hs

theorem naming_routine
    (hear : ∀ l event w, Naming w (audience.hear l event w).2)
    (hearState : ∀ l state w, Naming w (audience.hearState l state w).2) :
    Routine (client.host.facing audience) Naming where
  refl _ := id
  trans h h' := h' ∘ h
  isAlive _ := .of_eq rfl
  ask _ _ _ := .of_eq rfl
  aside _ _ beside _ := .of_children fun q s hs => by rwa [beside.children] at hs
  hear := hear
  hearState := hearState

theorem children_absorbData (c : Coordinator) (p : Path) (e : DataSubscription)
    (answer : Except Error Data) : (c.absorbData p e answer).children = c.children := by
  unfold Coordinator.absorbData
  split
  · rfl
  · split <;> rfl

theorem naming_dataChange (p : Path) (w : World (Dialogue σ)) :
    Naming w (dataChange (client.host.facing audience) p w).2 := by
  cases registered : w.coordinator.data.get? p with
  | none => rw [dataChange_unregistered registered]; exact id
  | some e =>
    rcases asked : client.ask (.readData p true) w.outside.client with ⟨answer, state⟩
    rw [dataChange_asked registered asked]
    refine .of_children fun q s hs => ?_
    rwa [coordinator_update, children_absorbData] at hs

theorem naming_childChange (names : client.ListsNames)
    (routine : Routine (client.host.facing audience) Naming) (p : Path) (delivery : Delivery)
    (w : World (Dialogue σ)) :
    Naming w (childChange (client.host.facing audience) p delivery w).2 := by
  cases registered : w.coordinator.children.get? p with
  | none => rw [childChange_unregistered registered]; exact id
  | some s =>
    rw [childChange_registered registered]
    rcases asked : client.ask (.listChildren p true) w.outside.client with ⟨answer, state⟩
    cases answer with
    | error e =>
      rw [childPass_refused audience s delivery asked]
      exact .of_eq rfl
    | ok snapshot =>
      obtain ⟨answers, state', -, passed⟩ := childPass_asked audience s delivery asked
      rw [passed]
      refine routine.trans (fun knows => ?_) (routine.deliver delivery _ _ _)
      exact knows.absorb registered (names p true _ _ _ asked) delivery _

theorem naming_registering (names : client.ListsNames)
    (routine : Routine (client.host.facing audience) Naming) :
    Routine.Registering (client.host.facing audience) Naming where
  routine := routine
  toMarking := .of_beside fun _ _ beside =>
    .of_children fun q s hs => by rwa [beside.children] at hs
  dataChange := naming_dataChange
  childChange := naming_childChange names routine
  asks _ _ := .of_eq rfl
  addChildren p l withData w knows := by
    intro q s hs n known
    rcases Table.get?_of_insert hs with ⟨-, rfl⟩ | before
    · cases known
    · exact knows q s before n known
  addData _ _ _ := .of_children fun _ _ hs => hs
  removeChildren _ _ := .of_children fun _ _ hs => Table.get?_of_erase hs
  removeData _ _ := .of_children fun _ _ hs => hs

theorem naming_tame (names : client.ListsNames) (tame : Tame client.host Step audience) :
    Routine (client.host.facing audience) Naming := by
  obtain ⟨hear, hearState⟩ := tame.within (R := Naming) (fun _ => id) (fun h h' => h' ∘ h)
    fun hear hearState _ _ step =>
      (naming_registering names (naming_routine hear hearState)).run (fun _ _ => .of_eq rfl)
        (.single step)
  exact naming_routine hear hearState

end World

/-! ### What is not asked again -/

/-- No read of the child list of `p`, and no watched read of a node in `gone`. -/
def Request.Spares (p : Path) (gone : Path → Prop) (r : Request) : Prop :=
  (∀ watch, r ≠ .listChildren p watch) ∧ ∀ q, gone q → r ≠ .readData q true

/-- Nobody is subscribed to the children of `p`, nor to the data of the nodes in `gone`, nor makes
anyone who watches the data of its children subscribe to such a node. -/
structure Coordinator.Abandoned (p : Path) (gone : Path → Prop) (c : Coordinator) : Prop where
  children : c.children.get? p = none
  data : ∀ q, gone q → c.data.get? q = none
  strangers : ∀ (q : Path) s, c.children.get? q = some s → s.watchesChildData = true →
    ∀ n, '/' ∉ n.toList → ¬gone (q.child n)

namespace Coordinator

variable {gone : Path → Prop} {c c' : Coordinator}

theorem Abandoned.of_subset (abandoned : c.Abandoned p gone)
    (children : ∀ q s', c'.children.get? q = some s' →
      ∃ s, c.children.get? q = some s ∧ s.watchesChildData = s'.watchesChildData)
    (data : ∀ q e, c'.data.get? q = some e → c.data.get? q = some e ∨ ¬gone q) :
    c'.Abandoned p gone where
  children := by
    by_contra there
    obtain ⟨s', hs'⟩ := Option.ne_none_iff_exists'.1 there
    obtain ⟨s, hs, -⟩ := children p s' hs'
    rw [abandoned.children] at hs
    cases hs
  data q hq := by
    by_contra there
    obtain ⟨e, he⟩ := Option.ne_none_iff_exists'.1 there
    rcases data q e he with before | kept
    · rw [abandoned.data q hq] at before
      cases before
    · exact kept hq
  strangers q s' hs' watches n hn := by
    obtain ⟨s, hs, same⟩ := children q s' hs'
    exact abandoned.strangers q s hs (same.trans watches) n hn

theorem Abandoned.beside (abandoned : c.Abandoned p gone) (beside : c.Beside c') :
    c'.Abandoned p gone :=
  ⟨beside.children ▸ abandoned.children, beside.data ▸ abandoned.data,
    beside.children ▸ abandoned.strangers⟩

theorem Abandoned.absorbData (abandoned : c.Abandoned p gone) (q : Path) (e : DataSubscription)
    (answer : Except Error Data) : (c.absorbData q e answer).Abandoned p gone := by
  refine abandoned.of_subset (fun r s hs => ⟨s, by rwa [children_absorbData] at hs, rfl⟩)
    fun r e' he' => .inl ?_
  unfold Coordinator.absorbData at he'
  split at he'
  · exact he'
  · split at he'
    · exact Table.get?_of_erase he'
    · exact he'

theorem Abandoned.absorb {s : ChildSubscription} {q : Path} (abandoned : c.Abandoned p gone)
    (registered : c.children.get? q = some s) (delivery : Delivery) (diff : ChildDiff)
    (new : NewChildren) (names : ∀ e ∈ new.found, '/' ∉ e.1.toList) :
    (c.absorb q s delivery diff new).Abandoned p gone := by
  refine abandoned.of_subset (fun r s' hs' => ?_) fun r e he => ?_
  · rw [children_absorb registered] at hs'
    split at hs'
    · next same =>
      cases hs'
      exact ⟨s, same ▸ registered, rfl⟩
    · exact ⟨s', hs', rfl⟩
  · rw [data_absorb] at he
    split at he
    · cases he
    · rcases data_addFound c q s new.found r with ⟨same, -⟩ | ⟨watches, ⟨f, found, rfl⟩, -⟩
      · exact .inl (same ▸ he)
      · exact .inr (abandoned.strangers q s registered watches f.1 (names f found))

end Coordinator

namespace World

/-- What is abandoned stays so, and is not asked for. -/
def Deaf (p : Path) (gone : Path → Prop) (w w' : World (Dialogue σ)) : Prop :=
  w.coordinator.Abandoned p gone → w'.coordinator.Abandoned p gone ∧
    ∃ xs, w'.outside.log = w.outside.log ++ xs ∧ ∀ x ∈ xs, x.request.Spares p gone

namespace Deaf

variable {gone : Path → Prop} {w w₁ w₂ : World (Dialogue σ)}

theorem refl (w : World (Dialogue σ)) : Deaf p gone w w :=
  fun abandoned => ⟨abandoned, [], (List.append_nil _).symm, by simp⟩

theorem trans (h : Deaf p gone w w₁) (h' : Deaf p gone w₁ w₂) : Deaf p gone w w₂ := by
  intro abandoned
  obtain ⟨abandoned₁, xs, log, spares⟩ := h abandoned
  obtain ⟨abandoned₂, xs', log', spares'⟩ := h' abandoned₁
  refine ⟨abandoned₂, xs ++ xs', by rw [log', log, List.append_assoc], fun x hx => ?_⟩
  exact (List.mem_append.1 hx).elim (spares x) (spares' x)

/-- These exchanges, and such a change of the coordinator. -/
theorem of_exchanged {state : σ} {xs : List Exchange} {f : Coordinator → Coordinator}
    (spares : w.coordinator.Abandoned p gone → ∀ x ∈ xs, x.request.Spares p gone)
    (keeps : w.coordinator.Abandoned p gone → (f w.coordinator).Abandoned p gone) :
    Deaf p gone w ((w.exchanged state xs).update f) :=
  fun abandoned => ⟨keeps abandoned, xs, rfl, spares abandoned⟩

theorem of_update {f : Coordinator → Coordinator}
    (keeps : w.coordinator.Abandoned p gone → (f w.coordinator).Abandoned p gone) :
    Deaf p gone w (w.update f) :=
  fun abandoned => ⟨keeps abandoned, [], (List.append_nil _).symm, by simp⟩

theorem aside {c : Coordinator} (beside : w.coordinator.Beside c) :
    Deaf p gone w { w with coordinator := c } :=
  of_update (f := fun _ => c) fun abandoned => abandoned.beside beside

theorem asked {r : Request} (spares : r.Spares p gone) {answer : Except Stop r.Answer}
    (asked : (client.host.facing audience).ask r w = (answer, w₁)) : Deaf p gone w w₁ := by
  obtain rfl : ((client.host.facing audience).ask r w).2 = w₁ := congrArg Prod.snd asked
  exact fun abandoned => ⟨abandoned, _, rfl, fun x hx => by
    rw [List.mem_singleton.1 hx]
    exact spares⟩

/-! ### Passes and deliveries -/

theorem dataChange (client : Client σ) (audience : Audience (Dialogue σ)) (q : Path)
    (w : World (Dialogue σ)) :
    Deaf p gone w (World.dataChange (client.host.facing audience) q w).2 := by
  cases registered : w.coordinator.data.get? q with
  | none => rw [dataChange_unregistered registered]; exact refl w
  | some e =>
    rcases asked : client.ask (.readData q true) w.outside.client with ⟨answer, state⟩
    rw [dataChange_asked registered asked]
    refine of_exchanged (fun abandoned x hx => ?_) fun abandoned => abandoned.absorbData q e answer
    rw [List.mem_singleton.1 hx]
    refine ⟨fun _ => Request.noConfusion, fun r hr same => ?_⟩
    obtain rfl : q = r := (Request.readData.inj same).1
    rw [abandoned.data q hr] at registered
    cases registered

section telling

variable (hear : ∀ l event w, Deaf p gone w (audience.hear l event w).2)
include hear

theorem tellAll (rs : List Report) (w : World (Dialogue σ)) :
    Deaf p gone w (World.tellAll (client.host.facing audience) rs w).2 := by
  induction rs generalizing w with
  | nil => exact refl w
  | cons r rs ih =>
    have heard : Deaf p gone w (tellInline (client.host.facing audience) r w).2 :=
      hear r.listener r.event w
    unfold World.tellAll
    split
    · next told => rw [told] at heard; exact heard
    · next told => rw [told] at heard; exact heard.trans (ih _)

theorem deliver (delivery : Delivery) (created deleted : List Report) (w : World (Dialogue σ)) :
    Deaf p gone w
      (World.deliver (client.host.facing audience) delivery created deleted w).2 := by
  have submitted (w : World (Dialogue σ)) (rs : List Report) :
      Deaf p gone w (w.update (·.submitAll rs)) := aside (w.coordinator.beside_submitAll rs)
  unfold World.deliver
  split
  · exact submitted w _
  · have told : Deaf p gone w (World.tellAll (client.host.facing audience) created w).2 :=
      tellAll hear created w
    split
    · next h => rw [h] at told; exact told
    · next h => rw [h] at told; exact told.trans (submitted _ _)

variable (names : client.ListsNames)
include names

theorem childPass {q : Path} {s : ChildSubscription} {w : World (Dialogue σ)}
    (registered : w.coordinator.children.get? q = some s) (delivery : Delivery) :
    Deaf p gone w (World.childPass (client.host.facing audience) q s delivery w).2 := by
  have listing (abandoned : w.coordinator.Abandoned p gone) (watch : Bool) :
      (Request.listChildren q watch).Spares p gone := by
    refine ⟨fun _ same => ?_, fun _ _ => Request.noConfusion⟩
    obtain rfl : q = p := (Request.listChildren.inj same).1
    rw [abandoned.children] at registered
    cases registered
  rcases asked : client.ask (.listChildren q true) w.outside.client with ⟨answer, state⟩
  cases answer with
  | error e =>
    rw [childPass_refused audience s delivery asked]
    refine of_exchanged (f := id) (fun abandoned x hx => ?_) id
    rw [List.mem_singleton.1 hx]
    exact listing abandoned true
  | ok snapshot =>
    obtain ⟨answers, state', -, passed⟩ := childPass_asked audience s delivery asked
    rw [passed]
    have name {n : String} (new : n ∈ (ChildDiff.between s.known snapshot).created) :
        '/' ∉ n.toList := names q true _ _ _ asked n (ChildDiff.mem_created.1 new).1
    refine Deaf.trans (of_exchanged (fun abandoned x hx => ?_) fun abandoned => ?_)
      (deliver hear delivery _ _ _)
    · rcases List.mem_cons.1 hx with rfl | hx
      · exact listing abandoned true
      · obtain ⟨n, new, rfl⟩ := List.mem_map.1 hx
        refine ⟨fun _ => Request.noConfusion, fun r hr same => ?_⟩
        obtain ⟨rfl, watches⟩ := Request.readData.inj same
        exact abandoned.strangers q s registered watches n (name new) hr
    · exact abandoned.absorb registered delivery _ _ fun ⟨n, d⟩ found =>
        name (NewChildren.mem_found.1 found).1

theorem childChange (q : Path) (delivery : Delivery) (w : World (Dialogue σ)) :
    Deaf p gone w (World.childChange (client.host.facing audience) q delivery w).2 := by
  cases registered : w.coordinator.children.get? q with
  | none => rw [childChange_unregistered registered]; exact refl w
  | some s =>
    rw [childChange_registered registered]
    exact childPass hear names registered delivery

theorem relistenIn (order : Enumeration) (w : World (Dialogue σ)) :
    Deaf p gone w (World.relistenIn order (client.host.facing audience) w).2 := by
  have attempted (e : Errand) (w : World (Dialogue σ)) :
      Deaf p gone w (e.attempt (client.host.facing audience) w).2 := by
    cases e with
    | data q => exact dataChange client audience q w
    | children q => exact childChange hear names q .dispatched w
    | node n =>
      have spares : (Request.create n.path n.data .ephemeral).Spares p gone :=
        ⟨fun _ => Request.noConfusion, fun _ _ => Request.noConfusion⟩
      unfold Errand.attempt recreate
      dsimp only
      split
      · next made => exact asked spares made
      · next made => split <;> exact asked spares made
  have all := attemptAll_closed refl trans w.coordinator.failFast Errand.path attempted
    (w.coordinator.errands order) w
  rw [relistenIn_errands]
  unfold Errand.attemptAll
  split
  · next h => rw [h] at all; exact all
  · next h => rw [h] at all; exact all

end telling

/-! ### Subscribing and unsubscribing elsewhere -/

theorem ensureAlive {w w₁ : World (Dialogue σ)} {answer : Except Stop Unit}
    (checked : World.ensureAlive (client.host.facing audience) w = (answer, w₁)) :
    Deaf p gone w w₁ := by
  have looked : Deaf p gone w ((client.host.facing audience).isAlive w).2 :=
    of_exchanged (f := id) (fun _ x hx => absurd hx (List.not_mem_nil)) id
  unfold World.ensureAlive at checked
  split at checked
  · next alive => rw [alive] at looked; cases checked; exact looked
  · next alive => rw [alive] at looked; cases checked; exact looked

theorem existence_spares (q : Path) : (Request.existence q).Spares p gone :=
  ⟨fun _ => Request.noConfusion, fun _ _ => Request.noConfusion⟩

theorem cancelDataWatch_spares (q : Path) : (Request.cancelDataWatch q).Spares p gone :=
  ⟨fun _ => Request.noConfusion, fun _ _ => Request.noConfusion⟩

/-- A subscription at `q` brings nothing back, if it is not for a node in `gone`, nor for children
that may be nodes in `gone`. -/
def Harmless (p : Path) (gone : Path → Prop) (q : Path) : Flavour → Prop
  | .data => ¬gone q
  | .children _ => q ≠ p ∧ ∀ n, '/' ∉ n.toList → ¬gone (q.child n)

/-- Some subscriptions are taken away. -/
theorem of_fewer {f : Coordinator → Coordinator}
    (children : ∀ q s, (f w.coordinator).children.get? q = some s →
      w.coordinator.children.get? q = some s)
    (data : ∀ q e, (f w.coordinator).data.get? q = some e → w.coordinator.data.get? q = some e) :
    Deaf p gone w (w.update f) :=
  of_update fun abandoned => abandoned.of_subset (fun q s hs => ⟨s, children q s hs, rfl⟩)
    fun q e he => .inl (data q e he)

theorem removeData (q : Path) (w : World (Dialogue σ)) :
    Deaf p gone w (w.update (·.removeData q)) :=
  of_fewer (fun _ _ hs => hs) fun _ _ he => Table.get?_of_erase he

theorem removeChildrenIf (q : Path) (id : Nat) (w : World (Dialogue σ)) :
    Deaf p gone w (w.update (·.removeChildrenIf q id)) := by
  unfold Coordinator.removeChildrenIf
  refine of_fewer (fun r s hs => ?_) fun r e he => ?_
  · split at hs
    · exact Table.get?_of_erase hs
    · exact hs
  · split at he
    · exact he
    · exact he

theorem removeDataIf (q : Path) (id : Nat) (w : World (Dialogue σ)) :
    Deaf p gone w (w.update (·.removeDataIf q id)) := by
  unfold Coordinator.removeDataIf
  refine of_fewer (fun r s hs => ?_) fun r e he => ?_
  · split at hs
    · exact hs
    · exact hs
  · split at he
    · exact Table.get?_of_erase he
    · exact he

section registering

variable (hear : ∀ l event w, Deaf p gone w (audience.hear l event w).2)
  (names : client.ListsNames)
include hear names

theorem register {q : Path} {flavour : Flavour} (harmless : Harmless p gone q flavour)
    (l : Listener) (w : World (Dialogue σ)) :
    Deaf p gone w (World.register (client.host.facing audience) q l flavour w).2 := by
  unfold World.register
  cases flavour with
  | children withData =>
    have added : Deaf p gone w (w.update (·.addChildren q l withData)) := by
      refine of_update fun abandoned => ⟨?_, abandoned.data, fun r s hs watches n hn => ?_⟩
      · exact (Table.get?_insert _ _ _ _).trans
          ((if_neg harmless.1.symm).trans abandoned.children)
      · rcases Table.get?_of_insert hs with ⟨rfl, -⟩ | before
        · exact harmless.2 n hn
        · exact abandoned.strangers r s before watches n hn
    have first := added.trans (childChange hear names q .inline _)
    dsimp only
    split
    · next h => rw [h] at first; exact first.trans (removeChildrenIf q _ _)
    · exact first
  | data =>
    have added : Deaf p gone w (w.update (·.addData q l none)) := by
      refine of_update fun abandoned => abandoned.of_subset (fun _ s hs => ⟨s, hs, rfl⟩)
        fun r e he => ?_
      rcases Table.get?_of_insert he with ⟨rfl, -⟩ | before
      · exact .inr harmless
      · exact .inl before
    have first := added.trans (dataChange client audience q _)
    dsimp only
    split
    · next h => rw [h] at first; exact first.trans (removeDataIf q _ _)
    · exact first

theorem listen {q : Path} {flavour : Flavour}
    (harmless : client.MayFind q → Harmless p gone q flavour) (l : Listener)
    (w : World (Dialogue σ)) :
    Deaf p gone w (World.listen (client.host.facing audience) q l flavour w).2 := by
  unfold World.listen
  split
  · next alive => exact ensureAlive alive
  · next alive =>
    refine (ensureAlive alive).trans ?_
    split
    · next checked => exact asked (existence_spares q) checked
    · next checked => exact asked (existence_spares q) checked
    · next checked =>
      have found : client.MayFind q := ⟨_, Client.of_ask_ok checked⟩
      exact (asked (existence_spares q) checked).trans (register hear names (harmless found) l _)

end registering

theorem cancelled_spares {q : Path} (other : q ≠ p) {calls : List Exchange} {listed : List String}
    {result : Except Stop Unit} (cancelled : Cancelled q calls listed result) :
    ∀ x ∈ calls, x.request.Spares p gone := by
  have listing : (Request.listChildren q false).Spares p gone :=
    ⟨fun _ same => other (Request.listChildren.inj same).1, fun _ _ => Request.noConfusion⟩
  cases cancelled with
  | unsure e => simpa using existence_spares q
  | missing => simpa using existence_spares q
  | unlisted e => simpa using ⟨existence_spares q, listing⟩
  | listed attempts =>
    refine List.forall_mem_cons.2 ⟨existence_spares q, List.forall_mem_cons.2 ⟨listing, ?_⟩⟩
    intro x hx
    obtain ⟨attempt, -, rfl⟩ := List.mem_map.1 hx
    exact cancelDataWatch_spares _

theorem unlisten {q : Path} {flavour : Flavour}
    (other : ∀ withData, flavour = .children withData → q ≠ p) (w : World (Dialogue σ)) :
    Deaf p gone w (World.unlisten (client.host.facing audience) q flavour w).2 := by
  cases flavour with
  | children withData =>
    obtain ⟨result, w', calls, taken, unlistened, unsubscribed⟩ :=
      unlisten_unsubscribed client audience w q withData
    rw [unlistened]
    intro abandoned
    refine ⟨abandoned.of_subset (fun r s hs => ⟨s, ?_, rfl⟩) fun r e he => .inl ?_, calls,
      unsubscribed.log, ?_⟩
    · rw [unsubscribed.left.children] at hs
      exact Table.get?_of_erase hs
    · rw [unsubscribed.left.data] at he
      split at he
      · cases he
      · exact he
    · cases cancels : w.cancelsData q withData with
      | false =>
        obtain ⟨rfl, -⟩ := unsubscribed.plainly cancels
        exact List.forall_mem_nil _
      | true =>
        obtain ⟨listed, -, cancelled⟩ := unsubscribed.cancelled cancels
        exact cancelled_spares (other withData rfl) cancelled
  | data =>
    have removed : Deaf p gone w (w.update (·.removeData q)) := removeData q w
    simp only [World.unlisten, unlistenData]
    split
    · next checked => exact removed.trans (asked (existence_spares q) checked)
    · next checked => exact removed.trans (asked (existence_spares q) checked)
    · next checked =>
      refine (removed.trans (asked (existence_spares q) checked)).trans ?_
      split
      · next cancelled => exact asked (cancelDataWatch_spares q) cancelled
      · next cancelled => exact asked (cancelDataWatch_spares q) cancelled

end Deaf

end World

end DurableWatch
