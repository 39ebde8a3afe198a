import DurableWatch.Proofs.RecoveryPhases

/-!
# Runs over the service in memory are turns

Every step of a run is a sequence of turns, whatever its listeners do when they are called, as long
as they call back by such steps. A recovery is one turn of its own, because only as a whole does it
try every watch again.
-/
namespace DurableWatch

open World Coordinator Setting

variable {τ : Type} {audience : Audience (Backstage τ)} {rule : Rule} {a : Setting} {p : Path}

/-- The setting of `w'` comes from that of `w` by turns. -/
def World.Turns (rule : Rule) (w w' : World (Backstage τ)) : Prop :=
  w.outside.service.Sane →
    w'.outside.service.Sane ∧ Relation.ReflTransGen (Turn rule) w.setting w'.setting

namespace World.Turns

theorem refl (w : World (Backstage τ)) : Turns rule w w := fun sane => ⟨sane, .refl⟩

theorem trans {w₁ w₂ w₃ : World (Backstage τ)} (h : Turns rule w₁ w₂) (h' : Turns rule w₂ w₃) :
    Turns rule w₁ w₃ := by
  intro sane
  obtain ⟨sane₂, turns⟩ := h sane
  obtain ⟨sane₃, more⟩ := h' sane₂
  exact ⟨sane₃, turns.trans more⟩

theorem of_moves {w w' : World (Backstage τ)}
    (moves : w.outside.service.Sane → Relation.ReflTransGen (Move rule) w.setting w'.setting) :
    Turns rule w w' := by
  intro sane
  refine ⟨moves_sane (moves sane) sane, ?_⟩
  exact (moves sane).lift id fun _ _ move => .move move

end World.Turns

/-! ### Plain requests -/

theorem ask_plain_move (rule : Rule) (audience : Audience (Backstage τ)) {r : Request}
    (plain : r.isPlain = true) (w : World (Backstage τ)) (sane : w.outside.service.Sane) :
    Move rule w.setting ((memoryClient.facing audience).ask r w).2.setting :=
  .aside (.refl _) (MemoryService.edited_ask sane plain) (lastTry_plain plain)

/-! ### Subscribing -/

theorem childChange_turns (routine : Routine (memoryClient.facing audience) (Turns rule))
    (p : Path) (delivery : Delivery) (w : World (Backstage τ)) :
    Turns rule w (childChange (memoryClient.facing audience) p delivery w).2 := by
  intro sane
  unfold childChange
  cases registered : w.coordinator.children.get? p with
  | none => exact Turns.refl w sane
  | some s =>
    dsimp only
    rcases there_or_absent w p with ⟨alive, there⟩ | absent
    · obtain ⟨new, w₁, passed, -, hpass⟩ :=
        childPass_found audience delivery (.refl w.setting _) sane registered alive there
      rw [hpass]
      have pass : Turns rule w w₁ := .of_moves fun _ => .single (.pass passed)
      exact (pass.trans (routine.deliver delivery _ _ w₁)) sane
    · obtain ⟨e, w', missed, still, hpass⟩ :=
        childPass_missed audience delivery (.refl w.setting _) absent
      rw [hpass]
      exact Turns.of_moves (fun _ => .single (.unread missed still nofun)) sane

theorem turns_passing (routine : Routine (memoryClient.facing audience) (Turns rule)) :
    Routine.Passing (memoryClient.facing audience) (Turns rule) where
  routine := routine
  dataChange p w := by
    refine Turns.of_moves fun sane => ?_
    obtain ⟨result, w', h, upkeep, -⟩ :=
      dataChange_upkeep audience (.refl w.setting (.watch p .data)) rfl sane
    rw [h]
    exact upkeep_moves rule upkeep
  childChange := childChange_turns routine

/-- The first pass of a new child subscription sees all children, and does not fail. -/
theorem register_children_found (audience : Audience (Backstage τ)) {p : Path} (l : Listener)
    (withData : Bool) {w : World (Backstage τ)} (sane : w.outside.service.Sane)
    (alive : w.outside.service.alive = true) (there : w.outside.service.nodes.contains p = true) :
    ∃ new, ∃ w' : World (Backstage τ),
      Passed w.setting w'.setting (w.coordinator.addChildren p l withData) p
          (w.coordinator.freshChildren l withData) .inline new ∧
        w'.outside.rest = w.outside.rest ∧
        register (memoryClient.facing audience) p l (.children withData) w =
          World.deliver (memoryClient.facing audience) .inline
            ((w.coordinator.freshChildren l withData).createdReports p .inline new.found)
            [] w' := by
  have registered : (w.update (·.addChildren p l withData)).coordinator.children.get? p =
      some (w.coordinator.freshChildren l withData) := by
    simp [addChildren]
  have taken : Taken w.setting (.watch p .children)
      (w.update (·.addChildren p l withData)).setting := ⟨rfl, .inl rfl⟩
  obtain ⟨new, w₁, passed, rest, hpass⟩ :=
    childPass_found audience .inline taken sane registered alive there
  refine ⟨new, w₁, passed, rest, ?_⟩
  have still := deliver_not_failed (memoryClient.facing audience) .inline
    ((w.coordinator.freshChildren l withData).createdReports p .inline new.found) [] w₁
  unfold register
  dsimp only
  rw [childChange, registered]
  dsimp only
  rw [hpass]
  split
  · next h => exact absurd (congrArg Prod.fst h) (still _)
  · rfl

theorem register_children_passed (audience : Audience (Backstage τ)) {p : Path} (l : Listener)
    (withData : Bool) {w : World (Backstage τ)} (sane : w.outside.service.Sane)
    (alive : w.outside.service.alive = true) (there : w.outside.service.nodes.contains p = true) :
    ∃ new created deleted, ∃ w' : World (Backstage τ),
      Passed w.setting w'.setting (w.coordinator.addChildren p l withData) p
          (w.coordinator.freshChildren l withData) .inline new ∧
        register (memoryClient.facing audience) p l (.children withData) w =
          World.deliver (memoryClient.facing audience) .inline created deleted w' := by
  obtain ⟨new, w', passed, -, h⟩ := register_children_found audience l withData sane alive there
  exact ⟨new, _, [], w', passed, h⟩

theorem register_turns (routine : Routine (memoryClient.facing audience) (Turns rule)) {p : Path}
    {l : Listener} {flavour : Flavour} {w : World (Backstage τ)}
    (allowed : rule w.coordinator w.outside.service (.listen p l flavour))
    (alive : w.outside.service.alive = true) (there : w.outside.service.nodes.contains p = true) :
    Turns rule w (register (memoryClient.facing audience) p l flavour w).2 := by
  intro sane
  cases flavour with
  | children withData =>
    obtain ⟨new, created, deleted, w₁, passed, h⟩ :=
      register_children_passed audience l withData sane alive there
    have subscribed : Turns rule w w₁ := .of_moves fun _ => .single (.subscribe allowed passed)
    rw [h]
    exact (subscribed.trans (routine.deliver .inline created deleted w₁)) sane
  | data =>
    obtain ⟨node, found⟩ := Table.contains_eq_true.1 there
    have registered : (w.update (·.addData p l none)).coordinator.data.get? p =
        some (w.coordinator.freshData l none) := by
      simp [addData]
    have answer := ask_readData_found audience (w.update (·.addData p l none)) true alive found
    unfold register
    dsimp only
    rw [dataChange, registered]
    dsimp only
    rw [answer]
    have taken : Taken w.setting (.watch p .data) (w.update (·.addData p l none)).setting :=
      ⟨rfl, .inl rfl⟩
    refine Turns.of_moves (fun sane => ?_) sane
    have looked := looked_of_taken taken there
      (c := (((w.update (·.addData p l none)).noting (w.outside.service.arm p .data)
        (.readData p true) true).update (·.record
          [(w.coordinator.freshData l none).report ⟨p, .dataChanged node.data⟩])).setting) rfl rfl
    have read : (w.outside.service.nodes.get? p).map Node.data = some node.data := by
      rw [found]
      rfl
    refine (Relation.ReflTransGen.single
      (.subscribeData node.data allowed looked rfl read)).tail ?_
    exact Upkeep.move rule (submitted_upkeep (looked.sane sane) [_] rfl rfl rfl)

/-- In a session that is alive, to subscribe to a node that is there is to register. -/
theorem listen_of_there (audience : Audience (Backstage τ)) {p : Path} (l : Listener)
    (flavour : Flavour) {w : World (Backstage τ)} (alive : w.outside.service.alive = true)
    (there : w.outside.service.nodes.contains p = true) :
    listen (memoryClient.facing audience) p l flavour w =
      register (memoryClient.facing audience) p l flavour
        (w.noting w.outside.service (.existence p) true) := by
  have checked : World.ensureAlive (memoryClient.facing audience) w = (.ok (), w) := by
    unfold World.ensureAlive
    simp [Host.facing, memoryClient, alive]
  unfold World.listen
  rw [checked]
  dsimp only
  rw [ask_existence audience w p alive, there]

theorem listen_turns (routine : Routine (memoryClient.facing audience) (Turns rule)) (p : Path)
    (l : Listener) (flavour : Flavour) (w : World (Backstage τ))
    (allowed : rule w.coordinator w.outside.service (.listen p l flavour)) :
    Turns rule w (listen (memoryClient.facing audience) p l flavour w).2 := by
  have asked : Turns rule w ((memoryClient.facing audience).ask (.existence p) w).2 :=
    .of_moves fun sane => .single (ask_plain_move rule audience rfl w sane)
  rcases there_or_absent w p with ⟨alive, there⟩ | absent
  · rw [ask_existence audience w p alive] at asked
    rw [listen_of_there audience l flavour alive there]
    exact asked.trans (register_turns routine allowed alive there)
  · unfold World.listen
    split
    · next checked => exact routine.ensureAlive checked
    · next w₁ checked =>
      have alive : w.outside.service.alive = true ∧ w₁ = w := by
        unfold World.ensureAlive at checked
        split at checked
        · next h =>
          cases checked
          exact ⟨congrArg Prod.fst h, (congrArg Prod.snd h).symm⟩
        · cases checked
      obtain ⟨alive, rfl⟩ := alive
      rw [ask_existence audience w₁ p alive] at asked ⊢
      rw [absent alive] at asked ⊢
      exact asked

/-! ### Unsubscribing -/

/-- A watch that no subscription waits for is cancelled. -/
theorem cancel_moves (rule : Rule) (audience : Audience (Backstage τ)) {q : Path}
    {w : World (Backstage τ)} (unsubscribed : w.coordinator.data.get? q = none)
    (sane : w.outside.service.Sane) :
    ∃ result, ∃ w' : World (Backstage τ),
      (memoryClient.facing audience).ask (.cancelDataWatch q) w = (result, w') ∧
      Relation.ReflTransGen (Move rule) w.setting w'.setting ∧
      w'.coordinator = w.coordinator := by
  have tries (answered : Bool) (r : Path) (k : WatchKind) :
      lastTry r k (⟨.cancelDataWatch q, answered⟩ :: w.outside.calls) =
        lastTry r k w.outside.calls := by
    refine lastTry_other (by simp) ?_
    cases k <;> simp [WatchKind.read]
  cases living : w.outside.service.alive with
  | true =>
    rw [ask_alive audience w living (by simp)]
    exact ⟨_, _, rfl, .single (.cancel unsubscribed rfl rfl (tries true)), rfl⟩
  | false =>
    obtain ⟨e, -, refused⟩ := ask_dead audience w (r := .cancelDataWatch q) living (by simp)
    rw [refused]
    exact ⟨_, _, rfl, .single (.aside (.refl _) (.refl sane) (tries false)), rfl⟩

theorem cancelEach_moves_memory {ns : List String} {w : World (Backstage τ)}
    (unsubscribed : w.coordinator.children.get? p = none)
    (names : ∀ n ∈ ns, p.IsChildName n) (sane : w.outside.service.Sane) :
    Relation.ReflTransGen (Move rule) w.setting
      (cancelEach (memoryClient.facing audience) p ns w).2.setting := by
  induction ns generalizing w with
  | nil => exact .refl
  | cons n ns ih =>
    obtain ⟨isChild, rest⟩ := List.forall_mem_cons.1 names
    have dropped : Move rule w.setting (w.update (·.removeData (p.child n))).setting :=
      .dropChild unsubscribed isChild
    obtain ⟨result, w₁, h, cancelled, same⟩ := cancel_moves rule audience
      (w := w.update (·.removeData (p.child n))) (q := p.child n) (by simp [removeData]) sane
    have first : Relation.ReflTransGen (Move rule) w.setting w₁.setting :=
      (Relation.ReflTransGen.single dropped).trans cancelled
    have later := first.trans (ih (w := w₁) (by rw [same]; exact unsubscribed) rest
      (moves_sane first sane))
    unfold cancelEach
    rw [h]
    rcases result with (e | reason) | ⟨⟩
    · dsimp only
      split
      · next heq =>
        rw [heq] at later
        exact later
      · next heq =>
        rw [heq] at later
        exact later
    · exact first
    · exact later

theorem cancelChildData_moves_memory {w : World (Backstage τ)}
    (unsubscribed : w.coordinator.children.get? p = none) (sane : w.outside.service.Sane) :
    Relation.ReflTransGen (Move rule) w.setting
      (cancelChildData (memoryClient.facing audience) p w).2.setting := by
  have asked := ask_plain_move rule audience (r := .existence p) rfl w sane
  cases living : w.outside.service.alive with
  | false =>
    obtain ⟨e, -, refused⟩ := ask_dead audience w (r := .existence p) living (by simp)
    rw [refused] at asked
    rw [cancelChildData, refused]
    exact .single asked
  | true =>
    have answer := ask_existence audience w p living
    rw [answer] at asked
    rw [cancelChildData, answer]
    cases there : w.outside.service.nodes.contains p with
    | false =>
      rw [there] at asked
      exact .single asked
    | true =>
      have list := ask_listChildren_found audience (w.noting w.outside.service (.existence p) true)
        false living there
      dsimp only
      rw [list]
      have listed := ask_plain_move rule audience (r := .listChildren p false) rfl
        (w.noting w.outside.service (.existence p) true) sane
      rw [list] at listed
      refine ((Relation.ReflTransGen.single asked).tail listed).trans ?_
      exact cancelEach_moves_memory unsubscribed
        (fun n hn => (sane.mem_childNames_iff.1 hn).2) sane

theorem unlisten_moves_memory (p : Path) (flavour : Flavour) (w : World (Backstage τ))
    (allowed : rule w.coordinator w.outside.service (.unlisten p flavour))
    (sane : w.outside.service.Sane) : Relation.ReflTransGen (Move rule) w.setting
      (unlisten (memoryClient.facing audience) p flavour w).2.setting := by
  unfold unlisten
  cases flavour with
  | data =>
    have removed : Move rule w.setting (w.update (·.removeData p)).setting :=
      .unsubscribeData allowed
    have asked := ask_plain_move rule audience (r := .existence p) rfl
      (w.update (·.removeData p)) sane
    have both := (Relation.ReflTransGen.single removed).tail asked
    simp only [unlistenData]
    split
    · next h => rw [h] at both; exact both
    · next h => rw [h] at both; exact both
    · next w₁ h =>
      have same : w₁.coordinator = w.coordinator.removeData p :=
        (memoryClient_orderly.facing audience).coordinator_of_ask h
      rw [h] at both
      obtain ⟨result, w₂, hcancel, cancelled, -⟩ := cancel_moves rule audience (q := p)
        (w := w₁) (by rw [same]; simp [removeData]) (moves_sane both sane)
      rw [hcancel]
      split
      · next heq => cases heq; exact both.trans cancelled
      · next heq => cases heq; exact both.trans cancelled
  | children withData =>
    simp only [unlistenChildren]
    split
    · next childData =>
      have removed : Move rule w.setting _ := .unsubscribe (p := p)
        ((((w.coordinator.children.get? p).map fun s => s.known.keys).getD []).map p.child)
        (fun s hs _ n hn => by
          rw [show w.coordinator.children.get? p = some s from hs]
          exact List.mem_map_of_mem (Table.mem_keys.2 hn))
        (fun q hq => by
          obtain ⟨n, hn, rfl⟩ := List.mem_map.1 hq
          cases hs : w.coordinator.children.get? p with
          | none =>
            rw [hs] at hn
            simp at hn
          | some s =>
            rw [hs] at hn
            exact ⟨s, n, hs, Table.mem_keys.1 hn, rfl⟩)
      refine (Relation.ReflTransGen.single removed).trans ?_
      refine cancelChildData_moves_memory (w := w.update fun c =>
        (c.removeChildren p).removeDataAll _) ?_ sane
      simp [removeChildren]
    · next plain =>
      simp only [Bool.or_eq_true, not_or] at plain
      refine .single (.unsubscribe (a := w.setting) [] ?_ (by simp))
      intro s hs watches
      rw [show w.coordinator.children.get? p = some s from hs] at plain
      exact absurd watches plain.2

/-! ### Steps and runs -/

theorem reconnectIn_turns (order : Enumeration) (w : World (Backstage τ)) :
    Turns rule w (reconnectIn order (memoryClient.facing audience) w).2 := by
  intro sane
  obtain ⟨w₁, w₂, phases⟩ := reconnectIn_phases audience order sane
  have relisted : Relation.ReflTransGen (Move rule) w.setting.resumed _ :=
    upkeep_moves rule phases.upkeep
  exact ⟨moves_sane relisted (sane_reconnect sane), .single (.recovered relisted phases.attempted)⟩

theorem handleNext_turns (routine : Routine (memoryClient.facing audience) (Turns rule))
    (w : World (Backstage τ)) : Turns rule w (w.handleNext (memoryClient.facing audience)) := by
  unfold World.handleNext
  split
  · exact Turns.refl w
  · next note rest next =>
    have taken : Taken w.setting note
        (w.withService { w.outside.service with channel := rest }).setting :=
      ⟨rfl, .inr ⟨rest, next, rfl⟩⟩
    unfold onNotification
    rcases note with ⟨p, _ | _⟩ | state
    · refine Turns.of_moves fun sane => ?_
      obtain ⟨result, w', h, upkeep, -⟩ := dataChange_upkeep audience taken rfl sane
      rw [dropFailure_world, h]
      exact upkeep_moves rule upkeep
    · refine Turns.of_moves fun sane => ?_
      obtain ⟨result, w', h, upkeep, -⟩ := childChange_upkeep audience taken rfl sane
      rw [dropFailure_world, h]
      exact upkeep_moves rule upkeep
    · refine Turns.trans (Turns.of_moves fun _ => .single (.unclaimed taken rfl ?_))
        (routine.notifyState state _)
      intro q k h
      cases h

theorem MemoryStep.turns (routine : Routine (memoryClient.facing audience) (Turns rule))
    {w w' : World (Backstage τ)} (step : MemoryStep rule (memoryClient.facing audience) w w') :
    Turns rule w w' := by
  have beside (w : World (Backstage τ)) (c : Coordinator) (h : w.coordinator.Beside c) :
      Turns rule w { w with coordinator := c } :=
    Turns.of_moves fun sane => .single (.aside h (.refl sane) fun _ _ => rfl)
  have edited {service : MemoryService}
      (edit : w.outside.service.Sane → w.outside.service.Edited service) :
      Turns rule w (w.withService service) :=
    Turns.of_moves fun sane =>
      .single (.aside (.refl _) (edit sane) fun _ _ => rfl)
  cases step with
  | command command allowed =>
    refine (turns_passing routine).perform (.of_beside beside) w command ?_ ?_ ?_
    · intro order _
      exact reconnectIn_turns order w
    · rintro p l flavour rfl
      exact listen_turns routine p l flavour w allowed
    · rintro p flavour rfl
      exact Turns.of_moves (unlisten_moves_memory p flavour w allowed)
  | handleNext => exact handleNext_turns routine w
  | change change => exact edited fun sane => MemoryService.edited_change sane change
  | request r plain =>
    exact Turns.of_moves fun sane => .single (ask_plain_move rule audience plain w sane)
  | disconnect => exact edited MemoryService.edited_disconnect
  | expire => exact edited MemoryService.edited_expireSession
  | elsewhere rest => exact Turns.refl w

theorem memory_run_turns (routine : Routine (memoryClient.facing audience) (Turns rule))
    {w w' : World (Backstage τ)}
    (run : Relation.ReflTransGen (MemoryStep rule (memoryClient.facing audience)) w w') :
    Turns rule w w' := by
  induction run with
  | refl => exact Turns.refl w
  | tail _ step ih => exact ih.trans (step.turns routine)

theorem turns_routine (hear : ∀ l event w, Turns rule w (audience.hear l event w).2)
    (hearState : ∀ l state w, Turns rule w (audience.hearState l state w).2) :
    Routine (memoryClient.facing audience) (Turns rule) where
  refl := Turns.refl
  trans := Turns.trans
  isAlive := Turns.refl
  ask _ w plain := Turns.of_moves fun sane => .single (ask_plain_move rule audience plain w sane)
  aside _ _ beside _ := Turns.of_moves fun sane =>
    .single (.aside beside (.refl sane) fun _ _ => rfl)
  hear := hear
  hearState := hearState

/-- Listeners that call back by such steps do so by turns, however deep the calls lie. -/
theorem memory_tame_routine (tame : Tame memoryClient (MemoryStep rule) audience) :
    Routine (memoryClient.facing audience) (Turns rule) := by
  obtain ⟨hear, hearState⟩ := tame.within Turns.refl Turns.trans fun hear hearState _ _ step =>
    step.turns (turns_routine hear hearState)
  exact turns_routine hear hearState

end DurableWatch
