import DurableWatch.Proofs.RecoveryTrials

/-!
# A recovery with and without its first failure

Whichever attempts of a recovery fail, the others are made, and in the end the paths of the failed
ones are listed. If the first failure is to end the recovery, then up to there it is the same
recovery: it asks the same, and tells the same.
-/
namespace DurableWatch

open World

variable {σ : Type}

/-! ### All attempts, one after the other -/

namespace Trial

/-- The first failure ends it. -/
def upToFailure : List Trial → List Trial
  | [] => []
  | t :: ts => if t.failed then [t] else t :: upToFailure ts

theorem upToFailure_prefix (ts : List Trial) : upToFailure ts <+: ts := by
  induction ts with
  | nil => exact List.prefix_refl _
  | cons t ts ih =>
    unfold upToFailure
    split
    · exact ⟨ts, rfl⟩
    · exact (List.prefix_cons_inj t).2 ih

/-- How attempts end of which the first failure is the last. -/
def verdict (trials : List Trial) : Except Stop Unit :=
  match trials.findSome? failure? with
  | none => .ok ()
  | some e => .error (.failed e)

theorem outcome_of_none {t : Trial} (none : t.failure? = none) :
    t.outcome = .ok () ∧ t.failed = false := by
  simp [outcome, failed, none]

theorem outcome_of_some {t : Trial} {e : Error} (some : t.failure? = some e) :
    t.outcome = .error (.failed e) ∧ t.failed = true := by
  simp [outcome, failed, some]

end Trial

/-- Between the two worlds these attempts have been made. -/
structure World.Undergone (w w' : World (Dialogue σ)) (trials : List Trial) : Prop where
  log : w'.outside.log = w.outside.log ++ trials.flatMap Trial.calls
  advanced : w.coordinator.Advanced w'.coordinator (trials.flatMap Trial.told)

theorem World.Undergone.nil (w : World (Dialogue σ)) (b : Bool) :
    w.Undergone (w.withFailFast b) [] where
  log := (List.append_nil _).symm
  advanced := ⟨(List.append_nil _).symm, rfl, rfl, fun _ => rfl, fun _ => .inl rfl⟩

theorem World.Undergone.cons {w w' : World (Dialogue σ)} {t : Trial} {trials : List Trial}
    {c : Coordinator} {state : σ} (first : w.coordinator.Advanced c t.told)
    (rest : Undergone ⟨c, ⟨state, w.outside.log ++ t.calls⟩⟩ w' trials) :
    w.Undergone w' (t :: trials) where
  log := by rw [rest.log, List.flatMap_cons, List.append_assoc]
  advanced := by
    rw [List.flatMap_cons]
    exact first.trans rest.advanced

/-- With and without the flag the attempts are the same, but that with it the first failure is the
last of them. -/
theorem attemptAll_trials (client : Client σ) (audience : Audience (Dialogue σ))
    {es : List Errand} (spaced : es.Pairwise Errand.Spares) (w : World (Dialogue σ))
    (present : ∀ e ∈ es, e.Present w.coordinator) :
    ∃ trials : List Trial, trials.map (·.errand) = es ∧ (∀ t ∈ trials, t.Proper) ∧ ∀ b,
      (∃ w', Errand.attemptAll (client.host.facing audience) false es (w.withFailFast b) =
          (.ok ((trials.filter (·.failed)).map (·.errand.path)), w') ∧ w.Undergone w' trials) ∧
      ∃ w', Errand.attemptAll (client.host.facing audience) true es (w.withFailFast b) =
          ((Trial.verdict trials).map fun _ => [], w') ∧
        w.Undergone w' (Trial.upToFailure trials) := by
  induction es generalizing w with
  | nil =>
    exact ⟨[], rfl, List.forall_mem_nil _, fun b =>
      ⟨⟨w.withFailFast b, rfl, .nil w b⟩, w.withFailFast b, rfl, .nil w b⟩⟩
  | cons e es ih =>
    obtain ⟨here, later⟩ := List.forall_mem_cons.1 present
    obtain ⟨spares, spaced⟩ := List.pairwise_cons.1 spaced
    obtain ⟨t, c, state, tried⟩ := Errand.tried client audience w e here
    have still (e' : Errand) (he' : e' ∈ es) : e'.Present c :=
      tried.present (spares e' he') (later e' he')
    obtain ⟨trials, areFor, proper, rest⟩ :=
      ih spaced ⟨c, ⟨state, w.outside.log ++ t.calls⟩⟩ still
    obtain ⟨isFor, properly, advanced, ran⟩ := tried
    refine ⟨t :: trials, by rw [List.map_cons, isFor, areFor],
      List.forall_mem_cons.2 ⟨properly, proper⟩, fun b => ?_⟩
    obtain ⟨⟨w₁, isolating, undergone₁⟩, w₂, hurrying, undergone₂⟩ := rest b
    have first : e.attempt (client.host.facing audience) (w.withFailFast b) =
        (t.outcome, withFailFast ⟨c, ⟨state, w.outside.log ++ t.calls⟩⟩ b) := ran b
    unfold Errand.attemptAll at isolating hurrying ⊢
    simp only [attemptAll, first]
    cases failure : t.failure? with
    | none =>
      obtain ⟨fine, counted⟩ := Trial.outcome_of_none failure
      rw [fine]
      dsimp only
      refine ⟨⟨w₁, ?_, .cons advanced undergone₁⟩, w₂, ?_, ?_⟩
      · rw [isolating, List.filter_cons_of_neg (by simp [counted])]
      · rw [hurrying, Trial.verdict, Trial.verdict, List.findSome?_cons, failure]
      · rw [Trial.upToFailure, if_neg (by simp [counted])]
        exact .cons advanced undergone₂
    | some cause =>
      obtain ⟨refused, counted⟩ := Trial.outcome_of_some failure
      rw [refused]
      dsimp only
      refine ⟨⟨w₁, ?_, .cons advanced undergone₁⟩,
        withFailFast ⟨c, ⟨state, w.outside.log ++ t.calls⟩⟩ b, ?_, ?_⟩
      · rw [if_neg Bool.false_ne_true, isolating, List.filter_cons_of_pos counted, List.map_cons,
          isFor]
      · rw [if_pos trivial, Trial.verdict, List.findSome?_cons, failure]
        rfl
      · rw [Trial.upToFailure, if_pos counted]
        exact .cons advanced (.nil _ b)

/-! ### The recovery -/

section recovery

variable {α β : Type} {failFast : Bool} {path : α → Path}
  {attempt : α → World σ → Except Stop Unit × World σ}

theorem World.attemptAll_map (f : β → α) (l : List β) (w : World σ) :
    attemptAll failFast path attempt (l.map f) w =
      attemptAll failFast (path ∘ f) (attempt ∘ f) l w := by
  induction l generalizing w with
  | nil => rfl
  | cons b l ih => simp only [List.map_cons, attemptAll, Function.comp_apply, ih]

theorem World.attemptAll_append (l l' : List α) (w : World σ) :
    attemptAll failFast path attempt (l ++ l') w =
      match attemptAll failFast path attempt l w with
      | (.error stop, w) => (.error stop, w)
      | (.ok failed, w) =>
        match attemptAll failFast path attempt l' w with
        | (.error stop, w) => (.error stop, w)
        | (.ok failed', w) => (.ok (failed ++ failed'), w) := by
  induction l generalizing w with
  | nil =>
    rw [List.nil_append, attemptAll]
    dsimp only
    split
    · next h => exact h
    · next h => exact h
  | cons a l ih =>
    rw [List.cons_append, attemptAll, attemptAll]
    rcases attempt a w with ⟨(e | reason) | ⟨⟩, w₁⟩
    · dsimp only
      cases failFast with
      | true => rfl
      | false =>
        simp only [Bool.false_eq_true, if_false]
        rw [ih]
        rcases World.attemptAll false path attempt l w₁ with ⟨stop | failed, w₂⟩
        · rfl
        · dsimp only
          rcases World.attemptAll false path attempt l' w₂ with ⟨stop | failed', w₃⟩
          · rfl
          · rfl
    · rfl
    · exact ih w₁

end recovery

/-- The registries that a recovery goes through are the same, but for the data. -/
structure World.Enumerated (w w' : World σ) : Prop where
  children : w'.coordinator.children.keys = w.coordinator.children.keys
  stubborn : w'.coordinator.stubborn = w.coordinator.stubborn

theorem World.Enumerated.trans {w₁ w₂ w₃ : World σ} (h : Enumerated w₁ w₂)
    (h' : Enumerated w₂ w₃) : Enumerated w₁ w₃ :=
  ⟨h'.children.trans h.children, h'.stubborn.trans h.stubborn⟩

variable (client : Client σ) (audience : Audience (Dialogue σ))

theorem Errand.enumerated (e : Errand) (w : World (Dialogue σ)) :
    w.Enumerated (e.attempt (client.host.facing audience) w).2 := by
  have registered (present : e.Present w.coordinator) :
      w.Enumerated (e.attempt (client.host.facing audience) w).2 := by
    obtain ⟨t, c, state, -, -, advanced, ran⟩ := Errand.tried client audience w e present
    have made : e.attempt (client.host.facing audience) w = _ := ran w.coordinator.failFast
    rw [made]
    exact ⟨Table.keys_congr advanced.contains, advanced.stubborn⟩
  cases e with
  | data p =>
    by_cases present : w.coordinator.data.contains p = true
    · exact registered present
    · rw [attempt, dataChange_unregistered (Table.contains_eq_false.1 (by simpa using present))]
      exact ⟨rfl, rfl⟩
  | children p =>
    by_cases present : w.coordinator.children.contains p = true
    · exact registered present
    · rw [attempt, childChange_unregistered (Table.contains_eq_false.1 (by simpa using present))]
      exact ⟨rfl, rfl⟩
  | node n => exact registered trivial

theorem Errand.attemptAll_enumerated (failFast : Bool) (es : List Errand) (w : World (Dialogue σ)) :
    w.Enumerated (attemptAll (client.host.facing audience) failFast es w).2 :=
  attemptAll_closed (fun _ => ⟨rfl, rfl⟩) .trans failFast path (enumerated client audience) es w

/-- No phase changes what a later one goes through, so all attempts are known beforehand. -/
theorem relistenIn_errands (order : Enumeration) (w : World (Dialogue σ)) :
    relistenIn order (client.host.facing audience) w =
      match Errand.attemptAll (client.host.facing audience) w.coordinator.failFast
        (w.coordinator.errands order) w with
      | (.error stop, w) => (.error stop, w)
      | (.ok failed, w) => (recoveryResult failed, w) := by
  generalize flag : w.coordinator.failFast = failFast
  have data (ps : List Path) (w : World (Dialogue σ)) :
      attemptAll failFast Errand.path (Errand.attempt (client.host.facing audience))
          (ps.map .data) w =
        attemptAll failFast id (dataChange (client.host.facing audience)) ps w :=
    attemptAll_map _ _ _
  have children (ps : List Path) (w : World (Dialogue σ)) :
      attemptAll failFast Errand.path (Errand.attempt (client.host.facing audience))
          (ps.map .children) w =
        attemptAll failFast id (fun p => childChange (client.host.facing audience) p .dispatched)
          ps w := attemptAll_map _ _ _
  have nodes (ns : List StubbornNode) (w : World (Dialogue σ)) :
      attemptAll failFast Errand.path (Errand.attempt (client.host.facing audience))
          (ns.map .node) w =
        attemptAll failFast StubbornNode.path (recreate (client.host.facing audience)) ns w :=
    attemptAll_map _ _ _
  have enumerated := Errand.attemptAll_enumerated client audience failFast
  unfold Errand.attemptAll at enumerated
  unfold relistenIn Errand.attemptAll Coordinator.errands
  rw [flag, attemptAll_append, data]
  dsimp only
  have first := enumerated ((order.data w.coordinator.data.keys).map .data) w
  rw [data] at first
  rcases phase₁ : attemptAll failFast id (dataChange (client.host.facing audience))
    (order.data w.coordinator.data.keys) w with ⟨stop | failed₁, w₁⟩
  · rfl
  rw [phase₁] at first
  dsimp only at first ⊢
  rw [attemptAll_append, children, first.children]
  have second := enumerated ((order.children w.coordinator.children.keys).map .children) w₁
  rw [children] at second
  rcases phase₂ : attemptAll failFast id
      (fun p => childChange (client.host.facing audience) p .dispatched)
      (order.children w.coordinator.children.keys) w₁ with ⟨stop | failed₂, w₂⟩
  · rfl
  rw [phase₂] at second
  have marked : w₂.coordinator.stubbornNodes = w.coordinator.stubbornNodes := by
    rw [Coordinator.stubbornNodes, (first.trans second).stubborn, Coordinator.stubbornNodes]
  dsimp only
  rw [nodes, marked]
  rcases phase₃ : attemptAll failFast StubbornNode.path (recreate (client.host.facing audience))
    (order.stubborn w.coordinator.stubbornNodes) w₂ with ⟨stop | failed₃, w₃⟩
  · rfl
  · dsimp only
    rw [List.append_assoc]
    unfold recoveryResult
    split <;> rfl

namespace Coordinator

variable (c : Coordinator) (order : Enumeration)

theorem errands_present : ∀ e ∈ c.errands order, e.Present c := by
  intro e listed
  rcases List.mem_append.1 listed with hdata | rest
  · obtain ⟨p, hp, rfl⟩ := List.mem_map.1 hdata
    exact Table.mem_keys.1 ((order.data_perm _).mem_iff.1 hp)
  · rcases List.mem_append.1 rest with hchildren | hnode
    · obtain ⟨p, hp, rfl⟩ := List.mem_map.1 hchildren
      exact Table.mem_keys.1 ((order.children_perm _).mem_iff.1 hp)
    · obtain ⟨n, -, rfl⟩ := List.mem_map.1 hnode
      trivial

/-- Each data subscription has one attempt, and these come first. -/
theorem errands_spaced : (c.errands order).Pairwise Errand.Spares := by
  have others {l : List Errand} (noData : ∀ e ∈ l, ∀ q, e ≠ .data q) : l.Pairwise Errand.Spares :=
    List.pairwise_of_forall_mem_list fun _ _ e' he' q same => absurd same (noData e' he' q)
  have later : ∀ e ∈ (order.children c.children.keys).map Errand.children ++
      (order.stubborn c.stubbornNodes).map .node, ∀ q, e ≠ .data q := by
    intro e listed q
    rcases List.mem_append.1 listed with h | h
    · obtain ⟨p, -, rfl⟩ := List.mem_map.1 h
      exact Errand.noConfusion
    · obtain ⟨n, -, rfl⟩ := List.mem_map.1 h
      exact Errand.noConfusion
  refine List.pairwise_append.2 ⟨?_, others later, fun _ _ e' he' q same =>
    absurd same (later e' he' q)⟩
  have distinct : (order.data c.data.keys).Nodup :=
    (order.data_perm c.data.keys).nodup_iff.2 c.data.keys_nodup
  refine List.pairwise_map.2 (distinct.imp fun other q same => ⟨_, rfl, ?_⟩)
  rwa [← Errand.data.inj same]

end Coordinator

/-- A recovery makes one attempt for everything that was registered when it started, whichever of
them fail, and lists the paths of those that did. If the first failure is to end it, the same
attempts are made up to there, and the failure is the result. -/
theorem relisten_trials (client : Client σ) (audience : Audience (Dialogue σ)) (order : Enumeration)
    (w : World (Dialogue σ)) :
    let run (failFast : Bool) :=
      relistenIn order (client.host.facing audience) (w.withFailFast failFast)
    ∃ trials : List Trial, trials.map (·.errand) = w.coordinator.errands order ∧
      (∀ t ∈ trials, t.Proper) ∧
      ((run false).1 = recoveryResult ((trials.filter (·.failed)).map (·.errand.path)) ∧
        w.Undergone (run false).2 trials) ∧
      (run true).1 = Trial.verdict trials ∧ w.Undergone (run true).2 (Trial.upToFailure trials) ∧
      Trial.upToFailure trials <+: trials := by
  intro run
  obtain ⟨trials, areFor, proper, ran⟩ := attemptAll_trials client audience
    (w.coordinator.errands_spaced order) w (w.coordinator.errands_present order)
  obtain ⟨⟨w₁, isolating, undergone₁⟩, -⟩ := ran false
  obtain ⟨-, w₂, hurrying, undergone₂⟩ := ran true
  have isolated : run false =
      (recoveryResult ((trials.filter (·.failed)).map (·.errand.path)), w₁) := by
    refine (relistenIn_errands client audience order (w.withFailFast false)).trans ?_
    have made : Errand.attemptAll (client.host.facing audience)
        (w.withFailFast false).coordinator.failFast
        ((w.withFailFast false).coordinator.errands order) (w.withFailFast false) = _ := isolating
    rw [made]
  have hurried : run true = (Trial.verdict trials, w₂) := by
    refine (relistenIn_errands client audience order (w.withFailFast true)).trans ?_
    have made : Errand.attemptAll (client.host.facing audience)
        (w.withFailFast true).coordinator.failFast
        ((w.withFailFast true).coordinator.errands order) (w.withFailFast true) = _ := hurrying
    rw [made]
    rcases Trial.verdict trials with stop | ⟨⟩ <;> rfl
  rw [isolated, hurried]
  exact ⟨trials, areFor, proper, ⟨rfl, undergone₁⟩, rfl, undergone₂,
    Trial.upToFailure_prefix trials⟩

end DurableWatch
