import DurableWatch.Proofs.RecoveryMirror

/-!
# The order of a recovery

In a session that is alive, and unless the first failure ends it, a recovery comes to the same
whatever the order in which it goes through its registries.
-/
namespace DurableWatch

open World Coordinator Setting

/-! ### Attempts one after the other -/

section attempts

variable {σ α β : Type} {G : World σ → Prop} {view : World σ → β} {step : β → α → β}
  {fails : β → α → Bool} {attempt : α → World σ → Except Stop Unit × World σ}

theorem attemptAll_mirrored (mirrored : Mirrored G view step fails attempt) (path : α → Path)
    (l : List α) {w : World σ} (good : G w) :
    ∃ w', attemptAll false path attempt l w = (.ok ((l.filter (fails (view w))).map path), w') ∧
      G w' ∧ view w' = l.foldl step (view w) := by
  induction l generalizing w with
  | nil => exact ⟨w, rfl, good, rfl⟩
  | cons a l ih =>
    obtain ⟨good₁, now, succeeds, stops⟩ := mirrored.mirrors a w good
    obtain ⟨w', rest, good', view'⟩ := ih good₁
    have later : l.filter (fails (view (attempt a w).2)) = l.filter (fails (view w)) := by
      rw [now]
      exact List.filter_congr fun b _ => mirrored.settled (view w) a b
    rw [later] at rest
    rw [now] at view'
    refine ⟨w', ?_, good', view'⟩
    unfold attemptAll
    cases failing : fails (view w) a with
    | false =>
      rw [show attempt a w = (.ok (), (attempt a w).2) from
        Prod.ext (succeeds failing) rfl]
      dsimp only
      rw [rest, List.filter_cons_of_neg (by simp [failing])]
    | true =>
      obtain ⟨e, answer⟩ := stops failing
      rw [show attempt a w = (.error (.failed e), (attempt a w).2) from Prod.ext answer rfl]
      dsimp only
      rw [rest, List.filter_cons_of_pos failing]
      rfl

/-- Attempts that commute may be made in any order. -/
theorem attemptAll_perm (mirrored : Mirrored G view step fails attempt) (path : α → Path)
    {l l' : List α} (perm : l'.Perm l)
    (commute : ∀ a ∈ l', ∀ b ∈ l', ∀ v, step (step v a) b = step (step v b) a) {w : World σ}
    (good : G w) :
    ∃ failed w', attemptAll false path attempt l' w = (.ok failed, w') ∧
      failed.Perm ((l.filter (fails (view w))).map path) ∧ G w' ∧
      view w' = l.foldl step (view w) := by
  obtain ⟨w', h, good', view'⟩ := attemptAll_mirrored mirrored path l' good
  refine ⟨_, w', h, (perm.filter _).map path, good', ?_⟩
  rw [view']
  exact perm.foldl_eq' commute (view w)

/-- What no step changes, all of them together do not change. -/
theorem foldl_kept {γ : Type} (part : β → γ) (kept : ∀ v a, part (step v a) = part v) (l : List α)
    (v : β) : part (l.foldl step v) = part v := by
  induction l generalizing v with
  | nil => rfl
  | cons a l ih => rw [List.foldl_cons, ih, kept]

end attempts

/-! ### The recovery as a whole -/

namespace Setting

/-- The view after a recovery in ascending order. -/
def recovered (base : Nat) (a : Setting) : View :=
  let v := a.coordinator.data.keys.foldl View.reread (a.view base)
  let v := a.coordinator.children.keys.foldl (View.pass base) v
  a.coordinator.stubbornNodes.foldl View.recreate v

/-- The child subscriptions whose node is missing, and the stubborn nodes that are barred. -/
def unrecoverable (a : Setting) : List Path :=
  (a.coordinator.children.keys.filter fun p => !a.service.nodes.contains p) ++
    (a.coordinator.stubbornNodes.filter fun n =>
      Ground.of a.service.nodes n.path = .barred).map StubbornNode.path

end Setting

/-- How a recovery ends that has failed at these paths. -/
def recoveryResult (failed : List Path) : Except Stop Unit :=
  if failed.isEmpty then .ok () else .error (.failed (.recoveryIncomplete failed))

theorem stubbornNodes_paths (c : Coordinator) :
    c.stubbornNodes.map StubbornNode.path = c.stubborn.keys := by
  simp [stubbornNodes, Table.keys, Function.comp_def]

/-- Stubborn nodes have different paths, so their attempts commute. -/
theorem recreate_commutes {c : Coordinator} {n m : StubbornNode} (hn : n ∈ c.stubbornNodes)
    (hm : m ∈ c.stubbornNodes) (v : View) :
    (v.recreate n).recreate m = (v.recreate m).recreate n := by
  by_cases same : n.path = m.path
  · have distinct : (c.stubbornNodes.map StubbornNode.path).Nodup := by
      rw [stubbornNodes_paths]
      exact c.stubborn.keys_nodup
    rw [List.inj_on_of_nodup_map distinct hn hm same]
  · exact v.recreate_comm same

theorem children_of_view {base : Nat} {a b : Setting}
    (same : (b.view base).posts = (a.view base).posts) :
    b.coordinator.children = a.coordinator.children :=
  Table.ext_get? fun p => congrArg Post.subscription (congrFun same p)

variable {τ : Type} {w : World (Backstage τ)} {base : Nat}

theorem recover_data (audience : Audience (Backstage τ)) (order : Enumeration)
    (steady : Steady base w) (last : w.coordinator.nextId = base) :
    ∃ w', attemptAll false id (dataChange (memoryClient.facing audience))
        (order.data w.coordinator.data.keys) w = (.ok [], w') ∧ Steady base w' ∧
      w'.setting.view base = w.coordinator.data.keys.foldl View.reread (w.setting.view base) := by
  obtain ⟨failed, w', h, perm, ⟨steady', -⟩, view'⟩ :=
    attemptAll_perm (dataChange_mirrored audience base) id (order.data_perm w.coordinator.data.keys)
      (fun p _ q _ v => v.reread_comm p q) ⟨steady, last⟩
  have none_failed : failed = [] := by simpa using perm
  rw [none_failed] at h
  exact ⟨w', h, steady', view'⟩

theorem recover_children (audience : Audience (Backstage τ)) (order : Enumeration)
    (steady : Steady base w) :
    ∃ failed w', attemptAll false id
        (fun p => childChange (memoryClient.facing audience) p .dispatched)
        (order.children w.coordinator.children.keys) w = (.ok failed, w') ∧
      failed.Perm
        (w.coordinator.children.keys.filter fun p => !w.outside.service.nodes.contains p) ∧
      Steady base w' ∧
      w'.setting.view base =
        w.coordinator.children.keys.foldl (View.pass base) (w.setting.view base) := by
  obtain ⟨failed, w', h, perm, steady', view'⟩ :=
    attemptAll_perm (childChange_mirrored audience base) id
      (order.children_perm w.coordinator.children.keys) (fun p _ q _ v => v.pass_comm base p q)
      steady
  have missing : w.coordinator.children.keys.filter (w.setting.view base).passFails =
      w.coordinator.children.keys.filter fun p => !w.outside.service.nodes.contains p := by
    refine List.filter_congr fun p hp => ?_
    have registered : ((w.setting.view base).posts p).subscription.isSome = true :=
      Table.mem_keys.1 hp
    rw [View.passFails, registered]
    rfl
  rw [missing, List.map_id] at perm
  exact ⟨failed, w', h, perm, steady', view'⟩

theorem recover_stubborn (audience : Audience (Backstage τ)) (order : Enumeration)
    (steady : Steady base w) :
    ∃ failed w', attemptAll false StubbornNode.path (recreate (memoryClient.facing audience))
        (order.stubborn w.coordinator.stubbornNodes) w = (.ok failed, w') ∧
      failed.Perm ((w.coordinator.stubbornNodes.filter fun n =>
        Ground.of w.outside.service.nodes n.path = .barred).map StubbornNode.path) ∧
      Steady base w' ∧
      w'.setting.view base =
        w.coordinator.stubbornNodes.foldl View.recreate (w.setting.view base) :=
  attemptAll_perm (recreate_mirrored audience base) StubbornNode.path
    (order.stubborn_perm w.coordinator.stubbornNodes)
    (fun _ hn _ hm => recreate_commutes ((order.stubborn_perm _).mem_iff.1 hn)
      ((order.stubborn_perm _).mem_iff.1 hm)) steady

/-- What a recovery fails at: child subscriptions first, then stubborn nodes. -/
theorem relistenIn_failures (audience : Audience (Backstage τ)) (order : Enumeration)
    (steady : Steady base w) (last : w.coordinator.nextId = base)
    (patient : w.coordinator.failFast = false) :
    ∃ subscriptions nodes w', relistenIn order (memoryClient.facing audience) w =
        (recoveryResult (subscriptions ++ nodes), w') ∧
      subscriptions.Perm
        (w.coordinator.children.keys.filter fun p => !w.outside.service.nodes.contains p) ∧
      nodes.Perm ((w.coordinator.stubbornNodes.filter fun n =>
        Ground.of w.outside.service.nodes n.path = .barred).map StubbornNode.path) ∧
      Steady base w' ∧ w'.setting.view base = w.setting.recovered base := by
  obtain ⟨w₁, h₁, steady₁, view₁⟩ := recover_data audience order steady last
  obtain ⟨failed₂, w₂, h₂, perm₂, steady₂, view₂⟩ := recover_children audience order steady₁
  obtain ⟨failed₃, w₃, h₃, perm₃, steady₃, view₃⟩ := recover_stubborn audience order steady₂
  -- What a phase goes through, and what decides its failures, no earlier phase changes.
  have posts₁ : (w₁.setting.view base).posts = (w.setting.view base).posts := by
    rw [view₁]
    exact foldl_kept View.posts View.posts_reread _ _
  have children₁ : w₁.coordinator.children = w.coordinator.children := children_of_view posts₁
  have nodes₁ : w₁.outside.service.nodes = w.outside.service.nodes := by
    change (w₁.setting.view base).nodes = _
    rw [view₁]
    exact foldl_kept View.nodes View.nodes_reread _ _
  have nodes₂ : w₂.outside.service.nodes = w.outside.service.nodes := by
    rw [← nodes₁]
    change (w₂.setting.view base).nodes = _
    rw [view₂]
    exact foldl_kept View.nodes (View.nodes_pass base) _ _
  have stubborn₂ : w₂.coordinator.stubborn = w.coordinator.stubborn := by
    change (w₂.setting.view base).stubborn = _
    rw [view₂, foldl_kept View.stubborn (View.stubborn_pass base), view₁]
    exact foldl_kept View.stubborn View.stubborn_reread _ _
  have marked : w₂.coordinator.stubbornNodes = w.coordinator.stubbornNodes := by
    rw [stubbornNodes, stubbornNodes, stubborn₂]
  rw [children₁, nodes₁] at perm₂
  rw [marked, nodes₂] at perm₃
  refine ⟨failed₂, failed₃, w₃, ?_, perm₂, perm₃, steady₃, ?_⟩
  · unfold relistenIn
    dsimp only
    rw [patient, h₁]
    dsimp only
    rw [h₂]
    dsimp only
    rw [h₃, List.nil_append]
    dsimp only
    unfold recoveryResult
    split <;> rfl
  · rw [view₃, marked, view₂, children₁, view₁]
    rfl

/-- Whatever the order of a recovery, its result and the view after it are the same. -/
theorem relistenIn_recovered (audience : Audience (Backstage τ)) (order : Enumeration)
    (steady : Steady base w) (last : w.coordinator.nextId = base)
    (patient : w.coordinator.failFast = false) :
    ∃ failed w', relistenIn order (memoryClient.facing audience) w =
        (recoveryResult failed, w') ∧ failed.Perm w.setting.unrecoverable ∧ Steady base w' ∧
      w'.setting.view base = w.setting.recovered base := by
  obtain ⟨subscriptions, nodes, w', h, perm, perm', rest⟩ :=
    relistenIn_failures audience order steady last patient
  exact ⟨subscriptions ++ nodes, w', h, perm.append perm', rest⟩

/-! ### Two recoveries -/

/-- The worlds differ at most in the order of the channel, in how the events of different paths are
interleaved, and in the numbers of data subscriptions from `base` on. -/
structure Alike (base : Nat) (w w' : World (Backstage τ)) : Prop where
  children : w'.coordinator.children = w.coordinator.children
  data : ∀ q, (w'.coordinator.data.get? q).map (·.levelled base) =
    (w.coordinator.data.get? q).map (·.levelled base)
  stubborn : w'.coordinator.stubborn = w.coordinator.stubborn
  told : ∀ q, w'.coordinator.reportsOn q = w.coordinator.reportsOn q
  service : w'.outside.service =
    { w.outside.service with channel := w'.outside.service.channel }
  channel : w'.outside.service.channel.Perm w.outside.service.channel

theorem Steady.expired (steady : Steady base w) :
    w.outside.service.expired = false := by
  rw [← Bool.not_eq_true]
  intro expired
  have dead := steady.kept.sane.ended expired
  rw [show w.setting.service.alive = true from steady.alive] at dead
  cases dead

theorem alike_of_view {w' : World (Backstage τ)} (steady : Steady base w)
    (steady' : Steady base w') (same : w'.setting.view base = w.setting.view base) :
    Alike base w w' where
  children := children_of_view (congrArg View.posts same)
  data q := congrArg (fun v : View => (v.cells q).subscription) same
  stubborn := congrArg View.stubborn same
  told q := congrArg (fun v : View => (v.cells q).told) same
  service := by
    have nodes : w'.outside.service.nodes = w.outside.service.nodes := congrArg View.nodes same
    have session : w'.outside.service.sessionId = w.outside.service.sessionId :=
      congrArg View.session same
    have data : w'.outside.service.dataWatches = w.outside.service.dataWatches :=
      TextSet.ext_contains fun q => congrArg (fun v : View => (v.cells q).armed) same
    have children : w'.outside.service.childWatches = w.outside.service.childWatches :=
      TextSet.ext_contains fun q => congrArg (fun v : View => (v.posts q).armed) same
    have alive : w'.outside.service.alive = w.outside.service.alive :=
      steady'.alive.trans steady.alive.symm
    have expired : w'.outside.service.expired = w.outside.service.expired :=
      steady'.expired.trans steady.expired.symm
    have pending : w'.outside.service.pending = w.outside.service.pending :=
      (steady'.kept.sane.settled steady'.alive).trans (steady.kept.sane.settled steady.alive).symm
    dsimp only
    rw [← nodes, ← session, ← data, ← children, ← alive, ← expired, ← pending]
  channel := Multiset.coe_eq_coe.1 (congrArg View.channel same)

/-- In a session that is alive, and unless the first failure ends it, a recovery does not depend on
the order in which it goes through its registries: it fails for the same paths, and leaves the same
subscriptions, the same tree, the same watches and the same notifications, and at each path it tells
the same. -/
theorem relisten_any_order {audience : Audience (Backstage τ)}
    (tame : Tame memoryClient (MemoryStep .any) audience) {w₀ : World (Backstage τ)}
    (isNew : w₀.IsNew)
    (run : Relation.ReflTransGen (MemoryStep .any (memoryClient.facing audience)) w₀ w)
    (alive : w.outside.service.alive = true) (patient : w.coordinator.failFast = false)
    (order order' : Enumeration) :
    ∃ failed failed' w₁ w₁',
      relistenIn order (memoryClient.facing audience) w = (recoveryResult failed, w₁) ∧
      relistenIn order' (memoryClient.facing audience) w = (recoveryResult failed', w₁') ∧
      failed.Perm w.setting.unrecoverable ∧ failed'.Perm failed ∧
      Alike w.coordinator.nextId w₁ w₁' := by
  have steady : Steady w.coordinator.nextId w := ⟨isNew.kept_of_run tame run, alive, le_rfl⟩
  obtain ⟨failed, w₁, h, perm, steady₁, view⟩ :=
    relistenIn_recovered audience order steady rfl patient
  obtain ⟨failed', w₁', h', perm', steady₁', view'⟩ :=
    relistenIn_recovered audience order' steady rfl patient
  exact ⟨failed, failed', w₁, w₁', h, h', perm, perm'.trans perm.symm,
    alike_of_view steady₁ steady₁' (view'.trans view.symm)⟩

def Enumeration.descending : Enumeration where
  data := List.reverse
  children := List.reverse
  stubborn := List.reverse
  data_perm := List.reverse_perm
  children_perm := List.reverse_perm
  stubborn_perm := List.reverse_perm

/-- Two parents with children not seen yet, a node that is missed by its subscriber, and stubborn
nodes of which one is nested in another and one has no path. -/
theorem relisten_either_way :
    let w := World.blank.play [.change (.create "/a" .empty), .change (.create "/b" .empty),
      .change (.create "/m" .empty), .command (.listen "/a" "one" (.children true)),
      .command (.listen "/b" "two" (.children true)),
      .command (.listen "/m" "three" (.children false)), .change (.create "/a/x" ⟨#[1]⟩),
      .change (.create "/b/y" ⟨#[2]⟩), .change (.delete "/m"),
      .command (.markStubborn "/a/e" ⟨#[3]⟩), .command (.markStubborn "/a/e/f" ⟨#[4]⟩),
      .command (.markStubborn "bad" ⟨#[5]⟩)]
    w.setting.unrecoverable = ["/m", "/a/e/f", "bad"] ∧ ∃ failed failed' w₁ w₁',
      relistenIn .ascending (memoryClient.facing .silent) w = (recoveryResult failed, w₁) ∧
      relistenIn .descending (memoryClient.facing .silent) w = (recoveryResult failed', w₁') ∧
      failed.Perm w.setting.unrecoverable ∧ failed'.Perm failed ∧
      Alike w.coordinator.nextId w₁ w₁' := by
  intro w
  have run : Relation.ReflTransGen (MemoryStep .any (memoryClient.facing .silent)) .blank w :=
    play_run (allows_any _ _)
  exact ⟨by decide, relisten_any_order .silent blank_isNew run (by decide) (by decide) .ascending
    .descending⟩

end DurableWatch
