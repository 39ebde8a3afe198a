import DurableWatch.Proofs.RecoveryOrder
import DurableWatch.Proofs.ServiceHistory
import DurableWatch.Proofs.StubbornMarks

/-!
# Which stubborn nodes a recovery brings back

A stubborn node that is created again is ephemeral, so nothing can be created below it: whether the
one is brought back does not depend on the other. What a recovery brings back is therefore settled
by the tree that it finds.
-/
namespace DurableWatch

open World Coordinator

namespace View

variable {v : View} {n : StubbornNode} {q parent : Path}

@[simp] theorem session_reread (v : View) (p : Path) : (v.reread p).session = v.session := rfl

theorem session_pass (base : Nat) (v : View) (p : Path) :
    (v.pass base p).session = v.session := by
  unfold pass
  split <;> rfl

theorem session_recreate (v : View) (n : StubbornNode) : (v.recreate n).session = v.session := by
  unfold recreate fire place
  split
  · split <;> rfl
  · rfl

theorem get?_recreate_other (v : View) (other : q ≠ n.path) :
    (v.recreate n).nodes.get? q = v.nodes.get? q := by
  by_cases idle : ∀ parent, Ground.of v.nodes n.path ≠ .below parent
  · rw [recreate_idle idle]
  · obtain ⟨parent, below⟩ := not_forall_not.1 idle
    rw [recreate_below below, nodes_fire, place, Table.get?_insert, if_neg other]

/-- Nothing becomes of a path that is not marked, or where no node can be created. -/
theorem get?_recreated_other {ns : List StubbornNode} (v : View)
    (idle : ∀ n ∈ ns, n.path = q → ∀ parent, Ground.of v.nodes q ≠ .below parent) :
    (ns.foldl recreate v).nodes.get? q = v.nodes.get? q := by
  induction ns generalizing v with
  | nil => rfl
  | cons n ns ih =>
    obtain ⟨first, rest⟩ := List.forall_mem_cons.1 idle
    rw [List.foldl_cons]
    by_cases same : n.path = q
    · rw [recreate_idle (by rw [same]; exact first same)]
      exact ih v rest
    · rw [ih _ fun m hm here => by rw [ground_recreate v (Ne.symm same)]; exact rest m hm here]
      exact get?_recreate_other v (Ne.symm same)

/-- A marked node that can be created is created, whatever is created before it. -/
theorem get?_recreated {ns : List StubbornNode} (v : View)
    (distinct : (ns.map StubbornNode.path).Nodup) (marked : n ∈ ns)
    (below : Ground.of v.nodes n.path = .below parent) :
    (ns.foldl recreate v).nodes.get? n.path = some ⟨n.data, .ephemeral, v.session⟩ := by
  induction ns generalizing v with
  | nil => cases marked
  | cons m ns ih =>
    obtain ⟨fresh, distinct⟩ := List.nodup_cons.1 distinct
    rw [List.foldl_cons]
    rcases List.mem_cons.1 marked with rfl | marked
    · have elsewhere : ∀ k ∈ ns, k.path ≠ n.path := fun k hk same =>
        fresh (same ▸ List.mem_map_of_mem hk)
      rw [get?_recreated_other _ fun k hk here => absurd here (elsewhere k hk),
        recreate_below below, nodes_fire]
      simp [place]
    · have other : n.path ≠ m.path := fun same =>
        fresh (same ▸ List.mem_map_of_mem marked)
      rw [ih _ distinct marked (by rwa [ground_recreate v other]), session_recreate]

end View

theorem creatable_iff {s : MemoryService} {q parent : Path} (valid : q.defect? = none)
    (above : q.parent? = some parent) :
    s.Creatable q ↔ (s.nodes.get? parent).any (·.mode = .persistent) = true := by
  constructor
  · rintro ⟨-, parent', n, above', found, lasts⟩
    obtain rfl : parent = parent' := Option.some.inj (above.symm.trans above')
    simp [found, lasts]
  · intro lasts
    obtain ⟨n, found, lasts⟩ := (Option.any_eq_true _ _).1 lasts
    exact ⟨valid, parent, n, above, found, of_decide_eq_true lasts⟩

/-- What a creation finds at a path, in a tree as it should be. -/
theorem ground_cases {s : MemoryService} (sane : s.Sane)
    (grounded : MemoryService.Grounded s.nodes) (q : Path) :
    (∃ parent, Ground.of s.nodes q = .below parent) ∧ s.nodes.contains q = false ∧
        s.Creatable q ∨
      Ground.of s.nodes q = .taken ∧ s.nodes.contains q = true ∨
      Ground.of s.nodes q = .barred ∧ s.nodes.contains q = false ∧ ¬s.Creatable q := by
  unfold Ground.of
  by_cases valid : q.defect? = none
  · cases there : s.nodes.contains q with
    | true => simp [valid]
    | false =>
      obtain ⟨parent, above⟩ : ∃ parent, q.parent? = some parent := by
        refine Path.exists_parent valid ?_
        rintro rfl
        obtain ⟨n, found, -⟩ := grounded
        rw [Table.contains_of_get? found] at there
        cases there
      rw [creatable_iff valid above]
      cases lasts : (s.nodes.get? parent).any (·.mode = .persistent) <;>
        simp [valid, above, lasts]
  · have absent : s.nodes.contains q = false := by
      by_contra there
      exact valid (sane.paths q (Bool.eq_true_of_not_eq_false there))
    exact .inr (.inr ⟨if_pos valid, absent, fun creatable => valid creatable.valid⟩)

namespace World

variable {τ : Type} {w : World (Backstage τ)}

/-- What a recovery of `w` makes of the tree. -/
theorem get?_recovered (base : Nat) (q : Path) :
    (w.setting.recovered base).nodes.get? q =
      match Ground.of w.outside.service.nodes q, w.coordinator.stubborn.get? q with
      | .below _, some d => some ⟨d, .ephemeral, w.outside.service.sessionId⟩
      | _, _ => w.outside.service.nodes.get? q := by
  unfold Setting.recovered
  dsimp only
  generalize hv : w.setting.coordinator.children.keys.foldl (View.pass base)
    (w.setting.coordinator.data.keys.foldl View.reread (w.setting.view base)) = v
  have nodes : v.nodes = w.outside.service.nodes := by
    rw [← hv, foldl_kept View.nodes (View.nodes_pass base), foldl_kept View.nodes View.nodes_reread]
    rfl
  have session : v.session = w.outside.service.sessionId := by
    rw [← hv, foldl_kept View.session (View.session_pass base),
      foldl_kept View.session View.session_reread]
    rfl
  have distinct : (w.coordinator.stubbornNodes.map StubbornNode.path).Nodup := by
    rw [stubbornNodes_paths]
    exact w.coordinator.stubborn.keys_nodup
  rw [← nodes, ← session]
  split
  · next parent d below marked =>
    have listed : ⟨q, d⟩ ∈ w.coordinator.stubbornNodes := mem_stubbornNodes.2 marked
    exact View.get?_recreated v distinct listed below
  · next other =>
    refine View.get?_recreated_other v fun n listed here parent below => ?_
    subst here
    exact other parent n.data below (mem_stubbornNodes.1 listed)

/-- The stubborn nodes after a recovery of `w` that fails at the nodes `failed` and leaves `w'`. -/
structure NodesRecovered (w w' : World (Backstage τ)) (failed : List Path) : Prop where
  kept : ∀ q n, w.outside.service.nodes.get? q = some n →
    w'.outside.service.nodes.get? q = some n
  added : ∀ q, w.outside.service.nodes.contains q = false →
    ∀ n, w'.outside.service.nodes.get? q = some n ↔
      w.outside.service.Creatable q ∧ ∃ d, w.coordinator.stubborn.get? q = some d ∧
        n = ⟨d, .ephemeral, w.outside.service.sessionId⟩
  once : failed.Nodup
  failed : ∀ q, q ∈ failed ↔ w.coordinator.stubborn.contains q = true ∧
    w.outside.service.nodes.contains q = false ∧ ¬w.outside.service.Creatable q

theorem NodesRecovered.there {w' : World (Backstage τ)} (recovered : NodesRecovered w w' [])
    {q : Path} (marked : w.coordinator.stubborn.contains q = true) :
    w'.outside.service.nodes.contains q = true := by
  cases there : w.outside.service.nodes.contains q with
  | true =>
    obtain ⟨n, found⟩ := Table.contains_eq_true.1 there
    exact Table.contains_of_get? (recovered.kept q n found)
  | false =>
    obtain ⟨d, found⟩ := Table.contains_eq_true.1 marked
    have creatable : w.outside.service.Creatable q := by
      by_contra barred
      cases (recovered.failed q).2 ⟨marked, there, barred⟩
    exact Table.contains_of_get? ((recovered.added q there _).2 ⟨creatable, d, found, rfl⟩)

theorem nodesRecovered_of_tree {w' : World (Backstage τ)} (sane : w.outside.service.Sane)
    (grounded : MemoryService.Grounded w.outside.service.nodes)
    (tree : ∀ q, w'.outside.service.nodes.get? q =
      match Ground.of w.outside.service.nodes q, w.coordinator.stubborn.get? q with
      | .below _, some d => some ⟨d, .ephemeral, w.outside.service.sessionId⟩
      | _, _ => w.outside.service.nodes.get? q)
    {failed : List Path}
    (barred : failed.Perm ((w.coordinator.stubbornNodes.filter fun n =>
      Ground.of w.outside.service.nodes n.path = .barred).map StubbornNode.path)) :
    NodesRecovered w w' failed where
  kept q n found := by
    have there := Table.contains_of_get? found
    rcases ground_cases sane grounded q with ⟨-, absent, -⟩ | ⟨taken, -⟩ | ⟨-, absent, -⟩
    · rw [there] at absent
      cases absent
    · rw [tree, taken]
      exact found
    · rw [there] at absent
      cases absent
  added q absent n := by
    have none := Table.contains_eq_false.1 absent
    rw [tree]
    rcases ground_cases sane grounded q with ⟨⟨parent, below⟩, -, creatable⟩ | ⟨-, there⟩ |
      ⟨barred, -, uncreatable⟩
    · rw [below]
      cases w.coordinator.stubborn.get? q <;> simp [none, creatable, eq_comm]
    · rw [absent] at there
      cases there
    · rw [barred]
      simp [none, uncreatable]
  once := by
    refine barred.nodup_iff.2 (List.Nodup.sublist (List.filter_sublist.map _) ?_)
    rw [stubbornNodes_paths]
    exact w.coordinator.stubborn.keys_nodup
  failed q := by
    rw [barred.mem_iff, List.mem_map]
    constructor
    · rintro ⟨n, listed, rfl⟩
      obtain ⟨listed, ground⟩ := List.mem_filter.1 listed
      have marked := Table.contains_of_get? (mem_stubbornNodes.1 listed)
      rcases ground_cases sane grounded n.path with ⟨⟨parent, below⟩, -⟩ | ⟨taken, -⟩ |
        ⟨-, absent, uncreatable⟩
      · simp [below] at ground
      · simp [taken] at ground
      · exact ⟨marked, absent, uncreatable⟩
    · rintro ⟨marked, absent, uncreatable⟩
      obtain ⟨d, found⟩ := Table.contains_eq_true.1 marked
      refine ⟨⟨q, d⟩, List.mem_filter.2 ⟨mem_stubbornNodes.2 found, ?_⟩, rfl⟩
      rcases ground_cases sane grounded q with ⟨-, -, creatable⟩ | ⟨-, there⟩ | ⟨barred, -⟩
      · exact absurd creatable uncreatable
      · rw [absent] at there
        cases there
      · simp [barred]

/-- A recovery brings back just those of the missing stubborn nodes below whose parents, as it finds
them, a node can be created; at the others it fails. -/
theorem stubborn_nodes_recovered {audience : Audience (Backstage τ)}
    (tame : Tame memoryClient (MemoryStep .any) audience) {w₀ : World (Backstage τ)}
    (isNew : w₀.IsNew)
    (run : Relation.ReflTransGen (MemoryStep .any (memoryClient.facing audience)) w₀ w)
    (alive : w.outside.service.alive = true) (patient : w.coordinator.failFast = false)
    (order : Enumeration) :
    ∃ subscriptions nodes w', relistenIn order (memoryClient.facing audience) w =
        (recoveryResult (subscriptions ++ nodes), w') ∧
      subscriptions.Perm
        (w.coordinator.children.keys.filter fun p => !w.outside.service.nodes.contains p) ∧
      NodesRecovered w w' nodes ∧
      (recoveryResult (subscriptions ++ nodes) = .ok () →
        ∀ q, w.coordinator.stubborn.contains q = true →
          w'.outside.service.nodes.contains q = true) := by
  obtain ⟨operations, reached⟩ := isNew.history tame run
  obtain ⟨sane, grounded⟩ : w.outside.service.Sane ∧
      MemoryService.Grounded w.outside.service.nodes :=
    reached ▸ MemoryService.sane_history operations
  have steady : Steady w.coordinator.nextId w := ⟨isNew.kept_of_run tame run, alive, le_rfl⟩
  obtain ⟨subscriptions, nodes, w', h, perm, perm', -, view⟩ :=
    relistenIn_failures audience order steady rfl patient
  have tree (q : Path) := congrArg (fun v : View => v.nodes.get? q) view
  have recovered : NodesRecovered w w' nodes :=
    nodesRecovered_of_tree sane grounded
      (fun q => (tree q).trans (get?_recovered w.coordinator.nextId q)) perm'
  refine ⟨subscriptions, nodes, w', h, perm, recovered, fun succeeded q => ?_⟩
  obtain ⟨-, rfl⟩ : subscriptions = [] ∧ nodes = [] := by
    by_contra some
    simp [recoveryResult, some] at succeeded
  exact recovered.there

/-- Of two stubborn nodes, one below the other, the upper one comes back, and what is no path does
not. -/
theorem nested_stubborn_nodes :
    let w := World.blank.play [.change (.create "/a" .empty),
      .command (.markStubborn "/a/e" ⟨#[1]⟩), .command (.markStubborn "/a/e/f" ⟨#[2]⟩),
      .command (.markStubborn "bad" ⟨#[3]⟩)]
    ∃ subscriptions nodes w', relistenIn .ascending (memoryClient.facing .silent) w =
        (recoveryResult (subscriptions ++ nodes), w') ∧
      w'.outside.service.nodes.get? "/a/e" = some ⟨⟨#[1]⟩, .ephemeral, 1⟩ ∧
      "/a/e/f" ∈ nodes ∧ "bad" ∈ nodes := by
  intro w
  have run : Relation.ReflTransGen (MemoryStep .any (memoryClient.facing .silent)) .blank w :=
    play_run (allows_any _ _)
  obtain ⟨subscriptions, nodes, w', h, -, recovered, -⟩ := stubborn_nodes_recovered .silent
    blank_isNew run (by decide) (by decide) .ascending
  refine ⟨subscriptions, nodes, w', h, ?_, ?_, ?_⟩
  · exact (recovered.added "/a/e" (by decide) _).2
      ⟨⟨by decide, "/a", ⟨.empty, .persistent, 0⟩, by decide, by decide, rfl⟩, _, rfl, rfl⟩
  · refine (recovered.failed "/a/e/f").2 ⟨by decide, by decide, ?_⟩
    rw [creatable_iff (by decide) (show Path.parent? "/a/e/f" = some "/a/e" by decide)]
    decide
  · refine (recovered.failed "bad").2 ⟨by decide, by decide, fun creatable => ?_⟩
    exact nomatch creatable.valid

end World

end DurableWatch
