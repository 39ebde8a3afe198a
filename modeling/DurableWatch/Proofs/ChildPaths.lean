import DurableWatch.Proofs.ChildListing
import DurableWatch.Proofs.Dialogue

/-!
# Children of different nodes

A node's path and the name of a child make the path of the child, and that path can be taken apart
again into the two. So two nodes have no child in common, and the data subscriptions of the children
of one node are out of reach of a pass over the children of another.
-/
namespace DurableWatch

namespace Path

/-- A text that can be the name of a child. -/
def IsSegment (n : String) : Prop := n ≠ "" ∧ '/' ∉ n.toList

/-- What stands behind the last slash of `p` is `n`. -/
def EndsIn (p : Path) (n : String) : Prop := '/' ∉ n.toList ∧ ∃ front, p = front ++ "/" ++ n

/-- Nodes with the name of a child each. -/
def branches : Set (Path × String) := {b | b.1.validate = .ok () ∧ IsSegment b.2}

/-- The paths of all nodes but the root. -/
def below : Set Path := {p | p.validate = .ok () ∧ p ≠ root}

theorem endsIn_child (p : Path) {n : String} (plain : '/' ∉ n.toList) : (p.child n).EndsIn n :=
  ⟨plain, _, child_eq_append p n⟩

theorem EndsIn.name_eq {p : Path} {n : String} (ends : p.EndsIn n) : p.name = n := by
  obtain ⟨plain, front, rfl⟩ := ends
  exact name_append front plain

theorem isChildName_of_branch {b : Path × String} (branch : b ∈ branches) :
    b.1.IsChildName b.2 :=
  isChildName (validate_eq_ok.1 branch.1) branch.2.1 branch.2.2

theorem child_mem_below {b : Path × String} (branch : b ∈ branches) : b.1.child b.2 ∈ below := by
  obtain ⟨valid, full, plain⟩ := branch
  exact ⟨validate_eq_ok.2 (defect?_child (validate_eq_ok.1 valid) full plain),
    child_ne_root b.1 full plain⟩

/-- A path below the root is a child of its parent, under its own name. -/
theorem exists_branch {p : Path} (belongs : p ∈ below) :
    ∃ q, p.parent? = some q ∧ (q, p.name) ∈ branches ∧ p = q.child p.name := by
  have valid := validate_eq_ok.1 belongs.1
  obtain ⟨q, parent⟩ := exists_parent valid belongs.2
  exact ⟨q, parent, ⟨validate_eq_ok.2 (parent?_step valid parent).1, name_ne_empty valid parent,
    slash_not_mem_name p⟩, (child_name_of_parent? valid parent).symm⟩

/-- Two nodes have no child in common. -/
theorem child_injOn : branches.InjOn fun b => b.1.child b.2 := by
  intro b branch b' branch' same
  have parents : b.1 = b'.1 := by
    by_contra other
    exact (isChildName_of_branch branch).child_ne (isChildName_of_branch branch') other same
  refine Prod.ext parents (child_inj.1 (same.trans ?_))
  rw [parents]

end Path

namespace World

variable {σ : Type} {host : Host σ} {p q : Path} {m : String} {s : ChildSubscription}
  {w w₁ : World σ}

/-- A pass adds and removes data subscriptions of children of its own node only. -/
theorem data_childChange_elsewhere (orderly : host.Orderly) (hp : p.validate = .ok ())
    (branch : (q, m) ∈ Path.branches) (other : p ≠ q)
    (registered : w.coordinator.children.get? p = some s)
    (known : ∀ n, s.known.contains n = true → Path.IsSegment n) {snapshot : List String}
    (listed : host.ask (.listChildren p true) w = (.ok snapshot, w₁))
    (names : ∀ n ∈ snapshot, Path.IsSegment n) :
    (childChange host p .dispatched w).2.coordinator.data.get? (q.child m) =
      w.coordinator.data.get? (q.child m) := by
  have apart {n : String} (segment : Path.IsSegment n) : q.child m ≠ p.child n := by
    intro same
    have branches : (q, m) = (p, n) := Path.child_injOn branch ⟨hp, segment⟩ same
    exact other (congrArg Prod.fst branches).symm
  let diff := ChildDiff.between s.known snapshot
  let new := (readNew host p s diff.created w₁).1
  have covers : new.Covers diff.created :=
    readNew_covers orderly p s (ChildDiff.created_nodup _ _) w₁
  have kept : q.child m ∉ diff.deleted.map p.child := by
    intro gone
    obtain ⟨n, hn, same⟩ := List.mem_map.1 gone
    exact apart (known n (ChildDiff.mem_deleted.1 hn).1) same.symm
  have added : ¬∃ e ∈ new.found, q.child m = p.child e.1 := by
    rintro ⟨e, he, same⟩
    have created := (covers.mem_found.1 (List.mem_map_of_mem he)).1
    exact apart (names e.1 (ChildDiff.mem_created.1 created).1) same
  rw [childChange_registered registered, childPass_listed orderly p s .dispatched listed]
  simp only [deliver, coordinator_update]
  rw [(Coordinator.beside_submitAll _ _).data, Coordinator.data_absorb, if_neg fun h => kept h.2]
  exact ((Coordinator.data_addFound w.coordinator p s new.found (q.child m)).resolve_right
    fun h => added h.2.1).1

end World

/-- The path of a child is a path below the root that can be taken apart into the node and the name
it was made of, and every path below the root is made in that way. So two nodes have no child in
common, and a pass over the children of one leaves the data subscriptions of the other's as they
are. -/
theorem child_parent_inverse {σ : Type} :
    (∀ b ∈ Path.branches, b.1.child b.2 ∈ Path.below ∧ (b.1.child b.2).parent? = some b.1 ∧
      (b.1.child b.2).EndsIn b.2 ∧ ∀ n, (b.1.child b.2).EndsIn n → n = b.2) ∧
    (∀ p ∈ Path.below, ∃ b ∈ Path.branches,
      p.parent? = some b.1 ∧ p.EndsIn b.2 ∧ p = b.1.child b.2) ∧
    Path.branches.InjOn (fun b => b.1.child b.2) ∧
    ∀ {host : Host σ} {p q : Path} {m : String} {s : ChildSubscription} {w w₁ : World σ}
      {snapshot : List String}, host.Orderly → p.validate = .ok () → (q, m) ∈ Path.branches →
      p ≠ q → w.coordinator.children.get? p = some s →
      (∀ n, s.known.contains n = true → Path.IsSegment n) →
      host.ask (.listChildren p true) w = (.ok snapshot, w₁) →
      (∀ n ∈ snapshot, Path.IsSegment n) →
      (w.childChange host p .dispatched).2.coordinator.data.get? (q.child m) =
        w.coordinator.data.get? (q.child m) := by
  refine ⟨fun b branch => ?_, fun p belongs => ?_, Path.child_injOn, ?_⟩
  · have ends := Path.endsIn_child b.1 branch.2.2
    exact ⟨Path.child_mem_below branch, (Path.isChildName_of_branch branch).parent, ends,
      fun n other => other.name_eq.symm.trans ends.name_eq⟩
  · obtain ⟨q, parent, branch, whole⟩ := Path.exists_branch belongs
    refine ⟨(q, p.name), branch, parent, ?_, whole⟩
    have ends := Path.endsIn_child q branch.2.2
    rwa [← whole] at ends
  · intro host p q m s w w₁ snapshot orderly hp branch other registered known listed names
    exact World.data_childChange_elsewhere orderly hp branch other registered known listed names

/-- Every node has the child `x`. -/
def Client.bearing : Client Unit where
  isAlive _ := (true, ())
  ask
    | .existence _, _ => (.ok true, ())
    | .readData _ _, _ => (.ok .empty, ())
    | .listChildren _ _, _ => (.ok ["x"], ())
    | .create p _ _, _ => (.ok p, ())
    | .cancelDataWatch _, _ | .writeData _ _, _ | .delete _, _ | .reconnect, _ => (.ok (), ())

/-- A child of the root and one further down; and the first pass over `/a` adds a subscription
there, beside the one for the child of the same name below `/`. -/
theorem child_parent_inverse_same_name :
    let unseen : Coordinator := (Coordinator.new (.ofSize 1) false).addData "/x" "own" none
    let w : World (Dialogue Unit) := ⟨unseen.addChildren "/a" "l" true, ⟨(), []⟩⟩
    let passed := w.childChange Client.bearing.host "/a" .dispatched
    Path.parent? "/x" = some Path.root ∧
      (∃ n, Path.IsSegment n ∧ Path.EndsIn "/a/x" n ∧ "/a/x" = Path.child "/a" n) ∧
      passed.2.coordinator.data.get? "/x" = some ⟨0, "own", none⟩ ∧
      passed.2.coordinator.data.contains "/a/x" = true := by
  intro unseen w passed
  obtain ⟨joined, parted, -, apart⟩ := child_parent_inverse (σ := Dialogue Unit)
  have segment : Path.IsSegment "x" := ⟨by decide, by decide⟩
  have branch : ((Path.root, "x") : Path × String) ∈ Path.branches := ⟨by decide, segment⟩
  refine ⟨(joined _ branch).2.1, ?_, ?_, by decide⟩
  · obtain ⟨⟨q, n⟩, belongs, parent, ends, whole⟩ := parted "/a/x" ⟨by decide, by decide⟩
    have top : Path.parent? "/a/x" = some "/a" := by decide
    obtain rfl : q = "/a" := Option.some.inj (parent.symm.trans top)
    exact ⟨n, belongs.2, ends, whole⟩
  · have listed : Client.bearing.host.ask (.listChildren "/a" true) w =
        (.ok ["x"], w.exchanged () [⟨.listChildren "/a" true, .ok ["x"]⟩]) := rfl
    exact apart Client.bearing.host_orderly (by decide) branch (by decide) rfl
      (fun n h => by cases h) listed (by simpa using segment)

end DurableWatch
