import DurableWatch.Proofs.RecoveryPhases

/-!
# Recovery, path by path

An attempt of a recovery changes little: what there is at one path, or at the children of one path,
or one node with the fire it causes. Here this is told by functions of a `View`, which forgets what
depends on the order of the attempts: the order of the channel, how the events of different paths
are interleaved, and the numbers of new data subscriptions. Attempts of one phase commute.
-/
namespace DurableWatch

/-- The subscription, with one number for all that are not older than the number `base`. -/
def DataSubscription.levelled (base : Nat) (e : DataSubscription) : DataSubscription :=
  { e with id := min e.id base }

/-- What has been told about the node at `q`, by whomever. -/
def Coordinator.reportsOn (c : Coordinator) (q : Path) : List Report :=
  c.journal.filter fun r => r.event.path == q

/-- What concerns the data of one node: the subscription, whether its watch is armed, and what has
been told. -/
structure Cell where
  subscription : Option DataSubscription
  armed : Bool
  told : List Report

/-- What concerns the child list of one node. -/
structure Post where
  subscription : Option ChildSubscription
  armed : Bool

@[ext] structure View where
  cells : Path → Cell
  posts : Path → Post
  stubborn : Table Data
  nodes : Table Node
  session : Nat
  channel : Multiset Notification

/-- The view of a setting, in which data subscriptions from `base` on count as new. -/
def Setting.view (base : Nat) (a : Setting) : View where
  cells q :=
    ⟨(a.coordinator.data.get? q).map (·.levelled base), a.service.armed q .data,
      a.coordinator.reportsOn q⟩
  posts p := ⟨a.coordinator.children.get? p, a.service.armed p .children⟩
  stubborn := a.coordinator.stubborn
  nodes := a.service.nodes
  session := a.service.sessionId
  channel := a.service.channel

namespace View

/-- The nodes, as a service that nobody watches. -/
def tree (v : View) : MemoryService := { MemoryService.new with nodes := v.nodes }

end View

/-! ### Data subscriptions -/

/-- What a watched read of the node at `q` makes of what concerns its data. -/
def Cell.reread (q : Path) (node? : Option Node) (c : Cell) : Cell :=
  match c.subscription, node? with
  | none, _ => c
  | some e, some n =>
    { c with armed := true, told := c.told ++ [e.report ⟨q, .dataChanged n.data⟩] }
  | some e, none =>
    if e.parentManaged then c
    else { c with subscription := none, told := c.told ++ [e.report ⟨q, .deleted⟩] }

namespace View

def put (v : View) (p : Path) (c : Cell) : View := { v with cells := Function.update v.cells p c }

theorem cells_put (v : View) (p : Path) (c : Cell) :
    (v.put p c).cells = Function.update v.cells p c := rfl

theorem put_self (v : View) (p : Path) : v.put p (v.cells p) = v := by
  rw [put, Function.update_eq_self]

def reread (v : View) (p : Path) : View := v.put p ((v.cells p).reread p (v.nodes.get? p))

theorem posts_reread (v : View) (p : Path) : (v.reread p).posts = v.posts := rfl

theorem nodes_reread (v : View) (p : Path) : (v.reread p).nodes = v.nodes := rfl

theorem stubborn_reread (v : View) (p : Path) : (v.reread p).stubborn = v.stubborn := rfl

theorem reread_comm (v : View) (p p' : Path) :
    (v.reread p).reread p' = (v.reread p').reread p := by
  by_cases h : p = p'
  · rw [h]
  · simp only [reread, put, Function.update_of_ne h, Function.update_of_ne (Ne.symm h),
      Function.update_comm h]

end View

/-! ### Child subscriptions -/

/-- What a pass of `s` over its children makes of what concerns the data of the child at `q`. -/
def Cell.compare (base : Nat) (s : ChildSubscription) (q : Path) (node? : Option Node) (c : Cell) :
    Cell :=
  match node?, s.known.contains q.name with
  | some n, false =>
    { subscription :=
        if s.watchesChildData then some ⟨base, s.listener, some s.id⟩ else c.subscription
      armed := s.watchesChildData || c.armed
      told := c.told ++ [s.report .dispatched ⟨q, .created n.data⟩] }
  | none, true =>
    { c with
      subscription := if s.watchesChildData then none else c.subscription
      told := c.told ++ [s.report .dispatched ⟨q, .deleted⟩] }
  | _, _ => c

theorem Cell.compare_known (base : Nat) {s : ChildSubscription} {q : Path} {node? : Option Node}
    (agree : s.known.contains q.name = node?.isSome) (c : Cell) :
    c.compare base s q node? = c := by
  unfold compare
  rw [agree]
  cases node? <;> rfl

/-- What the subscription knows after a pass that finds these names and can read them all. -/
def ChildSubscription.upTo (s : ChildSubscription) (names : List String) : ChildSubscription :=
  { s with known := World.knownAfter s.known (ChildDiff.between s.known names) ⟨[], [], none⟩ }

namespace View

/-- Whether `q` is the child of `p` that its name says. -/
def IsChild (p q : Path) : Prop := q.parent? = some p ∧ p.child q.name = q

instance (p q : Path) : Decidable (IsChild p q) := inferInstanceAs (Decidable (_ ∧ _))

theorem isChild_of_name {p : Path} {n : String} (name : p.IsChildName n) :
    IsChild p (p.child n) := ⟨name.parent, by rw [name.name]⟩

/-- What a pass of `s` over the node at `p` leaves. -/
def compare (base : Nat) (v : View) (p : Path) (s : ChildSubscription) : View :=
  { v with
    cells := fun q =>
      if IsChild p q then (v.cells q).compare base s q (v.nodes.get? q) else v.cells q
    posts := Function.update v.posts p ⟨some (s.upTo (v.tree.childNames p)), true⟩ }

/-- The subscription at `p`, if it can make a pass: the node is there. -/
def passing? (v : View) (p : Path) : Option ChildSubscription :=
  if v.nodes.contains p then (v.posts p).subscription else none

def pass (base : Nat) (v : View) (p : Path) : View :=
  match v.passing? p with
  | none => v
  | some s => v.compare base p s

theorem nodes_pass (base : Nat) (v : View) (p : Path) : (v.pass base p).nodes = v.nodes := by
  unfold pass
  split <;> rfl

theorem stubborn_pass (base : Nat) (v : View) (p : Path) :
    (v.pass base p).stubborn = v.stubborn := by
  unfold pass
  split <;> rfl

/-- There is a subscription to the children of a missing node. -/
def passFails (v : View) (p : Path) : Bool :=
  (v.posts p).subscription.isSome && !v.nodes.contains p

theorem compare_comm (base : Nat) (v : View) {p p' : Path} (other : p ≠ p')
    (s s' : ChildSubscription) :
    (v.compare base p s).compare base p' s' = (v.compare base p' s').compare base p s := by
  refine View.ext (funext fun q => ?_) (Function.update_comm other _ _ v.posts) rfl rfl rfl rfl
  by_cases h : IsChild p q
  · have h' : ¬IsChild p' q := fun h' => other (Option.some.inj (h.1.symm.trans h'.1))
    simp [compare, h, h']
  · simp [compare, h]

theorem passing?_compare (base : Nat) (v : View) {p p' : Path} (other : p' ≠ p)
    (s : ChildSubscription) : (v.compare base p s).passing? p' = v.passing? p' := by
  simp only [passing?, compare, Function.update_of_ne other]

theorem pass_comm (base : Nat) (v : View) (p p' : Path) :
    (v.pass base p).pass base p' = (v.pass base p').pass base p := by
  by_cases h : p = p'
  · rw [h]
  · have left (s : ChildSubscription) := passing?_compare base v (Ne.symm h) s
    have right (s : ChildSubscription) := passing?_compare base v h s
    unfold pass
    cases hs : v.passing? p <;> cases hs' : v.passing? p' <;>
      simp [hs, hs', left, right, compare_comm base v h]

theorem passFails_pass (base : Nat) (v : View) (p p' : Path) :
    (v.pass base p).passFails p' = v.passFails p' := by
  unfold pass
  split
  · rfl
  · next s passing =>
    have registered : (v.posts p).subscription = some s := by
      unfold passing? at passing
      split at passing
      · exact passing
      · cases passing
    by_cases h : p' = p
    · subst h
      simp [passFails, compare, registered]
    · simp [passFails, compare, Function.update_of_ne h]

end View

/-! ### Stubborn nodes -/

/-- Whether a node may be created: below this parent, no more because it is there, or not at all. -/
inductive Ground
  | below (parent : Path)
  | taken
  | barred
  deriving DecidableEq

/-- A node whose parent is missing, or goes with a session, is barred. -/
def Ground.of (nodes : Table Node) (p : Path) : Ground :=
  if p.defect? ≠ none then .barred
  else if nodes.contains p then .taken
  else
    match p.parent? with
    | none => .taken
    | some parent =>
      if (nodes.get? parent).any (·.mode = .persistent) then .below parent else .barred

namespace Ground

variable {nodes : Table Node} {p parent : Path} {node : Node}

theorem free (below : Ground.of nodes p = .below parent) :
    p.defect? = none ∧ nodes.get? p = none := by
  unfold Ground.of at below
  split at below
  · cases below
  · next valid =>
    split at below
    · cases below
    · next absent =>
      exact ⟨not_not.1 valid, Table.contains_eq_false.1 (Bool.eq_false_of_not_eq_true absent)⟩

theorem insert_self (below : Ground.of nodes p = .below parent) :
    Ground.of (nodes.insert p node) p = .taken := by
  simp [Ground.of, (free below).1]

/-- A new ephemeral node changes nothing for the others: below such a node none can be created, as
none can below a missing one. -/
theorem insert_other (below : Ground.of nodes p = .below parent)
    (ephemeral : node.mode = .ephemeral) {q : Path} (other : q ≠ p) :
    Ground.of (nodes.insert p node) q = Ground.of nodes q := by
  have above (r : Path) : ((nodes.insert p node).get? r).any (·.mode = .persistent) =
      (nodes.get? r).any (·.mode = .persistent) := by
    by_cases hr : r = p <;> simp [hr, (free below).2, ephemeral]
  have there : (nodes.insert p node).contains q = nodes.contains q := by simp [other]
  simp only [Ground.of, there, above]

end Ground

namespace View

/-- The fire of the child watch at `p`, if it is armed. -/
def fire (v : View) (p : Path) : View :=
  if (v.posts p).armed then
    { v with
      posts := Function.update v.posts p { v.posts p with armed := false }
      channel := .watch p .children ::ₘ v.channel }
  else v

def place (v : View) (n : StubbornNode) : View :=
  { v with nodes := v.nodes.insert n.path ⟨n.data, .ephemeral, v.session⟩ }

def recreate (v : View) (n : StubbornNode) : View :=
  match Ground.of v.nodes n.path with
  | .below parent => (v.place n).fire parent
  | _ => v

def recreateFails (v : View) (n : StubbornNode) : Bool := Ground.of v.nodes n.path = .barred

theorem fire_comm (v : View) (p p' : Path) : (v.fire p).fire p' = (v.fire p').fire p := by
  by_cases h : p = p'
  · rw [h]
  · unfold fire
    cases hp : (v.posts p).armed <;> cases hp' : (v.posts p').armed <;>
      simp [hp, hp', Function.update_of_ne h, Function.update_of_ne (Ne.symm h),
        Function.update_comm h, Multiset.cons_swap]

@[simp] theorem nodes_fire (v : View) (p : Path) : (v.fire p).nodes = v.nodes := by
  unfold fire
  split <;> rfl

theorem place_fire (v : View) (n : StubbornNode) (p : Path) :
    (v.fire p).place n = (v.place n).fire p := by
  unfold fire place
  dsimp only
  split <;> rfl

theorem place_comm (v : View) {n m : StubbornNode} (other : n.path ≠ m.path) :
    (v.place n).place m = (v.place m).place n := by
  simp only [place, Table.insert_comm v.nodes other]

theorem recreate_below {v : View} {n : StubbornNode} {parent : Path}
    (below : Ground.of v.nodes n.path = .below parent) :
    v.recreate n = (v.place n).fire parent := by
  rw [recreate, below]

theorem recreate_idle {v : View} {n : StubbornNode}
    (idle : ∀ parent, Ground.of v.nodes n.path ≠ .below parent) : v.recreate n = v := by
  unfold recreate
  split
  · next parent below => exact absurd below (idle parent)
  · rfl

theorem ground_recreate (v : View) {n : StubbornNode} {q : Path} (other : q ≠ n.path) :
    Ground.of (v.recreate n).nodes q = Ground.of v.nodes q := by
  by_cases idle : ∀ parent, Ground.of v.nodes n.path ≠ .below parent
  · rw [recreate_idle idle]
  · obtain ⟨parent, below⟩ := not_forall_not.1 idle
    rw [recreate_below below, nodes_fire]
    exact Ground.insert_other below rfl other

/-- Neither creation decides whether the other one is made. -/
theorem recreate_comm (v : View) {n m : StubbornNode} (other : n.path ≠ m.path) :
    (v.recreate n).recreate m = (v.recreate m).recreate n := by
  have after_n := ground_recreate v other.symm
  have after_m := ground_recreate v other
  by_cases idle_n : ∀ parent, Ground.of v.nodes n.path ≠ .below parent
  · have still : ∀ parent, Ground.of (v.recreate m).nodes n.path ≠ .below parent := by
      rwa [after_m]
    rw [recreate_idle idle_n, recreate_idle still]
  by_cases idle_m : ∀ parent, Ground.of v.nodes m.path ≠ .below parent
  · have still : ∀ parent, Ground.of (v.recreate n).nodes m.path ≠ .below parent := by
      rwa [after_n]
    rw [recreate_idle idle_m, recreate_idle still]
  obtain ⟨parent, below⟩ := not_forall_not.1 idle_n
  obtain ⟨parent', below'⟩ := not_forall_not.1 idle_m
  calc (v.recreate n).recreate m
      = (((v.place n).fire parent).place m).fire parent' := by
        rw [recreate_below (after_n.trans below'), recreate_below below]
    _ = (((v.place m).place n).fire parent).fire parent' := by rw [place_fire, place_comm v other]
    _ = (((v.place m).fire parent').place n).fire parent := by rw [fire_comm, place_fire]
    _ = (v.recreate m).recreate n := by
        rw [recreate_below (after_m.trans below), recreate_below below']

/-- What is created is there from then on. -/
theorem recreateFails_recreate (v : View) (n m : StubbornNode) :
    (v.recreate n).recreateFails m = v.recreateFails m := by
  by_cases other : m.path = n.path
  · by_cases idle : ∀ parent, Ground.of v.nodes n.path ≠ .below parent
    · rw [recreate_idle idle]
    · obtain ⟨parent, below⟩ := not_forall_not.1 idle
      rw [recreate_below below, recreateFails, recreateFails, nodes_fire, other, below, place,
        Ground.insert_self below]
      rfl
  · rw [recreateFails, recreateFails, ground_recreate v other]

end View

end DurableWatch
