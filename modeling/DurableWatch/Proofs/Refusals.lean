import DurableWatch.Proofs.NodeCreation
import DurableWatch.Proofs.WatchAccounts

/-!
# What the service refuses

Requests, and changes by other clients, are refused for what they find: a session that is not alive,
a text that is no path, a node that is missing, that is there already, or that may not have or must
not have children. All of this is looked at before anything is done, so a refusal leaves no trace.
-/
namespace DurableWatch.MemoryService

variable {s s' : MemoryService} {p : Path}

/-- What the deed has to find in the tree. -/
def Deed.Possible (t : Table Node) : Deed → Prop
  | create p => p.validate = .ok () ∧ t.contains p = false ∧ ∃ r, p.parent? = some r ∧ Lasts t r
  | write p => t.contains p = true
  | delete p => p ≠ Path.root ∧ t.contains p = true ∧
    ∀ q : Path, t.contains q = true → q.parent? ≠ some p

/-- What the request has to find in the tree. -/
def Answerable (t : Table Node) : Request → Prop
  | .readData p _ | .listChildren p _ => t.contains p = true
  | .writeData p _ => Deed.Possible t (.write p)
  | .create p _ _ => Deed.Possible t (.create p)
  | .delete p => Deed.Possible t (.delete p)
  | .existence _ | .cancelDataWatch _ | .reconnect => True

/-- What the operation has to find at the service. -/
def Admits (s : MemoryService) : Operation → Prop
  | .request r => (r ≠ .reconnect → s.alive = true) ∧ Answerable s.nodes r
  | .change c => (Deed.ofChange c).Possible s.nodes
  | .disconnect | .expire | .take => True

@[simp] theorem isOk_error {α : Type} (e : Error) : (.error e : Except Error α).isOk = false := rfl

/-! ### Changes of the tree -/

theorem isOk_createNode (s : MemoryService) (p : Path) (node : Node) :
    (s.createNode p node).1.isOk = true ↔ Deed.Possible s.nodes (.create p) := by
  constructor
  · intro made
    unfold createNode at made
    split at made
    · cases made
    · next r site =>
      obtain ⟨valid, absent, parent, lasts⟩ := creationSite_ok site
      exact ⟨Path.validate_eq_ok.2 valid, absent, r, parent, lasts⟩
  · rintro ⟨valid, absent, r, parent, lasts⟩
    unfold createNode
    rw [creationSite_eq (Path.validate_eq_ok.1 valid) absent parent lasts]
    rfl

theorem isOk_setData (s : MemoryService) (p : Path) (d : Data) :
    (s.setData p d).1.isOk = true ↔ Deed.Possible s.nodes (.write p) := by
  rw [Deed.Possible, Table.contains]
  unfold setData
  cases s.nodes.get? p <;> simp [Except.isOk, Except.toBool]

theorem childNames_eq_nil : s.childNames p = [] ↔
    ∀ q : Path, s.nodes.contains q = true → q.parent? ≠ some p := by
  simp [childNames, Table.mem_keys]

theorem isOk_deleteNode (s : MemoryService) (p : Path) :
    (s.deleteNode p).1.isOk = true ↔ Deed.Possible s.nodes (.delete p) := by
  rw [Deed.Possible, ← childNames_eq_nil]
  by_cases top : p = Path.root
  · simp [deleteNode, top]
  · cases there : s.nodes.contains p with
    | false => simp [deleteNode, top, there]
    | true =>
      rw [answer_deleteNode there top]
      split <;> simp_all [Except.isOk, Except.toBool]

theorem isOk_change (s : MemoryService) (c : ExternalChange) :
    (s.change c).1.isOk = true ↔ (Deed.ofChange c).Possible s.nodes := by
  cases c with
  | create p d =>
    rw [Deed.ofChange, ← isOk_createNode s p ⟨d, .persistent, 0⟩, change]
    split <;> simp_all [Except.isOk, Except.toBool]
  | setData p d => exact isOk_setData s p d
  | delete p => exact isOk_deleteNode s p

/-! ### Requests -/

theorem isOk_read {α : Type} (s : MemoryService) (p : Path) (kind : WatchKind) (watch : Bool)
    (answer : Node → α) :
    (s.read p kind watch answer).1.isOk = true ↔ s.nodes.contains p = true := by
  rw [Table.contains]
  unfold read
  cases s.nodes.get? p <;> simp [Except.isOk, Except.toBool]

/-- A read that finds no node arms nothing. -/
theorem read_refused {α : Type} {kind : WatchKind} {watch : Bool} {answer : Node → α}
    (refused : (s.read p kind watch answer).1.isOk = false) :
    (s.read p kind watch answer).2 = s := by
  unfold read at refused ⊢
  split
  · rfl
  · next found =>
    rw [found] at refused
    cases refused

theorem Enacted.of_refused {deed : Deed} (enacted : Enacted s deed false s') : s' = s := by
  rcases enacted with ⟨-, same⟩ | ⟨done, -⟩
  · exact same
  · cases done

theorem serve_refused {r : Request} (refused : (s.serve r).1.isOk = false) :
    (s.serve r).2 = s := by
  cases r with
  | existence p | cancelDataWatch p | reconnect => cases refused
  | readData p watch => exact read_refused refused
  | listChildren p watch => exact read_refused refused
  | writeData p d => exact Enacted.of_refused (refused ▸ enacted_setData s p d)
  | create p d mode => exact Enacted.of_refused (refused ▸ enacted_createNode s p _)
  | delete p => exact Enacted.of_refused (refused ▸ enacted_deleteNode s p)

theorem ask_unchanged {r : Request} (refused : (s.ask r).1.isOk = false) : (s.ask r).2 = s := by
  by_cases again : r = .reconnect
  · subst again
    cases refused
  · cases living : s.alive with
    | false => exact (ask_refused living again).2
    | true =>
      rw [ask_of_alive living again] at refused ⊢
      exact serve_refused refused

theorem change_unchanged {c : ExternalChange} (refused : (s.change c).1.isOk = false) :
    (s.change c).2 = s := Enacted.of_refused (refused ▸ enacted_change s c)

theorem isOk_ask (s : MemoryService) (r : Request) :
    (s.ask r).1.isOk = true ↔ s.Admits (.request r) := by
  by_cases again : r = .reconnect
  · subst again
    exact iff_of_true rfl ⟨fun other => absurd rfl other, trivial⟩
  · cases living : s.alive with
    | false => simp [Admits, again, living, (ask_refused living again).1]
    | true =>
      rw [ask_of_alive living again, Admits, and_iff_right fun _ => living]
      cases r with
      | existence p | cancelDataWatch p => exact iff_of_true rfl trivial
      | readData p watch => exact isOk_read s p .data watch Node.data
      | listChildren p watch => exact isOk_read s p .children watch fun _ => s.childNames p
      | writeData p d => exact isOk_setData s p d
      | create p d mode => exact isOk_createNode s p _
      | delete p => exact isOk_deleteNode s p
      | reconnect => exact absurd rfl again

theorem succeeds_iff (s : MemoryService) (op : Operation) : s.succeeds op = true ↔ s.Admits op := by
  cases op with
  | request r => exact isOk_ask s r
  | change c => exact isOk_change s c
  | disconnect | expire | take => exact iff_of_true rfl trivial

/-- In whatever state the service is, an operation goes through if and only if it finds what it has
to find, and a request or a change that is answered with an error leaves everything as it was. -/
theorem refusals_leave_no_trace (s : MemoryService) :
    (∀ op, s.succeeds op = true ↔ s.Admits op) ∧
    (∀ (r : Request) (e : Error), (s.ask r).1 = .error e → (s.ask r).2 = s) ∧
    ∀ (c : ExternalChange) (e : Error), (s.change c).1 = .error e → (s.change c).2 = s := by
  refine ⟨s.succeeds_iff, fun r e refused => ask_unchanged ?_,
    fun c e refused => change_unchanged ?_⟩
  · rw [refused, isOk_error]
  · rw [refused, isOk_error]

/-- Watches on the node itself and on its parent outlast a read, a creation and a deletion that are
refused. -/
theorem refusals_leave_watches :
    let s := history [.change (.create "/a" .empty), .request (.create "/a/e" .empty .ephemeral),
      .request (.listChildren "/a" true), .request (.readData "/a/e" true)]
    ((s.ask (.readData "/a/b" true)).1 = .error (.pathNotFound "/a/b") ∧
      (s.ask (.readData "/a/b" true)).2 = s) ∧
    ((s.ask (.create "/a/e/f" .empty .persistent)).1 =
        .error (.invalidArgument "ephemeral node /a/e cannot have children") ∧
      (s.ask (.create "/a/e/f" .empty .persistent)).2 = s) ∧
    ((s.change (.delete "/a")).1 = .error (.invalidArgument "node /a has children") ∧
      (s.change (.delete "/a")).2 = s) := by
  intro s
  obtain ⟨-, requests, changes⟩ := refusals_leave_no_trace s
  have read : (s.ask (.readData "/a/b" true)).1 = .error (.pathNotFound "/a/b") := by decide
  have created : (s.ask (.create "/a/e/f" .empty .persistent)).1 =
    .error (.invalidArgument "ephemeral node /a/e cannot have children") := by decide
  have deleted : (s.change (.delete "/a")).1 =
    .error (.invalidArgument "node /a has children") := by decide
  exact ⟨⟨read, requests _ _ read⟩, ⟨created, requests _ _ created⟩, deleted, changes _ _ deleted⟩

end DurableWatch.MemoryService
