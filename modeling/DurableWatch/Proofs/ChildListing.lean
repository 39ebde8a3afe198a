import DurableWatch.Proofs.Ancestry
import DurableWatch.Proofs.ByteOrder
import DurableWatch.Proofs.ServiceHistory

/-!
# The listing of a node's children

The service keeps its nodes in one table by their paths, and finds the children of a node among the
keys. What it lists are the names of the nodes one segment below the node, and of no others, in the
order of their bytes; and a node can be deleted if and only if nothing is listed below it.
-/
namespace DurableWatch

theorem Path.isChildName {p : Path} {n : String} (valid : p.defect? = none) (full : n ≠ "")
    (plain : '/' ∉ n.toList) : p.IsChildName n :=
  ⟨Path.parent?_child valid full plain, Path.name_child p plain⟩

namespace MemoryService

variable {s : MemoryService} {p : Path} {names : List String}

/-- What is listed below `p` in the tree. -/
structure ListedBelow (t : Table Node) (p : Path) (names : List String) : Prop where
  ascending : names.Pairwise fun n m => Text.bytes n < Text.bytes m
  segments : ∀ n ∈ names, n ≠ "" ∧ '/' ∉ n.toList
  complete : ∀ n : String, n ≠ "" → '/' ∉ n.toList →
    (n ∈ names ↔ t.contains (p.child n) = true)
  children : ∀ q : Path, (∃ n ∈ names, q = p.child n) ↔
    t.contains q = true ∧ q.parent? = some p
  /-- Nothing that is further down, nor the node itself. -/
  level : ∀ n ∈ names, (p.child n).segments.length = p.segments.length + 1
  /-- No other child of the parent, whatever its path starts with. -/
  apart : ∀ n ∈ names, ∀ q : Path, q.parent? = p.parent? → q ≠ p.child n

theorem Sane.listedBelow (sane : s.Sane) (there : s.nodes.contains p = true) :
    ListedBelow s.nodes p (s.childNames p) := by
  have child {n : String} (hn : n ∈ s.childNames p) :
      s.nodes.contains (p.child n) = true ∧ p.IsChildName n := sane.mem_childNames_iff.1 hn
  refine ⟨?_, fun n hn => ?_, fun n full plain => ?_, fun q => ?_, fun n hn => ?_, fun n hn q => ?_⟩
  · exact (sane.childNames_pairwise p).imp Text.bytes_lt_bytes.2
  · have isName := (child hn).2
    rw [← isName.name]
    exact ⟨Path.name_ne_empty (sane.paths _ (child hn).1) isName.parent,
      Path.slash_not_mem_name (p.child n)⟩
  · rw [sane.mem_childNames_iff]
    exact and_iff_left (Path.isChildName (sane.paths p there) full plain)
  · constructor
    · rintro ⟨n, hn, rfl⟩
      exact ⟨(child hn).1, (child hn).2.parent⟩
    · rintro ⟨found, parent⟩
      exact ⟨q.name, mem_childNames.2 ⟨q, found, parent, rfl⟩,
        (Path.child_name_of_parent? (sane.paths q found) parent).symm⟩
  · have step := (Path.parent?_step (sane.paths _ (child hn).1) (child hn).2.parent).2
    rw [step, List.length_append, List.length_singleton]
  · rintro same rfl
    rw [(child hn).2.parent] at same
    exact lt_irrefl _ (Path.length_parent?_lt same.symm)

/-- Whatever has been done to the service, what it answers to a request for the children of a node
that is there is the listing below the node; and to delete the node, the root excepted, is refused
for its children if the listing holds any, and done if not. -/
theorem children_listed (operations : List Operation)
    (alive : (history operations).alive = true)
    (there : (history operations).nodes.contains p = true) (watch : Bool) :
    ∃ names, ((history operations).ask (.listChildren p watch)).1 = .ok names ∧
      ListedBelow (history operations).nodes p names ∧
      (p ≠ Path.root →
        (((history operations).ask (.delete p)).1 =
            .error (.invalidArgument ("node " ++ p ++ " has children")) ↔ names ≠ []) ∧
        (((history operations).ask (.delete p)).1 = .ok () ↔ names = [])) := by
  have sane := (sane_history operations).1
  obtain ⟨node, found⟩ := Table.contains_eq_true.1 there
  refine ⟨(history operations).childNames p, ?_, sane.listedBelow there, fun below => ?_⟩
  · rw [ask_of_alive alive Request.noConfusion]
    simp only [serve, read, found]
  · rw [ask_of_alive alive Request.noConfusion, serve, answer_deleteNode there below]
    split <;> simp_all

/-- Neither a node two segments below nor one beside it with a longer name is listed. -/
theorem children_listed_two :
    let s := history [.change (.create "/a" .empty), .change (.create "/ab" .empty),
      .change (.create "/a/c" .empty), .request (.create "/a/b" .empty .ephemeral),
      .change (.create "/a/c/d" .empty)]
    s.alive = true ∧ s.nodes.contains "/a" = true ∧ ListedBelow s.nodes "/a" ["b", "c"] ∧
      (s.ask (.delete "/a")).1 = .error (.invalidArgument "node /a has children") := by
  intro s
  have alive : s.alive = true := by decide
  have there : s.nodes.contains "/a" = true := by decide
  obtain ⟨names, answer, listed, deletion⟩ := children_listed _ alive there true
  have two : (s.ask (.listChildren "/a" true)).1 = .ok ["b", "c"] := by decide
  obtain rfl : names = ["b", "c"] := Except.ok.inj (answer.symm.trans two)
  exact ⟨alive, there, listed, (deletion (by decide)).1.2 (by simp)⟩

end MemoryService

end DurableWatch
