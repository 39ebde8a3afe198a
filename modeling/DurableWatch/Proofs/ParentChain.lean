import DurableWatch.Proofs.PathGrammar
import Mathlib.Data.List.Chain

/-!
# The chain of parents

From a node one climbs from parent to parent up to the root. What is met on the way, read from the
top down and without the root, are the ancestors: each is the parent of the next, and the last one
is the parent of the node itself. Of any other text the ancestors are paths as well, each of them
the beginning of the next.
-/
namespace DurableWatch.Path

/-- What one meets when one goes from `p` to its parent and on, as far as there is one. -/
def climb (p : Path) : List Path :=
  match _h : p.parent? with
  | none => []
  | some q => q :: climb q
termination_by p.toList.length
decreasing_by exact length_parent?_lt ‹_›

/-- The text goes on after `q`, and so becomes `r`. -/
def IsStrictPrefix (q r : Path) : Prop := ∃ rest, rest ≠ "" ∧ r = q ++ rest

theorem climb_root : climb root = [] := by
  rw [climb]
  rfl

theorem climb_of_parent? {p q : Path} (h : p.parent? = some q) : p.climb = q :: q.climb := by
  rw [climb]
  split
  · next none => simp [h] at none
  · next r some => rw [Option.some.inj (h.symm.trans some)]

theorem isAncestor_of_mem_climb {p q : Path} (met : q ∈ p.climb) : q.IsAncestor p := by
  fun_induction climb p with
  | case1 => cases met
  | case2 p r h ih =>
    rw [isAncestor_of_parent? h]
    exact (List.mem_cons.1 met).imp_right ih

theorem isChain_climb (p : Path) : (p :: p.climb).IsChain fun q r => q.parent? = some r := by
  fun_induction climb p with
  | case1 p => exact List.isChain_singleton p
  | case2 p r h ih => exact List.isChain_cons_cons.2 ⟨h, ih⟩

/-- The way up leads through the ancestors, and ends at the root. -/
theorem climb_eq {p : Path} (valid : p.defect? = none) (notRoot : p ≠ root) :
    p.climb = (root :: p.ancestors).reverse := by
  induction p, valid using induction_on_parent with
  | top => exact absurd rfl notRoot
  | below p q valid parent above ih =>
    rw [climb_of_parent? parent, ancestors_of_parent? valid parent, lineage]
    split
    · next top => rw [top, climb_root]; rfl
    · next below => rw [ih below]; simp

/-! ### The ancestors of any text -/

/-- Every path of a chain goes on from the one before. -/
theorem isChain_chain (above : Path) (ss : List (List Char)) :
    (above :: chain above ss).IsChain IsStrictPrefix := by
  induction ss generalizing above with
  | nil => exact List.isChain_singleton above
  | cons s ss ih =>
    refine List.isChain_cons_cons.2 ⟨⟨"/" ++ String.ofList s, ?_, ?_⟩, ih _⟩
    · simp [← String.toList_inj]
    · rw [String.append_assoc]

/-- A chain of segments starts at nothing, or goes on from a path below the root; then all of its
paths are below the root. -/
theorem valid_of_mem_chain {above : Path} {ss : List (List Char)}
    (start : above = "" ∨ above.defect? = none ∧ above ≠ root)
    (pieces : ∀ s ∈ ss, s ≠ [] ∧ '/' ∉ s) :
    ∀ q ∈ chain above ss, q.defect? = none ∧ q ≠ root := by
  induction ss generalizing above with
  | nil => exact List.forall_mem_nil _
  | cons s ss ih =>
    obtain ⟨⟨some, plain⟩, rest⟩ := List.forall_mem_cons.1 pieces
    have full : String.ofList s ≠ "" := by simpa [← String.toList_inj] using some
    have plain : '/' ∉ (String.ofList s).toList := by simpa using plain
    obtain ⟨p, valid, here⟩ : ∃ p : Path, p.defect? = none ∧
        above ++ "/" ++ String.ofList s = p.child (String.ofList s) := by
      rcases start with rfl | ⟨valid, below⟩
      · exact ⟨root, rfl, by rw [child_eq_append, if_pos rfl]⟩
      · exact ⟨above, valid, by rw [child_eq_append, if_neg below]⟩
    have step : (above ++ "/" ++ String.ofList s : Path).defect? = none ∧
        above ++ "/" ++ String.ofList s ≠ root := by
      rw [here]
      exact ⟨defect?_child valid full plain, child_ne_root p full plain⟩
    exact List.forall_mem_cons.2 ⟨step, ih (.inr step) rest⟩

theorem valid_of_mem_ancestors {p q : Path} (above : q ∈ p.ancestors) :
    q.defect? = none ∧ q ≠ root := by
  refine valid_of_mem_chain (.inl rfl) (fun s hs => ?_) q above
  obtain ⟨piece, some⟩ := List.mem_filter.1 (List.mem_of_mem_dropLast hs)
  exact ⟨by simpa using some, slash_not_mem_piece piece⟩

/-- The ancestors of a path are what is met on the way up to the root, the root excepted, from the
top down. They are paths even if the text is none. -/
theorem ancestors_parent_chain (p : Path) :
    (p.validate = .ok () →
      p.ancestors = (p.climb.filter (· ≠ root)).reverse ∧ p ∉ p.ancestors ∧
      (p.ancestors = [] ↔ p = root ∨ p.parent? = some root) ∧
      (p ≠ root → (root :: p.ancestors ++ [p]).IsChain fun q r => r.parent? = some q)) ∧
    (∀ q ∈ p.ancestors, q.validate = .ok () ∧ q ≠ root) ∧
    p.ancestors.IsChain IsStrictPrefix := by
  refine ⟨fun valid => ?_, fun q above => ?_, (isChain_chain "" _).tail⟩
  · by_cases top : p = root
    · subst top
      refine ⟨?_, List.not_mem_nil, iff_of_true rfl (.inl rfl), fun below => absurd rfl below⟩
      rw [climb_root]
      rfl
    · have path := validate_eq_ok.1 valid
      obtain ⟨q, parent⟩ := exists_parent path top
      have way := climb_eq path top
      refine ⟨?_, fun self => ?_, ?_, fun _ => ?_⟩
      · have below : p.ancestors.filter (· ≠ root) = p.ancestors :=
          List.filter_eq_self.2 fun q above => by simpa using (valid_of_mem_ancestors above).2
        rw [way, List.filter_reverse, List.reverse_reverse, List.filter_cons_of_neg (by simp),
          below]
      · have met : p ∈ p.climb := by simp [way, self]
        exact lt_irrefl _ (isAncestor_of_mem_climb met).length_lt
      · rw [ancestors_of_parent? path parent, lineage, parent]
        by_cases child : q = root <;> simp [child, top]
      · have chain := isChain_climb p
        rw [way, ← List.reverse_concat, List.isChain_reverse] at chain
        exact chain
  · obtain ⟨valid, below⟩ := valid_of_mem_ancestors above
    exact ⟨validate_eq_ok.2 valid, below⟩

theorem ancestors_parent_chain_two :
    Path.validate "/a/b/c" = .ok () ∧ ancestors "/a/b/c" = ["/a", "/a/b"] ∧
      ("/a/b/c" : Path) ∉ ancestors "/a/b/c" ∧
      [root, "/a", "/a/b", "/a/b/c"].IsChain fun q r => r.parent? = some q := by
  have valid : Path.validate "/a/b/c" = .ok () := by decide
  have two : ancestors "/a/b/c" = ["/a", "/a/b"] := by decide
  obtain ⟨-, self, -, parents⟩ := (ancestors_parent_chain "/a/b/c").1 valid
  have chain := parents (by decide)
  rw [two] at chain
  exact ⟨valid, two, self, chain⟩

/-- The ancestors of a text that is no path are paths nevertheless. -/
example : ancestors "a//b/c/" = ["/a", "/a/b"] := by decide

end DurableWatch.Path
