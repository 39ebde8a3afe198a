import DurableWatch.Proofs.PathParts
import Mathlib.Logic.Relation

/-!
# What is above a path

The parent of a path is a path again and shorter, so from every path one comes up to the root. What
is met on the way is what is above the path, and `ancestors` lists it from the top down.
-/
namespace DurableWatch.Path

/-- A path is the root, or made of segments that are not empty. -/
theorem defect?_eq_none {q : Path} : q.defect? = none ↔
    q = root ∨ ∃ rest, q.toList = '/' :: rest ∧ [] ∉ rest.splitOn '/' := by
  have isRoot : q = root ↔ q.toList = ['/'] := by rw [← String.toList_inj]; rfl
  rw [isRoot, defect?]
  cases q.toList with
  | nil => simp [defectOfChars]
  | cons c rest =>
    by_cases slash : c = '/'
    · subst slash
      by_cases none : rest = []
      · simp [defectOfChars, none]
      · -- a slash at the end leaves an empty segment behind it
        have trailing : rest.getLast? = some '/' → [] ∈ rest.splitOn '/' := by
          intro last
          obtain ⟨front, rfl⟩ := List.getLast?_eq_some_iff.1 last
          simp [List.splitOn_append_cons_self]
        by_cases last : rest.getLast? = some '/'
        · simp [defectOfChars, none, last, trailing last]
        · simp [defectOfChars, none, last]
    · simp [defectOfChars, slash]

theorem slash_not_mem_name (q : Path) : '/' ∉ q.name.toList := by
  intro slash
  have taken := List.mem_takeWhile_imp (List.mem_reverse.1 (by simpa [name] using slash))
  simp at taken

/-- What a path with a parent looks like. A path right below the root has nothing in front. -/
theorem exists_parts {q p : Path} (h : q.parent? = some p) :
    ∃ front last, q.toList = front ++ '/' :: last ∧
      (front = [] ∧ last ≠ [] ∧ p = root ∨ front ≠ [] ∧ p.toList = front) := by
  unfold parent? at h
  split at h
  · cases h
  · next notRoot =>
    have cut : q.toList.reverse.dropWhile (· ≠ '/') ≠ [] := by
      intro none
      rw [none] at h
      cases h
    obtain ⟨front, last, hq, hdrop, -⟩ := exists_cut cut
    refine ⟨front, last, hq, ?_⟩
    rw [hdrop] at h
    rcases List.eq_nil_or_concat front with rfl | ⟨front, c, rfl⟩
    · refine .inl ⟨rfl, ?_, (Option.some.inj h).symm⟩
      rintro rfl
      exact notRoot (String.toList_inj.1 hq)
    · refine .inr ⟨by simp, ?_⟩
      simp only [List.concat_eq_append, List.reverse_append, List.reverse_cons, List.reverse_nil,
        List.nil_append, List.singleton_append] at h
      rw [← Option.some.inj h]
      simp

theorem length_parent?_lt {q p : Path} (h : q.parent? = some p) :
    p.toList.length < q.toList.length := by
  obtain ⟨front, last, hq, ⟨rfl, some, rfl⟩ | ⟨-, hp⟩⟩ := exists_parts h
  · have := List.length_pos_iff.2 some
    simpa [hq, root] using this
  · simp [hq, hp]

/-- The parent of a path is a path, and what the path has more is one segment. -/
theorem parent?_step {q p : Path} (valid : q.defect? = none) (h : q.parent? = some p) :
    p.defect? = none ∧ q.segments = p.segments ++ [q.name.toList] := by
  obtain ⟨rest, hrest, full⟩ : ∃ rest, q.toList = '/' :: rest ∧ [] ∉ rest.splitOn '/' := by
    rcases defect?_eq_none.1 valid with rfl | parts
    · cases h
    · exact parts
  have cut : q.toList = (if p = root then "" else p).toList ++ '/' :: q.name.toList := by
    rw [← toList_child, child_name_of_parent? valid h]
  have single : q.name.toList.splitOn '/' = [q.name.toList] :=
    List.splitOn_eq_singleton (slash_not_mem_name q)
  have shown : p.defect? = none ∧ q.name.toList ≠ [] := by
    by_cases top : p = root
    · subst top
      have alone : rest = q.name.toList := by simpa [hrest] using cut
      rw [alone, single] at full
      exact ⟨rfl, fun none => full (by simp [none])⟩
    · have some : p.toList ≠ [] := by
        obtain ⟨front, -, -, ⟨-, -, isRoot⟩ | ⟨some, hp⟩⟩ := exists_parts h
        · exact absurd isRoot top
        · rwa [hp]
      obtain ⟨c, front, hp⟩ := List.exists_cons_of_ne_nil some
      obtain ⟨rfl, behind⟩ : '/' = c ∧ rest = front ++ '/' :: q.name.toList := by
        simpa [hrest, top, hp] using cut
      rw [behind, List.splitOn_append_cons_self, single, List.mem_append, not_or] at full
      exact ⟨defect?_eq_none.2 (.inr ⟨front, hp, full.1⟩), fun none => full.2 (by simp [none])⟩
  refine ⟨shown.1, ?_⟩
  have above : segments (if p = root then "" else p) = p.segments := by
    split
    · next top => rw [top]; rfl
    · rfl
  rw [← above]
  simp [segments, cut, List.splitOn_append_cons_self, single, shown.2]

theorem name_ne_empty {q p : Path} (valid : q.defect? = none) (h : q.parent? = some p) :
    q.name ≠ "" := by
  intro empty
  have last : q.name.toList ∈ q.segments := by simp [(parent?_step valid h).2]
  rw [segments, List.mem_filter, empty] at last
  simp at last

/-- A path and a segment make a path. -/
theorem defect?_child {p : Path} {n : String} (valid : p.defect? = none) (full : n ≠ "")
    (plain : '/' ∉ n.toList) : (p.child n).defect? = none := by
  have pieces : [] ∉ n.toList.splitOn '/' := by
    rw [List.splitOn_eq_singleton plain, List.mem_singleton]
    exact fun empty => full (String.toList_inj.1 empty.symm)
  rw [defect?_eq_none, toList_child]
  by_cases top : p = root
  · exact .inr ⟨n.toList, by simp [top], pieces⟩
  · obtain ⟨rest, text, above⟩ := (defect?_eq_none.1 valid).resolve_left top
    refine .inr ⟨rest ++ '/' :: n.toList, by simp [top, text], ?_⟩
    rw [List.splitOn_append_cons_self, List.mem_append, not_or]
    exact ⟨above, pieces⟩

theorem child_ne_root (p : Path) {n : String} (full : n ≠ "") (plain : '/' ∉ n.toList) :
    p.child n ≠ root := by
  intro top
  have name := name_child p plain
  rw [top] at name
  exact full name.symm

theorem parent?_child {p : Path} {n : String} (valid : p.defect? = none) (full : n ≠ "")
    (plain : '/' ∉ n.toList) : (p.child n).parent? = some p := by
  have path := defect?_child valid full plain
  obtain ⟨p', parent⟩ := exists_parent path (child_ne_root p full plain)
  have whole := child_name_of_parent? path parent
  rw [name_child p plain] at whole
  have inhabited {r : Path} (valid : r.defect? = none) : r ≠ "" := by
    rintro rfl
    cases valid
  rcases parent_unique plain plain whole with rfl | ⟨-, empty⟩ | ⟨empty, -⟩
  · exact parent
  · exact absurd empty (inhabited valid)
  · exact absurd empty (inhabited (parent?_step path parent).1)

/-- What holds of the root, and of every path whose parent it holds of, holds of all paths. -/
theorem induction_on_parent {P : (q : Path) → q.defect? = none → Prop} (top : P root rfl)
    (below : ∀ (q p : Path) (valid : q.defect? = none) (_ : q.parent? = some p)
      (above : p.defect? = none), P p above → P q valid)
    (q : Path) (valid : q.defect? = none) : P q valid := by
  by_cases isRoot : q = root
  · subst isRoot
    exact top
  · obtain ⟨p, hp⟩ := exists_parent valid isRoot
    have shorter := length_parent?_lt hp
    have above := (parent?_step valid hp).1
    exact below q p valid hp above (induction_on_parent top below p above)
termination_by q.toList.length

/-! ### The list of ancestors -/

/-- The path made of `above` and all of the segments. -/
def tip (above : Path) (segments : List (List Char)) : Path :=
  segments.foldl (fun here s => here ++ "/" ++ String.ofList s) above

theorem tip_concat (above : Path) (ss : List (List Char)) (s : List Char) :
    tip above (ss ++ [s]) = tip above ss ++ "/" ++ String.ofList s := by
  simp [tip]

theorem chain_concat (above : Path) (ss : List (List Char)) (s : List Char) :
    chain above (ss ++ [s]) = chain above ss ++ [tip above (ss ++ [s])] := by
  induction ss generalizing above with
  | nil => rfl
  | cons t ss ih => simp [chain, ih, tip]

theorem tip_segments (q : Path) (valid : q.defect? = none) :
    tip "" q.segments = if q = root then "" else q := by
  induction q, valid using induction_on_parent with
  | top => rfl
  | below q p valid hp _ ih =>
    have notRoot : q ≠ root := by
      rintro rfl
      cases hp
    rw [(parent?_step valid hp).2, tip_concat, ih, if_neg notRoot, ← String.toList_inj]
    have whole := child_name_of_parent? valid hp
    rw [← String.toList_inj, toList_child] at whole
    simpa using whole

/-- The path and all that is between it and the root, the outermost first. -/
def lineage (q : Path) : List Path := if q = root then [] else q.ancestors ++ [q]

theorem ancestors_of_parent? {q p : Path} (valid : q.defect? = none) (h : q.parent? = some p) :
    q.ancestors = p.lineage := by
  obtain ⟨above, step⟩ := parent?_step valid h
  rw [ancestors, step, List.dropLast_concat]
  by_cases top : p = root
  · rw [top]
    rfl
  · obtain ⟨r, hr⟩ := exists_parent above top
    have last := (parent?_step above hr).2
    rw [lineage, if_neg top, ancestors, last, List.dropLast_concat, chain_concat, ← last,
      tip_segments p above, if_neg top]

/-! ### Being above -/

/-- `a` is the parent of `p`, or the parent's parent, and so on. -/
def IsAncestor (a p : Path) : Prop := Relation.TransGen (fun q r : Path => q.parent? = some r) p a

theorem isAncestor_of_parent? {p r a : Path} (h : p.parent? = some r) :
    a.IsAncestor p ↔ a = r ∨ a.IsAncestor r := by
  constructor
  · intro above
    obtain ⟨r', hr', rest⟩ := Relation.TransGen.head'_iff.1 above
    obtain rfl : r = r' := Option.some.inj (h.symm.trans hr')
    exact (Relation.reflTransGen_iff_eq_or_transGen.1 rest)
  · rintro (rfl | above)
    · exact .single h
    · exact .head h above

theorem IsAncestor.length_lt {a p : Path} (above : a.IsAncestor p) :
    a.toList.length < p.toList.length := by
  induction above with
  | single h => exact length_parent?_lt h
  | tail _ h ih => exact (length_parent?_lt h).trans ih

end DurableWatch.Path
