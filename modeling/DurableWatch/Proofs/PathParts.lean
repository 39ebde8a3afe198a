import DurableWatch.Error
import Mathlib.Data.List.TakeWhile
import Mathlib.Data.String.Basic
import Mathlib.Tactic

/-!
# Children and parents of paths

A path below the root is its parent's child of its own name. Different names below one parent give
different paths, whatever texts they are.
-/
namespace DurableWatch.Path

theorem child_injective (p : Path) : Function.Injective p.child := by
  intro n m h
  unfold child at h
  split at h
  · exact (String.append_right_inj _).1 h
  · exact (String.append_right_inj _).1 h

@[simp] theorem child_inj {p : Path} {n m : String} : p.child n = p.child m ↔ n = m :=
  (child_injective p).eq_iff

theorem validate_eq_ok {p : Path} : p.validate = .ok () ↔ p.defect? = none := by
  unfold validate
  cases p.defect? <;> simp

/-- A text with a slash, cut at its last one. -/
theorem exists_cut {cs : List Char} (h : cs.reverse.dropWhile (· ≠ '/') ≠ []) :
    ∃ front last, cs = front ++ '/' :: last ∧
      cs.reverse.dropWhile (· ≠ '/') = '/' :: front.reverse ∧
      cs.reverse.takeWhile (· ≠ '/') = last.reverse := by
  obtain ⟨c, rest, hrest⟩ := List.exists_cons_of_ne_nil h
  have hc : c = '/' := by
    have := List.head?_dropWhile_not (· ≠ '/') cs.reverse
    rw [hrest] at this
    simpa using this
  have parts := List.takeWhile_append_dropWhile (p := (· ≠ '/')) (l := cs.reverse)
  refine ⟨rest.reverse, (cs.reverse.takeWhile (· ≠ '/')).reverse, ?_, ?_, ?_⟩
  · have := congrArg List.reverse parts
    rw [hrest, hc] at this
    simpa using this.symm
  · rw [hrest, hc, List.reverse_reverse]
  · rw [List.reverse_reverse]

/-- Paths do not start with two slashes. -/
theorem not_double_slash {q : Path} (valid : q.defect? = none) (last : List Char) :
    q.toList ≠ '/' :: '/' :: last := by
  intro h
  have segment : ('/' :: last).splitOn '/' = [] :: last.splitOn '/' := by
    simp [List.splitOn_cons_eq_if_modifyHead]
  have hdefect : q.defect? =
      if ('/' :: last).getLast? = some '/' then some .trailingSlash else some .emptySegment := by
    simp [defect?, defectOfChars, h, segment]
  rw [hdefect] at valid
  split at valid <;> simp at valid

theorem child_name_of_parent? {p q : Path} (valid : q.defect? = none) (h : q.parent? = some p) :
    p.child q.name = q := by
  unfold parent? at h
  split at h
  · simp at h
  · next notRoot =>
    have cut : q.toList.reverse.dropWhile (· ≠ '/') ≠ [] := by
      intro hnil
      rw [hnil] at h
      simp at h
    obtain ⟨front, last, hq, hdrop, htake⟩ := exists_cut cut
    have hname : q.name = String.ofList last := by simp only [name, htake, List.reverse_reverse]
    rw [hdrop] at h
    rcases List.eq_nil_or_concat front with rfl | ⟨front, c, rfl⟩
    · obtain rfl : root = p := by simpa using h
      rw [hname, child, if_pos rfl, ← String.toList_inj, hq]
      simp
    · have hp : p = String.ofList (front.concat c) := by
        simp only [List.concat_eq_append, List.reverse_append, List.reverse_cons, List.reverse_nil,
          List.nil_append, List.singleton_append] at h
        simpa using (Option.some.inj h).symm
      have hroot : p ≠ root := by
        intro hr
        rw [hp, ← String.toList_inj, String.toList_ofList] at hr
        have hfront : front.concat c = ['/'] := by simpa [root] using hr
        refine not_double_slash valid last ?_
        rw [hq, hfront]
        rfl
      rw [hname, child, if_neg hroot, hp, ← String.toList_inj, hq]
      simp

/-- Every path but the root has a parent. -/
theorem exists_parent {q : Path} (valid : q.defect? = none) (below : q ≠ root) :
    ∃ p, q.parent? = some p := by
  have slash : '/' ∈ q.toList := by
    unfold defect? at valid
    cases h : q.toList with
    | nil => simp [h, defectOfChars] at valid
    | cons c rest =>
      by_cases hc : c = '/'
      · simp [hc]
      · simp [h, defectOfChars, hc] at valid
  have cut : q.toList.reverse.dropWhile (· ≠ '/') ≠ [] := by
    intro hnil
    have := List.dropWhile_eq_nil_iff.1 hnil '/' (List.mem_reverse.2 slash)
    simp at this
  unfold parent?
  rw [if_neg below]
  split
  · next h => exact absurd h cut
  · exact ⟨_, rfl⟩
  · exact ⟨_, rfl⟩

theorem toList_child (p : Path) (n : String) :
    (p.child n).toList = (if p = root then "" else p).toList ++ '/' :: n.toList := by
  unfold child
  split <;> simp

/-- The children of a node are in the order of their names. -/
theorem child_lt_child {p : Path} {n m : String} : p.child n < p.child m ↔ n < m := by
  rw [String.lt_iff_toList_lt, String.lt_iff_toList_lt, toList_child, toList_child]
  induction (if p = root then "" else p).toList with
  | nil => simp
  | cons c front ih => simpa [List.cons_lt_cons_iff] using ih

theorem child_eq_append (p : Path) (n : String) :
    p.child n = (if p = root then "" else p) ++ "/" ++ n := by
  unfold child
  split <;> simp

/-- Whatever stands in front, what stands behind the last slash is the name. -/
theorem name_append (front : String) {n : String} (plain : '/' ∉ n.toList) :
    name (front ++ "/" ++ n) = n := by
  have behind : (front ++ "/" ++ n).toList.reverse.takeWhile (· ≠ '/') = n.toList.reverse := by
    rw [String.toList_append, List.reverse_append, List.takeWhile_append_of_pos]
    · simp
    · intro c hc
      have other : c ≠ '/' := fun same => plain (by rw [← same]; exact List.mem_reverse.1 hc)
      simpa using other
  rw [name, behind, List.reverse_reverse, String.ofList_toList]

theorem name_child (p : Path) {n : String} (plain : '/' ∉ n.toList) : (p.child n).name = n := by
  rw [child_eq_append, name_append _ plain]

/-- A node is the child of one node only, but that the root also goes by the empty text. -/
theorem parent_unique {p q : Path} {n m : String} (hn : '/' ∉ n.toList) (hm : '/' ∉ m.toList)
    (same : p.child n = q.child m) : p = q ∨ p = root ∧ q = "" ∨ p = "" ∧ q = root := by
  have names : n = m := by rw [← name_child p hn, same, name_child q hm]
  subst names
  have fronts := congrArg String.toList same
  rw [toList_child, toList_child, List.append_left_inj, String.toList_inj] at fronts
  split at fronts
  · next hp =>
    split at fronts
    · next hq => exact .inl (hp.trans hq.symm)
    · exact .inr (.inl ⟨hp, fronts.symm⟩)
  · split at fronts
    · next hq => exact .inr (.inr ⟨fronts, hq⟩)
    · exact .inl fronts

end DurableWatch.Path
