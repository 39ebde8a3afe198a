import DurableWatch.Proofs.Ancestry

/-!
# The grammar of paths

A path is the root, or a slash and a segment and so on to the last segment, and it can be read in
one way only. A text that is no path breaks one of four rules, and is refused with the message of
the first rule that it breaks.
-/
namespace DurableWatch

/-- The place of the rule in the order in which rules are checked. -/
def PathDefect.rank : PathDefect → Nat
  | .empty => 0
  | .relative => 1
  | .trailingSlash => 2
  | .emptySegment => 3

namespace Path

/-- The text is a slash and a segment and so on, through all of these segments. -/
structure SpelledBy (p : Path) (segments : List String) : Prop where
  some : segments ≠ []
  full : "" ∉ segments
  plain : ∀ s ∈ segments, '/' ∉ s.toList
  whole : p = String.join (segments.map ("/" ++ ·))

/-- The text breaks the rule. The root may end with its slash. -/
def Breaks (p : Path) : PathDefect → Prop
  | .empty => p = ""
  | .relative => ¬∃ rest, p = "/" ++ rest
  | .trailingSlash => p ≠ root ∧ ∃ front, p = front ++ "/"
  | .emptySegment => ∃ front back, p = front ++ "//" ++ back

/-- The rule is broken, and those that are checked before it are kept. -/
def BreaksFirst (p : Path) (d : PathDefect) : Prop :=
  p.Breaks d ∧ ∀ d' : PathDefect, d'.rank < d.rank → ¬p.Breaks d'

/-! ### Pieces between slashes -/

theorem slash_not_mem_piece {cs piece : List Char} (h : piece ∈ cs.splitOn '/') : '/' ∉ piece := by
  induction cs generalizing piece with
  | nil =>
    rw [List.splitOn_nil, List.mem_singleton] at h
    simp [h]
  | cons c cs ih =>
    obtain ⟨first, rest, pieces⟩ := List.exists_cons_of_ne_nil (List.splitOn_ne_nil '/' cs)
    rw [pieces] at ih
    obtain ⟨hfirst, hrest⟩ := List.forall_mem_cons.1 fun _ => ih
    rw [List.splitOn_cons_eq_if_modifyHead, pieces] at h
    split at h
    · rcases List.mem_cons.1 h with rfl | h
      · simp
      · exact ih h
    · next other =>
      rcases List.mem_cons.1 h with rfl | h
      · rw [List.mem_cons, not_or]
        exact ⟨fun same => other (beq_iff_eq.2 same.symm), hfirst⟩
      · exact hrest piece h

/-- To put a slash before every piece undoes the cut. -/
theorem flatMap_splitOn (cs : List Char) :
    (cs.splitOn '/').flatMap ('/' :: ·) = '/' :: cs := by
  induction cs with
  | nil => rfl
  | cons c cs ih =>
    rw [List.splitOn_cons_eq_if_modifyHead]
    split
    · next slash => rw [List.flatMap_cons, ih, beq_iff_eq.1 slash]; rfl
    · obtain ⟨first, rest, pieces⟩ := List.exists_cons_of_ne_nil (List.splitOn_ne_nil '/' cs)
      rw [pieces] at ih ⊢
      simpa using ih

theorem splitOn_of_flatMap {cs : List Char} {pieces : List (List Char)} (some : pieces ≠ [])
    (plain : ∀ s ∈ pieces, '/' ∉ s) (h : pieces.flatMap ('/' :: ·) = '/' :: cs) :
    cs.splitOn '/' = pieces := by
  have joined : cs = ['/'].intercalate pieces := by
    have := flatMap_splitOn (['/'].intercalate pieces)
    rw [List.splitOn_intercalate '/' plain some, h] at this
    exact (List.cons.inj this).2
  rw [joined, List.splitOn_intercalate '/' plain some]

/-- An empty piece is the end of a text that ends with a slash, or stands between two slashes. -/
theorem nil_mem_splitOn {cs : List Char} : [] ∈ cs.splitOn '/' ↔
    (∃ front, '/' :: cs = front ++ ['/']) ∨
      ∃ front back, '/' :: cs = front ++ '/' :: '/' :: back := by
  constructor
  · intro h
    obtain ⟨before, behind, split⟩ := List.append_of_mem h
    have whole := flatMap_splitOn cs
    rw [split, List.flatMap_append, List.flatMap_cons] at whole
    cases behind with
    | nil => exact .inl ⟨_, whole.symm⟩
    | cons s ss => exact .inr ⟨_, s ++ ss.flatMap ('/' :: ·), whole.symm⟩
  · have behind {front back : List Char} (h : '/' :: cs = front ++ '/' :: back)
        (empty : [] ∈ back.splitOn '/') : [] ∈ cs.splitOn '/' := by
      cases front with
      | nil => rwa [(List.cons.inj h).2]
      | cons c front =>
        obtain rfl : cs = front ++ '/' :: back := (List.cons.inj h).2
        rw [List.splitOn_append_cons_self]
        exact List.mem_append_right _ empty
    rintro (⟨front, h⟩ | ⟨front, back, h⟩)
    · exact behind h (by simp)
    · exact behind h (by simp [List.splitOn_cons_eq_if_modifyHead])

/-! ### The rules -/

theorem toList_surjective : Function.Surjective String.toList :=
  fun cs => ⟨String.ofList cs, String.toList_ofList⟩

theorem breaks_empty {p : Path} : p.Breaks .empty ↔ p.toList = [] := by
  simp [Breaks]

theorem breaks_relative {p : Path} : p.Breaks .relative ↔ ¬∃ rest, p.toList = '/' :: rest := by
  simp [Breaks, ← String.toList_inj, toList_surjective.exists]

theorem breaks_trailingSlash {p : Path} :
    p.Breaks .trailingSlash ↔ p.toList ≠ ['/'] ∧ ∃ front, p.toList = front ++ ['/'] := by
  simp [Breaks, ← String.toList_inj, toList_surjective.exists, root]

theorem breaks_emptySegment {p : Path} :
    p.Breaks .emptySegment ↔ ∃ front back, p.toList = front ++ '/' :: '/' :: back := by
  simp [Breaks, ← String.toList_inj, toList_surjective.exists]

open Classical in
/-- The rules are tried one after the other. -/
theorem defect?_eq (p : Path) : p.defect? =
    if p.Breaks .empty then some .empty
    else if p.Breaks .relative then some .relative
    else if p.Breaks .trailingSlash then some .trailingSlash
    else if p.Breaks .emptySegment then some .emptySegment
    else none := by
  rw [defect?, breaks_empty, breaks_relative, breaks_trailingSlash, breaks_emptySegment]
  cases p.toList with
  | nil => simp [defectOfChars]
  | cons c rest =>
    by_cases slash : c = '/'
    · subst slash
      by_cases bare : rest = []
      · subst bare
        have single : ¬∃ front back, ['/'] = front ++ '/' :: '/' :: back := by
          rintro ⟨front, back, h⟩
          have := congrArg List.length h
          simp only [List.length_cons, List.length_nil, List.length_append] at this
          omega
        simp [defectOfChars, single]
      · have last : (∃ front, '/' :: rest = front ++ ['/']) ↔ rest.getLast? = some '/' := by
          rw [← List.getLast?_cons_of_ne_nil bare, List.getLast?_eq_some_iff]
        have pieces : (rest.splitOn '/').any List.isEmpty = true ↔ [] ∈ rest.splitOn '/' := by simp
        simp only [defectOfChars, bare, last, pieces, nil_mem_splitOn]
        by_cases ends : rest.getLast? = some '/' <;> simp [ends, bare]
    · simp [defectOfChars, slash]

theorem forall_defect {P : PathDefect → Prop} : (∀ d, P d) ↔
    P .empty ∧ P .relative ∧ P .trailingSlash ∧ P .emptySegment :=
  ⟨fun h => ⟨h _, h _, h _, h _⟩, fun h d => by cases d <;> simp [h]⟩

theorem defect?_eq_some {p : Path} {d : PathDefect} : p.defect? = some d ↔ p.BreaksFirst d := by
  rw [defect?_eq]
  cases d <;> simp [BreaksFirst, forall_defect, PathDefect.rank] <;> split_ifs <;> simp_all

/-! ### The segments -/

theorem toList_join_slashed (segments : List String) :
    (String.join (segments.map ("/" ++ ·))).toList =
      (segments.map String.toList).flatMap ('/' :: ·) := by
  simp [List.flatMap_map]

theorem nil_mem_map_toList {segments : List String} :
    [] ∈ segments.map String.toList ↔ "" ∈ segments := by
  simp

/-- The segments are what the slashes leave when the first of them is put aside. -/
theorem spelledBy_iff {p : Path} {segments : List String} : p.SpelledBy segments ↔
    ∃ rest, p.toList = '/' :: rest ∧ [] ∉ rest.splitOn '/' ∧
      segments.map String.toList = rest.splitOn '/' := by
  constructor
  · rintro ⟨some, full, plain, rfl⟩
    obtain ⟨s, ss, rfl⟩ := List.exists_cons_of_ne_nil some
    let rest := s.toList ++ (ss.map String.toList).flatMap ('/' :: ·)
    have pieces : rest.splitOn '/' = (s :: ss).map String.toList :=
      splitOn_of_flatMap (by simp) (by simpa using plain) rfl
    refine ⟨rest, toList_join_slashed _, ?_, pieces.symm⟩
    rwa [pieces, nil_mem_map_toList]
  · rintro ⟨rest, text, full, pieces⟩
    refine ⟨?_, ?_, fun s hs => ?_, ?_⟩
    · rintro rfl
      exact List.splitOn_ne_nil _ _ pieces.symm
    · rwa [← pieces, nil_mem_map_toList] at full
    · exact slash_not_mem_piece (pieces ▸ List.mem_map_of_mem hs)
    · rw [← String.toList_inj, toList_join_slashed, pieces, flatMap_splitOn, text]

theorem exists_spelledBy {p : Path} : (∃ segments, p.SpelledBy segments) ↔
    ∃ rest, p.toList = '/' :: rest ∧ [] ∉ rest.splitOn '/' := by
  constructor
  · rintro ⟨segments, spelled⟩
    obtain ⟨rest, text, full, -⟩ := spelledBy_iff.1 spelled
    exact ⟨rest, text, full⟩
  · rintro ⟨rest, text, full⟩
    refine ⟨(rest.splitOn '/').map String.ofList, spelledBy_iff.2 ⟨rest, text, full, ?_⟩⟩
    simp

theorem spelledBy_unique (p : Path) : {segments | p.SpelledBy segments}.Subsingleton := by
  intro segments spelled segments' spelled'
  obtain ⟨rest, text, -, pieces⟩ := spelledBy_iff.1 spelled
  obtain ⟨rest', text', -, pieces'⟩ := spelledBy_iff.1 spelled'
  obtain rfl : rest = rest' := (List.cons.inj (text.symm.trans text')).2
  exact List.map_injective_iff.2 (fun _ _ same => String.toList_inj.1 same)
    (pieces.trans pieces'.symm)

theorem validate_eq_error {p : Path} {e : Error} : p.validate = .error e ↔
    ∃ d, p.defect? = some d ∧ e = .invalidArgument (d.message p) := by
  unfold validate
  cases p.defect? <;> simp [eq_comm]

/-- A text is accepted if it is the root or spelled by segments, which are then the only ones that
spell it; else it is refused, with the message of the first rule that it breaks. -/
theorem validate_grammar (p : Path) :
    (p.validate = .ok () ↔ p = root ∨ ∃ segments, p.SpelledBy segments) ∧
    {segments | p.SpelledBy segments}.Subsingleton ∧
    ∀ e, p.validate = .error e ↔
      ∃ d : PathDefect, p.BreaksFirst d ∧ e = .invalidArgument (d.message p) := by
  refine ⟨?_, spelledBy_unique p, fun e => ?_⟩
  · rw [validate_eq_ok, defect?_eq_none, exists_spelledBy]
  · simp only [validate_eq_error, defect?_eq_some]

/-- Of two rules that are broken the first is told. -/
example : Path.validate "//" = .error (.invalidArgument "path // must not end with '/'") := by
  decide

end Path

end DurableWatch
