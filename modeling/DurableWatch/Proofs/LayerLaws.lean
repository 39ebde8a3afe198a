import DurableWatch.Config.Tree
import Mathlib.Data.List.Basic
import Mathlib.Tactic

/-!
# What is expected of a library of settings

A source has values for places. A library lays the sources over each other value by value: the last
one for a place wins. This is written down here for one source that is laid over what is there, and
then it holds of any number of sources.
-/
namespace DurableWatch.Config

/-- The place that a value is for, and the value. -/
abbrev Leaf (V : Type) := List KeyStep × V

section Leaf

variable {V : Type}

/-- The last value for a place. -/
def latest (place : List KeyStep) (ls : List (Leaf V)) : Option V := ls.reverse.lookup place

variable (isTable : V → Prop)

/-- Nothing is for places below this one, and no table is for the place itself. -/
def Single (place : List KeyStep) (ls : List (Leaf V)) : Prop :=
  ∀ l ∈ ls, place <+: l.1 → l.1 = place ∧ ¬isTable l.2

/-- The leaf is for an entry of a table, or it is a table itself. -/
def Tabular (l : Leaf V) : Prop :=
  (∃ key below, l.1 = .field key :: below) ∨ l.1 = [] ∧ isTable l.2

/-- The section is a table, if it is there at all. -/
def Sectioned (header : String) (ls : List (Leaf V)) : Prop :=
  ∀ l ∈ ls, ∀ rest, l.1 = .field header :: rest → Tabular isTable (rest, l.2)

variable [DecidablePred isTable]

instance (place : List KeyStep) (ls : List (Leaf V)) : Decidable (Single isTable place ls) :=
  inferInstanceAs (Decidable (∀ l ∈ ls, place <+: l.1 → l.1 = place ∧ ¬isTable l.2))

instance : DecidablePred (Tabular isTable)
  | (.field key :: below, _) => .isTrue (.inl ⟨key, below, rfl⟩)
  | (.item _ :: _, _) => .isFalse (by simp [Tabular])
  | ([], v) => decidable_of_iff (isTable v) (by simp [Tabular])

instance (header : String) (ls : List (Leaf V)) : Decidable (Sectioned isTable header ls) :=
  decidable_of_iff
    (∀ l ∈ ls, l.1.head? = some (.field header) → Tabular isTable (l.1.tail, l.2)) <| by
    refine forall₂_congr fun l _ => ⟨fun tabular rest place => ?_, fun tabular first => ?_⟩
    · simpa [place] using tabular
    · exact tabular _ (List.eq_cons_of_mem_head? first)

end Leaf

/-! ### The library -/

namespace Setting

def known : List Setting := [.workerPoolSize, .failFast]

variable (s : Setting)

def place : List KeyStep := [.field s.header, .field s.key]

/-- The variable for the setting, in any case. -/
def variableName : String :=
  String.intercalate variableRule.separator [variableRule.start, s.header, s.key]

end Setting

/-- The scalar is no larger than what can be written. -/
def Scalar.Fits : Scalar → Prop
  | .integer i => i ≤ 2 ^ 63 - 1
  | _ => True

/-- What can be seen of the sources and values of a library. -/
structure Library.View (lib : Library) where
  IsTable : lib.Value → Prop
  /-- What is under a key in a table. -/
  entry? : lib.Value → String → Option lib.Value
  /-- The values in a source. A table without entries is a value itself. -/
  leaves : lib.Source → List (Leaf lib.Value)
  /-- What a scalar is written as. -/
  scalar : Scalar → lib.Value
  /-- What the text of a variable is read as. -/
  parsed : String → lib.Value
  /-- What a variable sets, if it is a setting. -/
  assigned? : VariableRule → String × String → Option (Leaf lib.Value)

namespace Library.View

variable {lib : Library} (view : lib.View)

def setting? (root : lib.Value) (header key : String) : Option lib.Value :=
  (view.entry? root header).bind fun sub => view.entry? sub key

/-- How a library of settings is documented to behave. -/
structure Lawful : Prop where
  /-- A source can be laid over what is there. Tables are merged: its last value for a place is
  there afterwards, and what was there if it has none. -/
  lay : ∀ root source, ∃ root', lib.lay root source = .ok root' ∧ ∀ header key,
    Sectioned view.IsTable header (view.leaves source) →
    Single view.IsTable [.field header, .field key] (view.leaves source) →
    view.setting? root' header key =
      (latest [.field header, .field key] (view.leaves source)).or (view.setting? root header key)
  /-- Scalars that fit are written, each to its place. -/
  ofSettings : ∀ settings, (∀ e ∈ settings, e.1 ∈ Setting.known ∧ e.2.Fits) →
    ∃ source, lib.ofSettings settings = .ok source ∧
      view.leaves source = settings.map fun e => (e.1.place, view.scalar e.2)
  scalar : ∀ v, ¬view.IsTable (view.scalar v)
  /-- A number that was written is read back. -/
  size : ∀ n : Nat, n ≤ 2 ^ 63 - 1 → lib.size (view.scalar (.integer n)) = .ok n
  truth : ∀ b, lib.truth (view.scalar (.boolean b)) = .ok b
  /-- The source of the environment has what its variables set. -/
  ofVariables : ∀ rule assignments, view.leaves (lib.ofVariables rule assignments) =
    assignments.filterMap (view.assigned? rule)
  /-- Empty variables set nothing if they are skipped. -/
  skipped : ∀ rule name, rule.skipsEmpty = true → view.assigned? rule (name, "") = none
  /-- The variable of a setting sets it. -/
  named : ∀ s ∈ Setting.known, ∀ name value, Text.lower name = Text.lower s.variableName →
    value ≠ "" → view.assigned? variableRule (name, value) = some (s.place, view.parsed value)
  /-- Variables with another start make no difference. -/
  foreign : ∀ rule name value assignments,
    ¬(Text.lower (rule.start ++ rule.separator)).toList <+: (Text.lower name).toList →
    lib.ofVariables rule ((name, value) :: assignments) = lib.ofVariables rule assignments
  /-- A setting that is there is converted. -/
  readSetting : ∀ {α : Type} root s (convert : lib.Value → Except ConfigError α) default v x,
    view.setting? root s.header s.key = some v → convert v = .ok x →
    lib.readSetting root s convert default = .ok x

end Library.View

/-! ### Values for places -/

section Leaf

variable {V : Type} {isTable : V → Prop} {place : List KeyStep} {header : String}
  {ls ls' : List (Leaf V)} {v : V}

theorem lookup_cons_ite {α β : Type} [BEq α] [LawfulBEq α] [DecidableEq α] (k j : α) (v : β)
    (es : List (α × β)) :
    ((j, v) :: es).lookup k = if k = j then some v else es.lookup k := by
  by_cases h : k = j
  · simp [h]
  · simp [List.lookup_cons, beq_false_of_ne h, h]

@[simp] theorem latest_nil : latest place ([] : List (Leaf V)) = none := by simp [latest]

theorem latest_append : latest place (ls ++ ls') = (latest place ls').or (latest place ls) := by
  simp [latest, List.lookup_append]

@[simp] theorem latest_cons (l : Leaf V) (ls : List (Leaf V)) : latest place (l :: ls) =
    (latest place ls).or (if place = l.1 then some l.2 else none) := by
  rw [← List.singleton_append, latest_append]
  exact congrArg _ (lookup_cons_ite place l.1 l.2 [])

theorem latest_eq_none (absent : ∀ l ∈ ls, l.1 ≠ place) : latest place ls = none := by
  simp only [latest, List.lookup_eq_none_iff, List.mem_reverse]
  intro l hl
  simpa using (absent l hl).symm

theorem mem_of_latest (found : latest place ls = some v) : (place, v) ∈ ls := by
  obtain ⟨l₁, l₂, whole, -⟩ := List.lookup_eq_some_iff.1 found
  exact List.mem_reverse.1 (by simp [whole])

theorem latest_isSome (there : (place, v) ∈ ls) : ∃ v', latest place ls = some v' := by
  rw [← Option.ne_none_iff_exists', latest, Ne, List.lookup_eq_none_iff]
  intro absent
  simpa using absent _ (List.mem_reverse.2 there)

theorem Single.mono (single : Single isTable place ls) (fewer : ∀ l ∈ ls', l ∈ ls) :
    Single isTable place ls' :=
  fun l hl => single l (fewer l hl)

theorem Sectioned.mono (sectioned : Sectioned isTable header ls) (fewer : ∀ l ∈ ls', l ∈ ls) :
    Sectioned isTable header ls' :=
  fun l hl => sectioned l (fewer l hl)

end Leaf

/-- Sources that are laid over each other leave the last value for each setting. -/
theorem Library.View.Lawful.lay_all {lib : Library} {view : lib.View} (lawful : view.Lawful)
    (sources : List lib.Source) (root : lib.Value) :
    ∃ root', sources.foldlM lib.lay root = .ok root' ∧ ∀ header key,
      (∀ source ∈ sources, Sectioned view.IsTable header (view.leaves source)) →
      (∀ source ∈ sources, Single view.IsTable [.field header, .field key] (view.leaves source)) →
      view.setting? root' header key =
        (latest [.field header, .field key] (sources.flatMap view.leaves)).or
          (view.setting? root header key) := by
  induction sources generalizing root with
  | nil => exact ⟨root, rfl, fun header key _ _ => by simp⟩
  | cons source sources ih =>
    obtain ⟨root₁, laid, first⟩ := lawful.lay root source
    obtain ⟨root', rest, last⟩ := ih root₁
    have all : (source :: sources).foldlM lib.lay root = .ok root' := by
      simpa [List.foldlM_cons, laid, bind, Except.bind] using rest
    refine ⟨root', all, fun header key sectioned single => ?_⟩
    obtain ⟨sectioned, sectioned'⟩ := List.forall_mem_cons.1 sectioned
    obtain ⟨single, single'⟩ := List.forall_mem_cons.1 single
    rw [last header key sectioned' single', first header key sectioned single, List.flatMap_cons,
      latest_append, Option.or_assoc]

/-! ### What is loaded -/

theorem settings_fit {base : Config} (fits : base.workerPoolSize ≤ 2 ^ 63 - 1) :
    ∀ e ∈ base.settings, e.1 ∈ Setting.known ∧ e.2.Fits := by
  have size : (base.workerPoolSize : Int) ≤ 2 ^ 63 - 1 := by omega
  simpa [settings, Setting.known, Scalar.Fits] using size

theorem Library.withOverride_of_read (lib : Library) {base : Config} {system : System}
    {name : String} {own file : lib.Source} (wrote : lib.ofSettings base.settings = .ok own)
    (read : lib.readFile system.toFolder name = .ok file) : lib.withOverride base system name =
      ([own, file, lib.ofVariables variableRule system.assignments].foldlM lib.lay lib.blank).bind
        fun root => failed (lib.toConfig root) := by
  simp only [withOverride, layered, wrote, read]
  rfl

end DurableWatch.Config
