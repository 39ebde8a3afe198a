import DurableWatch.Proofs.Overlay

/-!
# A library that leaves out what has no place

The standard library crashes on an index for which no list has a place. The lenient one leaves out
what has such an index, and behaves as a library is expected to. Where there is no such index, both
load the same.
-/
namespace DurableWatch.Config

/-- No index of the key is one for which no list has a place. -/
def Placeable (e : String × Tree) : Prop := Tree.Indexable (keyPath e.1).2

instance : DecidablePred Placeable := fun _ => inferInstanceAs (Decidable (Tree.Indexable _))

def placeable (source : List (String × Tree)) :
    { source : List (String × Tree) // ∀ e ∈ source, Placeable e } :=
  ⟨source.filter (Placeable ·), by simp⟩

namespace Library

def lenient : Library where
  Source := { source : List (String × Tree) // ∀ e ∈ source, Placeable e }
  Value := Tree
  ofSettings settings := (writeSettings settings).map placeable
  readFile folder name := (Config.readFile folder name).map placeable
  ofVariables rule assignments := placeable (environment rule assignments)
  blank := Tree.emptyTable
  lay t source := Library.standard.lay t source.1
  size := sizeOf
  truth := truthOf
  readSetting := Config.readSetting

end Library

/-- The entry as a leaf, if its value is no table. -/
def leafOf (e : String × Tree) : Leaf Tree := (placeOf (keyPath e.1).1 (keyPath e.1).2, e.2)

/-- The value of a variable, with the place that its name leads to. -/
def variableLeaf? (rule : VariableRule) (assigned : String × String) : Option (Leaf Tree) :=
  ((settingOf? rule assigned).filter (Placeable ·)).map leafOf

def parsedText (value : String) : Tree := .leaf (parseScalar value) (some "the environment")

def lenientView : Library.lenient.View where
  IsTable := Tree.IsTable
  entry? t key := t.field? key
  leaves source := sourceLeaves source.1
  scalar v := .leaf v none
  parsed := parsedText
  assigned? := variableLeaf?

instance : DecidablePred lenientView.IsTable := inferInstanceAs (DecidablePred Tree.IsTable)

theorem placeable_val {source : List (String × Tree)} (all : ∀ e ∈ source, Placeable e) :
    (placeable source).1 = source :=
  List.filter_eq_self.2 (by simpa using all)

/-! ### Sources -/

theorem keyPath_known : ∀ s ∈ Setting.known, keyPath s.header = (s.header, []) ∧
    placeOf s.header [] ++ [.field (Text.lower s.key)] = s.place := by
  decide +kernel

theorem writeScalar_of_fits {v : Scalar} (fits : v.Fits) :
    writeScalar v = .ok (.leaf v none) := by
  have small : Decimal.twoTo 63 = 2 ^ 63 := rfl
  cases v with
  | integer i =>
    have : ¬(Decimal.twoTo 63 : Int) ≤ i := by simp only [Scalar.Fits] at fits; omega
    simp [writeScalar, this]
  | _ => rfl

/-- Each setting in a table of its own. -/
def written (settings : List (Setting × Scalar)) : List (String × Tree) :=
  settings.map fun e => (e.1.header, .table [(e.1.key, .leaf e.2 none)] none)

theorem writeSettings_of_fits {settings : List (Setting × Scalar)}
    (fits : ∀ e ∈ settings, e.2.Fits) : writeSettings settings = .ok (written settings) := by
  induction settings with
  | nil => rfl
  | cons e settings ih =>
    obtain ⟨here, rest⟩ := List.forall_mem_cons.1 fits
    rw [writeSettings, List.mapM_cons, ← writeSettings, ih rest]
    simp only [writeScalar_of_fits here]
    rfl

theorem written_placeable {settings : List (Setting × Scalar)}
    (known : ∀ e ∈ settings, e.1 ∈ Setting.known) : ∀ e ∈ written settings, Placeable e := by
  simp only [written, List.forall_mem_map]
  intro e he
  simp [Placeable, keyPath_known e.1 (known e he), Tree.Indexable]

theorem sourceLeaves_written {settings : List (Setting × Scalar)}
    (known : ∀ e ∈ settings, e.1 ∈ Setting.known) :
    sourceLeaves (written settings) = settings.map fun e => (e.1.place, .leaf e.2 none) := by
  induction settings with
  | nil => rfl
  | cons e settings ih =>
    obtain ⟨here, rest⟩ := List.forall_mem_cons.1 known
    obtain ⟨path, place⟩ := keyPath_known e.1 here
    rw [sourceLeaves, written] at ih ⊢
    simp [ih rest, path, Tree.leaves, entryLeaves, Leaf.under, ← place]

theorem sourceLeaves_of_plain {source : List (String × Tree)}
    (plain : ∀ e ∈ source, ¬e.2.IsTable) : sourceLeaves source = source.map leafOf := by
  induction source with
  | nil => rfl
  | cons e source ih =>
    obtain ⟨here, rest⟩ := List.forall_mem_cons.1 plain
    rw [sourceLeaves] at ih ⊢
    simp [ih rest, Tree.leaves_of_not_isTable here, Leaf.under, leafOf]

theorem settingOf?_not_isTable {rule : VariableRule} {a : String × String} {e : String × Tree}
    (setting : settingOf? rule a = some e) : ¬e.2.IsTable := by
  simp only [settingOf?, Option.ite_none_left_eq_some, Option.some.injEq] at setting
  rw [← setting.2]
  exact id

theorem leaves_environment (rule : VariableRule) (assignments : List (String × String)) :
    sourceLeaves (placeable (environment rule assignments)).1 =
      assignments.filterMap (variableLeaf? rule) := by
  rw [sourceLeaves_of_plain]
  · simp only [placeable, environment, List.filter_filterMap, List.map_filterMap]
    rfl
  · intro e he
    obtain ⟨a, -, setting⟩ := List.mem_filterMap.1 (List.mem_of_mem_filter he)
    exact settingOf?_not_isTable setting

/-! ### Variables -/

/-- What is behind the start of a name, with dots for separators. -/
theorem variable_known : ∀ s ∈ Setting.known,
    let name := (Text.lower s.variableName).toList
    let start := (Text.lower (variableRule.start ++ variableRule.separator)).toList
    let key := String.ofList (dotted variableRule.separator.toList 0 (name.drop start.length))
    start.isPrefixOf name = true ∧ placeOf (keyPath key).1 (keyPath key).2 = s.place ∧
      Tree.Indexable (keyPath key).2 := by
  decide +kernel

theorem variableLeaf?_named {s : Setting} (known : s ∈ Setting.known) {name value : String}
    (named : Text.lower name = Text.lower s.variableName) (filled : value ≠ "") :
    variableLeaf? variableRule (name, value) = some (s.place, parsedText value) := by
  obtain ⟨start, place, indexable⟩ := variable_known s known
  have setting : settingOf? variableRule (name, value) = some (String.ofList
      (dotted variableRule.separator.toList 0 ((Text.lower s.variableName).toList.drop
        (Text.lower (variableRule.start ++ variableRule.separator)).toList.length)),
      parsedText value) := by
    have parses : variableRule.parses = true := rfl
    simp [settingOf?, named, List.isPrefixOf_iff_prefix.1 start, filled, parses, parsedText]
  simp [variableLeaf?, setting, Placeable, indexable, leafOf, place]

theorem settingOf?_foreign {rule : VariableRule} {name : String} (value : String)
    (other : ¬(Text.lower (rule.start ++ rule.separator)).toList <+: (Text.lower name).toList) :
    settingOf? rule (name, value) = none := by
  simp [settingOf?, other]

/-! ### The laws -/

theorem lenientView_lawful : lenientView.Lawful where
  lay root source := by
    obtain ⟨root', laid⟩ := Tree.overlay_isOk source.2 root
    refine ⟨root', ?_, fun header key sectioned single =>
      Tree.setting?_overlay sectioned single laid⟩
    simp [Library.lenient, Library.standard, laid, Except.mapError]
  ofSettings settings fits := by
    have wrote := writeSettings_of_fits fun e he => (fits e he).2
    have known : ∀ e ∈ settings, e.1 ∈ Setting.known := fun e he => (fits e he).1
    have kept := placeable_val (written_placeable known)
    exact ⟨placeable (written settings), congrArg (Except.map placeable) wrote,
      (congrArg sourceLeaves kept).trans (sourceLeaves_written known)⟩
  scalar v := id
  size n _ := by simp [Library.lenient, lenientView, sizeOf, sizeOfScalar]
  truth b := rfl
  ofVariables := leaves_environment
  skipped rule name skips := by
    have none : settingOf? rule (name, "") = none := by simp [settingOf?, skips]
    exact congrArg (fun e? => (Option.filter _ e?).map leafOf) none
  named s known name value named filled := variableLeaf?_named known named filled
  foreign rule name value assignments other := by
    simp [Library.lenient, environment, settingOf?_foreign value other]
  readSetting root s convert default v x found converted := by
    obtain ⟨sub, hsub, hv⟩ := Option.bind_eq_some_iff.1 found
    cases sub with
    | table entries origin =>
      have hsub : Tree.field? s.header root = some (.table entries origin) := hsub
      have entry : entries.lookup s.key = some v := hv
      simp [Library.lenient, Config.readSetting, hsub, entry, converted, atKey]
    | _ => cases hv

/-! ### Without such an index -/

theorem lay_lenient (sources : List Library.lenient.Source) (root : Tree) :
    sources.foldlM Library.lenient.lay root =
      (sources.map Subtype.val).foldlM Library.standard.lay root := by
  induction sources generalizing root with
  | nil => rfl
  | cons source sources ih =>
    exact congrArg (Except.bind (Library.standard.lay root source.1)) (funext ih)

theorem lenient_readFile {folder : Folder} {name : String} {file : List (String × Tree)}
    (read : readFile folder name = .ok file) :
    Library.lenient.readFile folder name = .ok (placeable file) :=
  congrArg (Except.map placeable) read

/-- Where every list has a place for each index, the standard library loads what the lenient one
loads. -/
theorem withOverride_lenient {system : System} {name : String} {base : Config}
    (fits : base.workerPoolSize ≤ 2 ^ 63 - 1) {file : List (String × Tree)}
    (read : readFile system.toFolder name = .ok file) (placed : ∀ e ∈ file, Placeable e)
    (set : ∀ e ∈ environment variableRule system.assignments, Placeable e) :
    base.withOverride system name = Library.lenient.withOverride base system name := by
  have known := settings_fit fits
  have wrote := writeSettings_of_fits fun e he => (known e he).2
  have kept := placeable_val (written_placeable fun e he => (known e he).1)
  have own : Library.lenient.ofSettings base.settings = .ok (placeable (written base.settings)) :=
    congrArg (Except.map placeable) wrote
  have sources : [placeable (written base.settings), placeable file,
      placeable (environment variableRule system.assignments)].map Subtype.val =
        [written base.settings, file, environment variableRule system.assignments] := by
    simp [kept, placeable_val placed, placeable_val set]
  rw [withOverride, Library.standard.withOverride_of_read wrote read,
    Library.lenient.withOverride_of_read own (lenient_readFile read)]
  exact congrArg (fun laid => Except.bind laid fun root => failed (Library.standard.toConfig root))
    ((lay_lenient _ _).trans (congrArg (List.foldlM _ _) sources)).symm

end DurableWatch.Config
