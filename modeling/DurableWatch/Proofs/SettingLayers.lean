import DurableWatch.Proofs.LenientLibrary

/-!
# Where a setting comes from

A configuration is laid under a file and the environment. Each setting then has the value that a
variable of the environment gives it, else the value that the file gives it, else its own, and no
other key makes a difference. The default configuration is loaded in the same way from the file that
the environment names. This holds with any library that behaves as it is expected to.
-/
namespace DurableWatch.Config

variable {α : Type}

namespace Library.View

variable {lib : Library} (view : lib.View)

/-- The section is a table or is not there, and what is there for the setting can be converted. -/
structure Suits (s : Setting) (convert : lib.Value → Except ConfigError α) (source : lib.Source) :
    Prop where
  sectioned : Sectioned view.IsTable s.header (view.leaves source)
  single : Single view.IsTable s.place (view.leaves source)
  convertible : ∀ v, (s.place, v) ∈ view.leaves source → ∃ x, convert v = .ok x

instance [DecidablePred view.IsTable] (s : Setting) (convert : lib.Value → Except ConfigError α)
    (source : lib.Source) : Decidable (view.Suits s convert source) :=
  decidable_of_iff (Sectioned view.IsTable s.header (view.leaves source) ∧
    Single view.IsTable s.place (view.leaves source) ∧
    ∀ l ∈ view.leaves source, l.1 = s.place → (convert l.2).isOk) <| by
    have converted (v : lib.Value) : (convert v).isOk ↔ ∃ x, convert v = .ok x := by
      cases convert v <;> simp [Except.isOk, Except.toBool]
    simp only [converted]
    exact ⟨fun h => ⟨h.1, h.2.1, fun v hv => h.2.2 _ hv rfl⟩,
      fun h => ⟨h.sectioned, h.single, fun l hl place => h.convertible l.2 (place ▸ hl)⟩⟩

/-- Both sections and both settings are as they should be. -/
structure Suitable (source : lib.Source) : Prop where
  size : view.Suits .workerPoolSize lib.size source
  truth : view.Suits .failFast lib.truth source

instance [DecidablePred view.IsTable] (source : lib.Source) : Decidable (view.Suitable source) :=
  decidable_of_iff
    (view.Suits .workerPoolSize lib.size source ∧ view.Suits .failFast lib.truth source)
    ⟨fun h => ⟨h.1, h.2⟩, fun h => ⟨h.size, h.truth⟩⟩

/-- A file and an environment from which the settings can be taken. -/
structure Loadable (system : System) (name : String) (file : lib.Source) : Prop where
  read : lib.readFile system.toFolder name = .ok file
  suitable : view.Suitable file
  environment : view.Suitable (lib.ofVariables variableRule system.assignments)
  /-- No two variables set the same place. -/
  distinct : ((system.assignments.filterMap (view.assigned? variableRule)).map (·.1)).Nodup

/-- No variable but an empty one is for the place. -/
def Unset (system : System) (place : List KeyStep) : Prop :=
  ∀ a ∈ system.assignments, a.2 ≠ "" → ∀ v, view.assigned? variableRule a ≠ some (place, v)

/-- The value of a setting: what a variable says, else what the file says, else its own. -/
structure Layered (s : Setting) (convert : lib.Value → Except ConfigError α) (own : α)
    (given : lib.Source) (system : System) (x : α) : Prop where
  environment : ∀ a ∈ system.assignments, ∀ v,
    view.assigned? variableRule a = some (s.place, v) → convert v = .ok x
  named : ∀ name value, (name, value) ∈ system.assignments →
    Text.lower name = Text.lower s.variableName → value ≠ "" → convert (view.parsed value) = .ok x
  file : view.Unset system s.place →
    ∀ v, latest s.place (view.leaves given) = some v → convert v = .ok x
  own : view.Unset system s.place → latest s.place (view.leaves given) = none → x = own

/-- The sources say the same about the setting. -/
def Alike (s : Setting) (convert : lib.Value → Except ConfigError α) (source source' : lib.Source) :
    Prop :=
  (latest s.place (view.leaves source)).map convert =
    (latest s.place (view.leaves source')).map convert

instance [DecidableEq α] (s : Setting) (convert : lib.Value → Except ConfigError α)
    (source source' : lib.Source) : Decidable (view.Alike s convert source source') :=
  inferInstanceAs (Decidable (_ = _))

/-- The value that a file and the environment leave for a setting. -/
def remaining (s : Setting) (own : Scalar) (file environment : lib.Source) : lib.Value :=
  ((latest s.place (view.leaves environment)).or (latest s.place (view.leaves file))).getD
    (view.scalar own)

end Library.View

open Library.View

section

variable {lib : Library} {view : lib.View} {s : Setting} {own : α} {base : Config}
  {convert : lib.Value → Except ConfigError α} {system : System} {name : String}
  {source source' file file' : lib.Source} {written : Scalar}

/-! ### One setting -/

theorem Library.View.Suits.convert_remaining (below : view.Suits s convert file)
    (above : view.Suits s convert source) (back : convert (view.scalar written) = .ok own) :
    ∃ x, convert (view.remaining s written file source) = .ok x := by
  rw [remaining]
  cases set : latest s.place (view.leaves source) with
  | some v => exact above.convertible v (mem_of_latest set)
  | none =>
    cases given : latest s.place (view.leaves file) with
    | some v => exact below.convertible v (mem_of_latest given)
    | none => exact ⟨own, back⟩

theorem Library.View.Alike.convert_remaining (below : view.Alike s convert file file')
    (above : view.Alike s convert source source') (written : Scalar) :
    convert (view.remaining s written file source) =
      convert (view.remaining s written file' source') := by
  have converted (o : Option lib.Value) : convert (o.getD (view.scalar written)) =
      (o.map convert).getD (convert (view.scalar written)) := by
    cases o <;> rfl
  simp only [remaining, converted, Option.map_or]
  rw [below, above]

theorem Library.View.Lawful.latest_variables (lawful : view.Lawful)
    (loadable : view.Loadable system name file) {a : String × String}
    (assigned : a ∈ system.assignments) {place : List KeyStep} {v : lib.Value}
    (sets : view.assigned? variableRule a = some (place, v)) :
    latest place (view.leaves (lib.ofVariables variableRule system.assignments)) = some v := by
  rw [lawful.ofVariables]
  have here : (place, v) ∈ system.assignments.filterMap (view.assigned? variableRule) :=
    List.mem_filterMap.2 ⟨a, assigned, sets⟩
  obtain ⟨v', found⟩ := latest_isSome here
  have same := List.inj_on_of_nodup_map loadable.distinct here (mem_of_latest found) rfl
  rw [found, (Prod.mk.inj same).2]

theorem Library.View.Lawful.latest_variables_eq_none (lawful : view.Lawful)
    {place : List KeyStep} (unset : view.Unset system place) :
    latest place (view.leaves (lib.ofVariables variableRule system.assignments)) = none := by
  rw [lawful.ofVariables]
  refine latest_eq_none fun l hl here => ?_
  obtain ⟨⟨name, value⟩, assigned, sets⟩ := List.mem_filterMap.1 hl
  have filled : value ≠ "" := by
    rintro rfl
    simp [lawful.skipped variableRule name rfl] at sets
  exact unset (name, value) assigned filled l.2 (here ▸ sets)

/-- What remains for a setting comes from the uppermost source that has it. -/
theorem Library.View.Lawful.layered (lawful : view.Lawful)
    (loadable : view.Loadable system name file) (known : s ∈ Setting.known)
    (back : convert (view.scalar written) = .ok own) {x : α}
    (converted : convert (view.remaining s written file
      (lib.ofVariables variableRule system.assignments)) = .ok x) :
    view.Layered s convert own file system x := by
  rw [remaining] at converted
  have environment : ∀ a ∈ system.assignments, ∀ v,
      view.assigned? variableRule a = some (s.place, v) → convert v = .ok x := by
    intro a assigned v sets
    rwa [lawful.latest_variables loadable assigned sets] at converted
  constructor
  · exact environment
  · intro name value assigned named filled
    exact environment _ assigned _ (lawful.named s known name value named filled)
  · intro unset v given
    rwa [lawful.latest_variables_eq_none unset, given] at converted
  · intro unset absent
    rw [lawful.latest_variables_eq_none unset, absent] at converted
    exact Except.ok.inj (converted.symm.trans back)

/-! ### Loading -/

theorem Library.View.Lawful.suits_own (lawful : view.Lawful)
    (leaves : view.leaves source = base.settings.map fun e => (e.1.place, view.scalar e.2))
    (back : ∀ e ∈ base.settings, e.1.place = s.place → ∃ x, convert (view.scalar e.2) = .ok x) :
    view.Suits s convert source := by
  constructor <;> simp only [leaves, Sectioned, Single, List.mem_map]
  · rintro l ⟨e, -, rfl⟩ rest place
    exact .inl ⟨e.1.key, [], (List.cons.inj place).2.symm⟩
  · rintro l ⟨e, -, rfl⟩ below
    exact ⟨(below.eq_of_length rfl).symm, lawful.scalar e.2⟩
  · rintro v ⟨e, he, same⟩
    obtain ⟨place, rfl⟩ := Prod.mk.inj same
    exact back e he place

theorem Library.View.Lawful.own_suitable (lawful : view.Lawful)
    (fits : base.workerPoolSize ≤ 2 ^ 63 - 1)
    (leaves : view.leaves source = base.settings.map fun e => (e.1.place, view.scalar e.2)) :
    view.Suitable source := by
  have apart : Setting.failFast.place ≠ Setting.workerPoolSize.place := by decide
  constructor <;> refine lawful.suits_own leaves ?_
  · simp [settings, apart, lawful.size _ fits]
  · simp [settings, apart.symm, lawful.truth]

/-- Under what remains for a setting there is what the configuration itself has. -/
theorem latest_of_own {own : lib.Source}
    (there : latest s.place (view.leaves own) = some (view.scalar written))
    (below : Option lib.Value) :
    (latest s.place ([own, file, source].flatMap view.leaves)).or below =
      some (view.remaining s written file source) := by
  simp [latest_append, there, remaining]

/-- Both settings are read where they have been laid. -/
theorem Library.View.Lawful.toConfig_eq_ok (lawful : view.Lawful) {root v w : lib.Value}
    {c : Config} (size : view.setting? root "dispatcher" "worker_pool_size" = some v)
    (sized : lib.size v = .ok c.workerPoolSize)
    (truth : view.setting? root "recovery" "fail_fast" = some w)
    (told : lib.truth w = .ok c.failFast) : lib.toConfig root = .ok c := by
  rw [toConfig, lawful.readSetting root .workerPoolSize lib.size _ v _ size sized,
    lawful.readSetting root .failFast lib.truth _ w _ truth told]
  rfl

/-- What remains for the settings is what is loaded. -/
theorem Library.View.Lawful.withOverride_eq_ok (lawful : view.Lawful)
    (fits : base.workerPoolSize ≤ 2 ^ 63 - 1) (loadable : view.Loadable system name file)
    {c : Config}
    (sized : lib.size (view.remaining .workerPoolSize (.integer base.workerPoolSize) file
      (lib.ofVariables variableRule system.assignments)) = .ok c.workerPoolSize)
    (told : lib.truth (view.remaining .failFast (.boolean base.failFast) file
      (lib.ofVariables variableRule system.assignments)) = .ok c.failFast) :
    lib.withOverride base system name = .ok c := by
  obtain ⟨own, wrote, leaves⟩ := lawful.ofSettings base.settings (settings_fit fits)
  have suitable : ∀ source ∈ [own, file, lib.ofVariables variableRule system.assignments],
      view.Suitable source := by
    simp [lawful.own_suitable fits leaves, loadable.suitable, loadable.environment]
  obtain ⟨root, laid, found⟩ :=
    lawful.lay_all [own, file, lib.ofVariables variableRule system.assignments] lib.blank
  have size := found _ _ (fun source hs => (suitable source hs).size.sectioned)
    fun source hs => (suitable source hs).size.single
  have truth := found _ _ (fun source hs => (suitable source hs).truth.sectioned)
    fun source hs => (suitable source hs).truth.single
  have apart : Setting.failFast.place ≠ Setting.workerPoolSize.place := by decide
  have ownSize : latest Setting.workerPoolSize.place (view.leaves own) =
      some (view.scalar (.integer base.workerPoolSize)) := by
    simp [leaves, settings, apart.symm]
  have ownTruth : latest Setting.failFast.place (view.leaves own) =
      some (view.scalar (.boolean base.failFast)) := by
    simp [leaves, settings]
  have read := lawful.toConfig_eq_ok (size.trans (latest_of_own ownSize _)) sized
    (truth.trans (latest_of_own ownTruth _)) told
  rw [lib.withOverride_of_read wrote loadable.read, laid]
  exact congrArg failed read

end

/-- The system with a variable that names a file to load. -/
def System.naming (system : System) (name : String) : System :=
  { system with assignments := (pathVariable, name) :: system.assignments }

theorem Library.load_of_lookup (lib : Library) {system : System} {name : String}
    (named : system.assignments.lookup pathVariable = some name) :
    lib.load system = lib.withOverride {} system name := by
  rw [load, named, withOverride]

/-- The variable that names the file is no setting itself. -/
theorem Library.View.Lawful.withOverride_naming {lib : Library} {view : lib.View}
    (lawful : view.Lawful) (base : Config) (system : System) (name file : String) :
    lib.withOverride base (system.naming file) name = lib.withOverride base system name := by
  have other : ¬(Text.lower (variableRule.start ++ variableRule.separator)).toList <+:
      (Text.lower pathVariable).toList := by decide +kernel
  have same := lawful.foreign variableRule pathVariable file system.assignments other
  simp only [withOverride, Library.layered, System.naming, same]

/-- With a library that behaves as it is documented, the file and the environment are loaded if they
suit the settings. Each setting has the value of its variable, else the value of the file, else its
own value, and what else there is in the file and the environment makes no difference. The default
configuration under any file is what is loaded from an environment that names this file, whether
there is a configuration or an error. -/
theorem settings_layered (lib : Library) :
    (∀ view : lib.View, view.Lawful →
      ∀ (base : Config) (system : System) (name : String) (file : lib.Source),
        base.workerPoolSize ≤ 2 ^ 63 - 1 → view.Loadable system name file → ∃ c : Config,
          lib.withOverride base system name = .ok c ∧
          view.Layered .workerPoolSize lib.size base.workerPoolSize file system c.workerPoolSize ∧
          view.Layered .failFast lib.truth base.failFast file system c.failFast ∧
          ∀ system' name' file', view.Loadable system' name' file' →
            view.Alike .workerPoolSize lib.size file file' →
            view.Alike .failFast lib.truth file file' →
            view.Alike .workerPoolSize lib.size (lib.ofVariables variableRule system.assignments)
              (lib.ofVariables variableRule system'.assignments) →
            view.Alike .failFast lib.truth (lib.ofVariables variableRule system.assignments)
              (lib.ofVariables variableRule system'.assignments) →
            lib.withOverride base system' name' = .ok c) ∧
    (∀ system name, system.assignments.lookup pathVariable = some name →
      lib.load system = lib.withOverride {} system name) ∧
    ∀ view : lib.View, view.Lawful → ∀ (system : System) name,
      lib.load (system.naming name) = lib.withOverride {} system name := by
  refine ⟨fun view lawful base system name file fits loadable => ?_,
    fun _ _ named => lib.load_of_lookup named, fun view lawful system name => ?_⟩
  · have sizeBack := lawful.size _ fits
    have truthBack := lawful.truth base.failFast
    obtain ⟨n, sized⟩ :=
      loadable.suitable.size.convert_remaining loadable.environment.size sizeBack
    obtain ⟨b, told⟩ :=
      loadable.suitable.truth.convert_remaining loadable.environment.truth truthBack
    refine ⟨⟨n, b⟩, lawful.withOverride_eq_ok fits loadable sized told,
      lawful.layered loadable (by decide) sizeBack sized,
      lawful.layered loadable (by decide) truthBack told, ?_⟩
    intro system' name' file' loadable' sizes truths sizes' truths'
    exact lawful.withOverride_eq_ok fits loadable'
      ((sizes.convert_remaining sizes' _).symm.trans sized)
      ((truths.convert_remaining truths' _).symm.trans told)
  · rw [lib.load_of_lookup (List.lookup_cons_self ..), lawful.withOverride_naming]

/-- Two files, and variables one of which names the first file. -/
def System.twoFiles : System where
  directory := "/d"
  files := [
    ("f.toml", "[recovery]\nfail_fast = true\n[dispatcher]\nworker_pool_size = 3".toUTF8),
    ("g.toml", "[Recovery]\nfail_fast = 1\n[x]\ny = 1\n[dispatcher]\nworker_pool_size=3".toUTF8)]
  assignments := [(pathVariable, "f.toml"), ("WATCHER__DISPATCHER__WORKER_POOL_SIZE", "5")]

def Folder.entries (folder : Folder) (name : String) : List (String × Tree) :=
  (readFile folder name).toOption.getD []

def Folder.source (folder : Folder) (name : String) : Library.lenient.Source :=
  placeable (folder.entries name)

theorem readFile_eq_entries {folder : Folder} {name : String}
    (readable : (readFile folder name).isOk) :
    readFile folder name = .ok (folder.entries name) := by
  rw [Folder.entries]
  cases read : readFile folder name with
  | ok file => rfl
  | error e => simp [read, Except.isOk, Except.toBool] at readable

/-- What suits the settings is loaded from a file that can be read. -/
theorem loadable_source {system : System} {name : String}
    (readable : (readFile system.toFolder name).isOk)
    (suitable : lenientView.Suitable (system.source name))
    (environment : lenientView.Suitable
      (Library.lenient.ofVariables variableRule system.assignments))
    (distinct : ((system.assignments.filterMap (variableLeaf? variableRule)).map (·.1)).Nodup) :
    lenientView.Loadable system name (system.source name) :=
  ⟨lenient_readFile (readFile_eq_entries readable), suitable, environment, distinct⟩

theorem withOverride_entries {system : System} {name : String} {base : Config}
    (fits : base.workerPoolSize ≤ 2 ^ 63 - 1) (readable : (readFile system.toFolder name).isOk)
    (placed : ∀ e ∈ system.entries name ++ environment variableRule system.assignments,
      Placeable e) :
    base.withOverride system name = Library.lenient.withOverride base system name := by
  obtain ⟨file, set⟩ := List.forall_mem_append.1 placed
  exact withOverride_lenient fits (readFile_eq_entries readable) file set

/-- The size of a variable, and the truth value of the file below it; the other file has the same
settings. -/
theorem settings_layered_two_files :
    Config.withOverride ⟨7, false⟩ System.twoFiles "f.toml" = .ok ⟨5, true⟩ ∧
      Config.withOverride ⟨7, false⟩ System.twoFiles "g" = .ok ⟨5, true⟩ ∧
      Config.load System.twoFiles = Config.withOverride {} System.twoFiles "f.toml" ∧
      Library.lenient.load (System.twoFiles.naming "g") =
        Library.lenient.withOverride {} System.twoFiles "g" := by
  obtain ⟨layers, -, naming⟩ := settings_layered Library.lenient
  obtain ⟨-, named, -⟩ := settings_layered Library.standard
  have readable : (readFile System.twoFiles.toFolder "f.toml").isOk ∧
      (readFile System.twoFiles.toFolder "g").isOk := by decide +kernel
  have assigned : lenientView.Suitable
      (Library.lenient.ofVariables variableRule System.twoFiles.assignments) := by decide +kernel
  have distinct :
      ((System.twoFiles.assignments.filterMap (variableLeaf? variableRule)).map (·.1)).Nodup := by
    decide +kernel
  have suitable : lenientView.Suitable (System.twoFiles.source "f.toml") ∧
      lenientView.Suitable (System.twoFiles.source "g") := by decide +kernel
  have loadable := loadable_source readable.1 suitable.1 assigned distinct
  have loadable' := loadable_source readable.2 suitable.2 assigned distinct
  obtain ⟨⟨n, b⟩, loaded, size, fast, unknown⟩ :=
    layers lenientView lenientView_lawful ⟨7, false⟩ System.twoFiles "f.toml" _ (by decide) loadable
  have alike :
      lenientView.Alike .workerPoolSize Library.lenient.size (System.twoFiles.source "f.toml")
        (System.twoFiles.source "g") ∧
      lenientView.Alike .failFast Library.lenient.truth (System.twoFiles.source "f.toml")
        (System.twoFiles.source "g") := by
    decide +kernel
  have loaded' := unknown System.twoFiles "g" _ loadable' alike.1 alike.2 rfl rfl
  have sized : n = 5 := by
    have five : (sizeOf (parsedText "5")).toOption = some 5 := by decide +kernel
    have read : sizeOf (parsedText "5") = .ok n :=
      size.named "WATCHER__DISPATCHER__WORKER_POOL_SIZE" "5" (by decide +kernel)
        (by decide +kernel) (by decide)
    rw [read] at five
    exact Option.some.inj five
  have told : b = true := by
    have unset : ∀ a ∈ System.twoFiles.assignments,
        (variableLeaf? variableRule a).map (·.1) ≠ some Setting.failFast.place := by decide +kernel
    have said : (latest Setting.failFast.place
        (lenientView.leaves (System.twoFiles.source "f.toml"))).map
          (fun v => (truthOf v).toOption) = some (some true) := by decide +kernel
    obtain ⟨v, given, yes⟩ := Option.map_eq_some_iff.1 said
    have read : truthOf v = .ok b :=
      fast.file (fun a ha _ v set => unset a ha (congrArg (Option.map Prod.fst) set)) v given
    rw [read] at yes
    exact Option.some.inj yes
  rw [sized, told] at loaded loaded'
  have placed : (∀ e ∈ System.twoFiles.entries "f.toml" ++
      environment variableRule System.twoFiles.assignments, Placeable e) ∧
      ∀ e ∈ System.twoFiles.entries "g" ++
        environment variableRule System.twoFiles.assignments, Placeable e := by decide +kernel
  refine ⟨?_, ?_, named System.twoFiles "f.toml" (by decide),
    naming lenientView lenientView_lawful System.twoFiles "g"⟩
  · rw [withOverride_entries (by decide) readable.1 placed.1, loaded]
  · rw [withOverride_entries (by decide) readable.2 placed.2, loaded']

end DurableWatch.Config
