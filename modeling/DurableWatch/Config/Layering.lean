import DurableWatch.Config.Basic

/-!
# Settings in layers

A configuration is loaded from several sources, each laid over the ones before: a configuration that
is there already, a file, and the variables of the environment. How sources are read, laid over each
other and converted is the matter of a library of settings. It is given by its functions here, so
that nothing depends on how it does this.
-/
namespace DurableWatch.Config

inductive Scalar
  | boolean (b : Bool)
  | integer (i : Int)
  | float (x : Float)
  | text (s : String)

/-- The working directory with its files. -/
structure Folder where
  /-- The directory as it is written in messages. -/
  directory : String
  files : List (String × ByteArray)

/-- What a load can see of the system it runs on. -/
structure System extends Folder where
  assignments : List (String × String)

/-- A setting: its section, the name of the section's type, and its key in the section. -/
structure Setting where
  header : String
  typeName : String
  key : String
  deriving DecidableEq, Repr

namespace Setting

def workerPoolSize : Setting := ⟨"dispatcher", "DispatcherConfig", "worker_pool_size"⟩

def failFast : Setting := ⟨"recovery", "RecoveryConfig", "fail_fast"⟩

end Setting

/-- Which variables of the environment are settings, and how they are read. -/
structure VariableRule where
  /-- What their names start with. -/
  start : String
  /-- What stands behind the start of a name and between its keys. -/
  separator : String
  skipsEmpty : Bool
  /-- Whether numbers and truth values are told from other texts. -/
  parses : Bool
  deriving DecidableEq, Repr

structure Library where
  /-- What one source has. -/
  Source : Type
  /-- What is there under a key, or in all. -/
  Value : Type
  /-- Writes settings, each into its section. -/
  ofSettings : List (Setting × Scalar) → Except ConfigError Source
  readFile : Folder → String → Except ConfigError Source
  ofVariables : VariableRule → List (String × String) → Source
  blank : Value
  /-- Lays a source over what is there. -/
  lay : Value → Source → Except Stop Value
  size : Value → Except ConfigError Nat
  truth : Value → Except ConfigError Bool
  /-- Converts a setting, for which there is a default. -/
  readSetting {α : Type} :
    Value → Setting → (Value → Except ConfigError α) → α → Except ConfigError α

/-- The settings of a configuration. -/
def settings (c : Config) : List (Setting × Scalar) :=
  [(.workerPoolSize, .integer c.workerPoolSize), (.failFast, .boolean c.failFast)]

/-- The variables that are settings. -/
def variableRule : VariableRule where
  start := "WATCHER"
  separator := "__"
  skipsEmpty := true
  parses := true

/-- The variable that names the file to load. -/
def pathVariable : String := "CONFIG_PATH"

def failed {α : Type} (r : Except ConfigError α) : Except Stop α :=
  r.mapError fun e => .failed (.config e)

namespace Library

variable (lib : Library)

def toConfig (root : lib.Value) : Except ConfigError Config := do
  let size ← lib.readSetting root .workerPoolSize lib.size ({} : Config).workerPoolSize
  let failFast ← lib.readSetting root .failFast lib.truth ({} : Config).failFast
  return { workerPoolSize := size, failFast := failFast }

/-- This configuration, with the settings of the file, if one is named, and of the environment over
it. -/
def layered (base : Config) (system : System) (file? : Option String) : Except Stop Config := do
  let own ← failed (lib.ofSettings base.settings)
  let read ←
    match file? with
    | some name => (failed (lib.readFile system.toFolder name)).map fun file => [file]
    | none => .ok []
  let sources := own :: read ++ [lib.ofVariables variableRule system.assignments]
  let root ← sources.foldlM lib.lay lib.blank
  failed (lib.toConfig root)

/-- The default configuration under the file that the environment names and the environment itself.
-/
def load (system : System) : Except Stop Config :=
  lib.layered {} system (system.assignments.lookup pathVariable)

/-- This configuration under the file and the environment. -/
def withOverride (base : Config) (system : System) (name : String) : Except Stop Config :=
  lib.layered base system (some name)

end Library

end DurableWatch.Config
