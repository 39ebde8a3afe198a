import DurableWatch.Config.Conversion
import DurableWatch.Config.Sources

/-!
# Loading a configuration

Configurations are loaded through a library that merges trees of settings key by key.
-/
namespace DurableWatch.Config

def Library.standard : Library where
  Source := List (String × Tree)
  Value := Tree
  ofSettings := writeSettings
  readFile := Config.readFile
  ofVariables := environment
  blank := Tree.emptyTable
  lay t source := (t.overlay source).mapError fun bad => .crashed bad.reason
  size := sizeOf
  truth := truthOf
  readSetting := Config.readSetting

def load (system : System) : Except Stop Config := Library.standard.load system

def withOverride (c : Config) (system : System) (name : String) : Except Stop Config :=
  Library.standard.withOverride c system name

end DurableWatch.Config
