import DurableWatch.Config.Tree
import DurableWatch.Toml.Document

/-!
# Sources of settings

Settings come from files in TOML and from the variables of the environment. Both are given as data
here: the files of one directory by name, and the variables by name.
-/
namespace DurableWatch.Config

/-! ## The environment -/

/-- Replaces each separator by a dot, from the left, once so many characters are passed over. -/
def dotted (separator : List Char) (skip : Nat) : List Char → List Char
  | [] => []
  | c :: rest =>
    match skip with
    | skip + 1 => dotted separator skip rest
    | 0 =>
      if separator ≠ [] && separator.isPrefixOf (c :: rest) then
        '.' :: dotted separator (separator.length - 1) rest
      else c :: dotted separator 0 rest

/-- The truth value or the number that a text is written as, else the text itself. -/
def parseScalar (s : String) : Scalar :=
  let word := Text.lower s
  if word = "true" then .boolean true
  else if word = "false" then .boolean false
  else
    match Decimal.int64? 10 s.toList, Decimal.float? s.toList with
    | some i, _ => .integer i
    | none, some x => .float x
    | none, none => .text s

/-- The setting of a variable. Those of other programs are none, nor are empty ones if they are
skipped. -/
def settingOf? (rule : VariableRule) (assigned : String × String) : Option (String × Tree) :=
  let (name, value) := assigned
  let name := (Text.lower name).toList
  let start := (Text.lower (rule.start ++ rule.separator)).toList
  if rule.skipsEmpty && value = "" || !start.isPrefixOf name then none
  else
    some (String.ofList (dotted rule.separator.toList 0 (name.drop start.length)),
      .leaf (if rule.parses then parseScalar value else .text value) (some "the environment"))

def environment (rule : VariableRule) (assigned : List (String × String)) :
    List (String × Tree) :=
  assigned.filterMap (settingOf? rule)

/-! ## Files -/

mutual

def treeOf (origin : Origin) : Toml.Value → Tree
  | .text s | .moment s => .leaf (.text s) origin
  | .integer i => .leaf (.integer i) origin
  | .float x => .leaf (.float x) origin
  | .boolean b => .leaf (.boolean b) origin
  | .list items => .list (treesOf origin items) origin
  | .table entries => .table (entriesOf origin entries) origin

def treesOf (origin : Origin) : List Toml.Value → List Tree
  | [] => []
  | v :: rest => treeOf origin v :: treesOf origin rest

def entriesOf (origin : Origin) : List (String × Toml.Value) → List (String × Tree)
  | [] => []
  | (k, v) :: rest => (k, treeOf origin v) :: entriesOf origin rest

end

/-- A file name less the parts that stay where they are. Names that lead out of the directory, or
nowhere in it, have none. -/
def plainName? (name : String) : Option String :=
  let parts := (name.toList.splitOn '/').filter fun p => p ≠ [] && p ≠ ['.']
  if name.toList.head? = some '/' || parts = [] || parts.contains ['.', '.'] then none
  else some (String.intercalate "/" (parts.map String.ofList))

/-- The file of that name, under the name by which messages call it. -/
def Folder.file? (folder : Folder) (name : String) : Option (String × ByteArray) :=
  (folder.files.lookup name).map fun bytes => (name, bytes)

/-- A name that ends in a slash, or in a part that stays where it is, is the name of a directory. -/
def namesDirectory (name : String) : Bool :=
  (name.toList.splitOn '/').getLast?.any fun p => p = [] || p = ['.']

/-- Whether the name ends in `.toml`; the dot is not its first character. -/
def hasTomlExtension (name : String) : Bool :=
  match (name.toList.reverse.takeWhile (· ≠ '/')) with
  | 'l' :: 'm' :: 'o' :: 't' :: '.' :: _ :: _ => true
  | _ => false

/-- The file meant by a name: the one of that very name, which has to be in TOML, else the one with
the extension added. -/
def findFile (folder : Folder) (name : String) : Except ConfigError (String × ByteArray) :=
  let exact := if namesDirectory name then none else (plainName? name).bind folder.file?
  let extended := (plainName? name).bind fun plain => folder.file? (plain ++ ".toml")
  match exact, extended with
  | some file, _ =>
    if hasTomlExtension file.1 then .ok file
    else
      .error (.foreign ("configuration file \"" ++ folder.directory ++ "/" ++ name
        ++ "\" is not of a registered file format"))
  | none, some file => .ok file
  | none, none => .error (.foreign ("configuration file \"" ++ name ++ "\" not found"))

/-- The settings in a file. -/
def readFile (folder : Folder) (name : String) : Except ConfigError (List (String × Tree)) :=
  match findFile folder name with
  | .error e => .error e
  | .ok (origin, bytes) =>
    match String.fromUTF8? bytes with
    | none => .error (.foreign "stream did not contain valid UTF-8")
    | some text =>
      match Toml.parse? text with
      | none => .error (.malformedFile origin)
      | some entries => .ok (entriesOf (some origin) entries)

end DurableWatch.Config
