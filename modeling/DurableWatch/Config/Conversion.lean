import DurableWatch.Config.Tree
import DurableWatch.Decimal.Shortest
import DurableWatch.Text.Quoted

/-!
# Settings in a tree

Settings are converted generously: numbers, truth values and words stand for each other where they
can. What cannot be converted is reported with its key and its origin. Unknown keys are ignored.
-/
namespace DurableWatch.Config

/-- The words that stand for a truth value, in any case. -/
def truthOfWord? (word : String) : Option Bool :=
  if word = "true" || word = "on" || word = "yes" then some true
  else if word = "false" || word = "off" || word = "no" then some false
  else none

def wrong {α : Type} (found expected : String) (origin : Origin) : Except ConfigError α :=
  .error (.wrongType found expected none origin)

/-- The largest size: sizes have 64 bits. -/
def maxSize : Nat := Decimal.twoTo 64 - 1

def sizeOfScalar (v : Scalar) (origin : Origin) : Except ConfigError Nat :=
  match v with
  | .boolean b => .ok (if b then 1 else 0)
  | .integer i =>
    if 0 ≤ i then .ok i.toNat
    else
      wrong ("64-bit integer `" ++ toString i ++ "`") "an unsigned 64 bit or less integer" origin
  | .float x => .ok (Decimal.clampToNat maxSize x)
  | .text s =>
    match truthOfWord? (Text.lower s) with
    | some b => .ok (if b then 1 else 0)
    | none =>
      match Decimal.uint64? s.toList with
      | some n => .ok n
      | none => wrong ("string " ++ Text.quoted s) "an integer" origin

/-- A size. -/
def sizeOf : Tree → Except ConfigError Nat
  | .leaf v origin => sizeOfScalar v origin
  | .absent => wrong "unit value" "an integer" none
  | .list _ origin => wrong "sequence" "an integer" origin
  | .table _ origin => wrong "map" "an integer" origin

def truthOfScalar (v : Scalar) (origin : Origin) : Except ConfigError Bool :=
  match v with
  | .boolean b => .ok b
  | .integer i => .ok (i ≠ 0)
  | .float x => .ok (x != 0)
  | .text s =>
    let word := Text.lower s
    match truthOfWord? word with
    | some b => .ok b
    | none =>
      if word = "1" then .ok true
      else if word = "0" then .ok false
      else wrong ("string " ++ Text.quoted word) "a boolean" origin

/-- A truth value. -/
def truthOf : Tree → Except ConfigError Bool
  | .leaf v origin => truthOfScalar v origin
  | .absent => wrong "unit value" "a boolean" none
  | .list _ origin => wrong "sequence" "a boolean" origin
  | .table _ origin => wrong "map" "a boolean" origin

/-- Names the key of a wrong value. -/
def atKey {α : Type} (key : String) : Except ConfigError α → Except ConfigError α
  | .error (.wrongType found expected _ origin) =>
    .error (.wrongType found expected (some key) origin)
  | r => r

def describeScalar : Scalar → String
  | .boolean b => "boolean `" ++ toString b ++ "`"
  | .integer i => "integer `" ++ toString i ++ "`"
  | .float x => "floating point `" ++ Decimal.text x ++ "`"
  | .text s => "string " ++ Text.quoted s

def notASection {α : Type} (found typeName : String) : Except ConfigError α :=
  .error (.message ("invalid type: " ++ found ++ ", expected struct " ++ typeName))

/-- A setting, the only one of its section. The section may be a list, of which the first item
counts, and it may be missing, as may the setting. -/
def readSetting {α : Type} (root : Tree) (s : Setting) (convert : Tree → Except ConfigError α)
    (default : α) : Except ConfigError α :=
  match root.field? s.header with
  | none => .ok default
  | some (.table entries _) =>
    match entries.lookup s.key with
    | none => .ok default
    | some v => atKey (s.header ++ "." ++ s.key) (convert v)
  | some (.list [] _) => .ok default
  | some (.list (v :: _) _) => atKey (s.header ++ "[0]") (convert v)
  | some (.leaf v _) => notASection (describeScalar v) s.typeName
  | some .absent => notASection "unit value" s.typeName

/-- Numbers that are written are signed, with 64 bits. -/
def writeScalar : Scalar → Except ConfigError Tree
  | .integer i =>
    if Decimal.twoTo 63 ≤ i then
      .error (.message ("value " ++ toString i ++ " is greater than the max 9223372036854775807"))
    else .ok (.leaf (.integer i) none)
  | v => .ok (.leaf v none)

def writeSettings (settings : List (Setting × Scalar)) :
    Except ConfigError (List (String × Tree)) :=
  settings.mapM fun (s, v) => do return (s.header, .table [(s.key, ← writeScalar v)] none)

end DurableWatch.Config
