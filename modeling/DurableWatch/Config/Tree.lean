import DurableWatch.Config.Layering
import DurableWatch.Text.LowerCase
import DurableWatch.Decimal.Reading

/-!
# Layers of settings

Each source of settings gives a table, and the tables are laid over each other: a later leaf
replaces an earlier one, and tables are merged. Keys are compared in lower case. At the top a key
may be a whole path, such as `dispatcher.worker_pool_size` or `dispatcher[0]`.
-/
namespace DurableWatch.Config

/-- Settings with the source that each part came from. -/
inductive Tree
  | absent
  | leaf (v : Scalar) (origin : Origin)
  | list (items : List Tree) (origin : Origin)
  | table (entries : List (String × Tree)) (origin : Origin)
  deriving Inhabited

/-- Why an index means no place in a list. -/
inductive BadIndex
  | beforeStart
  | tooLarge
  deriving DecidableEq, Repr

/-- The reason of the crash that such an index leads to. -/
def BadIndex.reason : BadIndex → String
  | beforeStart => "attempt to subtract with overflow"
  | tooLarge => "capacity overflow"

/-- A list has room for fewer items than this. -/
def maxItems : Nat := 4294967296

/-- The entries with a new value for the key. -/
def setKey (key : String) (t : Tree) : List (String × Tree) → List (String × Tree)
  | [] => [(key, t)]
  | (k, old) :: rest => if k = key then (k, t) :: rest else (k, old) :: setKey key t rest

namespace Tree

def emptyTable : Tree := .table [] none

/-- The tree if it is a table, else an empty table in its place. -/
def asTable : Tree → List (String × Tree) × Origin
  | .table entries origin => (entries, origin)
  | _ => ([], none)

def asList : Tree → List Tree × Origin
  | .list items origin => (items, origin)
  | _ => ([], none)

def field? (key : String) : Tree → Option Tree
  | .table entries _ => entries.lookup key
  | _ => none

/-- The value under a key; what is not there counts as absent. -/
def fieldAt (t : Tree) (key : String) : Tree := (t.asTable.1.lookup (Text.lower key)).getD .absent

def setField (t : Tree) (key : String) (v : Tree) : Tree :=
  let (entries, origin) := t.asTable
  .table (setKey (Text.lower key) v entries) origin

/-- Changes the value under a key. -/
def updateField (t : Tree) (key : String) (change : Tree → Except BadIndex Tree) :
    Except BadIndex Tree :=
  (change (t.fieldAt key)).map (t.setField key)

/-- The place that an index means in a list; negative ones count from the end. -/
def place (length : Nat) (index : Int) : Except BadIndex Nat :=
  if maxItems ≤ index then .error .tooLarge
  else if 0 ≤ index then .ok index.toNat
  else if index.natAbs ≤ length then .ok (length - index.natAbs)
  else .error .beforeStart

/-- Changes the item at an index, filling the list up if it is too short. -/
def updateItem (t : Tree) (index : Int) (change : Tree → Except BadIndex Tree) :
    Except BadIndex Tree := do
  let (items, origin) := t.asList
  let n ← place items.length index
  let items := items ++ List.replicate (n + 1 - items.length) .absent
  let item ← change (items.getD n .absent)
  return .list (items.set n item) origin

mutual

/-- Lays the value over what is under the key. A table is merged key by key, so that an empty one
changes nothing that is there; anything else replaces it. -/
def put (t : Tree) (key : String) (v : Tree) : Tree :=
  match v with
  | .table incoming _ =>
    let (entries, origin) := t.asTable
    let key := Text.lower key
    .table (setKey key (putAll ((entries.lookup key).getD emptyTable) incoming) entries) origin
  | v => t.setField key v

def putAll (t : Tree) : List (String × Tree) → Tree
  | [] => t
  | (k, v) :: rest => (t.put k v).putAll rest

end

end Tree

/-! ## Paths of keys -/

inductive KeyStep
  | field (key : String)
  | item (index : Int)
  deriving DecidableEq, Repr

def isKeyChar (c : Char) : Bool := c.isAlphanum || c = ' ' || c = '_' || c = '-'

/-- The index between brackets, with spaces around it allowed. -/
def index? (cs : List Char) : Option (Int × List Char) :=
  let isSpace (c : Char) : Bool := c = ' ' || c = '\t'
  let inside := (cs.takeWhile (· ≠ ']')).dropWhile isSpace
  let number := (inside.reverse.dropWhile isSpace).reverse
  match cs.dropWhile (· ≠ ']') with
  | _ :: rest =>
    if number.head? = some '+' then none
    else (Decimal.int64? 10 number).map fun i => (i, rest)
  | [] => none

/-- The steps behind the first key. Every step takes a character, so the length is fuel enough. -/
def keySteps (fuel : Nat) (cs : List Char) : Option (List KeyStep) :=
  match fuel, cs with
  | _, [] => some []
  | fuel + 1, '.' :: rest =>
    match rest.takeWhile isKeyChar with
    | [] => none
    | key => (keySteps fuel (rest.dropWhile isKeyChar)).map (.field (String.ofList key) :: ·)
  | fuel + 1, '[' :: rest =>
    (index? rest).bind fun (i, rest) => (keySteps fuel rest).map (.item i :: ·)
  | _, _ => none

/-- A key read as a path: its first key, and the steps from there. A text that is no path is one
key. -/
def keyPath (key : String) : String × List KeyStep :=
  let first := key.toList.takeWhile isKeyChar
  match first, keySteps key.length (key.toList.dropWhile isKeyChar) with
  | _ :: _, some steps => (String.ofList first, steps)
  | _, _ => (key, [])

namespace Tree

def updateAt (t : Tree) (change : Tree → Except BadIndex Tree) :
    List KeyStep → Except BadIndex Tree
  | [] => change t
  | .field key :: steps => t.updateField key fun sub => sub.updateAt change steps
  | .item i :: steps => t.updateItem i fun sub => sub.updateAt change steps

/-- Lays the value over what is at the path. -/
def putAt (t : Tree) (first : String) (steps : List KeyStep) (v : Tree) : Except BadIndex Tree :=
  match steps.getLast? with
  | none => .ok (t.put first v)
  | some last =>
    t.updateField first fun sub =>
      sub.updateAt (fun parent =>
        match last with
        | .field key => .ok (parent.put key v)
        | .item i => parent.updateItem i fun _ => .ok v) steps.dropLast

/-- Lays a source's table over the tree; its keys may be paths. -/
def overlay (t : Tree) (source : List (String × Tree)) : Except BadIndex Tree :=
  source.foldlM (fun t (key, v) => let (first, steps) := keyPath key; t.putAt first steps v) t

end Tree

end DurableWatch.Config
