import DurableWatch.Toml.Lexeme

/-!
# TOML documents

A document is read in two steps: into statements, which are the headers and assignments in their
order, and from these into one table. A table that is there already may be entered again only in the
ways that the format allows, which is what `TableKind` keeps track of.
-/
namespace DurableWatch.Toml

/-- A value. Dates and times are kept as their usual texts. -/
inductive Value
  | text (s : String)
  | moment (s : String)
  | integer (i : Int)
  | float (x : Float)
  | boolean (b : Bool)
  | list (items : List Value)
  | table (entries : List (String × Value))
  deriving Inhabited

/-- How a table came to be: by a header of its own, as part of a longer header, or by a dotted key.
-/
inductive TableKind
  | explicit
  | implied
  | dotted
  deriving DecidableEq, Repr

/-- A part of a document while it is built. The last of the `tables` of an array is the open one. -/
inductive Item
  | value (v : Value)
  | table (kind : TableKind) (entries : List (String × Item))
  | tables (elements : List Item)
  deriving Inhabited

/-- The entries with a new value for the key, which comes last if it was not there. -/
def setEntry {α : Type} (key : String) (v : α) : List (String × α) → List (String × α)
  | [] => [(key, v)]
  | (k, old) :: rest => if k = key then (k, v) :: rest else (k, old) :: setEntry key v rest

namespace Item

def blank (kind : TableKind) : Item := .table kind []

/-- Changes the table at the end of the path. Tables missing on the way are made, as dotted ones or
as implied ones. A dotted key does not lead through a table with a header of its own, and nothing
leads through a value. -/
def alter (dotted : Bool) (change : Item → Option Item) : List String → Item → Option Item
  | [], t => change t
  | key :: path, .table kind entries =>
    let update (t : Item) := Item.table kind (setEntry key t entries)
    match entries.lookup key with
    | none => (alter dotted change path (blank (if dotted then .dotted else .implied))).map update
    | some (.table k es) =>
      if dotted && k = .explicit then none else (alter dotted change path (.table k es)).map update
    | some (.tables elements) =>
      (elements.getLast?.bind (alter dotted change path)).map fun t =>
        update (.tables (elements.dropLast ++ [t]))
    | some (.value _) => none
  | _, _ => none

/-- Adds a value under a new key. Behind a dotted key stands a table made by dotted keys. -/
def assign (path : List String) (key : String) (v : Value) (root : Item) : Option Item :=
  let add : Item → Option Item
    | .table kind entries =>
      if (entries.lookup key).isSome || decide (kind = .dotted) == path.isEmpty then none
      else some (.table kind (entries ++ [(key, .value v)]))
    | _ => none
  root.alter true add path

/-- Opens the table of a header in its parent, where it comes last then. A table implied by earlier
headers may be opened once. -/
def openTable (key : String) : Item → Option Item
  | .table kind entries =>
    let others := entries.filter fun (k, _) => k != key
    match entries.lookup key with
    | none => some (.table kind (others ++ [(key, blank .explicit)]))
    | some (.table .implied es) => some (.table kind (others ++ [(key, .table .explicit es)]))
    | some _ => none
  | _ => none

/-- Opens a further table of an array of tables. -/
def openElement (key : String) : Item → Option Item
  | .table kind entries =>
    match entries.lookup key with
    | none => some (.table kind (entries ++ [(key, .tables [blank .explicit])]))
    | some (.tables es) =>
      some (.table kind (setEntry key (.tables (es ++ [blank .explicit])) entries))
    | some _ => none
  | _ => none

mutual

def toValue : Item → Value
  | .value v => v
  | .table _ entries => .table (entryValues entries)
  | .tables elements => .list (elementValues elements)

def entryValues : List (String × Item) → List (String × Value)
  | [] => []
  | (k, i) :: rest => (k, i.toValue) :: entryValues rest

def elementValues : List Item → List Value
  | [] => []
  | i :: rest => i.toValue :: elementValues rest

end

end Item

/-- A table whose first key is this one stands for a date or time, given as a string under it. -/
def momentKey : String := "$__toml_private_datetime"

/-- The date or time given as a string. -/
def Value.asMoment? : Value → Option Value
  | .text s => (momentOfText? s).map .moment
  | _ => none

mutual

/-- The value with the dates and times in place of the tables that stand for them. -/
def Value.resolved? : Value → Option Value
  | .list items => (resolvedItems? items).map .list
  | .table [] => some (.table [])
  | .table ((key, v) :: rest) =>
    if key = momentKey then v.asMoment?
    else
      v.resolved?.bind fun v => (resolvedEntries? rest).map fun rest => .table ((key, v) :: rest)
  | v => some v

def resolvedItems? : List Value → Option (List Value)
  | [] => some []
  | v :: rest => v.resolved?.bind fun v => (resolvedItems? rest).map (v :: ·)

def resolvedEntries? : List (String × Value) → Option (List (String × Value))
  | [] => some []
  | (key, v) :: rest => v.resolved?.bind fun v => (resolvedEntries? rest).map ((key, v) :: ·)

end

/-! ## Values -/

/-- Values up to the closing bracket, between commas; blank space and comments may stand anywhere.
-/
def listItems (item : Reader Value) (fuel : Nat) (cs : List Char) :
    Option (List Value × List Char) :=
  match fuel with
  | 0 => none
  | fuel + 1 =>
    match skipSpace cs.length cs with
    | ']' :: rest => some ([], rest)
    | cs =>
      (item cs).bind fun (v, rest) =>
        match skipSpace rest.length rest with
        | ']' :: rest => some ([v], rest)
        | ',' :: rest => (listItems item fuel rest).map fun (vs, rest) => (v :: vs, rest)
        | _ => none

/-- An assignment: a key, an equals sign and a value. -/
def assignment? (item : Reader Value) : Reader (List String × Value) := fun cs =>
  (key? cs).bind fun (key, rest) =>
    match rest with
    | '=' :: rest => (item (skipBlanks rest)).map fun (v, rest) => ((key, v), rest)
    | _ => none

def assignKey (key : List String) (v : Value) (t : Item) : Option Item :=
  key.getLast?.bind fun last => t.assign key.dropLast last v

/-- Assignments between commas up to the closing brace, all on one line. -/
def inlineEntries (item : Reader Value) (fuel : Nat) (t : Item) (cs : List Char) :
    Option (Item × List Char) :=
  match fuel with
  | 0 => none
  | fuel + 1 =>
    (assignment? item cs).bind fun ((key, v), rest) =>
      (assignKey key v t).bind fun t =>
        match skipBlanks rest with
        | '\x7d' :: rest => some (t, rest)
        | ',' :: rest => inlineEntries item fuel t rest
        | _ => none

def inlineTable? (item : Reader Value) : Reader Value := fun cs =>
  match skipBlanks cs with
  | '\x7d' :: rest => some (.table [], rest)
  | cs =>
    (inlineEntries item (cs.length + 1) (.blank .explicit) cs).map fun (t, rest) =>
      (t.toValue, rest)

def ofNumber : Number → Value
  | .integer i => .integer i
  | .float x => .float x

/-- A value with less than `depth` lists and tables within each other. -/
def value? (depth : Nat) : Reader Value := fun cs =>
  match depth with
  | 0 => none
  | depth + 1 =>
    match cs with
    | '"' :: _ | '\'' :: _ => (string? cs).map fun (s, rest) => (.text s, rest)
    | '[' :: rest =>
      if depth = 0 then none
      else (listItems (value? depth) (rest.length + 1) rest).map fun (vs, rest) => (.list vs, rest)
    | '\x7b' :: rest => if depth = 0 then none else inlineTable? (value? depth) rest
    | 't' :: 'r' :: 'u' :: 'e' :: rest => some (.boolean true, rest)
    | 'f' :: 'a' :: 'l' :: 's' :: 'e' :: rest => some (.boolean false, rest)
    | _ =>
      ((moment? cs).map fun (s, rest) => (.moment s, rest))
        <|> (number? cs).map fun (n, rest) => (ofNumber n, rest)

/-! ## Statements -/

inductive Statement
  | tableHeader (path : List String)
  | elementHeader (path : List String)
  | assignment (key : List String) (v : Value)

def closed (close : List Char) (read : List String × List Char) :
    Option (List String × List Char) :=
  if close.isPrefixOf read.2 then some (read.1, read.2.drop close.length) else none

/-- One statement up to the end of its line. -/
def statement? : Reader Statement := fun cs => do
  let (statement, rest) ←
    match cs with
    | '[' :: '[' :: rest => do
      let (path, rest) ← (key? rest).bind (closed [']', ']'])
      pure (Statement.elementHeader path, rest)
    | '[' :: rest => do
      let (path, rest) ← (key? rest).bind (closed [']'])
      pure (Statement.tableHeader path, rest)
    | _ => do
      let ((key, v), rest) ← assignment? (value? depthLimit) cs
      pure (Statement.assignment key v, rest)
  let rest ← endOfLine? rest
  return (statement, rest)

/-- All statements of a text. Every round takes a line, so the length is fuel enough. -/
def statements (fuel : Nat) (cs : List Char) : Option (List Statement) :=
  match fuel with
  | 0 => none
  | fuel + 1 =>
    match skipSpace cs.length cs with
    | [] => some []
    | cs => (statement? cs).bind fun (s, rest) => (statements fuel rest).map (s :: ·)

/-- Carries a statement out on the document; `current` is the path of the open table. -/
def Statement.apply (current : List String) (root : Item) :
    Statement → Option (List String × Item)
  | .tableHeader path =>
    (path.getLast?.bind fun key => root.alter false (Item.openTable key) path.dropLast).map
      (path, ·)
  | .elementHeader path =>
    (path.getLast?.bind fun key => root.alter false (Item.openElement key) path.dropLast).map
      (path, ·)
  | .assignment key v => (root.alter false (assignKey key v) current).map (current, ·)

/-- A byte order mark in front of a document is no part of it. -/
def dropMark : List Char → List Char
  | '\ufeff' :: rest => rest
  | cs => cs

/-- The entries of the document's table; `none` if the text is not well formed. -/
def parse? (text : String) : Option (List (String × Value)) := do
  let cs := dropMark text.toList
  let steps ← statements (cs.length + 1) cs
  let (_, root) ←
    steps.foldlM (fun (current, root) s => s.apply current root) ([], Item.blank .explicit)
  match ← root.toValue.resolved? with
  | .table entries => some entries
  | _ => none

end DurableWatch.Toml
