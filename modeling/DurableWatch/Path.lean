/-!
# Node paths

Nodes are named by texts such as `/a/b`: a slash before every segment, and `/` alone for the root.
All functions accept any text; `defect?` says whether it is a path and, if not, which rule it
breaks.
-/
namespace DurableWatch

abbrev Path := String

/-- The rules of a path, in the order in which they are checked. -/
inductive PathDefect
  | empty
  | relative
  | trailingSlash
  | emptySegment
  deriving DecidableEq, Repr

def PathDefect.message (p : Path) : PathDefect → String
  | .empty => "path must not be empty"
  | .relative => "path " ++ p ++ " must start with '/'"
  | .trailingSlash => "path " ++ p ++ " must not end with '/'"
  | .emptySegment => "path " ++ p ++ " contains an empty segment"

namespace Path

def root : Path := "/"

def defectOfChars : List Char → Option PathDefect
  | [] => some .empty
  | c :: rest =>
    if c ≠ '/' then some .relative
    else if rest = [] then none
    else if rest.getLast? = some '/' then some .trailingSlash
    else if (rest.splitOn '/').any List.isEmpty then some .emptySegment
    else none

/-- The first rule that `p` breaks; `none` when `p` is a path. -/
def defect? (p : Path) : Option PathDefect := defectOfChars p.toList

/-- The path of the node `name` below `parent`. -/
def child (parent : Path) (name : String) : Path :=
  if parent = root then "/" ++ name else parent ++ "/" ++ name

/-- What stands before the last slash, read as the root when nothing does. The root itself has no
parent, nor has a text without a slash. -/
def parent? (p : Path) : Option Path :=
  if p = root then none
  else
    match p.toList.reverse.dropWhile (· ≠ '/') with
    | [] => none
    | [_] => some root
    | _ :: front => some (String.ofList front.reverse)

/-- What stands behind the last slash; the whole text when it has none. -/
def name (p : Path) : String :=
  String.ofList (p.toList.reverse.takeWhile (· ≠ '/')).reverse

/-- The pieces between slashes that are not empty. -/
def segments (p : Path) : List (List Char) :=
  (p.toList.splitOn '/').filter fun s => !s.isEmpty

/-- The paths made of `above` and one, two, … of the segments. -/
def chain (above : Path) : List (List Char) → List Path
  | [] => []
  | s :: rest =>
    let here := above ++ "/" ++ String.ofList s
    here :: chain here rest

/-- Every node strictly between the root and `p`, the outermost first. -/
def ancestors (p : Path) : List Path := chain "" (segments p).dropLast

end Path

end DurableWatch
