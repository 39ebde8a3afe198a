import DurableWatch.Decimal.Reading

/-!
# The smallest pieces of a TOML text

Blanks, comments, strings, numbers, dates and keys. A reader gets the characters to come and answers
what it has read, with the characters left; it answers nothing where the text breaks the format.
-/
namespace DurableWatch.Toml

abbrev Reader (α : Type) := List Char → Option (α × List Char)

def isBlank (c : Char) : Bool := c = ' ' || c = '\t'

def skipBlanks (cs : List Char) : List Char := cs.dropWhile isBlank

/-- Characters that may stand in a comment: no control characters but the tab. -/
def isCommentChar (c : Char) : Bool := c = '\t' || (' ' ≤ c && c ≠ '\x7f')

def isBasicChar (c : Char) : Bool := isCommentChar c && c ≠ '"' && c ≠ '\\'

def isLiteralChar (c : Char) : Bool := isCommentChar c && c ≠ '\''

/-- What follows a line break, if the text goes on with one. -/
def lineBreak? : List Char → Option (List Char)
  | '\n' :: rest => some rest
  | '\r' :: '\n' :: rest => some rest
  | _ => none

def skipComment : List Char → List Char
  | '#' :: rest => rest.dropWhile isCommentChar
  | cs => cs

/-- Blanks, perhaps a comment, and the end of the line or of the text. -/
def endOfLine? (cs : List Char) : Option (List Char) :=
  match skipComment (skipBlanks cs) with
  | [] => some []
  | rest => lineBreak? rest

/-- Blanks, comments and line breaks. Every round takes a character, so the length is fuel enough.
-/
def skipSpace (fuel : Nat) (cs : List Char) : List Char :=
  match fuel with
  | 0 => cs
  | fuel + 1 =>
    let rest := skipBlanks cs
    match lineBreak? rest with
    | some rest => skipSpace fuel rest
    | none =>
      match rest with
      | '#' :: _ =>
        match lineBreak? (skipComment rest) with
        | some rest => skipSpace fuel rest
        | none => skipComment rest
      | _ => rest

/-- The character of a code point; surrogates and what lies beyond the last plane have none. -/
def scalar? (n : Nat) : Option Char :=
  if h : n.isValidChar then some (Char.ofNatAux n h) else none

/-- The escape behind a backslash. -/
def escape? : Reader Char
  | 'b' :: rest => some ('\x08', rest)
  | 't' :: rest => some ('\t', rest)
  | 'n' :: rest => some ('\n', rest)
  | 'f' :: rest => some ('\x0c', rest)
  | 'r' :: rest => some ('\r', rest)
  | '"' :: rest => some ('"', rest)
  | '\\' :: rest => some ('\\', rest)
  | c :: rest =>
    let size := if c = 'u' then 4 else 8
    if c ≠ 'u' && c ≠ 'U' || rest.length < size then none
    else
      ((Decimal.natural? 16 (rest.take size)).bind scalar?).map fun x => (x, rest.drop size)
  | [] => none

/-- The rest of a string in double quotes. -/
def basicString (fuel : Nat) (read : List Char) (cs : List Char) : Option (String × List Char) :=
  match fuel, cs with
  | fuel + 1, c :: rest =>
    if c = '"' then some (String.ofList read.reverse, rest)
    else if c = '\\' then (escape? rest).bind fun (x, rest) => basicString fuel (x :: read) rest
    else if isBasicChar c then basicString fuel (c :: read) rest
    else none
  | _, _ => none

/-- The rest of a string in single quotes. -/
def literalString : Reader String := fun cs =>
  match cs.dropWhile isLiteralChar with
  | '\'' :: rest => some (String.ofList (cs.takeWhile isLiteralChar), rest)
  | _ => none

/-- The end of a string with triple quotes, at its third quote from the end: up to two quotes before
the closing ones belong to the string. -/
def tripleEnd (quote : Char) (read : List Char) (rest : List Char) : String × List Char :=
  match rest with
  | a :: b :: more =>
    if a = quote && b = quote then (String.ofList (quote :: quote :: read).reverse, more)
    else if a = quote then (String.ofList (quote :: read).reverse, b :: more)
    else (String.ofList read.reverse, rest)
  | [a] =>
    if a = quote then (String.ofList (quote :: read).reverse, [])
    else (String.ofList read.reverse, rest)
  | [] => (String.ofList read.reverse, [])

/-- Drops a line break behind the opening quotes. -/
def dropLineBreak (cs : List Char) : List Char := (lineBreak? cs).getD cs

/-- Blanks and line breaks, which a backslash at the end of a line takes away. -/
def skipLines (fuel : Nat) (cs : List Char) : List Char :=
  match fuel with
  | 0 => cs
  | fuel + 1 =>
    match lineBreak? (skipBlanks cs) with
    | some rest => skipLines fuel rest
    | none => skipBlanks cs

/-- The rest of a string in triple double quotes. -/
def basicLines (fuel : Nat) (read : List Char) (cs : List Char) : Option (String × List Char) :=
  match fuel, cs with
  | _ + 1, '"' :: '"' :: '"' :: rest => some (tripleEnd '"' read rest)
  | fuel + 1, c :: rest =>
    if c = '"' then basicLines fuel ('"' :: read) rest
    else if c = '\\' then
      match lineBreak? (skipBlanks rest) with
      | some rest => basicLines fuel read (skipLines (rest.length + 1) rest)
      | none => (escape? rest).bind fun (x, rest) => basicLines fuel (x :: read) rest
    else
      match lineBreak? (c :: rest) with
      | some rest => basicLines fuel ('\n' :: read) rest
      | none => if isBasicChar c then basicLines fuel (c :: read) rest else none
  | _, _ => none

/-- The rest of a string in triple single quotes. -/
def literalLines (fuel : Nat) (read : List Char) (cs : List Char) : Option (String × List Char) :=
  match fuel, cs with
  | _ + 1, '\'' :: '\'' :: '\'' :: rest => some (tripleEnd '\'' read rest)
  | fuel + 1, c :: rest =>
    if c = '\'' then literalLines fuel ('\'' :: read) rest
    else
      match lineBreak? (c :: rest) with
      | some rest => literalLines fuel ('\n' :: read) rest
      | none => if isLiteralChar c then literalLines fuel (c :: read) rest else none
  | _, _ => none

/-- A string on one line, as it may also stand for a key. -/
def lineString? : Reader String
  | '"' :: rest => basicString (rest.length + 1) [] rest
  | '\'' :: rest => literalString rest
  | _ => none

def string? : Reader String
  | '"' :: '"' :: '"' :: rest => basicLines (rest.length + 1) [] (dropLineBreak rest)
  | '\'' :: '\'' :: '\'' :: rest => literalLines (rest.length + 1) [] (dropLineBreak rest)
  | cs => lineString? cs

/-! ## Keys -/

def isBareKeyChar (c : Char) : Bool := c.isAlphanum || c = '_' || c = '-'

def simpleKey? : Reader String := fun cs =>
  match cs with
  | '"' :: _ | '\'' :: _ => lineString? cs
  | _ =>
    match cs.takeWhile isBareKeyChar with
    | [] => none
    | key => some (String.ofList key, cs.dropWhile isBareKeyChar)

/-- Keys between dots, with blanks around each. -/
def dottedKey (fuel : Nat) (cs : List Char) : Option (List String × List Char) :=
  match fuel with
  | 0 => none
  | fuel + 1 =>
    (simpleKey? (skipBlanks cs)).bind fun (key, rest) =>
      match skipBlanks rest with
      | '.' :: rest => (dottedKey fuel rest).map fun (keys, rest) => (key :: keys, rest)
      | rest => some ([key], rest)

/-- Neither keys nor values go deeper than this. -/
def depthLimit : Nat := 80

def key? : Reader (List String) := fun cs =>
  (dottedKey (cs.length + 1) cs).filter fun (keys, _) => keys.length < depthLimit

/-! ## Numbers -/

/-- Digits with single underscores between them; the underscores are dropped. -/
def digitRun (base : Nat) (fuel : Nat) (cs : List Char) : Option (List Char × List Char) :=
  match fuel, cs with
  | fuel + 1, c :: rest =>
    if !Decimal.isDigitIn base c then none
    else
      let next := match rest with
        | '_' :: more => more
        | _ => rest
      match digitRun base fuel next with
      | some (digits, rest) => some (c :: digits, rest)
      | none => some ([c], rest)
  | _, _ => none

def digits? (base : Nat) : Reader (List Char) := fun cs => digitRun base cs.length cs

/-- The whole part of a decimal number has no zero in front. -/
def whole? : Reader (List Char)
  | '0' :: rest => some (['0'], rest)
  | cs => digits? 10 cs

inductive Number
  | integer (i : Int)
  | float (x : Float)

/-- A number in another base, behind its mark. -/
def basedNumber? (base : Nat) : Reader Number := fun cs =>
  (digits? base cs).bind fun (digits, rest) =>
    (Decimal.int64? base digits).map fun i => (.integer i, rest)

/-- The mark and what follows it, if the text goes on with one of the marks and then the part. -/
def marked? (marks : List Char) (part : Reader (List Char)) : Reader (List Char)
  | c :: rest =>
    if marks.contains c then (part rest).map fun (read, rest) => (c :: read, rest) else none
  | [] => none

def signed (part : Reader (List Char)) : Reader (List Char) := fun cs =>
  marked? ['+', '-'] part cs <|> part cs

/-- The part if it is there, else nothing. -/
def optional (part : Reader (List Char)) (cs : List Char) : List Char × List Char :=
  (part cs).getD ([], cs)

/-- A decimal number. A float that is too large for its type is refused, unless it is negative. -/
def decimalNumber? : Reader Number := fun cs =>
  (signed whole? cs).bind fun (whole, rest) =>
    let (fraction, rest) := optional (marked? ['.'] (digits? 10)) rest
    let (exponent, rest) := optional (marked? ['e', 'E'] (signed (digits? 10))) rest
    if fraction.isEmpty && exponent.isEmpty then
      (Decimal.int64? 10 whole).map fun i => (.integer i, rest)
    else
      ((Decimal.float? (whole ++ fraction ++ exponent)).filter fun x => x != 1 / 0).map fun x =>
        (.float x, rest)

def namedNumber? : Reader Number := fun cs =>
  let (negative, rest) := Decimal.splitSign cs
  let sign (x : Float) : Number := .float (if negative then -x else x)
  match rest with
  | 'i' :: 'n' :: 'f' :: rest => some (sign (1 / 0), rest)
  | 'n' :: 'a' :: 'n' :: rest => some (sign (0 / 0), rest)
  | _ => none

def number? : Reader Number
  | '0' :: 'x' :: rest => basedNumber? 16 rest
  | '0' :: 'o' :: rest => basedNumber? 8 rest
  | '0' :: 'b' :: rest => basedNumber? 2 rest
  | cs => namedNumber? cs <|> decimalNumber? cs

/-! ## Dates and times -/

/-- Exactly `size` digits, with a value in the given range. -/
def fixedDigits? (size low high : Nat) : Reader (List Char) := fun cs =>
  let digits := cs.take size
  if digits.length = size && digits.all Char.isDigit
      && low ≤ Decimal.valueOf 10 digits && Decimal.valueOf 10 digits ≤ high then
    some (digits, cs.drop size)
  else none

def isLeapYear (y : Nat) : Bool := y % 4 = 0 && (y % 100 ≠ 0 || y % 400 = 0)

def daysInMonth (y m : Nat) : Nat :=
  if m = 2 then if isLeapYear y then 29 else 28
  else if m = 4 || m = 6 || m = 9 || m = 11 then 30
  else 31

def date? : Reader (List Char) := fun cs => do
  let (year, rest) ← fixedDigits? 4 0 9999 cs
  let (month, rest) ← marked? ['-'] (fixedDigits? 2 1 12) rest
  let days := daysInMonth (Decimal.valueOf 10 year) (Decimal.valueOf 10 (month.drop 1))
  let (day, rest) ← marked? ['-'] (fixedDigits? 2 1 days) rest
  return (year ++ month ++ day, rest)

/-- The digits of a second's fraction, less zeros at the end; nine of them count. -/
def secondFraction (cs : List Char) : List Char × List Char :=
  match cs with
  | '.' :: rest =>
    match rest.takeWhile Char.isDigit with
    | [] => ([], cs)
    | digits =>
      let kept := ((digits.take 9).reverse.dropWhile (· = '0')).reverse
      (if kept.isEmpty then [] else '.' :: kept, rest.dropWhile Char.isDigit)
  | _ => ([], cs)

/-- A time whose hour is at most `lastHour`. -/
def time? (lastHour : Nat) : Reader (List Char) := fun cs => do
  let (hour, rest) ← fixedDigits? 2 0 lastHour cs
  let (minute, rest) ← marked? [':'] (fixedDigits? 2 0 59) rest
  let (second, rest) ← marked? [':'] (fixedDigits? 2 0 60) rest
  let (fraction, rest) := secondFraction rest
  return (hour ++ minute ++ second ++ fraction, rest)

def twoDigits (n : Nat) : List Char :=
  if n < 10 then '0' :: Nat.toDigits 10 n else Nat.toDigits 10 n

/-- A distance from universal time in hours and minutes, each at most as given, and a day in all at
most. None at all is written with a plus sign. -/
def offset? (lastHour lastMinute : Nat) : Reader (List Char)
  | 'Z' :: rest | 'z' :: rest => some (['Z'], rest)
  | sign :: rest => do
    if sign ≠ '+' && sign ≠ '-' then none
    let (hour, rest) ← fixedDigits? 2 0 lastHour rest
    let (minute, rest) ← marked? [':'] (fixedDigits? 2 0 lastMinute) rest
    let minutes := Decimal.valueOf 10 hour * 60 + Decimal.valueOf 10 (minute.drop 1)
    if 24 * 60 < minutes then none
    return ((if minutes = 0 then '+' else sign) :: twoDigits (minutes / 60)
      ++ ':' :: twoDigits (minutes % 60), rest)
  | [] => none

/-- A time behind a date. -/
def timeOfDate? (lastHour : Nat) : Reader (List Char) := fun cs =>
  (marked? ['T', 't', ' '] (time? lastHour) cs).map fun (read, rest) => ('T' :: read.drop 1, rest)

/-- A date, a time, or both, in its usual text. Only where there are both, a distance from universal
time may follow. -/
def moment? : Reader String := fun cs =>
  (match date? cs with
    | some (date, rest) =>
      match timeOfDate? 23 rest with
      | some (time, rest) =>
        let (offset, rest) := optional (offset? 23 59) rest
        some (date ++ time ++ offset, rest)
      | none => some (date, rest)
    | none => time? 23 cs).map fun (read, rest) => (String.ofList read, rest)

/-- The usual text of a date or time that is given as a string. There the last hour may be 24, a
distance may have any two digits for its minutes, and it may stand behind a date alone. -/
def momentOfText? (text : String) : Option String :=
  let read :=
    match date? text.toList with
    | some (date, rest) =>
      let (time, rest) := optional (timeOfDate? 24) rest
      let (offset, rest) := optional (offset? 99 99) rest
      some (date ++ time ++ offset, rest)
    | none => time? 24 text.toList
  (read.filter fun (_, rest) => rest.isEmpty).map fun (read, _) => String.ofList read

end DurableWatch.Toml
