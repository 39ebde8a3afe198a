import DurableWatch.Decimal.Dyadic

/-!
# Reading numbers

Integers in a base and decimal fractions. A reader takes the whole text or nothing.
-/
namespace DurableWatch.Decimal

/-- The value of a digit in bases up to sixteen. -/
def digitValue? (c : Char) : Option Nat :=
  if '0' ≤ c && c ≤ '9' then some (c.toNat - '0'.toNat)
  else if 'a' ≤ c && c ≤ 'f' then some (c.toNat - 'a'.toNat + 10)
  else if 'A' ≤ c && c ≤ 'F' then some (c.toNat - 'A'.toNat + 10)
  else none

def isDigitIn (base : Nat) (c : Char) : Bool := (digitValue? c).any (· < base)

def valueOf (base : Nat) (digits : List Char) : Nat :=
  digits.foldl (fun n c => base * n + (digitValue? c).getD 0) 0

/-- One or more digits. -/
def natural? (base : Nat) (cs : List Char) : Option Nat :=
  if cs ≠ [] && cs.all (isDigitIn base) then some (valueOf base cs) else none

/-- Whether a sign says that the number is negative, and what follows the sign. -/
def splitSign : List Char → Bool × List Char
  | '-' :: cs => (true, cs)
  | '+' :: cs => (false, cs)
  | cs => (false, cs)

/-- Digits after an optional sign. -/
def integer? (base : Nat) (cs : List Char) : Option Int :=
  let (negative, digits) := splitSign cs
  (natural? base digits).map fun n => if negative then -(n : Int) else n

def fitsInt64 (i : Int) : Bool := -(twoTo 63 : Int) ≤ i && i < (twoTo 63 : Int)

/-- A signed integer of 64 bits. -/
def int64? (base : Nat) (cs : List Char) : Option Int := (integer? base cs).filter fitsInt64

/-- An unsigned integer of 64 bits. A plus sign is allowed, a minus sign is not. -/
def uint64? (cs : List Char) : Option Nat :=
  let digits := match cs with
    | '+' :: rest => rest
    | _ => cs
  (natural? 10 digits).filter (· < twoTo 64)

/-- The number with these digits, times a power of ten, rounded to the nearest. Beyond 400 places in
front of the point or behind it there is nothing to tell numbers apart. -/
def ofDigits (digits : List Char) (exponent : Int) : Float :=
  let n := valueOf 10 digits
  let lead := ((digits.dropWhile (· = '0')).length : Int) + exponent
  if n = 0 || lead < -400 then 0
  else if 400 < lead then 1 / 0
  else Float.ofScientific n (exponent < 0) exponent.natAbs

/-- The part behind an exponent mark, which may be missing altogether. -/
def exponent? : List Char → Option Int
  | [] => some 0
  | c :: cs => if c = 'e' || c = 'E' then integer? 10 cs else none

/-- Digits with an optional point and exponent. There is a digit on one side of the point at least.
-/
def fraction? (cs : List Char) : Option Float :=
  let whole := cs.takeWhile Char.isDigit
  let rest := cs.dropWhile Char.isDigit
  let (places, rest) :=
    match rest with
    | '.' :: more => (more.takeWhile Char.isDigit, more.dropWhile Char.isDigit)
    | _ => ([], rest)
  if whole.isEmpty && places.isEmpty then none
  else (exponent? rest).map fun e => ofDigits (whole ++ places) (e - places.length)

/-- The names of the numbers without digits, in any case. -/
def named? (cs : List Char) : Option Float :=
  let name := String.ofList (cs.map Char.toLower)
  if name = "inf" || name = "infinity" then some (1 / 0)
  else if name = "nan" then some (0 / 0)
  else none

def float? (cs : List Char) : Option Float :=
  let (negative, rest) := splitSign cs
  (named? rest <|> fraction? rest).map fun x => if negative then -x else x

end DurableWatch.Decimal
