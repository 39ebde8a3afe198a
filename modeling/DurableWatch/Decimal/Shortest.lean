import DurableWatch.Decimal.Dyadic

/-!
# The shortest decimal text of a number

The fewest decimal digits that read back as the number, and among those the nearest to it, written
without an exponent.
-/
namespace DurableWatch.Decimal

/-- The numbers that read back as a given one lie between two bounds, here as quotients with one
denominator. The bounds themselves do so if `closed`. -/
structure Interval where
  value : Nat
  below : Nat
  above : Nat
  den : Nat
  closed : Bool
  deriving DecidableEq, Repr

/-- Half-way to the neighbours on both sides; the one below a power of two is only half as far. -/
def Interval.around (d : Dyadic) : Interval :=
  let (num, den) := d.ratio
  let step := twoTo d.exponent.toNat
  let near := d.mantissa = twoTo 52 ∧ -1074 < d.exponent
  { value := 4 * num
    below := 4 * num - (if near then step else 2 * step)
    above := 4 * num + 2 * step
    den := 4 * den
    closed := d.mantissa % 2 = 0 }

/-- Whether `n / scale` lies in the interval. -/
def Interval.holds (i : Interval) (n scale : Nat) : Bool :=
  if i.closed then i.below * scale ≤ n * i.den && n * i.den ≤ i.above * scale
  else i.below * scale < n * i.den && n * i.den < i.above * scale

/-- The multiple of `unit / scale` in the interval that is nearest to the value, in units, if one of
the two next to the value is in it. Half-way between them, the greater one counts as nearest. -/
def Interval.nearest? (i : Interval) (unit scale : Nat) : Option Nat :=
  let low := i.value * scale / (unit * i.den)
  let high := low + 1
  match i.holds (low * unit) scale, i.holds (high * unit) scale with
  | true, true =>
    let down := i.value * scale - low * unit * i.den
    let up := high * unit * i.den - i.value * scale
    some (if up ≤ down then high else low)
  | true, false => some low
  | false, true => some high
  | false, false => none

/-- The exponent of ten of the leading digit of a positive quotient. -/
def leadingExponent (num den : Nat) : Int :=
  if den ≤ num then ((Nat.toDigits 10 (num / den)).length : Int) - 1
  else
    match (List.range 400).find? fun t => den ≤ num * tenTo t with
    | some t => -(t : Int)
    | none => 0

/-- The digits of a positive number, with the exponent of ten of the last one: the first of ever
finer grids that has a number that reads back. The coarsest is that of the next power of ten, which
the number may stand just below; so the digits never end in a zero. -/
def shortestDigits (d : Dyadic) : Nat × Int :=
  let i := Interval.around d
  let lead := leadingExponent i.value i.den
  let candidate (count : Nat) : Option (Nat × Int) :=
    let exponent := lead + 1 - count
    (i.nearest? (tenTo exponent.toNat) (tenTo (-exponent).toNat)).map fun n => (n, exponent)
  ((List.range 18).findSome? candidate).getD (0, 0)

/-- Digits and an exponent of ten in positional notation. -/
def positional (n : Nat) (exponent : Int) : String :=
  if 0 ≤ exponent then String.ofList (Nat.toDigits 10 (n * tenTo exponent.toNat))
  else
    let places := (-exponent).toNat
    let unit := tenTo places
    let fraction := Nat.toDigits 10 (n % unit)
    String.ofList (Nat.toDigits 10 (n / unit) ++ ['.']
      ++ List.replicate (places - fraction.length) '0' ++ fraction)

/-- The text of a number. A whole number ends in `.0`. -/
def text (x : Float) : String :=
  match dyadic? x with
  | none => if isNaN x then "NaN" else if isNegative x then "-inf" else "inf"
  | some d =>
    let (n, exponent) := if d.mantissa = 0 then (0, 0) else shortestDigits d
    let sign := if d.negative then "-" else ""
    sign ++ positional n exponent ++ (if 0 ≤ exponent then ".0" else "")

end DurableWatch.Decimal
