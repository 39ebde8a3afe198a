/-!
# Floating-point numbers as exact fractions

A finite number is a mantissa times a power of two. Rounding to an integer is done on that form, in
exact arithmetic.
-/
namespace DurableWatch.Decimal

/-- A power of two, by which a mantissa is scaled. -/
def twoTo (n : Nat) : Nat := Nat.pow 2 n

/-- A power of ten, by which decimal digits are scaled. -/
def tenTo (n : Nat) : Nat := Nat.pow 10 n

/-- The number `mantissa · 2 ^ exponent`, negated if `negative`. -/
structure Dyadic where
  negative : Bool
  mantissa : Nat
  exponent : Int
  deriving DecidableEq, Repr

/-- The value of a finite number; `none` for the infinities and for what is not a number. -/
def dyadic? (x : Float) : Option Dyadic :=
  let bits : Nat := x.toBits.toNat
  let negative : Bool := bits / twoTo 63 = 1
  let biased : Nat := bits / twoTo 52 % 2048
  let fraction : Nat := bits % twoTo 52
  if biased = 2047 then none
  else if biased = 0 then some ⟨negative, fraction, -1074⟩
  else some ⟨negative, twoTo 52 + fraction, (biased : Int) - 1075⟩

def isNegative (x : Float) : Bool := x.toBits.toNat / twoTo 63 = 1

/-- Whether the number is none: every exponent bit is set, and the fraction is not zero. -/
def isNaN (x : Float) : Bool :=
  x.toBits.toNat / twoTo 52 % 2048 = 2047 && x.toBits.toNat % twoTo 52 ≠ 0

namespace Dyadic

/-- The size of the number as a quotient of naturals. -/
def ratio (d : Dyadic) : Nat × Nat :=
  (d.mantissa * twoTo d.exponent.toNat, twoTo (-d.exponent).toNat)

/-- The nearest integer to the size of the number; a half goes up. -/
def roundedSize (d : Dyadic) : Nat :=
  let (num, den) := d.ratio
  (2 * num + den) / (2 * den)

end Dyadic

/-- The nearest natural number up to `limit`; a half goes up. What lies outside goes to the end that
is nearer, and what is not a number to zero. -/
def clampToNat (limit : Nat) (x : Float) : Nat :=
  match dyadic? x with
  | some d => if d.negative then 0 else min limit d.roundedSize
  | none => if isNaN x || isNegative x then 0 else limit

end DurableWatch.Decimal
