/-!
# Properties of characters as ranges of code points
-/
namespace DurableWatch.Text

/-- A property of characters, given by the closed ranges of code points that have it. -/
abbrev Ranges := Array (Nat × Nat)

def Ranges.holds (r : Ranges) (c : Char) : Bool :=
  r.any fun (first, last) => first ≤ c.toNat && c.toNat ≤ last

end DurableWatch.Text
