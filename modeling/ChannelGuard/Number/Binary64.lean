/-!
Finite binary64 numbers. A number is kept as its sign and the bit pattern of its magnitude, so that
order is the order of integers and every operation is exact arithmetic followed by one rounding to
the nearest number, ties to the even pattern.
-/
namespace ChannelGuard.Number

/-- How many patterns share one exponent: two to the power of 52. -/
def binade : Nat := 0x10000000000000

/-- A finite binary64 number: its sign bit and the pattern of its other bits, which stays below the
pattern of infinity. -/
structure Binary64 where
  negative : Bool
  magnitude : Nat
  finite : magnitude < 2047 * binade
  deriving DecidableEq

/-- `num / den` to the nearest integer, a tie to the even one. -/
def divNearestEven (num den : Nat) : Nat :=
  let quotient := num / den
  let rest := num % den
  if 2 * rest < den then quotient
  else if den < 2 * rest then quotient + 1
  else quotient + quotient % 2

/-- The exponent of the last place that a number of size `num / den` has in binary64: 53 digits
below the leading one, yet never below the smallest subnormal. -/
def lastPlace (num den : Nat) : Int :=
  let order : Int := (Nat.log2 num : Int) - Nat.log2 den
  let reaches := den * Nat.pow 2 order.toNat ≤ num * Nat.pow 2 (-order).toNat
  max (-1074) (if reaches then order - 52 else order - 53)

/-- The magnitude pattern nearest to `num / den`, as if exponents had no upper end. -/
def nearestMagnitude (num den : Nat) : Nat :=
  if num = 0 then 0
  else
    let place := lastPlace num den
    let digits := divNearestEven (num * Nat.pow 2 (-place).toNat) (den * Nat.pow 2 place.toNat)
    (place + 1074).toNat * binade + digits

namespace Binary64

/-- The number nearest to `num / den` with the given sign; none when it would be infinite. -/
def ofRatio? (negative : Bool) (num den : Nat) : Option Binary64 :=
  let magnitude := nearestMagnitude num den
  if finite : magnitude < 2047 * binade then some ⟨negative, magnitude, finite⟩ else none

/-- Zero with a sign. -/
def zero (negative : Bool) : Binary64 := ⟨negative, 0, by decide⟩

/-- The largest finite number with the given sign. -/
def largest (negative : Bool) : Binary64 := ⟨negative, 2047 * binade - 1, by decide⟩

/-- The number nearest to an integer; an integer beyond the finite range goes to its end. -/
def ofInt (i : Int) : Binary64 :=
  (ofRatio? (i < 0) i.natAbs 1).getD (largest (i < 0))

/-- The magnitude as `significand * 2 ^ exponent`. -/
def significandExponent (x : Binary64) : Nat × Int :=
  let biased : Nat := x.magnitude / binade
  let fraction : Nat := x.magnitude % binade
  if biased = 0 then (fraction, -1074) else (fraction + binade, (biased : Int) - 1075)

/-- The magnitude as a numerator over a denominator. -/
def ratio (x : Binary64) : Nat × Nat :=
  let (significand, exponent) := x.significandExponent
  (significand * Nat.pow 2 exponent.toNat, Nat.pow 2 (-exponent).toNat)

/-- The place of a number in the order of all numbers; the two zeros share one place. -/
def place (x : Binary64) : Int := if x.negative then -x.magnitude else x.magnitude

/-- Equality of values: the two zeros are equal. -/
def sameValue (x y : Binary64) : Bool := x.place == y.place

/-- The order of values. -/
def compare (x y : Binary64) : Ordering := Ord.compare x.place y.place

def isZero (x : Binary64) : Bool := x.magnitude == 0

/-- The product of the magnitudes with the sign of `x`, rounded; none when it overflows. -/
def times? (x y : Binary64) : Option Binary64 :=
  ofRatio? x.negative (x.ratio.1 * y.ratio.1) (x.ratio.2 * y.ratio.2)

/-- The quotient of the magnitudes with the sign of `x`, rounded; none when it overflows. -/
def over? (x y : Binary64) : Option Binary64 :=
  ofRatio? x.negative (x.ratio.1 * y.ratio.2) (x.ratio.2 * y.ratio.1)

end Binary64

end ChannelGuard.Number
