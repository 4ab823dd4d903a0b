import ChannelGuard.Number.Binary64

/-!
Decimal notation: a whole significand at a power of ten, read from digits and rounded to binary64,
and the shortest such notation that reads back as a given number.
-/
namespace ChannelGuard.Number

/-- The value `significand * 10 ^ exponent`. -/
structure Decimal where
  significand : Nat
  exponent : Int
  deriving DecidableEq

/-- The value of a row of decimal digits. -/
def digitsValue (digits : List Char) : Nat :=
  digits.foldl (fun value d => 10 * value + (d.toNat - '0'.toNat)) 0

/-- The decimal digits of a whole number, zero having one. -/
def decimalDigits (n : Nat) : List Char := Nat.toDigits 10 n

namespace Decimal

/-- The digits before and after the point as one decimal. -/
def ofDigits (whole fraction : List Char) : Decimal :=
  ⟨digitsValue (whole ++ fraction), -(fraction.length : Int)⟩

/-- The decimal as a numerator over a denominator. -/
def ratio (d : Decimal) : Nat × Nat :=
  (d.significand * Nat.pow 10 d.exponent.toNat, Nat.pow 10 (-d.exponent).toNat)

/-- The binary64 number nearest to a decimal; none when that is infinite. -/
def toBinary64? (negative : Bool) (d : Decimal) : Option Binary64 :=
  Binary64.ofRatio? negative d.ratio.1 d.ratio.2

/-- The same value without trailing zeros in the significand. -/
def normalize (d : Decimal) : Decimal :=
  let digits := (decimalDigits d.significand).reverse
  let zeros := (digits.takeWhile (· == '0')).length
  if d.significand = 0 then ⟨0, 0⟩
  else ⟨d.significand / Nat.pow 10 zeros, d.exponent + zeros⟩

/-- The exponent of the leading digit of the positive value `num / den`. -/
def leadingExponent (num den : Nat) : Int :=
  if den ≤ num then (decimalDigits (num / den)).length - 1
  else
    let digits := (decimalDigits (den / num)).length
    if den = num * Nat.pow 10 (digits - 1) then 1 - (digits : Int) else -(digits : Int)

/-- Of the two multiples of `10 ^ exponent` around the magnitude of `x`, those that read back as
that magnitude, the nearer one first. -/
def neighbours (x : Binary64) (exponent : Int) : List Decimal :=
  let (num, den) := x.ratio
  let scaledNum := num * Nat.pow 10 (-exponent).toNat
  let scaledDen := den * Nat.pow 10 exponent.toNat
  let below := scaledNum / scaledDen
  let twiceRest := 2 * (scaledNum % scaledDen)
  let upFirst :=
    twiceRest > scaledDen || (twiceRest == scaledDen && below % 2 == 1)
  let candidates := if upFirst then [below + 1, below] else [below, below + 1]
  (candidates.map (⟨·, exponent⟩)).filter fun d =>
    nearestMagnitude d.ratio.1 d.ratio.2 == x.magnitude

/-- The decimal with the fewest digits that reads back as the magnitude of `x`, and of those the
nearest one; seventeen digits always suffice. -/
def shortest (x : Binary64) : Decimal :=
  if x.isZero then ⟨0, 0⟩
  else
    let leading := leadingExponent x.ratio.1 x.ratio.2
    let found := (List.range 17).findSome? fun (extra : Nat) =>
      (neighbours x (leading - extra)).head?
    (found.getD ⟨0, 0⟩).normalize

/-- Positional notation: all digits written out, the fraction after a point only where there is
one. -/
def positional (d : Decimal) : List Char :=
  let digits := decimalDigits d.significand
  if 0 ≤ d.exponent then
    if d.significand = 0 then digits else digits ++ List.replicate d.exponent.toNat '0'
  else
    let places := (-d.exponent).toNat
    let padded := List.replicate (places + 1 - digits.length) '0' ++ digits
    padded.take (padded.length - places) ++ '.' :: padded.drop (padded.length - places)

end Decimal

end ChannelGuard.Number
