import ChannelGuard.Number.Decimal

/-! Binary64 values of every kind: finite numbers, infinities and what is not a number. -/
namespace ChannelGuard.Number

inductive Float64 where
  | finite (x : Binary64)
  | infinite (negative : Bool)
  | notANumber
  deriving DecidableEq

namespace Float64

/-- Everything but the two zeros, what is not a number included. -/
def isNonZero : Float64 → Bool
  | finite x => !x.isZero
  | infinite _ | notANumber => true

/-- The nearest whole number from zero to `top`, halves going up; zero for what is not a number. -/
def toNatWithin (top : Nat) : Float64 → Nat
  | finite x =>
    let (num, den) := x.ratio
    if x.negative then 0 else min top ((2 * num + den) / (2 * den))
  | infinite negative => if negative then 0 else top
  | notANumber => 0

/-- Shortest digits in positional notation. -/
def text : Float64 → String
  | finite x =>
    let digits := (Decimal.shortest x).positional
    String.ofList (if x.negative then '-' :: digits else digits)
  | infinite negative => if negative then "-inf" else "inf"
  | notANumber => "NaN"

end Float64

end ChannelGuard.Number
