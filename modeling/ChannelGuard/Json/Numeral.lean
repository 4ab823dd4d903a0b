import ChannelGuard.Json.Basic

/-!
Numbers as JSON text writes them. An integer that fits 64 bits stays one; every other number becomes
a float, from digits of which those that do not fit 64 bits count for its size alone.
-/
namespace ChannelGuard.Json

open Number

/-- Takes digits into a significand as long as it fits 64 bits, and gives the rest. -/
def fillSignificand (significand : Nat) : List Char → Nat × List Char
  | [] => (significand, [])
  | d :: rest =>
    let next := 10 * significand + (d.toNat - '0'.toNat)
    if next < 0x10000000000000000 then fillSignificand next rest else (significand, d :: rest)

/-- Powers of ten up to this exponent are binary64 numbers. -/
def maxPowerOfTen : Nat := 308

/-- The binary64 number nearest to a power of ten that has one. -/
def powerOfTen (exponent : Nat) : Binary64 :=
  (Binary64.ofRatio? false (Nat.pow 10 exponent) 1).getD (.largest false)

/-- Multiplies by a power of ten in as few rounded steps as the table of powers allows; none when
the result is infinite. -/
def scale? (x : Binary64) (exponent : Int) : Option Binary64 :=
  if exponent.natAbs ≤ maxPowerOfTen then
    if 0 ≤ exponent then x.times? (powerOfTen exponent.natAbs)
    else x.over? (powerOfTen exponent.natAbs)
  else if x.isZero then some x
  else if 0 ≤ exponent then none
  else
    (x.over? (powerOfTen maxPowerOfTen)).bind fun y => scale? y (exponent + maxPowerOfTen)
termination_by (-exponent).toNat
decreasing_by have : maxPowerOfTen = 308 := rfl; omega

/-- A number as written: its digits before and after the point, and its exponent. -/
structure Numeral where
  negative : Bool
  whole : List Char
  fraction : Option (List Char)
  exponent : Option Int

/-- Digits, or none where the text goes on with something else. -/
def digits? (text : List Char) : Option (List Char × List Char) :=
  match text.takeWhile Char.isDigit with
  | [] => none
  | digits => some (digits, text.dropWhile Char.isDigit)

def fractionPart? : List Char → Option (Option (List Char) × List Char)
  | '.' :: rest => (digits? rest).map fun (digits, rest) => (some digits, rest)
  | rest => some (none, rest)

def exponentPart? : List Char → Option (Option Int × List Char)
  | c :: rest =>
    if c = 'e' || c = 'E' then
      let (negative, rest) := match rest with
        | '-' :: rest => (true, rest)
        | '+' :: rest => (false, rest)
        | rest => (false, rest)
      (digits? rest).map fun (digits, rest) =>
        let size : Int := digitsValue digits
        (some (if negative then -size else size), rest)
    else some (none, c :: rest)
  | [] => some (none, [])

namespace Numeral

/-- The number at the front of a text, and what follows. A zero in front of digits is refused. -/
def read? (text : List Char) : Option (Numeral × List Char) := do
  let (negative, text) := match text with
    | '-' :: rest => (true, rest)
    | text => (false, text)
  let (whole, text) ← digits? text
  if whole.head? = some '0' && 1 < whole.length then none
  let (fraction, text) ← fractionPart? text
  let (exponent, text) ← exponentPart? text
  some (⟨negative, whole, fraction, exponent⟩, text)

/-- The float that digits and exponent stand for. -/
def float? (n : Numeral) : Option Binary64 :=
  let fraction := n.fraction.getD []
  let (significand, droppedWhole) := fillSignificand 0 n.whole
  let (significand, droppedFraction) := fillSignificand significand fraction
  let places : Int := droppedWhole.length + droppedFraction.length - fraction.length
  let exponent := places + n.exponent.getD 0
  (scale? (.ofInt significand) exponent).map fun x => { x with negative := n.negative }

/-- Without fraction and exponent an integer if it fits, except for minus zero; a float otherwise,
if it is finite. -/
def value? (n : Numeral) : Option JsonNumber :=
  let float := n.float?.map .float
  if n.fraction.isSome || n.exponent.isSome then float
  else
    let size : Int := digitsValue n.whole
    if n.negative && size == 0 then float
    else
      match WideInt.ofInt? (if n.negative then -size else size) with
      | some i => some (.integer i)
      | none => float

end Numeral

end ChannelGuard.Json
