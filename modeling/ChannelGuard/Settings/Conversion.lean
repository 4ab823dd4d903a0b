import ChannelGuard.Json.Printer
import ChannelGuard.Settings.Raw

/-!
From untyped settings to typed ones. Conversions are lenient: words and numbers stand for truth
values, texts for numbers, and numbers and truth values for texts.
-/
namespace ChannelGuard.Settings.Raw

/-- The largest whole number of 64 bits. -/
def maxWhole : Nat := 0xffffffffffffffff

/-- Digits, perhaps after a plus sign, as a whole number of 64 bits. -/
def wholeOfText? (text : List Char) : Option Nat :=
  let digits := match text with
    | '+' :: rest => rest
    | text => text
  if !digits.isEmpty && digits.all Char.isDigit && Number.digitsValue digits ≤ maxWhole then
    some (Number.digitsValue digits)
  else none

/-- A whole number of 64 bits. -/
def whole? : Raw → Option Nat
  | integer i => if 0 ≤ i then some i.toNat else none
  | string s =>
    match smallLetters s with
    | "true" | "on" | "yes" => some 1
    | "false" | "off" | "no" => some 0
    | _ => wholeOfText? s.toList
  | bool b => some b.toNat
  | float x => some (x.toNatWithin maxWhole)
  | absent | array _ | table _ => none

/-- A whole number up to `top`. -/
def wholeUpTo? (top : Nat) (value : Raw) : Option Nat :=
  value.whole?.filter (· ≤ top)

def bool? : Raw → Option Bool
  | bool b => some b
  | integer i => some (i != 0)
  | float x => some x.isNonZero
  | string s =>
    match smallLetters s with
    | "1" | "true" | "on" | "yes" => some true
    | "0" | "false" | "off" | "no" => some false
    | _ => none
  | absent | array _ | table _ => none

def string? : Raw → Option String
  | string s => some s
  | bool b => some (if b then "true" else "false")
  | integer i => some (intText i)
  | float x => some x.text
  | absent | array _ | table _ => none

/-- A value that may be missing: absent, or one that converts. -/
def optional? {α : Type} (convert : Raw → Option α) : Raw → Option (Option α)
  | absent => some none
  | value => (convert value).map some

/-- A field of a record that stands as a table or, by position, as an array. -/
def field? (value : Raw) (position : Nat) (key : String) : Option Raw :=
  match value with
  | array items => items[position]?
  | table members => Keyed.find? key members
  | _ => none

/-- A value that can stand for a record. -/
def isRecord : Raw → Bool
  | array _ | table _ => true
  | _ => false

end ChannelGuard.Settings.Raw
