import ChannelGuard.Json.Basic

/-! The compact text of a JSON value: no blanks, and only those characters escaped that must be. -/
namespace ChannelGuard

open Number

/-- Two or more lower-case hexadecimal digits. -/
def hexDigits (n : Nat) : String := String.ofList (Nat.toDigits 16 n)

/-- Shortest digits, positional from `1e-5` up to `1e16` and with a digit on either side of the
point, scientific with a signed exponent elsewhere. -/
def Number.Binary64.jsonText (x : Binary64) : String :=
  let shortest := Decimal.shortest x
  let digits := decimalDigits shortest.significand
  let order := shortest.exponent + digits.length - 1
  let body : List Char :=
    if x.isZero || (-5 ≤ order && order < 16) then
      if 0 ≤ shortest.exponent then shortest.positional ++ ['.', '0'] else shortest.positional
    else
      let mantissa := if digits.length = 1 then digits else digits.take 1 ++ '.' :: digits.drop 1
      let sign := if 0 ≤ order then '+' else '-'
      mantissa ++ 'e' :: sign :: decimalDigits order.natAbs
  String.ofList (if x.negative then '-' :: body else body)

def intText (i : Int) : String :=
  String.ofList (if i < 0 then '-' :: decimalDigits i.natAbs else decimalDigits i.natAbs)

def JsonNumber.render : JsonNumber → String
  | integer i => intText i.value
  | float x => x.jsonText

namespace Json

/-- Quotes, backslashes and the characters below the space are escaped, all others stay. -/
def escapeChar (c : Char) : String :=
  match c with
  | '"' => "\\\""
  | '\\' => "\\\\"
  | '\x08' => "\\b"
  | '\x0c' => "\\f"
  | '\n' => "\\n"
  | '\r' => "\\r"
  | '\t' => "\\t"
  | c =>
    if c.toNat < 0x20 then (if c.toNat < 0x10 then "\\u000" else "\\u00") ++ hexDigits c.toNat
    else c.toString

def quote (s : String) : String :=
  "\"" ++ String.join (s.toList.map escapeChar) ++ "\""

mutual

def render : Json → String
  | null => "null"
  | bool b => if b then "true" else "false"
  | number n => n.render
  | string s => quote s
  | array items => "[" ++ renderItems items ++ "]"
  | object members => "\x7b" ++ renderMembers members ++ "\x7d"

def renderItems : List Json → String
  | [] => ""
  | [item] => render item
  | item :: rest => render item ++ "," ++ renderItems rest

def renderMembers : List (String × Json) → String
  | [] => ""
  | [(key, value)] => quote key ++ ":" ++ render value
  | (key, value) :: rest => quote key ++ ":" ++ render value ++ "," ++ renderMembers rest

end

end Json

end ChannelGuard
