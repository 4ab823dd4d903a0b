import ChannelGuard.Kdl.Node
import ChannelGuard.Kdl.Strings

/-! The values of KDL: strings, numbers, truth values and null. -/
namespace ChannelGuard.Kdl

open Number

/-! Numbers -/

/-- A digit followed by digits and underscores. -/
def isDigitRun (isDigit : Char → Bool) : List Char → Bool
  | c :: rest => isDigit c && rest.all fun d => isDigit d || d == '_'
  | [] => false

/-- The value of a row of digits of some base, underscores left out. -/
def digitRunValue (base : Nat) (digits : List Char) : Nat :=
  digits.foldl (fun value d => base * value + (Json.hexValue? d).getD 0) 0

/-- Digits of a base whose value is within 128 bits with a sign. -/
def isWhole (base : Nat) (digits : List Char) : Bool :=
  let isDigit (c : Char) := ((Json.hexValue? c).map (decide <| · < base)).getD false
  isDigitRun isDigit digits
    && digitRunValue base (digits.filter (· != '_')) < 0x80000000000000000000000000000000

def dropSign : List Char → List Char
  | '-' :: rest => rest
  | '+' :: rest => rest
  | rest => rest

/-- Digits, perhaps a point and further digits, perhaps an exponent. Each of the three is a whole
number by itself. -/
def isDecimal (text : List Char) : Bool :=
  let isRunChar (c : Char) := c.isDigit || c == '_'
  let isExponent : List Char → Bool
    | c :: rest => (c == 'e' || c == 'E') && isWhole 10 (dropSign rest)
    | [] => true
  isWhole 10 (text.takeWhile isRunChar) &&
    match text.dropWhile isRunChar with
    | '.' :: rest =>
      isWhole 10 (rest.takeWhile isRunChar) && isExponent (rest.dropWhile isRunChar)
    | rest => isExponent rest

/-- A number with a sign perhaps; a letter after a leading zero tells a base other than ten. -/
def isNumber (written : List Char) : Bool :=
  match dropSign written with
  | '0' :: mark :: digits =>
    if mark == 'x' || mark == 'X' then isWhole 16 digits
    else if mark == 'o' || mark == 'O' then isWhole 8 digits
    else if mark == 'b' || mark == 'B' then isWhole 2 digits
    else isDecimal ('0' :: mark :: digits)
  | text => isDecimal text

/-! Values -/

/-- The value of a word after a hash sign. -/
def keyword? : String → Option Value
  | "true" => some (.bool true)
  | "false" => some (.bool false)
  | "null" => some .null
  | "inf" => some (.number "#inf")
  | "-inf" => some (.number "#-inf")
  | "nan" => some (.number "#nan")
  | _ => none

/-- A number or a keyword. -/
def plainValue? (text : List Char) : Option (Value × List Char) :=
  match text with
  | '#' :: rest =>
    (keyword? (String.ofList (rest.takeWhile isNameChar))).map
      fun value => (value, rest.dropWhile isNameChar)
  | text =>
    let written := text.takeWhile isNameChar
    if isNumber written then some (.number (String.ofList written), text.dropWhile isNameChar)
    else none

/-- The type in parentheses that may stand before a name or a value; it does not count. -/
def skipAnnotation? : List Char → Option (List Char)
  | '(' :: rest => do
    let (_, rest) ← string? (← skipWithin? rest)
    match ← skipWithin? rest with
    | ')' :: rest => skipWithin? rest
    | _ => none
  | text => some text

def value? (text : List Char) : Option (Value × List Char) := do
  let text ← skipAnnotation? text
  ((string? text).map fun (s, rest) => (.string s, rest)).or (plainValue? text)

end ChannelGuard.Kdl
