import ChannelGuard.Toml.Strings
import ChannelGuard.Toml.Value

/-! The TOML values that are single words: numbers, truth values, dates and times. -/
namespace ChannelGuard.Toml

open Number

/-! Numbers -/

/-- Digits with an underscore at most between two of them. -/
def isDigitRow (isDigit : Char → Bool) : List Char → Bool
  | [] => false
  | [c] => isDigit c
  | c :: '_' :: rest => isDigit c && isDigitRow isDigit rest
  | c :: rest => isDigit c && isDigitRow isDigit rest

def splitSign : List Char → Bool × List Char
  | '-' :: rest => (true, rest)
  | '+' :: rest => (false, rest)
  | rest => (false, rest)

/-- A digit row that does not begin with a zero, unless it is just that. -/
def isWhole (digits : List Char) : Bool :=
  isDigitRow Char.isDigit digits && (digits.head? != some '0' || digits.length == 1)

/-- An integer of 64 bits with a sign. -/
def integerWithin? (i : Int) : Option Value :=
  if -0x8000000000000000 ≤ i && i < 0x8000000000000000 then some (.integer i) else none

/-- Digits of a base other than ten, after the letter that tells the base. -/
def basedInteger? (base : Nat) (digits : List Char) : Option Value :=
  let isDigit (c : Char) := ((Json.hexValue? c).map (decide <| · < base)).getD false
  if isDigitRow isDigit digits then
    let value := (digits.filter (· != '_')).foldl
      (fun value d => base * value + (Json.hexValue? d).getD 0) 0
    integerWithin? value
  else none

def integer? (word : List Char) : Option Value :=
  match word with
  | '0' :: 'x' :: digits => basedInteger? 16 digits
  | '0' :: 'o' :: digits => basedInteger? 8 digits
  | '0' :: 'b' :: digits => basedInteger? 2 digits
  | word =>
    let (negative, digits) := splitSign word
    let size : Int := digitsValue (digits.filter (· != '_'))
    if isWhole digits then integerWithin? (if negative then -size else size) else none

/-- The exponent after its letter. -/
def exponent? (text : List Char) : Option Int :=
  let (negative, digits) := splitSign text
  let size : Int := digitsValue (digits.filter (· != '_'))
  if isDigitRow Char.isDigit digits then some (if negative then -size else size) else none

/-- The value of digits at a power of ten. Beyond the largest number it is infinite, which only a
negative number may be. -/
def decimalFloat? (negative : Bool) (digits : List Char) (exponent : Int) : Option Value :=
  let significand := digitsValue digits
  let order : Int := (decimalDigits significand).length + exponent
  if significand = 0 || order < -400 then some (.float (.finite (.zero negative)))
  else
    let rounded :=
      if 400 < order then none else Decimal.toBinary64? negative ⟨significand, exponent⟩
    match rounded with
    | some x => some (.float (.finite x))
    | none => if negative then some (.float (.infinite true)) else none

/-- Digits with a fraction, an exponent or both. -/
def float? (word : List Char) : Option Value :=
  let (negative, body) := splitSign word
  let isExponentMark (c : Char) := c == 'e' || c == 'E'
  let mantissa := body.takeWhile fun c => !isExponentMark c
  let whole := mantissa.takeWhile (· != '.')
  let power : Option Int := match body.dropWhile fun c => !isExponentMark c with
    | _ :: exponent => exponent? exponent
    | [] => some 0
  let clean (digits : List Char) := digits.filter (· != '_')
  match body, mantissa.dropWhile (· != '.') with
  | ['i', 'n', 'f'], _ => some (.float (.infinite negative))
  | ['n', 'a', 'n'], _ => some (.float .notANumber)
  | _, '.' :: fraction =>
    if isWhole whole && isDigitRow Char.isDigit fraction then
      power.bind fun power =>
        decimalFloat? negative (clean whole ++ clean fraction) (power - (clean fraction).length)
    else none
  | _, _ =>
    if isWhole whole && mantissa.length < body.length then
      power.bind (decimalFloat? negative (clean whole))
    else none

/-! Dates and times -/

/-- Two digits as a number up to `top`. -/
def twoDigits? (top : Nat) (a b : Char) : Option Nat :=
  if a.isDigit && b.isDigit && digitsValue [a, b] ≤ top then some (digitsValue [a, b]) else none

def daysIn (year month : Nat) : Nat :=
  let leap := year % 4 = 0 && (year % 100 != 0 || year % 400 = 0)
  if month = 2 then (if leap then 29 else 28)
  else if month = 4 || month = 6 || month = 9 || month = 11 then 30
  else 31

/-- A date, and what follows. -/
def date? : List Char → Option (List Char × List Char)
  | a :: b :: c :: d :: '-' :: e :: f :: '-' :: g :: h :: rest => do
    let year := [a, b, c, d]
    if !year.all Char.isDigit then none
    let month ← twoDigits? 12 e f
    let day ← twoDigits? (daysIn (digitsValue year) month) g h
    if month = 0 || day = 0 then none
    some ([a, b, c, d, '-', e, f, '-', g, h], rest)
  | _ => none

/-- The fraction of a second: nine digits count, and zeros at the end do not. -/
def secondFraction (digits : List Char) : List Char :=
  let significant := ((digits.take 9).reverse.dropWhile (· == '0')).reverse
  if significant.isEmpty then [] else '.' :: significant

/-- A time of day, and what follows. -/
def time? : List Char → Option (List Char × List Char)
  | a :: b :: ':' :: c :: d :: ':' :: e :: f :: rest => do
    let _ ← twoDigits? 23 a b
    let _ ← twoDigits? 59 c d
    let _ ← twoDigits? 60 e f
    let time := [a, b, ':', c, d, ':', e, f]
    match rest with
    | '.' :: digit :: more =>
      if digit.isDigit then
        let digits := (digit :: more).takeWhile Char.isDigit
        some (time ++ secondFraction digits, (digit :: more).dropWhile Char.isDigit)
      else none
    | rest => some (time, rest)
  | _ => none

/-- The offset of a time from universal time, all of the text. -/
def offset? : List Char → Option (List Char)
  | [] => some []
  | ['Z'] => some ['Z']
  | ['z'] => some ['Z']
  | [sign, a, b, ':', c, d] => do
    let hours ← twoDigits? 23 a b
    let minutes ← twoDigits? 59 c d
    if sign != '+' && sign != '-' then none
    let sign := if hours = 0 && minutes = 0 then '+' else sign
    some [sign, a, b, ':', c, d]
  | _ => none

/-- A time of day with an offset perhaps, all of the text. -/
def offsetTime? (text : List Char) : Option (List Char) := do
  let (time, rest) ← time? text
  some (time ++ (← offset? rest))

/-- A date, a time, or a date and a time with a letter between them. -/
def datetime? (word : List Char) : Option Value :=
  let written : Option (List Char) :=
    match date? word with
    | some (date, []) => some date
    | some (date, mark :: rest) =>
      if mark == 'T' || mark == 't' then
        (offsetTime? rest).map fun time => date ++ 'T' :: time
      else none
    | none =>
      match time? word with
      | some (time, []) => some time
      | _ => none
  written.map fun text => .datetime (String.ofList text)

/-! Words -/

def isWordChar (c : Char) : Bool :=
  c.isAlphanum || c == '_' || c == '+' || c == '-' || c == '.' || c == ':'

def word? (word : List Char) : Option Value :=
  if word == "true".toList then some (.bool true)
  else if word == "false".toList then some (.bool false)
  else (datetime? word).or ((float? word).or (integer? word))

/-- A word, or a date and a time with a blank between them, and what follows. -/
def scalar? (text : List Char) : Option (Value × List Char) :=
  let word := text.takeWhile isWordChar
  let rest := text.dropWhile isWordChar
  let spaced : Option (Value × List Char) :=
    match date? word, rest with
    | some (date, []), ' ' :: rest =>
      (offsetTime? (rest.takeWhile isWordChar)).map fun time =>
        (.datetime (String.ofList (date ++ 'T' :: time)), rest.dropWhile isWordChar)
    | _, _ => none
  spaced.or ((word? word).map fun value => (value, rest))

end ChannelGuard.Toml
