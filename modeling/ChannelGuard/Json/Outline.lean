import ChannelGuard.Json.Numeral

/-!
JSON text read as far as it goes. An outline keeps the order of members and those that stand twice,
and it marks the first place where the text is no JSON; nothing stands behind that place.
-/
namespace ChannelGuard.Json

def isSpace (c : Char) : Bool := c == ' ' || c == '\t' || c == '\n' || c == '\r'

def skipSpace (text : List Char) : List Char := text.dropWhile isSpace

inductive Outline where
  /-- No value stands here. -/
  | broken
  | null
  | bool (b : Bool)
  /-- A number, none when it is too large for a float. -/
  | number (n : Option JsonNumber)
  /-- A string, none when an escape in it stands for half a character. -/
  | string (s : Option String)
  /-- Items, and whether the array ends well after them. -/
  | array (items : List Outline) (closed : Bool)
  /-- Members, and whether the object ends well after them. -/
  | object (members : List (Option String × Outline)) (closed : Bool)

/-! Strings -/

def hexValue? (c : Char) : Option Nat :=
  if c.isDigit then some (c.toNat - '0'.toNat)
  else if 'a' ≤ c && c ≤ 'f' then some (c.toNat - 'a'.toNat + 10)
  else if 'A' ≤ c && c ≤ 'F' then some (c.toNat - 'A'.toNat + 10)
  else none

/-- The value of a row of hexadecimal digits. -/
def hexValueOf? (digits : List Char) : Option Nat :=
  digits.foldlM (fun value c => (hexValue? c).map (16 * value + ·)) 0

def isHighSurrogate (unit : Nat) : Bool := 0xD800 ≤ unit && unit < 0xDC00

def isLowSurrogate (unit : Nat) : Bool := 0xDC00 ≤ unit && unit < 0xE000

/-- The character written by one letter after a backslash. -/
def shortEscape? : Char → Option Char
  | '"' => some '"'
  | '\\' => some '\\'
  | '/' => some '/'
  | 'b' => some '\x08'
  | 'f' => some '\x0c'
  | 'n' => some '\n'
  | 'r' => some '\r'
  | 't' => some '\t'
  | _ => none

/-- A string after its opening quote and what follows its closing one: its characters, or none when
a surrogate in it stands alone. -/
def stringBody? : List Char → Option (Option (List Char) × List Char)
  | [] => none
  | '"' :: rest => some (some [], rest)
  | '\\' :: 'u' :: a :: b :: c :: d :: rest =>
    match hexValueOf? [a, b, c, d] with
    | none => none
    | some unit =>
      if isHighSurrogate unit then
        match rest with
        | '\\' :: 'u' :: e :: f :: g :: h :: rest =>
          match hexValueOf? [e, f, g, h] with
          | none => none
          | some low =>
            let code := 0x10000 + (unit - 0xD800) * 0x400 + (low - 0xDC00)
            (stringBody? rest).map fun (body, rest) =>
              (if isLowSurrogate low then body.map (Char.ofNat code :: ·) else none, rest)
        | rest => (stringBody? rest).map fun (_, rest) => (none, rest)
      else
        (stringBody? rest).map fun (body, rest) =>
          (if isLowSurrogate unit then none else body.map (Char.ofNat unit :: ·), rest)
  | '\\' :: c :: rest =>
    match shortEscape? c with
    | none => none
    | some escaped =>
      (stringBody? rest).map fun (body, rest) => (body.map (escaped :: ·), rest)
  | c :: rest =>
    if c.toNat < 0x20 || c = '\\' then none
    else (stringBody? rest).map fun (body, rest) => (body.map (c :: ·), rest)

namespace Outline

/-! Reading -/

/-- A value that holds no others, and what follows; nothing follows a value that is broken. -/
def readLeaf (text : List Char) : Outline × Option (List Char) :=
  match text with
  | 'n' :: 'u' :: 'l' :: 'l' :: rest => (.null, some rest)
  | 't' :: 'r' :: 'u' :: 'e' :: rest => (.bool true, some rest)
  | 'f' :: 'a' :: 'l' :: 's' :: 'e' :: rest => (.bool false, some rest)
  | '"' :: rest =>
    match stringBody? rest with
    | some (body, rest) => (.string (body.map String.ofList), some rest)
    | none => (.broken, none)
  | text =>
    match Numeral.read? text with
    | some (written, rest) => (.number written.value?, some rest)
    | none => (.broken, none)

mutual

/-- A value, and what follows if it ends well. Every step reads a character, so a text has no more
steps than characters. -/
def read : (steps : Nat) → List Char → Outline × Option (List Char)
  | 0, _ => (.broken, none)
  | steps + 1, text =>
    match skipSpace text with
    | '[' :: rest =>
      match skipSpace rest with
      | ']' :: rest => (.array [] true, some rest)
      | rest =>
        let (items, after) := readItems steps rest
        (.array items after.isSome, after)
    | '\x7b' :: rest =>
      match skipSpace rest with
      | '\x7d' :: rest => (.object [] true, some rest)
      | rest =>
        let (members, after) := readMembers steps rest
        (.object members after.isSome, after)
    | text => readLeaf text

/-- The items of an array, and what follows its closing bracket. -/
def readItems : (steps : Nat) → List Char → List Outline × Option (List Char)
  | 0, _ => ([], none)
  | steps + 1, text =>
    match read steps text with
    | (item, none) => ([item], none)
    | (item, some rest) =>
      match skipSpace rest with
      | ']' :: rest => ([item], some rest)
      | ',' :: rest =>
        let (items, after) := readItems steps rest
        (item :: items, after)
      | _ => ([item], none)

/-- The members of an object, and what follows its closing brace. -/
def readMembers : (steps : Nat) → List Char →
    List (Option String × Outline) × Option (List Char)
  | 0, _ => ([], none)
  | steps + 1, text =>
    match skipSpace text with
    | '"' :: rest =>
      match stringBody? rest with
      | none => ([], none)
      | some (body, rest) =>
        let key := body.map String.ofList
        match skipSpace rest with
        | ':' :: rest =>
          match read steps rest with
          | (value, none) => ([(key, value)], none)
          | (value, some rest) =>
            match skipSpace rest with
            | '\x7d' :: rest => ([(key, value)], some rest)
            | ',' :: rest =>
              let (members, after) := readMembers steps rest
              ((key, value) :: members, after)
            | _ => ([(key, value)], none)
        | _ => ([(key, .broken)], none)
    | _ => ([], none)

end

/-- The outline of the value that a text begins with, and whether nothing but blanks follows. -/
def ofText (text : String) : Outline × Bool :=
  let chars := text.toList
  let (outline, rest) := read (chars.length + 1) chars
  (outline, (rest.map fun rest => (skipSpace rest).isEmpty).getD false)

/-! Values -/

mutual

/-- Nothing in the outline is broken. -/
def isWhole : Outline → Bool
  | broken => false
  | null | bool _ | number _ | string _ => true
  | array items closed => areWhole items && closed
  | object members closed => haveWholeValues members && closed

def areWhole : List Outline → Bool
  | [] => true
  | item :: rest => item.isWhole && areWhole rest

def haveWholeValues : List (Option String × Outline) → Bool
  | [] => true
  | (_, value) :: rest => value.isWhole && haveWholeValues rest

end

mutual

/-- The value of an outline with at most `depth` nested arrays and objects; of members under one key
the last one stays. -/
def toJson? (depth : Nat) : Outline → Option Json
  | broken => none
  | null => some .null
  | bool b => some (.bool b)
  | number n => n.map .number
  | string s => s.map .string
  | array items closed =>
    match depth with
    | 0 => none
    | depth + 1 => if closed then (itemsToJson? depth items).map .array else none
  | object members closed =>
    match depth with
    | 0 => none
    | depth + 1 => if closed then (membersToJson? depth members).map .ofMembers else none

def itemsToJson? (depth : Nat) : List Outline → Option (List Json)
  | [] => some []
  | item :: rest => do
    let value ← item.toJson? depth
    let values ← itemsToJson? depth rest
    some (value :: values)

def membersToJson? (depth : Nat) : List (Option String × Outline) → Option (List (String × Json))
  | [] => some []
  | (key, item) :: rest => do
    let key ← key
    let value ← item.toJson? depth
    let members ← membersToJson? depth rest
    some ((key, value) :: members)

end

end Outline

/-- The deepest nesting of arrays and objects that is read. -/
def maxDepth : Nat := 127

/-- The value of a text that holds one value and blanks around it. -/
def read? (text : String) : Option Json :=
  match Outline.ofText text with
  | (outline, true) => outline.toJson? maxDepth
  | (_, false) => none

end ChannelGuard.Json
