import ChannelGuard.Json.Outline

/-!
Blanks, comments, strings and keys of TOML text. A string may hold escapes or stand literally, and
either kind may run over several lines.
-/
namespace ChannelGuard.Toml

/-! Blanks and lines -/

def isBlank (c : Char) : Bool := c == ' ' || c == '\t'

def skipBlanks (text : List Char) : List Char := text.dropWhile isBlank

/-- A character that may stand in comments and, as it is, in strings. -/
def isPlain (c : Char) : Bool := c == '\t' || (0x20 ≤ c.toNat && c.toNat != 0x7f)

/-- What follows a newline, if the text starts with one. -/
def newline? : List Char → Option (List Char)
  | '\n' :: rest => some rest
  | '\r' :: '\n' :: rest => some rest
  | _ => none

def skipComment (text : List Char) : List Char :=
  match text with
  | '#' :: rest => rest.dropWhile isPlain
  | text => text

/-- What follows the line, if it holds nothing more than blanks and a comment. -/
def lineEnd? (text : List Char) : Option (List Char) :=
  match skipComment (skipBlanks text) with
  | [] => some []
  | text => newline? text

/-- Skips blanks, comments and ends of lines. Every step skips a line. -/
def skipLines : (steps : Nat) → List Char → List Char
  | 0, text => text
  | steps + 1, text =>
    match newline? (skipComment (skipBlanks text)) with
    | some rest => skipLines steps rest
    | none => skipComment (skipBlanks text)

/-! Strings -/

/-- The character that follows a backslash by itself. -/
def shortEscape? : Char → Option Char
  | 'b' => some '\x08'
  | 't' => some '\t'
  | 'n' => some '\n'
  | 'f' => some '\x0c'
  | 'r' => some '\r'
  | '"' => some '"'
  | '\\' => some '\\'
  | _ => none

def charOfHex? (digits : List Char) : Option Char :=
  (Json.hexValueOf? digits).bind fun code =>
    if code.isValidChar then some (Char.ofNat code) else none

/-- The character of an escape, after its backslash, and what follows. -/
def escape? : List Char → Option (Char × List Char)
  | 'u' :: a :: b :: c :: d :: rest => (charOfHex? [a, b, c, d]).map fun x => (x, rest)
  | 'U' :: a :: b :: c :: d :: e :: f :: g :: h :: rest =>
    (charOfHex? [a, b, c, d, e, f, g, h]).map fun x => (x, rest)
  | c :: rest => (shortEscape? c).map fun x => (x, rest)
  | [] => none

/-- How a string is written: whether backslashes escape, and whether it may span lines. -/
structure Style where
  quote : Char
  escapes : Bool
  lines : Bool

/-- Skips blanks and ends of lines. Every step skips a line. -/
def skipEmptyLines : (steps : Nat) → List Char → List Char
  | 0, text => text
  | steps + 1, text =>
    match newline? (skipBlanks text) with
    | some rest => skipEmptyLines steps rest
    | none => skipBlanks text

/-- What a backslash at the end of a line hides: the line's end and all blanks after it. -/
def foldedLine? (text : List Char) : Option (List Char) :=
  (newline? (skipBlanks text)).map fun rest => skipEmptyLines (rest.length + 1) rest

/-- Three quotes end a string over lines. One or two more before them belong to it. -/
def closing? (style : Style) (text : List Char) : Option (List Char × List Char) :=
  if style.lines then
    let quotes := min 5 (text.takeWhile (· == style.quote)).length
    if 3 ≤ quotes then some (List.replicate (quotes - 3) style.quote, text.drop quotes) else none
  else if text.head? == some style.quote then some ([], text.drop 1)
  else none

/-- The characters up to the closing quotes, and what follows. Every step reads a character. -/
def body? (style : Style) : (steps : Nat) → List Char → Option (List Char × List Char)
  | 0, _ => none
  | steps + 1, text =>
    match closing? style text with
    | some done => some done
    | none =>
      let goOn (c : Char) (rest : List Char) :=
        (body? style steps rest).map fun (more, rest) => (c :: more, rest)
      match text with
      | [] => none
      | c :: rest =>
        if style.escapes && c == '\\' then
          match style.lines, foldedLine? rest with
          | true, some rest => body? style steps rest
          | _, _ => (escape? rest).bind fun (c, rest) => goOn c rest
        else if isPlain c then goOn c rest
        else if style.lines then (newline? (c :: rest)).bind (goOn '\n')
        else none

/-- A newline right after the opening quotes does not count. -/
def skipFirstNewline (text : List Char) : List Char := (newline? text).getD text

/-- A string on one line. -/
def lineString? : List Char → Option (String × List Char)
  | '"' :: rest => (body? ⟨'"', true, false⟩ (rest.length + 1) rest).map
    fun (body, rest) => (String.ofList body, rest)
  | '\x27' :: rest => (body? ⟨'\x27', false, false⟩ (rest.length + 1) rest).map
    fun (body, rest) => (String.ofList body, rest)
  | _ => none

def string? : List Char → Option (String × List Char)
  | '"' :: '"' :: '"' :: rest =>
    (body? ⟨'"', true, true⟩ (rest.length + 1) (skipFirstNewline rest)).map
      fun (body, rest) => (String.ofList body, rest)
  | '\x27' :: '\x27' :: '\x27' :: rest =>
    (body? ⟨'\x27', false, true⟩ (rest.length + 1) (skipFirstNewline rest)).map
      fun (body, rest) => (String.ofList body, rest)
  | text => lineString? text

/-! Keys -/

def isBareChar (c : Char) : Bool := c.isAlphanum || c == '_' || c == '-'

def simpleKey? (text : List Char) : Option (String × List Char) :=
  match text.takeWhile isBareChar with
  | [] => lineString? text
  | key => some (String.ofList key, text.dropWhile isBareChar)

/-- Arrays, tables on one line and the keys of a path go no deeper than this. -/
def depthLimit : Nat := 79

/-- At most so many keys joined by points, blanks around them left out. -/
def keys? : (limit : Nat) → List Char → Option (List String × List Char)
  | 0, _ => none
  | limit + 1, text => do
    let (key, rest) ← simpleKey? (skipBlanks text)
    match skipBlanks rest with
    | '.' :: rest =>
      let (more, rest) ← keys? limit rest
      some (key :: more, rest)
    | rest => some ([key], rest)

/-- The keys of a path: those that lead to a table, and the name there. -/
def path? (text : List Char) : Option (List String × String × List Char) :=
  (keys? depthLimit text).bind fun (keys, rest) =>
    keys.getLast?.map fun key => (keys.dropLast, key, rest)

end ChannelGuard.Toml
