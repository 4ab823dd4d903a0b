import ChannelGuard.Json.Outline
import ChannelGuard.Kdl.Space

/-!
The strings of KDL: names without quotes, quoted strings on one line or on several, and raw strings
in which nothing is escaped. A string on several lines loses the indentation of its closing quotes.
-/
namespace ChannelGuard.Kdl

/-! Names without quotes -/

/-- Words that would be taken for keywords if they had a hash sign in front. -/
def reservedWords : List String := ["true", "false", "null", "inf", "nan"]

/-- A digit, perhaps after a sign or a point, makes a number and not a name. -/
def startsLikeNumber : List Char → Bool
  | c :: rest =>
    if c == '+' || c == '-' then
      match rest with
      | '.' :: d :: _ => d.isDigit
      | d :: _ => d.isDigit
      | [] => false
    else if c == '.' then (rest.head?.map Char.isDigit).getD false
    else c.isDigit
  | [] => false

def bareName? (text : List Char) : Option (String × List Char) :=
  let name := text.takeWhile isNameChar
  if name.isEmpty || startsLikeNumber name || reservedWords.contains (String.ofList name) then none
  else some (String.ofList name, text.dropWhile isNameChar)

/-! Quoted strings -/

/-- A piece of a string between its quotes. -/
inductive Piece where
  /-- A character as it stands. -/
  | plain (c : Char)
  /-- A character that an escape stands for. -/
  | escaped (c : Char)
  | lineEnd
  deriving DecidableEq

def Piece.isBlank : Piece → Bool
  | plain c => isSpace c
  | _ => false

/-- The character of a code point with at most six hexadecimal digits. -/
def charOfHex? (digits : List Char) : Option Char :=
  if digits.isEmpty || 6 < digits.length then none
  else (Json.hexValueOf? digits).bind fun code =>
    if code.isValidChar then some (Char.ofNat code) else none

/-- The escape after a backslash: the characters it stands for, and the text after it. -/
def escape? : List Char → Option (List Piece × List Char)
  | '"' :: rest => some ([.escaped '"'], rest)
  | '\\' :: rest => some ([.escaped '\\'], rest)
  | 'b' :: rest => some ([.escaped '\x08'], rest)
  | 'f' :: rest => some ([.escaped '\x0c'], rest)
  | 'n' :: rest => some ([.escaped '\n'], rest)
  | 'r' :: rest => some ([.escaped '\r'], rest)
  | 't' :: rest => some ([.escaped '\t'], rest)
  | 's' :: rest => some ([.escaped ' '], rest)
  | 'u' :: '\x7b' :: rest =>
    match rest.dropWhile (· != '\x7d') with
    | _ :: after => (charOfHex? (rest.takeWhile (· != '\x7d'))).map fun c => ([.escaped c], after)
    | [] => none
  | c :: rest =>
    let isGap (c : Char) := isSpace c || isNewline c
    if isGap c then some ([], rest.dropWhile isGap) else none
  | [] => none

/-- The pieces up to the closing quotes, and the text after them. Every step reads a character, and
there are as many steps as `steps` has characters. -/
def pieces? (raw : Bool) (closing : List Char) :
    (steps text : List Char) → Option (List Piece × List Char)
  | [], _ => none
  | _ :: steps, text =>
    if closing.isPrefixOf text then some ([], text.drop closing.length)
    else
      let goOn (front : List Piece) (rest : List Char) :=
        (pieces? raw closing steps rest).map fun (more, rest) => (front ++ more, rest)
      match newline? text, text with
      | some rest, _ => goOn [.lineEnd] rest
      | none, '\\' :: rest =>
        if raw then goOn [.plain '\\'] rest
        else (escape? rest).bind fun (front, rest) => goOn front rest
      | none, c :: rest => if isDisallowed c then none else goOn [.plain c] rest
      | none, [] => none

def Piece.char? : Piece → Option Char
  | plain c => some c
  | escaped c => some c
  | lineEnd => none

/-- The lines of a string, without the ends of lines. -/
def splitLines : List Piece → List (List Piece)
  | [] => [[]]
  | .lineEnd :: rest => [] :: splitLines rest
  | piece :: rest =>
    match splitLines rest with
    | line :: lines => (piece :: line) :: lines
    | [] => [[piece]]

/-- A line without the indentation; a blank line counts as empty. -/
def dedent? (indent line : List Piece) : Option (List Char) :=
  if line.all Piece.isBlank then some []
  else if indent.isPrefixOf line then some ((line.drop indent.length).filterMap Piece.char?)
  else none

/-- The text of a string whose quotes stand on lines of their own. -/
def blockText? (pieces : List Piece) : Option (List Char) :=
  match splitLines pieces with
  | [] :: lines =>
    match lines.getLast? with
    | none => none
    | some indent =>
      if indent.all Piece.isBlank then
        (lines.dropLast.mapM (dedent? indent)).map fun lines =>
          ['\n'].intercalate lines
      else none
  | _ => none

/-- The text between the quotes of a string that stands after some hash signs, raw when there are
any. Three quotes open a string over lines if the line ends there. -/
def quotedText? (hashes : List Char) (text : List Char) : Option (List Char × List Char) :=
  let raw := !hashes.isEmpty
  let overLines := match text with
    | '"' :: '"' :: '"' :: rest => (newline? rest).isSome
    | _ => false
  if overLines then do
    let (pieces, rest) ← pieces? raw ('"' :: '"' :: '"' :: hashes) text (text.drop 3)
    some (← blockText? pieces, rest)
  else
    match text with
    | '"' :: rest => do
      let (pieces, rest) ← pieces? raw ('"' :: hashes) text rest
      if pieces.contains .lineEnd then none
      some (pieces.filterMap Piece.char?, rest)
    | _ => none

/-- A quoted string after some hash signs. A raw string does not consist of a single quote, which
would look like quotes that open a string over lines. -/
def quoted? (hashes : List Char) (text : List Char) : Option (String × List Char) := do
  let (body, rest) ← quotedText? hashes text
  if !hashes.isEmpty && body == ['"'] then none
  some (String.ofList body, rest)

/-- A string in any of its forms. -/
def string? (text : List Char) : Option (String × List Char) :=
  match text with
  | '"' :: _ => quoted? [] text
  | '#' :: _ => quoted? (text.takeWhile (· == '#')) (text.dropWhile (· == '#'))
  | _ => bareName? text

end ChannelGuard.Kdl
