/-!
Characters, blanks and comments of KDL text. Within a node a line goes on only after a backslash;
between nodes lines end anywhere.
-/
namespace ChannelGuard.Kdl

def isNewline (c : Char) : Bool :=
  c == '\n' || c == '\r' || c == '\u0085' || c == '\x0b' || c == '\x0c' || c == '\u2028'
    || c == '\u2029'

def isSpace (c : Char) : Bool :=
  c == '\t' || c == ' ' || c == '\u00a0' || c == '\u1680' || ('\u2000' ≤ c && c ≤ '\u200a')
    || c == '\u202f' || c == '\u205f' || c == '\u3000'

/-- Control characters below the space and marks of text direction, which may not stand in names
and strings. -/
def isDisallowed (c : Char) : Bool :=
  c ≤ '\x08' || ('\x0e' ≤ c && c ≤ '\x1f') || ('\u200e' ≤ c && c ≤ '\u200f')
    || ('\u202a' ≤ c && c ≤ '\u202e') || ('\u2066' ≤ c && c ≤ '\u2069') || c == '\ufeff'

/-- A character of a name that is written without quotes. -/
def isNameChar (c : Char) : Bool :=
  !(isSpace c || isNewline c || isDisallowed c
    || ['\\', '/', '(', ')', '\x7b', '\x7d', ';', '[', ']', '"', '#', '='].contains c)

/-- What follows a newline, if the text starts with one. -/
def newline? : List Char → Option (List Char)
  | '\r' :: '\n' :: rest => some rest
  | c :: rest => if isNewline c then some rest else none
  | [] => none

/-- What follows the current line. -/
def dropLine (text : List Char) : List Char :=
  let rest := text.dropWhile (!isNewline ·)
  (newline? rest).getD rest

/-- What follows a comment of which `depth` levels are open. -/
def commentEnd? : (depth : Nat) → List Char → Option (List Char)
  | _, [] => none
  | depth, '*' :: '/' :: rest =>
    match depth with
    | depth + 2 => commentEnd? (depth + 1) rest
    | _ => some rest
  | depth, '/' :: '*' :: rest => commentEnd? (depth + 1) rest
  | depth, _ :: rest => commentEnd? depth rest

/-- Skips blanks and comments, and the ends of lines where `lines` allows them or a backslash
escapes them. Every step skips a character, and there are as many steps as `steps` has characters.
None when a comment is not closed or a backslash escapes no end of line. -/
def skipSteps? (lines : Bool) : (steps text : List Char) → Option (List Char)
  | [], text => some text
  | _ :: steps, text =>
    match text with
    | [] => some []
    | '/' :: '*' :: rest => (commentEnd? 1 rest).bind (skipSteps? lines steps)
    | '\\' :: rest => (blanks? steps rest).bind fun rest =>
      match rest with
      | [] => some []
      | '/' :: '/' :: rest => skipSteps? lines steps (dropLine rest)
      | rest => (newline? rest).bind (skipSteps? lines steps)
    | '/' :: '/' :: rest =>
      if lines then skipSteps? lines steps (dropLine rest) else some ('/' :: '/' :: rest)
    | c :: rest =>
      if isSpace c then skipSteps? lines steps rest
      else
        match lines, newline? (c :: rest) with
        | true, some rest => skipSteps? lines steps rest
        | _, _ => some (c :: rest)
where
  /-- Skips blanks and comments on a line. -/
  blanks? : (steps text : List Char) → Option (List Char)
    | [], text => some text
    | _ :: steps, text =>
      match text with
      | '/' :: '*' :: rest => (commentEnd? 1 rest).bind (blanks? steps)
      | c :: rest => if isSpace c then blanks? steps rest else some (c :: rest)
      | [] => some []

/-- Skips what may stand between the parts of one node. -/
def skipWithin? (text : List Char) : Option (List Char) := skipSteps? false text text

/-- A blank, a comment over lines or a backslash comes first. -/
def startsGap : List Char → Bool
  | '/' :: '*' :: _ => true
  | c :: _ => isSpace c || c == '\\'
  | [] => false

/-- Skips what may stand between the parts of one node, and at least one character of it. -/
def skipGap? (text : List Char) : Option (List Char) :=
  if startsGap text then skipWithin? text else none

/-- Skips what may stand between nodes. -/
def skipBetween? (text : List Char) : Option (List Char) := skipSteps? true text text

end ChannelGuard.Kdl
