import ChannelGuard.Condition.Lexer

/-!
# The lexical grammar of conditions

A condition is a row of lexemes with blanks between them. Which text writes which token is said here
without a scanner, and so is which character would make a lexeme longer. A text has at most one
division into blanks and lexemes that cannot be made longer; the scanner finds it.
-/

namespace ChannelGuard.Condition

open Number (Decimal digitsValue)

/-! Numbers -/

/-- The sign in front of a number; only negative numbers have one. -/
def signText (negative : Bool) : List Char := if negative then ['-'] else []

/-- A size with a sign. -/
def signed (negative : Bool) (size : Nat) : Int := if negative then -size else size

/-- A row of decimal digits, perhaps an empty one. -/
def DigitRow (text : List Char) : Prop := ∀ c ∈ text, c.isDigit = true

/-- An integer in decimal notation. -/
inductive WholeText : List Char → Int → Prop where
  | mk (negative : Bool) {digits : List Char} (nonempty : digits ≠ []) (row : DigitRow digits) :
      WholeText (signText negative ++ digits) (signed negative (digitsValue digits))

/-- A decimal number with or without a point, and with a digit somewhere. -/
inductive DecimalText : List Char → Bool → Decimal → Prop where
  | whole (negative : Bool) {digits : List Char} (nonempty : digits ≠ []) (row : DigitRow digits) :
      DecimalText (signText negative ++ digits) negative (.ofDigits digits [])
  | pointed (negative : Bool) {digits fraction : List Char}
      (nonempty : digits ≠ [] ∨ fraction ≠ []) (row : DigitRow digits) (row' : DigitRow fraction) :
      DecimalText (signText negative ++ (digits ++ '.' :: fraction)) negative
        (.ofDigits digits fraction)

/-- The integers of 64 bits with a sign. -/
def IsInt64 (i : Int) : Prop := -0x8000000000000000 ≤ i ∧ i < 0x8000000000000000

/-- The number that a text stands for: exactly the integer that it writes if that has 64 bits,
otherwise the float nearest to the decimal number that it writes, if that is finite. -/
inductive NumberText : List Char → JsonNumber → Prop where
  | integer {written : List Char} {i : WideInt} (whole : WholeText written i.value)
      (fits : IsInt64 i.value) : NumberText written (.integer i)
  | float {written : List Char} {negative : Bool} {decimal : Decimal} {x : Number.Binary64}
      (wide : ∀ i, WholeText written i → ¬IsInt64 i)
      (value : DecimalText written negative decimal)
      (nearest : decimal.toBinary64? negative = some x) : NumberText written (.float x)

/-! Quoted texts and names -/

/-- The letter after a backslash, and the character that both stand for. -/
inductive EscapeLetter : Char → Char → Prop where
  | quote : EscapeLetter '"' '"'
  | backslash : EscapeLetter '\\' '\\'
  | newline : EscapeLetter 'n' '\n'

/-- The inside of a quoted text, and the characters that it stands for. -/
inductive QuotedText : List Char → List Char → Prop where
  | nil : QuotedText [] []
  | plain {c : Char} {written meant : List Char} (free : c ≠ '"' ∧ c ≠ '\\')
      (rest : QuotedText written meant) : QuotedText (c :: written) (c :: meant)
  | escape {letter c : Char} {written meant : List Char} (known : EscapeLetter letter c)
      (rest : QuotedText written meant) : QuotedText ('\\' :: letter :: written) (c :: meant)

/-- A letter, `_` or `$`, and after it only these and digits. -/
def IsName : List Char → Prop
  | [] => False
  | c :: rest => isNameStart c = true ∧ ∀ d ∈ rest, isNamePart d = true

/-! Lexemes -/

/-- A text that is one lexeme, and its token. -/
inductive Writes : List Char → Token → Prop where
  | dot : Writes ['.'] .dot
  | openParen : Writes ['('] .openParen
  | closeParen : Writes [')'] .closeParen
  | bang : Writes ['!'] .bang
  | operator (op : Operator) : Writes op.symbol.toList (.operator op)
  | text {written meant : List Char} (inside : QuotedText written meant) :
      Writes ('"' :: (written ++ ['"'])) (.text (String.ofList meant))
  | number {c : Char} {rest : List Char} {n : JsonNumber} (starts : isNumberStart c = true)
      (inside : ∀ d ∈ rest, isNumberPart d = true) (value : NumberText (c :: rest) n) :
      Writes (c :: rest) (.number n)
  | name {written : List Char} (named : IsName written) (free : String.ofList written ≠ "in") :
      Writes written (.name (String.ofList written))

/-- A character that makes a lexeme longer if it comes right after it: a digit or a point after a
number, a character of names after a word, and `=` after the first half of an operator. -/
def Token.Prolonged : Token → Char → Prop
  | .number _, c => isNumberPart c = true
  | .name _, c | .operator (.relation .mem), c => isNamePart c = true
  | .bang, c | .operator (.relation .gt), c | .operator (.relation .lt), c => c = '='
  | _, _ => False

/-- A part of a condition's text. -/
inductive Piece where
  | blank (c : Char) (isBlank : Text.isBlank c = true)
  | lexeme (written : List Char) (token : Token) (writes : Writes written token)

namespace Piece

def text : Piece → List Char
  | blank c _ => [c]
  | lexeme written _ _ => written

def token? : Piece → Option Token
  | blank _ _ => none
  | lexeme _ token _ => some token

/-- The character would make the piece longer. Blanks stand alone. -/
def Prolonged (piece : Piece) (c : Char) : Prop := ∃ token ∈ piece.token?, token.Prolonged c

end Piece

/-- The text of a row of pieces. -/
def textOf (pieces : List Piece) : List Char := pieces.flatMap Piece.text

/-- The tokens of a row of pieces. -/
def tokensOf (pieces : List Piece) : List Token := pieces.filterMap Piece.token?

/-- No piece can be made longer by the character after it. `rest` comes after all of them. -/
def Apart (rest : List Char) : List Piece → Prop
  | [] => True
  | piece :: others => (∀ c ∈ (textOf others ++ rest).head?, ¬piece.Prolonged c) ∧ Apart rest others

/-- A text is a row of blanks and longest lexemes with the given tokens. -/
def Spells (text : List Char) (row : List Token) (rest : List Char) : Prop :=
  ∃ pieces, textOf pieces = text ∧ tokensOf pieces = row ∧ Apart rest pieces

/-! Rows of pieces -/

@[simp] theorem textOf_nil : textOf [] = [] := rfl

@[simp] theorem textOf_cons (piece : Piece) (others : List Piece) :
    textOf (piece :: others) = piece.text ++ textOf others := rfl

@[simp] theorem textOf_append (pieces others : List Piece) :
    textOf (pieces ++ others) = textOf pieces ++ textOf others := List.flatMap_append

@[simp] theorem tokensOf_nil : tokensOf [] = [] := rfl

@[simp] theorem tokensOf_append (pieces others : List Piece) :
    tokensOf (pieces ++ others) = tokensOf pieces ++ tokensOf others := List.filterMap_append

@[simp] theorem tokensOf_blank (c : Char) (isBlank : Text.isBlank c = true)
    (others : List Piece) : tokensOf (.blank c isBlank :: others) = tokensOf others := rfl

@[simp] theorem tokensOf_lexeme (written : List Char) (token : Token)
    (writes : Writes written token) (others : List Piece) :
    tokensOf (.lexeme written token writes :: others) = token :: tokensOf others := rfl

theorem Piece.not_prolonged_blank {c d : Char} (isBlank : Text.isBlank c = true) :
    ¬(Piece.blank c isBlank).Prolonged d := by
  rintro ⟨token, none, -⟩
  cases none

theorem Piece.prolonged_lexeme_iff {written : List Char} {token : Token} {c : Char}
    (writes : Writes written token) :
    (Piece.lexeme written token writes).Prolonged c ↔ token.Prolonged c := by
  simp [Prolonged, token?]

theorem apart_append {rest : List Char} {pieces others : List Piece} :
    Apart rest (pieces ++ others) ↔ Apart (textOf others ++ rest) pieces ∧ Apart rest others := by
  induction pieces with
  | nil => simp [Apart]
  | cons piece pieces ih => simp only [List.cons_append, Apart, ih, textOf_append,
      List.append_assoc, and_assoc]

/-- Pieces that stand apart from what follows also stand apart from anything else that makes none
of them longer. -/
theorem Apart.replace {rest rest' : List Char} {pieces : List Piece} (apart : Apart rest pieces)
    (closes : ∀ c ∈ rest'.head?, ∀ token : Token, ¬token.Prolonged c) : Apart rest' pieces := by
  induction pieces with
  | nil => trivial
  | cons piece others ih =>
    refine ⟨?_, ih apart.2⟩
    intro c head
    cases written : textOf others with
    | nil =>
      rw [written] at head
      rintro ⟨token, -, prolonged⟩
      exact closes c head token prolonged
    | cons first more =>
      have before := apart.1
      rw [written] at head before
      exact before c head

theorem Spells.append {text text' rest : List Char} {row row' : List Token}
    (h : Spells text row (text' ++ rest)) (h' : Spells text' row' rest) :
    Spells (text ++ text') (row ++ row') rest := by
  obtain ⟨pieces, rfl, rfl, apart⟩ := h
  obtain ⟨pieces', rfl, rfl, apart'⟩ := h'
  exact ⟨pieces ++ pieces', textOf_append .., tokensOf_append .., apart_append.mpr ⟨apart, apart'⟩⟩

end ChannelGuard.Condition
