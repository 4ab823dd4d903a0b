import ChannelGuard.Condition.Token
import ChannelGuard.Text.Blank
import ChannelGuard.Text.Letters

/-!
From the text of a condition to its tokens. A token takes as many characters as it can; blanks
between tokens are skipped.
-/
namespace ChannelGuard.Condition

open Number

/-! Leaves -/

def isNameStart (c : Char) : Bool := Text.isAlphabetic c || c == '_' || c == '$'

def isNamePart (c : Char) : Bool :=
  Text.isAlphabetic c || Text.isNumeric c || c == '_' || c == '$'

def isNumberStart (c : Char) : Bool := c.isDigit || c == '-'

def isNumberPart (c : Char) : Bool := c.isDigit || c == '.'

/-- The number that a digit row with dots stands for: an integer if it is one of 64 bits with a
sign, otherwise the nearest float, which has to be finite. -/
def numberLiteral? (written : List Char) : Option JsonNumber :=
  let (negative, body) := match written with
    | '-' :: body => (true, body)
    | body => (false, body)
  let whole := body.takeWhile Char.isDigit
  let float (fraction : List Char) :=
    ((Decimal.ofDigits whole fraction).toBinary64? negative).map JsonNumber.float
  match body.dropWhile Char.isDigit with
  | [] =>
    let size : Int := digitsValue whole
    let value := if negative then -size else size
    if whole.isEmpty then none
    else if fits : -0x8000000000000000 ≤ value ∧ value < 0x8000000000000000 then
      some (.integer ⟨value, fits.1, Int.lt_trans fits.2 (by decide)⟩)
    else float []
  | '.' :: fraction =>
    if fraction.all Char.isDigit && !(whole.isEmpty && fraction.isEmpty) then float fraction
    else none
  | _ => none

/-- The characters of a quoted text after its opening quote, and what follows its closing one. -/
def quotedBody : List Char → Except SyntaxError (List Char × List Char)
  | [] => .error .unterminatedText
  | '"' :: rest => .ok ([], rest)
  | ['\\'] => .error .unterminatedText
  | '\\' :: c :: rest =>
    if c = '"' || c = '\\' then
      (quotedBody rest).map fun (body, rest) => (c :: body, rest)
    else if c = 'n' then
      (quotedBody rest).map fun (body, rest) => ('\n' :: body, rest)
    else .error (.unknownEscape c)
  | c :: rest => (quotedBody rest).map fun (body, rest) => (c :: body, rest)

theorem exists_body_of_map_cons {c : Char} {meant rest : List Char}
    {read : Except SyntaxError (List Char × List Char)}
    (h : (read.map fun (body, rest) => (c :: body, rest)) = .ok (meant, rest)) :
    ∃ body, read = .ok (body, rest) ∧ meant = c :: body := by
  cases read with
  | error e => cases h
  | ok pair =>
    cases h
    exact ⟨pair.1, rfl, rfl⟩

theorem length_lt_of_quotedBody {text body rest : List Char}
    (h : quotedBody text = .ok (body, rest)) : rest.length < text.length := by
  fun_induction quotedBody text generalizing body with
  | case1 | case3 | case6 => cases h
  | case2 after =>
    cases h
    exact Nat.lt_succ_self _
  | case4 c after _ ih | case5 after _ ih =>
    obtain ⟨inside, read, -⟩ := exists_body_of_map_cons h
    exact Nat.lt_succ_of_lt (Nat.lt_succ_of_lt (ih read))
  | case7 c after _ _ _ ih =>
    obtain ⟨inside, read, -⟩ := exists_body_of_map_cons h
    exact Nat.lt_succ_of_lt (ih read)

/-! Tokens -/

/-- What a character and the text after it begin with. -/
inductive Lexeme (after : List Char) where
  /-- A token, and the text that is left after it. -/
  | token (t : Token) (rest : List Char) (shorter : rest.length ≤ after.length)
  /-- A token that goes wrong. -/
  | fault (e : SyntaxError)
  /-- The character starts no token. -/
  | stray

/-- A token of one character. -/
def Lexeme.single {after : List Char} (t : Token) : Lexeme after := .token t after (Nat.le_refl _)

/-- The token `double` where `second` follows, otherwise what is `alone`. -/
def Lexeme.pair (second : Char) (double : Token) :
    (after : List Char) → (alone : Lexeme after) → Lexeme after
  | [], alone => alone
  | c :: rest, alone => if c = second then .token double rest (by simp) else alone

/-- The longest token that `first` and the text after it start with. -/
def lexeme (first : Char) (after : List Char) : Lexeme after :=
  match first with
  | '.' => .single .dot
  | '(' => .single .openParen
  | ')' => .single .closeParen
  | '"' =>
    match h : quotedBody after with
    | .ok (body, rest) =>
      .token (.text (String.ofList body)) rest (Nat.le_of_lt (length_lt_of_quotedBody h))
    | .error e => .fault e
  | '=' => .pair '=' (.operator (.relation .eq)) after .stray
  | '!' => .pair '=' (.operator (.relation .ne)) after (.single .bang)
  | '>' => .pair '=' (.operator (.relation .ge)) after (.single (.operator (.relation .gt)))
  | '<' => .pair '=' (.operator (.relation .le)) after (.single (.operator (.relation .lt)))
  | '&' => .pair '&' (.operator (.connective .and)) after .stray
  | '|' => .pair '|' (.operator (.connective .or)) after .stray
  | c =>
    if isNumberStart c then
      let written := c :: after.takeWhile isNumberPart
      match numberLiteral? written with
      | some n =>
        .token (.number n) (after.dropWhile isNumberPart) (List.dropWhile_suffix _).length_le
      | none => .fault (.invalidNumber (String.ofList written))
    else if isNameStart c then
      let word := String.ofList (c :: after.takeWhile isNamePart)
      let token := if word = "in" then .operator (.relation .mem) else .name word
      .token token (after.dropWhile isNamePart) (List.dropWhile_suffix _).length_le
    else .stray

/-- The length of a text in UTF-8. -/
def byteCount : List Char → Nat
  | [] => 0
  | c :: rest => c.utf8Size + byteCount rest

/-- The tokens of `text`, which ends the text `source`. -/
def tokensWithin (source : List Char) : List Char → Except SyntaxError (List Token)
  | [] => .ok []
  | c :: after =>
    if Text.isBlank c then tokensWithin source after
    else
      match lexeme c after with
      | .token t rest _ => (tokensWithin source rest).map (t :: ·)
      | .fault e => .error e
      | .stray => .error (.unexpectedCharacter c (byteCount source - byteCount (c :: after)))
termination_by text => text.length

def tokens (source : String) : Except SyntaxError (List Token) :=
  tokensWithin source.toList source.toList

end ChannelGuard.Condition
