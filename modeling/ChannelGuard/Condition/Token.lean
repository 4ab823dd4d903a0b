import ChannelGuard.Condition.Expr
import ChannelGuard.Text.Quoted

/-! The tokens of a condition, and the ways in which a condition's text can be wrong. -/
namespace ChannelGuard.Condition

inductive Token where
  | name (word : String)
  | number (n : JsonNumber)
  | text (s : String)
  | operator (op : Operator)
  | bang
  | dot
  | openParen
  | closeParen
  deriving DecidableEq

def Token.describe : Token → String
  | name word => "Ident(" ++ Text.quoted word ++ ")"
  | number n => "Number(Number(" ++ n.render ++ "))"
  | text s => "Str(" ++ Text.quoted s ++ ")"
  | operator op => "Op(" ++ op.name ++ ")"
  | bang => "Bang"
  | dot => "Dot"
  | openParen => "LParen"
  | closeParen => "RParen"

inductive SyntaxError where
  | empty
  /-- No token starts with the character `offset` bytes into the text. -/
  | unexpectedCharacter (c : Char) (offset : Nat)
  | unknownEscape (c : Char)
  | unterminatedText
  | invalidNumber (written : String)
  | chainedRelation
  | missingSegment
  | missingCloseParen
  | unexpectedToken (token : Token)
  | unexpectedEnd
  | trailingToken (token : Token)
  deriving DecidableEq

def SyntaxError.message : SyntaxError → String
  | empty => "empty expression"
  | unexpectedCharacter c offset =>
    "unexpected character `" ++ c.toString ++ "` at offset " ++ intText offset
  | unknownEscape c => "unknown escape `\\" ++ c.toString ++ "` in string literal"
  | unterminatedText => "unterminated string literal"
  | invalidNumber written => "invalid number `" ++ written ++ "`"
  | chainedRelation => "comparisons cannot be chained, use `&&`"
  | missingSegment => "expected identifier after `.`"
  | missingCloseParen => "expected closing parenthesis `)`"
  | unexpectedToken token => "unexpected token: " ++ token.describe
  | unexpectedEnd => "unexpected end of expression"
  | trailingToken token => "unexpected trailing token: " ++ token.describe

end ChannelGuard.Condition
