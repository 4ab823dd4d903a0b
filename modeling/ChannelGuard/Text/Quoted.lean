import ChannelGuard.Json.Printer
import ChannelGuard.Text.Printable

/-!
The quoted form of a string in messages: what cannot be seen on its own is written as its code
point.
-/
namespace ChannelGuard.Text

/-- Quotes and backslashes take a backslash, four control characters have letters, and a character
that does not print or that joins the one before it stands as its code point. -/
def quotedChar (c : Char) : String :=
  match c with
  | '"' => "\\\""
  | '\\' => "\\\\"
  | '\x00' => "\\0"
  | '\n' => "\\n"
  | '\r' => "\\r"
  | '\t' => "\\t"
  | c =>
    if isPrintable c && !isJoining c then c.toString
    else "\\u\x7b" ++ hexDigits c.toNat ++ "\x7d"

def quoted (s : String) : String := "\"" ++ String.join (s.toList.map quotedChar) ++ "\""

end ChannelGuard.Text
