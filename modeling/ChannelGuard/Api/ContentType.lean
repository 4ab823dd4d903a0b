/-!
Media types as a content type header names them: a type, a subtype perhaps with a suffix after a
plus sign, and parameters.
-/
namespace ChannelGuard.Api

/-- A character of the words of a media type. -/
def isTokenChar (c : Char) : Bool :=
  c.isAlphanum || c.toNat == 0x60
    || ['!', '#', '$', '%', '&', '\x27', '*', '+', '-', '.', '^', '_', '|', '~'].contains c

/-- A character of a parameter between quotes. -/
def isQuotedChar (c : Char) : Bool := 0x20 ≤ c.toNat && c.toNat < 0x7f

/-- What follows a quoted value after its opening quote. The first character belongs to the value
whatever it is, so that no quoted value is empty. -/
def afterQuoted? : List Char → Option (List Char)
  | first :: rest =>
    match isQuotedChar first, rest.dropWhile fun c => isQuotedChar c && c != '"' with
    | true, '"' :: rest => some rest
    | _, _ => none
  | [] => none

/-- Whether parameters are well formed: names with values that are words or quoted. -/
def areParameters : (steps : Nat) → List Char → Bool
  | 0, text => text.isEmpty
  | _, [] => true
  | steps + 1, ' ' :: rest => areParameters steps rest
  | steps + 1, text =>
    match text.takeWhile isTokenChar, text.dropWhile isTokenChar with
    | _ :: _, '=' :: '"' :: rest =>
      match (afterQuoted? rest).map (·.dropWhile (· == ' ')) with
      | some [] => true
      | some (';' :: rest) => areParameters steps rest
      | _ => false
    | _ :: _, '=' :: rest =>
      let value := rest.takeWhile isTokenChar
      match rest.dropWhile isTokenChar with
      | [] => true
      | ';' :: rest => !value.isEmpty && areParameters steps rest
      | _ => false
    | _, _ => false

/-- The subtype and its suffix, which follows the last plus sign that is not in front. -/
def splitSuffix (subtype : List Char) : List Char × Option (List Char) :=
  let suffix := (subtype.reverse.takeWhile (· != '+')).reverse
  let stem := subtype.take (subtype.length - suffix.length - 1)
  if stem.isEmpty || suffix.length == subtype.length then (subtype, none) else (stem, some suffix)

/-- A content type that announces JSON, as its subtype or as the suffix of it. -/
def isJsonContentType (contentType : String) : Bool :=
  let text := contentType.toList
  let json := ['j', 's', 'o', 'n']
  match text.dropWhile isTokenChar with
  | '/' :: rest =>
    let type := (text.takeWhile isTokenChar).map Char.toLower
    let (subtype, suffix) := splitSuffix ((rest.takeWhile isTokenChar).map Char.toLower)
    let parametersFit := match rest.dropWhile isTokenChar with
      | [] => true
      | ';' :: parameters => areParameters parameters.length parameters
      | _ => false
    type == "application".toList && (subtype == json || suffix == some json)
      && parametersFit
  | _ => false

end ChannelGuard.Api
