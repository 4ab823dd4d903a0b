import ChannelGuard.Condition.Lexer

/-!
From tokens to expressions. Operators bind by precedence and to the left, and relations do not
chain. Every part of an expression takes at least one token, which bounds the recursion.
-/
namespace ChannelGuard.Condition

/-- An expression read from the front of some tokens, with the tokens that are left. -/
abbrev Parsed (tokens : List Token) : Type :=
  Except SyntaxError (Expr × { rest : List Token // rest.length < tokens.length })

/-- An expression read so far, with the tokens that are left, perhaps all of them. -/
abbrev Continued (tokens : List Token) : Type :=
  Except SyntaxError (Expr × { rest : List Token // rest.length ≤ tokens.length })

/-- The next token is a relation. -/
def startsWithRelation : List Token → Bool
  | .operator (.relation _) :: _ => true
  | _ => false

def Operator.isRelation : Operator → Bool
  | relation _ => true
  | connective _ => false

/-- The further segments of a path, each after a dot. -/
def pathSegments : (tokens : List Token) →
    Except SyntaxError (List String × { rest : List Token // rest.length ≤ tokens.length })
  | .dot :: .name segment :: rest =>
    match pathSegments rest with
    | .ok (segments, ⟨left, shorter⟩) =>
      .ok (segment :: segments, ⟨left, by simp only [List.length_cons]; omega⟩)
    | .error e => .error e
  | .dot :: _ => .error .missingSegment
  | tokens => .ok ([], ⟨tokens, Nat.le_refl _⟩)

/-- The value that a word stands for, if it is not the start of a path. -/
def wordLiteral? : String → Option Json
  | "true" => some (.bool true)
  | "false" => some (.bool false)
  | "null" => some .null
  | _ => none

mutual

/-- Operands joined by operators of precedence `minimum` or higher. -/
def parseBinary (minimum : Nat) (tokens : List Token) : Parsed tokens :=
  match parseUnary tokens with
  | .error e => .error e
  | .ok (left, ⟨rest, shorter⟩) =>
    match parseOperators minimum left rest with
    | .error e => .error e
    | .ok (whole, ⟨rest, shorter'⟩) => .ok (whole, ⟨rest, Nat.lt_of_le_of_lt shorter' shorter⟩)
termination_by (tokens.length, 2)

/-- The operators of precedence `minimum` or higher that go on from the operand `left`. -/
def parseOperators (minimum : Nat) (left : Expr) (tokens : List Token) : Continued tokens :=
  match tokens with
  | .operator op :: after =>
    if op.precedence < minimum then .ok (left, ⟨.operator op :: after, Nat.le_refl _⟩)
    else
      match parseBinary (op.precedence + 1) after with
      | .error e => .error e
      | .ok (right, ⟨rest, shorter⟩) =>
        if op.isRelation && startsWithRelation rest then .error .chainedRelation
        else
          match parseOperators minimum (.binary op left right) rest with
          | .error e => .error e
          | .ok (whole, ⟨rest', shorter'⟩) =>
            .ok (whole, ⟨rest', by simp only [List.length_cons]; omega⟩)
  | tokens => .ok (left, ⟨tokens, Nat.le_refl _⟩)
termination_by (tokens.length, 0)

/-- An operand with the negations in front of it. -/
def parseUnary (tokens : List Token) : Parsed tokens :=
  match tokens with
  | .bang :: after =>
    match parseUnary after with
    | .error e => .error e
    | .ok (inner, ⟨rest, shorter⟩) =>
      .ok (.not inner, ⟨rest, by simp only [List.length_cons]; omega⟩)
  | tokens => parsePrimary tokens
termination_by (tokens.length, 1)

/-- A literal, a path, or an expression in parentheses. -/
def parsePrimary (tokens : List Token) : Parsed tokens :=
  match tokens with
  | .number n :: rest => .ok (.literal (.number n), ⟨rest, by simp⟩)
  | .text s :: rest => .ok (.literal (.string s), ⟨rest, by simp⟩)
  | .name word :: after =>
    match wordLiteral? word with
    | some value => .ok (.literal value, ⟨after, by simp⟩)
    | none =>
      match pathSegments after with
      | .error e => .error e
      | .ok (segments, ⟨rest, shorter⟩) =>
        .ok (.path (word :: segments), ⟨rest, by simp only [List.length_cons]; omega⟩)
  | .openParen :: after =>
    match parseBinary 1 after with
    | .error e => .error e
    | .ok (inner, ⟨.closeParen :: rest, shorter⟩) =>
      .ok (inner, ⟨rest, by simp only [List.length_cons] at *; omega⟩)
    | .ok _ => .error .missingCloseParen
  | token :: _ => .error (.unexpectedToken token)
  | [] => .error .unexpectedEnd
termination_by (tokens.length, 0)

end

/-- The expression that takes all of some tokens. -/
def parseTokens : List Token → Except SyntaxError Expr
  | [] => .error .empty
  | tokens =>
    match parseBinary 1 tokens with
    | .error e => .error e
    | .ok (expr, ⟨[], _⟩) => .ok expr
    | .ok (_, ⟨token :: _, _⟩) => .error (.trailingToken token)

/-- The expression that a text stands for. -/
def parse (source : String) : Except SyntaxError Expr := do
  parseTokens (← tokens source)

end ChannelGuard.Condition
