import ChannelGuard.Condition.Parser

/-!
The value of a condition in a JSON context. Absent paths are null, connectives leave their right
side unread when the left one decides, and numbers compare through binary64.
-/
namespace ChannelGuard.Condition

inductive EvalError where
  /-- The whole condition has a value that is no truth value. -/
  | notBoolean (value : Json)
  /-- An operand of `symbol` is no truth value. -/
  | operandNotBoolean (symbol : String) (value : Json)
  | notArray (value : Json)
  | unordered (left right : Json)

def EvalError.message : EvalError → String
  | notBoolean value => "condition must evaluate to a boolean, got `" ++ value.render ++ "`"
  | operandNotBoolean symbol value =>
    "`" ++ symbol ++ "` requires boolean operands, got `" ++ value.render ++ "`"
  | notArray value =>
    "`in` requires an array on the right side, got `" ++ value.render ++ "`"
  | unordered left right => "cannot order `" ++ left.render ++ "` and `" ++ right.render ++ "`"

/-- The value at the end of a path, null where the path leaves the context. -/
def resolve (context : Json) : List String → Json
  | [] => context
  | segment :: rest =>
    match context.member? segment with
    | some value => resolve value rest
    | none => .null

/-- Two numbers are equal if they are the same float; other values are compared by structure. -/
def looseEq : Json → Json → Bool
  | .number a, .number b => a.toBinary64.sameValue b.toBinary64
  | a, b => a.same b

/-- Strings are ordered by code point and numbers as floats; nothing else is ordered. -/
def order? : Json → Json → Option Ordering
  | .string a, .string b => some (compare a b)
  | .number a, .number b => some (a.toBinary64.compare b.toBinary64)
  | _, _ => none

/-- Whether a relation that asks for an order holds in it. -/
def Relation.holdsIn (r : Relation) (o : Ordering) : Bool :=
  match r with
  | gt => o.isGT
  | lt => o.isLT
  | ge => o.isGE
  | _ => o.isLE

def relate (r : Relation) (left right : Json) : Except EvalError Bool :=
  match r with
  | .eq => .ok (looseEq left right)
  | .ne => .ok (!looseEq left right)
  | .mem =>
    match right with
    | .array items => .ok (items.any (looseEq left))
    | .null => .ok false
    | other => .error (.notArray other)
  | r =>
    match order? left right with
    | some o => .ok (r.holdsIn o)
    | none => .error (.unordered left right)

/-- The truth value that `symbol` needs as its operand. -/
def operand (symbol : String) : Json → Except EvalError Bool
  | .bool b => .ok b
  | other => .error (.operandNotBoolean symbol other)

def eval (context : Json) : Expr → Except EvalError Json
  | .literal value => .ok value
  | .path segments => .ok (resolve context segments)
  | .not inner => do
    let b ← operand "!" (← eval context inner)
    .ok (.bool !b)
  | .binary (.connective .and) left right => do
    if ← operand "&&" (← eval context left) then
      .ok (.bool (← operand "&&" (← eval context right)))
    else .ok (.bool false)
  | .binary (.connective .or) left right => do
    if ← operand "||" (← eval context left) then .ok (.bool true)
    else .ok (.bool (← operand "||" (← eval context right)))
  | .binary (.relation r) left right => do
    let l ← eval context left
    let r' ← eval context right
    .ok (.bool (← relate r l r'))

/-- The truth value of a condition. -/
def evaluate (expr : Expr) (context : Json) : Except EvalError Bool := do
  match ← eval context expr with
  | .bool b => .ok b
  | other => .error (.notBoolean other)

end ChannelGuard.Condition

namespace ChannelGuard

/-- A condition together with the text it was read from. -/
structure Condition where
  source : String
  expr : Condition.Expr

namespace Condition

def ofSource (source : String) : Except SyntaxError Condition :=
  (parse source).map fun expr => ⟨source, expr⟩

def holds (c : Condition) (context : Json) : Except EvalError Bool := evaluate c.expr context

end Condition

end ChannelGuard
