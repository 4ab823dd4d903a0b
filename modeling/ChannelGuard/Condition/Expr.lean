import ChannelGuard.Json.Basic

/-!
Condition expressions: values and paths into a context, joined by relations and by connectives.
-/
namespace ChannelGuard.Condition

/-- An operator that compares two values. -/
inductive Relation where
  | eq
  | ne
  | gt
  | lt
  | ge
  | le
  | mem
  deriving DecidableEq

/-- An operator that joins two truth values and may leave the right one unread. -/
inductive Connective where
  | and
  | or
  deriving DecidableEq

inductive Operator where
  | relation (r : Relation)
  | connective (c : Connective)
  deriving DecidableEq

inductive Expr where
  | literal (value : Json)
  | path (segments : List String)
  | not (inner : Expr)
  | binary (op : Operator) (left right : Expr)

namespace Operator

/-- Higher binds tighter. -/
def precedence : Operator → Nat
  | connective .or => 1
  | connective .and => 2
  | relation _ => 3

/-- The operator as it is written. -/
def symbol : Operator → String
  | relation .eq => "=="
  | relation .ne => "!="
  | relation .gt => ">"
  | relation .lt => "<"
  | relation .ge => ">="
  | relation .le => "<="
  | relation .mem => "in"
  | connective .and => "&&"
  | connective .or => "||"

/-- The operator's name in messages. -/
def name : Operator → String
  | relation .eq => "Eq"
  | relation .ne => "Ne"
  | relation .gt => "Gt"
  | relation .lt => "Lt"
  | relation .ge => "Ge"
  | relation .le => "Le"
  | relation .mem => "In"
  | connective .and => "And"
  | connective .or => "Or"

end Operator

end ChannelGuard.Condition
