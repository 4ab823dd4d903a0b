import ChannelGuard.Json.Outline
import ChannelGuard.Resource.Query

/-!
Channel names. `crud>Post`, `crud>Post/42` and `crud>Post/42/title` name a model,
`crud>recent(…):Post` a view with a JSON predicate. Only the part after the first `>` and before
the second counts.
-/
namespace ChannelGuard

/-- What the name of a channel says about the resource it carries. -/
inductive Channel where
  | resource (query : ResourceQuery)
  /-- A resource channel whose resource cannot be read. -/
  | malformed
  /-- Not a resource channel. -/
  | other

namespace Channel

/-- The text before the first `c`, or all of it. -/
def before (c : Char) (text : List Char) : List Char := text.takeWhile (· != c)

/-- The text after the first `c`, empty when there is none. -/
def after (c : Char) (text : List Char) : List Char := (text.dropWhile (· != c)).drop 1

/-- The texts around the first `c`. -/
def splitFirst? (c : Char) : List Char → Option (List Char × List Char)
  | [] => none
  | x :: rest =>
    if x = c then some ([], rest)
    else (splitFirst? c rest).map fun (left, right) => (x :: left, right)

/-- The texts around the last `c`. -/
def splitLast? (c : Char) : List Char → Option (List Char × List Char)
  | [] => none
  | x :: rest =>
    match splitLast? c rest with
    | some (left, right) => some (x :: left, right)
    | none => if x = c then some ([], rest) else none

def isLineTerminator (c : Char) : Bool :=
  c == '\n' || c == '\r' || c == '\u2028' || c == '\u2029'

def nonEmpty? (text : List Char) : Option String :=
  if text.isEmpty then none else some (String.ofList text)

/-- Type, record and field between slashes; empty parts are absent and further parts ignored. -/
def modelOf (segment : List Char) : ResourceQuery :=
  let narrowed := after '/' segment
  .model (String.ofList (before '/' segment)) (nonEmpty? (before '/' narrowed))
    (nonEmpty? (before '/' (after '/' narrowed)))

/-- `view(predicate):type`: the type follows the last colon, and the predicate runs from the first
parenthesis to the one before that colon, on one line. A predicate that is not JSON is absent. -/
def viewOf? (segment : List Char) : Option ResourceQuery := do
  let (head, type) ← splitLast? ':' segment
  let (inner, closed) ← splitLast? ')' head
  if !closed.isEmpty then none
  let (view, predicate) ← splitFirst? '(' inner
  if predicate.any isLineTerminator then none
  some (.view (String.ofList view) (String.ofList type) (Json.read? (String.ofList predicate)))

/-- The resource that the significant part of a channel name stands for. -/
def ofSegment (segment : List Char) : Channel :=
  let query := if segment.contains ':' then viewOf? segment else some (modelOf segment)
  match query with
  | some query => if query.type.isEmpty then .malformed else .resource query
  | none => .malformed

def classify (name : String) : Channel :=
  match name.toList with
  | 'c' :: 'r' :: 'u' :: 'd' :: '>' :: rest =>
    let segment := before '>' rest
    if segment.isEmpty then .other else ofSegment segment
  | _ => .other

/-- The query of a channel that carries a resource. -/
def query? : Channel → Option ResourceQuery
  | resource query => some query
  | malformed | other => none

end Channel

/-- The query that a channel name stands for. -/
def ResourceQuery.ofChannel? (name : String) : Option ResourceQuery :=
  (Channel.classify name).query?

end ChannelGuard
