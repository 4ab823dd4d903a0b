import ChannelGuard.Access.Action
import ChannelGuard.Json.Printer
import ChannelGuard.Resource.Query

/-! What an evaluator gets to see about one decision. -/
namespace ChannelGuard

/-- A connection. Without a token it is anonymous. -/
structure Socket where
  id : String
  token : Option Json

/-- What an operation is about: the payload of a request, or the resource that a channel name
stands for. -/
inductive Subject where
  | request (payload : Json)
  | channel (query : ResourceQuery)

namespace Subject

/-- The type of the resource; a payload has one only if its type is a string. -/
def type? : Subject → Option String
  | request payload => (payload.member? "type").bind Json.string?
  | channel query => some query.type

/-- The record, if there is one. An identifier in a payload that is no string goes by its JSON
text. -/
def id? : Subject → Option String
  | request payload =>
    match payload.member? "id" with
    | none | some .null => none
    | some (.string s) => some s
    | some other => some other.render
  | channel query => query.id?

def toJson : Subject → Json
  | request payload => payload
  | channel query => query.toJson

end Subject

/-- A value handed through to evaluators, by which they reach the query layer. -/
abbrev QueryHandle := Int

structure Context where
  socket : Socket
  action : Action
  subject : Subject
  resource : Option Json
  handle : Option QueryHandle
  /-- The token that the connection had when the request came in, unless another one is given. -/
  token : Option Json := socket.token

/-- The JSON object that conditions look into. -/
def Context.toJson (c : Context) : Json :=
  .ofMembers [
    ("action", .string c.action.name),
    ("authToken", c.token.getD .null),
    ("query", c.subject.toJson),
    ("resource", c.resource.getD .null),
    ("socket", .ofMembers [("id", .string c.socket.id)])]

end ChannelGuard
