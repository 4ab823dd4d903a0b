import ChannelGuard.Access.Control
import ChannelGuard.Api.ContentType
import ChannelGuard.Json.Shape

/-!
The decision service over HTTP: one route for each kind of request, one that shows what a channel
name stands for, and one that tells that the service runs.
-/
namespace ChannelGuard.Api

open Json (Shape)

structure HttpRequest where
  method : String
  target : String
  contentType : Option String
  body : String

inductive Content where
  | nothing
  | json (value : Json)
  | text (s : String)

structure HttpResponse where
  status : Nat
  content : Content

/-! Bodies -/

def socketShape : Shape := .record [("id", .string, true), ("authToken", .any, false)]

def emitShape : Shape :=
  .record [("event", .string, true), ("data", .any, false), ("socket", socketShape, false)]

def publishShape : Shape :=
  .record [("channel", .string, true), ("data", .any, false), ("socket", socketShape, false)]

def subscribeShape : Shape :=
  .record [("channel", .string, true), ("socket", socketShape, false),
    ("allowCrudAccess", .bool, false)]

def readFilterShape : Shape :=
  .record [("query", .any, true), ("resource", .any, false), ("socket", socketShape, false)]

def parseShape : Shape := .record [("channel", .string, true)]

/-- A member that is there and not null. -/
def present? (body : Json) (key : String) : Option Json :=
  match body.member? key with
  | some .null => none
  | other => other

def textOf (body : Json) (key : String) : String := ((body.member? key).bind Json.string?).getD ""

def valueOf (body : Json) (key : String) : Json := (body.member? key).getD .null

def flagOf (body : Json) (key : String) : Bool :=
  match body.member? key with
  | some (.bool b) => b
  | _ => false

/-- The connection that a body describes; without one, an anonymous connection with no name. -/
def socketOf (body : Json) : Socket :=
  let socket := valueOf body "socket"
  ⟨textOf socket "id", present? socket "authToken"⟩

/-! Routes -/

/-- What a route does with a body. -/
inductive Route where
  | decide (shape : Shape) (request : Json → Request)
  | describeChannel
  | health

def route? : String → Option Route
  | "/v1/emit" => some <| .decide emitShape fun body =>
    .emit (textOf body "event") (valueOf body "data") (socketOf body)
  | "/v1/publish-in" => some <| .decide publishShape fun body =>
    .publishIn (textOf body "channel") (valueOf body "data") (socketOf body)
  | "/v1/publish-out" => some <| .decide publishShape fun body =>
    .publishOut (textOf body "channel") (valueOf body "data") (socketOf body)
  | "/v1/subscribe" => some <| .decide subscribeShape fun body =>
    .subscribe (textOf body "channel") (socketOf body) (flagOf body "allowCrudAccess")
  | "/v1/read-filter" => some <| .decide readFilterShape fun body =>
    .readFilter {
      socket := socketOf body
      action := .read
      subject := .request (valueOf body "query")
      resource := present? body "resource"
      handle := none }
  | "/v1/parse" => some .describeChannel
  | "/healthz" => some .health
  | _ => none

/-! Answers -/

/-- An answer without content. -/
def HttpResponse.bare (status : Nat) : HttpResponse := ⟨status, .nothing⟩

def HttpResponse.ofFault : Json.ShapeFault → HttpResponse
  | .malformed => bare 400
  | .mismatch => bare 422

/-- The answer that an outcome means; none as long as the evaluator has not answered. -/
def HttpResponse.ofOutcome : Outcome → Option HttpResponse
  | .allowed => some ⟨200, .json (.ofMembers [("allowed", .bool true)])⟩
  | .refused refusal =>
    let error := Json.ofMembers
      [("name", .string refusal.name), ("message", .string refusal.message)]
    some ⟨403, .json (.ofMembers [("allowed", .bool false), ("error", error)])⟩
  | .pending => none

/-- The answer that shows the resource of a channel. -/
def HttpResponse.ofChannel (name : String) : HttpResponse :=
  let query := (ResourceQuery.ofChannel? name).map ResourceQuery.toJson
  ⟨200, .json (.ofMembers [("query", query.getD .null)])⟩

/-- Reads a body of a shape, if the request announces JSON. -/
def HttpRequest.decode (request : HttpRequest) (shape : Shape) : Except HttpResponse Json :=
  if (request.contentType.map isJsonContentType).getD false then
    (shape.read request.body).mapError .ofFault
  else .error (.bare 415)

def isSchemeChar (c : Char) : Bool := c.isAlphanum || c == '+' || c == '-' || c == '.'

/-- The path of a request's target: what comes before the query or the fragment and, when the target
names a scheme and a host, after the host. -/
def HttpRequest.route? (request : HttpRequest) : Option Route :=
  let isBeforeQuery (c : Char) := c != '?' && c != '#'
  let target := request.target.toList
  let path := match target.dropWhile isSchemeChar with
    | ':' :: '/' :: '/' :: rest => rest.dropWhile fun c => isBeforeQuery c && c != '/'
    | _ => target
  Api.route? (String.ofList (path.takeWhile isBeforeQuery))

/-- The answer to a request, and the access control as its evaluators are left. -/
def respond {ε : Type} [Evaluator ε] (control : AccessControl ε) (request : HttpRequest) :
    Option HttpResponse × AccessControl ε :=
  match request.route? with
  | none => (some (.bare 404), control)
  | some .health =>
    if request.method = "GET" then (some ⟨200, .text "ok"⟩, control)
    else if request.method = "HEAD" then (some ⟨200, .text ""⟩, control)
    else (some (.bare 405), control)
  | some .describeChannel =>
    if request.method = "POST" then
      match request.decode parseShape with
      | .error response => (some response, control)
      | .ok body => (some (.ofChannel (textOf body "channel")), control)
    else (some (.bare 405), control)
  | some (.decide shape toRequest) =>
    if request.method = "POST" then
      match request.decode shape with
      | .error response => (some response, control)
      | .ok body =>
        let (outcome, control) := control.answer (toRequest body)
        (HttpResponse.ofOutcome outcome, control)
    else (some (.bare 405), control)

end ChannelGuard.Api
