import ChannelGuard.Access.Evaluator
import ChannelGuard.Access.Registry
import ChannelGuard.Resource.Channel

/-!
The decision on a request. A request either passes, is refused outright, or needs the evaluator for
one resource type and one direction; without such an evaluator the defaults decide.
-/
namespace ChannelGuard

/-- What holds where no evaluator does, and how long evaluators may take. -/
structure Defaults where
  blockInbound : Bool
  blockOutbound : Bool
  /-- The limit on one run in milliseconds. -/
  timeout : Option Nat

def Defaults.blocks (defaults : Defaults) : Direction → Bool
  | .inbound => defaults.blockInbound
  | .outbound => defaults.blockOutbound

/-! Refusals -/

/-- What was refused. -/
inductive Denial where
  | operation (type id : Option String)
  | broadcast (channel : String)
  | subscription (channel : String)
  | readout (type id : Option String)
  deriving DecidableEq

def describeResource (type id : Option String) : String :=
  match type, id with
  | some type, some id => "the " ++ type ++ " resource with ID " ++ id
  | some type, none => "the " ++ type ++ " resource"
  | none, some id => "an untyped resource with ID " ++ id
  | none, none => "an untyped resource"

def Denial.message : Denial → String
  | operation type id =>
    "You are not permitted to perform a CRUD operation on " ++ describeResource type id
  | broadcast channel => "Cannot publish out to " ++ channel ++ " channel"
  | subscription channel => "Cannot subscribe to " ++ channel ++ " channel"
  | readout type id =>
    "You are not permitted to perform a CRUD read operation on " ++ describeResource type id

/-- Why a request is refused. -/
inductive Refusal where
  /-- There is no rule, and the defaults block. -/
  | noRule (denial : Denial)
  /-- The rule denies. -/
  | denied (denial : Denial)
  | publishNotAllowed
  /-- The rule gives no verdict. -/
  | unanswered (denial : Denial) (failure : Failure)
  deriving DecidableEq

namespace Refusal

def noRuleSuffix : String := " - No access control rules found"

def message : Refusal → String
  | noRule denial => denial.message ++ noRuleSuffix
  | denied denial => denial.message
  | publishNotAllowed => "Cannot publish to a CRUD resource channel"
  | unanswered denial failure => denial.message ++ ": " ++ failure.message

/-- The name that clients know a refusal by. -/
def name : Refusal → String
  | noRule _ | denied _ => "CRUDBlockedError"
  | publishNotAllowed => "CRUDPublishNotAllowedError"
  | unanswered .. => "EvaluatorError"

/-- The diagnostic code of a refusal. -/
def code : Refusal → String
  | noRule _ | denied _ => "crudgate::access::blocked"
  | publishNotAllowed => "crudgate::access::publish_not_allowed"
  | unanswered .. => "crudgate::access::evaluator"

end Refusal

inductive Outcome where
  | allowed
  | refused (refusal : Refusal)
  /-- The evaluator never answers. -/
  | pending
  deriving DecidableEq

/-! Requests -/

inductive Request where
  /-- A client event. -/
  | emit (event : String) (data : Json) (socket : Socket)
  /-- A client publishes on a channel. -/
  | publishIn (channel : String) (data : Json) (socket : Socket)
  /-- The server sends to one receiver of a channel. -/
  | publishOut (channel : String) (data : Json) (socket : Socket)
  /-- A client subscribes; `granted` when the server has already checked the access. -/
  | subscribe (channel : String) (socket : Socket) (granted : Bool)
  /-- Data are about to be returned to one requester. -/
  | readFilter (context : Context)

/-- A question for the evaluator of a type in a direction. -/
structure Inquiry where
  type : Option String
  direction : Direction
  denial : Denial
  /-- Whether the evaluator, if there is one, need not be asked. -/
  granted : Bool
  context : Context

inductive Plan where
  | pass
  | refuse (refusal : Refusal)
  /-- There cannot be a rule. -/
  | unruled (direction : Direction) (denial : Denial)
  | ask (inquiry : Inquiry)

/-- What a request needs, where evaluators get the handle `handle` unless the request brings its
own. -/
def Request.plan (handle : Option QueryHandle) : Request → Plan
  | emit event data socket =>
    match Action.ofEvent? event with
    | none => .pass
    | some action =>
      let subject := Subject.request data
      .ask {
        type := subject.type?
        direction := .inbound
        denial := .operation subject.type? subject.id?
        granted := false
        context := { socket, action, subject, resource := none, handle } }
  | publishIn channel _ _ =>
    match Channel.classify channel with
    | .other => .pass
    | _ => .refuse .publishNotAllowed
  | publishOut channel data socket =>
    match Channel.classify channel with
    | .other => .pass
    | .malformed => .unruled .outbound (.broadcast channel)
    | .resource query =>
      .ask {
        type := some query.type
        direction := .outbound
        denial := .broadcast channel
        granted := false
        context := {
          socket
          action := .publish
          subject := .channel query
          resource := some data
          handle } }
  | subscribe channel socket granted =>
    match Channel.classify channel with
    | .other => .pass
    | .malformed => .unruled .inbound (.subscription channel)
    | .resource query =>
      .ask {
        type := some query.type
        direction := .inbound
        denial := .subscription channel
        granted := granted
        context := {
          socket
          action := .subscribe
          subject := .channel query
          resource := none
          handle } }
  | readFilter context =>
    .ask {
      type := context.subject.type?
      direction := .outbound
      denial := .readout context.subject.type? context.subject.id?
      granted := false
      context := { context with handle := context.handle.or handle } }

/-! Decisions -/

/-- The outcome that a decision means for what was asked. -/
def Decision.toOutcome (denial : Denial) : Decision → Outcome
  | allowed => .allowed
  | denied => .refused (.denied denial)
  | failed failure => .refused (.unanswered denial failure)
  | pending => .pending

structure AccessControl (ε : Type) where
  registry : Registry ε
  defaults : Defaults
  handle : Option QueryHandle

namespace AccessControl

variable {ε : Type}

/-- The outcome where there is no evaluator. -/
def fallback (control : AccessControl ε) (direction : Direction) (denial : Denial) : Outcome :=
  if control.defaults.blocks direction then .refused (.noRule denial) else .allowed

variable [Evaluator ε]

/-- Asks the evaluator of a type in a direction, and keeps it as its run has left it. -/
def inquire (control : AccessControl ε) (inquiry : Inquiry) : Outcome × AccessControl ε :=
  let rule := inquiry.type.bind fun type =>
    (control.registry.lookup type inquiry.direction).map fun evaluator => (type, evaluator)
  match rule with
  | none => (control.fallback inquiry.direction inquiry.denial, control)
  | some (type, evaluator) =>
    if inquiry.granted then (.allowed, control)
    else
      let (decision, evaluator) :=
        Evaluator.decision evaluator inquiry.context control.defaults.timeout
      (decision.toOutcome inquiry.denial,
        { control with registry := control.registry.set type inquiry.direction evaluator })

def carryOut (control : AccessControl ε) : Plan → Outcome × AccessControl ε
  | .pass => (.allowed, control)
  | .refuse refusal => (.refused refusal, control)
  | .unruled direction denial => (control.fallback direction denial, control)
  | .ask inquiry => control.inquire inquiry

/-- Decides on a request. -/
def answer (control : AccessControl ε) (request : Request) : Outcome × AccessControl ε :=
  control.carryOut (request.plan control.handle)

end AccessControl

end ChannelGuard
