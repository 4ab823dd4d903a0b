import ChannelGuard.Access.Evaluator
import ChannelGuard.Access.Registry

/-!
Evaluators given as data: fixed answers, conditions, questions about the context, waits, and
evaluators that count or note down their runs.
-/
namespace ChannelGuard

/-- A run as a tracing evaluator notes it down. -/
structure Sighting where
  context : Json
  handle : Option QueryHandle

inductive Script where
  | constant (verdict : Bool)
  | condition (c : Condition)
  | fails (text : String)
  | delayed (ms : Nat) (inner : Script)
  | hangs
  /-- True for requests with a token. -/
  | signedIn
  | hasHandle (handle : QueryHandle)
  | hasType (type : String)
  /-- True for as many runs as are left. -/
  | limited (left : Nat)
  /-- Notes down each of its runs. -/
  | traced (seen : List Sighting) (inner : Script)

namespace Script

def start (context : Context) : Script → Course Script
  | constant verdict => .answers (.ok verdict) (.constant verdict)
  | condition c => (Evaluator.start c context).map .condition
  | fails text => .answers (.error (.failed text)) (.fails text)
  | delayed ms inner => .waits ms (.delayed ms inner) ((inner.start context).map (.delayed ms))
  | hangs => .hangs .hangs
  | signedIn => .answers (.ok context.token.isSome) .signedIn
  | hasHandle handle => .answers (.ok (context.handle == some handle)) (.hasHandle handle)
  | hasType type => .answers (.ok (context.subject.type? == some type)) (.hasType type)
  | limited left => .answers (.ok (0 < left)) (.limited (left - 1))
  | traced seen inner =>
    let seen := seen ++ [⟨context.toJson, context.handle⟩]
    (inner.start context).map (.traced seen)

instance : Evaluator Script where
  start script context := script.start context

/-- The runs noted down so far, outer ones first, and the evaluator with its notes cleared. -/
def takeSightings : Script → List Sighting × Script
  | delayed ms inner => (inner.takeSightings.1, .delayed ms inner.takeSightings.2)
  | traced seen inner => (seen ++ inner.takeSightings.1, .traced [] inner.takeSightings.2)
  | other => ([], other)

end Script

/-- The runs noted down by the evaluators of a registry, and the registry with its notes cleared. -/
def Registry.takeSightings (registry : Registry Script) : List Sighting × Registry Script :=
  let noted (rule : AccessRule Script) : List Sighting :=
    (rule.inbound.toList ++ rule.outbound.toList).flatMap (·.takeSightings.1)
  (registry.entries.flatMap (noted ·.2), registry.map (·.takeSightings.2))

end ChannelGuard
