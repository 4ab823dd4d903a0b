import ChannelGuard.Access.Registry
import ChannelGuard.Condition.Evaluation
import ChannelGuard.Kdl.Document
import ChannelGuard.Policy.Error

/-!
Policies: what a document declares for a resource type, and the registry of conditions that a row
of policies makes. The first offending declaration decides the error.
-/
namespace ChannelGuard

/-- The declaration of one resource type. -/
structure ResourcePolicy where
  type : TypeName
  conditions : AccessRule Condition

namespace ResourcePolicy

/-- Adds what one child of a resource declares. -/
def declare (policy : ResourcePolicy) (child : Kdl.Node) : Except PolicyError ResourcePolicy :=
  match Direction.ofName? child.name with
  | none => .error (.invalid (.unexpectedChild child.name policy.type.name))
  | some slot =>
    if (policy.conditions.slot slot).isSome then
      .error (.invalid (.duplicateSlot slot policy.type.name))
    else
      match child.firstString? with
      | none => .error (.invalid (.missingCondition slot policy.type.name))
      | some source =>
        match Condition.ofSource source with
        | .error e => .error (.invalidCondition e)
        | .ok condition =>
          .ok { policy with conditions := policy.conditions.overlay (.single condition slot) }

def ofNode (node : Kdl.Node) : Except PolicyError ResourcePolicy :=
  if node.name = "resource" then
    match node.firstString? with
    | none => .error (.invalid .missingType)
    | some name =>
      match TypeName.ofString name with
      | .error e => .error (.invalidType e)
      | .ok type => node.children.foldlM declare ⟨type, .empty⟩
  else .error (.invalid (.unexpectedNode node.name))

/-- The policies of a document, in its order. -/
def ofDocument (source : String) : Except PolicyError (List ResourcePolicy) :=
  match Kdl.parse? source with
  | none => .error .malformed
  | some nodes => nodes.mapM ofNode

end ResourcePolicy

/-- The registry that policies make: for each slot the last policy that declares it counts. -/
def Registry.ofPolicies (policies : List ResourcePolicy) : Registry Condition :=
  policies.foldl (fun registry policy => registry.overlay policy.type policy.conditions) .empty

end ChannelGuard
