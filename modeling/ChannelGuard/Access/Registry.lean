import ChannelGuard.Access.Action
import ChannelGuard.Keyed
import ChannelGuard.Resource.TypeName

/-!
Registries of access rules. A resource type has a slot for an evaluator in each direction, and an
empty slot means that there is no rule.
-/
namespace ChannelGuard

structure AccessRule (ε : Type) where
  inbound : Option ε
  outbound : Option ε

namespace AccessRule

variable {ε : Type}

def empty : AccessRule ε := ⟨none, none⟩

/-- The rule with one slot set. -/
def single (evaluator : ε) : Direction → AccessRule ε
  | .inbound => ⟨some evaluator, none⟩
  | .outbound => ⟨none, some evaluator⟩

def map {δ : Type} (f : ε → δ) (rule : AccessRule ε) : AccessRule δ :=
  ⟨rule.inbound.map f, rule.outbound.map f⟩

def slot (rule : AccessRule ε) : Direction → Option ε
  | .inbound => rule.inbound
  | .outbound => rule.outbound

/-- The slots that `upper` sets, and those of `lower` elsewhere. -/
def overlay (lower upper : AccessRule ε) : AccessRule ε :=
  ⟨upper.inbound.or lower.inbound, upper.outbound.or lower.outbound⟩

end AccessRule

/-- Access rules by resource type, in the order of the types' names. -/
structure Registry (ε : Type) where
  entries : List (TypeName × AccessRule ε)
  ascending : Keyed.Ascending entries

namespace Registry

variable {ε : Type}

def empty : Registry ε := ⟨[], .nil⟩

/-- The rule of a type, empty when the type has none. -/
def ruleOf (registry : Registry ε) (type : TypeName) : AccessRule ε :=
  (Keyed.find? type registry.entries).getD .empty

/-- The evaluator for a type and a direction; a text that is no type's name has none. -/
def lookup (registry : Registry ε) (type : String) (direction : Direction) : Option ε :=
  match TypeName.ofString type with
  | .ok type => (registry.ruleOf type).slot direction
  | .error _ => none

/-- Lays a rule over the one that the type has. -/
def overlay (registry : Registry ε) (type : TypeName) (rule : AccessRule ε) : Registry ε :=
  ⟨Keyed.insert type ((registry.ruleOf type).overlay rule) registry.entries,
    registry.ascending.insert type _⟩

/-- Lays a rule over the one of the type with the given name. -/
def add (registry : Registry ε) (name : String) (rule : AccessRule ε) :
    Except InvalidTypeName (Registry ε) :=
  (TypeName.ofString name).map (registry.overlay · rule)

/-- Puts an evaluator into a slot; a text that is no type's name has no slots. -/
def set (registry : Registry ε) (type : String) (direction : Direction) (evaluator : ε) :
    Registry ε :=
  match TypeName.ofString type with
  | .ok type => registry.overlay type (.single evaluator direction)
  | .error _ => registry

def map {δ : Type} (f : ε → δ) (registry : Registry ε) : Registry δ :=
  ⟨registry.entries.map fun (type, rule) => (type, rule.map f),
    registry.ascending.map (·.map f)⟩

/-- The resource types that have an entry, in ascending order. -/
def types (registry : Registry ε) : List TypeName := registry.entries.map (·.1)

def size (registry : Registry ε) : Nat := registry.entries.length

def isEmpty (registry : Registry ε) : Bool := registry.entries.isEmpty

end Registry

end ChannelGuard
