import ChannelGuard.Json.Basic

/-!
Resource queries: a model, perhaps narrowed to one record and one of its fields, or a view with a
predicate. Their wire form is a JSON object that leaves out what is absent.
-/
namespace ChannelGuard

inductive ResourceQuery where
  | model (type : String) (id field : Option String)
  | view (view type : String) (predicate : Option Json)

namespace ResourceQuery

def type : ResourceQuery → String
  | model type _ _ => type
  | view _ type _ => type

/-- The record that a model query addresses. -/
def id? : ResourceQuery → Option String
  | model _ id _ => id
  | view .. => none

/-- A member of the wire form, left out when it has no value. -/
def optionalMember (key : String) : Option Json → List (String × Json)
  | some value => [(key, value)]
  | none => []

def toJson : ResourceQuery → Json
  | model type id field =>
    .ofMembers (("type", .string type) :: optionalMember "id" (id.map .string)
      ++ optionalMember "field" (field.map .string))
  | view name type predicate =>
    .ofMembers (("view", .string name) :: ("type", .string type)
      :: optionalMember "predicateData" predicate)

/-- A member that may be absent or null, and has to be a string otherwise. -/
def optionalString? (value : Json) (key : String) : Option (Option String) :=
  match value.member? key with
  | none | some .null => some none
  | some (.string s) => some (some s)
  | some _ => none

/-- A member that has to be a string. -/
def string? (value : Json) (key : String) : Option String :=
  (value.member? key).bind Json.string?

def viewOfJson? (value : Json) : Option ResourceQuery := do
  let name ← string? value "view"
  let type ← string? value "type"
  let predicate := match value.member? "predicateData" with
    | some .null => none
    | other => other
  some (.view name type predicate)

def modelOfJson? (value : Json) : Option ResourceQuery := do
  let type ← string? value "type"
  let id ← optionalString? value "id"
  let field ← optionalString? value "field"
  some (.model type id field)

/-- Reads the wire form, as a view if it can be one and as a model otherwise. -/
def ofJson? (value : Json) : Option ResourceQuery :=
  (viewOfJson? value).or (modelOfJson? value)

end ResourceQuery

end ChannelGuard
