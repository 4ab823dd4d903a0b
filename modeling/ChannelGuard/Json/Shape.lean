import ChannelGuard.Json.Outline

/-!
JSON text that has to have a certain shape. The text counts from front to back, and its first
problem decides whether it is no JSON or JSON of another shape. A record may stand as an object,
whose unknown members do not matter, or as an array of its fields.
-/
namespace ChannelGuard.Json

inductive Shape where
  | string
  | bool
  | any
  /-- Fields by name, and whether each has to be there. -/
  | record (fields : List (String × Shape × Bool))

inductive ShapeFault where
  /-- The text is no JSON. -/
  | malformed
  /-- A value of another kind, a field that is missing or one that stands twice. -/
  | mismatch
  deriving DecidableEq

namespace Shape

/-- The fault of a place where another kind of value was asked for. -/
def faultAt : Outline → ShapeFault
  | .broken | .number none | .string none => .malformed
  | _ => .mismatch

/-- Some of the fields that have to be there are not. -/
def lacksField (fields : List (String × Shape × Bool)) (found : List (String × Json)) : Bool :=
  fields.any fun (name, _, needed) => needed && !found.any (·.1 == name)

/-- The record of the fields found, at the end of its object or array. -/
def finish (fields : List (String × Shape × Bool)) (found : List (String × Json))
    (closed : Bool) : Except ShapeFault Json :=
  if !closed then .error .malformed
  else if lacksField fields found then .error .mismatch
  else .ok (.ofMembers found)

mutual

/-- The value of a shape with at most `depth` nested arrays and objects. -/
def decode (depth : Nat) (shape : Shape) (outline : Outline) : Except ShapeFault Json :=
  match shape, outline with
  | .any, outline =>
    match outline.toJson? depth with
    | some value => .ok value
    | none => .error .malformed
  | .string, .string (some s) => .ok (.string s)
  | .bool, .bool b => .ok (.bool b)
  | .record fields, .object members closed =>
    match depth with
    | 0 => .error .malformed
    | depth + 1 => decodeMembers depth fields [] closed members
  | .record fields, .array items closed =>
    match depth with
    | 0 => .error .malformed
    | depth + 1 => decodeItems depth fields fields [] closed items
  | _, outline => .error (faultAt outline)

/-- The members of a record after those in `found`. -/
def decodeMembers (depth : Nat) (fields : List (String × Shape × Bool))
    (found : List (String × Json)) (closed : Bool) :
    List (Option String × Outline) → Except ShapeFault Json
  | [] => finish fields found closed
  | (none, _) :: _ => .error .malformed
  | (some key, outline) :: rest =>
    match fields.find? (·.1 == key) with
    | some (_, shape, _) =>
      if found.any (·.1 == key) then .error .mismatch
      else
        match decode depth shape outline with
        | .ok value => decodeMembers depth fields ((key, value) :: found) closed rest
        | .error e => .error e
    | none =>
      if outline.isWhole then decodeMembers depth fields found closed rest
      else .error .malformed

/-- The fields of a record that stands as an array, of which those in `left` have yet to come. -/
def decodeItems (depth : Nat) (fields left : List (String × Shape × Bool))
    (found : List (String × Json)) (closed : Bool) : List Outline → Except ShapeFault Json
  | [] => finish fields found closed
  | outline :: rest =>
    match left with
    | [] => .error .malformed
    | (key, shape, _) :: left =>
      match decode depth shape outline with
      | .ok value => decodeItems depth fields left ((key, value) :: found) closed rest
      | .error e => .error e

end

/-- The value of a text that holds one value of a shape and blanks around it. -/
def read (shape : Shape) (text : String) : Except ShapeFault Json :=
  let (outline, ended) := Outline.ofText text
  match decode maxDepth shape outline with
  | .ok value => if ended then .ok value else .error .malformed
  | .error e => .error e

end Shape

end ChannelGuard.Json
