/-!
Documents of the KDL language, version 2: a row of nodes, each with a name, entries and perhaps a
block of further nodes.
-/
namespace ChannelGuard.Kdl

inductive Value where
  | string (s : String)
  /-- A number as it is written. -/
  | number (written : String)
  | bool (b : Bool)
  | null

inductive Entry where
  | argument (value : Value)
  | property (name : String) (value : Value)

inductive Node where
  | node (name : String) (entries : List Entry) (children : Option (List Node))

namespace Node

def name : Node → String
  | node name _ _ => name

def entries : Node → List Entry
  | node _ entries _ => entries

/-- The nodes of the block, none when there is no block. -/
def children : Node → List Node
  | node _ _ children => children.getD []

/-- The first entry that is no property, if it is a string. -/
def firstString? (n : Node) : Option String :=
  n.entries.findSome? (fun
    | .argument (.string s) => some (some s)
    | .argument _ => some none
    | .property .. => none) |>.join

end Node

end ChannelGuard.Kdl
