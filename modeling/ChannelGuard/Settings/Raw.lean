import ChannelGuard.Keyed
import ChannelGuard.Toml.Value

/-!
Settings before they are given types: a tree of values that layers of sources build up. A later
layer replaces single values and merges tables; the keys of the tree are in small letters.
-/
namespace ChannelGuard.Settings

open Number (Float64)

inductive Raw where
  | absent
  | string (s : String)
  | integer (i : Int)
  | float (x : Float64)
  | bool (b : Bool)
  | array (items : List Raw)
  | table (members : List (String × Raw))

instance : Inhabited Raw := ⟨.absent⟩

mutual

/-- Dates and times count as strings. -/
def Raw.ofToml : Toml.Value → Raw
  | .string s => .string s
  | .integer i => .integer i
  | .float x => .float x
  | .bool b => .bool b
  | .datetime written => .string written
  | .array items => .array (ofTomlItems items)
  | .table members => .table (ofTomlMembers members)

def Raw.ofTomlItems : List Toml.Value → List Raw
  | [] => []
  | item :: rest => ofToml item :: ofTomlItems rest

def Raw.ofTomlMembers : List (String × Toml.Value) → List (String × Raw)
  | [] => []
  | (key, value) :: rest => (key, ofToml value) :: ofTomlMembers rest

end

/-- Small letters, as far as they are letters of ASCII; the sign for kelvin has one too. -/
def smallChar (c : Char) : Char := if c = '\u212a' then 'k' else c.toLower

def smallLetters (s : String) : String := String.ofList (s.toList.map smallChar)

namespace Raw

def members : Raw → List (String × Raw)
  | table members => members
  | _ => []

def items : Raw → List Raw
  | array items => items
  | _ => []

mutual

/-- Sets the member under a key of what becomes a table if it is none. A table as the value is
merged into what stands under the key. -/
def setMember (key : String) (value root : Raw) : Raw :=
  let key := smallLetters key
  match value with
  | table incoming =>
    let target := (Keyed.find? key root.members).getD (.table [])
    .table (Keyed.insert key (setMembers incoming target) root.members)
  | value => .table (Keyed.insert key value root.members)

def setMembers (incoming : List (String × Raw)) (root : Raw) : Raw :=
  match incoming with
  | [] => root
  | (key, value) :: rest => setMembers rest (setMember key value root)

end

end Raw

/-! Paths -/

/-- A place in the tree: a member of the root, of another place, or an item of an array there. -/
inductive Path where
  | member (key : String)
  | child (parent : Path) (key : String)
  | item (parent : Path) (index : Int)

namespace Path

def isKeyChar (c : Char) : Bool := c.isAlphanum || c == '_' || c == '-' || c == ' '

def dropBlanks (text : List Char) : List Char := text.dropWhile fun c => c == ' ' || c == '\t'

/-- A number in brackets, of 64 bits with a sign and with blanks around it perhaps, and what follows
the closing bracket. -/
def index? (text : List Char) : Option (Int × List Char) :=
  let (negative, digits) := match dropBlanks text with
    | '-' :: rest => (true, rest)
    | rest => (false, rest)
  let number := digits.takeWhile Char.isDigit
  let size : Int := Number.digitsValue number
  let index := if negative then -size else size
  match number, dropBlanks (digits.dropWhile Char.isDigit) with
  | _ :: _, ']' :: rest =>
    if -0x8000000000000000 ≤ index && index < 0x8000000000000000 then some (index, rest) else none
  | _, _ => none

/-- What follows the first key of a path. Every step reads a key or an index. -/
def continue? : (steps : Nat) → Path → List Char → Option Path
  | _, path, [] => some path
  | 0, _, _ => none
  | steps + 1, path, '.' :: rest =>
    match rest.takeWhile isKeyChar with
    | [] => none
    | key => continue? steps (.child path (String.ofList key)) (rest.dropWhile isKeyChar)
  | steps + 1, path, '[' :: rest =>
    (index? rest).bind fun (index, rest) => continue? steps (.item path index) rest
  | _, _, _ => none

/-- The place that a key names: members after points, items in brackets. A key that is not written
so names a member of the root. -/
def ofKey (key : String) : Path :=
  let text := key.toList
  let written := match text.takeWhile isKeyChar with
    | [] => none
    | first =>
      continue? text.length (.member (String.ofList first)) (text.dropWhile isKeyChar)
  written.getD (.member key)

/-- The position of an index, which counts from the end when it is negative. -/
def position (index : Int) (length : Nat) : Nat :=
  if 0 ≤ index then index.toNat else length - index.natAbs

/-- Changes a member of what becomes a table if it is none. -/
def changeMember (key : String) (change : Raw → Raw) (value : Raw) : Raw :=
  let key := smallLetters key
  let old := (Keyed.find? key value.members).getD .absent
  .table (Keyed.insert key (change old) value.members)

/-- Changes an item of what becomes an array if it is none, and long enough if it is shorter. -/
def changeItem (index : Int) (change : Raw → Raw) (value : Raw) : Raw :=
  let items := value.items
  let i := position index items.length
  let items := items ++ List.replicate (i + 1 - items.length) Raw.absent
  .array (items.set i (change (items[i]?.getD .absent)))

/-- Changes the value at a place. Everything before it becomes a table or an array as the path
demands, whatever stood there. -/
def change : Path → (Raw → Raw) → Raw → Raw
  | member key, f, root => changeMember key f root
  | child parent key, f, root => parent.change (changeMember key f) root
  | item parent index, f, root => parent.change (changeItem index f) root

/-- Sets the value at a place; a table as the value is merged into a member that stands there. -/
def set (path : Path) (value root : Raw) : Raw :=
  match path with
  | member key => Raw.setMember key value root
  | child parent key => parent.change (Raw.setMember key value) root
  | item parent index => parent.change (changeItem index fun _ => value) root

end Path

/-- Lays the entries of a source, each under its key, over the tree of the sources before. -/
def Raw.layer (root : Raw) (entries : List (String × Raw)) : Raw :=
  entries.foldl (fun root (key, value) => (Path.ofKey key).set value root) root

end ChannelGuard.Settings
