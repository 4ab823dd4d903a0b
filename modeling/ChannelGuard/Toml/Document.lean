import ChannelGuard.Toml.Scalars

/-!
TOML documents. A document is a row of statements, each of which opens a table or sets a key; a
table that a statement has made complete takes no part in later ones, and no key is set twice.
-/
namespace ChannelGuard.Toml

/-! Building tables -/

/-- How a table came to be. -/
inductive Origin where
  /-- It was opened by name. -/
  | opened
  /-- A table inside of it was opened. -/
  | passed
  /-- A key with points made it. -/
  | dotted
  deriving DecidableEq

inductive Item where
  | value (v : Value)
  | table (origin : Origin) (members : List (String × Item))
  /-- The tables of an array that grows by opening. -/
  | tables (elements : List (List (String × Item)))

abbrev Members := List (String × Item)

/-- Puts an item in the place of the one under a key, or at the end. -/
def putItem (key : String) (item : Item) : Members → Members
  | [] => [(key, item)]
  | (k, old) :: rest => if k = key then (k, item) :: rest else (k, old) :: putItem key item rest

/-- Goes along a path, makes the tables that are missing, and changes the table at its end. Keys
with points do not go through tables that were opened. -/
def changeAt (byKey : Bool) : (path : List String) → (Origin → Members → Option Members) →
    Origin → Members → Option Members
  | [], change, origin, members => change origin members
  | key :: rest, change, _, members =>
    match members.lookup key with
    | none =>
      let origin : Origin := if byKey then .dotted else .passed
      (changeAt byKey rest change origin []).map fun inner =>
        putItem key (.table origin inner) members
    | some (.table origin inner) =>
      if byKey && origin == .opened then none
      else (changeAt byKey rest change origin inner).map fun inner =>
        putItem key (.table origin inner) members
    | some (.tables elements) =>
      (elements.getLast?.bind (changeAt byKey rest change .opened)).map fun last =>
        putItem key (.tables (elements.dropLast ++ [last])) members
    | some (.value _) => none

/-- Sets a key, given by the path to its table and its name there. -/
def setKey (path : List String) (key : String) (v : Value) (members : Members) : Option Members :=
  changeAt true path (fun origin members =>
    if (origin == .dotted) == path.isEmpty || (members.lookup key).isSome then none
    else some (putItem key (.value v) members)) .opened members

/-- Opens a table that is not there yet, or that is there only because of tables inside. -/
def openTable (path : List String) (key : String) (members : Members) : Option Members :=
  changeAt false path (fun _ members =>
    match members.lookup key with
    | none => some (putItem key (.table .opened []) members)
    | some (.table .passed inner) => some (putItem key (.table .opened inner) members)
    | some _ => none) .opened members

/-- Adds a table to an array of tables. -/
def openElement (path : List String) (key : String) (members : Members) : Option Members :=
  changeAt false path (fun _ members =>
    match members.lookup key with
    | none => some (putItem key (.tables [[]]) members)
    | some (.tables elements) => some (putItem key (.tables (elements ++ [[]])) members)
    | some _ => none) .opened members

mutual

def Item.toValue : Item → Value
  | .value v => v
  | .table _ members => .table (membersToValues members)
  | .tables elements => .array (elementsToValues elements)

def membersToValues : Members → List (String × Value)
  | [] => []
  | (key, item) :: rest => (key, item.toValue) :: membersToValues rest

def elementsToValues : List Members → List Value
  | [] => []
  | members :: rest => .table (membersToValues members) :: elementsToValues rest

end

/-! Reading -/

mutual

/-- A value, and what follows. Every step reads a character, and `depth` more arrays and tables may
be opened. -/
def value? : (steps depth : Nat) → List Char → Option (Value × List Char)
  | 0, _, _ => none
  | steps + 1, depth, text =>
    match text with
    | '"' :: _ => (string? text).map fun (s, rest) => (.string s, rest)
    | '\x27' :: _ => (string? text).map fun (s, rest) => (.string s, rest)
    | '[' :: rest =>
      if depth = 0 then none
      else (items? steps (depth - 1) rest).map fun (items, rest) => (.array items, rest)
    | '\x7b' :: rest =>
      if depth = 0 then none
      else
        match skipBlanks rest with
        | '\x7d' :: rest => some (.table [], rest)
        | rest => (pairs? steps (depth - 1) [] rest).map fun (members, rest) =>
          (.table (membersToValues members), rest)
    | text => scalar? text

/-- The items of an array, over any number of lines; a comma may follow the last one. -/
def items? : (steps depth : Nat) → List Char → Option (List Value × List Char)
  | 0, _, _ => none
  | steps + 1, depth, text =>
    match skipLines text.length text with
    | ']' :: rest => some ([], rest)
    | text => do
      let (item, rest) ← value? steps depth text
      match skipLines rest.length rest with
      | ']' :: rest => some ([item], rest)
      | ',' :: rest =>
        let (items, rest) ← items? steps depth rest
        some (item :: items, rest)
      | _ => none

/-- The pairs of a table on one line, after those in `members`. -/
def pairs? : (steps depth : Nat) → Members → List Char → Option (Members × List Char)
  | 0, _, _, _ => none
  | steps + 1, depth, members, text => do
    let (path, key, rest) ← path? text
    match rest with
    | '=' :: rest =>
      let (v, rest) ← value? steps depth (skipBlanks rest)
      let members ← setKey path key v members
      match skipBlanks rest with
      | '\x7d' :: rest => some (members, rest)
      | ',' :: rest => pairs? steps depth members rest
      | _ => none
    | _ => none

end

/-- A document as it is read: its tables, and the path of the one that is open. -/
structure Draft where
  members : Members
  path : List String

/-- The statement on a line, what it makes of the draft, and what follows the line. -/
def statement? (draft : Draft) (text : List Char) : Option (Draft × List Char) :=
  match text with
  | '[' :: '[' :: rest => do
    let (path, key, rest) ← path? rest
    let members ← openElement path key draft.members
    match rest with
    | ']' :: ']' :: rest => some (⟨members, path ++ [key]⟩, ← lineEnd? rest)
    | _ => none
  | '[' :: rest => do
    let (path, key, rest) ← path? rest
    let members ← openTable path key draft.members
    match rest with
    | ']' :: rest => some (⟨members, path ++ [key]⟩, ← lineEnd? rest)
    | _ => none
  | text => do
    let (path, key, rest) ← path? text
    match rest with
    | '=' :: rest =>
      let rest := skipBlanks rest
      let (v, rest) ← value? (rest.length + 1) depthLimit rest
      let members ← changeAt false draft.path (fun _ => setKey path key v) .opened draft.members
      some (⟨members, draft.path⟩, ← lineEnd? rest)
    | _ => none

/-- The statements of a text. Every step reads a line. -/
def statements? : (steps : Nat) → Draft → List Char → Option Members
  | 0, draft, text => if text.isEmpty then some draft.members else none
  | steps + 1, draft, text =>
    match skipBlanks text with
    | [] => some draft.members
    | text =>
      match lineEnd? text with
      | some rest => statements? steps draft rest
      | none => (statement? draft text).bind fun (draft, rest) => statements? steps draft rest

/-- The members of the root table; a byte order mark may come first. -/
def parse? (source : String) : Option (List (String × Value)) :=
  let text := match source.toList with
    | '\ufeff' :: rest => rest
    | text => text
  (statements? text.length ⟨[], []⟩ text).map membersToValues

end ChannelGuard.Toml
