import ChannelGuard.Kdl.Entries

/-!
From KDL text to its nodes. A text is read as a whole or not at all. A slash with a dash hides the
node, entry or block after it, which still has to be well formed.
-/
namespace ChannelGuard.Kdl

/-- What follows the mark that ends a node: a semicolon, a comment to the end of the line, or a
newline. -/
def nodeEnd? : List Char → Option (List Char)
  | ';' :: rest => some rest
  | '/' :: '/' :: rest => some (dropLine rest)
  | text => newline? text

/-- Whether the block or the text ends here. -/
def atBlockEnd : List Char → Bool
  | [] => true
  | c :: _ => c == '\x7d'

mutual

/-- The nodes up to the end of the block or of the text. A node goes to a mark that ends it, except
that hidden nodes may follow the block of the last one directly. -/
def nodes? : (steps : Nat) → List Char → Option (List Node × List Char)
  | 0, _ => none
  | steps + 1, text => do
    let text ← skipHiddenNodes? steps text
    if atBlockEnd text then some ([], text)
    else
      let (node, rest) ← node? steps text
      match nodeEnd? rest with
      | some rest =>
        let (more, rest) ← nodes? steps rest
        some (node :: more, rest)
      | none =>
        let rest ← skipHiddenNodes? steps rest
        if atBlockEnd rest then some ([node], rest) else none

/-- Skips hidden nodes, which need no mark at their end, and what may stand between nodes. -/
def skipHiddenNodes? : (steps : Nat) → List Char → Option (List Char)
  | 0, _ => none
  | steps + 1, text => do
    match ← skipBetween? text with
    | '/' :: '-' :: rest =>
      let (_, rest) ← node? steps (← skipBetween? rest)
      skipHiddenNodes? steps rest
    | rest => some rest

/-- A node up to its end, where a node without any block has to end. -/
def node? : (steps : Nat) → List Char → Option (Node × List Char)
  | 0, _ => none
  | steps + 1, text => do
    let (name, rest) ← string? (← skipAnnotation? text)
    let (entries, rest) := entries steps rest
    let (hidden, rest) ← hiddenBlocks? true steps (skipHiddenEntries steps rest)
    match ← skipWithin? rest with
    | '\x7b' :: inner =>
      let (children, rest) ← block? steps inner
      let (_, rest) ← hiddenBlocks? false steps rest
      some (.node name entries (some children), ← skipWithin? rest)
    | rest =>
      if 0 < hidden || atBlockEnd rest || (nodeEnd? rest).isSome then
        some (.node name entries none, rest)
      else none

/-- The nodes of a block after its opening brace, and what follows the closing one. -/
def block? : (steps : Nat) → List Char → Option (List Node × List Char)
  | 0, _ => none
  | steps + 1, text => do
    match ← nodes? steps text with
    | (nodes, '\x7d' :: rest) => some (nodes, rest)
    | _ => none

/-- How many hidden blocks come first, and what follows them. Each stands after a blank, the first
only if `spaced`. -/
def hiddenBlocks? (spaced : Bool) : (steps : Nat) → List Char → Option (Nat × List Char)
  | 0, _ => none
  | steps + 1, text => do
    match if spaced then skipGap? text else skipWithin? text with
    | some ('/' :: '-' :: rest) =>
      match ← skipBetween? rest with
      | '\x7b' :: inner =>
        let (_, rest) ← block? steps inner
        let (more, rest) ← hiddenBlocks? true steps rest
        some (more + 1, rest)
      | _ => some (0, text)
    | _ => some (0, text)

end

/-- The nodes of a text; a byte order mark may come first. No character takes more than four
steps. -/
def parse? (source : String) : Option (List Node) :=
  let text := match source.toList with
    | '\ufeff' :: rest => rest
    | text => text
  match nodes? (4 * text.length + 4) text with
  | some (nodes, []) => some nodes
  | _ => none

end ChannelGuard.Kdl
