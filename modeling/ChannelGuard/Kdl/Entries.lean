import ChannelGuard.Kdl.Node
import ChannelGuard.Kdl.Values

/-!
The entries of a node, each after a blank. A slash with a dash hides the entry after it; hidden
entries in front of an entry are read together with it, so that hiding it hides none of its own.
-/
namespace ChannelGuard.Kdl

/-- A property where a string and an equals sign come first, an argument otherwise. -/
def plainEntry? (text : List Char) : Option (Entry × List Char) :=
  match string? text with
  | some (name, rest) => do
    match ← skipWithin? rest with
    | '=' :: after =>
      let (value, rest) ← value? (← skipWithin? after)
      some (.property name value, rest)
    | _ => some (.argument (.string name), rest)
  | none => (value? text).map fun (value, rest) => (.argument value, rest)

mutual

/-- An entry, perhaps after hidden entries and a blank. -/
def entry? : (steps : Nat) → List Char → Option (Entry × List Char)
  | 0, _ => none
  | steps + 1, text =>
    plainEntry? (((hiddenEntries? steps text).bind skipGap?).getD text)

/-- What follows a row of hidden entries with blanks between them. Every step reads a mark. -/
def hiddenEntries? : (steps : Nat) → List Char → Option (List Char)
  | 0, _ => none
  | steps + 1, text => do
    match text with
    | '/' :: '-' :: rest =>
      let (_, rest) ← entry? steps (← skipBetween? rest)
      some (((skipGap? rest).bind (hiddenEntries? steps)).getD rest)
    | _ => none

end

/-- The entries at the front of a text, and what follows the last. Every step reads an entry. -/
def entries : (steps : Nat) → List Char → List Entry × List Char
  | 0, text => ([], text)
  | steps + 1, text =>
    match (skipGap? text).bind fun rest => entry? steps rest with
    | some (entry, rest) =>
      let (more, rest) := entries steps rest
      (entry :: more, rest)
    | none => ([], text)

/-- What follows the hidden entries that stand after a blank and before no entry. -/
def skipHiddenEntries (steps : Nat) (text : List Char) : List Char :=
  ((skipGap? text).bind (hiddenEntries? steps)).getD text

end ChannelGuard.Kdl
