import ChannelGuard.Keyed
import ChannelGuard.Number.Decimal

/-!
JSON values. Numbers keep apart what the text keeps apart: an integer of 64 bits and a binary64
number. The members of an object stand in ascending order of key, each key once.
-/
namespace ChannelGuard

open Number (Binary64)

/-- An integer that fits 64 bits, with or without a sign. -/
structure WideInt where
  value : Int
  fits : -0x8000000000000000 ≤ value ∧ value < 0x10000000000000000
  deriving DecidableEq

def WideInt.ofInt? (i : Int) : Option WideInt :=
  if fits : -0x8000000000000000 ≤ i ∧ i < 0x10000000000000000 then some ⟨i, fits⟩ else none

inductive JsonNumber where
  | integer (i : WideInt)
  | float (x : Binary64)
  deriving DecidableEq

namespace JsonNumber

/-- The nearest binary64 number, through which all comparisons of numbers go. -/
def toBinary64 : JsonNumber → Binary64
  | integer i => .ofInt i.value
  | float x => x

/-- Equality within one kind of number; an integer and a float always differ. -/
def same : JsonNumber → JsonNumber → Bool
  | integer i, integer j => i.value == j.value
  | float x, float y => x.sameValue y
  | _, _ => false

end JsonNumber

inductive Json where
  | null
  | bool (b : Bool)
  | number (n : JsonNumber)
  | string (s : String)
  | array (items : List Json)
  | object (members : List (String × Json))

namespace Json

instance : Inhabited Json := ⟨.null⟩

/-- The object with the given members; of members under one key the last one stays. -/
def ofMembers (members : List (String × Json)) : Json := .object (Keyed.ofList members)

/-- A whole number of 64 bits; one that is too wide becomes a float. -/
def ofInt (i : Int) : Json :=
  match WideInt.ofInt? i with
  | some i => .number (.integer i)
  | none => .number (.float (.ofInt i))

/-- The member of an object under a key; nothing else has members. -/
def member? (key : String) : Json → Option Json
  | object members => Keyed.find? key members
  | _ => none

@[simp] theorem member?_ofMembers (key : String) (members : List (String × Json)) :
    (ofMembers members).member? key =
      members.reverse.findSome? fun (k, value) => if key = k then some value else none :=
  Keyed.find?_ofList key members

def string? : Json → Option String
  | string s => some s
  | _ => none

def isObject : Json → Bool
  | object _ => true
  | _ => false

mutual

/-- Structural equality, in which numbers of different kinds differ. -/
def same : Json → Json → Bool
  | null, null => true
  | bool a, bool b => a == b
  | number a, number b => a.same b
  | string a, string b => a == b
  | array a, array b => sameItems a b
  | object a, object b => sameMembers a b
  | _, _ => false

def sameItems : List Json → List Json → Bool
  | [], [] => true
  | a :: as, b :: bs => same a b && sameItems as bs
  | _, _ => false

def sameMembers : List (String × Json) → List (String × Json) → Bool
  | [], [] => true
  | (k, a) :: as, (l, b) :: bs => k == l && same a b && sameMembers as bs
  | _, _ => false

end

end Json

end ChannelGuard
