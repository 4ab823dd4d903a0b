import ChannelGuard.Text.Blank

/-! Names of resource types, which have to fit into channel names. -/
namespace ChannelGuard

/-- The characters that separate the parts of a channel name. -/
def isSeparator (c : Char) : Bool :=
  c == '/' || c == ':' || c == '>' || c == '(' || c == ')'

/-- Names of resource types are not empty and hold neither white space nor separators. -/
def isTypeName (name : String) : Bool :=
  !name.toList.isEmpty && name.toList.all fun c => !Text.isBlank c && !isSeparator c

structure TypeName where
  name : String
  valid : isTypeName name = true
  deriving DecidableEq

instance : LT TypeName := ⟨fun s t => s.name < t.name⟩

instance : DecidableLT TypeName := fun s t => inferInstanceAs (Decidable (s.name < t.name))

theorem TypeName.eq_of_name_eq {s t : TypeName} (h : s.name = t.name) : s = t := by
  cases s
  cases t
  cases h
  rfl

instance : Trans (fun s t : TypeName => s < t) (fun s t => s < t) (fun s t => s < t) where
  trans := String.lt_trans

instance : Std.Trichotomous fun s t : TypeName => s < t where
  trichotomous _ _ below above :=
    TypeName.eq_of_name_eq (String.le_antisymm (String.not_lt.mp above) (String.not_lt.mp below))

/-- A text that was given as the name of a resource type and is none. -/
structure InvalidTypeName where
  given : String
  deriving DecidableEq

def TypeName.ofString (name : String) : Except InvalidTypeName TypeName :=
  if valid : isTypeName name = true then .ok ⟨name, valid⟩ else .error ⟨name⟩

@[simp] theorem TypeName.ofString_name (t : TypeName) : ofString t.name = .ok t := by
  simp [ofString, t.valid]

end ChannelGuard
