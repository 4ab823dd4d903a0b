import ChannelGuard.Number.Float64

/-! The values of TOML documents. -/
namespace ChannelGuard.Toml

open Number (Float64)

inductive Value where
  | string (s : String)
  | integer (i : Int)
  | float (x : Float64)
  | bool (b : Bool)
  /-- A date, a time or both, in its normal form. -/
  | datetime (written : String)
  | array (items : List Value)
  | table (members : List (String × Value))

instance : Inhabited Value := ⟨.table []⟩

end ChannelGuard.Toml
