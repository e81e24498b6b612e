import NestedFilter.Decimal.Shortest

/-!
TOML values. Dates and times are kept by their normal text.
-/

set_option autoImplicit false

namespace NestedFilter

def putEntry {α : Type} (name : String) (item : α) : List (String × α) → List (String × α)
  | [] => [(name, item)]
  | (n, present) :: rest =>
      if n = name then (name, item) :: rest else (n, present) :: putEntry name item rest

namespace Toml

inductive FloatValue where
  | finite (value : Decimal.Double)
  | infinite (negative : Bool)
  | nan
deriving DecidableEq, Repr

namespace FloatValue

def isZero : FloatValue → Bool
  | finite value => value.isZero
  | _ => false

def text : FloatValue → String
  | finite value => value.text
  | infinite negative => if negative then "-inf" else "inf"
  | nan => "NaN"

end FloatValue

inductive Value where
  | boolean (value : Bool)
  | integer (value : Int)
  | float (value : FloatValue)
  | string (value : String)
  | datetime (text : String)
  | array (items : List Value)
  | table (entries : List (String × Value))
deriving Repr

end Toml

end NestedFilter
