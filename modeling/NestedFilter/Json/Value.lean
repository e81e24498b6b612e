import NestedFilter.Decimal.Double

/-!
JSON values. A number without fraction and exponent that fits a 64-bit word stays an integer;
every other number is a double. The entries of an object are sorted by key, each key once.
-/

set_option autoImplicit false

namespace NestedFilter.Json

inductive Number where
  | integer (value : Int)
  | double (value : Decimal.Double)
deriving DecidableEq, Repr

inductive Value where
  | null
  | bool (value : Bool)
  | number (value : Number)
  | string (value : String)
  | array (items : List Value)
  | object (entries : List (String × Value))
deriving Repr, Inhabited

abbrev Entries := List (String × Value)

def Entries.insert (key : String) (value : Value) : Entries → Entries
  | [] => [(key, value)]
  | (k, v) :: rest =>
      if key = k then (key, value) :: rest
      else if key < k then (key, value) :: (k, v) :: rest
      else (k, v) :: Entries.insert key value rest

/-- Object of some members, of which the last under a key counts. -/
def Entries.ofMembers (members : List (String × Value)) : Entries :=
  members.foldl (fun entries member => entries.insert member.1 member.2) []

def Value.member? (value : Value) (key : String) : Option Value :=
  match value with
  | .object entries => (entries.find? (fun entry => entry.1 == key)).map (·.2)
  | _ => none

inductive Kind where
  | null
  | bool
  | number
  | string
  | array
  | object
deriving DecidableEq, Repr

def Value.kind : Value → Kind
  | .null => .null
  | .bool _ => .bool
  | .number _ => .number
  | .string _ => .string
  | .array _ => .array
  | .object _ => .object

def Kind.phrase : Kind → String
  | .null => "null"
  | .bool => "a boolean"
  | .number => "a number"
  | .string => "a string"
  | .array => "an array"
  | .object => "an object"

end NestedFilter.Json
