import NestedFilter.Sql.Predicate
import NestedFilter.Error

/-!
Filter values and the predicate that a value which is no nested filter makes of its column:
equality, IS NULL for null, membership for an array, and LIKE for a text with a wildcard.
-/

set_option autoImplicit false

namespace NestedFilter

open Json (Value)
open Sql (ColumnRef Literal Predicate)

abbrev Filter := Json.Entries

def toFilter : Value → Except FilterError Filter
  | .object entries => .ok entries
  | other => .error (.invalidValue "" (.notAFilter other.kind))

def isNested : Value → Bool
  | .object _ => true
  | _ => false

def wildcard : Char := '*'

def wildcardPattern? (s : String) : Option String :=
  if s.toList.contains wildcard then
    some (String.ofList (s.toList.map fun c => if c = wildcard then '%' else c))
  else none

def scalarValue (field : String) : Value → Except FilterError Literal
  | .bool value => .ok (.bool value)
  | .number (.integer value) => .ok (.integer value)
  | .number (.double value) => .ok (.double value)
  | .string value => .ok (.text value)
  | other => .error (.invalidValue field (.notAScalar other.kind))

def scalarPredicate (column : ColumnRef) (field : String) (value : Value) (wildcards : Bool) :
    Except FilterError Predicate :=
  match value with
  | .null => .ok (.isNull column)
  | .array items => (items.mapM (scalarValue field)).map (.isIn column)
  | .object _ => .error (.invalidValue field .nestedFilter)
  | .string s =>
      match if wildcards then wildcardPattern? s else none with
      | some pattern => .ok (.like column pattern)
      | none => .ok (.compare column .equal (.text s))
  | scalar => (scalarValue field scalar).map (.compare column .equal)

end NestedFilter
