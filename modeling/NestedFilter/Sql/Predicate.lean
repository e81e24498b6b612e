import NestedFilter.Decimal.Shortest
import NestedFilter.Decimal.Reading

set_option autoImplicit false

namespace NestedFilter.Sql

inductive Literal where
  | bool (value : Bool)
  | integer (value : Int)
  | double (value : Decimal.Double)
  | text (value : String)
deriving DecidableEq, Repr

inductive SqlType where
  | boolean
  | bigInt
  | bigUnsigned
  | double
  | text
deriving DecidableEq, Repr

/-- An integer is unsigned only where the signed type has no room for it. -/
def Literal.sqlType : Literal → SqlType
  | .bool _ => .boolean
  | .integer n => if n < Decimal.signedLimit then .bigInt else .bigUnsigned
  | .double _ => .double
  | .text _ => .text

structure ColumnRef where
  table : Option String
  name : String
deriving DecidableEq, Repr

def qualified (table name : String) : ColumnRef := ⟨some table, name⟩

inductive Comparison where
  | equal
  | unequal
  | greater
  | greaterEqual
  | less
  | lessEqual
deriving DecidableEq, Repr

inductive Predicate where
  | compare (column : ColumnRef) (comparison : Comparison) (value : Literal)
  | like (column : ColumnRef) (pattern : String)
  | isNull (column : ColumnRef)
  | isIn (column : ColumnRef) (items : List Literal)
  | inQuery (column projected : ColumnRef) (table : String) (filter : List Predicate)
deriving Repr

end NestedFilter.Sql
