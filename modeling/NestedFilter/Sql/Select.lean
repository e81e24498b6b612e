import NestedFilter.Sql.Condition

set_option autoImplicit false

namespace NestedFilter.Sql

inductive Projection where
  | everything
  | column (column : ColumnRef)
deriving DecidableEq, Repr

inductive Direction where
  | ascending
  | descending
deriving DecidableEq, Repr

structure Select where
  projection : Projection
  table : String
  filter : Option Condition := none
  orders : List (ColumnRef × Direction) := []
  limit : Option Nat := none
  offset : Option Nat := none
deriving Repr

namespace Select

def everythingFrom (table : String) : Select := { projection := .everything, table := table }

def columnOf (table column : String) : Select :=
  { projection := .column (qualified table column), table := table }

def restrict (statement : Select) (condition : Condition) : Select :=
  { statement with
    filter := some
      (match statement.filter with
      | none => condition
      | some current => current.conjoin condition) }

def restrictBy (statement : Select) (predicate : Predicate) : Select :=
  statement.restrict (.ofPredicates [predicate])

end Select

end NestedFilter.Sql
