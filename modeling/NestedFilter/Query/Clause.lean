import NestedFilter.Filter.Scalar
import NestedFilter.Sql.Condition

/-!
Clauses of a query under construction: trees of equalities, whose values may still be nested
filters, and of conditions that are ready.
-/

set_option autoImplicit false

namespace NestedFilter

open Json (Value)
open Sql (Condition qualified)

inductive Clause where
  | all (items : List Clause)
  | equals (column : String) (value : Value)
  | condition (condition : Condition)

namespace Clause

def ofFilter (filter : Filter) : Clause := .all (filter.map fun entry => .equals entry.1 entry.2)

mutual

/-- Condition on the rows of a table. A value that is still a nested filter is an error. -/
def lower (table : String) : Clause → Except FilterError Condition
  | .all items => do
      let conditions ← lowerAll table items
      pure (.allOf (conditions.map (·.toMember)))
  | .equals column value => do
      let predicate ← scalarPredicate (qualified table column) column value false
      pure (.ofPredicates [predicate])
  | .condition ready => .ok ready
termination_by structural clause => clause

def lowerAll (table : String) : List Clause → Except FilterError (List Condition)
  | [] => .ok []
  | clause :: rest => do
      let first ← lower table clause
      let others ← lowerAll table rest
      pure (first :: others)
termination_by structural clauses => clauses

end

end Clause

end NestedFilter
