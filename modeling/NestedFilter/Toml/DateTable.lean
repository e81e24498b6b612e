import NestedFilter.Toml.Value
import NestedFilter.Toml.Datetime

/-!
Tables that stand for a date or time. The key that comes first tells them, its text holds the
moment, and what else is in such a table does not count.
-/

set_option autoImplicit false

namespace NestedFilter.Toml

def momentKey : String := "$__toml_private_datetime"

def momentOf? : List (String × Value) → Option Value
  | (key, value) :: _ => if key = momentKey then some value else none
  | [] => none

def Value.moment? : Value → Option Value
  | .string text => (momentText? text.toList).map .datetime
  | _ => none

mutual

/-- The value with moments in the place of the tables that stand for them; none if one of these
has no moment in it. -/
def Value.settle? : Value → Option Value
  | .array items => (Value.settleItems? items).map .array
  | .table entries =>
      match momentOf? entries with
      | some value => value.moment?
      | none => (Value.settleEntries? entries).map .table
  | plain => some plain
termination_by structural value => value

def Value.settleItems? : List Value → Option (List Value)
  | [] => some []
  | item :: rest => do
      let first ← item.settle?
      let others ← Value.settleItems? rest
      pure (first :: others)
termination_by structural items => items

def Value.settleEntries? : List (String × Value) → Option (List (String × Value))
  | [] => some []
  | (key, value) :: rest => do
      let first ← value.settle?
      let others ← Value.settleEntries? rest
      pure ((key, first) :: others)
termination_by structural entries => entries

end

end NestedFilter.Toml
