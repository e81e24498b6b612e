import NestedFilter.Decimal.Reading

/-!
Paths to settings. The name of a setting spells one: points stand between the entries of tables,
and brackets hold the positions of items in sequences.
-/

set_option autoImplicit false

namespace NestedFilter.Settings

/-- One step of a path. Positions below zero count from the end of a sequence. -/
inductive Step where
  | entry (name : String)
  | item (position : Int)
deriving DecidableEq, Repr

namespace Step

def isNameChar (c : Char) : Bool := c.isAlphanum || c == '_' || c == '-' || c == ' '

def isGap (c : Char) : Bool := c == ' ' || c == '\t'

def wholeNumber? (negative : Bool) (digits : List Char) : Option Int :=
  let size : Int := Decimal.digitsFrom 0 digits
  let value := if negative then -size else size
  if !digits.isEmpty && digits.all Char.isDigit && Decimal.fitsSigned value then some value
  else none

def position? (cs : List Char) : Option Int :=
  match cs.reverse with
  | ']' :: inner =>
      match (inner.dropWhile isGap).reverse.dropWhile isGap with
      | '-' :: digits => wholeNumber? true digits
      | digits => wholeNumber? false digits
  | _ => none

def ofPart? (part : List Char) : Option (List Step) :=
  match part.splitOn '[' with
  | name :: positions =>
      if name.isEmpty || !name.all isNameChar then none
      else (positions.mapM position?).map fun items => .entry (String.ofList name) :: items.map .item
  | [] => none

end Step

/-- The path that a name spells. A name with an odd part is one entry as it stands. -/
def pathOf (name : String) : List Step :=
  match (name.toList.splitOn '.').mapM Step.ofPart? with
  | some steps => steps.flatten
  | none => [.entry name]

end NestedFilter.Settings
