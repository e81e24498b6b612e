import NestedFilter.Sql.Predicate

set_option autoImplicit false

namespace NestedFilter.Sql

inductive Connective where
  | all
  | any
deriving DecidableEq, Repr

inductive Member where
  | predicate (predicate : Predicate)
  | group (negated : Bool) (connective : Connective) (members : List Member)
deriving Repr

structure Condition where
  negated : Bool
  connective : Connective
  members : List Member
deriving Repr

namespace Condition

def allOf (members : List Member) : Condition := ⟨false, .all, members⟩

def anyOf (members : List Member) : Condition := ⟨false, .any, members⟩

def ofPredicates (predicates : List Predicate) : Condition := allOf (predicates.map .predicate)

def negate (condition : Condition) : Condition := { condition with negated := !condition.negated }

def isPlainAll (condition : Condition) : Bool :=
  condition.connective == .all && !condition.negated

/-- A condition as a member of another; around a single member it is left away. -/
def toMember (condition : Condition) : Member :=
  match condition.negated, condition.members with
  | false, [single] => single
  | negated, members => .group negated condition.connective members

def add (condition : Condition) (member : Member) : Condition :=
  { condition with members := condition.members ++ [member] }

/-- Both conditions. The members of one AND continue those of another. -/
def conjoin (current addition : Condition) : Condition :=
  if current.isPlainAll then
    if addition.isPlainAll then
      { current with members := current.members ++ addition.members }
    else current.add addition.toMember
  else allOf [current.toMember, addition.toMember]

end Condition

end NestedFilter.Sql
