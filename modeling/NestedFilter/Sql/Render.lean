import NestedFilter.Sql.Select
import NestedFilter.Sql.Dialect

/-!
SQL text. A condition is first read as a formula, whose parentheses follow from the operators
around each operand.
-/

set_option autoImplicit false

namespace NestedFilter.Sql

inductive Formula where
  | constant (value : Bool)
  | atom (predicate : Predicate)
  | and (left right : Formula)
  | or (left right : Formula)
  | not (operand : Formula)

namespace Formula

def join : Connective → Formula → Formula → Formula
  | .all => .and
  | .any => .or

def joinAll (connective : Connective) : List Formula → Formula
  | [] => .constant (connective == .all)
  | first :: rest => rest.foldl (join connective) first

def negatedIf (negated : Bool) (formula : Formula) : Formula :=
  if negated then .not formula else formula

end Formula

mutual

def Member.formula : Member → Formula
  | .predicate p => .atom p
  | .group negated connective members =>
      .negatedIf negated (.joinAll connective (Member.formulas members))

def Member.formulas : List Member → List Formula
  | [] => []
  | member :: rest => member.formula :: Member.formulas rest

end

def Condition.formula (condition : Condition) : Formula :=
  .negatedIf condition.negated (.joinAll condition.connective (Member.formulas condition.members))

def keyword (value : Bool) : String := if value then "TRUE" else "FALSE"

def Literal.render (dialect : Dialect) : Literal → String
  | .bool value => keyword value
  | .integer value => toString value
  | .double value => value.text
  | .text value => dialect.stringLiteral value

def ColumnRef.render (column : ColumnRef) : String :=
  match column.table with
  | some table => identifier table ++ "." ++ identifier column.name
  | none => identifier column.name

def Comparison.sign : Comparison → String
  | .equal => "="
  | .unequal => "<>"
  | .greater => ">"
  | .greaterEqual => ">="
  | .less => "<"
  | .lessEqual => "<="

def whereClause (texts : List String) : String :=
  if texts.isEmpty then "" else " WHERE " ++ String.intercalate " AND " texts

mutual

/-- A membership list without items is a comparison that never holds. -/
def Predicate.render (dialect : Dialect) : Predicate → String
  | .compare column comparison value =>
      column.render ++ " " ++ comparison.sign ++ " " ++ value.render dialect
  | .like column pattern => column.render ++ " LIKE " ++ dialect.stringLiteral pattern
  | .isNull column => column.render ++ " IS NULL"
  | .isIn column items =>
      if items.isEmpty then "1 = 2"
      else
        let texts := items.map (·.render dialect)
        column.render ++ " IN (" ++ String.intercalate ", " texts ++ ")"
  | .inQuery column projected table filter =>
      column.render ++ " IN (SELECT " ++ projected.render ++ " FROM " ++ identifier table ++
        whereClause (Predicate.renderAll dialect filter) ++ ")"

def Predicate.renderAll (dialect : Dialect) : List Predicate → List String
  | [] => []
  | p :: rest => p.render dialect :: Predicate.renderAll dialect rest

end

namespace Formula

inductive Place where
  | leftOfAnd
  | leftOfOr
  | elsewhere
deriving DecidableEq

/-- AND needs no parentheses on the left of AND, nor OR on the left of OR; atoms need none. -/
def needsParens : Place → Formula → Bool
  | _, .constant _ => false
  | _, .atom _ => false
  | place, .and _ _ => place != .leftOfAnd
  | place, .or _ _ => place != .leftOfOr
  | _, .not _ => true

def enclosed (place : Place) (formula : Formula) (text : String) : String :=
  if formula.needsParens place then "(" ++ text ++ ")" else text

def render (dialect : Dialect) : Formula → String
  | .constant value => keyword value
  | .atom p => p.render dialect
  | .and left right =>
      enclosed .leftOfAnd left (left.render dialect) ++ " AND " ++
        enclosed .elsewhere right (right.render dialect)
  | .or left right =>
      enclosed .leftOfOr left (left.render dialect) ++ " OR " ++
        enclosed .elsewhere right (right.render dialect)
  | .not operand => "NOT " ++ enclosed .elsewhere operand (operand.render dialect)

end Formula

def Condition.render (dialect : Dialect) (condition : Condition) : String :=
  condition.formula.render dialect

def Direction.keyword : Direction → String
  | .ascending => "ASC"
  | .descending => "DESC"

namespace Select

def orderText (order : ColumnRef × Direction) : String :=
  order.1.render ++ " " ++ order.2.keyword

def clause (lead : String) (text : Option String) : String :=
  match text with
  | some text => lead ++ text
  | none => ""

def render (dialect : Dialect) (statement : Select) : String :=
  let projection :=
    match statement.projection with
    | .everything => "*"
    | .column column => column.render
  let orders :=
    if statement.orders.isEmpty then none
    else some (String.intercalate ", " (statement.orders.map orderText))
  "SELECT " ++ projection ++ " FROM " ++ identifier statement.table ++
    clause " WHERE " (statement.filter.map (·.render dialect)) ++
    clause " ORDER BY " orders ++
    clause " LIMIT " (statement.limit.map toString) ++
    clause " OFFSET " (statement.offset.map toString)

end Select

end NestedFilter.Sql
