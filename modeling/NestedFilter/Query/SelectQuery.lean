import NestedFilter.Query.Plugin

/-!
The query builder: a query gathers plugins, clauses, orders and limits, and becomes a statement
once its plugins have run.
-/

set_option autoImplicit false

namespace NestedFilter

open Sql (Condition Direction Select qualified)

structure SelectQuery where
  naming : NamingStrategy := ({} : SnakeCaseNaming).strategy
  plugins : List Plugin := []
  clauses : List Clause := []
  orders : List (String × Direction) := []
  limit : Option Nat := none
  offset : Option Nat := none

inductive BuilderCall where
  | withNaming (naming : NamingStrategy)
  | usePlugin (plugin : Plugin)
  | filter (condition : Condition)
  | whereMap (filter : Filter)
  | orderBy (column : String) (direction : Direction)
  | limit (count : Nat)
  | offset (count : Nat)

namespace SelectQuery

def hasPlugin (query : SelectQuery) (name : String) : Bool :=
  query.plugins.any (fun plugin => plugin.name == name)

/-- A second plugin of one name is left out. -/
def call (query : SelectQuery) : BuilderCall → SelectQuery
  | .withNaming naming => { query with naming := naming }
  | .usePlugin plugin =>
      if query.hasPlugin plugin.name then query
      else { query with plugins := query.plugins ++ [plugin] }
  | .filter condition => { query with clauses := query.clauses ++ [.condition condition] }
  | .whereMap filter => { query with clauses := query.clauses ++ [.ofFilter filter] }
  | .orderBy column direction => { query with orders := query.orders ++ [(column, direction)] }
  | .limit count => { query with limit := some count }
  | .offset count => { query with offset := some count }

def ofCalls (calls : List BuilderCall) : SelectQuery := calls.foldl call {}

def callRecords (query : SelectQuery) : BuilderCall → Journal
  | .usePlugin plugin =>
      if query.hasPlugin plugin.name then
        [⟨.warn, s!"plugin '{plugin.name}' is already registered"⟩]
      else []
  | _ => []

def records (query : SelectQuery) : List BuilderCall → Journal
  | [] => []
  | next :: rest => query.callRecords next ++ (query.call next).records rest

def build (calls : List BuilderCall) : SessionM SelectQuery := do
  modify fun session => { session with journal := session.journal ++ records {} calls }
  pure (ofCalls calls)

def restrictByClauses (statement : Select) (table : String) (clauses : List Clause) :
    Except FilterError Select :=
  if clauses.isEmpty then .ok statement
  else do pure (statement.restrict (← Clause.lower table (.all clauses)))

/-- Runs the plugins and builds the statement. The first error of a plugin refuses it, then the
first clause that cannot be lowered. -/
def statement (query : SelectQuery) (registry : Registry) (schema : EntitySchema) :
    FilterM Select := do
  let table := query.naming.table schema
  let context : QueryContext := ⟨registry, schema, query.naming, query.clauses, []⟩
  let context ← context.runAll query.plugins
  match context.errors with
  | error :: _ => throw error
  | [] =>
      let restricted ← restrictByClauses (.everythingFrom table) table context.clauses
      pure { restricted with
        orders := query.orders.map fun order => (qualified table order.1, order.2)
        limit := query.limit
        offset := query.offset }

end SelectQuery

end NestedFilter
