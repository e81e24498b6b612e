import NestedFilter.Query.Clause
import NestedFilter.Filter.Compile

/-!
Plugins, which may change the clauses of a query before its statement is built, and the one that
compiles nested filters. A plugin can add errors but takes none back.
-/

set_option autoImplicit false

namespace NestedFilter

open Json (Value)

structure QueryContext where
  registry : Registry
  schema : EntitySchema
  naming : NamingStrategy
  clauses : List Clause
  errors : List FilterError := []

structure PluginOutcome where
  clauses : List Clause
  errors : List FilterError := []

structure Plugin where
  name : String
  beforeQuery : QueryContext → SessionM PluginOutcome

namespace QueryContext

def hasErrors (context : QueryContext) : Bool := !context.errors.isEmpty

def run (context : QueryContext) (plugin : Plugin) : SessionM QueryContext := do
  let outcome ← plugin.beforeQuery context
  pure { context with clauses := outcome.clauses, errors := context.errors ++ outcome.errors }

def runAll (context : QueryContext) : List Plugin → SessionM QueryContext
  | [] => pure context
  | plugin :: rest => do (← context.run plugin).runAll rest

end QueryContext

namespace DeepFilter

def name : String := "deepfilter"

def wants (options : FilterOptions) : Value → Bool
  | .object _ => true
  | .string s => options.wildcards && (wildcardPattern? s).isSome
  | _ => false

def compileLeaf (options : FilterOptions) (context : QueryContext) (column : String)
    (value : Value) : Plan Clause := do
  Plan.record .trace s!"{name}: rewriting {context.schema.name}.{column}"
  let compiler : Compiler := ⟨context.registry, context.naming, options⟩
  let compiled ← compiler.plan context.schema [[(column, value)]]
  pure (.condition compiled.condition)

mutual

def compileClause (options : FilterOptions) (context : QueryContext) : Clause → Plan Clause
  | .all items => do pure (.all (← compileClauses options context items))
  | .equals column value =>
      if wants options value then compileLeaf options context column value
      else pure (.equals column value)
  | .condition condition => pure (.condition condition)
termination_by structural clause => clause

def compileClauses (options : FilterOptions) (context : QueryContext) :
    List Clause → Plan (List Clause)
  | [] => pure []
  | clause :: rest => do
      let first ← compileClause options context clause
      let others ← compileClauses options context rest
      pure (first :: others)
termination_by structural clauses => clauses

end

/-- Compiles what wants it in every clause or, when one fails or an error stands already, in none. -/
def beforeQuery (options : FilterOptions) (context : QueryContext) : SessionM PluginOutcome := do
  if context.hasErrors then pure { clauses := context.clauses }
  else
    match ← ((compileClauses options context context.clauses).run context.registry).run with
    | .ok clauses => pure { clauses := clauses }
    | .error error =>
        Session.log .debug s!"{name} failed on {context.schema.name}: {error.message}"
        pure { clauses := context.clauses, errors := [error] }

def plugin (options : FilterOptions) : Plugin := ⟨name, beforeQuery options⟩

end DeepFilter

end NestedFilter
