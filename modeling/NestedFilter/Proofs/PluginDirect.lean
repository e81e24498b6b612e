import NestedFilter.Proofs.Direct
import NestedFilter.Query.SelectQuery

/-!
Queries without a cache: what the plugin makes of clauses, and the statement of a query that leaves
its clauses to this plugin. Under any cache that holds nothing but reflections both stay the same.
-/

set_option autoImplicit false

namespace NestedFilter

open Json (Value)
open Sql (Select qualified)

namespace DeepFilter

def directClause (options : FilterOptions) (context : QueryContext) (clause : Clause) :
    Except Refusal Clause := (compileClause options context clause).direct context.registry

def directClauses (options : FilterOptions) (context : QueryContext) (clauses : List Clause) :
    Except Refusal (List Clause) :=
  (compileClauses options context clauses).direct context.registry

section

variable (options : FilterOptions) (context : QueryContext) (column : String) (value : Value)

theorem direct_wanted (wanted : wants options value = true) :
    directClause options context (.equals column value) = (do
      let compiler : Compiler := ⟨context.registry, context.naming, options⟩
      let compiled ← compiler.direct context.schema [[(column, value)]]
      pure (.condition compiled.condition)) := by
  simp only [directClause, compileClause, wanted, if_true, compileLeaf, direct_bind, direct_record,
    direct_pure]
  rfl

theorem direct_unwanted (unwanted : wants options value = false) :
    directClause options context (.equals column value) = .ok (.equals column value) := by
  simp only [directClause, compileClause, unwanted, Bool.false_eq_true, if_false, direct_pure]

theorem direct_all (items : List Clause) :
    directClause options context (.all items) = (do
      pure (.all (← directClauses options context items))) := by
  rw [directClause, compileClause, direct_bind]
  rfl

theorem direct_clauses_cons (clause : Clause) (rest : List Clause) :
    directClauses options context (clause :: rest) = (do
      let first ← directClause options context clause
      let others ← directClauses options context rest
      pure (first :: others)) := by
  simp only [directClauses, compileClauses, direct_bind, direct_pure]
  rfl

end

section

variable (options : FilterOptions) (context : QueryContext) (lookups : Lookups context.registry)

theorem leaf_asks (column : String) (value : Value)
    (included : lookups.includes context.naming context.schema) :
    (compileLeaf options context column value).Asks context.registry lookups.includes := by
  let compiler : Compiler := ⟨context.registry, context.naming, options⟩
  apply asks_bind
  · trivial
  · intro _ _
    apply asks_bind _ _ _ _ (lookups_asked compiler lookups context.schema _ included)
    intro compiled _
    trivial

mutual

theorem clause_asks (clause : Clause)
    (included : lookups.includes context.naming context.schema) :
    (compileClause options context clause).Asks context.registry lookups.includes := by
  match clause with
  | .condition condition => trivial
  | .equals column value =>
      rw [compileClause]
      split
      · exact leaf_asks options context lookups column value included
      · trivial
  | .all items =>
      apply asks_bind _ _ _ _ (clauses_ask items included)
      intro rewritten _
      trivial
termination_by structural clause

theorem clauses_ask (clauses : List Clause)
    (included : lookups.includes context.naming context.schema) :
    (compileClauses options context clauses).Asks context.registry lookups.includes := by
  match clauses with
  | [] => trivial
  | clause :: rest =>
      apply asks_bind _ _ _ _ (clause_asks clause included)
      intro first _
      apply asks_bind _ _ _ _ (clauses_ask rest included)
      intro others _
      trivial
termination_by structural clauses

end

end

def leave (context : QueryContext) : Except FilterError (List Clause) → PluginOutcome
  | .ok clauses => { clauses := clauses }
  | .error error => { clauses := context.clauses, errors := [error] }

theorem has_no_errors (context : QueryContext) (clean : context.errors = []) :
    context.hasErrors = false := by
  rw [QueryContext.hasErrors, clean]
  rfl

theorem before_query_outcome (options : FilterOptions) (context : QueryContext)
    (session : Session) (clean : context.errors = []) :
    (beforeQuery options context session).1 =
      leave context (((compileClauses options context context.clauses).run
        context.registry).outcome session) := by
  unfold beforeQuery
  rw [has_no_errors context clean]
  simp only [FilterM.outcome, Bool.false_eq_true, if_false, FilterM.session_bind]
  cases (((compileClauses options context context.clauses).run context.registry).run session).1 <;>
    rfl

end DeepFilter

namespace SelectQuery

def context (query : SelectQuery) (registry : Registry) (schema : EntitySchema) : QueryContext :=
  ⟨registry, schema, query.naming, query.clauses, []⟩

def finish (query : SelectQuery) (table : String) (clauses : List Clause) :
    Except FilterError Select := do
  let restricted ← restrictByClauses (.everythingFrom table) table clauses
  pure { restricted with
    orders := query.orders.map fun order => (qualified table order.1, order.2)
    limit := query.limit
    offset := query.offset }

theorem statement_after_plugins (query : SelectQuery) (registry : Registry)
    (schema : EntitySchema) (session : Session) :
    (query.statement registry schema).outcome session =
      match ((query.context registry schema).runAll query.plugins session).1.errors with
      | error :: _ => .error error
      | [] => query.finish (query.naming.table schema)
          ((query.context registry schema).runAll query.plugins session).1.clauses := by
  have ran : (liftM ((query.context registry schema).runAll query.plugins) :
      FilterM QueryContext).outcome session =
        .ok ((query.context registry schema).runAll query.plugins session).1 := rfl
  refine (FilterM.outcome_bind_ok _ _ _ _ ran).trans ?_
  cases ((query.context registry schema).runAll query.plugins session).1.errors with
  | cons error others => rfl
  | nil => exact FilterM.outcome_lift_pure _ _ _

theorem run_one_plugin (context : QueryContext) (plugin : Plugin) (session : Session) :
    (context.runAll [plugin] session).1 =
      { context with
        clauses := (plugin.beforeQuery context session).1.clauses
        errors := context.errors ++ (plugin.beforeQuery context session).1.errors } := rfl

theorem statement_ok_iff (query : SelectQuery) (options : FilterOptions) (registry : Registry)
    (schema : EntitySchema) (lookups : Lookups registry) (session : Session) (statement : Select)
    (only : query.plugins = [DeepFilter.plugin options])
    (included : lookups.includes query.naming schema)
    (faithful : Faithful registry lookups.includes session.cache) :
    (query.statement registry schema).outcome session = .ok statement ↔
      ∃ clauses,
        DeepFilter.directClauses options (query.context registry schema) query.clauses =
          .ok clauses ∧
        query.finish (query.naming.table schema) clauses = .ok statement := by
  let context := query.context registry schema
  let rewrite := (DeepFilter.compileClauses options context query.clauses).run registry
  have left : ((DeepFilter.plugin options).beforeQuery context session).1 =
      DeepFilter.leave context (rewrite.outcome session) :=
    DeepFilter.before_query_outcome options context session rfl
  have rewritten : rewrite.outcome session =
      (DeepFilter.directClauses options context query.clauses).mapError _ :=
    (run_faithful registry lookups.includes lookups.unambiguous _ session
      (DeepFilter.clauses_ask options context lookups query.clauses included) faithful).1
  rw [statement_after_plugins, only, run_one_plugin, left, rewritten]
  cases DeepFilter.directClauses options context query.clauses with
  | error refusal => simp [DeepFilter.leave, SelectQuery.context]
  | ok clauses => simp [DeepFilter.leave, SelectQuery.context]

end SelectQuery

end NestedFilter
