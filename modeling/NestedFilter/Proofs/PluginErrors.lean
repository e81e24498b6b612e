import NestedFilter.Proofs.PluginDirect

/-!
Errors of plugins. A plugin reads the context, edits its clauses and reports errors, one operation
after the other, so what is reported stays, and the first report of all refuses the statement.
-/

set_option autoImplicit false

namespace NestedFilter

open Sql (Condition Select qualified)

-- What a plugin can do with its context. What it does besides, such as compiling filters, may
-- depend on the session and change it.
inductive Hook where
  | done
  | read (next : QueryContext → Hook)
  | edit (change : List Clause → List Clause) (next : Hook)
  | report (error : FilterError) (next : Hook)
  | act (effect : Session → Session) (next : Session → Hook)

namespace Hook

def run : Hook → QueryContext → SessionM QueryContext
  | .done, context => pure context
  | .read next, context => (next context).run context
  | .edit change next, context => next.run { context with clauses := change context.clauses }
  | .report error next, context => next.run { context with errors := context.errors ++ [error] }
  | .act effect next, context => fun session => (next session).run context (effect session)

def reports : Hook → QueryContext → Session → List FilterError
  | .done, _, _ => []
  | .read next, context, session => (next context).reports context session
  | .edit change next, context, session =>
      next.reports { context with clauses := change context.clauses } session
  | .report error next, context, session =>
      error :: next.reports { context with errors := context.errors ++ [error] } session
  | .act effect next, context, session => (next session).reports context (effect session)

theorem run_reports (hook : Hook) (context : QueryContext) (session : Session) :
    (hook.run context session).1 =
      { context with
        clauses := (hook.run context session).1.clauses
        errors := context.errors ++ hook.reports context session } := by
  -- By induction on the operations that are left: each one keeps the errors before it.
  induction hook generalizing context session with
  | done => simp only [run, reports, List.append_nil]; rfl
  | read next ih => exact ih context context session
  | edit change next ih => exact ih { context with clauses := change context.clauses } session
  | report error next ih =>
      have later := ih { context with errors := context.errors ++ [error] } session
      simpa only [run, reports, List.append_assoc, List.singleton_append] using later
  | act effect next ih => exact ih session context (effect session)

def plugin (hook : Hook) (name : String) : Plugin where
  name := name
  beforeQuery := fun context session =>
    ({ clauses := (hook.run context session).1.clauses, errors := hook.reports context session },
      (hook.run context session).2)

theorem plugin_runs (hook : Hook) (name : String) (context : QueryContext) :
    context.run (hook.plugin name) = hook.run context := by
  funext session
  exact Prod.ext (hook.run_reports context session).symm rfl

def reportAll (errors : List FilterError) : Hook := errors.foldr report done

theorem report_all_run (errors : List FilterError) (context : QueryContext) :
    (reportAll errors).run context =
      pure { context with errors := context.errors ++ errors } := by
  induction errors generalizing context with
  | nil => simp only [List.append_nil]; rfl
  | cons error rest ih =>
      change (reportAll rest).run { context with errors := context.errors ++ [error] } = _
      rw [ih, List.append_assoc, List.singleton_append]

theorem report_all_reports (errors : List FilterError) (context : QueryContext)
    (session : Session) : (reportAll errors).reports context session = errors := by
  induction errors generalizing context with
  | nil => rfl
  | cons error rest ih =>
      exact congrArg (error :: ·) (ih { context with errors := context.errors ++ [error] })

end Hook

namespace Plugin

def hook (plugin : Plugin) : Hook :=
  .read fun context =>
    .act (fun session => (plugin.beforeQuery context session).2) fun session =>
      let outcome := (plugin.beforeQuery context session).1
      .edit (fun _ => outcome.clauses) (.reportAll outcome.errors)

theorem hook_plugin (plugin : Plugin) : plugin.hook.plugin plugin.name = plugin := by
  obtain ⟨name, beforeQuery⟩ := plugin
  simp only [hook, Hook.plugin, Hook.run, Hook.reports, Hook.report_all_run,
    Hook.report_all_reports]
  rfl

end Plugin

namespace QueryContext

def reported (context : QueryContext) : List Plugin → Session → List (List FilterError)
  | [], _ => []
  | plugin :: rest, session =>
      let ran := context.run plugin session
      (plugin.beforeQuery context session).1.errors :: ran.1.reported rest ran.2

theorem run_all_errors (context : QueryContext) (plugins : List Plugin) (session : Session) :
    (context.runAll plugins session).1.errors =
      context.errors ++ (context.reported plugins session).flatten := by
  induction plugins generalizing context session with
  | nil => exact (List.append_nil _).symm
  | cons plugin rest ih =>
      have later := ih (context.run plugin session).1 (context.run plugin session).2
      rw [reported, List.flatten_cons, ← List.append_assoc]
      exact later

theorem reported_append (context : QueryContext) (before after : List Plugin)
    (session : Session) :
    context.reported (before ++ after) session =
      context.reported before session ++
        (context.runAll before session).1.reported after (context.runAll before session).2 := by
  induction before generalizing context session with
  | nil => rfl
  | cons plugin rest ih =>
      have later := ih (context.run plugin session).1 (context.run plugin session).2
      exact congrArg ((plugin.beforeQuery context session).1.errors :: ·) later

end QueryContext

theorem DeepFilter.run_after_error (options : FilterOptions) (context : QueryContext)
    (session : Session) (failed : context.errors ≠ []) :
    context.run (DeepFilter.plugin options) session = (context, session) := by
  have errors : context.hasErrors = true := by simp [QueryContext.hasErrors, failed]
  simp only [QueryContext.run, DeepFilter.plugin, DeepFilter.beforeQuery, errors, if_true,
    pure_bind, List.append_nil]
  rfl

namespace Clause

def Lowers (table : String) (clause : Clause) : Prop :=
  ∃ condition, clause.lower table = .ok condition

theorem lower_all_eq (table : String) (clauses : List Clause) :
    lowerAll table clauses = clauses.mapM (lower table) := by
  induction clauses with
  | nil => rfl
  | cons clause rest ih => rw [lowerAll, List.mapM_cons, ih]

def Obstacle (table : String) (clauses : List Clause) (error : FilterError) : Prop :=
  ∃ before clause after, clauses = before ++ clause :: after ∧
    (∀ earlier ∈ before, earlier.Lowers table) ∧ clause.lower table = .error error

end Clause

namespace SelectQuery

theorem finish_lowers (query : SelectQuery) (table : String) (clauses : List Clause) :
    ∃ build : List Condition → Select,
      query.finish table clauses = (clauses.mapM (Clause.lower table)).map build := by
  cases clauses with
  | nil => exact ⟨fun _ => _, rfl⟩
  | cons clause rest =>
      refine ⟨fun conditions => { Select.everythingFrom table with
        filter := some (.allOf (conditions.map (·.toMember)))
        orders := query.orders.map fun order => (qualified table order.1, order.2)
        limit := query.limit
        offset := query.offset }, ?_⟩
      rw [finish, restrictByClauses, Clause.lower, Clause.lower_all_eq]
      cases (clause :: rest).mapM (Clause.lower table) <;> rfl

theorem finish_ok_iff (query : SelectQuery) (table : String) (clauses : List Clause) :
    (∃ statement, query.finish table clauses = .ok statement) ↔
      ∀ clause ∈ clauses, clause.Lowers table := by
  obtain ⟨build, lowers⟩ := query.finish_lowers table clauses
  refine Iff.trans ?_ (map_all_exists_iff (Clause.lower table) clauses)
  rw [lowers]
  cases clauses.mapM (Clause.lower table) <;> simp [Except.map]

theorem finish_error_iff (query : SelectQuery) (table : String) (clauses : List Clause)
    (error : FilterError) :
    query.finish table clauses = .error error ↔ Clause.Obstacle table clauses error := by
  obtain ⟨build, lowers⟩ := query.finish_lowers table clauses
  refine Iff.trans ?_ (map_all_error_iff (Clause.lower table) clauses error)
  rw [lowers]
  cases clauses.mapM (Clause.lower table) <;> simp [Except.map]

-- The reports of later plugins come after the first one, and nothing takes it back.
theorem first_report_refuses (query : SelectQuery) (registry : Registry) (schema : EntitySchema)
    (session : Session) (before later : List Plugin) (error : FilterError)
    (others : List FilterError) (split : query.plugins = before ++ later)
    (first : ((query.context registry schema).reported before session).flatten = error :: others) :
    (query.statement registry schema).outcome session = .error error := by
  rw [statement_after_plugins, QueryContext.run_all_errors, split, QueryContext.reported_append,
    List.flatten_append, first]
  rfl

theorem silent_statement (query : SelectQuery) (registry : Registry) (schema : EntitySchema)
    (session : Session)
    (silent : ∀ errors ∈ (query.context registry schema).reported query.plugins session,
      errors = []) :
    (query.statement registry schema).outcome session =
      query.finish (query.naming.table schema)
        ((query.context registry schema).runAll query.plugins session).1.clauses := by
  rw [statement_after_plugins, QueryContext.run_all_errors, List.flatten_eq_nil_iff.mpr silent]
  rfl

theorem silent_of_statement (query : SelectQuery) (registry : Registry) (schema : EntitySchema)
    (session : Session) (statement : Select)
    (built : (query.statement registry schema).outcome session = .ok statement) :
    ∀ errors ∈ (query.context registry schema).reported query.plugins session, errors = [] := by
  rw [← List.flatten_eq_nil_iff]
  cases reported : ((query.context registry schema).reported query.plugins session).flatten with
  | nil => rfl
  | cons error others =>
      have refused := query.first_report_refuses registry schema session query.plugins [] error
        others (List.append_nil _).symm reported
      rw [refused] at built
      cases built

end SelectQuery

-- Plugins are hooks, and what they report adds up. A statement comes out exactly when there is no
-- report and all clauses that are left can be lowered; otherwise the first report is the answer, or
-- the first obstacle if there is none. After a report nested filters are left alone.
theorem plugin_errors_refuse (query : SelectQuery) (registry : Registry) (schema : EntitySchema)
    (session : Session) :
    let context := query.context registry schema
    let table := query.naming.table schema
    let ran := context.runAll query.plugins session
    let outcome := (query.statement registry schema).outcome session
    (∀ plugin ∈ query.plugins, ∃ hook : Hook,
      hook.plugin plugin.name = plugin ∧ ∀ start, start.run plugin = hook.run start) ∧
    ran.1.errors = (context.reported query.plugins session).flatten ∧
    ((∃ statement, outcome = .ok statement) ↔
      (∀ errors ∈ context.reported query.plugins session, errors = []) ∧
        ∀ clause ∈ ran.1.clauses, clause.Lowers table) ∧
    (∀ before later error others, query.plugins = before ++ later →
      (context.reported before session).flatten = error :: others → outcome = .error error) ∧
    ((∀ errors ∈ context.reported query.plugins session, errors = []) → ∀ error,
      outcome = .error error ↔ Clause.Obstacle table ran.1.clauses error) ∧
    (∀ before options later, query.plugins = before ++ DeepFilter.plugin options :: later →
      (∃ errors ∈ context.reported before session, errors ≠ []) →
      let reached := context.runAll before session
      reached.1.run (DeepFilter.plugin options) reached.2 = reached) := by
  intro context table ran outcome
  have finished : (∀ errors ∈ context.reported query.plugins session, errors = []) →
      outcome = query.finish table ran.1.clauses :=
    query.silent_statement registry schema session
  refine ⟨?_, context.run_all_errors query.plugins session, ?_, ?_, ?_, ?_⟩
  · intro plugin _
    refine ⟨plugin.hook, plugin.hook_plugin, ?_⟩
    intro start
    rw [← plugin.hook.plugin_runs plugin.name, plugin.hook_plugin]
  · constructor
    · intro succeeds
      obtain ⟨statement, built⟩ := succeeds
      have silent := query.silent_of_statement registry schema session statement built
      rw [finished silent] at built
      exact ⟨silent, (query.finish_ok_iff table ran.1.clauses).mp ⟨statement, built⟩⟩
    · intro fine
      obtain ⟨silent, lower⟩ := fine
      rw [finished silent]
      exact (query.finish_ok_iff table ran.1.clauses).mpr lower
  · intro before later error others split first
    exact query.first_report_refuses registry schema session before later error others split first
  · intro silent error
    rw [finished silent]
    exact query.finish_error_iff table ran.1.clauses error
  · intro before options later _ failed
    obtain ⟨errors, listed, nonempty⟩ := failed
    apply DeepFilter.run_after_error
    rw [context.run_all_errors before session]
    intro silent
    exact nonempty (List.flatten_eq_nil_iff.mp silent errors listed)

-- A plugin that reports any clause and takes it away, and one that has the last word, around the
-- plugin for nested filters.
def clauseGuard : Plugin :=
  Hook.plugin
    (.read fun context =>
      if context.clauses.isEmpty then .done
      else .report (.unknownField "Person" "guarded") (.edit (fun _ => []) .done))
    "guard"

def lastWord : Plugin := Hook.plugin (.report (.unknownField "Person" "late") .done) "last word"

def guardedQuery : SelectQuery :=
  .ofCalls [.usePlugin clauseGuard, .usePlugin (DeepFilter.plugin {}), .usePlugin lastWord,
    .whereMap [("mentor", .object [("name", .string "Ada")])]]

theorem guarded_people_refused :
    ((guardedQuery.context peopleRegistry personSchema).reported [clauseGuard] {}).flatten =
        [.unknownField "Person" "guarded"] ∧
      (guardedQuery.statement peopleRegistry personSchema).outcome {} =
        .error (.unknownField "Person" "guarded") ∧
      let reached := (guardedQuery.context peopleRegistry personSchema).runAll [clauseGuard] {}
      reached.1.run (DeepFilter.plugin {}) reached.2 = reached := by
  have reported : ((guardedQuery.context peopleRegistry personSchema).reported
      [clauseGuard] {}).flatten = [.unknownField "Person" "guarded"] := rfl
  obtain ⟨_, _, _, refused, _, ignored⟩ :=
    plugin_errors_refuse guardedQuery peopleRegistry personSchema {}
  refine ⟨reported, refused [clauseGuard] _ _ _ rfl reported,
    ignored [clauseGuard] {} [lastWord] rfl ?_⟩
  exact ⟨[.unknownField "Person" "guarded"], List.mem_singleton.mpr rfl, by simp⟩

end NestedFilter
