import NestedFilter.Proofs.Agreement
import NestedFilter.Proofs.ConditionTruth
import NestedFilter.Proofs.PluginErrors

/-!
Clauses as conjunctions. However its tests are grouped, a clause asks of a row that every test holds,
and it cannot be lowered just when one of its equalities has a value that no column is equal to.
-/

set_option autoImplicit false

namespace NestedFilter

open Json (Value)
open Sql (Condition Database Engine Scope Select qualified)

namespace Sql.Condition

def joined (conditions : List Condition) : Condition := .allOf (conditions.map (·.toMember))

section

variable (engine : Engine) (database : Database) (scopes : List Scope)

theorem joined_nil_truth : (joined []).truth engine database scopes = .holds := rfl

theorem joined_cons_truth (condition : Condition) (conditions : List Condition) :
    (joined (condition :: conditions)).truth engine database scopes =
      (condition.truth engine database scopes).and
        ((joined conditions).truth engine database scopes) := by
  rw [joined, plain_all_truth, List.map_cons, Member.truthJoined, to_member_truth]
  rfl

theorem joined_one_truth (condition : Condition) :
    (joined [condition]).truth engine database scopes = condition.truth engine database scopes := by
  rw [joined_cons_truth, joined_nil_truth]
  exact Connective.all.join_unit _

theorem joined_append_truth (first others : List Condition) :
    (joined (first ++ others)).truth engine database scopes =
      ((joined first).truth engine database scopes).and
        ((joined others).truth engine database scopes) := by
  rw [joined, plain_all_truth, List.map_append, truth_joined_append]
  rfl

theorem joined_holds (conditions : List Condition) :
    (joined conditions).truth engine database scopes = .holds ↔
      ∀ condition ∈ conditions, condition.truth engine database scopes = .holds := by
  induction conditions with
  | nil => simp [joined_nil_truth]
  | cons condition rest ih =>
      rw [joined_cons_truth, Truth.and_holds, ih, List.forall_mem_cons]

end

end Sql.Condition

namespace Clause

inductive Test where
  | equals (column : String) (value : Value)
  | condition (ready : Condition)

mutual

def tests : Clause → List Test
  | .all items => testsAll items
  | .equals column value => [.equals column value]
  | .condition ready => [.condition ready]
termination_by structural clause => clause

def testsAll : List Clause → List Test
  | [] => []
  | clause :: rest => clause.tests ++ testsAll rest
termination_by structural clauses => clauses

end

def Unlistable (item : Value) : Prop :=
  item.kind = .null ∨ item.kind = .array ∨ item.kind = .object

def Refused (value : Value) : Prop :=
  (∃ inner, value = .object inner) ∨ ∃ items, value = .array items ∧ ∃ item ∈ items, Unlistable item

inductive Refusal (column : String) : Value → FilterError → Prop where
  | nested (inner : Filter) : Refusal column (.object inner) (.invalidValue column .nestedFilter)
  | item (before : List Value) (item : Value) (after : List Value)
      (listable : ∀ earlier ∈ before, ¬ Unlistable earlier) (unlistable : Unlistable item) :
      Refusal column (.array (before ++ item :: after))
        (.invalidValue column (.notAScalar item.kind))

theorem scalar_value_error_iff (field : String) (value : Value) (error : FilterError) :
    scalarValue field value = .error error ↔
      Unlistable value ∧ error = .invalidValue field (.notAScalar value.kind) := by
  cases value with
  | number value => cases value <;> simp [scalarValue, Unlistable, Value.kind]
  | _ => simp [scalarValue, Unlistable, Value.kind, eq_comm]

theorem scalar_value_ok_iff (field : String) (value : Value) :
    (∃ literal, scalarValue field value = .ok literal) ↔ ¬ Unlistable value := by
  cases value with
  | number value => cases value <;> simp [scalarValue, Unlistable, Value.kind]
  | _ => simp [scalarValue, Unlistable, Value.kind]

theorem scalar_predicate_error_iff (column : Sql.ColumnRef) (field : String) (value : Value)
    (error : FilterError) :
    scalarPredicate column field value false = .error error ↔ Refusal field value error := by
  constructor
  · intro failed
    cases value with
    | null | bool _ | string _ => cases failed
    | number value => cases value <;> cases failed
    | object inner =>
        cases failed
        exact .nested inner
    | array items =>
        have stopped : items.mapM (scalarValue field) = .error error := by
          cases listed : items.mapM (scalarValue field) with
          | ok literals => simp [scalarPredicate, listed, Except.map] at failed
          | error other => simpa [scalarPredicate, listed, Except.map] using failed
        obtain ⟨before, item, after, rfl, passed, failed⟩ := (map_all_error_iff _ _ _).mp stopped
        obtain ⟨unlistable, rfl⟩ := (scalar_value_error_iff field item error).mp failed
        exact .item before item after
          (fun earlier member => (scalar_value_ok_iff field earlier).mp (passed earlier member))
          unlistable
  · intro refusal
    cases refusal with
    | nested inner => rfl
    | item before item after listable unlistable =>
        have failed := (scalar_value_error_iff field item _).mpr ⟨unlistable, rfl⟩
        have stopped : (before ++ item :: after).mapM (scalarValue field) =
            .error (.invalidValue field (.notAScalar item.kind)) :=
          (map_all_error_iff _ _ _).mpr ⟨before, item, after, rfl, fun earlier member =>
            (scalar_value_ok_iff field earlier).mpr (listable earlier member), failed⟩
        rw [scalarPredicate, stopped]
        rfl

theorem scalar_predicate_ok_iff (column : Sql.ColumnRef) (field : String) (value : Value) :
    (∃ predicate, scalarPredicate column field value false = .ok predicate) ↔ ¬ Refused value := by
  cases value with
  | null | bool _ | string _ => simp [scalarPredicate, scalarValue, Except.map, Refused]
  | number value => cases value <;> simp [scalarPredicate, scalarValue, Except.map, Refused]
  | object inner => simp [scalarPredicate, Refused]
  | array items =>
      have listed := map_all_exists_iff (scalarValue field) items
      simp only [scalar_value_ok_iff] at listed
      have same : (∃ predicate, scalarPredicate column field (.array items) false = .ok predicate) ↔
          ∃ literals, items.mapM (scalarValue field) = .ok literals := by
        rw [scalarPredicate]
        cases items.mapM (scalarValue field) <;> simp [Except.map]
      rw [same, listed]
      simp [Refused]

namespace Test

def lower (table : String) : Test → Except FilterError Condition
  | .equals column value =>
      (scalarPredicate (qualified table column) column value false).map fun predicate =>
        .ofPredicates [predicate]
  | .condition ready => .ok ready

def Refused : Test → Prop
  | .equals _ value => Clause.Refused value
  | .condition _ => False

def Holds (engine : Engine) (database : Database) (scopes : List Scope) (table : String) :
    Test → Prop
  | .equals column value => ∃ predicate,
      scalarPredicate (qualified table column) column value false = .ok predicate ∧
        predicate.truth engine database scopes = .holds
  | .condition ready => ready.truth engine database scopes = .holds

theorem lower_ok_iff (table : String) (test : Test) :
    (∃ ready, test.lower table = .ok ready) ↔ ¬ test.Refused := by
  cases test with
  | condition ready => simp [lower, Refused]
  | equals column value =>
      rw [Refused, ← scalar_predicate_ok_iff (qualified table column) column value, lower]
      cases scalarPredicate (qualified table column) column value false <;> simp [Except.map]

theorem lower_error_iff (table : String) (test : Test) (error : FilterError) :
    test.lower table = .error error ↔
      ∃ column value, test = .equals column value ∧ Refusal column value error := by
  cases test with
  | condition ready => simp [lower]
  | equals column value =>
      have lowered : (Test.equals column value).lower table = .error error ↔
          scalarPredicate (qualified table column) column value false = .error error := by
        rw [lower]
        cases scalarPredicate (qualified table column) column value false <;> simp [Except.map]
      rw [lowered, scalar_predicate_error_iff]
      constructor
      · intro refusal
        exact ⟨column, value, rfl, refusal⟩
      · rintro ⟨_, _, same, refusal⟩
        cases same
        exact refusal

theorem lowered_holds_iff (engine : Engine) (database : Database) (scopes : List Scope)
    (table : String) (test : Test) (ready : Condition) (lowered : test.lower table = .ok ready) :
    ready.truth engine database scopes = .holds ↔
      test.Holds engine database scopes table := by
  cases test with
  | condition _ =>
      cases lowered
      rfl
  | equals column value =>
      obtain ⟨predicate, built, rfl⟩ := (map_ok_iff _ _ _).mp lowered
      rw [Sql.of_predicates_hold, List.forall_mem_singleton, Holds, built]
      simp

end Test

-- What lowering a clause comes to, beside what lowering its tests one by one comes to.
def Amounts (first second : List Condition) : Prop :=
  ∀ engine database scopes,
    (Condition.joined first).truth engine database scopes =
      (Condition.joined second).truth engine database scopes

mutual

theorem lower_amounts (table : String) (clause : Clause) :
    Alike (fun ready conditions => Amounts [ready] conditions) (clause.lower table)
      (clause.tests.mapM (Test.lower table)) := by
  match clause with
  | .condition ready => exact .ok ready [ready] (fun _ _ _ => rfl)
  | .equals column value =>
      rw [lower, tests, List.mapM_cons, Test.lower]
      cases scalarPredicate (qualified table column) column value false with
      | error error => exact .error error
      | ok predicate =>
          let ready := Condition.ofPredicates [predicate]
          exact .ok ready [ready] (fun _ _ _ => rfl)
  | .all items =>
      rw [lower, tests]
      rcases alike_cases _ _ _ (lower_all_amounts table items) with
        ⟨error, left, right⟩ | ⟨inner, conditions, left, right, amounts⟩
      · rw [left, right]
        exact .error error
      · rw [left, right]
        refine .ok (Condition.joined inner) conditions ?_
        intro engine database scopes
        rw [Sql.Condition.joined_one_truth, amounts engine database scopes]
termination_by structural clause

theorem lower_all_amounts (table : String) (clauses : List Clause) :
    Alike Amounts (lowerAll table clauses) ((testsAll clauses).mapM (Test.lower table)) := by
  match clauses with
  | [] => exact .ok [] [] (fun _ _ _ => rfl)
  | clause :: rest =>
      rw [lowerAll, testsAll, List.mapM_append]
      rcases alike_cases _ _ _ (lower_amounts table clause) with
        ⟨error, left, right⟩ | ⟨ready, conditions, left, right, first⟩
      · rw [left, right]
        exact .error error
      · rcases alike_cases _ _ _ (lower_all_amounts table rest) with
          ⟨error, leftRest, rightRest⟩ | ⟨others, remaining, leftRest, rightRest, later⟩
        · rw [left, right, leftRest, rightRest]
          exact .error error
        · rw [left, right, leftRest, rightRest]
          refine .ok (ready :: others) (conditions ++ remaining) ?_
          intro engine database scopes
          rw [Sql.Condition.joined_cons_truth, Sql.Condition.joined_append_truth,
            ← first engine database scopes, ← later engine database scopes,
            Sql.Condition.joined_one_truth]
termination_by structural clauses

end

def FirstRefusal (tests : List Test) (error : FilterError) : Prop :=
  ∃ before column value after, tests = before ++ .equals column value :: after ∧
    (∀ earlier ∈ before, ¬ earlier.Refused) ∧ Refusal column value error

section

variable (table : String) (tests : List Test)

theorem tests_error_iff (error : FilterError) :
    tests.mapM (Test.lower table) = .error error ↔ FirstRefusal tests error := by
  simp only [map_all_error_iff, Test.lower_ok_iff, Test.lower_error_iff]
  constructor
  · intro stopped
    obtain ⟨before, _, after, split, passed, column, value, rfl, refusal⟩ := stopped
    exact ⟨before, column, value, after, split, passed, refusal⟩
  · intro stopped
    obtain ⟨before, column, value, after, split, passed, refusal⟩ := stopped
    exact ⟨before, _, after, split, passed, column, value, rfl, refusal⟩

theorem tests_ok_iff :
    (∃ conditions, tests.mapM (Test.lower table) = .ok conditions) ↔
      ∀ test ∈ tests, ¬ test.Refused := by
  simp only [map_all_exists_iff, Test.lower_ok_iff]

theorem tests_hold_iff (conditions : List Condition)
    (lowered : tests.mapM (Test.lower table) = .ok conditions) (engine : Engine)
    (database : Database) (scopes : List Scope) :
    (Condition.joined conditions).truth engine database scopes = .holds ↔
      ∀ test ∈ tests, test.Holds engine database scopes table := by
  rw [Sql.Condition.joined_holds]
  constructor
  · intro kept test member
    obtain ⟨ready, made⟩ := map_all_total _ _ _ lowered test member
    have listed := (map_all_mem_iff _ _ _ lowered ready).mpr ⟨test, member, made⟩
    exact (test.lowered_holds_iff engine database scopes table ready made).mp (kept ready listed)
  · intro kept ready listed
    obtain ⟨test, member, made⟩ := (map_all_mem_iff _ _ _ lowered ready).mp listed
    exact (test.lowered_holds_iff engine database scopes table ready made).mpr (kept test member)

end

section

variable (table : String) (clause : Clause)

theorem lower_error_iff (error : FilterError) :
    clause.lower table = .error error ↔ FirstRefusal clause.tests error := by
  rw [← tests_error_iff table]
  rcases alike_cases _ _ _ (lower_amounts table clause) with
    ⟨other, left, right⟩ | ⟨ready, conditions, left, right, _⟩
  · rw [left, right]
    simp
  · rw [left, right]
    simp

theorem lower_ok_iff :
    (∃ ready, clause.lower table = .ok ready) ↔ ∀ test ∈ clause.tests, ¬ test.Refused := by
  rw [← tests_ok_iff table]
  rcases alike_cases _ _ _ (lower_amounts table clause) with
    ⟨other, left, right⟩ | ⟨ready, conditions, left, right, _⟩
  · rw [left, right]
    simp
  · rw [left, right]
    simp

theorem lower_fails_iff :
    (∃ error, clause.lower table = .error error) ↔
      ∃ column value, .equals column value ∈ clause.tests ∧ Refused value := by
  have failing : (∃ error, clause.lower table = .error error) ↔
      ¬ ∃ ready, clause.lower table = .ok ready := by
    cases clause.lower table <;> simp
  rw [failing, lower_ok_iff]
  constructor
  · intro refused
    push Not at refused
    obtain ⟨test, listed, refused⟩ := refused
    cases test with
    | condition ready => exact refused.elim
    | equals column value => exact ⟨column, value, listed, refused⟩
  · intro refused accepted
    obtain ⟨column, value, listed, refused⟩ := refused
    exact accepted _ listed refused

theorem lowered_truth (ready : Condition) (lowered : clause.lower table = .ok ready) :
    ∃ conditions, clause.tests.mapM (Test.lower table) = .ok conditions ∧
      ∀ engine database scopes, ready.truth engine database scopes =
        (Condition.joined conditions).truth engine database scopes := by
  rcases alike_cases _ _ _ (lower_amounts table clause) with
    ⟨other, left, _⟩ | ⟨again, conditions, left, right, amounts⟩
  · cases lowered.symm.trans left
  · cases lowered.symm.trans left
    refine ⟨conditions, right, ?_⟩
    intro engine database scopes
    rw [← amounts engine database scopes, Sql.Condition.joined_one_truth]

theorem lowered_holds_iff (ready : Condition) (lowered : clause.lower table = .ok ready)
    (engine : Engine) (database : Database) (scopes : List Scope) :
    ready.truth engine database scopes = .holds ↔
      ∀ test ∈ clause.tests, test.Holds engine database scopes table := by
  obtain ⟨conditions, made, truth⟩ := lowered_truth table clause ready lowered
  rw [truth, tests_hold_iff table clause.tests conditions made]

theorem regrouped_truth (other : Clause) (same : other.tests = clause.tests)
    (ready again : Condition) (lowered : clause.lower table = .ok ready)
    (otherLowered : other.lower table = .ok again) (engine : Engine) (database : Database)
    (scopes : List Scope) :
    again.truth engine database scopes = ready.truth engine database scopes := by
  obtain ⟨conditions, made, truth⟩ := lowered_truth table clause ready lowered
  obtain ⟨others, otherMade, otherTruth⟩ := lowered_truth table other again otherLowered
  rw [same, made] at otherMade
  cases otherMade
  rw [truth, otherTruth]

end

theorem equality_tests (entries : Filter) :
    testsAll (entries.map fun entry => .equals entry.1 entry.2) =
      entries.map fun entry => Test.equals entry.1 entry.2 := by
  induction entries with
  | nil => rfl
  | cons entry rest ih =>
      rw [List.map_cons, testsAll, ih]
      rfl

theorem tests_all_append (first others : List Clause) :
    testsAll (first ++ others) = testsAll first ++ testsAll others := by
  induction first with
  | nil => rfl
  | cons clause rest ih => rw [List.cons_append, testsAll, testsAll, ih, List.append_assoc]

end Clause

def BuilderCall.tests : BuilderCall → List Clause.Test
  | .filter ready => [.condition ready]
  | .whereMap entries => entries.map fun entry => .equals entry.1 entry.2
  | _ => []

namespace SelectQuery

theorem call_tests (query : SelectQuery) (next : BuilderCall) :
    Clause.testsAll (query.call next).clauses = Clause.testsAll query.clauses ++ next.tests := by
  cases next with
  | filter ready => exact Clause.tests_all_append query.clauses [.condition ready]
  | whereMap entries =>
      have added := Clause.tests_all_append query.clauses [.ofFilter entries]
      rw [BuilderCall.tests, ← Clause.equality_tests]
      exact added.trans (congrArg (Clause.testsAll query.clauses ++ ·) (List.append_nil _))
  | usePlugin plugin =>
      have kept : (query.call (.usePlugin plugin)).clauses = query.clauses := by
        rw [call]
        split <;> rfl
      rw [kept]
      exact (List.append_nil _).symm
  | withNaming _ | orderBy _ _ | limit _ | offset _ => exact (List.append_nil _).symm

theorem calls_tests (calls : List BuilderCall) (query : SelectQuery) :
    Clause.testsAll (calls.foldl call query).clauses =
      Clause.testsAll query.clauses ++ calls.flatMap BuilderCall.tests := by
  -- By induction on the calls, for a query that has been begun.
  induction calls generalizing query with
  | nil => exact (List.append_nil _).symm
  | cons next rest ih =>
      rw [List.foldl_cons, ih, call_tests, List.flatMap_cons, List.append_assoc]

theorem calls_without_plugins (calls : List BuilderCall) (query : SelectQuery)
    (none : ∀ plugin, .usePlugin plugin ∉ calls) :
    (calls.foldl call query).plugins = query.plugins := by
  induction calls generalizing query with
  | nil => rfl
  | cons next rest ih =>
      rw [List.foldl_cons, ih (query.call next) fun plugin later =>
        none plugin (List.mem_cons_of_mem next later)]
      cases next with
      | usePlugin plugin => exact absurd List.mem_cons_self (none plugin)
      | _ => rfl

def framed (query : SelectQuery) (table : String) (filter : Option Condition) : Select where
  projection := .everything
  table := table
  filter := filter
  orders := query.orders.map fun order => (qualified table order.1, order.2)
  limit := query.limit
  offset := query.offset

theorem finish_framed (query : SelectQuery) (table : String) (clauses : List Clause) :
    query.finish table clauses =
      if clauses.isEmpty then .ok (query.framed table none)
      else (Clause.lower table (.all clauses)).map fun ready => query.framed table (some ready) := by
  cases clauses with
  | nil => rfl
  | cons clause rest =>
      rw [finish, restrictByClauses]
      simp only [List.isEmpty_cons, Bool.false_eq_true, if_false]
      cases Clause.lower table (.all (clause :: rest)) <;> rfl

theorem finish_refusal_iff (query : SelectQuery) (table : String) (clauses : List Clause)
    (error : FilterError) :
    query.finish table clauses = .error error ↔
      Clause.FirstRefusal (Clause.testsAll clauses) error := by
  have together := Clause.lower_error_iff table (.all clauses) error
  rw [Clause.tests] at together
  rw [finish_framed]
  cases clauses with
  | nil =>
      rw [← together]
      exact iff_of_false (fun failed => nomatch failed) (fun failed => nomatch failed)
  | cons clause rest =>
      rw [← together]
      simp only [List.isEmpty_cons, Bool.false_eq_true, if_false]
      cases Clause.lower table (.all (clause :: rest)) <;> simp [Except.map]

theorem finished_keeps_iff (query : SelectQuery) (table : String) (clauses : List Clause)
    (statement : Select) (finished : query.finish table clauses = .ok statement) :
    statement.table = table ∧ ∀ engine database row, statement.Keeps engine database row ↔
      ∀ test ∈ Clause.testsAll clauses, test.Holds engine database [⟨table, row⟩] table := by
  rw [finish_framed] at finished
  cases clauses with
  | nil =>
      cases finished
      exact ⟨rfl, fun _ _ _ => by simp [Select.Keeps, framed, Clause.testsAll]⟩
  | cons clause rest =>
      simp only [List.isEmpty_cons, Bool.false_eq_true, if_false] at finished
      obtain ⟨ready, lowered, rfl⟩ := (map_ok_iff _ _ _).mp finished
      refine ⟨rfl, fun engine database row => ?_⟩
      have asked := Clause.lowered_holds_iff table (.all (clause :: rest)) ready lowered engine
        database [⟨table, row⟩]
      rw [Clause.tests] at asked
      rw [← asked]
      simp [Select.Keeps, framed]

theorem plain_statement (query : SelectQuery) (registry : Registry) (schema : EntitySchema)
    (session : Session) (plain : query.plugins = []) :
    (query.statement registry schema).outcome session =
      query.finish (query.naming.table schema) query.clauses := by
  rw [statement_after_plugins, plain]
  rfl

end SelectQuery

theorem clause_asks_its_tests (table : String) (clause : Clause) :
    ((∃ error, clause.lower table = .error error) ↔ ∃ column value,
      Clause.Test.equals column value ∈ clause.tests ∧ Clause.Refused value) ∧
    (∀ error, clause.lower table = .error error ↔ Clause.FirstRefusal clause.tests error) ∧
    (∀ ready, clause.lower table = .ok ready → ∀ engine database scopes,
      ready.truth engine database scopes = .holds ↔
        ∀ test ∈ clause.tests, test.Holds engine database scopes table) ∧
    (∀ other : Clause, other.tests = clause.tests →
      (∀ error, other.lower table = .error error ↔ clause.lower table = .error error) ∧
      ∀ ready again, clause.lower table = .ok ready → other.lower table = .ok again →
        ∀ engine database scopes,
          again.truth engine database scopes = ready.truth engine database scopes) ∧
    (∀ calls, (∀ plugin, .usePlugin plugin ∉ calls) →
      ∀ (registry : Registry) (schema : EntitySchema) (session : Session),
        let query := SelectQuery.ofCalls calls
        let tests := calls.flatMap BuilderCall.tests
        let outcome := (query.statement registry schema).outcome session
        (∀ error, outcome = .error error ↔ Clause.FirstRefusal tests error) ∧
        ∀ statement, outcome = .ok statement →
          statement.table = query.naming.table schema ∧
          ∀ engine database row, statement.Keeps engine database row ↔
            ∀ test ∈ tests,
              test.Holds engine database [⟨statement.table, row⟩] statement.table) := by
  refine ⟨Clause.lower_fails_iff table clause, Clause.lower_error_iff table clause,
    Clause.lowered_holds_iff table clause, ?regrouped, ?query⟩
  case regrouped =>
    intro other same
    constructor
    · intro error
      rw [Clause.lower_error_iff table other, Clause.lower_error_iff table clause, same]
    · intro ready again lowered otherLowered
      exact Clause.regrouped_truth table clause other same ready again lowered otherLowered
  case query =>
    intro calls none registry schema session query tests outcome
    have plain : query.plugins = [] := SelectQuery.calls_without_plugins calls {} none
    have asked : Clause.testsAll query.clauses = tests := SelectQuery.calls_tests calls {}
    have finished : outcome = query.finish (query.naming.table schema) query.clauses :=
      query.plain_statement registry schema session plain
    rw [finished]
    constructor
    · intro error
      rw [query.finish_refusal_iff, asked]
    · intro statement built
      obtain ⟨same, keeps⟩ := query.finished_keeps_iff _ query.clauses statement built
      rw [same]
      exact ⟨rfl, asked ▸ keeps⟩

def adult : Condition := (Condition.anyOf [.predicate (.isNull (qualified "people" "age")),
  .predicate (.compare (qualified "people" "age") .less (.integer 18))]).negate

def groupedClause : Clause :=
  .all [.all [], .all [.all [.equals "name" (.string "Ada")]], .condition adult]

def flatClause : Clause := .all [.equals "name" (.string "Ada"), .condition adult]

def adultCalls : List BuilderCall :=
  [.limit 3, .whereMap [("name", .string "Ada")], .filter adult, .offset 1]

theorem grouped_clause_asks_its_tests :
    flatClause.tests = groupedClause.tests ∧ (∀ plugin, .usePlugin plugin ∉ adultCalls) ∧
      ∃ ready again statement, groupedClause.lower "people" = .ok ready ∧
        flatClause.lower "people" = .ok again ∧
        ((SelectQuery.ofCalls adultCalls).statement peopleRegistry personSchema).outcome {} =
          .ok statement ∧
        ∀ engine database row,
          (again.truth engine database [⟨"people", row⟩] =
            ready.truth engine database [⟨"people", row⟩]) ∧
          (ready.truth engine database [⟨"people", row⟩] = .holds ↔
            ∀ test ∈ groupedClause.tests, test.Holds engine database [⟨"people", row⟩] "people") ∧
          (statement.Keeps engine database row ↔ ∀ test ∈ adultCalls.flatMap BuilderCall.tests,
            test.Holds engine database [⟨"people", row⟩] "people") := by
  have same : flatClause.tests = groupedClause.tests := rfl
  have plain : ∀ plugin, .usePlugin plugin ∉ adultCalls := by
    intro plugin
    simp [adultCalls]
  obtain ⟨_, _, holds, regrouped, queried⟩ := clause_asks_its_tests "people" groupedClause
  obtain ⟨_, keeps⟩ := queried adultCalls plain peopleRegistry personSchema {}
  refine ⟨same, plain, _, _, _, rfl, rfl, rfl, ?_⟩
  intro engine database row
  exact ⟨(regrouped flatClause same).2 _ _ rfl rfl engine database _,
    holds _ rfl engine database _, (keeps _ rfl).2 engine database row⟩

end NestedFilter
