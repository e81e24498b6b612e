import NestedFilter.Filter.Compile
import NestedFilter.Proofs.ConditionTruth

/-!
Restricting statements. A compiled filter can be added to a statement in three ways, which may make
different conditions of it but keep the same rows.
-/

set_option autoImplicit false

namespace NestedFilter.Sql

namespace Select

section

variable (engine : Engine) (database : Database) (row : Row)

theorem restrict_keeps (statement : Select) (condition : Condition) :
    (statement.restrict condition).Keeps engine database row ↔
      statement.Keeps engine database row ∧
        condition.truth engine database [⟨statement.table, row⟩] = .holds := by
  obtain ⟨projection, table, filter, orders, limit, offset⟩ := statement
  cases filter with
  | none => simp [Keeps, restrict]
  | some current => simp [Keeps, restrict, conjoin_truth, Truth.and_holds]

theorem restrict_by_each_keeps (statement : Select) (predicates : List Predicate) :
    (predicates.foldl restrictBy statement).Keeps engine database row ↔
      statement.Keeps engine database row ∧
        ∀ predicate ∈ predicates,
          predicate.truth engine database [⟨statement.table, row⟩] = .holds := by
  induction predicates generalizing statement with
  | nil => simp
  | cons predicate rest ih =>
      have same : (statement.restrictBy predicate).table = statement.table := rfl
      rw [List.foldl_cons, ih, same, restrictBy, restrict_keeps, of_predicates_hold,
        List.forall_mem_singleton, List.forall_mem_cons, and_assoc]

end

-- Conditions are added to what a statement asks of its rows, and to nothing else of it.
def unfiltered (statement : Select) : Select := { statement with filter := none }

theorem restrict_by_each_unfiltered (statement : Select) (predicates : List Predicate) :
    (predicates.foldl restrictBy statement).unfiltered = statement.unfiltered := by
  induction predicates generalizing statement with
  | nil => rfl
  | cons predicate rest ih => exact ih (statement.restrictBy predicate)

def Continues (statement : Select) : Prop :=
  ∀ condition ∈ statement.filter, condition.isPlainAll = true

theorem restrict_then_restrict_by (statement : Select) (predicates : List Predicate)
    (predicate : Predicate) (continues : statement.Continues) :
    (statement.restrict (.ofPredicates predicates)).restrictBy predicate =
      statement.restrict (.ofPredicates (predicates ++ [predicate])) := by
  obtain ⟨projection, table, filter, orders, limit, offset⟩ := statement
  cases filter with
  | none =>
      simp [restrictBy, restrict, Condition.conjoin, Condition.ofPredicates, Condition.allOf,
        Condition.isPlainAll]
  | some current =>
      have plain : current.isPlainAll = true := continues current rfl
      rw [plain_all current plain]
      simp [restrictBy, restrict, Condition.conjoin, Condition.ofPredicates, Condition.allOf,
        Condition.isPlainAll]

theorem restrict_then_each (statement : Select) (first rest : List Predicate)
    (continues : statement.Continues) :
    rest.foldl restrictBy (statement.restrict (.ofPredicates first)) =
      statement.restrict (.ofPredicates (first ++ rest)) := by
  -- By induction on the predicates that are still to come.
  induction rest generalizing first with
  | nil => rw [List.append_nil, List.foldl_nil]
  | cons predicate rest ih =>
      rw [List.foldl_cons, restrict_then_restrict_by statement first predicate continues, ih,
        List.append_assoc, List.singleton_append]

end Select

end NestedFilter.Sql

namespace NestedFilter

open Sql (Condition Database Engine Predicate Row Scope Select qualified)

inductive Way where
  | apply
  | condition
  | predicates
deriving DecidableEq, Repr

namespace CompiledFilter

def addTo (compiled : CompiledFilter) (statement : Select) : Way → Select
  | .apply => compiled.apply statement
  | .condition => statement.restrict compiled.condition
  | .predicates => compiled.predicates.foldl Select.restrictBy statement

theorem condition_keeps (compiled : CompiledFilter) (statement : Select) (engine : Engine)
    (database : Database) (row : Row) :
    (statement.restrict compiled.condition).Keeps engine database row ↔
      statement.Keeps engine database row ∧
        ∀ predicate ∈ compiled.predicates,
          predicate.truth engine database [⟨statement.table, row⟩] = .holds := by
  rw [Select.restrict_keeps, condition, Sql.of_predicates_hold]

theorem add_keeps (compiled : CompiledFilter) (statement : Select) (way : Way) (engine : Engine)
    (database : Database) (row : Row) :
    (compiled.addTo statement way).Keeps engine database row ↔
      statement.Keeps engine database row ∧
        ∀ predicate ∈ compiled.predicates,
          predicate.truth engine database [⟨statement.table, row⟩] = .holds := by
  cases way with
  | condition => exact compiled.condition_keeps statement engine database row
  | predicates => exact Select.restrict_by_each_keeps engine database row statement _
  | apply =>
      obtain ⟨predicates⟩ := compiled
      cases predicates with
      | nil => simp [addTo, apply, isEmpty]
      | cons predicate rest =>
          exact condition_keeps ⟨predicate :: rest⟩ statement engine database row

theorem add_unfiltered (compiled : CompiledFilter) (statement : Select) (way : Way) :
    (compiled.addTo statement way).unfiltered = statement.unfiltered := by
  cases way with
  | condition => rfl
  | predicates => exact statement.restrict_by_each_unfiltered compiled.predicates
  | apply =>
      change (compiled.apply statement).unfiltered = statement.unfiltered
      unfold apply
      split <;> rfl

theorem add_alike (compiled : CompiledFilter) (statement : Select) (way : Way)
    (nonempty : compiled.predicates ≠ []) (continues : statement.Continues) :
    compiled.addTo statement way = statement.restrict compiled.condition := by
  -- Predicates that come one by one continue an AND in the same places as all at once. One at least
  -- is needed: an empty condition makes a WHERE clause of its own where there is none.
  obtain ⟨predicates⟩ := compiled
  cases predicates with
  | nil => exact absurd rfl nonempty
  | cons predicate rest =>
      cases way with
      | apply => rfl
      | condition => rfl
      | predicates => exact statement.restrict_then_each [predicate] rest continues

end CompiledFilter

inductive Addition where
  | test (condition : Condition)
  | filter (compiled : CompiledFilter)

structure AdditionStep where
  addition : Addition
  way : Way

namespace Addition

def Holds (addition : Addition) (engine : Engine) (database : Database) (scopes : List Scope) :
    Prop :=
  match addition with
  | .test condition => condition.truth engine database scopes = .holds
  | .filter compiled =>
      ∀ predicate ∈ compiled.predicates, predicate.truth engine database scopes = .holds

def Merges (addition : Addition) (statement : Select) : Prop :=
  match addition with
  | .test _ => True
  | .filter compiled => compiled.predicates ≠ [] ∧ statement.Continues

end Addition

namespace AdditionStep

def run (step : AdditionStep) (statement : Select) : Select :=
  match step.addition with
  | .test condition => statement.restrict condition
  | .filter compiled => compiled.addTo statement step.way

theorem run_keeps (step : AdditionStep) (statement : Select) (engine : Engine)
    (database : Database) (row : Row) :
    (step.run statement).Keeps engine database row ↔
      statement.Keeps engine database row ∧
        step.addition.Holds engine database [⟨statement.table, row⟩] := by
  obtain ⟨addition, way⟩ := step
  cases addition with
  | test condition => exact Select.restrict_keeps engine database row statement condition
  | filter compiled => exact compiled.add_keeps statement way engine database row

theorem run_unfiltered (step : AdditionStep) (statement : Select) :
    (step.run statement).unfiltered = statement.unfiltered := by
  obtain ⟨addition, way⟩ := step
  cases addition with
  | test condition => rfl
  | filter compiled => exact compiled.add_unfiltered statement way

theorem run_alike (step other : AdditionStep) (statement : Select)
    (same : step.addition = other.addition) (merges : step.addition.Merges statement) :
    step.run statement = other.run statement := by
  obtain ⟨addition, way⟩ := step
  obtain ⟨_, otherWay⟩ := other
  obtain rfl : addition = _ := same
  cases addition with
  | test condition => rfl
  | filter compiled =>
      obtain ⟨nonempty, continues⟩ := merges
      exact (compiled.add_alike statement way nonempty continues).trans
        (compiled.add_alike statement otherWay nonempty continues).symm

end AdditionStep

namespace Sql.Select

def after (statement : Select) : List AdditionStep → Select
  | [] => statement
  | step :: rest => (step.run statement).after rest

def MergesAll (statement : Select) : List AdditionStep → Prop
  | [] => True
  | step :: rest => step.addition.Merges statement ∧ (step.run statement).MergesAll rest

theorem after_unfiltered (statement : Select) (steps : List AdditionStep) :
    (statement.after steps).unfiltered = statement.unfiltered := by
  induction steps generalizing statement with
  | nil => rfl
  | cons step rest ih => exact (ih (step.run statement)).trans (step.run_unfiltered statement)

theorem after_keeps (statement : Select) (steps : List AdditionStep) (engine : Engine)
    (database : Database) (row : Row) :
    (statement.after steps).Keeps engine database row ↔
      statement.Keeps engine database row ∧
        ∀ step ∈ steps, step.addition.Holds engine database [⟨statement.table, row⟩] := by
  -- By induction on the steps: each one asks for what it adds, in whichever way.
  induction steps generalizing statement with
  | nil => simp [after]
  | cons step rest ih =>
      have parts : (step.run statement).unfiltered.table = statement.unfiltered.table := by
        rw [step.run_unfiltered statement]
      have table : (step.run statement).table = statement.table := parts
      rw [after, ih, table, step.run_keeps, List.forall_mem_cons, and_assoc]

theorem after_alike (statement : Select) (steps others : List AdditionStep)
    (same : steps.map (·.addition) = others.map (·.addition))
    (merges : statement.MergesAll steps) : statement.after steps = statement.after others := by
  induction steps generalizing statement others with
  | nil =>
      obtain rfl : others = [] := List.map_eq_nil_iff.mp same.symm
      rfl
  | cons step rest ih =>
      cases others with
      | nil => cases same
      | cons other others =>
          obtain ⟨first, later⟩ := List.cons.inj same
          obtain ⟨one, remaining⟩ := merges
          rw [after, after, ← step.run_alike other statement first one]
          exact ih (step.run statement) others later remaining

end Sql.Select

theorem additions_hold_alike (steps others : List AdditionStep)
    (same : steps.map (·.addition) = others.map (·.addition)) (engine : Engine)
    (database : Database) (scopes : List Scope) :
    (∀ step ∈ steps, step.addition.Holds engine database scopes) ↔
      ∀ step ∈ others, step.addition.Holds engine database scopes := by
  have listed : (∀ addition ∈ steps.map (·.addition), addition.Holds engine database scopes) ↔
      ∀ addition ∈ others.map (·.addition), addition.Holds engine database scopes := by rw [same]
  simpa only [List.forall_mem_map] using listed

theorem filter_additions_agree (statement : Select) (steps : List AdditionStep) :
    let added := statement.after steps
    added.unfiltered = statement.unfiltered ∧
    (∀ engine database row, added.Keeps engine database row ↔
      statement.Keeps engine database row ∧
        ∀ step ∈ steps, step.addition.Holds engine database [⟨statement.table, row⟩]) ∧
    (∀ others, steps.map (·.addition) = others.map (·.addition) →
      (∀ engine database row, added.Keeps engine database row ↔
        (statement.after others).Keeps engine database row) ∧
      (statement.MergesAll steps → added = statement.after others)) ∧
    (∀ (compiled : CompiledFilter) (way : Way),
      (compiled.addTo added way).unfiltered = added.unfiltered ∧
      (∀ engine database row, (compiled.addTo added way).Keeps engine database row ↔
        added.Keeps engine database row ∧ ∀ predicate ∈ compiled.predicates,
          predicate.truth engine database [⟨added.table, row⟩] = .holds) ∧
      (compiled.predicates ≠ [] → (∀ condition ∈ added.filter, condition.isPlainAll = true) →
        compiled.addTo added way = added.restrict compiled.condition)) := by
  intro added
  refine ⟨statement.after_unfiltered steps, statement.after_keeps steps, ?_, ?_⟩
  · intro others same
    refine ⟨?_, statement.after_alike steps others same⟩
    intro engine database row
    rw [statement.after_keeps steps, statement.after_keeps others,
      additions_hold_alike steps others same]
  · intro compiled way
    exact ⟨compiled.add_unfiltered added way, compiled.add_keeps added way,
      compiled.add_alike added way⟩

def nameTests : CompiledFilter :=
  ⟨[.like (qualified "people" "name") "A%", .isNull ⟨none, "age"⟩]⟩

def notYoung : Condition :=
  (Condition.anyOf [.predicate (.compare ⟨none, "age"⟩ .less (.integer 18)),
    .group true .all []]).negate

def additionsIn (first second : Way) : List AdditionStep :=
  [⟨.filter nameTests, first⟩, ⟨.test notYoung, .apply⟩, ⟨.filter nameTests, second⟩]

theorem people_additions_agree :
    (Select.everythingFrom "people").MergesAll (additionsIn .predicates .condition) ∧
      (Select.everythingFrom "people").after (additionsIn .predicates .condition) =
        (Select.everythingFrom "people").after (additionsIn .apply .predicates) := by
  have merges :
      (Select.everythingFrom "people").MergesAll (additionsIn .predicates .condition) := by
    refine ⟨⟨by simp [nameTests], ?_⟩, trivial, ⟨by simp [nameTests], ?_⟩, trivial⟩
    · intro condition present
      cases present
    · intro condition present
      cases present
      rfl
  obtain ⟨_, _, agree, _⟩ := filter_additions_agree (.everythingFrom "people")
    (additionsIn .predicates .condition)
  exact ⟨merges, (agree (additionsIn .apply .predicates) rfl).2 merges⟩

end NestedFilter
