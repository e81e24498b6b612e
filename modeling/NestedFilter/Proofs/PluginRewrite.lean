import NestedFilter.Proofs.PlanEnd
import NestedFilter.Proofs.PluginErrors

/-!
What the plugin for nested filters makes of the clauses of a query. It compiles the equalities that
want it one by one and puts each condition in the place of its equality, or it stops at the first
one that fails and leaves every clause alone. Either way nothing is left for it to do again.
-/

set_option autoImplicit false

namespace NestedFilter

open Json (Value)
open Sql (Condition)

namespace Clause

mutual

def equalities : Clause → List (String × Value)
  | .all items => equalitiesAll items
  | .equals column value => [(column, value)]
  | .condition _ => []
termination_by structural clause => clause

def equalitiesAll : List Clause → List (String × Value)
  | [] => []
  | clause :: rest => equalities clause ++ equalitiesAll rest
termination_by structural clauses => clauses

end

end Clause

namespace DeepFilter

inductive Wanted (options : FilterOptions) : Value → Prop where
  | nested (inner : Filter) : Wanted options (.object inner)
  | starred (text : String) (on : options.wildcards = true) (star : '*' ∈ text.toList) :
      Wanted options (.string text)

theorem wanted_iff (options : FilterOptions) (value : Value) :
    Wanted options value ↔ wants options value = true := by
  constructor
  · intro wanted
    cases wanted with
    | nested inner => rfl
    | starred text on star => simp [wants, on, wildcard_pattern_starred text star]
  · intro wanted
    cases value with
    | object inner => exact .nested inner
    | string text =>
        obtain ⟨on, pattern⟩ := Bool.and_eq_true_iff.mp wanted
        by_cases star : '*' ∈ text.toList
        · exact .starred text on star
        · simp [wildcard_pattern_unstarred text star] at pattern
    | _ => cases wanted

instance (options : FilterOptions) (value : Value) : Decidable (Wanted options value) :=
  decidable_of_iff _ (wanted_iff options value).symm

def wantedAmong (options : FilterOptions) (entries : List (String × Value)) :
    List (String × Value) :=
  entries.filter fun entry => Wanted options entry.2

def unwantedAmong (options : FilterOptions) (entries : List (String × Value)) :
    List (String × Value) :=
  entries.filter fun entry => ¬ Wanted options entry.2

section

variable (options : FilterOptions)

theorem wanted_among_append (before after : List (String × Value)) :
    wantedAmong options (before ++ after) =
      wantedAmong options before ++ wantedAmong options after := List.filter_append before after

theorem unwanted_among_append (before after : List (String × Value)) :
    unwantedAmong options (before ++ after) =
      unwantedAmong options before ++ unwantedAmong options after := List.filter_append before after

theorem wanted_one (entry : String × Value) (wanted : Wanted options entry.2) :
    wantedAmong options [entry] = [entry] ∧ unwantedAmong options [entry] = [] := by
  simp [wantedAmong, unwantedAmong, wanted]

theorem unwanted_one (entry : String × Value) (unwanted : ¬ Wanted options entry.2) :
    wantedAmong options [entry] = [] ∧ unwantedAmong options [entry] = [entry] := by
  simp [wantedAmong, unwantedAmong, unwanted]

theorem unwanted_listed (entries : List (String × Value))
    (entry : String × Value) (listed : entry ∈ unwantedAmong options entries) :
    ¬ Wanted options entry.2 := of_decide_eq_true (List.mem_filter.mp listed).2

theorem unwanted_not_nested (value : Value) (unwanted : ¬ Wanted options value) :
    isNested value = false := by
  cases plain : isNested value with
  | false => rfl
  | true =>
      obtain ⟨inner, rfl⟩ := nested_value value plain
      exact absurd (.nested inner) unwanted

end

-- The condition that a mapping of one entry compiles to, and the cache that is left. Compilation
-- reads the cache of a session and the choices that it makes, and nothing else of it.
def compileEntry (options : FilterOptions) (context : QueryContext) (choices : Nat → Nat)
    (entry : String × Value) (cache : RelationCache) :
    Except FilterError Condition × RelationCache :=
  let compiler : Compiler := ⟨context.registry, context.naming, options⟩
  let compile := compiler.compile context.schema [[entry]]
  let session : Session := { cache := cache, choices := choices }
  ((compile.outcome session).map (·.condition), (compile.after session).cache)

inductive InTurn (options : FilterOptions) (context : QueryContext) (choices : Nat → Nat) :
    RelationCache → List ((String × Value) × Condition) → RelationCache → Prop where
  | nil (cache : RelationCache) : InTurn options context choices cache [] cache
  | cons (cache next last : RelationCache) (entry : String × Value) (condition : Condition)
      (rest : List ((String × Value) × Condition))
      (compiles : compileEntry options context choices entry cache = (.ok condition, next))
      (later : InTurn options context choices next rest last) :
      InTurn options context choices cache ((entry, condition) :: rest) last

def FirstFailure (options : FilterOptions) (context : QueryContext) (choices : Nat → Nat)
    (cache : RelationCache) (entries : List (String × Value)) (error : FilterError) : Prop :=
  ∃ compiled entry others reached left, entries = compiled.map Prod.fst ++ entry :: others ∧
    InTurn options context choices cache compiled reached ∧
    compileEntry options context choices entry reached = (.error error, left)

mutual

-- A clause with conditions in the place of the equalities that want one, and all else as it was.
inductive Spliced (options : FilterOptions) :
    Clause → List ((String × Value) × Condition) → Clause → Prop where
  | all (items : List Clause) (compiled : List ((String × Value) × Condition))
      (rewritten : List Clause) (inside : SplicedAll options items compiled rewritten) :
      Spliced options (.all items) compiled (.all rewritten)
  | kept (column : String) (value : Value) (unwanted : ¬ Wanted options value) :
      Spliced options (.equals column value) [] (.equals column value)
  | replaced (column : String) (value : Value) (condition : Condition)
      (wanted : Wanted options value) :
      Spliced options (.equals column value) [((column, value), condition)] (.condition condition)
  | ready (condition : Condition) : Spliced options (.condition condition) [] (.condition condition)

inductive SplicedAll (options : FilterOptions) :
    List Clause → List ((String × Value) × Condition) → List Clause → Prop where
  | nil : SplicedAll options [] [] []
  | cons (clause rewritten : Clause) (rest others : List Clause)
      (compiled later : List ((String × Value) × Condition))
      (first : Spliced options clause compiled rewritten)
      (remaining : SplicedAll options rest later others) :
      SplicedAll options (clause :: rest) (compiled ++ later) (rewritten :: others)

end

section

variable (options : FilterOptions) (context : QueryContext) (choices : Nat → Nat)

theorem in_turn_append (cache last : RelationCache)
    (before after : List ((String × Value) × Condition))
    (turn : InTurn options context choices cache (before ++ after) last) :
    ∃ reached, InTurn options context choices cache before reached ∧
      InTurn options context choices reached after last := by
  induction before generalizing cache with
  | nil => exact ⟨cache, .nil cache, turn⟩
  | cons pair before ih =>
      cases turn with
      | cons _ next _ entry condition _ compiles later =>
          obtain ⟨reached, first, second⟩ := ih next later
          exact ⟨reached, .cons _ _ _ _ _ _ compiles first, second⟩

theorem first_failure_cons_iff (cache : RelationCache) (entry : String × Value)
    (rest : List (String × Value)) (error : FilterError) :
    FirstFailure options context choices cache (entry :: rest) error ↔
      (∃ left, compileEntry options context choices entry cache = (.error error, left)) ∨
        ∃ condition next, compileEntry options context choices entry cache = (.ok condition, next) ∧
          FirstFailure options context choices next rest error := by
  constructor
  · rintro ⟨compiled, failing, others, reached, left, split, turn, failed⟩
    cases turn with
    | nil =>
        obtain ⟨rfl, rfl⟩ := List.cons.inj split
        exact .inl ⟨left, failed⟩
    | cons _ next _ first condition compiled compiles later =>
        obtain ⟨rfl, rfl⟩ := List.cons.inj split
        exact .inr ⟨condition, next, compiles,
          compiled, failing, others, reached, left, rfl, later, failed⟩
  · rintro (⟨left, failed⟩ | ⟨condition, next, compiles, failure⟩)
    · exact ⟨[], entry, rest, cache, left, rfl, .nil cache, failed⟩
    · obtain ⟨compiled, failing, others, reached, left, rfl, turn, failed⟩ := failure
      exact ⟨(entry, condition) :: compiled, failing, others, reached, left, rfl,
        .cons _ _ _ _ _ _ compiles turn, failed⟩

theorem not_first_failure_nil (cache : RelationCache) (error : FilterError) :
    ¬ FirstFailure options context choices cache [] error := by
  rintro ⟨compiled, entry, others, _, _, split, _⟩
  simp at split

theorem first_failure_append (cache : RelationCache) (before after : List (String × Value))
    (error : FilterError)
    (failure : FirstFailure options context choices cache (before ++ after) error) :
    FirstFailure options context choices cache before error ∨
      ∃ compiled reached, compiled.map Prod.fst = before ∧
        InTurn options context choices cache compiled reached ∧
        FirstFailure options context choices reached after error := by
  induction before generalizing cache with
  | nil => exact .inr ⟨[], cache, rfl, .nil cache, failure⟩
  | cons entry before ih =>
      rcases (first_failure_cons_iff options context choices cache entry _ error).mp failure with
        failed | ⟨condition, next, compiles, later⟩
      · exact .inl
          ((first_failure_cons_iff options context choices cache entry _ error).mpr (.inl failed))
      · rcases ih next later with early | ⟨compiled, reached, rfl, turn, late⟩
        · exact .inl ((first_failure_cons_iff options context choices cache entry _ error).mpr
            (.inr ⟨condition, next, compiles, early⟩))
        · exact .inr ⟨(entry, condition) :: compiled, reached, rfl,
            .cons _ _ _ _ _ _ compiles turn, late⟩

theorem in_turn_or_failure (cache : RelationCache) (entries : List (String × Value)) :
    (∃ error, FirstFailure options context choices cache entries error) ∨
      ∃ compiled last, compiled.map Prod.fst = entries ∧
        InTurn options context choices cache compiled last := by
  induction entries generalizing cache with
  | nil => exact .inr ⟨[], cache, rfl, .nil cache⟩
  | cons entry rest ih =>
      cases compiles : compileEntry options context choices entry cache with
      | mk outcome next =>
          cases outcome with
          | error error =>
              exact .inl ⟨error,
                (first_failure_cons_iff options context choices cache entry rest error).mpr
                  (.inl ⟨next, compiles⟩)⟩
          | ok condition =>
              rcases ih next with ⟨error, failure⟩ | ⟨compiled, last, rfl, turn⟩
              · exact .inl ⟨error,
                  (first_failure_cons_iff options context choices cache entry rest error).mpr
                    (.inr ⟨condition, next, compiles, failure⟩)⟩
              · exact .inr ⟨(entry, condition) :: compiled, last, rfl,
                  .cons _ _ _ _ _ _ compiles turn⟩

theorem entry_eval (entry : String × Value) (cache : RelationCache) :
    let compiler : Compiler := ⟨context.registry, context.naming, options⟩
    let (result, left) := (compiler.plan context.schema [[entry]]).eval context.registry cache
    compileEntry options context choices entry cache =
      ((result.mapError (Refusal.report (choices left.reflections))).map (·.condition), left) := by
  intro compiler
  let session : Session := { cache := cache, choices := choices }
  obtain ⟨outcome, left, _⟩ :=
    run_eval context.registry (compiler.plan context.schema [[entry]]) session
  exact Prod.ext (congrArg (Except.map CompiledFilter.condition) outcome) left

-- The record that is made first has no part in what is compiled.
theorem leaf_eval (column : String) (value : Value) (cache : RelationCache) :
    let compiler : Compiler := ⟨context.registry, context.naming, options⟩
    let (result, left) :=
      (compiler.plan context.schema [[(column, value)]]).eval context.registry cache
    (compileLeaf options context column value).eval context.registry cache =
      (result.map fun compiled => .condition compiled.condition, left) :=
  eval_bind_pure context.registry _ _ cache

theorem leaf_compiles (column : String) (value : Value) (cache left : RelationCache)
    (condition : Condition)
    (compiles : compileEntry options context choices (column, value) cache = (.ok condition, left)) :
    (compileLeaf options context column value).eval context.registry cache =
      (.ok (.condition condition), left) := by
  rw [leaf_eval]
  rw [entry_eval] at compiles
  obtain ⟨outcome, rfl⟩ := Prod.mk.inj compiles
  obtain ⟨compiled, reported, rfl⟩ := (map_ok_iff _ _ _).mp outcome
  rw [(map_error_ok_iff _ _ _).mp reported]
  rfl

theorem leaf_fails (column : String) (value : Value) (cache left : RelationCache)
    (error : FilterError)
    (failed : compileEntry options context choices (column, value) cache = (.error error, left)) :
    ∃ refusal, (compileLeaf options context column value).eval context.registry cache =
      (.error refusal, left) ∧ refusal.report (choices left.reflections) = error := by
  rw [entry_eval] at failed
  obtain ⟨outcome, rfl⟩ := Prod.mk.inj failed
  obtain ⟨refusal, refused, reported⟩ :=
    (map_error_error_iff _ _ _).mp ((map_fails_iff _ _ _).mp outcome)
  refine ⟨refusal, ?_, reported⟩
  rw [leaf_eval, refused]
  rfl

mutual

theorem clause_rewritten (clause : Clause) (cache last : RelationCache)
    (compiled : List ((String × Value) × Condition))
    (wanted : compiled.map Prod.fst = wantedAmong options clause.equalities)
    (turn : InTurn options context choices cache compiled last) :
    ∃ rewritten, (compileClause options context clause).eval context.registry cache =
        (.ok rewritten, last) ∧ Spliced options clause compiled rewritten := by
  match clause with
  | .condition condition =>
      obtain rfl := List.map_eq_nil_iff.mp wanted
      cases turn
      exact ⟨.condition condition, rfl, .ready condition⟩
  | .equals column value =>
      by_cases asked : Wanted options value
      · rw [Clause.equalities, (wanted_one options (column, value) asked).1] at wanted
        cases turn with
        | nil => cases wanted
        | cons _ next _ entry condition rest compiles later =>
            obtain ⟨rfl, others⟩ := List.cons.inj wanted
            obtain rfl := List.map_eq_nil_iff.mp others
            cases later
            rw [compileClause, if_pos ((wanted_iff options value).mp asked)]
            exact ⟨.condition condition,
              leaf_compiles options context choices column value cache _ condition compiles,
              .replaced column value condition asked⟩
      · rw [Clause.equalities, (unwanted_one options (column, value) asked).1] at wanted
        obtain rfl := List.map_eq_nil_iff.mp wanted
        cases turn
        rw [compileClause, if_neg (mt (wanted_iff options value).mpr asked)]
        exact ⟨.equals column value, rfl, .kept column value asked⟩
  | .all items =>
      obtain ⟨rewritten, evaluated, spliced⟩ :=
        clauses_rewritten items cache last compiled wanted turn
      refine ⟨.all rewritten, ?_, .all items compiled rewritten spliced⟩
      rw [compileClause, eval_bind_pure, evaluated]
      rfl
termination_by structural clause

theorem clauses_rewritten (clauses : List Clause) (cache last : RelationCache)
    (compiled : List ((String × Value) × Condition))
    (wanted : compiled.map Prod.fst = wantedAmong options (Clause.equalitiesAll clauses))
    (turn : InTurn options context choices cache compiled last) :
    ∃ rewritten, (compileClauses options context clauses).eval context.registry cache =
        (.ok rewritten, last) ∧ SplicedAll options clauses compiled rewritten := by
  match clauses with
  | [] =>
      obtain rfl := List.map_eq_nil_iff.mp wanted
      cases turn
      exact ⟨[], rfl, .nil⟩
  | clause :: rest =>
      rw [Clause.equalitiesAll, wanted_among_append] at wanted
      obtain ⟨here, later, rfl, wantedHere, wantedLater⟩ := List.map_eq_append_iff.mp wanted
      obtain ⟨reached, turnHere, turnLater⟩ :=
        in_turn_append options context choices cache last here later turn
      obtain ⟨first, evaluated, spliced⟩ :=
        clause_rewritten clause cache reached here wantedHere turnHere
      obtain ⟨others, evaluatedAll, splicedAll⟩ :=
        clauses_rewritten rest reached last later wantedLater turnLater
      refine ⟨first :: others, ?_, .cons clause first rest others here later spliced splicedAll⟩
      rw [compileClauses, (eval_bind _ _ _ _).1, evaluated]
      simp only [eval_bind_pure, evaluatedAll]
      rfl
termination_by structural clauses

end

mutual

theorem clause_fails (clause : Clause) (cache : RelationCache) (error : FilterError)
    (failure : FirstFailure options context choices cache
      (wantedAmong options clause.equalities) error) :
    ∃ refusal left, (compileClause options context clause).eval context.registry cache =
      (.error refusal, left) ∧ refusal.report (choices left.reflections) = error := by
  match clause with
  | .condition condition =>
      exact absurd failure (not_first_failure_nil options context choices cache error)
  | .equals column value =>
      by_cases asked : Wanted options value
      · rw [Clause.equalities, (wanted_one options (column, value) asked).1,
          first_failure_cons_iff] at failure
        rcases failure with ⟨left, failed⟩ | ⟨_, next, _, nothing⟩
        · obtain ⟨refusal, refused⟩ :=
            leaf_fails options context choices column value cache left error failed
          rw [compileClause, if_pos ((wanted_iff options value).mp asked)]
          exact ⟨refusal, left, refused⟩
        · exact absurd nothing (not_first_failure_nil options context choices next error)
      · rw [Clause.equalities, (unwanted_one options (column, value) asked).1] at failure
        exact absurd failure (not_first_failure_nil options context choices cache error)
  | .all items =>
      obtain ⟨refusal, left, refused, reported⟩ := clauses_fail items cache error failure
      refine ⟨refusal, left, ?_, reported⟩
      rw [compileClause, eval_bind_pure, refused]
      rfl
termination_by structural clause

theorem clauses_fail (clauses : List Clause) (cache : RelationCache) (error : FilterError)
    (failure : FirstFailure options context choices cache
      (wantedAmong options (Clause.equalitiesAll clauses)) error) :
    ∃ refusal left, (compileClauses options context clauses).eval context.registry cache =
      (.error refusal, left) ∧ refusal.report (choices left.reflections) = error := by
  match clauses with
  | [] => exact absurd failure (not_first_failure_nil options context choices cache error)
  | clause :: rest =>
      rw [Clause.equalitiesAll, wanted_among_append] at failure
      rw [compileClauses, (eval_bind _ _ _ _).1]
      rcases first_failure_append options context choices cache _ _ error failure with
        early | ⟨compiled, reached, wanted, turn, late⟩
      · obtain ⟨refusal, left, refused, reported⟩ := clause_fails clause cache error early
        refine ⟨refusal, left, ?_, reported⟩
        rw [refused]
      · obtain ⟨first, evaluated, _⟩ :=
          clause_rewritten options context choices clause cache reached compiled wanted turn
        obtain ⟨refusal, left, refused, reported⟩ := clauses_fail rest reached error late
        refine ⟨refusal, left, ?_, reported⟩
        rw [evaluated]
        simp only [eval_bind_pure, refused]
        rfl
termination_by structural clauses

end

end

section

variable (options : FilterOptions) (context : QueryContext)

mutual

theorem clause_settled (clause : Clause)
    (settled : ∀ entry ∈ clause.equalities, ¬ Wanted options entry.2) :
    compileClause options context clause = pure clause := by
  match clause with
  | .condition condition => rfl
  | .equals column value =>
      have unwanted := settled (column, value) (List.mem_singleton.mpr rfl)
      rw [compileClause, if_neg (mt (wanted_iff options value).mpr unwanted)]
  | .all items =>
      rw [compileClause, clauses_settled items settled, pure_bind]
termination_by structural clause

theorem clauses_settled (clauses : List Clause)
    (settled : ∀ entry ∈ Clause.equalitiesAll clauses, ¬ Wanted options entry.2) :
    compileClauses options context clauses = pure clauses := by
  match clauses with
  | [] => rfl
  | clause :: rest =>
      rw [Clause.equalitiesAll, List.forall_mem_append] at settled
      rw [compileClauses, clause_settled clause settled.1, clauses_settled rest settled.2,
        pure_bind, pure_bind]
termination_by structural clauses

end

mutual

theorem spliced_equalities (clause rewritten : Clause)
    (compiled : List ((String × Value) × Condition))
    (spliced : Spliced options clause compiled rewritten) :
    rewritten.equalities = unwantedAmong options clause.equalities := by
  match spliced with
  | .all items compiled rewritten inside =>
      exact spliced_all_equalities items rewritten compiled inside
  | .kept column value unwanted =>
      exact (unwanted_one options (column, value) unwanted).2.symm
  | .replaced column value condition wanted =>
      exact (wanted_one options (column, value) wanted).2.symm
  | .ready condition => rfl

theorem spliced_all_equalities (clauses rewritten : List Clause)
    (compiled : List ((String × Value) × Condition))
    (spliced : SplicedAll options clauses compiled rewritten) :
    Clause.equalitiesAll rewritten = unwantedAmong options (Clause.equalitiesAll clauses) := by
  match spliced with
  | .nil => rfl
  | .cons clause changed rest others compiled later first remaining =>
      rw [Clause.equalitiesAll, Clause.equalitiesAll, unwanted_among_append,
        spliced_equalities clause changed compiled first,
        spliced_all_equalities rest others later remaining]

end

theorem run_outcome (session : Session) (answer : Except FilterError (List Clause))
    (clean : context.errors = [])
    (rewrites : ((compileClauses options context context.clauses).run
      context.registry).outcome session = answer) :
    (context.run (plugin options) session).1 =
      { context with
        clauses := (leave context answer).clauses
        errors := (leave context answer).errors } := by
  have ran := before_query_outcome options context session clean
  rw [rewrites] at ran
  change { context with
    clauses := (beforeQuery options context session).1.clauses
    errors := context.errors ++ (beforeQuery options context session).1.errors } = _
  rw [ran, clean, List.nil_append]

theorem run_fails (session : Session) (error : FilterError) (clean : context.errors = [])
    (failure : FirstFailure options context session.choices session.cache
      (wantedAmong options (Clause.equalitiesAll context.clauses)) error) :
    (context.run (plugin options) session).1 = { context with errors := [error] } := by
  obtain ⟨refusal, left, refused, rfl⟩ :=
    clauses_fail options context session.choices context.clauses session.cache error failure
  have outcome := (run_eval context.registry (compileClauses options context context.clauses)
    session).1
  rw [refused] at outcome
  exact run_outcome options context session _ clean outcome

theorem run_rewrites (session : Session) (compiled : List ((String × Value) × Condition))
    (last : RelationCache) (clean : context.errors = [])
    (wanted : compiled.map Prod.fst = wantedAmong options (Clause.equalitiesAll context.clauses))
    (turn : InTurn options context session.choices session.cache compiled last) :
    ∃ clauses,
      (context.run (plugin options) session).1 = { context with clauses := clauses } ∧
      SplicedAll options context.clauses compiled clauses ∧
      Clause.equalitiesAll clauses =
        unwantedAmong options (Clause.equalitiesAll context.clauses) := by
  obtain ⟨clauses, evaluated, spliced⟩ :=
    clauses_rewritten options context session.choices context.clauses session.cache last compiled
      wanted turn
  have outcome := (run_ok_iff context.registry _ session clauses).mpr (congrArg Prod.fst evaluated)
  have ran := run_outcome options context session _ clean outcome
  refine ⟨clauses, ran.trans ?_, spliced,
    spliced_all_equalities options context.clauses clauses compiled spliced⟩
  rw [leave, clean]

theorem run_settled (session : Session)
    (settled : ∀ entry ∈ Clause.equalitiesAll context.clauses, ¬ Wanted options entry.2) :
    context.run (plugin options) session = (context, session) := by
  by_cases clean : context.errors = []
  · simp only [QueryContext.run, plugin, beforeQuery, has_no_errors context clean,
      Bool.false_eq_true, if_false, clauses_settled options context context.clauses settled]
    change ({ context with errors := context.errors ++ [] }, session) = (context, session)
    rw [List.append_nil]
  · exact run_after_error options context session clean

theorem run_twice (session again : Session) :
    let ran := (context.run (plugin options) session).1
    ran.run (plugin options) again = (ran, again) := by
  intro ran
  by_cases clean : context.errors = []
  · rcases in_turn_or_failure options context session.choices session.cache
        (wantedAmong options (Clause.equalitiesAll context.clauses)) with
      ⟨error, failure⟩ | ⟨compiled, last, wanted, turn⟩
    · have failed : ran = { context with errors := [error] } :=
        run_fails options context session error clean failure
      rw [failed]
      exact run_after_error options _ again (List.cons_ne_nil error [])
    · obtain ⟨clauses, rewritten, _, kept⟩ :=
        run_rewrites options context session compiled last clean wanted turn
      have settled : ran = { context with clauses := clauses } := rewritten
      rw [settled]
      apply run_settled
      intro entry listed
      rw [kept] at listed
      exact unwanted_listed options _ entry listed
  · have unchanged : ran = context :=
      congrArg Prod.fst (run_after_error options context session clean)
    rw [unchanged]
    exact run_after_error options context again clean

end

theorem plugin_rewrites_all_or_none (options : FilterOptions) (context : QueryContext)
    (session : Session) :
    let ran := context.run (plugin options) session
    let wanted := wantedAmong options (Clause.equalitiesAll context.clauses)
    (context.errors ≠ [] → ran = (context, session)) ∧
    (context.errors = [] →
      ((∃ error, FirstFailure options context session.choices session.cache wanted error) ∨
        ∃ compiled last, compiled.map Prod.fst = wanted ∧
          InTurn options context session.choices session.cache compiled last) ∧
      (∀ error, FirstFailure options context session.choices session.cache wanted error →
        ran.1 = { context with errors := [error] }) ∧
      ∀ compiled last, compiled.map Prod.fst = wanted →
        InTurn options context session.choices session.cache compiled last →
        ∃ clauses, ran.1 = { context with clauses := clauses } ∧
          SplicedAll options context.clauses compiled clauses ∧
          Clause.equalitiesAll clauses =
            unwantedAmong options (Clause.equalitiesAll context.clauses) ∧
          ∀ entry ∈ Clause.equalitiesAll clauses, isNested entry.2 = false) ∧
    ∀ again, ran.1.run (plugin options) again = (ran.1, again) := by
  intro ran wanted
  refine ⟨run_after_error options context session, ?_, run_twice options context session⟩
  intro clean
  refine ⟨in_turn_or_failure options context session.choices session.cache wanted, ?_, ?_⟩
  · intro error failure
    exact run_fails options context session error clean failure
  · intro compiled last all turn
    obtain ⟨clauses, rewritten, spliced, kept⟩ :=
      run_rewrites options context session compiled last clean all turn
    refine ⟨clauses, rewritten, spliced, kept, ?_⟩
    intro entry listed
    rw [kept] at listed
    exact unwanted_not_nested options entry.2 (unwanted_listed options _ entry listed)

-- A text with a star and a nested filter, at two depths, before some other clause.
def draft (last : Clause) : QueryContext where
  registry := peopleRegistry
  schema := personSchema
  naming := verbatim
  clauses := [
    .all [
      .equals "name" (.string "A*"),
      .all [.equals "mentor" (.object [("name", .string "Ada")]), .equals "name" (.string "Bob")]],
    last]

def peopleCache : RelationCache :=
  (RelationCache.empty.fetch peopleRegistry verbatim personSchema).2

theorem draft_in_turn (last : Clause) :
    ∃ compiled,
      compiled.map Prod.fst =
        [("name", .string "A*"), ("mentor", .object [("name", .string "Ada")])] ∧
      InTurn { wildcards := true } (draft last) (fun _ => 0) .empty compiled peopleCache := by
  have compiles : ∀ entry cache,
      let done := compileEntry { wildcards := true } (draft (.all [])) (fun _ => 0) entry cache
      done.1.toBool = true ∧ done.2 = peopleCache → ∃ condition,
        compileEntry { wildcards := true } (draft last) (fun _ => 0) entry cache =
          (.ok condition, peopleCache) := by
    intro entry cache done fine
    obtain ⟨succeeds, left⟩ := fine
    cases outcome : done.1 with
    | error error => simp [outcome, Except.toBool] at succeeds
    | ok condition => exact ⟨condition, Prod.ext outcome left⟩
  obtain ⟨name, first⟩ := compiles ("name", .string "A*") .empty (by decide +kernel)
  obtain ⟨mentor, second⟩ :=
    compiles ("mentor", .object [("name", .string "Ada")]) peopleCache (by decide +kernel)
  exact ⟨_, rfl, .cons _ _ _ _ name _ first (.cons _ _ _ _ mentor _ second (.nil peopleCache))⟩

theorem draft_rewritten_or_refused :
    let options : FilterOptions := { wildcards := true }
    (∃ clauses, ((draft (.equals "id" .null)).run (plugin options) {}).1 =
        { draft (.equals "id" .null) with clauses := clauses } ∧
      Clause.equalitiesAll clauses = [("name", .string "Bob"), ("id", .null)]) ∧
    ((draft (.equals "age" (.object []))).run (plugin options) {}).1 =
      { draft (.equals "age" (.object [])) with errors := [.unknownField "Person" "age"] } := by
  intro options
  constructor
  · obtain ⟨_, rewritten, _⟩ :=
      plugin_rewrites_all_or_none options (draft (.equals "id" .null)) {}
    obtain ⟨compiled, entries, turn⟩ := draft_in_turn (.equals "id" .null)
    obtain ⟨clauses, done, _, kept, _⟩ := (rewritten rfl).2.2 compiled peopleCache entries turn
    exact ⟨clauses, done, kept⟩
  · obtain ⟨_, refused, _⟩ :=
      plugin_rewrites_all_or_none options (draft (.equals "age" (.object []))) {}
    obtain ⟨compiled, entries, turn⟩ := draft_in_turn (.equals "age" (.object []))
    apply (refused rfl).2.1
    refine ⟨compiled, ("age", .object []), [], peopleCache, peopleCache, ?_, turn, rfl⟩
    rw [entries]
    rfl

end DeepFilter

end NestedFilter
