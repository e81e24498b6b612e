import NestedFilter.Proofs.PlanEnd
import NestedFilter.Proofs.Rules

/-!
The wildcard option: a compilation with it is the one without it, in which the tests of a column
for a text with stars have become LIKE. Errors, lookups and the cache are the same.
-/

set_option autoImplicit false

namespace NestedFilter

open Json (Value)
open Sql (ColumnRef Predicate qualified)

mutual

def starred : Predicate → Predicate
  | .compare column .equal (.text text) =>
      if '*' ∈ text.toList then .like column (String.ofList (text.toList.map percentForStar))
      else .compare column .equal (.text text)
  | .inQuery column projected table filter =>
      .inQuery column projected table (starredAll filter)
  | other => other
termination_by structural predicate => predicate

def starredAll : List Predicate → List Predicate
  | [] => []
  | predicate :: rest => starred predicate :: starredAll rest
termination_by structural predicates => predicates

end

def CompiledFilter.starred (compiled : CompiledFilter) : CompiledFilter :=
  ⟨starredAll compiled.predicates⟩

mutual

def comparedTexts : Predicate → List (String × String)
  | .compare column .equal (.text text) => [(column.name, text)]
  | .inQuery _ _ _ filter => comparedTextsAll filter
  | _ => []
termination_by structural predicate => predicate

def comparedTextsAll : List Predicate → List (String × String)
  | [] => []
  | predicate :: rest => comparedTexts predicate ++ comparedTextsAll rest
termination_by structural predicates => predicates

end

def entryText? : String × Value → Option (String × String)
  | (column, .string text) => some (column, text)
  | _ => none

mutual

-- The texts in the filters that are nested in a mapping. Items of arrays are none of them.
def nestedTexts : List (String × Value) → List (String × String)
  | [] => []
  | (_, value) :: rest => valueTexts value ++ nestedTexts rest
termination_by structural entries => entries

def valueTexts : Value → List (String × String)
  | .object entries => entries.filterMap entryText? ++ nestedTexts entries
  | _ => []
termination_by structural value => value

end

def filterTexts (entries : Filter) : List (String × String) :=
  entries.filterMap entryText? ++ nestedTexts entries

theorem starred_all_eq_map (predicates : List Predicate) :
    starredAll predicates = predicates.map starred := by
  induction predicates with
  | nil => rfl
  | cons predicate rest ih => rw [starredAll, ih, List.map_cons]

theorem compared_texts_append (first others : List Predicate) :
    comparedTextsAll (first ++ others) = comparedTextsAll first ++ comparedTextsAll others := by
  induction first with
  | nil => rfl
  | cons predicate rest ih =>
      rw [List.cons_append, comparedTextsAll, comparedTextsAll, ih, List.append_assoc]

theorem relation_predicate_starred (owner related : EntityRelations) (relation : Relation)
    (nested : List Predicate) :
    starred (relationPredicate owner related relation nested) =
      relationPredicate owner related relation (starredAll nested) := by
  unfold relationPredicate
  cases relation.kind <;> rfl

theorem relation_predicate_texts (owner related : EntityRelations) (relation : Relation)
    (nested : List Predicate) :
    comparedTexts (relationPredicate owner related relation nested) = comparedTextsAll nested := by
  unfold relationPredicate
  cases relation.kind with
  | toOne | toMany => rfl
  | manyToMany junction =>
      simp only [membership, comparedTexts, comparedTextsAll, List.append_nil]

mutual

theorem starred_unchanged (predicate : Predicate)
    (unstarred : ∀ text ∈ comparedTexts predicate, '*' ∉ text.2.toList) :
    starred predicate = predicate := by
  match predicate with
  | .inQuery column projected table filter =>
      rw [starred, starred_all_unchanged filter unstarred]
  | .compare column comparison (.text text) =>
      cases comparison with
      | equal =>
          have absent : '*' ∉ text.toList := unstarred (column.name, text) List.mem_cons_self
          rw [starred, if_neg absent]
      | _ => rfl
  | .compare _ comparison (.bool _)
  | .compare _ comparison (.integer _)
  | .compare _ comparison (.double _) => cases comparison <;> rfl
  | .like _ _ | .isNull _ | .isIn _ _ => rfl
termination_by structural predicate

theorem starred_all_unchanged (predicates : List Predicate)
    (unstarred : ∀ text ∈ comparedTextsAll predicates, '*' ∉ text.2.toList) :
    starredAll predicates = predicates := by
  match predicates with
  | [] => rfl
  | predicate :: rest =>
      have first := starred_unchanged predicate
        (fun text member => unstarred text (List.mem_append_left _ member))
      have others := starred_all_unchanged rest
        (fun text member => unstarred text (List.mem_append_right _ member))
      rw [starredAll, first, others]
termination_by structural predicates

end

theorem scalar_predicate_starred (column : ColumnRef) (field : String) (value : Value) :
    scalarPredicate column field value true =
      (scalarPredicate column field value false).map starred := by
  cases value with
  | null => rfl
  | bool value => rfl
  | number number => cases number <;> rfl
  | object inner => rfl
  | array items =>
      simp only [scalarPredicate]
      cases items.mapM (scalarValue field) <;> rfl
  | string text =>
      by_cases star : '*' ∈ text.toList
      · simp [scalarPredicate, wildcard_pattern_starred text star, Except.map, starred, star]
      · simp [scalarPredicate, wildcard_pattern_unstarred text star, Except.map, starred, star]

theorem map_all_starred {α : Type} (on off : α → Except FilterError Predicate)
    (same : ∀ a, on a = (off a).map starred) (items : List α) :
    items.mapM on = (items.mapM off).map starredAll := by
  induction items with
  | nil => rfl
  | cons a rest ih =>
      rw [List.mapM_cons, List.mapM_cons, same, ih]
      cases off a with
      | error error => rfl
      | ok predicate => cases rest.mapM off <;> rfl

def Compiler.withWildcards (compiler : Compiler) (wildcards : Bool) : Compiler :=
  { compiler with options := { compiler.options with wildcards := wildcards } }

section

variable (compiler : Compiler)

theorem level_scalars_starred (schema : EntitySchema) (entity : EntityRelations)
    (entries : Filter) :
    (compiler.withWildcards true).levelScalars schema entity entries =
      ((compiler.withWildcards false).levelScalars schema entity entries).map starredAll := by
  have same := fun entry : ScalarEntry =>
    scalar_predicate_starred (qualified entity.table entry.column) entry.column entry.value
  simp only [Compiler.levelScalars, Compiler.withWildcards, Partition.scalarPredicates]
  cases partition compiler.registry compiler.naming schema entity entries with
  | error error => rfl
  | ok parts => exact map_all_starred _ _ same parts.scalars

theorem answer_map {α β : Type} (answer : Except FilterError α) (f : α → β) :
    Plan.answer (answer.map f) = f <$> Plan.answer answer := by
  cases answer <;> rfl

theorem starred_all_append (first others : List Predicate) :
    starredAll (first ++ others) = starredAll first ++ starredAll others := by
  simp only [starred_all_eq_map, List.map_append]

theorem level_starred (schema : EntitySchema) (entries : Filter)
    (on off : EntityRelations → Plan (List Predicate))
    (same : ∀ entity, on entity = starredAll <$> off entity) :
    (compiler.withWildcards true).level schema entries on =
      starredAll <$> (compiler.withWildcards false).level schema entries off := by
  simp only [level_as_scalars, level_scalars_starred, answer_map, same, map_bind, bind_map_left,
    map_pure, starred_all_append]
  rfl

mutual

theorem nested_predicates_starred (owner : EntityRelations) (entries : List (String × Value)) :
    (compiler.withWildcards true).nestedPredicates owner entries =
      starredAll <$> (compiler.withWildcards false).nestedPredicates owner entries := by
  match entries with
  | [] => rfl
  | (column, value) :: rest =>
      simp only [Compiler.nestedPredicates, nested_predicate_starred owner column value,
        nested_predicates_starred owner rest, map_bind, bind_map_left, map_pure,
        starred_all_append]
termination_by structural entries

theorem nested_predicate_starred (owner : EntityRelations) (column : String) (value : Value) :
    (compiler.withWildcards true).nestedPredicate owner column value =
      starredAll <$> (compiler.withWildcards false).nestedPredicate owner column value := by
  match value with
  | .null | .bool _ | .number _ | .string _ | .array _ => rfl
  | .object entries =>
      unfold Compiler.nestedPredicate
      cases owner.relation? column with
      | none => rfl
      | some relation =>
          have below := fun entity => nested_predicates_starred entity entries
          have level := level_starred compiler (compiler.registry.resolve relation.related) entries
            _ _ below
          simp only [Compiler.withWildcards] at level ⊢
          simp only [level, map_bind, bind_map_left, map_pure, starredAll,
            relation_predicate_starred]
termination_by structural value

end

theorem plan_starred (schema : EntitySchema) (filters : List Filter) :
    (compiler.withWildcards true).plan schema filters =
      CompiledFilter.starred <$> (compiler.withWildcards false).plan schema filters := by
  have below := fun entity => nested_predicates_starred compiler entity filters.flatten
  have level := level_starred compiler schema filters.flatten _ _ below
  simp only [Compiler.plan, Compiler.predicates, CompiledFilter.starred, level, map_bind,
    bind_map_left, map_pure, bind_assoc, pure_bind, starred_all_eq_map, List.length_map]

theorem compile_starred (schema : EntitySchema) (filters : List Filter) :
    (compiler.withWildcards true).compile schema filters =
      CompiledFilter.starred <$> (compiler.withWildcards false).compile schema filters := by
  rw [Compiler.compile, plan_starred, ← bind_pure_comp, run_bind]
  exact bind_pure_comp _ _

end

theorem scalar_rule_texts (column : ColumnRef) (value : Value) (predicate : Predicate)
    (rule : ScalarRule column false value predicate) :
    comparedTexts predicate = (entryText? (column.name, value)).toList := by
  cases rule with
  | null => rfl
  | like text on starred => cases on
  | list items literals read => rfl
  | equal value literal read unstarred =>
      cases value with
      | number number => cases number <;> cases read <;> rfl
      | bool value => cases read; rfl
      | string text => cases read; rfl
      | _ => cases read

section

variable (compiler : Compiler) (off : compiler.options.wildcards = false)

include off

theorem level_scalars_texts (schema : EntitySchema) (entity : EntityRelations) (entries : Filter)
    (scalars : List Predicate)
    (built : compiler.levelScalars schema entity entries = .ok scalars) :
    comparedTextsAll scalars = entries.filterMap entryText? := by
  induction entries using filter_induction generalizing scalars with
  | nil =>
      cases built
      rfl
  | plain column value rest plain ih =>
      obtain ⟨_, predicate, others, first, later, rfl⟩ :=
        (level_scalars_plain _ _ _ _ _ _ _ plain).mp built
      rw [off] at first
      have texts : comparedTexts predicate = (entryText? (column, value)).toList :=
        scalar_rule_texts _ value predicate ((scalar_rule_iff _ _ _ _ _).mp first)
      rw [comparedTextsAll, texts, ih others later, List.filterMap_cons]
      cases entryText? (column, value) <;> rfl
  | nested column inner rest _ ih =>
      exact ih scalars ((level_scalars_object _ _ _ _ _ _ _).mp built).2

theorem level_texts (schema : EntitySchema) (entries : Filter) (cache later : RelationCache)
    (asked : List Lookup) (predicates : List Predicate)
    (ends : (compiler.level schema entries fun entity =>
      compiler.nestedPredicates entity entries).Ends compiler.registry cache asked predicates
        later)
    (below : ∀ owner cache later asked predicates scalars,
      (compiler.nestedPredicates owner entries).Ends compiler.registry cache asked predicates
        later →
      compiler.levelScalars schema owner entries = .ok scalars →
      comparedTextsAll predicates = nestedTexts entries) :
    comparedTextsAll predicates = filterTexts entries := by
  obtain ⟨entity, middle, scalars, others, relational, _, built, deep, _, rfl⟩ :=
    level_parts compiler cache later asked schema entries _ predicates ends
  rw [compared_texts_append, level_scalars_texts compiler off schema entity entries scalars built,
    below entity middle later others relational scalars deep built]
  rfl

theorem nested_predicates_texts (entries : Filter) (schema : EntitySchema)
    (owner : EntityRelations) (cache later : RelationCache) (asked : List Lookup)
    (predicates scalars : List Predicate)
    (ends : (compiler.nestedPredicates owner entries).Ends compiler.registry cache asked
      predicates later)
    (built : compiler.levelScalars schema owner entries = .ok scalars) :
    comparedTextsAll predicates = nestedTexts entries := by
  induction entries using filter_induction generalizing schema owner cache later asked predicates
    scalars with
  | nil =>
      obtain ⟨rfl, _, _⟩ := (ends_pure_iff _ _ _ _ _ _).mp ends
      rfl
  | plain column value rest plain ih =>
      obtain ⟨middle, first, others, here, below, one, remaining, _, rfl⟩ :=
        nested_cons_parts compiler cache later asked owner column value rest predicates ends
      obtain ⟨rfl, _, _⟩ :=
        nested_plain_parts compiler cache middle first owner column value plain here one
      obtain ⟨_, _, tail, _, built, _⟩ := (level_scalars_plain _ _ _ _ _ _ _ plain).mp built
      have nothing : valueTexts value = [] := by
        cases value with
        | object inner => cases plain
        | _ => rfl
      rw [nestedTexts, nothing, List.nil_append, List.nil_append,
        ih schema owner middle later others below tail remaining built]
  | nested column inner rest ihInner ihRest =>
      obtain ⟨middle, first, others, here, below, one, remaining, _, rfl⟩ :=
        nested_cons_parts compiler cache later asked owner column (.object inner) rest predicates
          ends
      obtain ⟨⟨relation, found⟩, built⟩ := (level_scalars_object _ _ _ _ _ _ _).mp built
      obtain ⟨related, start, asked, nested, _, level, _, rfl⟩ :=
        nested_object_parts compiler cache middle first owner column inner relation found here one
      have inside : comparedTextsAll nested = filterTexts inner :=
        level_texts compiler off _ inner start middle asked nested level
          (ihInner (compiler.registry.resolve relation.related))
      rw [List.singleton_append, comparedTextsAll, relation_predicate_texts, inside, nestedTexts,
        ihRest schema owner middle later others below scalars remaining built]
      rfl

theorem compile_texts (schema : EntitySchema) (filters : List Filter) (session : Session)
    (compiled : CompiledFilter)
    (ended : (compiler.compile schema filters).outcome session = .ok compiled) :
    comparedTextsAll compiled.predicates = filterTexts filters.flatten := by
  have evaluated := (run_ok_iff compiler.registry _ session compiled).mp ended
  have ends := plan_ends_of_ok compiler.registry _ session.cache compiled evaluated
  have level := plan_parts compiler session.cache _ _ schema filters compiled ends
  exact level_texts compiler off schema filters.flatten session.cache _ _ compiled.predicates level
    (nested_predicates_texts compiler off filters.flatten schema)

end

theorem outcome_map {α β : Type} (x : FilterM α) (f : α → β) (session : Session) :
    (f <$> x).outcome session = (x.outcome session).map f ∧
      (f <$> x).after session = x.after session := by
  rw [← bind_pure_comp]
  constructor
  · rw [FilterM.outcome_bind]
    cases x.outcome session <;> rfl
  · rw [FilterM.after_bind]
    cases x.outcome session <;> rfl

theorem starred_answer_unchanged (answer : Except FilterError CompiledFilter)
    (texts : List (String × String))
    (compared : ∀ compiled, answer = .ok compiled → comparedTextsAll compiled.predicates = texts)
    (unstarred : ∀ text ∈ texts, '*' ∉ text.2.toList) :
    answer.map CompiledFilter.starred = answer := by
  cases answer with
  | error error => rfl
  | ok compiled =>
      have kept := starred_all_unchanged compiled.predicates
        (fun text member => unstarred text (compared compiled rfl ▸ member))
      rw [Except.map, CompiledFilter.starred, kept]

-- Either session makes its own choices of what to report. If they are the same, so are the errors.
theorem wildcards_change_starred_texts (compiler : Compiler) (schema : EntitySchema)
    (filters : List Filter) (session other : Session) (same : session.cache = other.cache) :
    let on := (compiler.withWildcards true).compile schema filters
    let off := (compiler.withWildcards false).compile schema filters
    let met := ((compiler.withWildcards false).plan schema filters).Meets compiler.registry
      session.cache
    let answers := fun answer => SameReport met (on.outcome other) answer ∧
      (session.choices = other.choices → on.outcome other = answer)
    answers ((off.outcome session).map CompiledFilter.starred) ∧
      (on.after other).cache = (off.after session).cache ∧
      (∀ compiled, off.outcome session = .ok compiled →
        comparedTextsAll compiled.predicates = filterTexts filters.flatten) ∧
      ((∀ text ∈ filterTexts filters.flatten, '*' ∉ text.2.toList) →
        answers (off.outcome session)) := by
  intro on off met answers
  let plan := (compiler.withWildcards false).plan schema filters
  obtain ⟨outcome, after⟩ := outcome_map off CompiledFilter.starred other
  rw [← compile_starred compiler schema filters] at outcome after
  have report : SameReport met (off.outcome other) (off.outcome session) := by
    have reported := run_same_report compiler.registry plan other session same.symm
    rwa [← same] at reported
  have starred : answers ((off.outcome session).map CompiledFilter.starred) := by
    constructor
    · rw [show on.outcome other = _ from outcome]
      exact same_report_map met _ _ report CompiledFilter.starred
    · intro choices
      have equal : off.outcome other = off.outcome session :=
        run_same_choices compiler.registry plan other session same.symm choices.symm
      exact outcome.trans (congrArg _ equal)
  have texts := compile_texts (compiler.withWildcards false) rfl schema filters session
  refine ⟨starred, ?_, texts, ?_⟩
  · rw [after]
    exact run_same_cache compiler.registry plan other session same.symm
  · intro unstarred
    exact starred_answer_unchanged _ _ texts unstarred ▸ starred

def notedSession : Session where
  journal := [⟨.debug, "relation cache reset"⟩]

def literalPeoplePredicates : List Predicate := [
  .isNull (qualified "people" "name"),
  .inQuery (qualified "people" "mentor_ref") (qualified "people" "id") "people"
    [.compare (qualified "people" "name") .equal (.text "A*")],
  .inQuery (qualified "people" "id") (qualified "person_tags" "Person_id") "person_tags"
    [.inQuery (qualified "person_tags" "Tag_id") (qualified "tags" "id") "tags"
      [.inQuery (qualified "tags" "id") (qualified "person_tags" "Tag_id") "person_tags"
        [.inQuery (qualified "person_tags" "Person_id") (qualified "people" "id") "people"
          [.isIn (qualified "people" "id") [.integer 7]]]]]]

def listedFilters : List Filter :=
  [[("name", .array [.string "A*"])], [("mentor", .object [("name", .string "A%")])]]

theorem people_starred_texts_change :
    let on := (peopleCompiler.withWildcards true).compile personSchema
    let off := (peopleCompiler.withWildcards false).compile personSchema
    ({} : Session).cache = notedSession.cache ∧
      (off peopleFilters).outcome {} = .ok ⟨literalPeoplePredicates⟩ ∧
      (on peopleFilters).outcome notedSession = .ok ⟨peoplePredicates⟩ ∧
      ((on peopleFilters).after notedSession).cache = ((off peopleFilters).after {}).cache ∧
      comparedTextsAll literalPeoplePredicates = filterTexts peopleFilters.flatten ∧
      (∀ text ∈ filterTexts listedFilters.flatten, '*' ∉ text.2.toList) ∧
      (on listedFilters).outcome notedSession = (off listedFilters).outcome {} := by
  intro on off
  have same : ({} : Session).cache = notedSession.cache := rfl
  have ended : (off peopleFilters).outcome {} = .ok ⟨literalPeoplePredicates⟩ := rfl
  have unstarred : ∀ text ∈ filterTexts listedFilters.flatten, '*' ∉ text.2.toList := by decide
  obtain ⟨⟨_, mapped⟩, cache, texts, _⟩ :=
    wildcards_change_starred_texts peopleCompiler personSchema peopleFilters {} notedSession same
  obtain ⟨_, _, _, unchanged⟩ :=
    wildcards_change_starred_texts peopleCompiler personSchema listedFilters {} notedSession same
  have starred := (mapped rfl).trans (congrArg (Except.map CompiledFilter.starred) ended)
  exact ⟨same, ended, starred, cache, texts _ ended, unstarred, (unchanged unstarred).2 rfl⟩

end NestedFilter
