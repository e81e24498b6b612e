import NestedFilter.Proofs.Level

set_option autoImplicit false

namespace NestedFilter

open Json (Value)
open Sql (Predicate)

section

variable {α β : Type} (registry : Registry)

def Plan.Ends (plan : Plan α) (cache : RelationCache) (asked : List Lookup) (a : α)
    (later : RelationCache) : Prop :=
  plan.eval registry cache = (.ok a, later) ∧ plan.lookups registry cache = asked

theorem ends_pure_iff (a b : α) (cache later : RelationCache) (asked : List Lookup) :
    (pure a : Plan α).Ends registry cache asked b later ↔
      a = b ∧ cache = later ∧ [] = asked := by
  simp [Plan.Ends, pure, Plan.eval, Plan.lookups, and_assoc]

theorem ends_answer_iff (result : Except FilterError α) (b : α) (cache later : RelationCache)
    (asked : List Lookup) :
    (Plan.answer result).Ends registry cache asked b later ↔
      result = .ok b ∧ cache = later ∧ [] = asked := by
  simp [Plan.Ends, Plan.eval, Plan.lookups, map_error_ok_iff, and_assoc]

theorem ends_record_iff (severity : Severity) (text : String) (cache later : RelationCache)
    (asked : List Lookup) (b : Unit) :
    (Plan.record severity text).Ends registry cache asked b later ↔ cache = later ∧ [] = asked := by
  simp [Plan.Ends, Plan.record, pure, Plan.eval, Plan.lookups]

theorem ends_relations_iff (naming : NamingStrategy) (schema : EntitySchema)
    (cache later : RelationCache) (asked : List Lookup) (found : EntityRelations) :
    (Plan.relations naming schema).Ends registry cache asked found later ↔
      Lookup.apply registry cache ⟨naming, schema⟩ = (.ok found, later) ∧
        [⟨naming, schema⟩] = asked := by
  simp only [Plan.Ends, Plan.relations, Plan.eval, Plan.lookups]
  cases Lookup.apply registry cache ⟨naming, schema⟩ with
  | mk result left => cases result <;> simp [pure, Plan.eval, Plan.lookups]

theorem eval_bind (plan : Plan α) (f : α → Plan β) (cache : RelationCache) :
    (plan >>= f).eval registry cache =
        (match plan.eval registry cache with
        | (.ok a, middle) => (f a).eval registry middle
        | (.error refusal, middle) => (.error refusal, middle)) ∧
      (plan >>= f).lookups registry cache =
        plan.lookups registry cache ++
          match plan.eval registry cache with
          | (.ok a, middle) => (f a).lookups registry middle
          | (.error _, _) => [] := by
  change (plan.bind f).eval registry cache = _ ∧ (plan.bind f).lookups registry cache = _
  induction plan generalizing cache with
  | answer result => cases result <;> exact ⟨rfl, rfl⟩
  | log severity text next ih => exact ih cache
  | lookup query next ih =>
      simp only [Plan.bind, Plan.eval, Plan.lookups]
      cases query.apply registry cache with
      | mk result middle =>
          cases result with
          | error collision => exact ⟨rfl, rfl⟩
          | ok found =>
              obtain ⟨result, asked⟩ := ih found middle
              exact ⟨result, congrArg (query :: ·) asked⟩

theorem eval_bind_pure (plan : Plan α) (f : α → β) (cache : RelationCache) :
    (plan >>= fun a => pure (f a)).eval registry cache =
      ((plan.eval registry cache).1.map f, (plan.eval registry cache).2) := by
  rw [(eval_bind registry plan _ cache).1]
  cases plan.eval registry cache with
  | mk result left => cases result <;> rfl

theorem ends_bind_iff (plan : Plan α) (f : α → Plan β) (cache later : RelationCache)
    (asked : List Lookup) (b : β) :
    (plan >>= f).Ends registry cache asked b later ↔
      ∃ a middle first others, plan.Ends registry cache first a middle ∧
        (f a).Ends registry middle others b later ∧ asked = first ++ others := by
  obtain ⟨result, lookups⟩ := eval_bind registry plan f cache
  simp only [Plan.Ends, result, lookups]
  cases plan.eval registry cache with
  | mk outcome middle =>
      cases outcome with
      | error error => simp
      | ok a =>
          constructor
          · intro ends
            exact ⟨a, middle, _, _, ⟨rfl, rfl⟩, ⟨ends.1, rfl⟩, ends.2.symm⟩
          · intro ends
            obtain ⟨_, _, _, _, ⟨same, rfl⟩, ⟨last, rfl⟩, rfl⟩ := ends
            cases same
            exact ⟨last, rfl⟩

end

theorem plan_ends_of_ok {α : Type} (registry : Registry) (plan : Plan α) (cache : RelationCache)
    (a : α) (ended : (plan.eval registry cache).1 = .ok a) :
    plan.Ends registry cache (plan.lookups registry cache) a (plan.eval registry cache).2 :=
  ⟨Prod.ext ended rfl, rfl⟩

section

variable (compiler : Compiler) (cache later : RelationCache) (asked : List Lookup)

theorem level_parts (schema : EntitySchema) (entries : Filter)
    (deeper : EntityRelations → Plan (List Predicate)) (predicates : List Predicate)
    (ends : (compiler.level schema entries deeper).Ends compiler.registry cache asked
      predicates later) :
    ∃ entity middle scalars others relational,
      Lookup.apply compiler.registry cache ⟨compiler.naming, schema⟩ = (.ok entity, middle) ∧
      compiler.levelScalars schema entity entries = .ok scalars ∧
      (deeper entity).Ends compiler.registry middle others relational later ∧
      asked = ⟨compiler.naming, schema⟩ :: others ∧ predicates = scalars ++ relational := by
  simp only [level_as_scalars, ends_bind_iff, ends_relations_iff, ends_answer_iff,
    ends_pure_iff] at ends
  obtain ⟨entity, middle, _, _, ⟨applied, rfl⟩, ⟨scalars, _, _, _, ⟨built, rfl, rfl⟩,
    ⟨relational, _, others, _, deep, ⟨rfl, rfl, rfl⟩, rfl⟩, rfl⟩, rfl⟩ := ends
  exact ⟨entity, middle, scalars, others, relational, applied, built, deep, by simp, rfl⟩

theorem nested_cons_parts (owner : EntityRelations) (column : String) (value : Value)
    (rest : Filter) (predicates : List Predicate)
    (ends : (compiler.nestedPredicates owner ((column, value) :: rest)).Ends compiler.registry
      cache asked predicates later) :
    ∃ middle first others here below,
      (compiler.nestedPredicate owner column value).Ends compiler.registry cache first here
        middle ∧
      (compiler.nestedPredicates owner rest).Ends compiler.registry middle others below later ∧
      asked = first ++ others ∧ predicates = here ++ below := by
  simp only [Compiler.nestedPredicates, ends_bind_iff, ends_pure_iff] at ends
  obtain ⟨here, middle, first, _, one, ⟨below, _, others, _, remaining, ⟨rfl, rfl, rfl⟩, rfl⟩,
    rfl⟩ := ends
  exact ⟨middle, first, others, here, below, one, remaining, by simp, rfl⟩

theorem nested_plain_parts (owner : EntityRelations) (column : String) (value : Value)
    (plain : isNested value = false) (predicates : List Predicate)
    (ends : (compiler.nestedPredicate owner column value).Ends compiler.registry cache asked
      predicates later) :
    predicates = [] ∧ later = cache ∧ asked = [] := by
  cases value with
  | object inner => cases plain
  | _ =>
      obtain ⟨rfl, rfl, rfl⟩ := (ends_pure_iff _ _ _ _ _ _).mp ends
      exact ⟨rfl, rfl, rfl⟩

theorem nested_object_parts (owner : EntityRelations) (column : String) (inner : Filter)
    (relation : Relation) (found : owner.relation? column = some relation)
    (predicates : List Predicate)
    (ends : (compiler.nestedPredicate owner column (.object inner)).Ends compiler.registry
      cache asked predicates later) :
    ∃ related middle others nested,
      Lookup.apply compiler.registry cache
        ⟨compiler.naming, compiler.registry.resolve relation.related⟩ = (.ok related, middle) ∧
      (compiler.level (compiler.registry.resolve relation.related) inner fun entity =>
        compiler.nestedPredicates entity inner).Ends compiler.registry middle others nested
          later ∧
      asked = ⟨compiler.naming, compiler.registry.resolve relation.related⟩ :: others ∧
      predicates = [relationPredicate owner related relation nested] := by
  simp only [Compiler.nestedPredicate, found, ends_bind_iff, ends_relations_iff,
    ends_record_iff, ends_pure_iff] at ends
  obtain ⟨related, middle, _, _, ⟨applied, rfl⟩, ⟨nested, _, others, _, deep,
    ⟨_, _, _, _, ⟨rfl, rfl⟩, ⟨rfl, rfl, rfl⟩, rfl⟩, rfl⟩, rfl⟩ := ends
  exact ⟨related, middle, others, nested, applied, deep, by simp, rfl⟩

theorem plan_parts (schema : EntitySchema) (filters : List Filter) (compiled : CompiledFilter)
    (ends : (compiler.plan schema filters).Ends compiler.registry cache asked compiled later) :
    (compiler.level schema filters.flatten fun entity =>
      compiler.nestedPredicates entity filters.flatten).Ends compiler.registry cache asked
        compiled.predicates later := by
  simp only [Compiler.plan, Compiler.predicates, bind_assoc, pure_bind, ends_bind_iff,
    ends_record_iff, ends_pure_iff] at ends
  obtain ⟨predicates, _, others, _, level, ⟨_, _, _, _, ⟨rfl, rfl⟩, ⟨rfl, rfl, rfl⟩, rfl⟩, rfl⟩ :=
    ends
  simpa using level

end

end NestedFilter
