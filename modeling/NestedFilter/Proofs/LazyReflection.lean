import NestedFilter.Proofs.History
import NestedFilter.Proofs.PlanEnd
import NestedFilter.Proofs.Visits

/-!
Reflection on demand: a compilation adds an entry for every entity that its filter visits and the
cache did not hold, and for no other. Until the next reset the same compilation finds all it needs.
-/

set_option autoImplicit false

namespace NestedFilter

open Json (Value)
open Sql (Predicate)

def RelationCache.known (cache : RelationCache) (naming : NamingStrategy)
    (schema : EntitySchema) : Option EntityRelations :=
  cache.find? (RelationCache.key naming schema)

theorem ends_extends {α : Type} (registry : Registry) (plan : Plan α) (cache later : RelationCache)
    (asked : List Lookup) (a : α) (ends : plan.Ends registry cache asked a later) :
    cache.Extends later := by
  have extended := eval_extends registry plan cache
  rw [ends.1] at extended
  exact extended

section

variable (compiler : Compiler) (last : RelationCache)

-- The lookups of nested filters, read off a later cache that has kept every entry: what a lookup
-- found still stands there.
def LookupsLead (owner : EntityRelations) (entries : Filter) : Prop :=
  ∀ cache later asked predicates,
    (compiler.nestedPredicates owner entries).Ends compiler.registry cache asked predicates
      later → later.Extends last →
    ∀ lookup, lookup ∈ asked ↔ lookup.naming = compiler.naming ∧
      Leads compiler.registry (last.known compiler.naming) owner entries lookup.schema

theorem level_lookups_visited (schema : EntitySchema) (entries : Filter)
    (cache later : RelationCache) (asked : List Lookup) (predicates : List Predicate)
    (ends : (compiler.level schema entries fun entity =>
      compiler.nestedPredicates entity entries).Ends compiler.registry cache asked predicates
        later)
    (kept : later.Extends last) (below : ∀ entity, LookupsLead compiler last entity entries)
    (lookup : Lookup) :
    lookup ∈ asked ↔ lookup.naming = compiler.naming ∧
      Visited compiler.registry (last.known compiler.naming) schema entries lookup.schema := by
  obtain ⟨entity, middle, _, others, _, applied, _, deep, rfl, _⟩ :=
    level_parts compiler cache later asked schema entries _ predicates ends
  have stored := apply_found compiler.registry cache ⟨compiler.naming, schema⟩ middle entity applied
  have known : last.known compiler.naming schema = some entity :=
    kept _ _ (ends_extends _ _ middle later others _ deep _ _ stored)
  rw [List.mem_cons, below entity middle later others _ deep kept lookup]
  simp only [Visited, known, Option.some.injEq, exists_eq_left']
  constructor
  · rintro (rfl | leads)
    · exact ⟨rfl, .inl rfl⟩
    · exact ⟨leads.1, .inr leads.2⟩
  · rintro ⟨naming, same | leads⟩
    · exact .inl (by cases lookup; cases naming; cases same; rfl)
    · exact .inr ⟨naming, leads⟩

theorem object_lookups_visited (owner : EntityRelations) (column : String) (inner : Filter)
    (cache later : RelationCache) (asked : List Lookup) (predicates : List Predicate)
    (ends : (compiler.nestedPredicate owner column (.object inner)).Ends compiler.registry
      cache asked predicates later)
    (kept : later.Extends last) (below : ∀ entity, LookupsLead compiler last entity inner)
    (lookup : Lookup) :
    lookup ∈ asked ↔ lookup.naming = compiler.naming ∧
      ∃ relation, owner.relation? column = some relation ∧
        Visited compiler.registry (last.known compiler.naming)
          (compiler.registry.resolve relation.related) inner lookup.schema := by
  cases found : owner.relation? column with
  | none =>
      simp only [Compiler.nestedPredicate, found, ends_pure_iff] at ends
      simp [← ends.2.2]
  | some relation =>
      obtain ⟨related, middle, others, nested, _, level, rfl, _⟩ :=
        nested_object_parts compiler cache later asked owner column inner relation found
          predicates ends
      rw [List.mem_cons, level_lookups_visited compiler last _ inner middle later others nested
        level kept below lookup]
      simp only [Option.some.injEq, exists_eq_left']
      constructor
      · rintro (rfl | visited)
        · exact ⟨rfl, .inl rfl⟩
        · exact visited
      · exact .inr

theorem nested_lookups_lead (entries : Filter) (owner : EntityRelations) :
    LookupsLead compiler last owner entries := by
  induction entries using filter_induction generalizing owner with
  | nil =>
      intro cache later asked predicates ends _ lookup
      obtain ⟨_, _, rfl⟩ := (ends_pure_iff _ _ _ _ _ _).mp ends
      simp [leads_nothing]
  | plain column value rest plain ih =>
      intro cache later asked predicates ends kept lookup
      obtain ⟨middle, first, others, here, below, one, remaining, rfl, _⟩ :=
        nested_cons_parts compiler cache later asked owner column value rest predicates ends
      obtain ⟨_, rfl, rfl⟩ :=
        nested_plain_parts compiler cache middle first owner column value plain here one
      rw [List.nil_append, leads_plain_iff _ _ _ _ _ _ plain]
      exact ih owner _ later others below remaining kept lookup
  | nested column inner rest ihInner ihRest =>
      intro cache later asked predicates ends kept lookup
      obtain ⟨middle, first, others, here, below, one, remaining, rfl, _⟩ :=
        nested_cons_parts compiler cache later asked owner column (.object inner) rest predicates
          ends
      have middleKept := extends_trans middle later last
        (ends_extends _ _ middle later others below remaining) kept
      rw [List.mem_append, leads_object_iff, and_or_left,
        ihRest owner middle later others below remaining kept lookup,
        object_lookups_visited compiler last owner column inner cache middle first here one
          middleKept ihInner lookup]

end

def Settled {α : Type} (result : Except FilterError α) : Prop :=
  ∀ entity column, result ≠ .error (.nameCollision entity column)

def NoCollision {α : Type} (result : Except Refusal α) : Prop :=
  ∀ collision, result ≠ .error (.collided collision)

theorem no_collision_of_settled {α : Type} (result : Except Refusal α) (choice : Nat)
    (settled : Settled (result.mapError (Refusal.report choice))) : NoCollision result := by
  rintro collision rfl
  exact settled _ _ rfl

theorem report_without_collision {α : Type} (result : Except Refusal α) (clear : NoCollision result)
    (choice other : Nat) :
    result.mapError (Refusal.report choice) = result.mapError (Refusal.report other) := by
  rcases same_report_of_result (fun _ => False) result clear choice other with
    same | ⟨_, _, _, no, _⟩
  · exact same
  · exact no.elim

theorem cleared_lookup {α : Type} (registry : Registry) (cache : RelationCache) (asked : Lookup)
    (next : EntityRelations → Plan α)
    (clear : NoCollision ((Plan.lookup asked next).eval registry cache).1) :
    ∃ found middle, asked.apply registry cache = (.ok found, middle) ∧
      (Plan.lookup asked next).eval registry cache = (next found).eval registry middle ∧
      (Plan.lookup asked next).lookups registry cache =
        asked :: (next found).lookups registry middle := by
  rw [Plan.eval] at clear
  rw [Plan.eval, Plan.lookups]
  rcases apply_cases registry cache asked with ⟨found, _, applied⟩ | ⟨found, _, _, applied⟩ |
    ⟨collision, _, _, applied⟩
  · rw [applied]
    exact ⟨found, _, rfl, rfl, rfl⟩
  · rw [applied]
    exact ⟨found, _, rfl, rfl, rfl⟩
  · rw [applied] at clear
    exact absurd rfl (clear collision)

theorem eval_again {α : Type} (registry : Registry) (plan : Plan α) (cache later : RelationCache)
    (clear : NoCollision (plan.eval registry cache).1)
    (kept : (plan.eval registry cache).2.Extends later) :
    plan.eval registry later = ((plan.eval registry cache).1, later) := by
  induction plan generalizing cache with
  | answer result => rfl
  | log severity text next ih => exact ih cache clear kept
  | lookup asked next ih =>
      obtain ⟨found, middle, applied, evaluated, _⟩ :=
        cleared_lookup registry cache asked next clear
      rw [evaluated] at clear kept ⊢
      have stored := apply_found registry cache asked middle found applied
      have between := eval_extends registry (next found) middle
      have hit := apply_hit registry later asked found (kept _ _ (between _ _ stored))
      rw [Plan.eval, hit]
      exact ih found middle clear kept

structure Adds (registry : Registry) (cache later : RelationCache) (asked : List Lookup)
    (added : List (CacheKey × EntityRelations)) : Prop where
  entries : later.entries = cache.entries ++ added
  counted : later.reflections = cache.reflections + added.length
  distinct : (added.map (·.1)).Nodup
  keys : ∀ key, key ∈ added.map (·.1) ↔
    cache.find? key = none ∧ ∃ lookup ∈ asked, lookup.key = key
  reflected : ∀ entry ∈ added, ∃ lookup ∈ asked, lookup.key = entry.1 ∧
    lookup.reflection registry = .ok entry.2

section

variable (registry : Registry) (cache later : RelationCache) (asked : Lookup)
  (others : List Lookup) (added : List (CacheKey × EntityRelations)) (found : EntityRelations)

theorem adds_after_hit (search : cache.find? asked.key = some found)
    (adds : Adds registry cache later others added) :
    Adds registry cache later (asked :: others) added := by
  refine ⟨adds.entries, adds.counted, adds.distinct, ?_, ?_⟩
  · intro key
    rw [adds.keys key, List.exists_mem_cons_iff]
    constructor
    · rintro ⟨absent, listed⟩
      exact ⟨absent, .inr listed⟩
    · rintro ⟨absent, rfl | listed⟩
      · rw [search] at absent
        cases absent
      · exact ⟨absent, listed⟩
  · intro entry member
    obtain ⟨lookup, listed, same⟩ := adds.reflected entry member
    exact ⟨lookup, List.mem_cons_of_mem asked listed, same⟩

theorem adds_after_miss (search : cache.find? asked.key = none)
    (reflected : asked.reflection registry = .ok found)
    (adds : Adds registry ⟨cache.entries ++ [(asked.key, found)], cache.reflections + 1⟩ later
      others added) :
    Adds registry cache later (asked :: others) ((asked.key, found) :: added) := by
  have keys : ∀ key, key ∈ added.map (·.1) ↔
      (asked.key ≠ key ∧ cache.find? key = none) ∧ ∃ lookup ∈ others, lookup.key = key := by
    intro key
    rw [adds.keys key, find_append]
    by_cases same : asked.key = key <;> simp [same]
  have fresh : asked.key ∉ added.map (·.1) := by
    intro listed
    exact ((keys asked.key).mp listed).1.1 rfl
  refine ⟨?_, ?_, List.nodup_cons.mpr ⟨fresh, adds.distinct⟩, ?_, ?_⟩
  · rw [adds.entries, List.append_assoc]
    rfl
  · have counted := adds.counted
    simp only [List.length_cons] at counted ⊢
    omega
  · intro key
    rw [List.map_cons, List.mem_cons, keys key, List.exists_mem_cons_iff]
    by_cases same : asked.key = key
    · simp [← same, search]
    · have other : key ≠ asked.key := fun equal => same equal.symm
      simp [same, other]
  · intro entry member
    rcases List.mem_cons.mp member with rfl | later
    · exact ⟨asked, List.mem_cons_self, rfl, reflected⟩
    · obtain ⟨lookup, listed, same⟩ := adds.reflected entry later
      exact ⟨lookup, List.mem_cons_of_mem asked listed, same⟩

end

theorem cleared_adds {α : Type} (registry : Registry) (plan : Plan α) (cache : RelationCache)
    (clear : NoCollision (plan.eval registry cache).1) :
    ∃ added, Adds registry cache (plan.eval registry cache).2 (plan.lookups registry cache)
      added := by
  induction plan generalizing cache with
  | answer result =>
      refine ⟨[], ?_, rfl, List.nodup_nil, ?_, nofun⟩
      · simp [Plan.eval]
      · simp [Plan.lookups]
  | log severity text next ih => exact ih cache clear
  | lookup asked next ih =>
      obtain ⟨found, middle, answered, evaluated, lookups⟩ :=
        cleared_lookup registry cache asked next clear
      rw [evaluated] at clear
      rw [evaluated, lookups]
      obtain ⟨added, adds⟩ := ih found middle clear
      rcases apply_cases registry cache asked with ⟨entity, search, applied⟩ |
        ⟨entity, search, reflected, applied⟩ | ⟨_, _, _, applied⟩
      · cases answered.symm.trans applied
        exact ⟨added, adds_after_hit registry cache _ asked _ added found search adds⟩
      · cases answered.symm.trans applied
        exact ⟨(asked.key, found) :: added,
          adds_after_miss registry cache _ asked _ added found search reflected adds⟩
      · cases answered.symm.trans applied

theorem plan_lookups_visited (compiler : Compiler) (root : EntitySchema) (filters : List Filter)
    (cache : RelationCache) (compiled : CompiledFilter)
    (ended : ((compiler.plan root filters).eval compiler.registry cache).1 = .ok compiled)
    (lookup : Lookup) :
    lookup ∈ (compiler.plan root filters).lookups compiler.registry cache ↔
      lookup.naming = compiler.naming ∧
        Visited compiler.registry
          (((compiler.plan root filters).eval compiler.registry cache).2.known compiler.naming)
          root filters.flatten lookup.schema := by
  have ends := plan_ends_of_ok compiler.registry _ cache compiled ended
  have level := plan_parts compiler cache _ _ root filters compiled ends
  exact level_lookups_visited compiler _ root filters.flatten cache _ _ compiled.predicates level
    (extends_refl _) (nested_lookups_lead compiler _ filters.flatten) lookup

theorem calls_extend (registry : Registry) (calls : List CacheCall) (session : Session)
    (keep : ∀ call ∈ calls, call ≠ .reset) :
    session.cache.Extends (CacheCall.runAll registry calls session).2.cache := by
  induction calls generalizing session with
  | nil => exact extends_refl session.cache
  | cons call rest ih =>
      have first := call_extends registry call session (keep call List.mem_cons_self)
      have others := ih (call.run registry session).2
        (fun other listed => keep other (List.mem_cons_of_mem call listed))
      exact extends_trans _ _ _ first others

-- The calls in between may resolve references in their own way, and so see other schemas.
theorem compile_reflects_visited_once (compiler : Compiler) (root : EntitySchema)
    (filters : List Filter) (session : Session) :
    let compile := compiler.compile root filters
    let left := (compile.after session).cache
    (∀ compiled, compile.outcome session = .ok compiled →
      ∃ asked added, Adds compiler.registry session.cache left asked added ∧
        ∀ lookup, lookup ∈ asked ↔ lookup.naming = compiler.naming ∧
          Visited compiler.registry (left.known compiler.naming) root filters.flatten
            lookup.schema) ∧
      (Settled (compile.outcome session) →
        ∀ (registry : Registry) (calls : List CacheCall), (∀ call ∈ calls, call ≠ .reset) →
          let later := (CacheCall.runAll registry calls (compile.after session)).2
          compile.outcome later = compile.outcome session ∧
            (compile.after later).cache = later.cache) := by
  intro compile left
  let plan := compiler.plan root filters
  have cache : left = (plan.eval compiler.registry session.cache).2 :=
    run_after compiler.registry plan session
  refine ⟨?_, ?_⟩
  · intro compiled ended
    have evaluated := (run_ok_iff compiler.registry plan session compiled).mp ended
    have clear : NoCollision (plan.eval compiler.registry session.cache).1 := by
      rw [evaluated]
      exact fun _ => nofun
    obtain ⟨added, adds⟩ := cleared_adds compiler.registry plan session.cache clear
    rw [cache]
    exact ⟨_, added, adds,
      plan_lookups_visited compiler root filters session.cache compiled evaluated⟩
  · intro settled registry calls keep later
    have outcome : compile.outcome session = _ := (run_eval compiler.registry plan session).1
    have outcomeLater : compile.outcome later = _ := (run_eval compiler.registry plan later).1
    have clear := no_collision_of_settled _ _ (outcome ▸ settled)
    have kept := calls_extend registry calls (compile.after session) keep
    change left.Extends later.cache at kept
    rw [cache] at kept
    have again := eval_again compiler.registry plan session.cache later.cache clear kept
    have cacheLater : (compile.after later).cache = _ := run_after compiler.registry plan later
    refine ⟨?_, by rw [cacheLater, again]⟩
    rw [outcomeLater, outcome, again]
    exact report_without_collision _ clear _ _

def staleTag : EntityRelations where
  entity := "Tag"
  table := "old_tags"
  primaryKey := "key"
  relations := [("people", ⟨⟨"Person", "Person"⟩, "tag_ref", .toMany⟩)]
  columns := ["id"]

def staleSession : Session where
  cache := ⟨[(RelationCache.key verbatim tagSchema, staleTag)], 5⟩

def stalePredicates : List Predicate := [
  .isNull (Sql.qualified "people" "name"),
  .inQuery (Sql.qualified "people" "mentor_ref") (Sql.qualified "people" "id") "people"
    [.like (Sql.qualified "people" "name") "A%"],
  .inQuery (Sql.qualified "people" "id") (Sql.qualified "person_tags" "Person_id") "person_tags"
    [.inQuery (Sql.qualified "person_tags" "Tag_id") (Sql.qualified "old_tags" "key") "old_tags"
      [.inQuery (Sql.qualified "old_tags" "key") (Sql.qualified "people" "tag_ref") "people"
        [.isIn (Sql.qualified "people" "id") [.integer 7]]]]]

def laterCalls : List CacheCall := [
  .lookup verbatim { name := "Person" },
  .compile colonNaming.strategy {} tagSchema [[("people", .null)]]]

theorem stale_people_reflected_once :
    let compile := peopleCompiler.compile personSchema peopleFilters
    let left := (compile.after staleSession).cache
    let later := (CacheCall.runAll peopleRegistry laterCalls (compile.after staleSession)).2
    compile.outcome staleSession = .ok ⟨stalePredicates⟩ ∧
      (∃ asked added, Adds peopleRegistry staleSession.cache left asked added ∧
        ∀ lookup, lookup ∈ asked ↔ lookup.naming = verbatim ∧
          Visited peopleRegistry (left.known verbatim) personSchema peopleFilters.flatten
            lookup.schema) ∧
      (∀ call ∈ laterCalls, call ≠ .reset) ∧
      compile.outcome later = .ok ⟨stalePredicates⟩ ∧
      (compile.after later).cache = later.cache := by
  intro compile left later
  have ended : compile.outcome staleSession = .ok ⟨stalePredicates⟩ := rfl
  have settled : Settled (compile.outcome staleSession) := by
    rw [ended]
    exact fun _ _ => nofun
  have keep : ∀ call ∈ laterCalls, call ≠ .reset := by simp [laterCalls]
  obtain ⟨adds, again⟩ :=
    compile_reflects_visited_once peopleCompiler personSchema peopleFilters staleSession
  obtain ⟨same, unchanged⟩ := again settled peopleRegistry laterCalls keep
  exact ⟨ended, adds _ ended, keep, same.trans ended, unchanged⟩

end NestedFilter
