import NestedFilter.Proofs.CacheSession
import NestedFilter.Proofs.ConditionTruth
import NestedFilter.Proofs.Entries
import NestedFilter.Proofs.PluginDirect

/-!
Queries whose nested filters are left to the plugin. It compiles the entries that want it one by
one; together with those that are lowered as they stand they ask what the whole mapping compiles to.
-/

set_option autoImplicit false

namespace NestedFilter

open Json (Value)
open Sql (Condition Predicate Select)

theorem unwanted_predicate (options : FilterOptions) (column : Sql.ColumnRef) (field : String)
    (value : Value) (unwanted : DeepFilter.wants options value = false) :
    scalarPredicate column field value options.wildcards =
      scalarPredicate column field value false := by
  cases value with
  | string text =>
      cases on : options.wildcards with
      | false => rfl
      | true =>
          have noPattern : wildcardPattern? text = none := by
            simpa [DeepFilter.wants, on] using unwanted
          simp [scalarPredicate, noPattern]
  | _ => rfl

theorem unwanted_plain (options : FilterOptions) (value : Value)
    (unwanted : DeepFilter.wants options value = false) : isNested value = false := by
  cases value with
  | object inner => cases unwanted
  | _ => rfl

-- The plugin compiles an entry as the compiler does by itself; the rest is lowered to the predicate
-- that compilation makes of it, for it has no wildcard that counts.
theorem entry_clause (compiler : Compiler) (context : QueryContext)
    (sameRegistry : context.registry = compiler.registry)
    (sameNaming : context.naming = compiler.naming) (column : String) (value : Value)
    (predicate : Predicate)
    (compiled : compiler.direct context.schema [[(column, value)]] = .ok ⟨[predicate]⟩) :
    ∃ clause,
      DeepFilter.directClause compiler.options context (.equals column value) = .ok clause ∧
      clause.lower (context.naming.table context.schema) = .ok (.ofPredicates [predicate]) := by
  cases wanted : DeepFilter.wants compiler.options value with
  | true =>
      refine ⟨.condition (.ofPredicates [predicate]), ?_, rfl⟩
      rw [DeepFilter.direct_wanted compiler.options context column value wanted]
      simp only [sameRegistry, sameNaming, compiled]
      rfl
  | false =>
      refine ⟨.equals column value,
        DeepFilter.direct_unwanted compiler.options context column value wanted, ?_⟩
      obtain ⟨entity, other, reflected, yields, same⟩ := (single_entry_ok_iff _ _ _ _).mp compiled
      cases same
      have plain := unwanted_plain compiler.options value wanted
      obtain ⟨_, built⟩ := (plain_entry_iff _ _ _ _ _ plain).mp yields
      obtain ⟨sameTable, _⟩ := reflect_parts _ _ _ _ reflected
      rw [sameTable, ← sameNaming, unwanted_predicate _ _ _ _ wanted] at built
      rw [Clause.lower, built]
      rfl

theorem entries_clauses (compiler : Compiler) (context : QueryContext)
    (sameRegistry : context.registry = compiler.registry)
    (sameNaming : context.naming = compiler.naming) (entries : Filter)
    (predicates : List Predicate)
    (compiled : List.Forall₂ (fun entry predicate =>
      compiler.direct context.schema [[entry]] = .ok ⟨[predicate]⟩) entries predicates) :
    ∃ clauses, DeepFilter.directClauses compiler.options context
        (entries.map fun entry => .equals entry.1 entry.2) = .ok clauses ∧
      Clause.lowerAll (context.naming.table context.schema) clauses =
        .ok (predicates.map fun predicate => .ofPredicates [predicate]) := by
  induction compiled with
  | nil => exact ⟨[], rfl, rfl⟩
  | cons single _ ih =>
      obtain ⟨clause, first, lowered⟩ :=
        entry_clause compiler context sameRegistry sameNaming _ _ _ single
      obtain ⟨clauses, remaining, others⟩ := ih
      refine ⟨clause :: clauses, ?_, ?_⟩
      · rw [List.map_cons, DeepFilter.direct_clauses_cons, first, remaining]
        rfl
      · rw [Clause.lowerAll, lowered, others]
        rfl

theorem wanted_entry_compiles (compiler : Compiler) (context : QueryContext)
    (sameRegistry : context.registry = compiler.registry)
    (sameNaming : context.naming = compiler.naming) (entries : Filter) (clauses : List Clause)
    (built : DeepFilter.directClauses compiler.options context
      (entries.map fun entry => .equals entry.1 entry.2) = .ok clauses)
    (entry : String × Value) (listed : entry ∈ entries)
    (wanted : DeepFilter.wants compiler.options entry.2 = true) :
    ∃ single, compiler.direct context.schema [[entry]] = .ok single := by
  induction entries generalizing clauses with
  | nil => cases listed
  | cons first rest ih =>
      rw [List.map_cons, DeepFilter.direct_clauses_cons, bind_ok_iff] at built
      obtain ⟨clause, one, remaining⟩ := built
      obtain ⟨others, more, _⟩ := (bind_ok_iff _ _ _).mp remaining
      rcases List.mem_cons.mp listed with rfl | later
      · rw [DeepFilter.direct_wanted _ _ _ _ wanted] at one
        simp only [sameRegistry, sameNaming] at one
        obtain ⟨single, compiled, _⟩ := (bind_ok_iff _ _ _).mp one
        exact ⟨single, compiled⟩
      · exact ih others more later

def deepQuery (naming : NamingStrategy) (options : FilterOptions) (filter : Filter) : SelectQuery :=
  .ofCalls [.withNaming naming, .usePlugin (DeepFilter.plugin options), .whereMap filter]

def mappingStatement (table : String) (predicates : List Predicate) : Select :=
  { Select.everythingFrom table with
    filter := some (.allOf [(Condition.ofPredicates predicates).toMember]) }

theorem lower_mapping (table : String) (clauses : List Clause) (predicates : List Predicate)
    (lowered : Clause.lowerAll table clauses =
      .ok (predicates.map fun predicate => .ofPredicates [predicate])) :
    Clause.lower table (.all [.all clauses]) =
      .ok (.allOf [(Condition.ofPredicates predicates).toMember]) := by
  have members : (predicates.map fun predicate => Condition.ofPredicates [predicate]).map
      Condition.toMember = predicates.map .predicate := by
    rw [List.map_map]
    rfl
  have inner : Clause.lower table (.all clauses) = .ok (.ofPredicates predicates) := by
    rw [Clause.lower, lowered]
    exact congrArg (fun list => Except.ok (Condition.allOf list)) members
  rw [Clause.lower, Clause.lowerAll, inner]
  rfl

theorem mapping_statement_built (compiler : Compiler) (schema : EntitySchema) (filter : Filter)
    (compiled : CompiledFilter) (built : compiler.direct schema [filter] = .ok compiled) :
    let query := deepQuery compiler.naming compiler.options filter
    ∃ predicates clauses, predicates.Perm compiled.predicates ∧
      DeepFilter.directClauses compiler.options (query.context compiler.registry schema)
        query.clauses = .ok clauses ∧
      query.finish (compiler.naming.table schema) clauses =
        .ok (mappingStatement (compiler.naming.table schema) predicates) := by
  intro query
  obtain ⟨_, entries⟩ := (direct_ok_iff_entries _ _ _ _).mp built
  have alone : [filter].flatten = filter := List.flatten_singleton
  have inOrder : filter.Perm (plainEntries [filter] ++ nestedEntries [filter]) := by
    simpa only [alone] using (sorted_entries_perm [filter]).symm
  obtain ⟨predicates, singles, same⟩ := List.perm_comp_forall₂ inOrder entries
  obtain ⟨clauses, rewritten, lowered⟩ :=
    entries_clauses compiler (query.context compiler.registry schema) rfl rfl filter predicates
      singles
  have mapped : DeepFilter.directClauses compiler.options (query.context compiler.registry schema)
      query.clauses = .ok [.all clauses] := by
    change DeepFilter.directClauses compiler.options (query.context compiler.registry schema)
      [.all (filter.map fun entry => .equals entry.1 entry.2)] = _
    rw [DeepFilter.direct_clauses_cons, DeepFilter.direct_all, rewritten]
    rfl
  refine ⟨predicates, [.all clauses], same, mapped, ?_⟩
  unfold SelectQuery.finish SelectQuery.restrictByClauses
  have together := lower_mapping (compiler.naming.table schema) clauses predicates lowered
  simp only [List.isEmpty_cons, Bool.false_eq_true, if_false, together]
  rfl

theorem nested_mapping_compiles (compiler : Compiler) (schema : EntitySchema) (filter : Filter)
    (clauses : List Clause) (nonempty : filter ≠ [])
    (nested : ∀ entry ∈ filter, isNested entry.2 = true)
    (rewritten : DeepFilter.directClauses compiler.options
      ((deepQuery compiler.naming compiler.options filter).context compiler.registry schema)
      [.all (filter.map fun entry => .equals entry.1 entry.2)] = .ok clauses) :
    ∃ compiled, compiler.direct schema [filter] = .ok compiled := by
  -- An entry that compiles shows that the root reflects, so one entry at least is needed here.
  rw [DeepFilter.direct_clauses_cons, bind_ok_iff] at rewritten
  obtain ⟨_, one, _⟩ := rewritten
  rw [DeepFilter.direct_all, bind_ok_iff] at one
  obtain ⟨items, built, _⟩ := one
  have singles : ∀ entry ∈ filter, ∃ single, compiler.direct schema [[entry]] = .ok single := by
    intro entry listed
    obtain ⟨inner, object⟩ := nested_value entry.2 (nested entry listed)
    have wanted : DeepFilter.wants compiler.options entry.2 = true := by
      rw [object]
      rfl
    exact wanted_entry_compiles compiler _ rfl rfl filter items built entry listed wanted
  obtain ⟨first, listed⟩ := List.exists_mem_of_ne_nil filter nonempty
  obtain ⟨single, compiled⟩ := singles first listed
  obtain ⟨entity, _, reflected, _⟩ := (single_entry_ok_iff _ _ _ _).mp compiled
  refine (direct_succeeds_iff_entries compiler schema [filter]).mpr ⟨⟨entity, reflected⟩, ?_⟩
  intro mapping member entry inMapping
  obtain rfl : mapping = filter := List.mem_singleton.mp member
  exact singles entry inMapping

theorem mapping_statement_leaves (table : String) (predicates : List Predicate) :
    (mappingStatement table predicates).leaves = predicates.map .predicate := by
  have flat : (Condition.ofPredicates predicates).toMember.leaves = predicates.map .predicate := by
    rw [Condition.ofPredicates, Sql.to_member_leaves, Sql.predicate_leaves]
  change (Condition.allOf [(Condition.ofPredicates predicates).toMember]).leaves = _
  rw [Sql.all_of_leaves, Sql.Member.leavesOf, flat, Sql.Member.leavesOf, List.append_nil]

theorem select_all_leaves (compiled : CompiledFilter) (naming : NamingStrategy)
    (schema : EntitySchema) :
    (compiled.selectAll naming schema).leaves = compiled.predicates.map .predicate := by
  obtain ⟨predicates⟩ := compiled
  cases predicates with
  | nil => rfl
  | cons predicate rest =>
      change (Condition.ofPredicates (predicate :: rest)).leaves = _
      rw [Condition.ofPredicates, Sql.all_of_leaves, Sql.predicate_leaves]

def HoldsReflections (registry : Registry) (roots : List EntitySchema) (cache : RelationCache) :
    Prop :=
  ∀ (settings : SnakeCaseNaming) (schema : EntitySchema) (found : EntityRelations),
    Reaches registry roots schema →
    cache.find? (RelationCache.key settings.strategy schema) = some found →
    reflect registry settings.strategy schema = .ok found

theorem faithful_of_reflections (registry : Registry) (roots : List EntitySchema)
    (cache : RelationCache) (coherent : Coherent registry roots)
    (remembered : HoldsReflections registry roots cache) :
    Faithful registry (sessionLookups registry roots coherent).includes cache := by
  intro naming schema found included search
  obtain ⟨⟨settings, rfl⟩, reached⟩ := included
  exact remembered settings schema found reached search

theorem plugin_query_agrees (registry : Registry) (schema : EntitySchema)
    (settings : SnakeCaseNaming) (options : FilterOptions) (filter : Filter)
    (session running : Session) (coherent : Coherent registry [schema])
    (remembered : HoldsReflections registry [schema] session.cache)
    (running_remembered : HoldsReflections registry [schema] running.cache) :
    (∀ compiled,
      (Compiler.compile ⟨registry, settings.strategy, options⟩ schema [filter]).outcome session =
        .ok compiled →
      ∃ statement,
        ((deepQuery settings.strategy options filter).statement registry schema).outcome running =
          .ok statement ∧
        statement.table = settings.strategy.table schema ∧
        (∀ engine database row, statement.Keeps engine database row ↔
          ∀ predicate ∈ compiled.predicates,
            predicate.truth engine database [⟨settings.strategy.table schema, row⟩] = .holds) ∧
        statement.leaves.Perm (compiled.selectAll settings.strategy schema).leaves) ∧
    (filter ≠ [] → (∀ entry ∈ filter, isNested entry.2 = true) → ∀ statement,
      ((deepQuery settings.strategy options filter).statement registry schema).outcome running =
        .ok statement →
      ∃ compiled,
        (Compiler.compile ⟨registry, settings.strategy, options⟩ schema [filter]).outcome session =
          .ok compiled) := by
  let compiler : Compiler := ⟨registry, settings.strategy, options⟩
  let lookups := sessionLookups registry [schema] coherent
  have included : lookups.includes settings.strategy schema :=
    ⟨⟨settings, rfl⟩, .root schema (List.mem_singleton.mpr rfl)⟩
  have compilation : ∀ compiled, (compiler.compile schema [filter]).outcome session =
      .ok compiled ↔ compiler.direct schema [filter] = .ok compiled := fun compiled =>
    run_ok_iff_direct registry lookups.includes lookups.unambiguous _ session compiled
      (lookups_asked compiler lookups schema [filter] included)
      (faithful_of_reflections registry [schema] session.cache coherent remembered)
  have query := fun statement => SelectQuery.statement_ok_iff
    (deepQuery settings.strategy options filter) options registry schema lookups running statement
    rfl included
    (faithful_of_reflections registry [schema] running.cache coherent running_remembered)
  simp only [compiler] at compilation
  simp only [compilation, query]
  constructor
  · intro compiled built
    obtain ⟨predicates, clauses, same, rewritten, finished⟩ :=
      mapping_statement_built compiler schema filter compiled built
    refine ⟨_, ⟨clauses, rewritten, finished⟩, rfl, ?_, ?_⟩
    · intro engine database row
      rw [Sql.keeps_iff_leaves, mapping_statement_leaves, Sql.predicates_hold]
      simp only [same.mem_iff]
      rfl
    · rw [mapping_statement_leaves, select_all_leaves]
      exact same.map _
  · intro nonempty nested statement built
    obtain ⟨clauses, rewritten, _⟩ := built
    exact nested_mapping_compiles compiler schema filter clauses nonempty nested rewritten

def mentorMapping : Filter := [
  ("mentor", .object [("name", .string "A*")]), ("name", .string "B*"), ("tags", .object [])]

theorem people_query_agrees :
    Coherent peopleRegistry [personSchema] ∧
      HoldsReflections peopleRegistry [personSchema] ({} : Session).cache ∧
      ∃ compiled statement,
        (Compiler.compile ⟨peopleRegistry, colonNaming.strategy, { wildcards := true }⟩ personSchema
          [mentorMapping]).outcome {} = .ok compiled ∧
        ((deepQuery colonNaming.strategy { wildcards := true } mentorMapping).statement
          peopleRegistry personSchema).outcome {} = .ok statement ∧
        statement.table = "people" ∧
        (∀ engine database row, statement.Keeps engine database row ↔
          ∀ predicate ∈ compiled.predicates,
            predicate.truth engine database [⟨"people", row⟩] = .holds) ∧
        statement.leaves.Perm (compiled.selectAll colonNaming.strategy personSchema).leaves := by
  have remembered : HoldsReflections peopleRegistry [personSchema] ({} : Session).cache := by
    intro settings schema found _ search
    cases search
  have agrees := plugin_query_agrees peopleRegistry personSchema colonNaming { wildcards := true }
    mentorMapping {} {} people_coherent remembered remembered
  have accepted : ∃ compiled, (Compiler.compile ⟨peopleRegistry, colonNaming.strategy,
      { wildcards := true }⟩ personSchema [mentorMapping]).outcome {} = .ok compiled := ⟨_, rfl⟩
  obtain ⟨compiled, built⟩ := accepted
  obtain ⟨statement, made, table, rows, leaves⟩ := agrees.1 compiled built
  exact ⟨people_coherent, remembered, compiled, statement, built, made, table, rows, leaves⟩

end NestedFilter
