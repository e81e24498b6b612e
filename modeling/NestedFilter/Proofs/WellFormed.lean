import NestedFilter.Proofs.Rules

/-!
Well-formed mappings, by the columns and relations that reflection finds, and that they are just
the mappings that compile.
-/

set_option autoImplicit false

namespace NestedFilter

open Json (Value)
open Sql (Predicate qualified)

def IsScalar : Value → Prop
  | .string _ => True
  | .number _ => True
  | .bool _ => True
  | _ => False

mutual

inductive WellFormed (registry : Registry) (naming : NamingStrategy) :
    EntitySchema → Filter → Prop where
  | mapping (schema : EntitySchema) (entity : EntityRelations) (entries : Filter)
      (reflected : reflect registry naming schema = .ok entity)
      (fit : ∀ entry ∈ entries, Fits registry naming entity entry.1 entry.2) :
      WellFormed registry naming schema entries

inductive Fits (registry : Registry) (naming : NamingStrategy) :
    EntityRelations → String → Value → Prop where
  | nested (entity : EntityRelations) (column : String) (relation : Relation) (inner : Filter)
      (found : entity.relation? column = some relation)
      (below : WellFormed registry naming (registry.resolve relation.related) inner) :
      Fits registry naming entity column (.object inner)
  | list (entity : EntityRelations) (column : String) (items : List Value)
      (declared : entity.hasColumn column = true) (scalar : ∀ item ∈ items, IsScalar item) :
      Fits registry naming entity column (.array items)
  | single (entity : EntityRelations) (column : String) (value : Value)
      (declared : entity.hasColumn column = true) (scalar : IsScalar value ∨ value = .null) :
      Fits registry naming entity column value

end

theorem literal_exists_iff (value : Value) :
    (∃ literal, literalOf? value = some literal) ↔ IsScalar value := by
  cases value with
  | number value => cases value <;> simp [literalOf?, IsScalar]
  | _ => simp [literalOf?, IsScalar]

theorem literals_exist_iff (items : List Value) :
    (∃ literals : List Sql.Literal, items.map literalOf? = literals.map some) ↔
      ∀ item ∈ items, IsScalar item := by
  induction items with
  | nil =>
      constructor
      · intro _ item member
        cases member
      · intro _
        exact ⟨[], rfl⟩
  | cons item rest ih =>
      rw [List.forall_mem_cons, ← ih, ← literal_exists_iff]
      constructor
      · intro listed
        obtain ⟨literals, read⟩ := listed
        cases literals with
        | nil => cases read
        | cons literal others =>
            obtain ⟨first, remaining⟩ := List.cons.inj read
            exact ⟨⟨literal, first⟩, others, remaining⟩
      · intro scalars
        obtain ⟨⟨literal, first⟩, others, remaining⟩ := scalars
        exact ⟨literal :: others, by rw [List.map_cons, List.map_cons, first, remaining]⟩

theorem scalar_rule_exists_iff (column : Sql.ColumnRef) (wildcards : Bool) (value : Value) :
    (∃ predicate, ScalarRule column wildcards value predicate) ↔
      IsScalar value ∨ value = .null ∨
        ∃ items, value = .array items ∧ ∀ item ∈ items, IsScalar item := by
  constructor
  · intro ruled
    obtain ⟨_, rule⟩ := ruled
    cases rule with
    | null => exact .inr (.inl rfl)
    | like text _ _ => exact .inl trivial
    | equal _ literal read _ => exact .inl ((literal_exists_iff value).mp ⟨literal, read⟩)
    | list items literals read =>
        exact .inr (.inr ⟨items, rfl, (literals_exist_iff items).mp ⟨literals, read⟩⟩)
  · intro scalar
    obtain scalar | rfl | ⟨items, rfl, scalar⟩ := scalar
    · obtain ⟨literal, read⟩ := (literal_exists_iff value).mpr scalar
      by_cases like : ∃ text, value = .string text ∧ wildcards = true ∧ '*' ∈ text.toList
      · obtain ⟨text, rfl, on, starred⟩ := like
        exact ⟨_, .like text on starred⟩
      · exact ⟨_, .equal value literal read
          fun text same on starred => like ⟨text, same, on, starred⟩⟩
    · exact ⟨_, .null⟩
    · obtain ⟨literals, read⟩ := (literals_exist_iff items).mpr scalar
      exact ⟨_, .list items literals read⟩

theorem fits_plain_iff (compiler : Compiler) (entity : EntityRelations) (column : String)
    (value : Value) (plain : isNested value = false) :
    Fits compiler.registry compiler.naming entity column value ↔
      entity.hasColumn column = true ∧ ∃ predicate,
        scalarPredicate (qualified entity.table column) column value compiler.options.wildcards =
          .ok predicate := by
  simp only [scalar_rule_iff, scalar_rule_exists_iff]
  constructor
  · intro fits
    cases fits with
    | nested => simp [isNested] at plain
    | list _ _ items declared scalar => exact ⟨declared, .inr (.inr ⟨items, rfl, scalar⟩)⟩
    | single _ _ _ declared scalar =>
        rcases scalar with scalar | null
        · exact ⟨declared, .inl scalar⟩
        · exact ⟨declared, .inr (.inl null)⟩
  · intro fits
    obtain ⟨declared, scalar | null | ⟨items, rfl, scalar⟩⟩ := fits
    · exact .single entity column value declared (.inl scalar)
    · exact .single entity column value declared (.inr null)
    · exact .list entity column items declared scalar

theorem fits_object_iff (registry : Registry) (naming : NamingStrategy) (entity : EntityRelations)
    (column : String) (inner : Filter) :
    Fits registry naming entity column (.object inner) ↔
      ∃ relation related, entity.relation? column = some relation ∧
        reflect registry naming (registry.resolve relation.related) = .ok related ∧
        ∀ entry ∈ inner, Fits registry naming related entry.1 entry.2 := by
  constructor
  · intro fits
    cases fits with
    | nested _ _ relation _ found below =>
        cases below with
        | mapping _ related _ reflected fit => exact ⟨relation, related, found, reflected, fit⟩
    | single _ _ _ _ scalar => simp [IsScalar] at scalar
  · intro parts
    obtain ⟨relation, related, found, reflected, fit⟩ := parts
    exact .nested entity column relation inner found (.mapping _ related inner reflected fit)

theorem yields_exist_iff_fit (compiler : Compiler) (entries : Filter) (entity : EntityRelations) :
    (∃ scalars nested, Yields compiler entity entries scalars nested) ↔
      ∀ entry ∈ entries, Fits compiler.registry compiler.naming entity entry.1 entry.2 := by
  induction entries using filter_induction generalizing entity with
  | nil =>
      constructor
      · intro _ entry member
        cases member
      · intro _
        exact ⟨[], [], .nil entity⟩
  | plain column value rest plain ih =>
      rw [List.forall_mem_cons, ← ih, fits_plain_iff compiler entity column value plain]
      simp only [yields_plain_iff _ _ _ _ _ _ _ plain]
      constructor
      · intro yielded
        obtain ⟨_, nested, declared, predicate, others, built, remaining, _⟩ := yielded
        exact ⟨⟨declared, predicate, built⟩, others, nested, remaining⟩
      · intro fit
        obtain ⟨⟨declared, predicate, built⟩, others, nested, remaining⟩ := fit
        exact ⟨_, nested, declared, predicate, others, built, remaining, rfl⟩
  | nested column inner rest ihInner ihRest =>
      rw [List.forall_mem_cons, ← ihRest, fits_object_iff]
      simp only [yields_object_iff, ← ihInner]
      constructor
      · intro yielded
        obtain ⟨scalars, _, relation, related, innerScalars, innerNested, others, found,
          reflected, below, remaining, _⟩ := yielded
        exact ⟨⟨relation, related, found, reflected, innerScalars, innerNested, below⟩, scalars,
          others, remaining⟩
      · intro fit
        obtain ⟨⟨relation, related, found, reflected, innerScalars, innerNested, below⟩, scalars,
          others, remaining⟩ := fit
        exact ⟨scalars, _, relation, related, innerScalars, innerNested, others, found, reflected,
          below, remaining, rfl⟩

theorem direct_succeeds_iff_fit (compiler : Compiler) (root : EntitySchema)
    (filters : List Filter) :
    (∃ compiled, compiler.direct root filters = .ok compiled) ↔
      ∃ entity, reflect compiler.registry compiler.naming root = .ok entity ∧
        ∀ entry ∈ filters.flatten,
          Fits compiler.registry compiler.naming entity entry.1 entry.2 := by
  simp only [direct_ok_iff, ← yields_exist_iff_fit]
  constructor
  · intro compiled
    obtain ⟨_, entity, scalars, nested, reflected, yields, _⟩ := compiled
    exact ⟨entity, reflected, scalars, nested, yields⟩
  · intro fit
    obtain ⟨entity, reflected, scalars, nested, yields⟩ := fit
    exact ⟨_, entity, scalars, nested, reflected, yields, rfl⟩

theorem compile_succeeds_iff_well_formed (compiler : Compiler) (root : EntitySchema)
    (filters : List Filter) (session : Session) (coherent : Coherent compiler.registry [root])
    (empty : session.cache.entries = []) :
    (∃ compiled, (compiler.compile root filters).outcome session = .ok compiled) ↔
      (∃ entity, reflect compiler.registry compiler.naming root = .ok entity) ∧
        ∀ filter ∈ filters, WellFormed compiler.registry compiler.naming root filter := by
  simp only [compile_ok_iff_direct compiler root filters session _ coherent empty, direct_ok_iff]
  constructor
  · intro compiled
    obtain ⟨_, entity, scalars, nested, reflected, yields, _⟩ := compiled
    refine ⟨⟨entity, reflected⟩, fun filter member => ?_⟩
    have fit := (yields_exist_iff_fit compiler filters.flatten entity).mp ⟨scalars, nested, yields⟩
    apply WellFormed.mapping root entity filter reflected
    intro entry listed
    exact fit entry (List.mem_flatten.mpr ⟨filter, member, listed⟩)
  · intro wellFormed
    obtain ⟨⟨entity, reflected⟩, wellFormed⟩ := wellFormed
    have fit : ∀ entry ∈ filters.flatten,
        Fits compiler.registry compiler.naming entity entry.1 entry.2 := by
      intro entry listed
      obtain ⟨filter, member, inFilter⟩ := List.mem_flatten.mp listed
      cases wellFormed filter member with
      | mapping _ again _ reflectedAgain fit =>
          cases reflected.symm.trans reflectedAgain
          exact fit entry inFilter
    obtain ⟨scalars, nested, yields⟩ := (yields_exist_iff_fit compiler _ entity).mpr fit
    exact ⟨_, entity, scalars, nested, reflected, yields, rfl⟩

theorem people_filters_well_formed :
    Coherent peopleRegistry [personSchema] ∧ ({} : Session).cache.entries = [] ∧
      ∀ filter ∈ peopleFilters, WellFormed peopleRegistry verbatim personSchema filter := by
  have wellFormed := (compile_succeeds_iff_well_formed peopleCompiler personSchema peopleFilters {}
    people_coherent rfl).mp ⟨_, people_compiled⟩
  exact ⟨people_coherent, rfl, wellFormed.2⟩

end NestedFilter
