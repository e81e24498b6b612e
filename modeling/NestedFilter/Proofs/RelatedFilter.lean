import NestedFilter.Proofs.Meaning
import NestedFilter.Proofs.ReflectedNames

/-!
Filters that follow one relation and ask for the primary key of the related row: when they compile,
and which rows they select.
-/

set_option autoImplicit false

namespace NestedFilter

open Json (Value)
open Sql (Database Engine Equal Row qualified)

def relatedFilter (column key : String) (value : Value) : Filter :=
  [(column, .object [(key, value)])]

def Compiles (compiler : Compiler) (schema : EntitySchema) (filter : Filter) : Prop :=
  ∃ compiled, (compiler.compile schema [filter]).outcome {} = .ok compiled

def Selects (engine : Engine) (database : Database) (compiler : Compiler) (schema : EntitySchema)
    (filter : Filter) (row : Row) : Prop :=
  ∃ compiled, (compiler.compile schema [filter]).outcome {} = .ok compiled ∧
    ∀ predicate ∈ compiled.predicates,
      predicate.truth engine database [⟨compiler.naming.table schema, row⟩] = .holds

structure Refers (registry : Registry) (naming : NamingStrategy) (owner : EntitySchema)
    (field : FieldDef) (relation : Relation) (target : EntitySchema) : Prop where
  declared : field ∈ owner.fields
  classified : classify registry naming owner field = .ok relation
  resolves : registry.resolve relation.related = target
  named : relation.related.name = target.name

-- A filter value for the primary key of a row. With wildcards on it may hold no star.
structure KeyValue (compiler : Compiler) (schema : EntitySchema) (row : Row) (value : Value) :
    Prop where
  plain : compiler.naming.primaryKey schema ∈ declaredColumns compiler.naming schema
  read : ∃ literal, literalOf? value = some literal ∧
    row (compiler.naming.primaryKey schema) = some literal
  unstarred : ∀ text, value = .string text → compiler.options.wildcards = true → '*' ∉ text.toList

theorem refers_found (registry : Registry) (naming : NamingStrategy) (owner target : EntitySchema)
    (field : FieldDef) (relation : Relation) (entity : EntityRelations)
    (refers : Refers registry naming owner field relation target)
    (reflected : reflect registry naming owner = .ok entity) :
    entity.relation? (naming.column owner field) = some relation :=
  (relation_found_iff registry naming owner entity reflected _ relation).mpr
    ⟨field, refers.declared,
      classified_not_plain registry naming owner field relation refers.classified,
      refers.classified, rfl⟩

theorem related_filter_direct (compiler : Compiler) (owner target : EntitySchema)
    (field : FieldDef) (relation : Relation) (key : String) (value : Value)
    (refers : Refers compiler.registry compiler.naming owner field relation target)
    (distinct : owner.name = target.name → owner = target) (plain : isNested value = false) :
    let filters := [relatedFilter (compiler.naming.column owner field) key value]
    ∀ compiled, (compiler.compile owner filters).outcome {} = .ok compiled ↔
      compiler.direct owner filters = .ok compiled := by
  -- The filter looks up two entities only, so those two must not be taken for each other.
  intro filters compiled
  let includes : NamingStrategy → EntitySchema → Prop := fun naming schema =>
    naming = compiler.naming ∧ (schema = owner ∨ schema = target)
  have unambiguous : Unambiguous compiler.registry includes := by
    apply unambiguous_of_names
    rintro a b (rfl | rfl) (rfl | rfl) same
    · rfl
    · exact distinct same
    · exact (distinct same.symm).symm
    · rfl
  have asks : (compiler.plan owner filters).Asks compiler.registry includes := by
    apply plan_asks compiler includes owner filters ⟨rfl, .inl rfl⟩
    intro entity reflected
    refine nested_object_asks compiler includes entity _ [(key, value)] [] ?_ trivial
    intro other found
    rw [refers_found _ _ _ _ _ _ entity refers reflected] at found
    cases found
    refine ⟨⟨rfl, .inr refers.resolves⟩, fun related _ => ?_⟩
    exact nested_plain_asks compiler includes related key value [] plain trivial
  exact run_ok_iff_direct compiler.registry includes unambiguous _ {} compiled asks
    (faithful_without_entries _ includes _ rfl)

section

variable (compiler : Compiler) (owner target : EntitySchema) (field : FieldDef)
  (relation : Relation) (keyed : Row) (value : Value)
  (refers : Refers compiler.registry compiler.naming owner field relation target)
  (distinct : owner.name = target.name → owner = target)
  (holds : KeyValue compiler target keyed value)

include refers holds

theorem related_filter_yields (entity related : EntityRelations)
    (reflected : reflect compiler.registry compiler.naming owner = .ok entity)
    (below : reflect compiler.registry compiler.naming target = .ok related) :
    ∃ nested, Yields compiler entity (relatedFilter (compiler.naming.column owner field)
      (compiler.naming.primaryKey target) value) [] nested := by
  obtain ⟨literal, read, _⟩ := holds.read
  have declared : related.hasColumn (compiler.naming.primaryKey target) = true := by
    rw [EntityRelations.hasColumn, (reflect_parts _ _ target related below).2.2.2]
    exact List.contains_iff_mem.mpr holds.plain
  have built := (scalar_rule_iff (qualified related.table (compiler.naming.primaryKey target))
    (compiler.naming.primaryKey target) value compiler.options.wildcards _).mpr
    (.equal value literal read holds.unstarred)
  have found := refers_found _ _ owner target field relation entity refers reflected
  have resolved : reflect compiler.registry compiler.naming
      (compiler.registry.resolve relation.related) = .ok related := by rw [refers.resolves, below]
  exact ⟨_, .nested entity related _ relation _ [] _ [] [] [] found resolved
    (.plain related _ value [] _ [] [] (literal_not_nested value literal read) declared built
      (.nil related)) (.nil entity)⟩

theorem meets_related_filter (engine : Engine) (database : Database) (entity : EntityRelations)
    (row : Row) (reflected : reflect compiler.registry compiler.naming owner = .ok entity) :
    MeetsEntries engine database compiler.registry compiler.naming compiler.options.wildcards entity
      row (relatedFilter (compiler.naming.column owner field) (compiler.naming.primaryKey target)
        value) ↔
      ∃ related, reflect compiler.registry compiler.naming target = .ok related ∧
        ∃ other ∈ database (compiler.naming.table target),
          Joined engine database entity related relation row other ∧
          Equal engine (other (compiler.naming.primaryKey target))
            (keyed (compiler.naming.primaryKey target)) := by
  obtain ⟨literal, read, stored⟩ := holds.read
  have found := refers_found _ _ owner target field relation entity refers reflected
  have inner := fun related other => meets_literal_iff engine database compiler.registry
    compiler.naming compiler.options.wildcards related other (compiler.naming.primaryKey target)
    value literal read holds.unstarred
  simp only [relatedFilter, MeetsEntries, MeetsEntry, inner, and_true, found, Option.some.injEq]
  constructor
  · intro met
    obtain ⟨other, related, rfl, below, candidate, listed, joined, equal⟩ := met
    rw [refers.resolves] at below
    rw [(reflect_parts _ _ target related below).1] at listed
    exact ⟨related, below, candidate, listed, joined, stored ▸ equal⟩
  · intro met
    obtain ⟨related, below, candidate, listed, joined, equal⟩ := met
    rw [← (reflect_parts _ _ target related below).1] at listed
    exact ⟨relation, related, rfl, refers.resolves ▸ below, candidate, listed, joined,
      stored ▸ equal⟩

include distinct

theorem related_filter_compiles :
    Compiles compiler owner (relatedFilter (compiler.naming.column owner field)
      (compiler.naming.primaryKey target) value) ↔
      (∃ entity, reflect compiler.registry compiler.naming owner = .ok entity) ∧
      ∃ related, reflect compiler.registry compiler.naming target = .ok related := by
  obtain ⟨literal, read, _⟩ := holds.read
  have direct := related_filter_direct compiler owner target field relation
    (compiler.naming.primaryKey target) value refers distinct (literal_not_nested value literal read)
  simp only [Compiles, direct, direct_ok_iff, List.flatten_singleton]
  constructor
  · intro compiled
    obtain ⟨_, entity, scalars, nested, reflected, yields, _⟩ := compiled
    obtain ⟨other, related, _, _, _, found, below, _⟩ := (yields_object_iff _ _ _ _ _ _ _).mp yields
    rw [refers_found _ _ owner target field relation entity refers reflected] at found
    cases found
    exact ⟨⟨entity, reflected⟩, related, refers.resolves ▸ below⟩
  · intro both
    obtain ⟨⟨entity, reflected⟩, related, below⟩ := both
    obtain ⟨nested, yields⟩ := related_filter_yields compiler owner target field relation keyed value
      refers holds entity related reflected below
    exact ⟨_, entity, [], nested, reflected, yields, rfl⟩

theorem related_filter_selects (engine : Engine) (database : Database) (row : Row) :
    Selects engine database compiler owner (relatedFilter (compiler.naming.column owner field)
      (compiler.naming.primaryKey target) value) row ↔
      ∃ entity related, reflect compiler.registry compiler.naming owner = .ok entity ∧
        reflect compiler.registry compiler.naming target = .ok related ∧
        ∃ other ∈ database (compiler.naming.table target),
          Joined engine database entity related relation row other ∧
          Equal engine (other (compiler.naming.primaryKey target))
            (keyed (compiler.naming.primaryKey target)) := by
  obtain ⟨literal, read, stored⟩ := holds.read
  have direct := related_filter_direct compiler owner target field relation
    (compiler.naming.primaryKey target) value refers distinct (literal_not_nested value literal read)
  simp only [Selects, direct, direct_ok_iff, List.flatten_singleton]
  constructor
  · intro selected
    obtain ⟨_, ⟨entity, scalars, nested, reflected, yields, rfl⟩, kept⟩ := selected
    rw [← (reflect_parts _ _ owner entity reflected).1,
      yields_hold engine database compiler entity _ scalars nested yields row []] at kept
    obtain ⟨related, below, met⟩ := (meets_related_filter compiler owner target field relation keyed
      value refers holds engine database entity row reflected).mp kept
    exact ⟨entity, related, reflected, below, met⟩
  · intro joined
    obtain ⟨entity, related, reflected, below, met⟩ := joined
    obtain ⟨nested, yields⟩ := related_filter_yields compiler owner target field relation keyed value
      refers holds entity related reflected below
    refine ⟨_, ⟨entity, [], nested, reflected, yields, rfl⟩, ?_⟩
    rw [← (reflect_parts _ _ owner entity reflected).1,
      yields_hold engine database compiler entity _ [] nested yields row []]
    exact (meets_related_filter compiler owner target field relation keyed value refers holds engine
      database entity row reflected).mpr ⟨related, below, met⟩

end

end NestedFilter
