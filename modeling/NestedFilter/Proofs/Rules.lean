import NestedFilter.Proofs.Direct
import NestedFilter.Proofs.Level

/-!
The rules of compilation: the predicates of a mapping are those of its entries, the ones on plain
columns before the membership tests. Compilation succeeds exactly with what the rules yield.
-/

set_option autoImplicit false

namespace NestedFilter

open Json (Value)
open Sql (Predicate qualified)

inductive Yields (compiler : Compiler) :
    EntityRelations → Filter → List Predicate → List Predicate → Prop where
  | nil (entity : EntityRelations) : Yields compiler entity [] [] []
  | plain (entity : EntityRelations) (column : String) (value : Value) (rest : Filter)
      (predicate : Predicate) (scalars nested : List Predicate)
      (plain : isNested value = false) (declared : entity.hasColumn column = true)
      (built : scalarPredicate (qualified entity.table column) column value
        compiler.options.wildcards = .ok predicate)
      (others : Yields compiler entity rest scalars nested) :
      Yields compiler entity ((column, value) :: rest) (predicate :: scalars) nested
  | nested (entity related : EntityRelations) (column : String) (relation : Relation)
      (inner rest : Filter) (innerScalars innerNested scalars nested : List Predicate)
      (found : entity.relation? column = some relation)
      (reflected : reflect compiler.registry compiler.naming
        (compiler.registry.resolve relation.related) = .ok related)
      (below : Yields compiler related inner innerScalars innerNested)
      (others : Yields compiler entity rest scalars nested) :
      Yields compiler entity ((column, .object inner) :: rest) scalars
        (relationPredicate entity related relation (innerScalars ++ innerNested) :: nested)

theorem yields_plain_iff (compiler : Compiler) (entity : EntityRelations) (column : String)
    (value : Value) (rest : Filter) (scalars nested : List Predicate)
    (plain : isNested value = false) :
    Yields compiler entity ((column, value) :: rest) scalars nested ↔
      entity.hasColumn column = true ∧ ∃ predicate others,
        scalarPredicate (qualified entity.table column) column value compiler.options.wildcards =
          .ok predicate ∧
        Yields compiler entity rest others nested ∧ scalars = predicate :: others := by
  constructor
  · intro yields
    cases yields with
    | plain _ _ _ _ predicate others _ _ declared built remaining =>
        exact ⟨declared, predicate, others, built, remaining, rfl⟩
    | nested => simp [isNested] at plain
  · intro rule
    obtain ⟨declared, predicate, others, built, remaining, rfl⟩ := rule
    exact .plain entity column value rest predicate others nested plain declared built remaining

theorem yields_object_iff (compiler : Compiler) (entity : EntityRelations) (column : String)
    (inner rest : Filter) (scalars nested : List Predicate) :
    Yields compiler entity ((column, .object inner) :: rest) scalars nested ↔
      ∃ relation related innerScalars innerNested others,
        entity.relation? column = some relation ∧
        reflect compiler.registry compiler.naming (compiler.registry.resolve relation.related) =
          .ok related ∧
        Yields compiler related inner innerScalars innerNested ∧
        Yields compiler entity rest scalars others ∧
        nested =
          relationPredicate entity related relation (innerScalars ++ innerNested) :: others := by
  constructor
  · intro yields
    cases yields with
    | plain _ _ _ _ _ _ _ plain => simp [isNested] at plain
    | nested _ related _ relation _ _ innerScalars innerNested _ others found reflected below
        remaining =>
        exact ⟨relation, related, innerScalars, innerNested, others, found, reflected, below,
          remaining, rfl⟩
  · intro rule
    obtain ⟨relation, related, innerScalars, innerNested, others, found, reflected, below,
      remaining, rfl⟩ := rule
    exact .nested entity related column relation inner rest innerScalars innerNested scalars others
      found reflected below remaining

theorem direct_level_ok_iff (compiler : Compiler) (schema : EntitySchema) (entries : Filter)
    (predicates : List Predicate) :
    compiler.directLevel schema entries = .ok predicates ↔
      ∃ entity scalars nested,
        reflect compiler.registry compiler.naming schema = .ok entity ∧
        compiler.levelScalars schema entity entries = .ok scalars ∧
        compiler.directNestedPredicates entity entries = .ok nested ∧
        predicates = scalars ++ nested := by
  simp only [direct_level_eq, bind_ok_iff, map_error_ok_iff]
  constructor
  · intro built
    obtain ⟨entity, reflected, scalars, built, nested, below, joined⟩ := built
    exact ⟨entity, scalars, nested, reflected, built, below, (Except.ok.inj joined).symm⟩
  · intro parts
    obtain ⟨entity, scalars, nested, reflected, built, below, rfl⟩ := parts
    exact ⟨entity, reflected, scalars, built, nested, below, rfl⟩

theorem direct_nested_object_ok_iff (compiler : Compiler) (owner : EntityRelations)
    (column : String) (relation : Relation) (inner : Filter) (first : List Predicate)
    (found : owner.relation? column = some relation) :
    compiler.directNestedPredicate owner column (.object inner) = .ok first ↔
      ∃ related innerScalars innerNested,
        reflect compiler.registry compiler.naming (compiler.registry.resolve relation.related) =
          .ok related ∧
        compiler.levelScalars (compiler.registry.resolve relation.related) related inner =
          .ok innerScalars ∧
        compiler.directNestedPredicates related inner = .ok innerNested ∧
        first = [relationPredicate owner related relation (innerScalars ++ innerNested)] := by
  simp only [direct_nested_object compiler owner column inner relation found, bind_ok_iff,
    map_error_ok_iff, direct_level_ok_iff]
  constructor
  · intro built
    obtain ⟨related, reflected, _, ⟨again, scalars, nested, same, built, below, rfl⟩, joined⟩ :=
      built
    cases reflected.symm.trans same
    exact ⟨related, scalars, nested, reflected, built, below, (Except.ok.inj joined).symm⟩
  · intro parts
    obtain ⟨related, scalars, nested, reflected, built, below, rfl⟩ := parts
    exact ⟨related, reflected, _, ⟨related, scalars, nested, reflected, built, below, rfl⟩, rfl⟩

theorem direct_nested_cons_ok_iff (compiler : Compiler) (owner : EntityRelations)
    (column : String) (value : Value) (rest : Filter) (nested : List Predicate) :
    compiler.directNestedPredicates owner ((column, value) :: rest) = .ok nested ↔
      ∃ first others, compiler.directNestedPredicate owner column value = .ok first ∧
        compiler.directNestedPredicates owner rest = .ok others ∧ nested = first ++ others := by
  simp only [direct_nested_cons, bind_ok_iff]
  constructor
  · intro built
    obtain ⟨first, one, others, remaining, joined⟩ := built
    exact ⟨first, others, one, remaining, (Except.ok.inj joined).symm⟩
  · intro parts
    obtain ⟨first, others, one, remaining, rfl⟩ := parts
    exact ⟨first, one, others, remaining, rfl⟩

-- The entity of a level is reflected anew, so its schema only has a say in the errors.
theorem yields_of_direct (compiler : Compiler) (entries : Filter) (schema : EntitySchema)
    (entity : EntityRelations) (scalars nested : List Predicate)
    (level : compiler.levelScalars schema entity entries = .ok scalars)
    (deeper : compiler.directNestedPredicates entity entries = .ok nested) :
    Yields compiler entity entries scalars nested := by
  induction entries using filter_induction generalizing schema entity scalars nested with
  | nil =>
      cases level
      cases deeper
      exact .nil entity
  | plain column value rest plain ih =>
      obtain ⟨declared, predicate, others, built, later, rfl⟩ :=
        (level_scalars_plain _ _ _ _ _ _ _ plain).mp level
      obtain ⟨first, below, one, remaining, rfl⟩ := (direct_nested_cons_ok_iff _ _ _ _ _ _).mp deeper
      rw [direct_nested_plain compiler entity column value plain] at one
      cases one
      exact .plain entity column value rest predicate others below plain declared built
        (ih schema entity others below later remaining)
  | nested column inner rest ihInner ihRest =>
      obtain ⟨⟨relation, found⟩, later⟩ := (level_scalars_object _ _ _ _ _ _ _).mp level
      obtain ⟨first, others, one, remaining, rfl⟩ := (direct_nested_cons_ok_iff _ _ _ _ _ _).mp deeper
      obtain ⟨related, innerScalars, innerNested, reflected, built, below, rfl⟩ :=
        (direct_nested_object_ok_iff _ _ _ _ _ _ found).mp one
      exact .nested entity related column relation inner rest innerScalars innerNested scalars
        others found reflected (ihInner _ related innerScalars innerNested built below)
        (ihRest schema entity scalars others later remaining)

theorem direct_of_yields (compiler : Compiler) (entity : EntityRelations) (entries : Filter)
    (scalars nested : List Predicate) (yields : Yields compiler entity entries scalars nested) :
    (∀ schema, compiler.levelScalars schema entity entries = .ok scalars) ∧
      compiler.directNestedPredicates entity entries = .ok nested := by
  induction yields with
  | nil entity => exact ⟨fun _ => rfl, rfl⟩
  | plain entity column value rest predicate scalars nested plain declared built _ ih =>
      constructor
      · intro schema
        exact (level_scalars_plain _ _ _ _ _ _ _ plain).mpr
          ⟨declared, predicate, scalars, built, ih.1 schema, rfl⟩
      · exact (direct_nested_cons_ok_iff _ _ _ _ _ _).mpr
          ⟨[], nested, direct_nested_plain compiler entity column value plain, ih.2, rfl⟩
  | nested entity related column relation inner rest innerScalars innerNested scalars nested found
      reflected _ _ ihBelow ihRest =>
      constructor
      · intro schema
        exact (level_scalars_object _ _ _ _ _ _ _).mpr ⟨⟨relation, found⟩, ihRest.1 schema⟩
      · let test := relationPredicate entity related relation (innerScalars ++ innerNested)
        refine (direct_nested_cons_ok_iff _ _ _ _ _ _).mpr ⟨[test], nested, ?_, ihRest.2, rfl⟩
        exact (direct_nested_object_ok_iff _ _ _ _ _ _ found).mpr
          ⟨related, innerScalars, innerNested, reflected, ihBelow.1 _, ihBelow.2, rfl⟩

theorem direct_ok_iff (compiler : Compiler) (schema : EntitySchema) (filters : List Filter)
    (compiled : CompiledFilter) :
    compiler.direct schema filters = .ok compiled ↔
      ∃ entity scalars nested, reflect compiler.registry compiler.naming schema = .ok entity ∧
        Yields compiler entity filters.flatten scalars nested ∧
        compiled = ⟨scalars ++ nested⟩ := by
  simp only [direct_eq, map_ok_iff, direct_level_ok_iff]
  constructor
  · intro built
    obtain ⟨_, ⟨entity, scalars, nested, reflected, level, deeper, rfl⟩, rfl⟩ := built
    exact ⟨entity, scalars, nested, reflected,
      yields_of_direct compiler _ schema entity scalars nested level deeper, rfl⟩
  · intro parts
    obtain ⟨entity, scalars, nested, reflected, yields, rfl⟩ := parts
    obtain ⟨level, deeper⟩ := direct_of_yields compiler entity _ scalars nested yields
    exact ⟨_, ⟨entity, scalars, nested, reflected, level schema, deeper, rfl⟩, rfl⟩

def peopleCompiler : Compiler := ⟨peopleRegistry, verbatim, { wildcards := true }⟩

def peopleFilters : List Filter := [
  [("mentor", .object [("name", .string "A*")]), ("name", .null)],
  [("tags", .object [("people", .object [("id", .array [.number (.integer 7)])])])]]

def peoplePredicates : List Predicate := [
  .isNull (qualified "people" "name"),
  .inQuery (qualified "people" "mentor_ref") (qualified "people" "id") "people"
    [.like (qualified "people" "name") "A%"],
  .inQuery (qualified "people" "id") (qualified "person_tags" "Person_id") "person_tags"
    [.inQuery (qualified "person_tags" "Tag_id") (qualified "tags" "id") "tags"
      [.inQuery (qualified "tags" "id") (qualified "person_tags" "Tag_id") "person_tags"
        [.inQuery (qualified "person_tags" "Person_id") (qualified "people" "id") "people"
          [.isIn (qualified "people" "id") [.integer 7]]]]]]

theorem people_compiled :
    (peopleCompiler.compile personSchema peopleFilters).outcome {} = .ok ⟨peoplePredicates⟩ := rfl

end NestedFilter
