import NestedFilter.Filter.Compile
import NestedFilter.Proofs.Plan
import NestedFilter.Proofs.Scalar

set_option autoImplicit false

namespace NestedFilter

open Json (Value)
open Sql (Predicate qualified)

-- Induction over a mapping with all that is nested in it: an entry is a nested filter or it is not.
@[elab_as_elim]
theorem filter_induction {motive : Filter → Prop} (nil : motive [])
    (plain : ∀ column value rest, isNested value = false → motive rest →
      motive ((column, value) :: rest))
    (nested : ∀ column inner rest, motive inner → motive rest →
      motive ((column, .object inner) :: rest))
    (entries : Filter) : motive entries := by
  match entries with
  | [] => exact nil
  | (column, .object inner) :: rest =>
      exact nested column inner rest (filter_induction nil plain nested inner)
        (filter_induction nil plain nested rest)
  | (column, .null) :: rest
  | (column, .bool _) :: rest
  | (column, .number _) :: rest
  | (column, .string _) :: rest
  | (column, .array _) :: rest =>
      exact plain column _ rest rfl (filter_induction nil plain nested rest)
termination_by sizeOf entries

def Compiler.levelScalars (compiler : Compiler) (schema : EntitySchema) (entity : EntityRelations)
    (entries : Filter) : Except FilterError (List Predicate) := do
  let parts ← partition compiler.registry compiler.naming schema entity entries
  parts.scalarPredicates entity.table compiler.options.wildcards

theorem level_as_scalars (compiler : Compiler) (schema : EntitySchema) (entries : Filter)
    (deeper : EntityRelations → Plan (List Predicate)) :
    compiler.level schema entries deeper = (do
      let entity ← Plan.relations compiler.naming schema
      let scalars ← Plan.answer (compiler.levelScalars schema entity entries)
      let relational ← deeper entity
      pure (scalars ++ relational)) := by
  simp only [Compiler.level, Compiler.levelScalars, answer_bind, bind_assoc]
  rfl

theorem place_object (registry : Registry) (naming : NamingStrategy) (schema : EntitySchema)
    (entity : EntityRelations) (column : String) (inner : Filter) (placed : PlacedEntry) :
    placeEntry registry naming schema entity column (.object inner) = .ok placed ↔
      ∃ relation, entity.relation? column = some relation ∧
        .relational ⟨column, relation, inner⟩ = placed := by
  unfold placeEntry
  cases entity.relation? column with
  | none => simp
  | some relation => simp

theorem place_plain (registry : Registry) (naming : NamingStrategy) (schema : EntitySchema)
    (entity : EntityRelations) (column : String) (value : Value) (placed : PlacedEntry)
    (plain : isNested value = false) :
    placeEntry registry naming schema entity column value = .ok placed ↔
      entity.hasColumn column = true ∧
        (∀ items, value = .array items → items.any isNested = false) ∧
        .scalar ⟨column, value⟩ = placed := by
  cases declared : entity.hasColumn column with
  | false =>
      cases value with
      | object inner => simp [isNested] at plain
      | _ => cases related : (entity.relation? column).isSome <;>
          simp [placeEntry, declared, related]
  | true =>
      cases value with
      | object inner => simp [isNested] at plain
      | array items =>
          have listed : placeEntry registry naming schema entity column (.array items) =
              if items.any isNested then .error (.invalidValue column .nestedFilterInList)
              else .ok (.scalar ⟨column, .array items⟩) := by
            simp only [placeEntry, declared, if_true]
          rw [listed]
          cases nested : items.any isNested with
          | false =>
              constructor
              · intro accepted
                refine ⟨rfl, ?_, Except.ok.inj accepted⟩
                intro others same
                cases same
                exact nested
              · intro accepted
                obtain ⟨_, _, rfl⟩ := accepted
                rfl
          | true =>
              constructor
              · intro refused
                cases refused
              · intro accepted
                obtain ⟨_, noneNested, _⟩ := accepted
                simp [noneNested items rfl] at nested
      | _ => simp [placeEntry, declared]

theorem level_scalars_iff (compiler : Compiler) (schema : EntitySchema) (entity : EntityRelations)
    (entries : Filter) (scalars : List Predicate) :
    compiler.levelScalars schema entity entries = .ok scalars ↔
      ∃ placed, (entries.mapM fun entry => placeEntry compiler.registry compiler.naming schema
          entity entry.1 entry.2) = .ok placed ∧
        ((placed.filterMap PlacedEntry.scalar?).mapM fun entry =>
          scalarPredicate (qualified entity.table entry.column) entry.column entry.value
            compiler.options.wildcards) = .ok scalars := by
  unfold Compiler.levelScalars partition Partition.scalarPredicates
  rw [bind_ok_iff]
  constructor
  · intro built
    obtain ⟨parts, split, built⟩ := built
    obtain ⟨placed, all, same⟩ := (bind_ok_iff _ _ _).mp split
    cases same
    exact ⟨placed, all, built⟩
  · intro placing
    obtain ⟨placed, all, built⟩ := placing
    exact ⟨_, (bind_ok_iff _ _ _).mpr ⟨placed, all, rfl⟩, built⟩

theorem level_scalars_object (compiler : Compiler) (schema : EntitySchema)
    (entity : EntityRelations) (column : String) (inner rest : Filter) (scalars : List Predicate) :
    compiler.levelScalars schema entity ((column, .object inner) :: rest) = .ok scalars ↔
      (∃ relation, entity.relation? column = some relation) ∧
        compiler.levelScalars schema entity rest = .ok scalars := by
  simp only [level_scalars_iff, map_all_cons_ok_iff, place_object]
  constructor
  · intro accepted
    obtain ⟨_, ⟨_, others, ⟨relation, found, rfl⟩, remaining, rfl⟩, built⟩ := accepted
    exact ⟨⟨relation, found⟩, others, remaining, built⟩
  · intro accepted
    obtain ⟨⟨relation, found⟩, others, remaining, built⟩ := accepted
    exact ⟨_, ⟨_, others, ⟨relation, found, rfl⟩, remaining, rfl⟩, built⟩

theorem level_scalars_plain (compiler : Compiler) (schema : EntitySchema)
    (entity : EntityRelations) (column : String) (value : Value) (rest : Filter)
    (scalars : List Predicate) (plain : isNested value = false) :
    compiler.levelScalars schema entity ((column, value) :: rest) = .ok scalars ↔
      entity.hasColumn column = true ∧ ∃ predicate others,
        scalarPredicate (qualified entity.table column) column value compiler.options.wildcards =
          .ok predicate ∧
        compiler.levelScalars schema entity rest = .ok others ∧ scalars = predicate :: others := by
  simp only [level_scalars_iff, map_all_cons_ok_iff, place_plain _ _ _ _ _ _ _ plain]
  constructor
  · intro accepted
    obtain ⟨_, ⟨_, placed, ⟨declared, _, rfl⟩, remaining, rfl⟩, built⟩ := accepted
    obtain ⟨predicate, others, first, later, rfl⟩ := (map_all_cons_ok_iff _ _ _ _).mp built
    exact ⟨declared, predicate, others, first, ⟨placed, remaining, later⟩, rfl⟩
  · intro accepted
    obtain ⟨declared, predicate, others, first, ⟨placed, remaining, later⟩, rfl⟩ := accepted
    refine ⟨_, ⟨.scalar ⟨column, value⟩, placed, ⟨declared, ?_, rfl⟩, remaining, rfl⟩, ?_⟩
    · rintro items rfl
      exact scalar_items_not_nested _ _ items _ ((scalar_rule_iff _ _ _ _ _).mp first)
    · exact (map_all_cons_ok_iff _ _ _ _).mpr ⟨predicate, others, first, later, rfl⟩

end NestedFilter
