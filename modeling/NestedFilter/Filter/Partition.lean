import NestedFilter.Relation.Reflect
import NestedFilter.Filter.Scalar

/-!
Partition of filter mappings: entries on plain columns and nested filters on relations. The first
entry that suits neither is an error.
-/

set_option autoImplicit false

namespace NestedFilter

open Json (Value)
open Sql (Predicate qualified)

structure ScalarEntry where
  column : String
  value : Value

structure RelationalEntry where
  column : String
  relation : Relation
  filter : Filter

structure Partition where
  scalars : List ScalarEntry
  relations : List RelationalEntry

def Partition.isEmpty (parts : Partition) : Bool := parts.scalars.isEmpty && parts.relations.isEmpty

def Partition.scalarPredicates (parts : Partition) (table : String) (wildcards : Bool) :
    Except FilterError (List Predicate) :=
  parts.scalars.mapM fun entry =>
    scalarPredicate (qualified table entry.column) entry.column entry.value wildcards

inductive PlacedEntry where
  | scalar (entry : ScalarEntry)
  | relational (entry : RelationalEntry)

def PlacedEntry.scalar? : PlacedEntry → Option ScalarEntry
  | .scalar entry => some entry
  | _ => none

def PlacedEntry.relational? : PlacedEntry → Option RelationalEntry
  | .relational entry => some entry
  | _ => none

/-- Why a nested filter finds no relation under its key: the field of that name that could not be
classified, or none of that name. -/
def missingRelation (registry : Registry) (naming : NamingStrategy) (schema : EntitySchema)
    (column : String) : FilterError :=
  let declared := schema.fields.find? fun field =>
    field.fieldType.shape?.isSome && naming.column schema field == column
  match declared.map (classify registry naming schema) with
  | some (.error error) => error
  | _ => .unknownField schema.name column

def placeEntry (registry : Registry) (naming : NamingStrategy) (schema : EntitySchema)
    (entity : EntityRelations) (column : String) (value : Value) : Except FilterError PlacedEntry :=
  match value with
  | .object nested =>
      match entity.relation? column with
      | some relation => .ok (.relational ⟨column, relation, nested⟩)
      | none => .error (missingRelation registry naming schema column)
  | value =>
      if entity.hasColumn column then
        match value with
        | .array items =>
            if items.any isNested then .error (.invalidValue column .nestedFilterInList)
            else .ok (.scalar ⟨column, value⟩)
        | _ => .ok (.scalar ⟨column, value⟩)
      else if (entity.relation? column).isSome then
        .error (.invalidValue column .relationNeedsFilter)
      else .error (.unknownField schema.name column)

def partition (registry : Registry) (naming : NamingStrategy) (schema : EntitySchema)
    (entity : EntityRelations) (entries : Filter) : Except FilterError Partition := do
  let placed ← entries.mapM fun entry =>
    placeEntry registry naming schema entity entry.1 entry.2
  pure ⟨placed.filterMap PlacedEntry.scalar?, placed.filterMap PlacedEntry.relational?⟩

end NestedFilter
