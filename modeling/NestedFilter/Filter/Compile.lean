import NestedFilter.Filter.Partition
import NestedFilter.Filter.Plan
import NestedFilter.Sql.Select

/-!
Compilation of filter mappings into predicates on the root entity. A nested filter becomes a
membership test, and each level of nesting has a SELECT of its own:

* to-one: `owner.key IN (SELECT related.primary FROM related WHERE ...)`
* to-many: `owner.primary IN (SELECT related.key FROM related WHERE ...)`
* many-to-many: `owner.primary IN (SELECT junction.owner FROM junction WHERE junction.related IN
  (SELECT related.primary FROM related WHERE ...))`
-/

set_option autoImplicit false

namespace NestedFilter

open Json (Value)
open Sql (Predicate Condition Select qualified)

structure FilterOptions where
  wildcards : Bool := false
deriving DecidableEq, Repr

structure Compiler where
  registry : Registry
  naming : NamingStrategy
  options : FilterOptions := {}

def membership (owner : Sql.ColumnRef) (table column : String) (filter : List Predicate) :
    Predicate :=
  .inQuery owner (qualified table column) table filter

def relationPredicate (owner related : EntityRelations) (relation : Relation)
    (nested : List Predicate) : Predicate :=
  let ownerKey := qualified owner.table owner.primaryKey
  match relation.kind with
  | .toOne =>
      membership (qualified owner.table relation.foreignKey) related.table related.primaryKey nested
  | .toMany => membership ownerKey related.table relation.foreignKey nested
  | .manyToMany junction =>
      let linked := qualified junction.table junction.relatedKey
      membership ownerKey junction.table junction.ownerKey
        [membership linked related.table related.primaryKey nested]

namespace Compiler

def level (compiler : Compiler) (schema : EntitySchema) (entries : Filter)
    (deeper : EntityRelations → Plan (List Predicate)) : Plan (List Predicate) := do
  let entity ← Plan.relations compiler.naming schema
  let parts ← partition compiler.registry compiler.naming schema entity entries
  let scalars ← parts.scalarPredicates entity.table compiler.options.wildcards
  let relational ← deeper entity
  pure (scalars ++ relational)

def subQueryRecord (owner related : EntityRelations) (column : String) (relation : Relation) :
    String :=
  s!"{owner.entity}.{column}: {relation.kind.label} sub-query on {related.table}"

mutual

def nestedPredicates (compiler : Compiler) (owner : EntityRelations) :
    List (String × Value) → Plan (List Predicate)
  | [] => pure []
  | (column, value) :: rest => do
      let first ← compiler.nestedPredicate owner column value
      let others ← compiler.nestedPredicates owner rest
      pure (first ++ others)
termination_by structural entries => entries

def nestedPredicate (compiler : Compiler) (owner : EntityRelations) (column : String) :
    Value → Plan (List Predicate)
  | .object entries =>
      match owner.relation? column with
      | none => pure []
      | some relation => do
          let schema := compiler.registry.resolve relation.related
          let related ← Plan.relations compiler.naming schema
          let nested ← compiler.level schema entries fun entity =>
            compiler.nestedPredicates entity entries
          Plan.record .trace (subQueryRecord owner related column relation)
          pure [relationPredicate owner related relation nested]
  | _ => pure []
termination_by structural value => value

end

def predicates (compiler : Compiler) (schema : EntitySchema) (filters : List Filter) :
    Plan (List Predicate) := do
  let entries := filters.flatten
  let predicates ← compiler.level schema entries fun entity =>
    compiler.nestedPredicates entity entries
  Plan.record .debug
    s!"compiled {predicates.length} deep filter predicate(s) for {schema.name}"
  pure predicates

end Compiler

structure CompiledFilter where
  predicates : List Predicate

namespace CompiledFilter

def isEmpty (compiled : CompiledFilter) : Bool := compiled.predicates.isEmpty

def condition (compiled : CompiledFilter) : Condition := .ofPredicates compiled.predicates

def apply (compiled : CompiledFilter) (statement : Select) : Select :=
  if compiled.isEmpty then statement else statement.restrict compiled.condition

def selectAll (compiled : CompiledFilter) (naming : NamingStrategy) (schema : EntitySchema) :
    Select :=
  compiled.apply (.everythingFrom (naming.table schema))

end CompiledFilter

def Compiler.plan (compiler : Compiler) (schema : EntitySchema) (filters : List Filter) :
    Plan CompiledFilter := do
  pure ⟨← compiler.predicates schema filters⟩

def Compiler.compile (compiler : Compiler) (schema : EntitySchema) (filters : List Filter) :
    FilterM CompiledFilter := (compiler.plan schema filters).run compiler.registry

end NestedFilter
