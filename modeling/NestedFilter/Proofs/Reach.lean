import NestedFilter.Proofs.Reflection

/-!
The entities that can be reached from some roots by following declared references, and what it
takes for a declared name to stand for one entity among them.
-/

set_option autoImplicit false

namespace NestedFilter

inductive Reaches (registry : Registry) (roots : List EntitySchema) : EntitySchema → Prop where
  | root (schema : EntitySchema) (member : schema ∈ roots) : Reaches registry roots schema
  | reference (schema : EntitySchema) (field : FieldDef) (ref : EntityRef)
      (previous : Reaches registry roots schema) (declared : field ∈ schema.fields)
      (refers : field.fieldType.entityRef? = some ref) :
      Reaches registry roots (registry.resolve ref)

def Coherent (registry : Registry) (roots : List EntitySchema) : Prop :=
  ∀ a b, Reaches registry roots a → Reaches registry roots b → a.name = b.name → a = b

-- A list of entities that holds the roots and whatever its entities refer to. Coherence asks about
-- every reachable entity; over such a list it can be checked.
structure ClosedList (registry : Registry) (roots schemas : List EntitySchema) : Prop where
  roots_listed : ∀ root ∈ roots, root ∈ schemas
  references_listed : ∀ schema ∈ schemas, ∀ field ∈ schema.fields,
    ∀ ref ∈ field.fieldType.entityRef?, registry.resolve ref ∈ schemas

theorem reaches_listed (registry : Registry) (roots schemas : List EntitySchema)
    (closed : ClosedList registry roots schemas) (schema : EntitySchema)
    (reached : Reaches registry roots schema) : schema ∈ schemas := by
  induction reached with
  | root schema member => exact closed.roots_listed schema member
  | reference schema field ref _ declared refers ih =>
      exact closed.references_listed schema ih field declared ref refers

theorem coherent_of_closed_list (registry : Registry) (roots schemas : List EntitySchema)
    (closed : ClosedList registry roots schemas)
    (distinct : ∀ a ∈ schemas, ∀ b ∈ schemas, a.name = b.name → a = b) :
    Coherent registry roots := by
  intro a b reachedA reachedB same
  exact distinct a (reaches_listed registry roots schemas closed a reachedA)
    b (reaches_listed registry roots schemas closed b reachedB) same

def personSchema : EntitySchema where
  name := "Person"
  tableName := some "people"
  fields := [
    { name := "id", fieldType := .scalar "i64" },
    { name := "name", fieldType := .scalar "String" },
    { name := "mentor_ref", fieldType := .scalar "i64" },
    { name := "mentor", fieldType := .pointer (.entity ⟨"Person", "Person"⟩),
      annotations := { foreignKey := some "mentor_ref" } },
    { name := "pupils", fieldType := .list (.entity ⟨"Person", "Person"⟩),
      annotations := { foreignKey := some "mentor_ref" } },
    { name := "tags", fieldType := .list (.entity ⟨"Tag", "Tag"⟩),
      annotations := { manyToMany := some "person_tags" } }]

def tagSchema : EntitySchema where
  name := "Tag"
  tableName := some "tags"
  fields := [
    { name := "id", fieldType := .scalar "i64" },
    { name := "people", fieldType := .list (.entity ⟨"Person", "Person"⟩),
      annotations := { manyToMany := some "person_tags" } }]

def peopleRegistry : Registry :=
  (Registry.empty.define "Person" personSchema).define "Tag" tagSchema

def verbatim : NamingStrategy where
  tableName entity := entity
  columnName _ field := field
  joinTableName name := name
  foreignKeyName entity := entity ++ "_id"
  fingerprint := "verbatim"

theorem people_coherent_from (roots : List EntitySchema)
    (listed : ∀ root ∈ roots, root ∈ [personSchema, tagSchema]) : Coherent peopleRegistry roots := by
  apply coherent_of_closed_list peopleRegistry roots [personSchema, tagSchema]
  · exact ⟨listed, by decide⟩
  · decide

theorem people_coherent : Coherent peopleRegistry [personSchema] :=
  people_coherent_from [personSchema] (by decide)

theorem reaches_of_subset (registry : Registry) (few many : List EntitySchema)
    (subset : ∀ schema ∈ few, schema ∈ many) (schema : EntitySchema)
    (reached : Reaches registry few schema) : Reaches registry many schema := by
  induction reached with
  | root schema member => exact .root schema (subset schema member)
  | reference schema field ref _ declared refers ih =>
      exact .reference schema field ref ih declared refers

theorem coherent_of_subset (registry : Registry) (few many : List EntitySchema)
    (subset : ∀ schema ∈ few, schema ∈ many) (coherent : Coherent registry many) :
    Coherent registry few := by
  intro a b reachedA reachedB same
  exact coherent a b (reaches_of_subset registry few many subset a reachedA)
    (reaches_of_subset registry few many subset b reachedB) same

theorem related_reached (registry : Registry) (naming : NamingStrategy) (roots : List EntitySchema)
    (schema : EntitySchema) (entity : EntityRelations) (column : String) (relation : Relation)
    (reached : Reaches registry roots schema)
    (reflected : reflect registry naming schema = .ok entity)
    (found : entity.relation? column = some relation) :
    Reaches registry roots (registry.resolve relation.related) := by
  have listed := relation_listed entity column relation found
  rw [(reflect_parts registry naming schema entity reflected).2.2.1] at listed
  obtain ⟨field, declared, _, classified⟩ :=
    declared_relation_field registry naming schema column relation listed
  exact .reference schema field relation.related reached declared
    (classify_related registry naming schema field relation classified)

end NestedFilter
