import NestedFilter.Proofs.Reach
import NestedFilter.Proofs.Reflection

/-!
The search for the field that an annotation names. It stops at the first declared field of the same
snake case form, so a field that is named exactly is found only if no field of that form with another
column stands before it.
-/

set_option autoImplicit false

namespace NestedFilter

open Text (snakeCase)

def FirstOfForm (schema : EntitySchema) (key : String) (first : FieldDef) : Prop :=
  ∃ before after, schema.fields = before ++ first :: after ∧
    snakeCase first.name = snakeCase key ∧
    ∀ earlier ∈ before, snakeCase earlier.name ≠ snakeCase key

theorem key_field_some_iff (schema : EntitySchema) (key : String) (first : FieldDef) :
    NamingStrategy.keyField? schema key = some first ↔ FirstOfForm schema key first := by
  simp only [NamingStrategy.keyField?, names_key_form, List.find?_eq_some_iff_append, FirstOfForm]
  constructor
  · intro found
    obtain ⟨same, before, after, fields, others⟩ := found
    exact ⟨before, after, fields, by simpa using same, by simpa using others⟩
  · intro first
    obtain ⟨before, after, fields, same, others⟩ := first
    exact ⟨by simpa using same, before, after, fields, by simpa using others⟩

theorem first_of_form_unique (schema : EntitySchema) (key : String) (first second : FieldDef)
    (isFirst : FirstOfForm schema key first) (isSecond : FirstOfForm schema key second) :
    first = second := by
  have found := (key_field_some_iff schema key first).mpr isFirst
  have again := (key_field_some_iff schema key second).mpr isSecond
  exact Option.some.inj (found.symm.trans again)

theorem declared_name_finds (schema : EntitySchema) (field : FieldDef)
    (declared : field ∈ schema.fields) : ∃ first, FirstOfForm schema field.name first := by
  have found : (NamingStrategy.keyField? schema field.name).isSome := by
    apply List.find?_isSome.mpr
    exact ⟨field, declared, by simp⟩
  obtain ⟨first, search⟩ := Option.isSome_iff_exists.mp found
  exact ⟨first, (key_field_some_iff schema field.name first).mp search⟩

theorem first_of_form_only (schema : EntitySchema) (field : FieldDef)
    (declared : field ∈ schema.fields)
    (only : ∀ other ∈ schema.fields, snakeCase other.name = snakeCase field.name → other = field) :
    FirstOfForm schema field.name field := by
  obtain ⟨first, before, after, fields, same, others⟩ := declared_name_finds schema field declared
  have listed : first ∈ schema.fields := by simp [fields]
  obtain rfl := only first listed same
  exact ⟨before, after, fields, same, others⟩

theorem key_column_of_first (naming : NamingStrategy) (schema : EntitySchema) (key : String)
    (first : FieldDef) (isFirst : FirstOfForm schema key first) :
    naming.keyColumn schema key = naming.column schema first := by
  rw [NamingStrategy.keyColumn, (key_field_some_iff schema key first).mpr isFirst]

-- A relation that looks its key up on a schema: on the owner for one related row, on the related
-- entity for many.
structure KeyedOn (registry : Registry) (naming : NamingStrategy) (owner : EntitySchema)
    (source : FieldDef) (relation : Relation) (schema : EntitySchema) (key : String) : Prop where
  classified : classify registry naming owner source = .ok relation
  annotated : source.annotations.foreignKey = some key
  side : relation.kind = .toOne ∧ owner = schema ∨
    relation.kind = .toMany ∧ registry.resolve relation.related = schema

theorem keyed_on_column (registry : Registry) (naming : NamingStrategy) (owner : EntitySchema)
    (source : FieldDef) (relation : Relation) (schema : EntitySchema) (key : String)
    (keyed : KeyedOn registry naming owner source relation schema key) :
    relation.foreignKey = naming.keyColumn schema key := by
  obtain ⟨classified, annotated, side⟩ := keyed
  rcases side with ⟨kind, rfl⟩ | ⟨kind, rfl⟩
  · obtain ⟨written, same, column⟩ :=
      classified_to_one registry naming owner source relation classified kind
    cases annotated.symm.trans same
    exact column
  · obtain ⟨written, same, column⟩ :=
      classified_to_many registry naming owner source relation classified kind
    cases annotated.symm.trans same
    exact column

theorem exact_key_finds_first (registry : Registry) (naming : NamingStrategy)
    (schema : EntitySchema) (field : FieldDef) (declared : field ∈ schema.fields) :
    ∃ first, FirstOfForm schema field.name first ∧
      (naming.keyColumn schema field.name = naming.column schema field ↔
        naming.column schema first = naming.column schema field) ∧
      (∀ owner source relation, KeyedOn registry naming owner source relation schema field.name →
        (relation.foreignKey = naming.column schema field ↔
          naming.column schema first = naming.column schema field)) ∧
      ((∀ other ∈ schema.fields, snakeCase other.name = snakeCase field.name → other = field) →
        first = field) := by
  obtain ⟨first, isFirst⟩ := declared_name_finds schema field declared
  have column := key_column_of_first naming schema field.name first isFirst
  refine ⟨first, isFirst, ?_, ?_, ?_⟩
  · rw [column]
  · intro owner source relation keyed
    rw [keyed_on_column registry naming owner source relation schema field.name keyed, column]
  · intro only
    have own := first_of_form_only schema field declared only
    exact first_of_form_unique schema field.name first field isFirst own

def groupKey : FieldDef := { name := "group_ref", fieldType := .scalar "i64" }

def groupField : FieldDef where
  name := "group"
  fieldType := .pointer (.entity ⟨"Group", "Group"⟩)
  annotations := { foreignKey := some "group_ref" }

-- The key to the group, behind the fields given and before the relation that names it.
def memberSchema (before : List FieldDef) : EntitySchema where
  name := "Member"
  fields := before ++ [groupKey, groupField]

def formerKey : FieldDef :=
  { name := "groupRef", fieldType := .scalar "i64", columnName := some "former_group" }

theorem sole_group_key_found :
    groupKey ∈ (memberSchema []).fields ∧
      (∀ other ∈ (memberSchema []).fields,
        snakeCase other.name = snakeCase groupKey.name → other = groupKey) ∧
      ({} : SnakeCaseNaming).strategy.keyColumn (memberSchema []) "group_ref" = "group_ref" ∧
      ∃ relation, KeyedOn .empty ({} : SnakeCaseNaming).strategy (memberSchema []) groupField
          relation (memberSchema []) "group_ref" ∧
        relation.foreignKey = "group_ref" := by
  have declared : groupKey ∈ (memberSchema []).fields := by decide
  have only : ∀ other ∈ (memberSchema []).fields,
      snakeCase other.name = snakeCase groupKey.name → other = groupKey := by decide
  have keyed : KeyedOn .empty ({} : SnakeCaseNaming).strategy (memberSchema []) groupField
      ⟨⟨"Group", "Group"⟩, "group_ref", .toOne⟩ (memberSchema []) "group_ref" :=
    ⟨rfl, rfl, .inl ⟨rfl, rfl⟩⟩
  obtain ⟨first, _, found, joined, sole⟩ :=
    exact_key_finds_first .empty ({} : SnakeCaseNaming).strategy (memberSchema []) groupKey declared
  obtain rfl : first = groupKey := sole only
  exact ⟨declared, only, found.mpr rfl, _, keyed, (joined _ _ _ keyed).mpr rfl⟩

theorem exact_key_passed_over :
    ((memberSchema [formerKey]).fields.map (·.name)).Nodup ∧
      groupKey ∈ (memberSchema [formerKey]).fields ∧
      ({} : SnakeCaseNaming).strategy.column (memberSchema [formerKey]) groupKey = "group_ref" ∧
      ({} : SnakeCaseNaming).strategy.keyColumn (memberSchema [formerKey]) groupKey.name =
        "former_group" ∧
      KeyedOn .empty ({} : SnakeCaseNaming).strategy (memberSchema [formerKey]) groupField
        ⟨⟨"Group", "Group"⟩, "former_group", .toOne⟩ (memberSchema [formerKey]) groupKey.name := by
  refine ⟨by decide, by decide, by decide, by decide, ?_⟩
  exact ⟨rfl, rfl, .inl ⟨rfl, rfl⟩⟩

end NestedFilter
