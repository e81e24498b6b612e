import NestedFilter.Relation.Reflect

/-!
What the names of tables and columns depend on, and what reflection keeps of a declared field: its
column, its classification and the entity it refers to.
-/

set_option autoImplicit false

namespace NestedFilter

open Text (snakeCase)

theorem table_alike (naming : NamingStrategy) (a b : EntitySchema) (name : a.name = b.name)
    (tableName : a.tableName = b.tableName) : naming.table a = naming.table b := by
  rw [NamingStrategy.table, tableName, name, NamingStrategy.table]

theorem column_alike (naming : NamingStrategy) (a b : EntitySchema)
    (table : naming.table a = naming.table b) (first second : FieldDef)
    (name : first.name = second.name) (columnName : first.columnName = second.columnName) :
    naming.column a first = naming.column b second := by
  rw [NamingStrategy.column, columnName, name, table, NamingStrategy.column]

theorem names_key_form (name key : String) :
    (name == key || snakeCase name == snakeCase key) = (snakeCase name == snakeCase key) := by
  cases exact : name == key with
  | false => rfl
  | true =>
      obtain rfl := eq_of_beq exact
      simp

theorem classified_parts (registry : Registry) (naming : NamingStrategy) (owner : EntitySchema)
    (field : FieldDef) (relation : Relation)
    (classified : classify registry naming owner field = .ok relation) :
    ∃ shape related, field.fieldType.shape? = some shape ∧
      field.fieldType.entityRef? = some related ∧
      ((∃ key, field.annotations.foreignKey = some key ∧
          relation = keyRelation registry naming owner related key shape) ∨
        ∃ table, field.annotations.foreignKey = none ∧
          field.annotations.manyToMany = some table ∧
          relation = junctionRelation naming owner related table) := by
  unfold classify at classified
  cases shaped : field.fieldType.shape? with
  | none => simp [shaped] at classified
  | some shape =>
      cases found : field.fieldType.entityRef? with
      | none => simp [shaped, found] at classified
      | some related =>
          refine ⟨shape, related, rfl, rfl, ?_⟩
          cases keyed : field.annotations.foreignKey with
          | some key =>
              simp only [shaped, found, keyed] at classified
              split at classified
              · cases classified
              · exact .inl ⟨key, rfl, (Except.ok.inj classified).symm⟩
          | none =>
              cases linked : field.annotations.manyToMany with
              | none => simp [shaped, found, keyed, linked] at classified
              | some table =>
                  simp only [shaped, found, keyed, linked] at classified
                  split at classified
                  · cases classified
                  · exact .inr ⟨table, rfl, rfl, (Except.ok.inj classified).symm⟩

theorem key_relation_related (registry : Registry) (naming : NamingStrategy)
    (owner : EntitySchema) (related : EntityRef) (key : String) (shape : FieldShape) :
    (keyRelation registry naming owner related key shape).related = related := by
  cases shape <;> rfl

theorem classify_related (registry : Registry) (naming : NamingStrategy) (owner : EntitySchema)
    (field : FieldDef) (relation : Relation)
    (classified : classify registry naming owner field = .ok relation) :
    field.fieldType.entityRef? = some relation.related := by
  obtain ⟨shape, related, _, found, parts⟩ :=
    classified_parts registry naming owner field relation classified
  rcases parts with ⟨key, _, rfl⟩ | ⟨table, _, _, rfl⟩
  · rw [key_relation_related, found]
  · exact found

theorem classified_not_plain (registry : Registry) (naming : NamingStrategy)
    (owner : EntitySchema) (field : FieldDef) (relation : Relation)
    (classified : classify registry naming owner field = .ok relation) :
    field.isPlain = false := by
  have refers := classify_related registry naming owner field relation classified
  unfold FieldType.entityRef? at refers
  unfold FieldDef.isPlain
  cases element : field.fieldType.element with
  | entity ref => rfl
  | scalar _ | struct _ | pointer _ | list _ => simp [element] at refers

theorem classified_to_one (registry : Registry) (naming : NamingStrategy) (owner : EntitySchema)
    (field : FieldDef) (relation : Relation)
    (classified : classify registry naming owner field = .ok relation)
    (kind : relation.kind = .toOne) :
    ∃ key, field.annotations.foreignKey = some key ∧
      relation.foreignKey = naming.keyColumn owner key := by
  obtain ⟨shape, related, _, _, parts⟩ :=
    classified_parts registry naming owner field relation classified
  rcases parts with ⟨key, annotated, rfl⟩ | ⟨table, _, _, rfl⟩
  · cases shape with
    | single => exact ⟨key, annotated, rfl⟩
    | collection => cases kind
  · cases kind

theorem classified_to_many (registry : Registry) (naming : NamingStrategy) (owner : EntitySchema)
    (field : FieldDef) (relation : Relation)
    (classified : classify registry naming owner field = .ok relation)
    (kind : relation.kind = .toMany) :
    ∃ key, field.annotations.foreignKey = some key ∧
      relation.foreignKey = naming.keyColumn (registry.resolve relation.related) key := by
  obtain ⟨shape, related, _, _, parts⟩ :=
    classified_parts registry naming owner field relation classified
  rcases parts with ⟨key, annotated, rfl⟩ | ⟨table, _, _, rfl⟩
  · cases shape with
    | single => cases kind
    | collection => exact ⟨key, annotated, rfl⟩
  · cases kind

theorem classified_many_to_many (registry : Registry) (naming : NamingStrategy)
    (owner : EntitySchema) (field : FieldDef) (relation : Relation) (junction : Junction)
    (classified : classify registry naming owner field = .ok relation)
    (kind : relation.kind = .manyToMany junction) :
    junction.relatedKey = naming.foreignKeyName relation.related.name ∧
      junction.ownerKey = naming.foreignKeyName owner.name := by
  obtain ⟨shape, related, _, _, parts⟩ :=
    classified_parts registry naming owner field relation classified
  rcases parts with ⟨key, _, rfl⟩ | ⟨table, _, _, rfl⟩
  · cases shape <;> cases kind
  · cases kind
    exact ⟨rfl, rfl⟩

theorem declared_relation_field (registry : Registry) (naming : NamingStrategy)
    (schema : EntitySchema) (column : String) (relation : Relation)
    (listed : (column, relation) ∈ declaredRelations registry naming schema) :
    ∃ field ∈ schema.fields, naming.column schema field = column ∧
      classify registry naming schema field = .ok relation := by
  obtain ⟨field, declared, placed⟩ := List.mem_filterMap.mp listed
  refine ⟨field, declared, ?_⟩
  unfold fieldRole at placed
  split at placed
  · simp [FieldRole.relation?] at placed
  · split at placed
    · rename_i classified
      simp only [FieldRole.relation?, Option.map_some, Option.some.injEq, Prod.mk.injEq] at placed
      obtain ⟨sameColumn, sameRelation⟩ := placed
      exact ⟨sameColumn, sameRelation ▸ classified⟩
    · simp [FieldRole.relation?] at placed

theorem relation_listed (entity : EntityRelations) (column : String) (relation : Relation)
    (found : entity.relation? column = some relation) : (column, relation) ∈ entity.relations := by
  obtain ⟨entry, search, rfl⟩ := Option.map_eq_some_iff.mp found
  have same : entry.1 = column := by simpa using List.find?_some search
  simpa [← same] using List.mem_of_find?_eq_some search

theorem reflect_parts (registry : Registry) (naming : NamingStrategy) (schema : EntitySchema)
    (entity : EntityRelations) (reflected : reflect registry naming schema = .ok entity) :
    entity.table = naming.table schema ∧ entity.primaryKey = naming.primaryKey schema ∧
      entity.relations = declaredRelations registry naming schema ∧
      entity.columns = declaredColumns naming schema := by
  simp only [reflect] at reflected
  split at reflected
  · simp at reflected
  · cases reflected
    exact ⟨rfl, rfl, rfl, rfl⟩

end NestedFilter
