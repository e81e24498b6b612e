import NestedFilter.Proofs.Agreement

/-!
The spelling of relation annotations. A strategy that sees names through their snake case form finds
the same keys and junction tables under every spelling, so nothing else in a reflection or in a
compilation depends on it either.
-/

set_option autoImplicit false

namespace NestedFilter

open Text (isBlank snakeCase)

-- Two spellings of a text. A blank annotation is refused, so only a blank text can stand for it.
structure Respells (a b : String) : Prop where
  blank : isBlank a = isBlank b
  form : snakeCase a = snakeCase b

structure RespelledField (a b : FieldDef) : Prop where
  name : a.name = b.name
  fieldType : a.fieldType = b.fieldType
  columnName : a.columnName = b.columnName
  isPrimaryKey : a.isPrimaryKey = b.isPrimaryKey
  foreignKey : Option.Rel Respells a.annotations.foreignKey b.annotations.foreignKey
  manyToMany : Option.Rel Respells a.annotations.manyToMany b.annotations.manyToMany

structure Respelled (a b : EntitySchema) : Prop where
  name : a.name = b.name
  tableName : a.tableName = b.tableName
  fields : List.Forall₂ RespelledField a.fields b.fields

structure IgnoresSpelling (naming : NamingStrategy) : Prop where
  column : ∀ table a b, snakeCase a = snakeCase b →
    naming.columnName table a = naming.columnName table b
  junction : ∀ a b, snakeCase a = snakeCase b → naming.joinTableName a = naming.joinTableName b

theorem snake_case_ignores_spelling (settings : SnakeCaseNaming) :
    IgnoresSpelling settings.strategy := by
  constructor
  · intro _ a b form
    exact form
  · intro a b form
    exact congrArg (settings.tablePrefix ++ ·) form

theorem fields_plain_respelled (first second : FieldDef)
    (respelled : RespelledField first second) : first.isPlain = second.isPlain := by
  have empty : first.annotations.isEmpty = second.annotations.isEmpty := by
    have key := respelled.foreignKey
    have table := respelled.manyToMany
    unfold RelationAnnotations.isEmpty
    generalize first.annotations.foreignKey = a, second.annotations.foreignKey = b at key ⊢
    generalize first.annotations.manyToMany = c, second.annotations.manyToMany = d at table ⊢
    cases key <;> cases table <;> rfl
  rw [FieldDef.isPlain, respelled.fieldType, empty, FieldDef.isPlain]

section

variable (naming : NamingStrategy) (ignores : IgnoresSpelling naming) (a b : EntitySchema)
  (respelled : Respelled a b)

include respelled

theorem table_respelled : naming.table a = naming.table b :=
  table_alike naming a b respelled.name respelled.tableName

theorem column_respelled (first second : FieldDef) (pair : RespelledField first second) :
    naming.column a first = naming.column b second :=
  column_alike naming a b (table_respelled naming a b respelled) first second pair.name
    pair.columnName

theorem key_field_respelled (key other : String) (form : snakeCase key = snakeCase other) :
    Option.Rel RespelledField (NamingStrategy.keyField? a key)
      (NamingStrategy.keyField? b other) := by
  apply find_related _ _ _ respelled.fields
  intro first second pair
  rw [names_key_form, names_key_form, pair.name, form]

theorem primary_key_field_respelled :
    Option.Rel RespelledField a.primaryKeyField? b.primaryKeyField? := by
  have flagged : Option.Rel RespelledField (a.fields.find? (·.isPrimaryKey))
      (b.fields.find? (·.isPrimaryKey)) :=
    find_related _ _ _ respelled.fields _ _ fun _ _ pair => pair.isPrimaryKey
  have named : Option.Rel RespelledField (a.getField? "id") (b.getField? "id") :=
    find_related _ _ _ respelled.fields _ _ fun _ _ pair => by rw [pair.name]
  unfold EntitySchema.primaryKeyField?
  generalize a.fields.find? (·.isPrimaryKey) = one, b.fields.find? (·.isPrimaryKey) = other
    at flagged ⊢
  cases flagged with
  | none => exact named
  | some pair => exact .some pair

theorem primary_key_respelled : naming.primaryKey a = naming.primaryKey b := by
  have field := primary_key_field_respelled a b respelled
  unfold NamingStrategy.primaryKey
  generalize a.primaryKeyField? = one, b.primaryKeyField? = other at field ⊢
  cases field with
  | none => rw [table_respelled naming a b respelled]
  | some pair => exact column_respelled naming a b respelled _ _ pair

theorem declared_columns_respelled : declaredColumns naming a = declaredColumns naming b := by
  unfold declaredColumns
  simp only [← List.filterMap_eq_filter, List.map_filterMap]
  congr 1
  apply filter_map_related _ _ _ respelled.fields
  intro first second pair
  simp only [Option.guard, fields_plain_respelled first second pair]
  split
  · exact congrArg some (column_respelled naming a b respelled first second pair)
  · rfl

include ignores

theorem key_column_respelled (key other : String) (form : snakeCase key = snakeCase other) :
    naming.keyColumn a key = naming.keyColumn b other := by
  have field := key_field_respelled a b respelled key other form
  unfold NamingStrategy.keyColumn
  generalize NamingStrategy.keyField? a key = one, NamingStrategy.keyField? b other = another
    at field ⊢
  cases field with
  | none => rw [table_respelled naming a b respelled, ignores.column _ key other form]
  | some pair => exact column_respelled naming a b respelled _ _ pair

theorem junction_relation_respelled (related : EntityRef) (table another : String)
    (form : snakeCase table = snakeCase another) :
    junctionRelation naming a related table = junctionRelation naming b related another := by
  rw [junctionRelation, junctionRelation, ignores.junction _ _ form, respelled.name]

end

section

variable (naming : NamingStrategy) (ignores : IgnoresSpelling naming) (registry other : Registry)
  (resolved : ∀ key, Respelled (registry key) (other key)) (a b : EntitySchema)
  (respelled : Respelled a b)

include ignores resolved respelled

theorem key_relation_respelled (related : EntityRef) (key another : String)
    (form : snakeCase key = snakeCase another) (shape : FieldShape) :
    keyRelation registry naming a related key shape =
      keyRelation other naming b related another shape := by
  cases shape with
  | single =>
      rw [keyRelation, keyRelation, key_column_respelled naming ignores a b respelled _ _ form]
  | collection =>
      rw [keyRelation, keyRelation, Registry.resolve, Registry.resolve,
        key_column_respelled naming ignores _ _ (resolved related.key) _ _ form]

theorem classify_respelled (first second : FieldDef) (pair : RespelledField first second) :
    classify registry naming a first = classify other naming b second := by
  have key := pair.foreignKey
  have table := pair.manyToMany
  unfold classify
  rw [pair.fieldType, pair.name, respelled.name]
  generalize first.annotations.foreignKey = k, second.annotations.foreignKey = l at key ⊢
  generalize first.annotations.manyToMany = t, second.annotations.manyToMany = u at table ⊢
  cases second.fieldType.shape? with
  | none => rfl
  | some shape =>
      cases second.fieldType.entityRef? with
      | none => rfl
      | some related =>
          cases key with
          | some keys =>
              simp only [keys.blank, key_relation_respelled naming ignores registry other resolved
                a b respelled related _ _ keys.form shape]
          | none =>
              cases table with
              | none => rfl
              | some tables =>
                  simp only [tables.blank, junction_relation_respelled naming ignores a b
                    respelled related _ _ tables.form]

theorem field_role_respelled (first second : FieldDef) (pair : RespelledField first second) :
    fieldRole registry naming a first = fieldRole other naming b second := by
  rw [fieldRole, fields_plain_respelled first second pair,
    classify_respelled naming ignores registry other resolved a b respelled first second pair,
    fieldRole]

theorem declared_relations_respelled :
    declaredRelations registry naming a = declaredRelations other naming b := by
  apply filter_map_related _ _ _ respelled.fields
  intro first second pair
  rw [field_role_respelled naming ignores registry other resolved a b respelled first second pair,
    column_respelled naming a b respelled first second pair]

theorem reflect_respelled : reflect registry naming a = reflect other naming b := by
  unfold reflect
  rw [declared_relations_respelled naming ignores registry other resolved a b respelled,
    declared_columns_respelled naming a b respelled, respelled.name,
    table_respelled naming a b respelled, primary_key_respelled naming a b respelled]

theorem missing_relation_respelled (column : String) :
    missingRelation registry naming a column = missingRelation other naming b column := by
  have declared : Option.Rel RespelledField
      (a.fields.find? fun field =>
        field.fieldType.shape?.isSome && naming.column a field == column)
      (b.fields.find? fun field =>
        field.fieldType.shape?.isSome && naming.column b field == column) := by
    apply find_related _ _ _ respelled.fields
    intro first second pair
    rw [pair.fieldType, column_respelled naming a b respelled first second pair]
  unfold missingRelation
  generalize a.fields.find? _ = one, b.fields.find? _ = another at declared ⊢
  cases declared with
  | none => simp only [Option.map_none, respelled.name]
  | some pair =>
      simp only [Option.map_some, respelled.name,
        classify_respelled naming ignores registry other resolved a b respelled _ _ pair]

theorem partition_respelled (entity : EntityRelations) (entries : Filter) :
    partition registry naming a entity entries = partition other naming b entity entries := by
  have missing := missing_relation_respelled naming ignores registry other resolved a b respelled
  have placed : ∀ column value, placeEntry registry naming a entity column value =
      placeEntry other naming b entity column value := by
    intro column value
    unfold placeEntry
    simp only [missing, respelled.name]
  simp only [partition, placed]

theorem field_records_respelled (first second : List FieldDef)
    (pairs : List.Forall₂ RespelledField first second) (seen : List String) :
    fieldRecords registry naming a seen first = fieldRecords other naming b seen second := by
  induction pairs generalizing seen with
  | nil => rfl
  | cons pair _ ih =>
      unfold fieldRecords
      simp only [field_role_respelled naming ignores registry other resolved a b respelled _ _ pair,
        column_respelled naming a b respelled _ _ pair, respelled.name, pair.name, ih]

theorem session_relations_respelled :
    Session.relations registry naming a = Session.relations other naming b := by
  have reflected := reflect_respelled naming ignores registry other resolved a b respelled
  have records : reflectionRecords registry naming a = reflectionRecords other naming b := by
    unfold reflectionRecords
    rw [field_records_respelled naming ignores registry other resolved a b respelled _ _
      respelled.fields, reflected, respelled.name]
  have key : RelationCache.key naming a = RelationCache.key naming b := by
    rw [RelationCache.key, RelationCache.key, respelled.name]
  simp only [Session.relations, RelationCache.fetch, RelationCache.fetchRecords, key, reflected,
    records, respelled.name]

end

section

variable (compiler : Compiler) (ignores : IgnoresSpelling compiler.naming) (other : Registry)
  (resolved : ∀ key, Respelled (compiler.registry key) (other key))

include ignores resolved

theorem level_respelled (a b : EntitySchema) (respelled : Respelled a b) (entries : Filter)
    (deeper others : EntityRelations → Plan (List Sql.Predicate))
    (below : ∀ entity, (deeper entity).run compiler.registry = (others entity).run other) :
    (compiler.level a entries deeper).run compiler.registry =
      ((compiler.withRegistry other).level b entries others).run other := by
  have relations := session_relations_respelled compiler.naming ignores compiler.registry other
    resolved a b respelled
  have scalars : ∀ entity, compiler.levelScalars a entity entries =
      (compiler.withRegistry other).levelScalars b entity entries := by
    intro entity
    have parts := partition_respelled compiler.naming ignores compiler.registry other resolved a b
      respelled entity entries
    simp only [Compiler.levelScalars, Compiler.withRegistry, parts]
  rw [level_as_scalars, level_as_scalars]
  simp only [run_bind, run_relations, run_answer, run_pure, below, scalars]
  simp only [Compiler.withRegistry, relations]

theorem nested_object_respelled (owner : EntityRelations) (column : String) (entries : Filter)
    (below : ∀ entity, (compiler.nestedPredicates entity entries).run compiler.registry =
      ((compiler.withRegistry other).nestedPredicates entity entries).run other) :
    (compiler.nestedPredicate owner column (.object entries)).run compiler.registry =
      ((compiler.withRegistry other).nestedPredicate owner column (.object entries)).run other := by
  unfold Compiler.nestedPredicate
  cases owner.relation? column with
  | none => rfl
  | some relation =>
      have schemas := resolved relation.related.key
      have relations := session_relations_respelled compiler.naming ignores compiler.registry other
        resolved _ _ schemas
      have level := level_respelled compiler ignores other resolved _ _ schemas entries _ _ below
      simp only [Registry.resolve, run_bind, run_relations, run_record, run_pure] at level ⊢
      rw [level, relations]
      rfl

theorem nested_predicates_respelled (entries : Filter) (owner : EntityRelations) :
    (compiler.nestedPredicates owner entries).run compiler.registry =
      ((compiler.withRegistry other).nestedPredicates owner entries).run other := by
  induction entries using filter_induction generalizing owner with
  | nil => rfl
  | plain column value rest plain ih =>
      simp only [Compiler.nestedPredicates, run_bind, run_pure, ih,
        nested_plain compiler owner column value plain,
        nested_plain (compiler.withRegistry other) owner column value plain]
  | nested column inner rest ihInner ihRest =>
      simp only [Compiler.nestedPredicates, run_bind, run_pure, ihRest,
        nested_object_respelled compiler ignores other resolved owner column inner ihInner]

theorem compile_respelled (a b : EntitySchema) (respelled : Respelled a b)
    (filters : List Filter) :
    compiler.compile a filters = (compiler.withRegistry other).compile b filters := by
  have level := level_respelled compiler ignores other resolved a b respelled filters.flatten _ _
    fun entity => nested_predicates_respelled compiler ignores other resolved filters.flatten entity
  have registry : (compiler.withRegistry other).registry = other := rfl
  simp only [Compiler.compile, Compiler.plan, Compiler.predicates, run_bind, run_record, run_pure,
    registry, level, respelled.name]

end

-- With the same choices of columns even the errors are the same.
theorem annotation_spelling_irrelevant (settings : SnakeCaseNaming) (registry other : Registry)
    (a b : EntitySchema) (resolved : ∀ key, Respelled (registry key) (other key))
    (respelled : Respelled a b) :
    reflect registry settings.strategy a = reflect other settings.strategy b ∧
      ∀ (options : FilterOptions) (filters : List Filter),
        let compiler := Compiler.mk registry settings.strategy options
        let compile := compiler.compile a filters
        let recompile := (Compiler.mk other settings.strategy options).compile b filters
        compile = recompile ∧
          ∀ session otherSession : Session, session.cache = otherSession.cache →
            SameReport ((compiler.plan a filters).Meets registry session.cache)
              (compile.outcome session) (recompile.outcome otherSession) := by
  have ignores := snake_case_ignores_spelling settings
  constructor
  · exact reflect_respelled settings.strategy ignores registry other resolved a b respelled
  · intro options filters compiler compile recompile
    have same : compile = recompile :=
      compile_respelled compiler ignores other resolved a b respelled filters
    refine ⟨same, fun session otherSession caches => ?_⟩
    rw [← same]
    exact run_same_report registry (compiler.plan a filters) session otherSession caches

-- Players name their club by a key that is declared with a column of its own, and their captain by
-- a key that is not declared.
def playerSchema (clubKey captainKey rivals : String) : EntitySchema where
  name := "Player"
  fields := [
    { name := "id", fieldType := .scalar "i64" },
    { name := "club_ref", fieldType := .scalar "i64", columnName := some "club_number" },
    { name := "club", fieldType := .pointer (.entity ⟨"Club", "Club"⟩),
      annotations := { foreignKey := some clubKey } },
    { name := "captain", fieldType := .pointer (.entity ⟨"Player", "Player"⟩),
      annotations := { foreignKey := some captainKey } },
    { name := "rivals", fieldType := .list (.entity ⟨"Player", "Player"⟩),
      annotations := { manyToMany := some rivals } }]

def clubSchema (clubKey : String) : EntitySchema where
  name := "Club"
  fields := [
    { name := "id", fieldType := .scalar "i64" },
    { name := "players", fieldType := .list (.entity ⟨"Player", "Player"⟩),
      annotations := { foreignKey := some clubKey } }]

def leagueRegistry (clubKey otherClubKey captainKey rivals : String) : Registry :=
  (Registry.empty.define "Player" (playerSchema clubKey captainKey rivals)).define "Club"
    (clubSchema otherClubKey)

theorem respelled_define (registry other : Registry) (key : String) (a b : EntitySchema)
    (resolved : ∀ name, Respelled (registry name) (other name)) (respelled : Respelled a b)
    (name : String) : Respelled (registry.define key a name) (other.define key b name) := by
  unfold Registry.define
  by_cases defined : name = key
  · rw [if_pos defined, if_pos defined]
    exact respelled
  · rw [if_neg defined, if_neg defined]
    exact resolved name

theorem league_respelled (name : String) :
    Respelled (leagueRegistry "club_ref" "club_ref" "captain_key" "player_rivals" name)
      (leagueRegistry "ClubRef" "clubRef" "CaptainKey" "PlayerRivals" name) := by
  have plain : ∀ field : FieldDef, field.annotations = {} → RespelledField field field := by
    intro field plain
    exact ⟨rfl, rfl, rfl, rfl, plain ▸ .none, plain ▸ .none⟩
  have player : Respelled (playerSchema "club_ref" "captain_key" "player_rivals")
      (playerSchema "ClubRef" "CaptainKey" "PlayerRivals") :=
    ⟨rfl, rfl, .cons (plain _ rfl) (.cons (plain _ rfl)
      (.cons ⟨rfl, rfl, rfl, rfl, .some ⟨by decide, by decide⟩, .none⟩
        (.cons ⟨rfl, rfl, rfl, rfl, .some ⟨by decide, by decide⟩, .none⟩
          (.cons ⟨rfl, rfl, rfl, rfl, .none, .some ⟨by decide, by decide⟩⟩ .nil))))⟩
  have club : Respelled (clubSchema "club_ref") (clubSchema "clubRef") :=
    ⟨rfl, rfl, .cons (plain _ rfl)
      (.cons ⟨rfl, rfl, rfl, rfl, .some ⟨by decide, by decide⟩, .none⟩ .nil)⟩
  apply respelled_define _ _ _ _ _ _ club
  apply respelled_define _ _ _ _ _ _ player
  intro key
  exact ⟨rfl, rfl, .nil⟩

theorem league_spelling_irrelevant :
    let spelled := leagueRegistry "club_ref" "club_ref" "captain_key" "player_rivals"
    let respelled := leagueRegistry "ClubRef" "clubRef" "CaptainKey" "PlayerRivals"
    let naming := SnakeCaseNaming.strategy { tablePrefix := "league_" }
    (∀ name, Respelled (spelled name) (respelled name)) ∧
      reflect respelled naming (respelled "Player") = .ok {
        entity := "Player"
        table := "league_players"
        primaryKey := "id"
        relations := [
          ("club", ⟨⟨"Club", "Club"⟩, "club_number", .toOne⟩),
          ("captain", ⟨⟨"Player", "Player"⟩, "captain_key", .toOne⟩),
          ("rivals", ⟨⟨"Player", "Player"⟩, "player_id",
            .manyToMany ⟨"league_player_rivals", "player_id", "player_id"⟩⟩)]
        columns := ["club_number", "id"] } ∧
      ∀ (options : FilterOptions) (filters : List Filter),
        (Compiler.mk spelled naming options).compile (spelled "Club") filters =
          (Compiler.mk respelled naming options).compile (respelled "Club") filters := by
  intro spelled respelled naming
  have players := annotation_spelling_irrelevant { tablePrefix := "league_" } spelled respelled
    (spelled "Player") (respelled "Player") league_respelled (league_respelled "Player")
  have clubs := annotation_spelling_irrelevant { tablePrefix := "league_" } spelled respelled
    (spelled "Club") (respelled "Club") league_respelled (league_respelled "Club")
  refine ⟨league_respelled, ?_, fun options filters => (clubs.2 options filters).1⟩
  rw [← players.1]
  decide

end NestedFilter
