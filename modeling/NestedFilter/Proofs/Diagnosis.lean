import NestedFilter.Proofs.Collision
import NestedFilter.Proofs.Rules

/-!
What the errors of compilation say. An error is about one entry of a mapping and about the entity
that the mapping belongs to, or about two fields of an entity that share a name.
-/

set_option autoImplicit false

namespace NestedFilter

open Json (Value)
open Sql (Predicate qualified)

def RelationAnnotations.deciding? (annotations : RelationAnnotations) :
    Option (AnnotationKey × String) :=
  (annotations.foreignKey.map fun text => (.foreignKey, text)).or
    (annotations.manyToMany.map fun text => (.manyToMany, text))

inductive Unrelated (field : FieldDef) : Option AnnotationKey → Prop where
  | undecided (bare : field.fieldType.entityRef? = none ∨ field.annotations.deciding? = none) :
      Unrelated field none
  | blank (key : AnnotationKey) (text : String) (ref : EntityRef)
      (refers : field.fieldType.entityRef? = some ref)
      (decides : field.annotations.deciding? = some (key, text))
      (empty : Text.isBlank text = true) : Unrelated field (some key)

def refusal (schema : EntitySchema) (field : FieldDef) : Option AnnotationKey → FilterError
  | none => .unclassifiableRelation schema.name field.name
  | some key => .emptyAnnotationValue schema.name field.name key

theorem classify_refusal (registry : Registry) (naming : NamingStrategy) (owner : EntitySchema)
    (field : FieldDef) (error : FilterError) (structLike : field.fieldType.shape?.isSome = true)
    (failed : classify registry naming owner field = .error error) :
    ∃ reason, Unrelated field reason ∧ error = refusal owner field reason := by
  obtain ⟨shape, shaped⟩ := Option.isSome_iff_exists.mp structLike
  unfold classify at failed
  cases found : field.fieldType.entityRef? with
  | none =>
      simp only [shaped, found, Except.error.injEq] at failed
      exact ⟨none, .undecided (.inl found), failed.symm⟩
  | some related =>
      cases keyed : field.annotations.foreignKey with
      | some key =>
          have decides : field.annotations.deciding? = some (.foreignKey, key) := by
            simp [RelationAnnotations.deciding?, keyed]
          by_cases blank : Text.isBlank key = true
          · simp only [shaped, found, keyed, blank, if_true, Except.error.injEq] at failed
            exact ⟨_, .blank .foreignKey key related found decides blank, failed.symm⟩
          · simp [shaped, found, keyed, blank] at failed
      | none =>
          cases linked : field.annotations.manyToMany with
          | some table =>
              have decides : field.annotations.deciding? = some (.manyToMany, table) := by
                simp [RelationAnnotations.deciding?, keyed, linked]
              by_cases blank : Text.isBlank table = true
              · simp only [shaped, found, keyed, linked, blank, if_true, Except.error.injEq]
                  at failed
                exact ⟨_, .blank .manyToMany table related found decides blank, failed.symm⟩
              · simp [shaped, found, keyed, linked, blank] at failed
          | none =>
              have bare : field.annotations.deciding? = none := by
                simp [RelationAnnotations.deciding?, keyed, linked]
              simp only [shaped, found, keyed, linked, Except.error.injEq] at failed
              exact ⟨none, .undecided (.inr bare), failed.symm⟩

section

variable (registry : Registry) (naming : NamingStrategy)

-- The mappings of a filter, each with the entity that it is about: the root mappings, and what
-- stands under a relation in one of them.
inductive NestedIn (root : EntitySchema) (filters : List Filter) :
    EntitySchema → Filter → Prop where
  | root (filter : Filter) (member : filter ∈ filters) : NestedIn root filters root filter
  | under (schema : EntitySchema) (entity : EntityRelations) (mapping inner : Filter)
      (column : String) (relation : Relation) (around : NestedIn root filters schema mapping)
      (reflected : reflect registry naming schema = .ok entity)
      (listed : (column, .object inner) ∈ mapping)
      (found : entity.relation? column = some relation) :
      NestedIn root filters (registry.resolve relation.related) inner

inductive Fault (schema : EntitySchema) (entity : EntityRelations) :
    String → Value → FilterError → Prop where
  | unknown (column : String) (value : Value) (noRelation : entity.relation? column = none)
      (noColumn : isNested value = false → entity.hasColumn column = false)
      (noStruct : isNested value = true → ∀ field ∈ schema.fields,
        field.fieldType.shape?.isSome = true → naming.column schema field ≠ column) :
      Fault schema entity column value (.unknownField schema.name column)
  | unrelated (column : String) (inner : Filter) (field : FieldDef) (reason : Option AnnotationKey)
      (noRelation : entity.relation? column = none) (declared : field ∈ schema.fields)
      (structLike : field.fieldType.shape?.isSome = true)
      (named : naming.column schema field = column) (unrelated : Unrelated field reason) :
      Fault schema entity column (.object inner) (refusal schema field reason)
  | plainValue (column : String) (value : Value) (relation : Relation)
      (found : entity.relation? column = some relation) (plain : isNested value = false) :
      Fault schema entity column value (.invalidValue column .relationNeedsFilter)
  | nestedItem (column : String) (items : List Value) (item : Value)
      (declared : entity.hasColumn column = true) (member : item ∈ items)
      (nested : isNested item = true) :
      Fault schema entity column (.array items) (.invalidValue column .nestedFilterInList)
  | unfitItem (column : String) (items : List Value) (item : Value)
      (declared : entity.hasColumn column = true) (member : item ∈ items)
      (unfit : item.kind = .null ∨ item.kind = .array) :
      Fault schema entity column (.array items) (.invalidValue column (.notAScalar item.kind))

theorem missing_relation_fault (schema : EntitySchema) (entity : EntityRelations)
    (reflected : reflect registry naming schema = .ok entity) (column : String) (inner : Filter)
    (noRelation : entity.relation? column = none) :
    Fault naming schema entity column (.object inner)
      (missingRelation registry naming schema column) := by
  unfold missingRelation
  cases found : schema.fields.find? fun field =>
      field.fieldType.shape?.isSome && naming.column schema field == column with
  | none =>
      refine .unknown column _ noRelation (by simp [isNested]) ?_
      intro _ field declared structLike same
      have apart := List.find?_eq_none.mp found field declared
      simp [structLike, same] at apart
  | some field =>
      have declared := List.mem_of_find?_eq_some found
      have placed := List.find?_some found
      rw [Bool.and_eq_true, beq_iff_eq] at placed
      obtain ⟨structLike, named⟩ := placed
      cases classified : classify registry naming schema field with
      | error error =>
          obtain ⟨reason, unrelated, rfl⟩ :=
            classify_refusal registry naming schema field error structLike classified
          simp only [Option.map_some, classified]
          exact .unrelated column inner field reason noRelation declared structLike named unrelated
      | ok relation =>
          have other := classified_not_plain registry naming schema field relation classified
          have known := (relation_found_iff registry naming schema entity reflected column
            relation).mpr ⟨field, declared, other, classified, named⟩
          cases noRelation.symm.trans known

theorem place_undeclared (schema : EntitySchema) (entity : EntityRelations) (column : String)
    (value : Value) (plain : isNested value = false)
    (undeclared : entity.hasColumn column = false) :
    placeEntry registry naming schema entity column value =
      if (entity.relation? column).isSome then .error (.invalidValue column .relationNeedsFilter)
      else .error (.unknownField schema.name column) := by
  cases value with
  | object inner => cases plain
  | _ => simp [placeEntry, undeclared]

theorem place_entry_fault (schema : EntitySchema) (entity : EntityRelations)
    (reflected : reflect registry naming schema = .ok entity) (column : String) (value : Value)
    (error : FilterError)
    (failed : placeEntry registry naming schema entity column value = .error error) :
    Fault naming schema entity column value error := by
  cases plain : isNested value with
  | true =>
      obtain ⟨inner, rfl⟩ := nested_value value plain
      cases found : entity.relation? column with
      | some relation => simp [placeEntry, found] at failed
      | none =>
          simp only [placeEntry, found, Except.error.injEq] at failed
          subst failed
          exact missing_relation_fault registry naming schema entity reflected column inner found
  | false =>
      cases declared : entity.hasColumn column with
      | true =>
          cases value with
          | object inner => cases plain
          | array items =>
              by_cases nested : items.any isNested = true
              · simp only [placeEntry, declared, nested, if_true, Except.error.injEq] at failed
                subst failed
                obtain ⟨item, member, isNested⟩ := List.any_eq_true.mp nested
                exact .nestedItem column items item declared member isNested
              · simp [placeEntry, declared, nested] at failed
          | _ => simp [placeEntry, declared] at failed
      | false =>
          rw [place_undeclared registry naming schema entity column value plain declared] at failed
          cases found : entity.relation? column with
          | some relation =>
              simp only [found, Option.isSome_some, if_true, Except.error.injEq] at failed
              subst failed
              exact .plainValue column value relation found plain
          | none =>
              simp only [found, Option.isSome_none, Bool.false_eq_true, if_false,
                Except.error.injEq] at failed
              subst failed
              exact .unknown column value found (fun _ => declared) (by simp [plain])

theorem scalar_value_error (field : String) (value : Value) (error : FilterError)
    (failed : scalarValue field value = .error error) :
    error = .invalidValue field (.notAScalar value.kind) ∧
      (value.kind = .null ∨ value.kind = .array ∨ isNested value = true) := by
  cases value with
  | number value => cases value <;> cases failed
  | bool value => cases failed
  | string text => cases failed
  | null | array _ | object _ =>
      cases failed
      simp [Value.kind, isNested]

theorem placed_scalar_fault (schema : EntitySchema) (entity : EntityRelations) (column : String)
    (value : Value) (entry : ScalarEntry) (wildcards : Bool) (error : FilterError)
    (placed : placeEntry registry naming schema entity column value = .ok (.scalar entry))
    (failed : scalarPredicate (qualified entity.table entry.column) entry.column entry.value
      wildcards = .error error) :
    Fault naming schema entity column value error := by
  -- Only a list can fail to make a predicate, and only where the partition did not look: a list with
  -- nested filters was refused before.
  cases plain : isNested value with
  | true =>
      obtain ⟨inner, rfl⟩ := nested_value value plain
      obtain ⟨relation, _, same⟩ := (place_object _ _ _ _ _ _ _).mp placed
      cases same
  | false =>
      obtain ⟨declared, noneNested, same⟩ := (place_plain _ _ _ _ _ _ _ plain).mp placed
      cases same
      cases value with
      | array items =>
          have refused : items.mapM (scalarValue column) = .error error := by
            simp only [scalarPredicate] at failed
            cases listed : items.mapM (scalarValue column) with
            | ok literals => simp [listed, Except.map] at failed
            | error other => simpa [listed, Except.map] using failed
          obtain ⟨item, member, itemFailed⟩ := map_all_error _ items error refused
          obtain ⟨rfl, unfit⟩ := scalar_value_error column item error itemFailed
          have notNested : isNested item = false := by
            simpa using List.any_eq_false.mp (noneNested items rfl) item member
          rcases unfit with null | array | nested
          · exact .unfitItem column items item declared member (.inl null)
          · exact .unfitItem column items item declared member (.inr array)
          · simp [nested] at notNested
      | object inner => cases plain
      | null => cases failed
      | bool value => cases failed
      | number value => cases value <;> cases failed
      | string text =>
          simp only [scalarPredicate] at failed
          split at failed <;> cases failed

theorem level_scalars_fault (compiler : Compiler) (schema : EntitySchema)
    (entity : EntityRelations) (entries : Filter) (error : FilterError)
    (reflected : reflect compiler.registry compiler.naming schema = .ok entity)
    (failed : compiler.levelScalars schema entity entries = .error error) :
    ∃ entry ∈ entries, Fault compiler.naming schema entity entry.1 entry.2 error := by
  unfold Compiler.levelScalars partition at failed
  rw [bind_error_iff] at failed
  rcases failed with unplaced | ⟨parts, split, refused⟩
  · rcases (bind_error_iff _ _ _).mp unplaced with unplaced | ⟨_, _, ended⟩
    · obtain ⟨entry, listed, failed⟩ := map_all_error _ entries error unplaced
      exact ⟨entry, listed, place_entry_fault compiler.registry compiler.naming schema entity
        reflected entry.1 entry.2 error failed⟩
    · cases ended
  · obtain ⟨placed, all, same⟩ := (bind_ok_iff _ _ _).mp split
    cases same
    obtain ⟨scalar, kept, failed⟩ := map_all_error _ _ error refused
    obtain ⟨place, member, isScalar⟩ := List.mem_filterMap.mp kept
    obtain ⟨entry, listed, found⟩ := (map_all_mem_iff _ entries placed all place).mp member
    cases place with
    | relational other => cases isScalar
    | scalar other =>
        cases isScalar
        exact ⟨entry, listed, placed_scalar_fault compiler.registry compiler.naming schema entity
          entry.1 entry.2 scalar _ error found failed⟩

end

theorem direct_level_error (compiler : Compiler) (schema : EntitySchema) (entries : Filter)
    (refusal : Refusal) (failed : compiler.directLevel schema entries = .error refusal) :
    (∃ collision, refusal = .collided collision ∧
      reflect compiler.registry compiler.naming schema = .error collision) ∨
      ∃ entity, reflect compiler.registry compiler.naming schema = .ok entity ∧
        ((∃ error, refusal = .failed error ∧
          compiler.levelScalars schema entity entries = .error error) ∨
          compiler.directNestedPredicates entity entries = .error refusal) := by
  rw [direct_level_eq, bind_error_iff] at failed
  rcases failed with unreflected | ⟨entity, reflected, failed⟩
  · obtain ⟨collision, refused, rfl⟩ := (map_error_error_iff _ _ _).mp unreflected
    exact .inl ⟨collision, rfl, refused⟩
  · refine .inr ⟨entity, (map_error_ok_iff _ _ _).mp reflected, ?_⟩
    rcases (bind_error_iff _ _ _).mp failed with unscaled | ⟨scalars, _, failed⟩
    · obtain ⟨error, refused, rfl⟩ := (map_error_error_iff _ _ _).mp unscaled
      exact .inl ⟨error, rfl, refused⟩
    · rcases (bind_error_iff _ _ _).mp failed with below | ⟨_, _, ended⟩
      · exact .inr below
      · cases ended

theorem nested_predicate_error (compiler : Compiler) (owner : EntityRelations) (column : String)
    (value : Value) (refusal : Refusal)
    (failed : compiler.directNestedPredicate owner column value = .error refusal) :
    ∃ inner relation, value = .object inner ∧ owner.relation? column = some relation ∧
      compiler.directLevel (compiler.registry.resolve relation.related) inner =
        .error refusal := by
  cases plain : isNested value with
  | false =>
      rw [direct_nested_plain compiler owner column value plain] at failed
      cases failed
  | true =>
      obtain ⟨inner, rfl⟩ := nested_value value plain
      cases found : owner.relation? column with
      | none =>
          simp only [Compiler.directNestedPredicate, Compiler.nestedPredicate, found,
            direct_pure] at failed
          cases failed
      | some relation =>
          refine ⟨inner, relation, rfl, rfl, ?_⟩
          rw [direct_nested_object compiler owner column inner relation found] at failed
          rcases (bind_error_iff _ _ _).mp failed with unreflected | ⟨related, _, failed⟩
          · rw [direct_level_eq, unreflected]
            rfl
          · rcases (bind_error_iff _ _ _).mp failed with below | ⟨_, _, ended⟩
            · exact below
            · cases ended

theorem nested_predicates_error (compiler : Compiler) (owner : EntityRelations) (entries : Filter)
    (refusal : Refusal)
    (failed : compiler.directNestedPredicates owner entries = .error refusal) :
    ∃ column inner relation, (column, .object inner) ∈ entries ∧
      owner.relation? column = some relation ∧
      compiler.directLevel (compiler.registry.resolve relation.related) inner =
        .error refusal := by
  induction entries with
  | nil => cases failed
  | cons entry rest ih =>
      rw [direct_nested_cons] at failed
      rcases (bind_error_iff _ _ _).mp failed with first | ⟨_, _, failed⟩
      · obtain ⟨inner, relation, same, found, below⟩ :=
          nested_predicate_error compiler owner entry.1 entry.2 refusal first
        have listed : (entry.1, Value.object inner) ∈ entry :: rest := by
          simp [← same]
        exact ⟨entry.1, inner, relation, listed, found, below⟩
      · rcases (bind_error_iff _ _ _).mp failed with remaining | ⟨_, _, ended⟩
        · obtain ⟨column, inner, relation, listed, found, below⟩ := ih remaining
          exact ⟨column, inner, relation, List.mem_cons_of_mem entry listed, found, below⟩
        · cases ended

-- Induction over the levels of a filter: what holds of all mappings that stand in a mapping holds
-- of the mapping.
theorem level_induction {motive : Filter → Prop}
    (level : ∀ entries, (∀ column inner, (column, .object inner) ∈ entries → motive inner) →
      motive entries) (entries : Filter) : motive entries := by
  apply level
  induction entries using filter_induction with
  | nil =>
      intro column inner listed
      cases listed
  | plain name value rest plain ih =>
      intro column inner listed
      rcases List.mem_cons.mp listed with same | later
      · cases same
        cases plain
      · exact ih column inner later
  | nested name first rest ihFirst ihRest =>
      intro column inner listed
      rcases List.mem_cons.mp listed with same | later
      · cases same
        exact level first ihFirst
      · exact ihRest column inner later

section

variable (compiler : Compiler) (root : EntitySchema) (filters : List Filter)

def Arrives (schema : EntitySchema) : Prop :=
  schema = root ∨ ∃ mapping, NestedIn compiler.registry compiler.naming root filters schema mapping

-- The error is a collision in an entity that the filters lead to, or a fault of an entry in one of
-- their mappings.
def Diagnosed (error : FilterError) : Prop :=
  (∃ schema column, error = .nameCollision schema.name column ∧
    Arrives compiler root filters schema ∧
    Collides compiler.registry compiler.naming schema column) ∨
  ∃ schema entity mapping column value,
    NestedIn compiler.registry compiler.naming root filters schema mapping ∧
    reflect compiler.registry compiler.naming schema = .ok entity ∧ (column, value) ∈ mapping ∧
    Fault compiler.naming schema entity column value error

theorem level_diagnosed (entries : Filter) (schema : EntitySchema) (refusal : Refusal)
    (choice : Nat) (arrives : Arrives compiler root filters schema)
    (placed : ∀ entry ∈ entries, ∃ mapping,
      NestedIn compiler.registry compiler.naming root filters schema mapping ∧ entry ∈ mapping)
    (failed : compiler.directLevel schema entries = .error refusal) :
    Diagnosed compiler root filters (refusal.report choice) := by
  induction entries using level_induction generalizing schema with
  | level entries ih =>
      rcases direct_level_error compiler schema entries refusal failed with
        ⟨collision, rfl, unreflected⟩ | ⟨entity, reflected, ⟨error, rfl, refused⟩ | below⟩
      · obtain ⟨column, same, collides⟩ := reflect_error_collides compiler.registry
          compiler.naming schema collision unreflected choice
        exact .inl ⟨schema, column, same, arrives, collides⟩
      · obtain ⟨entry, listed, fault⟩ :=
          level_scalars_fault compiler schema entity entries error reflected refused
        obtain ⟨mapping, nested, member⟩ := placed entry listed
        exact .inr ⟨schema, entity, mapping, entry.1, entry.2, nested, reflected, member, fault⟩
      · obtain ⟨column, inner, relation, listed, found, failed⟩ :=
          nested_predicates_error compiler entity entries refusal below
        obtain ⟨mapping, nested, member⟩ := placed _ listed
        have under := NestedIn.under schema entity mapping inner column relation nested reflected
          member found
        exact ih column inner listed _ (.inr ⟨inner, under⟩)
          (fun entry inInner => ⟨inner, under, inInner⟩) failed

end

theorem reported_error_is_diagnosis (compiler : Compiler) (root : EntitySchema)
    (filters : List Filter) (session : Session) (error : FilterError)
    (coherent : Coherent compiler.registry [root]) (empty : session.cache.entries = [])
    (failed : (compiler.compile root filters).outcome session = .error error) :
    Diagnosed compiler root filters error := by
  rw [compile_from_empty compiler root filters session coherent empty, direct_eq] at failed
  obtain ⟨refusal, refused, rfl⟩ := (map_error_error_iff _ _ _).mp failed
  have level := (map_fails_iff _ _ _).mp refused
  apply level_diagnosed compiler root filters filters.flatten root refusal _ (.inl rfl) ?_ level
  intro entry listed
  obtain ⟨filter, member, inFilter⟩ := List.mem_flatten.mp listed
  exact ⟨filter, .root filter member, inFilter⟩

def misnamedFilters : List Filter := [
  [("name", .string "A*")],
  [("tags", .object [("people", .object [("mentor", .object [("nickname", .null)])])])]]

theorem misnamed_key_diagnosed :
    Coherent peopleRegistry [personSchema] ∧ ({} : Session).cache.entries = [] ∧
      (peopleCompiler.compile personSchema misnamedFilters).outcome {} =
        .error (.unknownField "Person" "nickname") ∧
      Diagnosed peopleCompiler personSchema misnamedFilters (.unknownField "Person" "nickname") :=
  ⟨people_coherent, rfl, rfl, reported_error_is_diagnosis peopleCompiler personSchema
    misnamedFilters {} _ people_coherent rfl rfl⟩

end NestedFilter
