import Mathlib.Data.List.Duplicate
import Mathlib.Data.List.NodupEquivFin
import NestedFilter.Proofs.Collision
import NestedFilter.Proofs.Reach

/-!
What reflection makes of the declared fields. Each is a plain column, a relation or skipped, and
reflection fails exactly when two declarations of the first two kinds clash. Otherwise it keeps
these two kinds under their columns, and nothing of the third.
-/

set_option autoImplicit false

namespace NestedFilter

-- No struct is inside, or one that is no entity and that nobody annotated.
inductive Plain (field : FieldDef) : Prop where
  | unstructured (noStruct : ∀ name, field.fieldType.element ≠ .struct name)
      (noEntity : ∀ ref, field.fieldType.element ≠ .entity ref)
  | value (name : String) (struct : field.fieldType.element = .struct name)
      (unannotated : field.annotations = {})

theorem annotations_empty_iff (annotations : RelationAnnotations) :
    annotations.isEmpty = true ↔ annotations = {} := by
  obtain ⟨foreignKey, manyToMany⟩ := annotations
  cases foreignKey <;> cases manyToMany <;> simp [RelationAnnotations.isEmpty]

theorem is_plain_iff (field : FieldDef) : field.isPlain = true ↔ Plain field := by
  unfold FieldDef.isPlain
  constructor
  · intro plain
    cases element : field.fieldType.element with
    | struct name =>
        simp only [element, annotations_empty_iff] at plain
        exact .value name element plain
    | entity ref => simp [element] at plain
    | scalar _ | pointer _ | list _ =>
        exact .unstructured (by simp [element]) (by simp [element])
  · intro plain
    cases plain with
    | value name struct unannotated =>
        simpa only [struct] using (annotations_empty_iff field.annotations).mpr unannotated
    | unstructured noStruct noEntity =>
        cases element : field.fieldType.element with
        | struct name => exact absurd element (noStruct name)
        | entity ref => exact absurd element (noEntity ref)
        | scalar _ | pointer _ | list _ => rfl

section

variable (registry : Registry) (naming : NamingStrategy) (schema : EntitySchema)

inductive HasRole (field : FieldDef) : FieldRole → Prop where
  | column (plain : Plain field) : HasRole field .column
  | relation (relation : Relation) (other : ¬ Plain field)
      (classified : classify registry naming schema field = .ok relation) :
      HasRole field (.relation relation)
  | skipped (reason : FilterError) (other : ¬ Plain field)
      (failed : classify registry naming schema field = .error reason) :
      HasRole field (.skipped reason)

theorem has_role_iff (field : FieldDef) (role : FieldRole) :
    HasRole registry naming schema field role ↔ fieldRole registry naming schema field = role := by
  unfold fieldRole
  constructor
  · intro hasRole
    cases hasRole with
    | column plain => rw [if_pos ((is_plain_iff field).mpr plain)]
    | relation relation other classified =>
        rw [if_neg (fun plain => other ((is_plain_iff field).mp plain)), classified]
    | skipped reason other failed =>
        rw [if_neg (fun plain => other ((is_plain_iff field).mp plain)), failed]
  · rintro rfl
    by_cases plain : Plain field
    · rw [if_pos ((is_plain_iff field).mpr plain)]
      exact .column plain
    · rw [if_neg (fun isPlain => plain ((is_plain_iff field).mp isPlain))]
      cases classified : classify registry naming schema field with
      | ok relation => exact .relation relation plain classified
      | error reason => exact .skipped reason plain classified

theorem column_role_iff (field : FieldDef) :
    HasRole registry naming schema field .column ↔ field.isPlain = true := by
  rw [is_plain_iff]
  constructor
  · intro hasRole
    cases hasRole with
    | column plain => exact plain
  · exact .column

theorem relation_role_iff (field : FieldDef) (relation : Relation) :
    HasRole registry naming schema field (.relation relation) ↔
      classify registry naming schema field = .ok relation := by
  constructor
  · intro hasRole
    cases hasRole with
    | relation _ _ classified => exact classified
  · intro classified
    have other := classified_not_plain registry naming schema field relation classified
    refine .relation relation ?_ classified
    rw [← is_plain_iff, other]
    exact Bool.false_ne_true

def Clash (column : String) : Prop :=
  ∃ first second : Fin schema.fields.length, first ≠ second ∧
    naming.column schema schema.fields[first] = column ∧
    naming.column schema schema.fields[second] = column ∧
    (∃ relation, HasRole registry naming schema schema.fields[first] (.relation relation)) ∧
    (HasRole registry naming schema schema.fields[second] .column ∨
      ∃ relation, HasRole registry naming schema schema.fields[second] (.relation relation))

end

theorem pair_subperm_iff {α : Type} [DecidableEq α] (a b : α) (items : List α) :
    [a, b].Subperm items ↔
      ∃ first second : Fin items.length, first ≠ second ∧ items[first] = a ∧ items[second] = b := by
  by_cases same : a = b
  · subst same
    have twice : [a, a].Subperm items ↔ List.Duplicate a items := by
      rw [List.duplicate_iff_two_le_count]
      constructor
      · intro inside
        simpa using inside.count_le a
      · intro counted
        exact (List.duplicate_iff_sublist.mp
          (List.duplicate_iff_two_le_count.mpr counted)).subperm
    rw [twice, List.duplicate_iff_exists_distinct_get]
    constructor
    · rintro ⟨first, second, before, atFirst, atSecond⟩
      exact ⟨first, second, before.ne, atFirst.symm, atSecond.symm⟩
    · rintro ⟨first, second, different, atFirst, atSecond⟩
      rcases lt_or_gt_of_ne different with before | after
      · exact ⟨first, second, before, atFirst.symm, atSecond.symm⟩
      · exact ⟨second, first, after, atSecond.symm, atFirst.symm⟩
  · constructor
    · intro inside
      obtain ⟨first, atFirst⟩ := List.mem_iff_get.mp (inside.subset (List.mem_cons_self))
      obtain ⟨second, atSecond⟩ :=
        List.mem_iff_get.mp (inside.subset (List.mem_cons_of_mem a List.mem_cons_self))
      refine ⟨first, second, ?_, atFirst, atSecond⟩
      rintro rfl
      exact same (atFirst.symm.trans atSecond)
    · rintro ⟨first, second, _, rfl, rfl⟩
      apply List.subperm_of_subset (by simpa using same)
      simp

section

variable (registry : Registry) (naming : NamingStrategy) (schema : EntitySchema)

theorem clash_iff_collides (column : String) :
    Clash registry naming schema column ↔ Collides registry naming schema column := by
  simp only [Clash, Collides, Takes, pair_subperm_iff, column_role_iff, relation_role_iff]
  constructor
  · rintro ⟨first, second, different, named, alsoNamed, related, kind⟩
    exact ⟨_, _, ⟨first, second, different, rfl, rfl⟩, ⟨named, .inr related⟩, ⟨alsoNamed, kind⟩,
      related⟩
  · rintro ⟨_, _, ⟨first, second, different, rfl, rfl⟩, ⟨named, _⟩, ⟨alsoNamed, kind⟩, related⟩
    exact ⟨first, second, different, named, alsoNamed, related, kind⟩

structure SortedFields (entity : EntityRelations) : Prop where
  columns : ∀ name, entity.hasColumn name = true ↔ ∃ field ∈ schema.fields,
    HasRole registry naming schema field .column ∧ naming.column schema field = name
  relations : ∀ name relation, entity.relation? name = some relation ↔ ∃ field ∈ schema.fields,
    HasRole registry naming schema field (.relation relation) ∧ naming.column schema field = name
  columnsAscend : entity.columns.Pairwise (· < ·)
  relationsDistinct : (entity.relations.map (·.1)).Nodup
  disjoint : ∀ name, entity.hasColumn name = true → entity.relation? name = none
  skipped : ∀ field ∈ schema.fields,
    (∀ other ∈ schema.fields, naming.column schema other = naming.column schema field →
      ∃ reason, HasRole registry naming schema other (.skipped reason)) →
    entity.hasColumn (naming.column schema field) = false ∧
      entity.relation? (naming.column schema field) = none

theorem reflected_fields_sorted (entity : EntityRelations)
    (reflected : reflect registry naming schema = .ok entity) :
    SortedFields registry naming schema entity := by
  have columns : ∀ name, entity.hasColumn name = true ↔ ∃ field ∈ schema.fields,
      HasRole registry naming schema field .column ∧ naming.column schema field = name := by
    intro name
    simp only [column_role_iff]
    exact has_column_iff registry naming schema entity reflected name
  have relations : ∀ name relation, entity.relation? name = some relation ↔
      ∃ field ∈ schema.fields, HasRole registry naming schema field (.relation relation) ∧
        naming.column schema field = name := by
    intro name relation
    rw [relation_found_iff registry naming schema entity reflected]
    constructor
    · rintro ⟨field, declared, _, classified, named⟩
      exact ⟨field, declared, (relation_role_iff _ _ _ _ _).mpr classified, named⟩
    · rintro ⟨field, declared, hasRole, named⟩
      have classified := (relation_role_iff registry naming schema field relation).mp hasRole
      exact ⟨field, declared, classified_not_plain registry naming schema field relation classified,
        classified, named⟩
  have apart : ∀ field reason, HasRole registry naming schema field (.skipped reason) →
      ∀ role, HasRole registry naming schema field role → role = .skipped reason := by
    intro field reason skipped role hasRole
    rw [has_role_iff] at skipped hasRole
    exact hasRole.symm.trans skipped
  refine ⟨columns, relations, ?_, ?_, ?_, ?_⟩
  · rw [(reflect_parts registry naming schema entity reflected).2.2.2]
    exact sorted_once_ascends _
  · exact relation_names_distinct registry naming schema entity reflected
  · intro name declared
    obtain ⟨_, noneShared⟩ := reflect_no_collision registry naming schema entity reflected
    obtain ⟨_, _, parts, sameColumns⟩ := reflect_parts registry naming schema entity reflected
    rw [← parts, ← sameColumns] at noneShared
    rw [Option.eq_none_iff_forall_ne_some]
    intro relation found
    have listed := List.mem_map_of_mem (f := (·.1)) (relation_listed entity name relation found)
    exact noneShared name listed (List.contains_iff_mem.mp declared)
  · intro field declared onlySkipped
    constructor
    · rw [← Bool.not_eq_true, columns]
      rintro ⟨other, listed, hasRole, named⟩
      obtain ⟨reason, skipped⟩ := onlySkipped other listed named
      cases apart other reason skipped _ hasRole
    · rw [Option.eq_none_iff_forall_ne_some]
      intro relation found
      obtain ⟨other, listed, hasRole, named⟩ := (relations _ relation).mp found
      obtain ⟨reason, skipped⟩ := onlySkipped other listed named
      cases apart other reason skipped _ hasRole

theorem reflection_fails_iff_clash :
    (∃ collision, reflect registry naming schema = .error collision) ↔
      ∃ column, Clash registry naming schema column := by
  simp only [clash_iff_collides]
  constructor
  · rintro ⟨collision, failed⟩
    obtain ⟨column, _, collides⟩ :=
      reflect_error_collides registry naming schema collision failed 0
    exact ⟨column, collides⟩
  · rintro ⟨column, collides⟩
    cases reflected : reflect registry naming schema with
    | error collision => exact ⟨collision, rfl⟩
    | ok entity =>
        exact absurd reflected
          (collision_refused registry naming schema column collides entity)

end

theorem reflection_sorts_fields (registry : Registry) (naming : NamingStrategy)
    (schema : EntitySchema) :
    (∀ field, ∃! role, HasRole registry naming schema field role) ∧
    ((∃ collision, reflect registry naming schema = .error collision) ↔
      ∃ column, Clash registry naming schema column) ∧
    (∀ collision, reflect registry naming schema = .error collision → ∀ choice,
      ∃ column, collision.report choice = .nameCollision schema.name column ∧
        Clash registry naming schema column) ∧
    (∀ entity, reflect registry naming schema = .ok entity →
      SortedFields registry naming schema entity) ∧
    ((∀ first second : Fin schema.fields.length, first ≠ second →
        naming.column schema schema.fields[first] = naming.column schema schema.fields[second] →
        HasRole registry naming schema schema.fields[first] .column ∧
          HasRole registry naming schema schema.fields[second] .column) →
      ∃ entity, reflect registry naming schema = .ok entity) := by
  refine ⟨?_, reflection_fails_iff_clash registry naming schema, ?_,
    reflected_fields_sorted registry naming schema, ?_⟩
  · intro field
    simp only [has_role_iff]
    exact ⟨_, rfl, fun role same => same.symm⟩
  · intro collision failed
    simp only [clash_iff_collides]
    exact reflect_error_collides registry naming schema collision failed
  · intro plainPairs
    cases reflected : reflect registry naming schema with
    | ok entity => exact ⟨entity, rfl⟩
    | error collision =>
        obtain ⟨column, first, second, different, named, alsoNamed, ⟨relation, related⟩, _⟩ :=
          (reflection_fails_iff_clash registry naming schema).mp ⟨collision, reflected⟩
        have plain := (plainPairs first second different (named.trans alsoNamed.symm)).1
        rw [has_role_iff] at plain related
        cases related.symm.trans plain

-- Two plain fields share a day, and a skipped one stands under the column of a relation.
def ledgerSchema : EntitySchema where
  name := "Ledger"
  fields := [
    { name := "id", fieldType := .scalar "i64" },
    { name := "opened", fieldType := .struct "NaiveDateTime", columnName := some "day" },
    { name := "closed", fieldType := .list (.scalar "u8"), columnName := some "day" },
    { name := "owner", fieldType := .pointer (.entity ⟨"Person", "Person"⟩),
      annotations := { foreignKey := some "owner_ref" } },
    { name := "auditor", fieldType := .entity ⟨"Person", "Person"⟩, columnName := some "owner" },
    { name := "stamp", fieldType := .struct "Stamp",
      annotations := { manyToMany := some "stamps" } }]

def clashingLedger : EntitySchema :=
  { ledgerSchema with
    fields := ledgerSchema.fields ++ [
      { name := "balance", fieldType := .scalar "i64", columnName := some "owner" }] }

theorem ledger_fields_sorted :
    (∃ entity, reflect peopleRegistry verbatim ledgerSchema = .ok entity ∧
      SortedFields peopleRegistry verbatim ledgerSchema entity) ∧
    reflect peopleRegistry verbatim clashingLedger =
      .error { entity := "Ledger", column := "owner" } ∧
    Clash peopleRegistry verbatim clashingLedger "owner" := by
  have kept : ∃ entity, reflect peopleRegistry verbatim ledgerSchema = .ok entity := ⟨_, rfl⟩
  have clashes : reflect peopleRegistry verbatim clashingLedger =
      .error { entity := "Ledger", column := "owner" } := by decide +kernel
  obtain ⟨entity, reflected⟩ := kept
  obtain ⟨_, _, _, sorts, _⟩ := reflection_sorts_fields peopleRegistry verbatim ledgerSchema
  obtain ⟨_, _, reports, _, _⟩ := reflection_sorts_fields peopleRegistry verbatim clashingLedger
  obtain ⟨column, same, clash⟩ := reports _ clashes 0
  cases same
  exact ⟨⟨entity, reflected, sorts entity reflected⟩, clashes, clash⟩

end NestedFilter
