import NestedFilter.Proofs.Diagnosis
import NestedFilter.Proofs.Entries

/-!
Which entries of some mappings the partition places, and where. It loses none and keeps their order,
or it stops at the first entry that has no place, with the error of that entry.
-/

set_option autoImplicit false

namespace NestedFilter

open Json (Value)

def StructUnder (naming : NamingStrategy) (schema : EntitySchema) (column : String)
    (field : FieldDef) : Prop :=
  field.fieldType.shape?.isSome = true ∧ naming.column schema field = column

inductive Unplaceable (entity : EntityRelations) : String → Value → Prop where
  | unrelated (column : String) (inner : Filter) (absent : entity.relation? column = none) :
      Unplaceable entity column (.object inner)
  | nestedItem (column : String) (items : List Value) (item : Value)
      (declared : entity.hasColumn column = true) (member : item ∈ items)
      (nested : isNested item = true) : Unplaceable entity column (.array items)
  | undeclared (column : String) (value : Value) (plain : isNested value = false)
      (absent : entity.hasColumn column = false) : Unplaceable entity column value

inductive Complaint (registry : Registry) (naming : NamingStrategy) (schema : EntitySchema)
    (entity : EntityRelations) : String → Value → FilterError → Prop where
  | unknownObject (column : String) (inner : Filter) (absent : entity.relation? column = none)
      (noStruct : ∀ field ∈ schema.fields, ¬ StructUnder naming schema column field) :
      Complaint registry naming schema entity column (.object inner)
        (.unknownField schema.name column)
  | unrelatedObject (column : String) (inner : Filter) (absent : entity.relation? column = none)
      (before after : List FieldDef) (field : FieldDef) (error : FilterError)
      (split : schema.fields = before ++ field :: after)
      (first : ∀ earlier ∈ before, ¬ StructUnder naming schema column earlier)
      (under : StructUnder naming schema column field)
      (failed : classify registry naming schema field = .error error) :
      Complaint registry naming schema entity column (.object inner) error
  | nestedItem (column : String) (items : List Value) (item : Value)
      (declared : entity.hasColumn column = true) (member : item ∈ items)
      (nested : isNested item = true) :
      Complaint registry naming schema entity column (.array items)
        (.invalidValue column .nestedFilterInList)
  | plainOnRelation (column : String) (value : Value) (relation : Relation)
      (plain : isNested value = false) (undeclared : entity.hasColumn column = false)
      (found : entity.relation? column = some relation) :
      Complaint registry naming schema entity column value
        (.invalidValue column .relationNeedsFilter)
  | unknownPlain (column : String) (value : Value) (plain : isNested value = false)
      (undeclared : entity.hasColumn column = false) (absent : entity.relation? column = none) :
      Complaint registry naming schema entity column value (.unknownField schema.name column)

section

variable (registry : Registry) (naming : NamingStrategy) (schema : EntitySchema)
  (entity : EntityRelations)

theorem absent_unclassified (reflected : reflect registry naming schema = .ok entity)
    (column : String) (absent : entity.relation? column = none) (field : FieldDef)
    (declared : field ∈ schema.fields) (under : StructUnder naming schema column field) :
    ∃ error, classify registry naming schema field = .error error := by
  cases classified : classify registry naming schema field with
  | error error => exact ⟨error, rfl⟩
  | ok relation =>
      have other := classified_not_plain registry naming schema field relation classified
      have found := (relation_found_iff registry naming schema entity reflected column
        relation).mpr ⟨field, declared, other, classified, under.2⟩
      cases absent.symm.trans found

theorem missing_relation_unknown (column : String)
    (noStruct : ∀ field ∈ schema.fields, ¬ StructUnder naming schema column field) :
    missingRelation registry naming schema column = .unknownField schema.name column := by
  have nothing : schema.fields.find? (fun field =>
      field.fieldType.shape?.isSome && naming.column schema field == column) = none := by
    rw [List.find?_eq_none]
    intro field declared
    rw [Bool.and_eq_true, beq_iff_eq]
    exact noStruct field declared
  rw [missingRelation, nothing]
  rfl

theorem missing_relation_first (column : String) (before after : List FieldDef)
    (field : FieldDef) (error : FilterError) (split : schema.fields = before ++ field :: after)
    (first : ∀ earlier ∈ before, ¬ StructUnder naming schema column earlier)
    (under : StructUnder naming schema column field)
    (failed : classify registry naming schema field = .error error) :
    missingRelation registry naming schema column = error := by
  have found : schema.fields.find? (fun field =>
      field.fieldType.shape?.isSome && naming.column schema field == column) = some field := by
    rw [List.find?_eq_some_iff_append]
    refine ⟨?_, before, after, split, ?_⟩
    · rw [Bool.and_eq_true, beq_iff_eq]
      exact under
    · intro earlier listed
      rw [Bool.not_eq_true', ← Bool.not_eq_true, Bool.and_eq_true, beq_iff_eq]
      exact first earlier listed
  simp only [missingRelation, found, Option.map_some, failed]

theorem first_struct_under (column : String) :
    (∀ field ∈ schema.fields, ¬ StructUnder naming schema column field) ∨
      ∃ before field after, schema.fields = before ++ field :: after ∧
        (∀ earlier ∈ before, ¬ StructUnder naming schema column earlier) ∧
        StructUnder naming schema column field := by
  induction schema.fields with
  | nil => exact .inl (by simp)
  | cons field rest ih =>
      by_cases here : StructUnder naming schema column field
      · exact .inr ⟨[], field, rest, rfl, by simp, here⟩
      · rcases ih with noStruct | ⟨before, found, after, rfl, first, under⟩
        · exact .inl (List.forall_mem_cons.mpr ⟨here, noStruct⟩)
        · exact .inr ⟨field :: before, found, after, rfl,
            List.forall_mem_cons.mpr ⟨here, first⟩, under⟩

theorem missing_relation_unknown_iff (reflected : reflect registry naming schema = .ok entity)
    (column : String) (absent : entity.relation? column = none) :
    missingRelation registry naming schema column = .unknownField schema.name column ↔
      ∀ field ∈ schema.fields, ¬ StructUnder naming schema column field := by
  constructor
  · intro unknown
    rcases first_struct_under naming schema column with noStruct |
      ⟨before, field, after, split, first, under⟩
    · exact noStruct
    · have declared : field ∈ schema.fields := by simp [split]
      obtain ⟨error, failed⟩ := absent_unclassified registry naming schema entity reflected column
        absent field declared under
      obtain ⟨reason, _, rfl⟩ :=
        classify_refusal registry naming schema field error under.1 failed
      rw [missing_relation_first registry naming schema column before after field _ split first
        under failed] at unknown
      cases reason <;> cases unknown
  · exact missing_relation_unknown registry naming schema column

theorem place_object_complaint (reflected : reflect registry naming schema = .ok entity)
    (column : String) (inner : Filter) (absent : entity.relation? column = none) :
    Complaint registry naming schema entity column (.object inner)
      (missingRelation registry naming schema column) := by
  rcases first_struct_under naming schema column with noStruct |
    ⟨before, field, after, split, first, under⟩
  · rw [missing_relation_unknown registry naming schema column noStruct]
    exact .unknownObject column inner absent noStruct
  · have declared : field ∈ schema.fields := by simp [split]
    obtain ⟨error, failed⟩ := absent_unclassified registry naming schema entity reflected column
      absent field declared under
    rw [missing_relation_first registry naming schema column before after field error split first
      under failed]
    exact .unrelatedObject column inner absent before after field error split first under failed

theorem place_complaint (reflected : reflect registry naming schema = .ok entity)
    (column : String) (value : Value) (error : FilterError)
    (failed : placeEntry registry naming schema entity column value = .error error) :
    Complaint registry naming schema entity column value error := by
  -- One case per kind of value, as the placement looks at them.
  cases plain : isNested value with
  | true =>
      obtain ⟨inner, rfl⟩ := nested_value value plain
      cases found : entity.relation? column with
      | some relation => simp [placeEntry, found] at failed
      | none =>
          simp only [placeEntry, found, Except.error.injEq] at failed
          subst failed
          exact place_object_complaint registry naming schema entity reflected column inner found
  | false =>
      cases declared : entity.hasColumn column with
      | false =>
          rw [place_undeclared registry naming schema entity column value plain declared] at failed
          cases found : entity.relation? column with
          | some relation =>
              rw [found, Option.isSome_some, if_pos rfl] at failed
              cases failed
              exact .plainOnRelation column value relation plain declared found
          | none =>
              rw [found, Option.isSome_none, if_neg Bool.false_ne_true] at failed
              cases failed
              exact .unknownPlain column value plain declared found
      | true =>
          cases value with
          | object inner => cases plain
          | array items =>
              by_cases nested : items.any isNested = true
              · simp only [placeEntry, declared, nested, if_true, Except.error.injEq] at failed
                subst failed
                obtain ⟨item, member, isNested⟩ := List.any_eq_true.mp nested
                exact .nestedItem column items item declared member isNested
              · simp [placeEntry, declared, nested] at failed
          | _ => simp [placeEntry, declared] at failed

theorem complaint_placed (column : String) (value : Value) (error : FilterError)
    (complaint : Complaint registry naming schema entity column value error) :
    placeEntry registry naming schema entity column value = .error error := by
  cases complaint with
  | unknownObject inner absent noStruct =>
      rw [← missing_relation_unknown registry naming schema column noStruct]
      simp only [placeEntry, absent]
  | unrelatedObject inner absent before after field _ split first under failed =>
      rw [← missing_relation_first registry naming schema column before after field error split
        first under failed]
      simp only [placeEntry, absent]
  | nestedItem items item declared member nested =>
      have some : items.any isNested = true := List.any_eq_true.mpr ⟨item, member, nested⟩
      simp only [placeEntry, declared, some, if_true]
  | plainOnRelation _ relation plain undeclared found =>
      rw [place_undeclared registry naming schema entity column value plain undeclared, found,
        Option.isSome_some, if_pos rfl]
  | unknownPlain _ plain undeclared absent =>
      rw [place_undeclared registry naming schema entity column value plain undeclared, absent,
        Option.isSome_none, if_neg Bool.false_ne_true]

theorem place_error_iff (reflected : reflect registry naming schema = .ok entity)
    (column : String) (value : Value) (error : FilterError) :
    placeEntry registry naming schema entity column value = .error error ↔
      Complaint registry naming schema entity column value error :=
  ⟨place_complaint registry naming schema entity reflected column value error,
    complaint_placed registry naming schema entity column value error⟩

theorem unplaceable_iff (column : String) (value : Value) :
    Unplaceable entity column value ↔
      ∀ placed, placeEntry registry naming schema entity column value ≠ .ok placed := by
  constructor
  · intro unplaceable placed same
    cases unplaceable with
    | unrelated inner absent =>
        obtain ⟨relation, found, _⟩ := (place_object _ _ _ _ _ _ _).mp same
        cases absent.symm.trans found
    | nestedItem items item declared member nested =>
        obtain ⟨_, noneNested, _⟩ := (place_plain _ _ _ _ _ _ _ rfl).mp same
        have notNested := List.any_eq_false.mp (noneNested items rfl) item member
        exact notNested nested
    | undeclared _ plain absent =>
        obtain ⟨declared, _⟩ := (place_plain _ _ _ _ _ _ _ plain).mp same
        cases absent.symm.trans declared
  · intro refused
    cases plain : isNested value with
    | true =>
        obtain ⟨inner, rfl⟩ := nested_value value plain
        refine .unrelated column inner ?_
        rw [Option.eq_none_iff_forall_ne_some]
        intro relation found
        exact refused _ ((place_object _ _ _ _ _ _ _).mpr ⟨relation, found, rfl⟩)
    | false =>
        cases declared : entity.hasColumn column with
        | false => exact .undeclared column value plain declared
        | true =>
            by_cases listed : ∃ items item, value = .array items ∧ item ∈ items ∧
                isNested item = true
            · obtain ⟨items, item, rfl, member, nested⟩ := listed
              exact .nestedItem column items item declared member nested
            · refine absurd ((place_plain _ _ _ _ _ _ _ plain).mpr ⟨declared, ?_, rfl⟩)
                (refused (.scalar ⟨column, value⟩))
              rintro items rfl
              rw [List.any_eq_false]
              intro item member nested
              exact listed ⟨items, item, rfl, member, nested⟩

theorem placeable_iff (column : String) (value : Value) :
    ¬ Unplaceable entity column value ↔
      ∃ placed, placeEntry registry naming schema entity column value = .ok placed := by
  rw [unplaceable_iff registry naming schema]
  simp only [ne_eq, not_forall, not_not]

end

def ScalarEntry.entry (scalar : ScalarEntry) : String × Value := (scalar.column, scalar.value)

def RelationalEntry.entry (relational : RelationalEntry) : String × Value :=
  (relational.column, .object relational.filter)

structure Holds (entity : EntityRelations) (filters : List Filter) (parts : Partition) : Prop where
  scalars : parts.scalars.map ScalarEntry.entry = plainEntries filters
  relations : parts.relations.map RelationalEntry.entry = nestedEntries filters
  related : ∀ entry ∈ parts.relations, entity.relation? entry.column = some entry.relation

section

variable (registry : Registry) (naming : NamingStrategy) (schema : EntitySchema)
  (entity : EntityRelations)

theorem partition_ok_iff (entries : Filter) (parts : Partition) :
    partition registry naming schema entity entries = .ok parts ↔
      ∃ placed, (entries.mapM fun entry =>
          placeEntry registry naming schema entity entry.1 entry.2) = .ok placed ∧
        parts = ⟨placed.filterMap PlacedEntry.scalar?, placed.filterMap PlacedEntry.relational?⟩ := by
  rw [partition, bind_ok_iff]
  simp only [pure, Except.pure, Except.ok.injEq, eq_comm]

theorem partition_error_iff (entries : Filter) (error : FilterError) :
    partition registry naming schema entity entries = .error error ↔
      (entries.mapM fun entry => placeEntry registry naming schema entity entry.1 entry.2) =
        .error error := by
  rw [partition, bind_error_iff]
  simp [pure, Except.pure]

theorem placed_entries (entries : Filter) (placed : List PlacedEntry)
    (all : (entries.mapM fun entry =>
      placeEntry registry naming schema entity entry.1 entry.2) = .ok placed) :
    (placed.filterMap PlacedEntry.scalar?).map ScalarEntry.entry =
        entries.filter (fun entry => !isNested entry.2) ∧
      (placed.filterMap PlacedEntry.relational?).map RelationalEntry.entry =
        entries.filter (fun entry => isNested entry.2) ∧
      ∀ entry ∈ placed.filterMap PlacedEntry.relational?,
        entity.relation? entry.column = some entry.relation := by
  induction entries generalizing placed with
  | nil =>
      cases all
      simp
  | cons entry rest ih =>
      obtain ⟨first, others, one, remaining, rfl⟩ := (map_all_cons_ok_iff _ _ _ _).mp all
      obtain ⟨scalars, relations, related⟩ := ih others remaining
      obtain ⟨column, value⟩ := entry
      cases plain : isNested value with
      | true =>
          obtain ⟨inner, rfl⟩ := nested_value value plain
          obtain ⟨relation, found, rfl⟩ := (place_object _ _ _ _ _ _ _).mp one
          exact ⟨scalars, congrArg ((column, Value.object inner) :: ·) relations,
            List.forall_mem_cons.mpr ⟨found, related⟩⟩
      | false =>
          obtain ⟨_, _, rfl⟩ := (place_plain _ _ _ _ _ _ _ plain).mp one
          rw [List.filter_cons_of_pos (by simp [plain]), List.filter_cons_of_neg (by simp [plain])]
          exact ⟨congrArg ((column, value) :: ·) scalars, relations, related⟩

theorem partition_fails_iff (entries : Filter) :
    (∃ error, partition registry naming schema entity entries = .error error) ↔
      ∃ entry ∈ entries, Unplaceable entity entry.1 entry.2 := by
  have succeeds := map_all_exists_iff
    (fun entry : String × Value => placeEntry registry naming schema entity entry.1 entry.2) entries
  simp only [← placeable_iff registry naming schema] at succeeds
  simp only [partition_error_iff]
  rw [← not_iff_not, not_exists]
  simp only [not_exists, not_and]
  rw [← succeeds]
  cases entries.mapM fun entry => placeEntry registry naming schema entity entry.1 entry.2 with
  | error error => simp
  | ok placed => simp

end

theorem partition_places_entries (registry : Registry) (naming : NamingStrategy)
    (schema : EntitySchema) (entity : EntityRelations) (filters : List Filter)
    (reflected : reflect registry naming schema = .ok entity) :
    let outcome := partition registry naming schema entity filters.flatten
    ((∃ error, outcome = .error error) ↔
      ∃ entry ∈ filters.flatten, Unplaceable entity entry.1 entry.2) ∧
    (∀ error, outcome = .error error ↔
      ∃ before column value after, filters.flatten = before ++ (column, value) :: after ∧
        (∀ earlier ∈ before, ¬ Unplaceable entity earlier.1 earlier.2) ∧
        Complaint registry naming schema entity column value error) ∧
    (∀ parts, outcome = .ok parts → Holds entity filters parts) ∧
    ∀ column, entity.relation? column = none →
      (missingRelation registry naming schema column = .unknownField schema.name column ↔
        ∀ field ∈ schema.fields, ¬ StructUnder naming schema column field) ∧
      ∀ before field after, schema.fields = before ++ field :: after →
        (∀ earlier ∈ before, ¬ StructUnder naming schema column earlier) →
        StructUnder naming schema column field →
        ∃ error, classify registry naming schema field = .error error ∧
          missingRelation registry naming schema column = error := by
  intro outcome
  have failures : ∀ error, outcome = .error error ↔
      ∃ before column value after, filters.flatten = before ++ (column, value) :: after ∧
        (∀ earlier ∈ before, ¬ Unplaceable entity earlier.1 earlier.2) ∧
        Complaint registry naming schema entity column value error := by
    intro error
    rw [partition_error_iff, map_all_error_iff]
    simp only [placeable_iff registry naming schema, Prod.exists,
      place_error_iff registry naming schema entity reflected]
  refine ⟨partition_fails_iff registry naming schema entity filters.flatten, failures, ?_, ?_⟩
  · intro parts divided
    obtain ⟨placed, all, rfl⟩ := (partition_ok_iff _ _ _ _ _ _).mp divided
    obtain ⟨scalars, relations, related⟩ :=
      placed_entries registry naming schema entity filters.flatten placed all
    exact ⟨scalars, relations, related⟩
  · intro column absent
    refine ⟨missing_relation_unknown_iff registry naming schema entity reflected column absent, ?_⟩
    intro before field after split first under
    have declared : field ∈ schema.fields := by simp [split]
    obtain ⟨error, failed⟩ := absent_unclassified registry naming schema entity reflected column
      absent field declared under
    exact ⟨error, failed, missing_relation_first registry naming schema column before after field
      error split first under failed⟩

-- A value struct is a plain column; the two hosts are skipped, for want of an annotation or of its
-- value.
def visitSchema : EntitySchema where
  name := "Visit"
  fields := [
    { name := "day", fieldType := .struct "NaiveDate" },
    { name := "host", fieldType := .pointer (.entity ⟨"Person", "Person"⟩) },
    { name := "guest", fieldType := .list (.entity ⟨"Person", "Person"⟩),
      annotations := { foreignKey := some "visit_ref" } },
    { name := "deputy", fieldType := .entity ⟨"Person", "Person"⟩, columnName := some "host",
      annotations := { foreignKey := some "" } }]

def visitRelations : EntityRelations where
  entity := "Visit"
  table := "Visit"
  primaryKey := "id"
  relations := [("guest", ⟨⟨"Person", "Person"⟩, "visit_ref", .toMany⟩)]
  columns := ["day"]

def hostFilters : List Filter := [
  [("day", .array [.null]), ("guest", .object [])],
  [("host", .object []), ("night", .null)]]

theorem visit_entries_placed :
    reflect peopleRegistry verbatim visitSchema = .ok visitRelations ∧
      partition peopleRegistry verbatim visitSchema visitRelations hostFilters.flatten =
        .error (.unclassifiableRelation "Visit" "host") ∧
      ∃ parts, partition peopleRegistry verbatim visitSchema visitRelations
          [[("day", .null), ("guest", .object [])]].flatten = .ok parts ∧
        Holds visitRelations [[("day", .null), ("guest", .object [])]] parts := by
  have reflected : reflect peopleRegistry verbatim visitSchema = .ok visitRelations := by
    decide +kernel
  obtain ⟨_, failures, _, _⟩ := partition_places_entries peopleRegistry verbatim visitSchema
    visitRelations hostFilters reflected
  have placed : ∀ earlier ∈ [("day", Value.array [.null]), ("guest", .object [])],
      ¬ Unplaceable visitRelations earlier.1 earlier.2 := by
    intro earlier listed
    rw [placeable_iff peopleRegistry verbatim visitSchema]
    simp only [List.mem_cons, List.not_mem_nil, or_false] at listed
    rcases listed with rfl | rfl
    · exact ⟨_, rfl⟩
    · exact ⟨_, rfl⟩
  have complaint : Complaint peopleRegistry verbatim visitSchema visitRelations "host" (.object [])
      (.unclassifiableRelation "Visit" "host") := by
    refine .unrelatedObject "host" [] rfl [visitSchema.fields[0]] (visitSchema.fields.drop 2)
      visitSchema.fields[1] _ rfl ?_ ⟨rfl, rfl⟩ rfl
    intro earlier listed
    obtain rfl := List.mem_singleton.mp listed
    rintro ⟨_, named⟩
    exact absurd named (by decide)
  refine ⟨reflected, (failures _).mpr ⟨_, "host", .object [], _, rfl, placed, complaint⟩, ?_⟩
  obtain ⟨parts, divided⟩ : ∃ parts, partition peopleRegistry verbatim visitSchema visitRelations
      [[("day", .null), ("guest", .object [])]].flatten = .ok parts := ⟨_, rfl⟩
  obtain ⟨_, _, holds, _⟩ := partition_places_entries peopleRegistry verbatim visitSchema
    visitRelations [[("day", .null), ("guest", .object [])]] reflected
  exact ⟨parts, divided, holds parts divided⟩

end NestedFilter
