import Mathlib.Data.List.Nodup
import NestedFilter.Proofs.Reflection

/-!
Looking names up in a reflection: a plain column is found exactly under the names of plain fields,
and a relation exactly under the name of the one field that classifies as it.
-/

set_option autoImplicit false

namespace NestedFilter

theorem mem_insert_sorted (s t : String) (texts : List String) :
    s ∈ insertSorted t texts ↔ s = t ∨ s ∈ texts := by
  induction texts with
  | nil => simp [insertSorted]
  | cons u rest ih =>
      unfold insertSorted
      split
      · rename_i same
        rw [same, List.mem_cons]
        simp
      · split
        · rw [List.mem_cons]
        · rw [List.mem_cons, ih, List.mem_cons]
          exact or_left_comm

theorem mem_sorted_once (s : String) (texts : List String) : s ∈ sortedOnce texts ↔ s ∈ texts := by
  induction texts with
  | nil => rfl
  | cons t rest ih =>
      have step : sortedOnce (t :: rest) = insertSorted t (sortedOnce rest) := rfl
      rw [step, mem_insert_sorted, ih, List.mem_cons]

theorem insert_sorted_ascends (s : String) (texts : List String)
    (ascending : texts.Pairwise (· < ·)) : (insertSorted s texts).Pairwise (· < ·) := by
  induction texts with
  | nil => exact List.pairwise_singleton _ _
  | cons t rest ih =>
      obtain ⟨before, others⟩ := List.pairwise_cons.mp ascending
      unfold insertSorted
      by_cases same : s = t
      · rwa [if_pos same]
      · rw [if_neg same]
        by_cases less : s < t
        · rw [if_pos less]
          refine List.pairwise_cons.mpr ⟨?_, ascending⟩
          exact List.forall_mem_cons.mpr ⟨less, fun u later => String.lt_trans less (before u later)⟩
        · rw [if_neg less]
          have greater : t < s := Std.lt_of_le_of_ne less (Ne.symm same)
          refine List.pairwise_cons.mpr ⟨?_, ih others⟩
          intro u later
          rcases (mem_insert_sorted u s rest).mp later with rfl | listed
          · exact greater
          · exact before u listed

theorem sorted_once_ascends (texts : List String) : (sortedOnce texts).Pairwise (· < ·) := by
  induction texts with
  | nil => exact List.Pairwise.nil
  | cons t rest ih => exact insert_sorted_ascends t (sortedOnce rest) ih

theorem none_repeated (seen texts : List String) (none : firstRepeated? seen texts = none) :
    texts.Nodup ∧ ∀ s ∈ texts, s ∉ seen := by
  induction texts generalizing seen with
  | nil => simp
  | cons s rest ih =>
      unfold firstRepeated? at none
      split at none
      · cases none
      · rename_i fresh
        obtain ⟨distinct, apart⟩ := ih (s :: seen) none
        have absent : s ∉ seen := fun member => fresh (List.contains_iff_mem.mpr member)
        have alone : s ∉ rest := fun member => apart s member List.mem_cons_self
        refine ⟨List.nodup_cons.mpr ⟨alone, distinct⟩, List.forall_mem_cons.mpr ⟨absent, ?_⟩⟩
        intro t member inSeen
        exact apart t member (List.mem_cons_of_mem s inSeen)

theorem find_of_distinct {α : Type} (entries : List (String × α)) (key : String) (value : α)
    (distinct : (entries.map (·.1)).Nodup) (listed : (key, value) ∈ entries) :
    entries.find? (fun entry => entry.1 == key) = some (key, value) := by
  induction entries with
  | nil => cases listed
  | cons entry rest ih =>
      rw [List.map_cons, List.nodup_cons] at distinct
      obtain ⟨alone, others⟩ := distinct
      rcases List.mem_cons.mp listed with rfl | later
      · simp
      · have different : entry.1 ≠ key := by
          intro same
          have named : key ∈ rest.map (·.1) := List.mem_map_of_mem later
          exact alone (same ▸ named)
        rw [List.find?_cons_of_neg (by simpa using different)]
        exact ih others later

-- Relations that collide with each other come first; only then are plain columns looked at.
theorem collision_some_iff (entity : String) (relations : List (String × Relation))
    (columns : List String) (collision : Collision) :
    collision? entity relations columns = some collision ↔
      collision.entity = entity ∧
        ((firstRepeated? [] (relations.map (·.1)) = some collision.column ∧
            collision.others = []) ∨
          firstRepeated? [] (relations.map (·.1)) = none ∧
            (relations.map (·.1)).filter columns.contains = collision.columns) := by
  obtain ⟨name, column, others⟩ := collision
  simp only [collision?]
  cases firstRepeated? [] (relations.map (·.1)) with
  | some repeated => simp [eq_comm]
  | none =>
      cases (relations.map (·.1)).filter columns.contains with
      | nil => simp [Collision.columns]
      | cons first rest => simp [Collision.columns, eq_comm]

theorem collision_none_iff (entity : String) (relations : List (String × Relation))
    (columns : List String) :
    collision? entity relations columns = none ↔
      firstRepeated? [] (relations.map (·.1)) = none ∧
        ∀ name ∈ relations.map (·.1), name ∉ columns := by
  have shared : (relations.map (·.1)).filter columns.contains = [] ↔
      ∀ name ∈ relations.map (·.1), name ∉ columns := by
    simp only [List.filter_eq_nil_iff, List.contains_iff_mem]
  rw [← shared]
  simp only [collision?]
  cases firstRepeated? [] (relations.map (·.1)) with
  | some repeated => simp
  | none => cases (relations.map (·.1)).filter columns.contains <;> simp

theorem reflect_error_iff (registry : Registry) (naming : NamingStrategy)
    (schema : EntitySchema) (collision : Collision) :
    reflect registry naming schema = .error collision ↔
      collision? schema.name (declaredRelations registry naming schema)
        (declaredColumns naming schema) = some collision := by
  simp only [reflect]
  cases collision? schema.name (declaredRelations registry naming schema)
    (declaredColumns naming schema) <;> simp

theorem reflect_error_entity (registry : Registry) (naming : NamingStrategy)
    (schema : EntitySchema) (collision : Collision)
    (failed : reflect registry naming schema = .error collision) :
    collision.entity = schema.name :=
  ((collision_some_iff _ _ _ _).mp ((reflect_error_iff _ _ _ _).mp failed)).1

theorem reflect_no_collision (registry : Registry) (naming : NamingStrategy)
    (schema : EntitySchema) (entity : EntityRelations)
    (reflected : reflect registry naming schema = .ok entity) :
    firstRepeated? [] ((declaredRelations registry naming schema).map (·.1)) = none ∧
      ∀ name ∈ (declaredRelations registry naming schema).map (·.1),
        name ∉ declaredColumns naming schema := by
  rw [← collision_none_iff schema.name]
  simp only [reflect] at reflected
  split at reflected
  · cases reflected
  · assumption

theorem relation_names_distinct (registry : Registry) (naming : NamingStrategy)
    (schema : EntitySchema) (entity : EntityRelations)
    (reflected : reflect registry naming schema = .ok entity) :
    (entity.relations.map (·.1)).Nodup := by
  rw [(reflect_parts registry naming schema entity reflected).2.2.1]
  exact (none_repeated [] _ (reflect_no_collision registry naming schema entity reflected).1).1

theorem declared_column_iff (naming : NamingStrategy) (schema : EntitySchema) (name : String) :
    name ∈ declaredColumns naming schema ↔
      ∃ field ∈ schema.fields, field.isPlain = true ∧ naming.column schema field = name := by
  rw [declaredColumns, mem_sorted_once, List.mem_map]
  simp only [List.mem_filter, and_assoc]

theorem has_column_iff (registry : Registry) (naming : NamingStrategy) (schema : EntitySchema)
    (entity : EntityRelations) (reflected : reflect registry naming schema = .ok entity)
    (name : String) :
    entity.hasColumn name = true ↔
      ∃ field ∈ schema.fields, field.isPlain = true ∧ naming.column schema field = name := by
  rw [EntityRelations.hasColumn, (reflect_parts registry naming schema entity reflected).2.2.2,
    List.contains_iff_mem, declared_column_iff]

theorem role_relation_iff (registry : Registry) (naming : NamingStrategy) (schema : EntitySchema)
    (field : FieldDef) (relation : Relation) :
    (fieldRole registry naming schema field).relation? = some relation ↔
      field.isPlain = false ∧ classify registry naming schema field = .ok relation := by
  unfold fieldRole
  cases plain : field.isPlain with
  | true => simp [FieldRole.relation?]
  | false =>
      cases classify registry naming schema field with
      | error reason => simp [FieldRole.relation?]
      | ok found => simp [FieldRole.relation?]

theorem relation_found_iff (registry : Registry) (naming : NamingStrategy) (schema : EntitySchema)
    (entity : EntityRelations) (reflected : reflect registry naming schema = .ok entity)
    (name : String) (relation : Relation) :
    entity.relation? name = some relation ↔
      ∃ field ∈ schema.fields, field.isPlain = false ∧
        classify registry naming schema field = .ok relation ∧ naming.column schema field = name := by
  have listed : (name, relation) ∈ entity.relations ↔ ∃ field ∈ schema.fields,
      field.isPlain = false ∧ classify registry naming schema field = .ok relation ∧
        naming.column schema field = name := by
    rw [(reflect_parts registry naming schema entity reflected).2.2.1, declaredRelations,
      List.mem_filterMap]
    simp only [Option.map_eq_some_iff, role_relation_iff, Prod.mk.injEq]
    constructor
    · intro placed
      obtain ⟨field, declared, _, ⟨other, classified⟩, same, rfl⟩ := placed
      exact ⟨field, declared, other, classified, same⟩
    · intro placed
      obtain ⟨field, declared, other, classified, same⟩ := placed
      exact ⟨field, declared, relation, ⟨other, classified⟩, same, rfl⟩
  rw [← listed]
  constructor
  · exact relation_listed entity name relation
  · intro member
    have distinct := relation_names_distinct registry naming schema entity reflected
    rw [EntityRelations.relation?, find_of_distinct _ name relation distinct member]
    rfl

end NestedFilter
