import Mathlib.Data.List.Perm.Subperm
import NestedFilter.Proofs.ReflectedNames

/-!
Names that two declared fields take at once. Reflection fails exactly when there is such a name and
one of its two fields is a relation, and then any name that it reports is such a name.
-/

set_option autoImplicit false

namespace NestedFilter

variable (registry : Registry) (naming : NamingStrategy) (schema : EntitySchema)

-- The fields under whose column a filter finds something: relations and plain columns, but none of
-- the fields that reflection skips.
def Takes (column : String) (field : FieldDef) : Prop :=
  naming.column schema field = column ∧
    (field.isPlain = true ∨ ∃ relation, classify registry naming schema field = .ok relation)

def Collides (column : String) : Prop :=
  ∃ first second, [first, second].Subperm schema.fields ∧
    Takes registry naming schema column first ∧ Takes registry naming schema column second ∧
    ∃ relation, classify registry naming schema first = .ok relation

theorem repeated_found (seen texts : List String) (s : String)
    (found : firstRepeated? seen texts = some s) :
    [s, s].Sublist texts ∨ s ∈ seen ∧ s ∈ texts := by
  induction texts generalizing seen with
  | nil => cases found
  | cons t rest ih =>
      unfold firstRepeated? at found
      by_cases known : seen.contains t = true
      · rw [if_pos known] at found
        cases found
        exact .inr ⟨List.contains_iff_mem.mp known, List.mem_cons_self⟩
      · rw [if_neg known] at found
        rcases ih (t :: seen) found with twice | ⟨earlier, later⟩
        · exact .inl (twice.cons t)
        · rcases List.mem_cons.mp earlier with rfl | inSeen
          · exact .inl ((List.singleton_sublist.mpr later).cons_cons s)
          · exact .inr ⟨inSeen, List.mem_cons_of_mem t later⟩

def isRelation (field : FieldDef) : Bool :=
  (fieldRole registry naming schema field).relation?.isSome

theorem is_relation_iff (field : FieldDef) :
    isRelation registry naming schema field = true ↔
      ∃ relation, classify registry naming schema field = .ok relation := by
  simp only [isRelation, Option.isSome_iff_exists, role_relation_iff]
  constructor
  · intro placed
    obtain ⟨relation, _, classified⟩ := placed
    exact ⟨relation, classified⟩
  · intro related
    obtain ⟨relation, classified⟩ := related
    exact ⟨relation,
      classified_not_plain registry naming schema field relation classified, classified⟩

theorem declared_relation_names :
    (declaredRelations registry naming schema).map (·.1) =
      (schema.fields.filter (isRelation registry naming schema)).map (naming.column schema) := by
  unfold declaredRelations
  induction schema.fields with
  | nil => rfl
  | cons field rest ih =>
      have first : isRelation registry naming schema field =
        (fieldRole registry naming schema field).relation?.isSome := rfl
      rw [List.filterMap_cons, List.filter_cons, first]
      cases (fieldRole registry naming schema field).relation? with
      | none => simpa using ih
      | some relation => simpa using ih

theorem relation_name_field (column : String)
    (named : column ∈ (declaredRelations registry naming schema).map (·.1)) :
    ∃ field ∈ schema.fields, naming.column schema field = column ∧
      ∃ relation, classify registry naming schema field = .ok relation := by
  rw [declared_relation_names] at named
  obtain ⟨field, listed, same⟩ := List.mem_map.mp named
  obtain ⟨declared, related⟩ := List.mem_filter.mp listed
  exact ⟨field, declared, same, (is_relation_iff registry naming schema field).mp related⟩

theorem repeated_relation_collides (column : String)
    (twice : [column, column].Sublist ((declaredRelations registry naming schema).map (·.1))) :
    Collides registry naming schema column := by
  rw [declared_relation_names] at twice
  obtain ⟨fields, inside, same⟩ := List.sublist_map_iff.mp twice
  obtain ⟨first, others, rfl, firstNamed, remaining⟩ := List.map_eq_cons_iff.mp same.symm
  obtain ⟨second, rest, rfl, secondNamed, nothing⟩ := List.map_eq_cons_iff.mp remaining
  obtain rfl := List.map_eq_nil_iff.mp nothing
  have related : ∀ field ∈ [first, second],
      ∃ relation, classify registry naming schema field = .ok relation := by
    intro field listed
    have kept := (List.mem_filter.mp (inside.subset listed)).2
    exact (is_relation_iff registry naming schema field).mp kept
  have firstRelated := related first (by simp)
  have secondRelated := related second (by simp)
  exact ⟨first, second, (inside.trans List.filter_sublist).subperm, ⟨firstNamed, .inr firstRelated⟩,
    ⟨secondNamed, .inr secondRelated⟩, firstRelated⟩

theorem shared_column_collides (column : String)
    (relation : column ∈ (declaredRelations registry naming schema).map (·.1))
    (plain : column ∈ declaredColumns naming schema) : Collides registry naming schema column := by
  obtain ⟨first, declared, named, related⟩ :=
    relation_name_field registry naming schema column relation
  obtain ⟨second, listed, isPlain, same⟩ := (declared_column_iff naming schema column).mp plain
  have different : first ≠ second := by
    intro same
    obtain ⟨relation, classified⟩ := related
    have other := classified_not_plain registry naming schema first relation classified
    simp [same, isPlain] at other
  refine ⟨first, second, ?_, ⟨named, .inr related⟩, ⟨same, .inl isPlain⟩, related⟩
  apply List.subperm_of_subset (by simp [different])
  simp [declared, listed]

theorem found_collision_collides (collision : Collision)
    (found : collision? schema.name (declaredRelations registry naming schema)
      (declaredColumns naming schema) = some collision) (column : String)
    (listed : column ∈ collision.columns) : Collides registry naming schema column := by
  obtain ⟨_, ⟨twice, alone⟩ | ⟨_, shared⟩⟩ := (collision_some_iff _ _ _ _).mp found
  · obtain rfl : column = collision.column := by simpa [Collision.columns, alone] using listed
    rcases repeated_found [] _ collision.column twice with repeated | ⟨seen, _⟩
    · exact repeated_relation_collides registry naming schema collision.column repeated
    · cases seen
  · rw [← shared, List.mem_filter, List.contains_iff_mem] at listed
    exact shared_column_collides registry naming schema column listed.1 listed.2

theorem reported_column (collision : Collision) (choice : Nat) :
    ∃ column ∈ collision.columns,
      collision.report choice = .nameCollision collision.entity column := by
  have bound : choice % collision.columns.length < collision.columns.length :=
    Nat.mod_lt choice (Nat.succ_pos _)
  refine ⟨_, List.getElem_mem bound, ?_⟩
  rw [Collision.report, List.getElem?_eq_getElem bound, Option.getD_some]

theorem reported_iff_listed (collision : Collision) (column : String) :
    (∃ choice, collision.report choice = .nameCollision collision.entity column) ↔
      column ∈ collision.columns := by
  constructor
  · rintro ⟨choice, reported⟩
    obtain ⟨other, listed, same⟩ := reported_column collision choice
    cases reported.symm.trans same
    exact listed
  · intro listed
    obtain ⟨choice, bound, rfl⟩ := List.mem_iff_getElem.mp listed
    refine ⟨choice, ?_⟩
    rw [Collision.report, Nat.mod_eq_of_lt bound, List.getElem?_eq_getElem bound, Option.getD_some]

theorem reflect_error_collides (collision : Collision)
    (failed : reflect registry naming schema = .error collision) (choice : Nat) :
    ∃ column, collision.report choice = .nameCollision schema.name column ∧
      Collides registry naming schema column := by
  obtain ⟨column, listed, reported⟩ := reported_column collision choice
  rw [reflect_error_entity registry naming schema collision failed] at reported
  exact ⟨column, reported, found_collision_collides registry naming schema collision
    ((reflect_error_iff registry naming schema collision).mp failed) column listed⟩

theorem relation_pair_repeats (column : String) (first second : FieldDef)
    (both : [first, second].Subperm schema.fields)
    (firstNamed : naming.column schema first = column)
    (secondNamed : naming.column schema second = column)
    (firstRelated : isRelation registry naming schema first = true)
    (secondRelated : isRelation registry naming schema second = true) :
    ¬ ((declaredRelations registry naming schema).map (·.1)).Nodup := by
  intro distinct
  rw [declared_relation_names] at distinct
  obtain ⟨ordered, same, inside⟩ := both.filter (isRelation registry naming schema)
  have pair : [first, second].filter (isRelation registry naming schema) = [first, second] := by
    simp [firstRelated, secondRelated]
  rw [pair] at same
  have names := (same.map (naming.column schema)).nodup_iff.mp (distinct.sublist (inside.map _))
  simp [firstNamed, secondNamed] at names

theorem collision_refused (column : String) (collides : Collides registry naming schema column)
    (entity : EntityRelations) : reflect registry naming schema ≠ .ok entity := by
  intro reflected
  obtain ⟨first, second, both, firstTakes, secondTakes, firstRelated⟩ := collides
  have firstIs := (is_relation_iff registry naming schema first).mpr firstRelated
  obtain ⟨noneTwice, noneShared⟩ := reflect_no_collision registry naming schema entity reflected
  rcases secondTakes.2 with plain | secondRelated
  · have named : column ∈ (declaredRelations registry naming schema).map (·.1) := by
      rw [declared_relation_names]
      exact List.mem_map.mpr
        ⟨first, List.mem_filter.mpr ⟨both.subset (by simp), firstIs⟩, firstTakes.1⟩
    have listed := (declared_column_iff naming schema column).mpr
      ⟨second, both.subset (by simp), plain, secondTakes.1⟩
    exact noneShared column named listed
  · have secondIs := (is_relation_iff registry naming schema second).mpr secondRelated
    exact relation_pair_repeats registry naming schema column first second both firstTakes.1
      secondTakes.1 firstIs secondIs (none_repeated [] _ noneTwice).1

theorem reflects_iff_no_collision :
    (∃ entity, reflect registry naming schema = .ok entity) ↔
      ∀ column, ¬ Collides registry naming schema column := by
  constructor
  · intro reflected column collides
    obtain ⟨entity, reflected⟩ := reflected
    exact collision_refused registry naming schema column collides entity reflected
  · intro free
    cases reflected : reflect registry naming schema with
    | ok entity => exact ⟨entity, rfl⟩
    | error collision =>
        obtain ⟨column, _, collides⟩ :=
          reflect_error_collides registry naming schema collision reflected 0
        exact absurd collides (free column)

end NestedFilter
