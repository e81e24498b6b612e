import NestedFilter.Proofs.Rules

/-!
The entities that a filter visits: its root, and what its nested filters lead to along relations.
Which relations an entity has is a parameter, for they may be reflected or remembered.
-/

set_option autoImplicit false

namespace NestedFilter

open Json (Value)

inductive Follows (registry : Registry) (known : EntitySchema → Option EntityRelations) :
    EntityRelations → Filter → EntityRef → Prop where
  | here (entity : EntityRelations) (entries inner : Filter) (column : String)
      (relation : Relation) (listed : (column, .object inner) ∈ entries)
      (found : entity.relation? column = some relation) :
      Follows registry known entity entries relation.related
  | deeper (entity target : EntityRelations) (entries inner : Filter) (column : String)
      (relation : Relation) (ref : EntityRef) (listed : (column, .object inner) ∈ entries)
      (found : entity.relation? column = some relation)
      (reached : known (registry.resolve relation.related) = some target)
      (later : Follows registry known target inner ref) :
      Follows registry known entity entries ref

def Leads (registry : Registry) (known : EntitySchema → Option EntityRelations)
    (entity : EntityRelations) (entries : Filter) (schema : EntitySchema) : Prop :=
  ∃ ref, Follows registry known entity entries ref ∧ registry.resolve ref = schema

def Visited (registry : Registry) (known : EntitySchema → Option EntityRelations)
    (root : EntitySchema) (entries : Filter) (schema : EntitySchema) : Prop :=
  schema = root ∨ ∃ entity, known root = some entity ∧ Leads registry known entity entries schema

section

variable (registry : Registry) (known : EntitySchema → Option EntityRelations)
  (entity : EntityRelations) (column : String) (rest : Filter)

theorem follows_rest (ref : EntityRef) (value : Value)
    (later : Follows registry known entity rest ref) :
    Follows registry known entity ((column, value) :: rest) ref := by
  cases later with
  | here _ _ inner name relation listed found =>
      exact .here entity _ inner name relation (List.mem_cons_of_mem _ listed) found
  | deeper _ target _ inner name relation _ listed found reached later =>
      exact .deeper entity target _ inner name relation ref (List.mem_cons_of_mem _ listed) found
        reached later

theorem follows_nothing (ref : EntityRef) : ¬ Follows registry known entity [] ref := by
  intro follows
  cases follows with
  | here _ _ inner name relation listed found => cases listed
  | deeper _ target _ inner name relation _ listed found reached later => cases listed

theorem follows_plain_iff (value : Value) (plain : isNested value = false) (ref : EntityRef) :
    Follows registry known entity ((column, value) :: rest) ref ↔
      Follows registry known entity rest ref := by
  constructor
  · have later : ∀ (name : String) (inner : Filter),
        (name, Value.object inner) ∈ (column, value) :: rest → (name, .object inner) ∈ rest := by
      intro name inner listed
      rcases List.mem_cons.mp listed with same | later
      · cases same
        cases plain
      · exact later
    intro follows
    cases follows with
    | here _ _ inner name relation listed found =>
        exact .here entity rest inner name relation (later name inner listed) found
    | deeper _ target _ inner name relation _ listed found reached below =>
        exact .deeper entity target rest inner name relation ref (later name inner listed) found
          reached below
  · exact follows_rest registry known entity column rest ref value

theorem follows_object_iff (inner : Filter) (ref : EntityRef) :
    Follows registry known entity ((column, .object inner) :: rest) ref ↔
      (∃ relation, entity.relation? column = some relation ∧
        (ref = relation.related ∨ ∃ target,
          known (registry.resolve relation.related) = some target ∧
            Follows registry known target inner ref)) ∨
      Follows registry known entity rest ref := by
  constructor
  · intro follows
    cases follows with
    | here _ _ other name relation listed found =>
        rcases List.mem_cons.mp listed with same | later
        · cases same
          exact .inl ⟨relation, found, .inl rfl⟩
        · exact .inr (.here entity rest other name relation later found)
    | deeper _ target _ other name relation _ listed found reached below =>
        rcases List.mem_cons.mp listed with same | later
        · cases same
          exact .inl ⟨relation, found, .inr ⟨target, reached, below⟩⟩
        · exact .inr (.deeper entity target rest other name relation ref later found reached below)
  · have first := List.mem_cons_self (a := (column, Value.object inner)) (l := rest)
    rintro (⟨relation, found, rfl | ⟨target, reached, below⟩⟩ | follows)
    · exact .here entity _ inner column relation first found
    · exact .deeper entity target _ inner column relation ref first found reached below
    · exact follows_rest registry known entity column rest ref _ follows

theorem leads_nothing (schema : EntitySchema) : ¬ Leads registry known entity [] schema := by
  intro leads
  obtain ⟨ref, follows, _⟩ := leads
  exact follows_nothing registry known entity ref follows

theorem leads_plain_iff (value : Value) (plain : isNested value = false)
    (schema : EntitySchema) :
    Leads registry known entity ((column, value) :: rest) schema ↔
      Leads registry known entity rest schema := by
  simp only [Leads, follows_plain_iff registry known entity column rest value plain]

theorem leads_object_iff (inner : Filter) (schema : EntitySchema) :
    Leads registry known entity ((column, .object inner) :: rest) schema ↔
      (∃ relation, entity.relation? column = some relation ∧
        Visited registry known (registry.resolve relation.related) inner schema) ∨
      Leads registry known entity rest schema := by
  simp only [Leads, Visited, follows_object_iff]
  constructor
  · rintro ⟨ref, ⟨relation, found, rfl | ⟨target, reached, below⟩⟩ | follows, resolves⟩
    · exact .inl ⟨relation, found, .inl resolves.symm⟩
    · exact .inl ⟨relation, found, .inr ⟨target, reached, ref, below, resolves⟩⟩
    · exact .inr ⟨ref, follows, resolves⟩
  · rintro (⟨relation, found, same | ⟨target, reached, ref, below, resolves⟩⟩ |
      ⟨ref, follows, resolves⟩)
    · exact ⟨_, .inl ⟨relation, found, .inl rfl⟩, same.symm⟩
    · exact ⟨ref, .inl ⟨relation, found, .inr ⟨target, reached, below⟩⟩, resolves⟩
    · exact ⟨ref, .inr follows, resolves⟩

end

end NestedFilter
