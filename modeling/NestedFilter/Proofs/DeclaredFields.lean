import NestedFilter.Proofs.DeclaredType
import NestedFilter.Relation.Reflect

/-!
Declared fields and what reflection finds out about each by itself: without a relation attribute a
field is plain, and with one it classifies as a relation or not at all, as the attribute says.
-/

set_option autoImplicit false

namespace NestedFilter

def carriedText : Option AttributeLiteral → String
  | some (.string text) => text
  | _ => ""

-- A key that is written twice carries what it carries last.
def carried? (key : String) (arguments : List (String × Option AttributeLiteral)) : Option String :=
  (arguments.reverse.find? fun argument => argument.1 == key).map fun argument =>
    carriedText argument.2

def Attribute.carries? (attr : Attribute) (key : String) : Option String :=
  match attr.content with
  | .list arguments => carried? key arguments
  | _ => none

-- What the first relation attribute of a field says; a foreign key decides before a junction table.
inductive RelationMark where
  | unmarked
  | undecided
  | blank (key : AnnotationKey)
  | foreignKey (key : String)
  | junction (table : String)
deriving DecidableEq, Repr

def RelationMark.isRelation : RelationMark → Bool
  | .foreignKey _ => true
  | .junction _ => true
  | _ => false

def Attribute.mark (attr : Attribute) : RelationMark :=
  match attr.carries? "foreign_key", attr.carries? "many_to_many" with
  | some key, _ => if Text.isBlank key then .blank .foreignKey else .foreignKey key
  | none, some table => if Text.isBlank table then .blank .manyToMany else .junction table
  | none, none => .undecided

def FieldDecl.mark (declared : FieldDecl) : RelationMark :=
  match declared.attributes.find? fun attr => attr.path == "relation" with
  | none => .unmarked
  | some attr => attr.mark

theorem carried_cons (key : String) (argument : String × Option AttributeLiteral)
    (rest : List (String × Option AttributeLiteral)) :
    carried? key (argument :: rest) =
      (carried? key rest).or (if argument.1 == key then some (carriedText argument.2) else none) := by
  simp only [carried?, List.reverse_cons, List.find?_append, List.find?_singleton]
  cases rest.reverse.find? fun other => other.1 == key with
  | some other => rfl
  | none => by_cases same : argument.1 == key <;> simp [same]

theorem annotate_sets (start annotations : RelationAnnotations) (name : String)
    (literal : Option AttributeLiteral)
    (set : Attribute.annotate start (name, literal) = .ok annotations) :
    annotations.foreignKey = (if name == "foreign_key" then some (carriedText literal)
      else start.foreignKey) ∧
    annotations.manyToMany = (if name == "many_to_many" then some (carriedText literal)
      else start.manyToMany) := by
  unfold Attribute.annotate at set
  match literal with
  | some .other => cases set
  | none
  | some (.string _) =>
      dsimp only [pure_bind] at set
      split at set
      · cases set
        exact ⟨rfl, rfl⟩
      · cases set
        exact ⟨rfl, rfl⟩
      · cases set

theorem annotations_carried (start annotations : RelationAnnotations)
    (arguments : List (String × Option AttributeLiteral))
    (set : arguments.foldlM Attribute.annotate start = .ok annotations) :
    annotations.foreignKey = (carried? "foreign_key" arguments).or start.foreignKey ∧
    annotations.manyToMany = (carried? "many_to_many" arguments).or start.manyToMany := by
  induction arguments generalizing start with
  | nil =>
      cases set
      exact ⟨rfl, rfl⟩
  | cons argument rest ih =>
      obtain ⟨name, literal⟩ := argument
      rw [List.foldlM_cons, bind_ok_iff] at set
      obtain ⟨next, one, others⟩ := set
      obtain ⟨sameKey, sameTable⟩ := ih next others
      obtain ⟨keySet, tableSet⟩ := annotate_sets start next name literal one
      rw [sameKey, sameTable, keySet, tableSet, carried_cons, carried_cons, Option.or_assoc,
        Option.or_assoc]
      constructor
      · by_cases same : name == "foreign_key" <;> simp [same]
      · by_cases same : name == "many_to_many" <;> simp [same]

theorem relation_read (attributes : List Attribute) (found : Option RelationAnnotations)
    (read : Attribute.relation? attributes = .ok found) :
    match attributes.find? fun attr => attr.path == "relation" with
    | none => found = none
    | some attr => found =
        some ⟨attr.carries? "foreign_key", attr.carries? "many_to_many"⟩ := by
  unfold Attribute.relation? at read
  cases first : attributes.find? fun attr => attr.path == "relation" with
  | none =>
      simp only [first] at read
      cases read
      rfl
  | some attr =>
      simp only [first] at read
      cases content : attr.content with
      | bare =>
          simp only [content] at read
          cases read
          simp [Attribute.carries?, content]
      | assigned value =>
          simp only [content] at read
          cases read
      | list arguments =>
          simp only [content] at read
          obtain ⟨annotations, set, same⟩ := (bind_ok_iff _ _ _).mp read
          cases same
          obtain ⟨key, table⟩ := annotations_carried {} annotations arguments set
          obtain ⟨foreignKey, manyToMany⟩ := annotations
          obtain rfl : foreignKey = carried? "foreign_key" arguments := by simpa using key
          obtain rfl : manyToMany = carried? "many_to_many" arguments := by simpa using table
          simp [Attribute.carries?, content]

def FieldType.startsList (fieldType : FieldType) : Bool :=
  match fieldType.concrete with
  | .list _ => true
  | _ => false

def FieldFits (registry : Registry) (naming : NamingStrategy) (schema : EntitySchema)
    (field : FieldDef) : RelationMark → Prop
  | .unmarked => field.isPlain = true
  | .undecided => field.isPlain = false ∧ classify registry naming schema field =
      .error (.unclassifiableRelation schema.name field.name)
  | .blank key => field.isPlain = false ∧ classify registry naming schema field =
      .error (.emptyAnnotationValue schema.name field.name key)
  | .foreignKey key => field.isPlain = false ∧ ∃ related,
      field.fieldType.entityRef? = some related ∧ classify registry naming schema field =
        .ok (keyRelation registry naming schema related key
          (if field.fieldType.startsList then .collection else .single))
  | .junction table => field.isPlain = false ∧ ∃ related,
      field.fieldType.entityRef? = some related ∧ classify registry naming schema field =
        .ok (junctionRelation naming schema related table)

theorem plain_of_leaf (field : FieldDef) (leaf : LeafFits false field.fieldType)
    (unannotated : field.annotations = {}) : field.isPlain = true := by
  unfold LeafFits at leaf
  unfold FieldDef.isPlain
  cases element : field.fieldType.element with
  | entity ref => simp [element] at leaf
  | struct name => simp [unannotated, RelationAnnotations.isEmpty]
  | scalar _ | pointer _ | list _ => rfl

theorem entity_of_leaf (fieldType : FieldType) (leaf : LeafFits true fieldType) :
    ∃ ref, fieldType.element = .entity ref := by
  unfold LeafFits at leaf
  cases element : fieldType.element with
  | entity ref => exact ⟨ref, rfl⟩
  | scalar _ | struct _ | pointer _ | list _ => simp [element] at leaf

theorem entity_shape (fieldType : FieldType) (ref : EntityRef)
    (element : fieldType.element = .entity ref) :
    fieldType.shape? = some (if fieldType.startsList then .collection else .single) ∧
      fieldType.entityRef? = some ref := by
  constructor
  · have struct : fieldType.isStructLike = true := by rw [FieldType.isStructLike, element]
    rw [FieldType.shape?, if_pos struct, FieldType.startsList]
    cases fieldType.concrete <;> rfl
  · simp only [FieldType.entityRef?, element]

theorem marked_entity_fits (registry : Registry) (naming : NamingStrategy)
    (schema : EntitySchema) (field : FieldDef) (ref : EntityRef) (attr : Attribute)
    (element : field.fieldType.element = .entity ref)
    (annotated : field.annotations =
      ⟨attr.carries? "foreign_key", attr.carries? "many_to_many"⟩) :
    FieldFits registry naming schema field attr.mark := by
  have other : field.isPlain = false := by simp only [FieldDef.isPlain, element]
  obtain ⟨shape, related⟩ := entity_shape field.fieldType ref element
  unfold Attribute.mark
  cases key : attr.carries? "foreign_key" with
  | some text =>
      dsimp only
      by_cases empty : Text.isBlank text = true
      · rw [if_pos empty]
        exact ⟨other, by simp [classify, shape, related, annotated, key, empty]⟩
      · rw [if_neg empty]
        exact ⟨other, ref, related, by simp [classify, shape, related, annotated, key, empty]⟩
  | none =>
      cases table : attr.carries? "many_to_many" with
      | some text =>
          dsimp only
          by_cases empty : Text.isBlank text = true
          · rw [if_pos empty]
            exact ⟨other, by simp [classify, shape, related, annotated, key, table, empty]⟩
          · rw [if_neg empty]
            exact ⟨other, ref, related,
              by simp [classify, shape, related, annotated, key, table, empty]⟩
      | none => exact ⟨other, by simp [classify, shape, related, annotated, key, table]⟩

theorem described_field_fits (registry : Registry) (naming : NamingStrategy)
    (schema : EntitySchema) (declared : FieldDecl) (field : FieldDef)
    (described : declared.describe = .ok field) :
    FieldFits registry naming schema field declared.mark := by
  obtain ⟨relation, read, rest⟩ := (bind_ok_iff _ _ _).mp described
  obtain ⟨fieldType, typed, same⟩ := (bind_ok_iff _ _ _).mp rest
  have leaf := field_type_leaf relation.isSome declared.type fieldType typed
  have annotated := relation_read declared.attributes relation read
  unfold FieldDecl.mark
  cases first : declared.attributes.find? fun attr => attr.path == "relation" with
  | none =>
      simp only [first] at annotated
      subst annotated
      cases same
      exact plain_of_leaf _ leaf rfl
  | some attr =>
      simp only [first] at annotated
      subst annotated
      cases same
      obtain ⟨ref, element⟩ := entity_of_leaf fieldType leaf
      exact marked_entity_fits registry naming schema _ ref attr element rfl

end NestedFilter
