import NestedFilter.Declaration.Describe
import NestedFilter.Proofs.Outcome

/-!
What the reader of declared types can leave under pointers and lists: an entity for a relation, and
a scalar or a struct that is none for any other field.
-/

set_option autoImplicit false

namespace NestedFilter

def LeafFits (isRelation : Bool) (fieldType : FieldType) : Prop :=
  match fieldType.element with
  | .entity _ => isRelation = true
  | _ => isRelation = false

theorem leaf_fits_pointer (isRelation : Bool) (inner : FieldType) :
    LeafFits isRelation (.pointer inner) ↔ LeafFits isRelation inner := Iff.rfl

theorem leaf_fits_list (isRelation : Bool) (inner : FieldType) :
    LeafFits isRelation (.list inner) ↔ LeafFits isRelation inner := Iff.rfl

def IsLeaf (isRelation : Bool) : FieldType → Prop
  | .entity _ => isRelation = true
  | .scalar _ => isRelation = false
  | .struct _ => isRelation = false
  | _ => False

theorem leaf_element (isRelation : Bool) (leaf : FieldType) (isLeaf : IsLeaf isRelation leaf) :
    leaf.element = leaf := by
  cases leaf with
  | entity _ | scalar _ | struct _ => rfl
  | pointer _ | list _ => cases isLeaf

theorem leaf_fits (isRelation : Bool) (leaf : FieldType) (isLeaf : IsLeaf isRelation leaf) :
    LeafFits isRelation leaf := by
  unfold LeafFits
  rw [leaf_element isRelation leaf isLeaf]
  cases leaf with
  | entity _ | scalar _ | struct _ => exact isLeaf
  | pointer _ | list _ => cases isLeaf

theorem path_type_leaf (isRelation : Bool) (type : TypeExpr) (name : String)
    (fieldType : FieldType) (read : pathType isRelation type name = .ok fieldType) :
    IsLeaf isRelation fieldType := by
  unfold pathType at read
  cases isRelation with
  | true =>
      by_cases scalar : scalarNames.contains name = true
      · rw [if_pos scalar, if_pos rfl] at read
        cases read
      · rw [if_neg scalar, if_pos rfl] at read
        cases read
        rfl
  | false =>
      by_cases scalar : scalarNames.contains name = true
      · rw [if_pos scalar] at read
        cases read
        rfl
      · rw [if_neg scalar] at read
        cases read
        rfl

theorem plain_type_leaf (isRelation : Bool) (type : TypeExpr) (fieldType : FieldType)
    (read : plainType isRelation type = .ok fieldType) : IsLeaf isRelation fieldType := by
  cases isRelation with
  | true => cases read
  | false =>
      cases read
      rfl

theorem applied_type_leaf (isRelation : Bool) (type : TypeExpr) (name : String)
    (last : Option (Except DeclarationError FieldType)) (fieldType : FieldType)
    (inside : ∀ inner, last = some (.ok inner) → LeafFits isRelation inner)
    (read : appliedType isRelation type name last = .ok fieldType) :
    LeafFits isRelation fieldType := by
  cases last with
  | none =>
      exact leaf_fits isRelation fieldType (path_type_leaf isRelation type name fieldType read)
  | some inner =>
      simp only [appliedType] at read
      split at read
      · obtain ⟨target, found, rfl⟩ := (map_ok_iff _ _ _).mp read
        exact (leaf_fits_pointer isRelation target).mpr (inside target (found ▸ rfl))
      · split at read
        · obtain ⟨item, found, rfl⟩ := (map_ok_iff _ _ _).mp read
          exact (leaf_fits_list isRelation item).mpr (inside item (found ▸ rfl))
        · exact leaf_fits isRelation fieldType (path_type_leaf isRelation type name fieldType read)

mutual

theorem field_type_leaf (isRelation : Bool) (type : TypeExpr) (fieldType : FieldType)
    (read : type.fieldType isRelation = .ok fieldType) : LeafFits isRelation fieldType := by
  match type with
  | .named segments => exact leaf_fits _ _ (path_type_leaf _ _ _ _ read)
  | .applied segments arguments =>
      apply applied_type_leaf _ _ _ _ _ _ read
      intro inner found
      exact last_field_type_leaf isRelation arguments inner found
  | .reference _ _ target =>
      obtain ⟨inner, found, rfl⟩ := (map_ok_iff _ _ _).mp read
      exact field_type_leaf isRelation target inner found
  | .slice item =>
      obtain ⟨inner, found, rfl⟩ := (map_ok_iff _ _ _).mp read
      exact field_type_leaf isRelation item inner found
  | .array item _ =>
      obtain ⟨inner, found, rfl⟩ := (map_ok_iff _ _ _).mp read
      exact field_type_leaf isRelation item inner found
  | .paren inner => exact field_type_leaf isRelation inner fieldType read
  | .group inner => exact field_type_leaf isRelation inner fieldType read
  | .tuple items => exact leaf_fits _ _ (plain_type_leaf _ _ _ read)
  | .other source => exact leaf_fits _ _ (plain_type_leaf _ _ _ read)
termination_by structural type

theorem argument_type_leaf (isRelation : Bool) (argument : TypeArgument) (inner : FieldType)
    (read : argument.fieldType? isRelation = some (.ok inner)) : LeafFits isRelation inner := by
  match argument with
  | .lifetime _ => cases read
  | .expr type => exact field_type_leaf isRelation type inner (Option.some.inj read)
termination_by structural argument

theorem last_field_type_leaf (isRelation : Bool) (arguments : List TypeArgument)
    (inner : FieldType)
    (read : TypeArgument.lastFieldType? isRelation arguments = some (.ok inner)) :
    LeafFits isRelation inner := by
  match arguments with
  | [] => cases read
  | argument :: rest =>
      rw [TypeArgument.lastFieldType?, Option.or_eq_some_iff] at read
      rcases read with later | ⟨_, here⟩
      · exact last_field_type_leaf isRelation rest inner later
      · exact argument_type_leaf isRelation argument inner here
termination_by structural arguments

end

end NestedFilter
