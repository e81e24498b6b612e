import NestedFilter.Schema.Entity
import NestedFilter.Naming.Strategy
import NestedFilter.Text.CharClass
import NestedFilter.Error

/-!
Relations between entities, and the classification of a declared field: its shape and its
annotations say whether it is a relation, and of which kind.
-/

set_option autoImplicit false

namespace NestedFilter

structure Junction where
  table : String
  relatedKey : String
  ownerKey : String
deriving DecidableEq, Repr

inductive RelationKind where
  | toOne
  | toMany
  | manyToMany (junction : Junction)
deriving DecidableEq, Repr

def RelationKind.label : RelationKind → String
  | .toOne => "to-one"
  | .toMany => "to-many"
  | .manyToMany _ => "many-to-many"

/-- The foreign key is a column of the owner, of the related entity or of the junction,
as the kind says. -/
structure Relation where
  related : EntityRef
  foreignKey : String
  kind : RelationKind
deriving DecidableEq, Repr

def Relation.junction? (relation : Relation) : Option Junction :=
  match relation.kind with
  | .manyToMany junction => some junction
  | _ => none

def keyRelation (registry : Registry) (naming : NamingStrategy) (owner : EntitySchema)
    (related : EntityRef) (key : String) : FieldShape → Relation
  | .single => ⟨related, naming.keyColumn owner key, .toOne⟩
  | .collection => ⟨related, naming.keyColumn (registry.resolve related) key, .toMany⟩

def junctionRelation (naming : NamingStrategy) (owner : EntitySchema) (related : EntityRef)
    (table : String) : Relation :=
  let relatedKey := naming.foreignKeyName related.name
  let junction : Junction :=
    ⟨naming.joinTableName table, relatedKey, naming.foreignKeyName owner.name⟩
  ⟨related, relatedKey, .manyToMany junction⟩

/-- A foreign key decides before a junction table; either must be written with a value. -/
def classify (registry : Registry) (naming : NamingStrategy) (owner : EntitySchema)
    (field : FieldDef) : Except FilterError Relation :=
  let unclassifiable := .error (.unclassifiableRelation owner.name field.name)
  match field.fieldType.shape?, field.fieldType.entityRef? with
  | some shape, some related =>
      match field.annotations.foreignKey, field.annotations.manyToMany with
      | some key, _ =>
          if Text.isBlank key then .error (.emptyAnnotationValue owner.name field.name .foreignKey)
          else .ok (keyRelation registry naming owner related key shape)
      | none, some table =>
          if Text.isBlank table then .error (.emptyAnnotationValue owner.name field.name .manyToMany)
          else .ok (junctionRelation naming owner related table)
      | none, none => unclassifiable
  | _, _ => unclassifiable

end NestedFilter
