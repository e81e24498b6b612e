import NestedFilter.Schema.FieldType

/-!
Entity schemas: the declared fields of an entity with their overrides and relation annotations,
and the registry that resolves references between entities.
-/

set_option autoImplicit false

namespace NestedFilter

/-- Relation annotations of a field; an empty text stands for one written without a value. -/
structure RelationAnnotations where
  foreignKey : Option String := none
  manyToMany : Option String := none
deriving DecidableEq, Repr

def RelationAnnotations.isEmpty (annotations : RelationAnnotations) : Bool :=
  annotations.foreignKey.isNone && annotations.manyToMany.isNone

structure FieldDef where
  name : String
  fieldType : FieldType
  columnName : Option String := none
  isPrimaryKey : Bool := false
  annotations : RelationAnnotations := {}
deriving DecidableEq, Repr

structure EntitySchema where
  name : String
  tableName : Option String := none
  fields : List FieldDef := []
deriving DecidableEq, Repr

namespace EntitySchema

def getField? (schema : EntitySchema) (name : String) : Option FieldDef :=
  schema.fields.find? (fun field => field.name == name)

def primaryKeyField? (schema : EntitySchema) : Option FieldDef :=
  (schema.fields.find? (·.isPrimaryKey)).or (schema.getField? "id")

end EntitySchema

/-- The schemas that entity references stand for. They are looked up when a reference is followed,
so entities may refer to each other in circles. -/
abbrev Registry := String → EntitySchema

namespace Registry

def empty : Registry := fun key => { name := key }

def define (registry : Registry) (key : String) (schema : EntitySchema) : Registry :=
  fun k => if k = key then schema else registry k

def resolve (registry : Registry) (ref : EntityRef) : EntitySchema := registry ref.key

end Registry

end NestedFilter
