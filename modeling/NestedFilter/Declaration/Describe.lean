import NestedFilter.Declaration.TypeExpr
import NestedFilter.Schema.Entity

set_option autoImplicit false

namespace NestedFilter

inductive AttributeLiteral where
  | string (value : String)
  | other
deriving DecidableEq, Repr

inductive AttributeContent where
  | bare
  | assigned (value : AttributeLiteral)
  | list (arguments : List (String × Option AttributeLiteral))
deriving DecidableEq, Repr

structure Attribute where
  path : String
  content : AttributeContent
deriving DecidableEq, Repr

structure FieldDecl where
  name : String
  type : TypeExpr
  attributes : List Attribute

inductive ItemBody where
  | namedFields (fields : List FieldDecl)
  | other

structure Item where
  name : String
  attributes : List Attribute
  body : ItemBody

namespace Attribute

def assignedText? (name : String) (attributes : List Attribute) : Option String :=
  attributes.findSome? fun attr =>
    match attr.content with
    | .assigned (.string value) => if attr.path == name then some value else none
    | _ => none

def has (name : String) (attributes : List Attribute) : Bool :=
  attributes.any (fun attr => attr.path == name)

/-- Sets the annotation that one argument names; without a value it gets the empty text. -/
def annotate (annotations : RelationAnnotations) (argument : String × Option AttributeLiteral) :
    Except DeclarationError RelationAnnotations := do
  let value ←
    match argument.2 with
    | none => pure ""
    | some (.string value) => pure value
    | some .other => throw .valueNotAString
  match argument.1 with
  | "foreign_key" => pure { annotations with foreignKey := some value }
  | "many_to_many" => pure { annotations with manyToMany := some value }
  | _ => throw .unknownRelationKey

def relation? (attributes : List Attribute) :
    Except DeclarationError (Option RelationAnnotations) :=
  match attributes.find? (fun attr => attr.path == "relation") with
  | none => pure none
  | some attr =>
      match attr.content with
      | .bare => pure (some {})
      | .assigned _ => throw .bareRelationValue
      | .list arguments => do pure (some (← arguments.foldlM annotate {}))

end Attribute

/-- A name that was written raw, to keep it apart from a keyword, loses the mark. -/
def unmarked (name : String) : String :=
  match name.toList with
  | 'r' :: '#' :: rest => String.ofList rest
  | _ => name

def FieldDecl.describe (field : FieldDecl) : Except DeclarationError FieldDef := do
  let relation ← Attribute.relation? field.attributes
  let fieldType ← field.type.fieldType relation.isSome
  pure {
    name := unmarked field.name
    fieldType := fieldType
    columnName := Attribute.assignedText? "column_name" field.attributes
    isPrimaryKey := Attribute.has "primary_key" field.attributes
    annotations := relation.getD {} }

def Item.describe (item : Item) : Except DeclarationError EntitySchema :=
  match item.body with
  | .other => throw .noNamedFields
  | .namedFields fields => do
      let described ← fields.mapM FieldDecl.describe
      pure {
        name := item.name
        tableName := Attribute.assignedText? "table_name" item.attributes
        fields := described }

end NestedFilter
