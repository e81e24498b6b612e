import NestedFilter.Relation.Classify

/-!
Reflection of an entity: which of its fields are plain columns and which are relations, under the
names that filters use. No two fields may share a name when one of them is a relation.
-/

set_option autoImplicit false

namespace NestedFilter

structure EntityRelations where
  entity : String
  table : String
  primaryKey : String
  relations : List (String × Relation)
  columns : List String
deriving DecidableEq, Repr

namespace EntityRelations

def relation? (entity : EntityRelations) (column : String) : Option Relation :=
  (entity.relations.find? (fun entry => entry.1 == column)).map (·.2)

def hasColumn (entity : EntityRelations) (column : String) : Bool := entity.columns.contains column

end EntityRelations

inductive FieldRole where
  | column
  | relation (relation : Relation)
  | skipped (reason : FilterError)

def FieldDef.isPlain (field : FieldDef) : Bool :=
  match field.fieldType.element with
  | .struct _ => field.annotations.isEmpty
  | .entity _ => false
  | _ => true

def fieldRole (registry : Registry) (naming : NamingStrategy) (schema : EntitySchema)
    (field : FieldDef) : FieldRole :=
  if field.isPlain then .column
  else
    match classify registry naming schema field with
    | .ok relation => .relation relation
    | .error reason => .skipped reason

def FieldRole.relation? : FieldRole → Option Relation
  | .relation found => some found
  | _ => none

def declaredRelations (registry : Registry) (naming : NamingStrategy) (schema : EntitySchema) :
    List (String × Relation) :=
  schema.fields.filterMap fun field =>
    (fieldRole registry naming schema field).relation?.map fun relation =>
      (naming.column schema field, relation)

def insertSorted (s : String) : List String → List String
  | [] => [s]
  | t :: rest =>
      if s = t then t :: rest
      else if s < t then s :: t :: rest
      else t :: insertSorted s rest

def sortedOnce (texts : List String) : List String := texts.foldr insertSorted []

def declaredColumns (naming : NamingStrategy) (schema : EntitySchema) : List String :=
  sortedOnce ((schema.fields.filter (·.isPlain)).map (naming.column schema))

def firstRepeated? (seen : List String) : List String → Option String
  | [] => none
  | s :: rest => if seen.contains s then some s else firstRepeated? (s :: seen) rest

/-- Why an entity has no reflection: names that two of its fields share. One of them is reported,
and which one depends on the order of a map that has none. -/
structure Collision where
  entity : String
  column : String
  others : List String := []
deriving DecidableEq, Repr

namespace Collision

def columns (collision : Collision) : List String := collision.column :: collision.others

def report (collision : Collision) (choice : Nat) : FilterError :=
  .nameCollision collision.entity
    (collision.columns[choice % collision.columns.length]?.getD collision.column)

end Collision

/-- The first name that two relations share, else all that relations share with plain columns. -/
def collision? (entity : String) (relations : List (String × Relation)) (columns : List String) :
    Option Collision :=
  let names := relations.map (·.1)
  match firstRepeated? [] names with
  | some column => some { entity := entity, column := column }
  | none =>
      match names.filter columns.contains with
      | [] => none
      | column :: others => some { entity := entity, column := column, others := others }

def reflect (registry : Registry) (naming : NamingStrategy) (schema : EntitySchema) :
    Except Collision EntityRelations :=
  let relations := declaredRelations registry naming schema
  let columns := declaredColumns naming schema
  match collision? schema.name relations columns with
  | some collision => .error collision
  | none =>
      .ok {
        entity := schema.name
        table := naming.table schema
        primaryKey := naming.primaryKey schema
        relations := relations
        columns := columns }

end NestedFilter
