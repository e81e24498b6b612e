set_option autoImplicit false

namespace NestedFilter

structure EntityRef where
  name : String
  key : String
deriving DecidableEq, Repr

inductive FieldType where
  | scalar (name : String)
  /-- A struct that is no entity, such as a timestamp. -/
  | struct (name : String)
  | entity (ref : EntityRef)
  | pointer (inner : FieldType)
  | list (inner : FieldType)
deriving DecidableEq, Repr

inductive FieldShape where
  | single
  | collection
deriving DecidableEq, Repr

namespace FieldType

def concrete : FieldType → FieldType
  | pointer inner => inner.concrete
  | other => other

def element : FieldType → FieldType
  | pointer inner => inner.element
  | list inner => inner.element
  | leaf => leaf

def isStructLike (t : FieldType) : Bool :=
  match t.element with
  | struct _ => true
  | entity _ => true
  | _ => false

def shape? (t : FieldType) : Option FieldShape :=
  if t.isStructLike then
    match t.concrete with
    | list _ => some .collection
    | _ => some .single
  else none

def entityRef? (t : FieldType) : Option EntityRef :=
  match t.element with
  | entity ref => some ref
  | _ => none

/-- Equality of types in which an entity is known by its name alone. -/
def sameAs : FieldType → FieldType → Bool
  | scalar a, scalar b => a == b
  | struct a, struct b => a == b
  | entity a, entity b => a.name == b.name
  | pointer a, pointer b => a.sameAs b
  | list a, list b => a.sameAs b
  | _, _ => false

end FieldType

end NestedFilter
