import NestedFilter.Json.Value

set_option autoImplicit false

namespace NestedFilter

inductive AnnotationKey where
  | foreignKey
  | manyToMany
deriving DecidableEq, Repr

def AnnotationKey.label : AnnotationKey → String
  | .foreignKey => "foreign_key"
  | .manyToMany => "many_to_many"

inductive Mismatch where
  | notAFilter (found : Json.Kind)
  | notAScalar (found : Json.Kind)
  | nestedFilter
  | nestedFilterInList
  | relationNeedsFilter
deriving DecidableEq, Repr

def Mismatch.message : Mismatch → String
  | .notAFilter found => "expected a filter object, got " ++ found.phrase
  | .notAScalar found => "expected a scalar, got " ++ found.phrase
  | .nestedFilter => "a nested filter is not a scalar value"
  | .nestedFilterInList => "membership lists cannot hold nested filters"
  | .relationNeedsFilter => "relations can only be filtered with a nested filter"

inductive FilterError where
  | unknownField (entity field : String)
  | unclassifiableRelation (entity field : String)
  | emptyAnnotationValue (entity field : String) (key : AnnotationKey)
  /-- Two fields of one resolved name, at least one of them a relation. -/
  | nameCollision (entity column : String)
  | invalidValue (field : String) (mismatch : Mismatch)
deriving DecidableEq, Repr

namespace FilterError

def field : FilterError → String
  | unknownField _ field => field
  | unclassifiableRelation _ field => field
  | emptyAnnotationValue _ field _ => field
  | nameCollision _ column => column
  | invalidValue field _ => field

def message : FilterError → String
  | unknownField entity field => s!"field '{field}' does not exist on '{entity}'"
  | unclassifiableRelation entity field =>
      s!"field '{field}' of '{entity}' has no 'foreign_key' or 'many_to_many' annotation"
  | emptyAnnotationValue entity field key =>
      s!"annotation '{key.label}' on field '{field}' of '{entity}' has no value"
  | nameCollision entity column =>
      s!"column '{column}' of '{entity}' is both a plain column and a relation"
  | invalidValue field mismatch =>
      s!"invalid filter value for '{field}': {mismatch.message}"

end FilterError

end NestedFilter
