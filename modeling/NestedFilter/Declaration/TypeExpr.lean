import NestedFilter.Schema.FieldType
import NestedFilter.Declaration.Argument

/-!
Type expressions of declared fields, their token text, and the field types they stand for: known
wrappers become pointers and lists, and what is under them is a scalar, a struct or an entity.
-/

set_option autoImplicit false

namespace NestedFilter

mutual

inductive TypeExpr where
  | named (segments : List String)
  | applied (segments : List String) (arguments : List TypeArgument)
  | reference (lifetime : Option String) (isMutable : Bool) (target : TypeExpr)
  | slice (item : TypeExpr)
  | array (item : TypeExpr) (length : String)
  | paren (inner : TypeExpr)
  /-- A group that leaves no trace in the text. -/
  | group (inner : TypeExpr)
  | tuple (items : List TypeExpr)
  | other (source : String)

inductive TypeArgument where
  | lifetime (name : String)
  | expr (type : TypeExpr)

end

inductive DeclarationError where
  | noNamedFields
  | bareRelationValue
  | valueNotAString
  | unknownRelationKey
  | scalarRelation
  | unsupportedRelation
deriving DecidableEq, Repr

def DeclarationError.message : DeclarationError → String
  | .noNamedFields => "DeepEntity can only be derived for structs with named fields"
  | .bareRelationValue => "expected parentheses: #[relation(...)]"
  | .valueNotAString => "expected string literal"
  | .unknownRelationKey =>
      "unknown relation attribute, expected `foreign_key` or `many_to_many`"
  | .scalarRelation => "relation fields must hold a DeepEntity type, found a scalar"
  | .unsupportedRelation => "unsupported relation field type"

def pathText (segments : List String) : String := String.intercalate " :: " segments

def listed (opening closing : String) (texts : List String) : String :=
  opening ++ String.intercalate " , " texts ++ closing

mutual

def TypeExpr.text : TypeExpr → String
  | .named segments => pathText segments
  | .applied segments arguments =>
      let texts := Argument.arrange "," (TypeArgument.arguments arguments)
      String.intercalate " " (pathText segments :: "<" :: texts ++ [">"])
  | .reference life isMutable target =>
      let marks := ["&"] ++ life.toList ++ (if isMutable then ["mut"] else [])
      String.intercalate " " (marks ++ [target.text])
  | .slice item => "[" ++ item.text ++ "]"
  | .array item length => "[" ++ item.text ++ " ; " ++ Token.expressionText length ++ "]"
  | .paren inner => "(" ++ inner.text ++ ")"
  | .group inner => inner.text
  | .tuple items =>
      let texts := TypeExpr.texts items
      listed "(" (if texts.length = 1 then " ,)" else ")") texts
  | .other source => Token.typeText source
termination_by structural type => type

def TypeExpr.texts : List TypeExpr → List String
  | [] => []
  | item :: rest => item.text :: TypeExpr.texts rest
termination_by structural items => items

def TypeArgument.arguments : List TypeArgument → List (Argument String)
  | [] => []
  | .lifetime name :: rest => ⟨name, true, !rest.isEmpty⟩ :: TypeArgument.arguments rest
  | .expr type :: rest => ⟨type.text, false, !rest.isEmpty⟩ :: TypeArgument.arguments rest
termination_by structural arguments => arguments

end

/-- Text without any space, by which an entity is known. -/
def TypeExpr.compactText (type : TypeExpr) : String :=
  String.ofList (type.text.toList.filter (· ≠ ' '))

def pointerWrappers : List String := ["Option", "Box", "Arc", "Rc", "Cow"]

def listWrappers : List String := ["Vec", "VecDeque", "HashSet", "BTreeSet", "LinkedList"]

def scalarNames : List String := [
  "i8", "i16", "i32", "i64", "i128", "isize", "u8", "u16", "u32", "u64", "u128", "usize", "f32",
  "f64", "bool", "char", "str", "String"]

def pathType (isRelation : Bool) (type : TypeExpr) (name : String) :
    Except DeclarationError FieldType :=
  if scalarNames.contains name then
    if isRelation then .error .scalarRelation else .ok (.scalar name)
  else if isRelation then .ok (.entity ⟨type.compactText, type.compactText⟩)
  else .ok (.struct name)

def plainType (isRelation : Bool) (type : TypeExpr) : Except DeclarationError FieldType :=
  if isRelation then .error .unsupportedRelation else .ok (.scalar type.text)

def appliedType (isRelation : Bool) (type : TypeExpr) (name : String)
    (last : Option (Except DeclarationError FieldType)) : Except DeclarationError FieldType :=
  match last with
  | some inner =>
      if pointerWrappers.contains name then inner.map .pointer
      else if listWrappers.contains name then inner.map .list
      else pathType isRelation type name
  | none => pathType isRelation type name

mutual

def TypeExpr.fieldType (isRelation : Bool) : TypeExpr → Except DeclarationError FieldType
  | .named segments => pathType isRelation (.named segments) (segments.getLastD "")
  | .applied segments arguments =>
      appliedType isRelation (.applied segments arguments) (segments.getLastD "")
        (TypeArgument.lastFieldType? isRelation arguments)
  | .reference _ _ target => (target.fieldType isRelation).map .pointer
  | .slice item => (item.fieldType isRelation).map .list
  | .array item _ => (item.fieldType isRelation).map .list
  | .paren inner => inner.fieldType isRelation
  | .group inner => inner.fieldType isRelation
  | .tuple items => plainType isRelation (.tuple items)
  | .other source => plainType isRelation (.other source)
termination_by structural type => type

def TypeArgument.fieldType? (isRelation : Bool) :
    TypeArgument → Option (Except DeclarationError FieldType)
  | .lifetime _ => none
  | .expr type => some (type.fieldType isRelation)
termination_by structural argument => argument

def TypeArgument.lastFieldType? (isRelation : Bool) :
    List TypeArgument → Option (Except DeclarationError FieldType)
  | [] => none
  | argument :: rest =>
      (TypeArgument.lastFieldType? isRelation rest).or (argument.fieldType? isRelation)
termination_by structural arguments => arguments

end

end NestedFilter
