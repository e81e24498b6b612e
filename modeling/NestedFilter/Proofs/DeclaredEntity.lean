import NestedFilter.Filter.Compile
import NestedFilter.Proofs.DeclaredFields
import NestedFilter.Proofs.Faithful
import NestedFilter.Proofs.ReflectedNames

/-!
Declared structs and their reflections: every field has its place among the columns or among the
relations, or else a filter on it is refused with the reason.
-/

set_option autoImplicit false

namespace NestedFilter

open Json (Value)

def Item.fields (item : Item) : List FieldDecl :=
  match item.body with
  | .namedFields fields => fields
  | .other => []

theorem described_fields (item : Item) (schema : EntitySchema)
    (described : item.describe = .ok schema) :
    item.fields.mapM FieldDecl.describe = .ok schema.fields := by
  unfold Item.describe at described
  unfold Item.fields
  cases body : item.body with
  | other =>
      simp only [body] at described
      cases described
  | namedFields fields =>
      simp only [body] at described
      obtain ⟨fields, mapped, same⟩ := (bind_ok_iff _ _ _).mp described
      cases same
      exact mapped

theorem compile_partition_error (compiler : Compiler) (schema : EntitySchema)
    (filters : List Filter) (entity : EntityRelations) (error : FilterError) (session : Session)
    (empty : session.cache.entries = [])
    (reflected : reflect compiler.registry compiler.naming schema = .ok entity)
    (refused : partition compiler.registry compiler.naming schema entity filters.flatten =
      .error error) :
    (compiler.compile schema filters).outcome session = .error error := by
  have search : session.cache.find? (Lookup.key ⟨compiler.naming, schema⟩) = none := by
    rw [find_none_iff, empty]
    exact List.not_mem_nil
  have found := apply_miss compiler.registry session.cache ⟨compiler.naming, schema⟩ entity search
    reflected
  have evaluated : ((compiler.plan schema filters).eval compiler.registry session.cache).1 =
      .error (.failed error) := by
    simp only [Compiler.plan, Compiler.predicates, Compiler.level, relations_bind, lookup_bind,
      Plan.eval, found, refused]
    rfl
  rw [Compiler.compile, (run_eval compiler.registry _ session).1, evaluated]
  rfl

theorem unknown_object_refused (registry : Registry) (naming : NamingStrategy)
    (schema : EntitySchema) (entity : EntityRelations) (column : String) (inner rest : Filter)
    (absent : entity.relation? column = none) :
    partition registry naming schema entity ((column, .object inner) :: rest) =
      .error (missingRelation registry naming schema column) := by
  have placed : placeEntry registry naming schema entity column (.object inner) =
      .error (missingRelation registry naming schema column) := by
    simp only [placeEntry, absent]
  rw [partition, List.mapM_cons, placed]
  rfl

theorem shaped_of_other (field : FieldDef) (other : field.isPlain = false) :
    field.fieldType.shape?.isSome = true := by
  have struct : field.fieldType.isStructLike = true := by
    unfold FieldDef.isPlain at other
    unfold FieldType.isStructLike
    cases element : field.fieldType.element with
    | struct _ | entity _ => rfl
    | scalar _ | pointer _ | list _ => simp [element] at other
  rw [FieldType.shape?, if_pos struct]
  cases field.fieldType.concrete <;> rfl

theorem missing_relation_of_field (registry : Registry) (naming : NamingStrategy)
    (schema : EntitySchema) (field : FieldDef) (error : FilterError)
    (declared : field ∈ schema.fields) (other : field.isPlain = false)
    (alone : ∀ other ∈ schema.fields,
      naming.column schema other = naming.column schema field → other = field)
    (failed : classify registry naming schema field = .error error) :
    missingRelation registry naming schema (naming.column schema field) = error := by
  unfold missingRelation
  cases found : schema.fields.find? fun candidate => candidate.fieldType.shape?.isSome &&
      naming.column schema candidate == naming.column schema field with
  | none =>
      have none := List.find?_eq_none.mp found field declared
      simp [shaped_of_other field other] at none
  | some candidate =>
      have shared := List.find?_some found
      rw [Bool.and_eq_true, beq_iff_eq] at shared
      obtain rfl := alone candidate (List.mem_of_find?_eq_some found) shared.2
      simp only [Option.map_some, failed]

-- What is refused is an object on the column of the field alone: a field that shares the column may
-- be the relation that the object is meant for.
def Refused (registry : Registry) (naming : NamingStrategy) (schema : EntitySchema)
    (entity : EntityRelations) (field : FieldDef) (error : FilterError) : Prop :=
  (∀ other ∈ schema.fields, naming.column schema other = naming.column schema field →
    other = field) →
  entity.hasColumn (naming.column schema field) = false ∧
  entity.relation? (naming.column schema field) = none ∧
  ∀ (options : FilterOptions) (inner : Filter) (session : Session),
    session.cache.entries = [] →
    let compiler : Compiler := ⟨registry, naming, options⟩
    (compiler.compile schema [[(naming.column schema field, .object inner)]]).outcome session =
      .error error

theorem refused_of_error (registry : Registry) (naming : NamingStrategy) (schema : EntitySchema)
    (entity : EntityRelations) (field : FieldDef) (error : FilterError)
    (reflected : reflect registry naming schema = .ok entity) (declared : field ∈ schema.fields)
    (other : field.isPlain = false)
    (failed : classify registry naming schema field = .error error) :
    Refused registry naming schema entity field error := by
  intro alone
  have noColumn : entity.hasColumn (naming.column schema field) = false := by
    rw [← Bool.not_eq_true, has_column_iff registry naming schema entity reflected]
    intro placed
    obtain ⟨same, listed, plain, shared⟩ := placed
    rw [alone same listed shared, other] at plain
    cases plain
  have noRelation : entity.relation? (naming.column schema field) = none := by
    rw [Option.eq_none_iff_forall_not_mem]
    intro relation found
    obtain ⟨same, listed, _, classified, shared⟩ :=
      (relation_found_iff registry naming schema entity reflected _ relation).mp found
    rw [alone same listed shared, failed] at classified
    cases classified
  refine ⟨noColumn, noRelation, ?_⟩
  intro options inner session empty
  have refused := unknown_object_refused registry naming schema entity _ inner [] noRelation
  rw [missing_relation_of_field registry naming schema field error declared other alone failed]
    at refused
  exact compile_partition_error _ schema _ entity error session empty reflected refused

def Placed (registry : Registry) (naming : NamingStrategy) (schema : EntitySchema)
    (entity : EntityRelations) (field : FieldDef) : RelationMark → Prop
  | .unmarked => entity.hasColumn (naming.column schema field) = true
  | .foreignKey _ => ∃ relation, entity.relation? (naming.column schema field) = some relation ∧
      field.fieldType.entityRef? = some relation.related ∧
      relation.kind = if field.fieldType.startsList then .toMany else .toOne
  | .junction table => ∃ relation junction,
      entity.relation? (naming.column schema field) = some relation ∧
      field.fieldType.entityRef? = some relation.related ∧
      relation.kind = .manyToMany junction ∧ junction.table = naming.joinTableName table
  | .undecided => Refused registry naming schema entity field
      (.unclassifiableRelation schema.name field.name)
  | .blank key => Refused registry naming schema entity field
      (.emptyAnnotationValue schema.name field.name key)

theorem placed_of_fits (registry : Registry) (naming : NamingStrategy) (schema : EntitySchema)
    (entity : EntityRelations) (field : FieldDef) (mark : RelationMark)
    (reflected : reflect registry naming schema = .ok entity) (declared : field ∈ schema.fields)
    (fits : FieldFits registry naming schema field mark) :
    Placed registry naming schema entity field mark := by
  cases mark with
  | unmarked =>
      exact (has_column_iff registry naming schema entity reflected _).mpr
        ⟨field, declared, fits, rfl⟩
  | undecided =>
      exact refused_of_error registry naming schema entity field _ reflected declared fits.1 fits.2
  | blank key =>
      exact refused_of_error registry naming schema entity field _ reflected declared fits.1 fits.2
  | foreignKey key =>
      obtain ⟨other, related, refers, classified⟩ := fits
      refine ⟨_, (relation_found_iff registry naming schema entity reflected _ _).mpr
        ⟨field, declared, other, classified, rfl⟩, ?_⟩
      cases field.fieldType.startsList <;> exact ⟨refers, rfl⟩
  | junction table =>
      obtain ⟨other, related, refers, classified⟩ := fits
      exact ⟨_, _, (relation_found_iff registry naming schema entity reflected _ _).mpr
        ⟨field, declared, other, classified, rfl⟩, refers, rfl, rfl⟩

theorem plain_iff_unmarked (registry : Registry) (naming : NamingStrategy) (schema : EntitySchema)
    (field : FieldDef) (mark : RelationMark) (fits : FieldFits registry naming schema field mark) :
    field.isPlain = true ↔ mark = .unmarked := by
  cases mark with
  | unmarked => exact ⟨fun _ => rfl, fun _ => fits⟩
  | undecided | blank _ | foreignKey _ | junction _ => simp [fits.1]

theorem classified_iff_marked (registry : Registry) (naming : NamingStrategy)
    (schema : EntitySchema) (field : FieldDef) (mark : RelationMark)
    (fits : FieldFits registry naming schema field mark) :
    (∃ relation, field.isPlain = false ∧ classify registry naming schema field = .ok relation) ↔
      mark.isRelation = true := by
  cases mark with
  | unmarked =>
      have plain : field.isPlain = true := fits
      simp [plain, RelationMark.isRelation]
  | undecided | blank _ => simp [fits.2, RelationMark.isRelation]
  | foreignKey _ | junction _ =>
      obtain ⟨other, related, _, classified⟩ := fits
      exact ⟨fun _ => rfl, fun _ => ⟨_, other, classified⟩⟩

structure Reflects (registry : Registry) (naming : NamingStrategy) (item : Item)
    (schema : EntitySchema) (entity : EntityRelations) : Prop where
  placed : ∀ declared ∈ item.fields, ∃ field ∈ schema.fields, declared.describe = .ok field ∧
    Placed registry naming schema entity field declared.mark
  columns : ∀ name, entity.hasColumn name = true ↔ ∃ declared ∈ item.fields, ∃ field,
    declared.describe = .ok field ∧ declared.mark = .unmarked ∧ naming.column schema field = name
  relations : ∀ name, (∃ relation, entity.relation? name = some relation) ↔
    ∃ declared ∈ item.fields, ∃ field, declared.describe = .ok field ∧
      declared.mark.isRelation = true ∧ naming.column schema field = name

section

variable (registry : Registry) (naming : NamingStrategy) (item : Item) (schema : EntitySchema)
  (entity : EntityRelations) (described : item.describe = .ok schema)
  (reflected : reflect registry naming schema = .ok entity)

include described

theorem described_field_iff (field : FieldDef) :
    field ∈ schema.fields ↔ ∃ declared ∈ item.fields, declared.describe = .ok field :=
  map_all_mem_iff FieldDecl.describe item.fields schema.fields
    (described_fields item schema described) field

include reflected

theorem declared_field_placed (declared : FieldDecl) (member : declared ∈ item.fields) :
    ∃ field ∈ schema.fields, declared.describe = .ok field ∧
      Placed registry naming schema entity field declared.mark := by
  obtain ⟨field, one⟩ := map_all_total _ _ _ (described_fields item schema described) declared member
  have listed := (described_field_iff item schema described field).mpr ⟨declared, member, one⟩
  have fits := described_field_fits registry naming schema declared field one
  exact ⟨field, listed, one,
    placed_of_fits registry naming schema entity field _ reflected listed fits⟩

theorem columns_unmarked (name : String) :
    entity.hasColumn name = true ↔ ∃ declared ∈ item.fields, ∃ field,
      declared.describe = .ok field ∧ declared.mark = .unmarked ∧
      naming.column schema field = name := by
  have fields := described_field_iff item schema described
  have plain := fun declared field one => plain_iff_unmarked registry naming schema field _
    (described_field_fits registry naming schema declared field one)
  rw [has_column_iff registry naming schema entity reflected]
  constructor
  · intro placed
    obtain ⟨field, listed, isPlain, named⟩ := placed
    obtain ⟨declared, member, one⟩ := (fields field).mp listed
    exact ⟨declared, member, field, one, (plain declared field one).mp isPlain, named⟩
  · intro marked
    obtain ⟨declared, member, field, one, unmarked, named⟩ := marked
    exact ⟨field, (fields field).mpr ⟨declared, member, one⟩,
      (plain declared field one).mpr unmarked, named⟩

theorem relations_marked (name : String) :
    (∃ relation, entity.relation? name = some relation) ↔ ∃ declared ∈ item.fields, ∃ field,
      declared.describe = .ok field ∧ declared.mark.isRelation = true ∧
      naming.column schema field = name := by
  have fields := described_field_iff item schema described
  have related := fun declared field one => classified_iff_marked registry naming schema field _
    (described_field_fits registry naming schema declared field one)
  simp only [relation_found_iff registry naming schema entity reflected]
  constructor
  · intro placed
    obtain ⟨relation, field, listed, other, classified, named⟩ := placed
    obtain ⟨declared, member, one⟩ := (fields field).mp listed
    exact ⟨declared, member, field, one,
      (related declared field one).mp ⟨relation, other, classified⟩, named⟩
  · intro marked
    obtain ⟨declared, member, field, one, isRelation, named⟩ := marked
    obtain ⟨relation, other, classified⟩ := (related declared field one).mpr isRelation
    exact ⟨relation, field, (fields field).mpr ⟨declared, member, one⟩, other, classified, named⟩

end

theorem declared_item_reflects (registry : Registry) (naming : NamingStrategy) (item : Item)
    (schema : EntitySchema) (described : item.describe = .ok schema) :
    (∃ collision, reflect registry naming schema = .error collision ∧
      ∀ choice, ∃ column, collision.report choice = .nameCollision schema.name column) ∨
      ∃ entity, reflect registry naming schema = .ok entity ∧
        Reflects registry naming item schema entity := by
  cases reflected : reflect registry naming schema with
  | error collision =>
      refine .inl ⟨collision, rfl, fun choice => ?_⟩
      rw [← reflect_error_entity registry naming schema collision reflected]
      exact ⟨_, rfl⟩
  | ok entity =>
      exact .inr ⟨entity, rfl, {
        placed := declared_field_placed registry naming item schema entity described reflected
        columns := columns_unmarked registry naming item schema entity described reflected
        relations := relations_marked registry naming item schema entity described reflected }⟩

-- Two of the marked fields carry no key that could decide: one is bare, and one is blank.
def bookItem : Item where
  name := "Book"
  attributes := [⟨"table_name", .assigned (.string "books")⟩]
  body := .namedFields [
    { name := "id", type := .named ["i64"], attributes := [⟨"primary_key", .bare⟩] },
    { name := "stamps", type := .applied ["Vec"] [.expr (.named ["Stamp"])], attributes := [] },
    { name := "author", type := .applied ["Option"] [.expr (.named ["Person"])],
      attributes := [⟨"relation", .list [("foreign_key", some (.string "author_ref"))]⟩] },
    { name := "tags", type := .applied ["Vec"] [.expr (.named ["Tag"])],
      attributes := [⟨"relation", .list [("many_to_many", some (.string "book_tags"))]⟩] },
    { name := "shelf", type := .named ["Shelf"], attributes := [⟨"relation", .bare⟩] },
    { name := "owner", type := .named ["Person"],
      attributes := [⟨"relation", .list [("foreign_key", none)]⟩] }]

def bookSchema : EntitySchema where
  name := "Book"
  tableName := some "books"
  fields := [
    { name := "id", fieldType := .scalar "i64", isPrimaryKey := true },
    { name := "stamps", fieldType := .list (.struct "Stamp") },
    { name := "author", fieldType := .pointer (.entity ⟨"Person", "Person"⟩),
      annotations := { foreignKey := some "author_ref" } },
    { name := "tags", fieldType := .list (.entity ⟨"Tag", "Tag"⟩),
      annotations := { manyToMany := some "book_tags" } },
    { name := "shelf", fieldType := .entity ⟨"Shelf", "Shelf"⟩ },
    { name := "owner", fieldType := .entity ⟨"Person", "Person"⟩,
      annotations := { foreignKey := some "" } }]

theorem book_described : bookItem.describe = .ok bookSchema := rfl

theorem book_item_reflects :
    bookItem.describe = .ok bookSchema ∧
      bookItem.fields.map FieldDecl.mark = [.unmarked, .unmarked, .foreignKey "author_ref",
        .junction "book_tags", .undecided, .blank .foreignKey] ∧
      (∃ entity, reflect peopleRegistry verbatim bookSchema = .ok entity) ∧
      ((∃ collision, reflect peopleRegistry verbatim bookSchema = .error collision ∧
          ∀ choice, ∃ column, collision.report choice = .nameCollision bookSchema.name column) ∨
        ∃ entity, reflect peopleRegistry verbatim bookSchema = .ok entity ∧
          Reflects peopleRegistry verbatim bookItem bookSchema entity) :=
  ⟨book_described, by decide, ⟨_, rfl⟩,
    declared_item_reflects peopleRegistry verbatim bookItem bookSchema book_described⟩

end NestedFilter
