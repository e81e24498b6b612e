import NestedFilter.Proofs.ExactEquality
import NestedFilter.Proofs.RelatedFilter

/-!
Relations that two entities declare to each other. A filter on the primary key of the related row
selects the same pairs of rows, from whichever side it is asked.
-/

set_option autoImplicit false

namespace NestedFilter

open Json (Value)
open Sql (Database Engine Equal Literal Row qualified)

def UniqueKeys (engine : Engine) (database : Database) (naming : NamingStrategy)
    (schema : EntitySchema) : Prop :=
  ∀ a ∈ database (naming.table schema), ∀ b ∈ database (naming.table schema),
    Equal engine (a (naming.primaryKey schema)) (b (naming.primaryKey schema)) → a = b

section

variable (engine : Engine) (equality : engine.IsEquality) (rows : List Row) (key : String)
  (row : Row) (listed : row ∈ rows) (literal : Literal) (stored : row key = some literal)

include equality listed stored

theorem keyed_row_reached (cell : Option Literal) :
    (∃ other ∈ rows, Equal engine cell (other key) ∧ Equal engine (other key) (row key)) ↔
      Equal engine cell (row key) := by
  constructor
  · intro reached
    obtain ⟨other, _, first, second⟩ := reached
    exact Sql.equal_trans engine equality _ _ _ first second
  · intro equal
    exact ⟨row, listed, equal, Sql.equal_refl engine equality _ literal stored⟩

theorem linked_row_reached (links : List Row) (near far : String) (cell : Option Literal) :
    (∃ other ∈ rows, (∃ link ∈ links, Equal engine cell (link near) ∧
        Equal engine (link far) (other key)) ∧ Equal engine (other key) (row key)) ↔
      ∃ link ∈ links, Equal engine cell (link near) ∧ Equal engine (link far) (row key) := by
  have reached := fun link : Row =>
    keyed_row_reached engine equality rows key row listed literal stored (link far)
  constructor
  · intro linked
    obtain ⟨other, member, ⟨link, between, own, related⟩, same⟩ := linked
    exact ⟨link, between, own, (reached link).mp ⟨other, member, related, same⟩⟩
  · intro linked
    obtain ⟨link, between, own, related⟩ := linked
    obtain ⟨other, member, equal, same⟩ := (reached link).mpr related
    exact ⟨other, member, ⟨link, between, own, equal⟩, same⟩

theorem unique_row_reached (column : String) (cell : Option Literal)
    (unique : ∀ a ∈ rows, ∀ b ∈ rows, Equal engine (a key) (b key) → a = b) :
    (∃ other ∈ rows, Equal engine cell (other column) ∧ Equal engine (other key) (row key)) ↔
      Equal engine cell (row column) := by
  constructor
  · intro reached
    obtain ⟨other, member, first, second⟩ := reached
    obtain rfl := unique other member row listed second
    exact first
  · intro equal
    exact ⟨row, listed, equal, Sql.equal_refl engine equality _ literal stored⟩

end

-- Asking the rows of one side for the key of a row on the other, and the other way round.
def Inverse (engine : Engine) (database : Database) (compiler : Compiler)
    (owner target : EntitySchema) (forth back : FieldDef) : Prop :=
  ∀ (row other : Row) (key otherKey : Value),
    row ∈ database (compiler.naming.table owner) → other ∈ database (compiler.naming.table target) →
    KeyValue compiler owner row key → KeyValue compiler target other otherKey →
    let there := relatedFilter (compiler.naming.column owner forth)
      (compiler.naming.primaryKey target) otherKey
    let home := relatedFilter (compiler.naming.column target back)
      (compiler.naming.primaryKey owner) key
    (Selects engine database compiler owner there row ↔
      Selects engine database compiler target home other) ∧
    ((∃ entity, reflect compiler.registry compiler.naming owner = .ok entity) →
      (∃ related, reflect compiler.registry compiler.naming target = .ok related) →
      Compiles compiler owner there ∧ Compiles compiler target home)

theorem inverse_of_joins (engine : Engine) (database : Database) (compiler : Compiler)
    (owner target : EntitySchema) (forth back : FieldDef) (relation inverse : Relation)
    (forthRefers : Refers compiler.registry compiler.naming owner forth relation target)
    (backRefers : Refers compiler.registry compiler.naming target back inverse owner)
    (distinct : owner.name = target.name → owner = target)
    (joins : ∀ entity related row other (literal otherLiteral : Literal),
      reflect compiler.registry compiler.naming owner = .ok entity →
      reflect compiler.registry compiler.naming target = .ok related →
      row ∈ database (compiler.naming.table owner) →
      other ∈ database (compiler.naming.table target) →
      row (compiler.naming.primaryKey owner) = some literal →
      other (compiler.naming.primaryKey target) = some otherLiteral →
      ((∃ candidate ∈ database (compiler.naming.table target),
          Joined engine database entity related relation row candidate ∧
          Equal engine (candidate (compiler.naming.primaryKey target))
            (other (compiler.naming.primaryKey target))) ↔
        ∃ candidate ∈ database (compiler.naming.table owner),
          Joined engine database related entity inverse other candidate ∧
          Equal engine (candidate (compiler.naming.primaryKey owner))
            (row (compiler.naming.primaryKey owner)))) :
    Inverse engine database compiler owner target forth back := by
  intro row other key otherKey rowListed otherListed rowHolds otherHolds there home
  have backDistinct : target.name = owner.name → target = owner :=
    fun same => (distinct same.symm).symm
  obtain ⟨literal, _, stored⟩ := rowHolds.read
  obtain ⟨otherLiteral, _, otherStored⟩ := otherHolds.read
  refine ⟨?_, ?_⟩
  · rw [related_filter_selects compiler owner target forth relation other otherKey forthRefers
        distinct otherHolds,
      related_filter_selects compiler target owner back inverse row key backRefers backDistinct
        rowHolds]
    constructor
    · intro selected
      obtain ⟨entity, related, reflected, below, joined⟩ := selected
      exact ⟨related, entity, below, reflected, (joins entity related row other literal otherLiteral
        reflected below rowListed otherListed stored otherStored).mp joined⟩
    · intro selected
      obtain ⟨related, entity, below, reflected, joined⟩ := selected
      exact ⟨entity, related, reflected, below, (joins entity related row other literal otherLiteral
        reflected below rowListed otherListed stored otherStored).mpr joined⟩
  · intro reflected below
    exact ⟨(related_filter_compiles compiler owner target forth relation other otherKey forthRefers
        distinct otherHolds).mpr ⟨reflected, below⟩,
      (related_filter_compiles compiler target owner back inverse row key backRefers backDistinct
        rowHolds).mpr ⟨below, reflected⟩⟩

section

variable (compiler : Compiler) (owner target : EntitySchema) (forth back : FieldDef)
  (relation inverse : Relation)
  (forthRefers : Refers compiler.registry compiler.naming owner forth relation target)
  (backRefers : Refers compiler.registry compiler.naming target back inverse owner)

include forthRefers backRefers

-- The side that holds the key looks it up on its own schema, the other side on the related one.
theorem key_columns_agree (toOne : relation.kind = .toOne) (toMany : inverse.kind = .toMany)
    (sameKey : forth.annotations.foreignKey = back.annotations.foreignKey) :
    ∃ key, relation.foreignKey = compiler.naming.keyColumn owner key ∧
      inverse.foreignKey = compiler.naming.keyColumn owner key := by
  obtain ⟨key, annotated, column⟩ := classified_to_one _ _ owner forth relation
    forthRefers.classified toOne
  obtain ⟨otherKey, otherAnnotated, otherColumn⟩ := classified_to_many _ _ target back inverse
    backRefers.classified toMany
  obtain rfl : key = otherKey :=
    Option.some.inj (annotated.symm.trans (sameKey.trans otherAnnotated))
  rw [backRefers.resolves] at otherColumn
  exact ⟨key, column, otherColumn⟩

theorem junction_keys_swapped (junction swapped : Junction)
    (forthKind : relation.kind = .manyToMany junction)
    (backKind : inverse.kind = .manyToMany swapped) :
    junction.ownerKey = swapped.relatedKey ∧ junction.relatedKey = swapped.ownerKey := by
  obtain ⟨related, own⟩ := classified_many_to_many _ _ owner forth relation junction
    forthRefers.classified forthKind
  obtain ⟨otherRelated, otherOwn⟩ := classified_many_to_many _ _ target back inverse swapped
    backRefers.classified backKind
  rw [own, related, otherRelated, otherOwn, forthRefers.named, backRefers.named]
  exact ⟨rfl, rfl⟩

variable (engine : Engine) (equality : engine.IsEquality) (database : Database)
  (distinct : owner.name = target.name → owner = target)

include equality distinct

theorem key_relations_inverse (toOne : relation.kind = .toOne) (toMany : inverse.kind = .toMany)
    (sameKey : forth.annotations.foreignKey = back.annotations.foreignKey)
    (unique : UniqueKeys engine database compiler.naming owner) :
    Inverse engine database compiler owner target forth back := by
  apply inverse_of_joins engine database compiler owner target forth back relation inverse
    forthRefers backRefers distinct
  intro entity related row other literal otherLiteral reflected below rowListed otherListed stored
    otherStored
  obtain ⟨key, column, otherColumn⟩ := key_columns_agree compiler owner target forth back relation
    inverse forthRefers backRefers toOne toMany sameKey
  simp only [Joined, toOne, toMany, (reflect_parts _ _ target related below).2.1, column,
    otherColumn]
  rw [keyed_row_reached engine equality _ _ other otherListed otherLiteral otherStored,
    unique_row_reached engine equality _ _ row rowListed literal stored _ _ unique]
  exact ⟨Sql.equal_symm engine equality _ _, Sql.equal_symm engine equality _ _⟩

theorem junction_relations_inverse (junction swapped : Junction)
    (forthKind : relation.kind = .manyToMany junction)
    (backKind : inverse.kind = .manyToMany swapped) (sameTable : junction.table = swapped.table) :
    Inverse engine database compiler owner target forth back := by
  apply inverse_of_joins engine database compiler owner target forth back relation inverse
    forthRefers backRefers distinct
  intro entity related row other literal otherLiteral reflected below rowListed otherListed stored
    otherStored
  obtain ⟨ownerSame, relatedSame⟩ := junction_keys_swapped compiler owner target forth back relation
    inverse forthRefers backRefers junction swapped forthKind backKind
  simp only [Joined, forthKind, backKind, (reflect_parts _ _ owner entity reflected).2.1,
    (reflect_parts _ _ target related below).2.1, ownerSame, relatedSame, sameTable]
  rw [linked_row_reached engine equality _ _ other otherListed otherLiteral otherStored,
    linked_row_reached engine equality _ _ row rowListed literal stored]
  have symm := fun a b => Sql.equal_symm engine equality a b
  constructor
  · intro linked
    obtain ⟨link, between, own, related⟩ := linked
    exact ⟨link, between, symm _ _ related, symm _ _ own⟩
  · intro linked
    obtain ⟨link, between, own, related⟩ := linked
    exact ⟨link, between, symm _ _ related, symm _ _ own⟩

end

theorem declared_inverses_agree (compiler : Compiler) (owner target : EntitySchema)
    (forth back : FieldDef) (relation inverse : Relation)
    (forthRefers : Refers compiler.registry compiler.naming owner forth relation target)
    (backRefers : Refers compiler.registry compiler.naming target back inverse owner)
    (engine : Engine) (equality : engine.IsEquality)
    (distinct : owner.name = target.name → owner = target) :
    (relation.kind = .toOne → inverse.kind = .toMany →
      forth.annotations.foreignKey = back.annotations.foreignKey →
      (∃ key, relation.foreignKey = compiler.naming.keyColumn owner key ∧
        inverse.foreignKey = compiler.naming.keyColumn owner key) ∧
      ∀ database, UniqueKeys engine database compiler.naming owner →
        Inverse engine database compiler owner target forth back) ∧
    ∀ junction swapped, relation.kind = .manyToMany junction →
      inverse.kind = .manyToMany swapped → junction.table = swapped.table →
      (junction.ownerKey = swapped.relatedKey ∧ junction.relatedKey = swapped.ownerKey) ∧
      ∀ database, Inverse engine database compiler owner target forth back := by
  constructor
  · intro toOne toMany sameKey
    refine ⟨key_columns_agree compiler owner target forth back relation inverse forthRefers
      backRefers toOne toMany sameKey, ?_⟩
    intro database unique
    exact key_relations_inverse compiler owner target forth back relation inverse forthRefers
      backRefers engine equality database distinct toOne toMany sameKey unique
  · intro junction swapped forthKind backKind sameTable
    refine ⟨junction_keys_swapped compiler owner target forth back relation inverse forthRefers
      backRefers junction swapped forthKind backKind, ?_⟩
    intro database
    exact junction_relations_inverse compiler owner target forth back relation inverse forthRefers
      backRefers engine equality database distinct junction swapped forthKind backKind sameTable

-- Items lie in boxes. The declared name of a box is left open; references go by the keys.
def boxField (boxName : String) : FieldDef where
  name := "box"
  fieldType := .entity ⟨boxName, "storage.box"⟩
  annotations := { foreignKey := some "box_ref" }

def itemsField : FieldDef where
  name := "items"
  fieldType := .list (.entity ⟨"Item", "storage.item"⟩)
  annotations := { foreignKey := some "box_ref" }

def itemSchema (boxName : String) : EntitySchema where
  name := "Item"
  tableName := some "items"
  fields := [
    { name := "id", fieldType := .scalar "i64" },
    { name := "box_ref", fieldType := .scalar "i64" },
    boxField boxName]

def boxSchema (boxName : String) : EntitySchema where
  name := boxName
  tableName := some "boxes"
  fields := [{ name := "id", fieldType := .scalar "i64" }, itemsField]

def storageRegistry (boxName : String) : Registry :=
  (Registry.empty.define "storage.item" (itemSchema boxName)).define "storage.box" (boxSchema boxName)

def itemRow (box : Literal) : Row := fun column =>
  if column = "id" then some (.integer 7) else if column = "box_ref" then some box else none

def boxRow (id : Literal) : Row := fun column => if column = "id" then some id else none

def storage (box : Literal) (boxes : List Literal) : Database := fun table =>
  if table = "items" then [itemRow box] else if table = "boxes" then boxes.map boxRow else []

theorem box_refers (boxName : String) :
    Refers (storageRegistry boxName) verbatim (itemSchema boxName) (boxField boxName)
      ⟨⟨boxName, "storage.box"⟩, "box_ref", .toOne⟩ (boxSchema boxName) :=
  ⟨by simp [itemSchema], rfl, rfl, rfl⟩

theorem items_refer (boxName : String) :
    Refers (storageRegistry boxName) verbatim (boxSchema boxName) itemsField
      ⟨⟨"Item", "storage.item"⟩, "box_ref", .toMany⟩ (itemSchema boxName) :=
  ⟨by simp [boxSchema], rfl, rfl, rfl⟩

def storageCompiler (boxName : String) (wildcards : Bool) : Compiler :=
  ⟨storageRegistry boxName, verbatim, { wildcards := wildcards }⟩

theorem item_keys_unique (boxName : String) (box : Literal) (boxes : List Literal) :
    UniqueKeys .exact (storage box boxes) verbatim (itemSchema boxName) := by
  intro a listed b member _
  have first : a = itemRow box := List.mem_singleton.mp listed
  have second : b = itemRow box := List.mem_singleton.mp member
  rw [first, second]

theorem storage_key_values (boxName : String) (row : Row) (schema : EntitySchema)
    (plain : "id" ∈ declaredColumns verbatim schema) (keyed : verbatim.primaryKey schema = "id")
    (stored : row "id" = some (.integer 7)) :
    KeyValue (storageCompiler boxName false) schema row (.number (.integer 7)) := by
  refine ⟨?_, ⟨.integer 7, rfl, ?_⟩, ?_⟩
  · exact keyed ▸ plain
  · exact keyed ▸ stored
  · intro text same
    cases same

def tagsField : FieldDef where
  name := "tags"
  fieldType := .list (.entity ⟨"Tag", "Tag"⟩)
  annotations := { manyToMany := some "person_tags" }

def taggedField : FieldDef where
  name := "people"
  fieldType := .list (.entity ⟨"Person", "Person"⟩)
  annotations := { manyToMany := some "person_tags" }

def tagsRelation : Relation :=
  ⟨⟨"Tag", "Tag"⟩, "Tag_id", .manyToMany ⟨"person_tags", "Tag_id", "Person_id"⟩⟩

def taggedRelation : Relation :=
  ⟨⟨"Person", "Person"⟩, "Person_id", .manyToMany ⟨"person_tags", "Person_id", "Tag_id"⟩⟩

theorem tags_refer : Refers peopleRegistry verbatim personSchema tagsField tagsRelation tagSchema :=
  ⟨by decide, rfl, rfl, rfl⟩

theorem tagged_refer :
    Refers peopleRegistry verbatim tagSchema taggedField taggedRelation personSchema :=
  ⟨by decide, rfl, rfl, rfl⟩

theorem storage_and_people_inverses_agree :
    Refers (storageRegistry "Box") verbatim (itemSchema "Box") (boxField "Box")
        ⟨⟨"Box", "storage.box"⟩, "box_ref", .toOne⟩ (boxSchema "Box") ∧
      Refers (storageRegistry "Box") verbatim (boxSchema "Box") itemsField
        ⟨⟨"Item", "storage.item"⟩, "box_ref", .toMany⟩ (itemSchema "Box") ∧
      Engine.exact.IsEquality ∧ (itemSchema "Box").name ≠ (boxSchema "Box").name ∧
      UniqueKeys .exact (storage (.integer 7) [.integer 7]) verbatim (itemSchema "Box") ∧
      (Selects .exact (storage (.integer 7) [.integer 7]) (storageCompiler "Box" false)
          (itemSchema "Box") (relatedFilter "box" "id" (.number (.integer 7)))
          (itemRow (.integer 7)) ↔
        Selects .exact (storage (.integer 7) [.integer 7]) (storageCompiler "Box" false)
          (boxSchema "Box") (relatedFilter "items" "id" (.number (.integer 7)))
          (boxRow (.integer 7))) ∧
      Refers peopleRegistry verbatim personSchema tagsField tagsRelation tagSchema ∧
      Refers peopleRegistry verbatim tagSchema taggedField taggedRelation personSchema ∧
      personSchema.name ≠ tagSchema.name ∧
      ∀ database, Inverse .exact database peopleCompiler personSchema tagSchema tagsField
        taggedField := by
  have different : (itemSchema "Box").name ≠ (boxSchema "Box").name := by decide
  have unique := item_keys_unique "Box" (.integer 7) [.integer 7]
  have keyed := (declared_inverses_agree (storageCompiler "Box" false) (itemSchema "Box")
    (boxSchema "Box") (boxField "Box") itemsField _ _ (box_refers "Box") (items_refer "Box") .exact
    Sql.exact_equality (fun same => absurd same different)).1 rfl rfl rfl
  have apart : personSchema.name ≠ tagSchema.name := by decide
  have linked := (declared_inverses_agree peopleCompiler personSchema tagSchema tagsField taggedField
    tagsRelation taggedRelation tags_refer tagged_refer .exact Sql.exact_equality
    (fun same => absurd same apart)).2 _ _ rfl rfl rfl
  have together := keyed.2 (storage (.integer 7) [.integer 7]) unique (itemRow (.integer 7))
    (boxRow (.integer 7)) (.number (.integer 7)) (.number (.integer 7)) List.mem_cons_self
    List.mem_cons_self (storage_key_values _ _ _ (by decide) rfl rfl)
    (storage_key_values _ _ _ (by decide) rfl rfl)
  exact ⟨box_refers "Box", items_refer "Box", Sql.exact_equality, different, unique, together.1,
    tags_refer, tagged_refer, apart, linked.2⟩

theorem selects_compiled (engine : Engine) (database : Database) (compiler : Compiler)
    (schema : EntitySchema) (filter : Filter) (row : Row) (compiled : CompiledFilter)
    (succeeds : (compiler.compile schema [filter]).outcome {} = .ok compiled) :
    Selects engine database compiler schema filter row ↔ ∀ predicate ∈ compiled.predicates,
      predicate.truth engine database [⟨compiler.naming.table schema, row⟩] = .holds := by
  constructor
  · intro selected
    obtain ⟨again, same, kept⟩ := selected
    cases succeeds.symm.trans same
    exact kept
  · intro kept
    exact ⟨compiled, succeeds, kept⟩

-- Two ways to lose the agreement. Entities of one declared name share the entry of a cache, and the
-- second is taken for the first. And a key with a star is a pattern when wildcards are on.
theorem inverses_part_by_name_or_star :
    (Refers (storageRegistry "Item") verbatim (itemSchema "Item") (boxField "Item")
        ⟨⟨"Item", "storage.box"⟩, "box_ref", .toOne⟩ (boxSchema "Item") ∧
      Refers (storageRegistry "Item") verbatim (boxSchema "Item") itemsField
        ⟨⟨"Item", "storage.item"⟩, "box_ref", .toMany⟩ (itemSchema "Item") ∧
      UniqueKeys .exact (storage (.integer 7) [.integer 7]) verbatim (itemSchema "Item") ∧
      KeyValue (storageCompiler "Item" false) (itemSchema "Item") (itemRow (.integer 7))
        (.number (.integer 7)) ∧
      KeyValue (storageCompiler "Item" false) (boxSchema "Item") (boxRow (.integer 7))
        (.number (.integer 7)) ∧
      Selects .exact (storage (.integer 7) [.integer 7]) (storageCompiler "Item" false)
        (itemSchema "Item") (relatedFilter "box" "id" (.number (.integer 7)))
        (itemRow (.integer 7)) ∧
      ¬ Selects .exact (storage (.integer 7) [.integer 7]) (storageCompiler "Item" false)
        (boxSchema "Item") (relatedFilter "items" "id" (.number (.integer 7)))
        (boxRow (.integer 7))) ∧
    (Refers (storageRegistry "Box") verbatim (itemSchema "Box") (boxField "Box")
        ⟨⟨"Box", "storage.box"⟩, "box_ref", .toOne⟩ (boxSchema "Box") ∧
      Refers (storageRegistry "Box") verbatim (boxSchema "Box") itemsField
        ⟨⟨"Item", "storage.item"⟩, "box_ref", .toMany⟩ (itemSchema "Box") ∧
      UniqueKeys .exact (storage (.text "ab") [.text "ab", .text "a*"]) verbatim (itemSchema "Box") ∧
      Selects .exact (storage (.text "ab") [.text "ab", .text "a*"]) (storageCompiler "Box" true)
        (itemSchema "Box") (relatedFilter "box" "id" (.string "a*")) (itemRow (.text "ab")) ∧
      ¬ Selects .exact (storage (.text "ab") [.text "ab", .text "a*"]) (storageCompiler "Box" true)
        (boxSchema "Box") (relatedFilter "items" "id" (.number (.integer 7)))
        (boxRow (.text "a*"))) := by
  refine ⟨⟨box_refers _, items_refer _, item_keys_unique _ _ _,
    storage_key_values _ _ _ (by decide) rfl rfl, storage_key_values _ _ _ (by decide) rfl rfl,
    ?_, ?_⟩, box_refers _, items_refer _, item_keys_unique _ _ _, ?_, ?_⟩
  · rw [selects_compiled _ _ _ _ _ _ ⟨[.inQuery (qualified "items" "box_ref")
      (qualified "items" "id") "items" [.compare (qualified "items" "id") .equal (.integer 7)]]⟩ rfl]
    decide
  · rw [selects_compiled _ _ _ _ _ _ ⟨[.inQuery (qualified "boxes" "id")
      (qualified "boxes" "box_ref") "boxes" [.compare (qualified "boxes" "id") .equal (.integer 7)]]⟩
      rfl]
    decide
  · rw [selects_compiled _ _ _ _ _ _ ⟨[.inQuery (qualified "items" "box_ref")
      (qualified "boxes" "id") "boxes" [.like (qualified "boxes" "id") "a%"]]⟩ rfl]
    intro predicate listed
    obtain rfl := List.mem_singleton.mp listed
    refine (membership_holds .exact _ _ _ "boxes" "id" _).mpr ⟨boxRow (.text "ab"), ?_, ?_, ?_⟩
    · exact List.mem_cons_self
    · intro inner member
      obtain rfl := List.mem_singleton.mp member
      refine (like_holds .exact _ "boxes" "id" _ _ "a%").mpr ⟨.text "ab", rfl, ?_⟩
      simp [Engine.exact, Sql.matchesLike]
    · exact Sql.equal_refl .exact Sql.exact_equality (some (.text "ab")) _ rfl
  · rw [selects_compiled _ _ _ _ _ _ ⟨[.inQuery (qualified "boxes" "id")
      (qualified "items" "box_ref") "items" [.compare (qualified "items" "id") .equal (.integer 7)]]⟩
      rfl]
    decide

end NestedFilter
