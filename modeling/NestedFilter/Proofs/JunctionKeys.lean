import NestedFilter.Proofs.ExactEquality
import NestedFilter.Proofs.Meaning

/-!
The two columns of a junction. They come from the names of the two entities, so they are one column
as soon as the names have one snake case form, which nothing refuses; and through one column every
row is related to itself alone.
-/

set_option autoImplicit false

namespace NestedFilter

open Sql (Database Engine Equal Literal Predicate Row qualified)
open Text (snakeCase)

theorem key_name_injective (a b : String) : a ++ "_id" = b ++ "_id" ↔ a = b := by
  constructor
  · intro same
    have lists : a.toList ++ "_id".toList = b.toList ++ "_id".toList := by
      simpa only [String.toList_append] using congrArg String.toList same
    exact String.toList_injective (List.append_cancel_right lists)
  · intro same
    rw [same]

theorem junction_keys_same_iff (registry : Registry) (settings : SnakeCaseNaming)
    (owner : EntitySchema) (field : FieldDef) (relation : Relation) (junction : Junction)
    (classified : classify registry settings.strategy owner field = .ok relation)
    (kind : relation.kind = .manyToMany junction) :
    junction.ownerKey = junction.relatedKey ↔
      snakeCase owner.name = snakeCase relation.related.name := by
  obtain ⟨related, own⟩ := classified_many_to_many registry settings.strategy owner field relation
    junction classified kind
  rw [related, own]
  exact key_name_injective (snakeCase owner.name) (snakeCase relation.related.name)

def CanRelate (engine : Engine) (entity related : EntityRelations) (relation : Relation)
    (key other : Literal) : Prop :=
  ∃ (database : Database) (row : Row), row entity.primaryKey = some key ∧
    (relationPredicate entity related relation
      [.compare (qualified related.table related.primaryKey) .equal other]).truth engine database
        [⟨entity.table, row⟩] = .holds

section

variable (engine : Engine) (equality : engine.IsEquality) (entity related : EntityRelations)
  (relation : Relation) (key other : Literal)

theorem can_relate_iff :
    CanRelate engine entity related relation key other ↔
      ∃ (database : Database) (row candidate : Row), row entity.primaryKey = some key ∧
        candidate ∈ database related.table ∧
        Joined engine database entity related relation row candidate ∧
        Equal engine (candidate related.primaryKey) (some other) := by
  have asked : ∀ (database : Database) (row : Row), _ := fun database row =>
    relation_predicate_holds engine database entity related relation
      [.compare (qualified related.table related.primaryKey) .equal other] row []
      (fun candidate => Equal engine (candidate related.primaryKey) (some other))
      (fun candidate around => by
        simp only [List.mem_singleton, forall_eq]
        exact equality_holds engine database related.table related.primaryKey candidate around other)
  constructor
  · intro relate
    obtain ⟨database, row, own, holds⟩ := relate
    obtain ⟨candidate, listed, joined, equal⟩ := (asked database row).mp holds
    exact ⟨database, row, candidate, own, listed, joined, equal⟩
  · intro relate
    obtain ⟨database, row, candidate, own, listed, joined, equal⟩ := relate
    exact ⟨database, row, own, (asked database row).mpr ⟨candidate, listed, joined, equal⟩⟩

variable (junction : Junction) (kind : relation.kind = .manyToMany junction)

include equality kind

theorem one_column_relates_itself (same : junction.ownerKey = junction.relatedKey)
    (relate : CanRelate engine entity related relation key other) :
    Equal engine (some key) (some other) := by
  obtain ⟨database, row, candidate, own, _, joined, equal⟩ :=
    (can_relate_iff engine entity related relation key other).mp relate
  simp only [Joined, kind] at joined
  obtain ⟨link, _, left, right⟩ := joined
  rw [own, same] at left
  have reached := Sql.equal_trans engine equality _ _ _ left right
  exact Sql.equal_trans engine equality _ _ _ reached equal

theorem two_columns_relate_all (different : junction.ownerKey ≠ junction.relatedKey) :
    CanRelate engine entity related relation key other := by
  -- One link between the two keys is enough. It may stand in any table, the related one included.
  rw [can_relate_iff]
  let link : Row := fun column => if column = junction.ownerKey then some key else some other
  let candidate : Row := fun _ => some other
  have own : link junction.ownerKey = some key := if_pos rfl
  have far : link junction.relatedKey = some other := if_neg (Ne.symm different)
  have refl := fun literal => Sql.equal_refl engine equality (some literal) literal rfl
  refine ⟨fun _ => [link, candidate], fun _ => some key, candidate, rfl, by simp, ?_, refl other⟩
  simp only [Joined, kind]
  refine ⟨link, by simp, ?_, ?_⟩
  · rw [own]
    exact refl key
  · rw [far]
    exact refl other

end

theorem junction_relates_by_form (registry : Registry) (settings : SnakeCaseNaming)
    (owner : EntitySchema) (field : FieldDef) (relation : Relation) (junction : Junction)
    (classified : classify registry settings.strategy owner field = .ok relation)
    (kind : relation.kind = .manyToMany junction) :
    (junction.ownerKey ≠ junction.relatedKey ↔
      snakeCase owner.name ≠ snakeCase relation.related.name) ∧
    ∀ engine : Engine, engine.IsEquality →
      ∀ (entity related : EntityRelations) (key other : Literal),
      (snakeCase owner.name ≠ snakeCase relation.related.name →
        CanRelate engine entity related relation key other) ∧
      (snakeCase owner.name = snakeCase relation.related.name →
        CanRelate engine entity related relation key other →
          Equal engine (some key) (some other)) := by
  have same := junction_keys_same_iff registry settings owner field relation junction classified kind
  refine ⟨not_congr same, ?_⟩
  intro engine equality entity related key other
  constructor
  · intro different
    exact two_columns_relate_all engine equality entity related relation key other junction kind
      (mt same.mp different)
  · intro form relate
    exact one_column_relates_itself engine equality entity related relation key other junction kind
      (same.mpr form) relate

def friendsField : FieldDef where
  name := "friends"
  fieldType := .list (.entity ⟨"Friend", "Friend"⟩)
  annotations := { manyToMany := some "friendships" }

def friendSchema : EntitySchema where
  name := "Friend"
  fields := [{ name := "id", fieldType := .scalar "i64" }, friendsField]

def friendsRelation (owner : String) : Relation :=
  ⟨⟨"Friend", "Friend"⟩, "friend_id", .manyToMany ⟨"friendships", "friend_id", owner⟩⟩

theorem guests_relate_to_friends :
    classify .empty ({} : SnakeCaseNaming).strategy { friendSchema with name := "Guest" }
        friendsField = .ok (friendsRelation "guest_id") ∧
      Engine.exact.IsEquality ∧ snakeCase "Guest" ≠ snakeCase "Friend" ∧
      ∀ entity related : EntityRelations, CanRelate .exact entity related
        (friendsRelation "guest_id") (.integer 1) (.integer 2) := by
  have classified : classify .empty ({} : SnakeCaseNaming).strategy
      { friendSchema with name := "Guest" } friendsField = .ok (friendsRelation "guest_id") := rfl
  have different : snakeCase "Guest" ≠ snakeCase "Friend" := by decide
  obtain ⟨_, relates⟩ := junction_relates_by_form _ _ _ _ _ _ classified rfl
  refine ⟨classified, Sql.exact_equality, different, ?_⟩
  intro entity related
  exact (relates .exact Sql.exact_equality entity related _ _).1 different

-- Friends of friends: the relation is accepted and compiled, through one column for both sides.
theorem friendship_has_one_column :
    classify .empty ({} : SnakeCaseNaming).strategy friendSchema friendsField =
        .ok (friendsRelation "friend_id") ∧
      ((Compiler.mk (Registry.empty.define "Friend" friendSchema) ({} : SnakeCaseNaming).strategy
          {}).compile friendSchema [[("friends", .object [("id", .number (.integer 2))])]]).outcome {} =
        .ok ⟨[.inQuery (qualified "friends" "id") (qualified "friendships" "friend_id") "friendships"
          [.inQuery (qualified "friendships" "friend_id") (qualified "friends" "id") "friends"
            [.compare (qualified "friends" "id") .equal (.integer 2)]]]⟩ ∧
      ∀ entity related : EntityRelations, ¬ CanRelate .exact entity related
        (friendsRelation "friend_id") (.integer 1) (.integer 2) := by
  refine ⟨rfl, rfl, ?_⟩
  intro entity related relate
  have equal := one_column_relates_itself .exact Sql.exact_equality entity related
    (friendsRelation "friend_id") (.integer 1) (.integer 2) _ rfl rfl relate
  obtain ⟨_, _, first, second, same⟩ := equal
  cases first
  cases second
  exact absurd same (by decide)

end NestedFilter
