import NestedFilter.Proofs.Inverse
import NestedFilter.Proofs.WellFormed

/-!
One nested filter against two under the same relation. Two ask for a related row each, one asks for a
row that meets both; where a relation leads to one row at most there is no difference.
-/

set_option autoImplicit false

namespace NestedFilter

open Json (Value)
open Sql (Database Engine Equal Row qualified)

namespace Json.Entries

-- The entries of both objects, in the order of their keys. Under a key of both the second counts.
def merge (first second : Entries) : Entries :=
  second.foldl (fun entries entry => entries.insert entry.1 entry.2) first

theorem insert_perm (key : String) (value : Value) (entries : Entries)
    (fresh : key ∉ entries.map (·.1)) :
    (entries.insert key value).Perm ((key, value) :: entries) := by
  induction entries with
  | nil => exact .refl _
  | cons entry rest ih =>
      obtain ⟨k, v⟩ := entry
      simp only [List.map_cons, List.mem_cons, not_or] at fresh
      obtain ⟨different, later⟩ := fresh
      rw [insert, if_neg different]
      by_cases before : key < k
      · rw [if_pos before]
      · rw [if_neg before]
        exact ((ih later).cons (k, v)).trans (.swap (key, value) (k, v) rest)

theorem merge_perm (first second : Entries) (distinct : ((first ++ second).map (·.1)).Nodup) :
    (first.merge second).Perm (first ++ second) := by
  -- By induction on the entries to be added, each of them fresh where it is added.
  induction second generalizing first with
  | nil => exact .of_eq (List.append_nil first).symm
  | cons entry rest ih =>
      have moved : (first ++ entry :: rest).Perm (entry :: first ++ rest) := List.perm_middle
      have apart := ((moved.map (·.1)).nodup_iff).mp distinct
      obtain ⟨fresh, _⟩ := List.nodup_cons.mp apart
      have alone : entry.1 ∉ first.map (·.1) := fun member =>
        fresh (List.map_append ▸ List.mem_append_left _ member)
      have inserted := insert_perm entry.1 entry.2 first alone
      have remaining := ih (first.insert entry.1 entry.2)
        ((((inserted.append_right rest).map (·.1)).nodup_iff).mpr apart)
      exact (remaining.trans (inserted.append_right rest)).trans moved.symm

end Json.Entries

def SelectsIn (engine : Engine) (database : Database) (compiler : Compiler) (session : Session)
    (schema : EntitySchema) (filters : List Filter) (row : Row) : Prop :=
  ∃ compiled, (compiler.compile schema filters).outcome session = .ok compiled ∧
    ∀ predicate ∈ compiled.predicates,
      predicate.truth engine database [⟨compiler.naming.table schema, row⟩] = .holds

theorem selects_in_iff (engine : Engine) (database : Database) (compiler : Compiler)
    (session : Session) (root : EntitySchema) (coherent : Coherent compiler.registry [root])
    (empty : session.cache.entries = []) (filters : List Filter) (row : Row) :
    SelectsIn engine database compiler session root filters row ↔
      ∃ entity, reflect compiler.registry compiler.naming root = .ok entity ∧
        (∀ entry ∈ filters.flatten,
          Fits compiler.registry compiler.naming entity entry.1 entry.2) ∧
        ∀ entry ∈ filters.flatten,
          MeetsEntry engine database compiler.registry compiler.naming compiler.options.wildcards
            entity row entry.1 entry.2 := by
  simp only [SelectsIn, compile_ok_iff_direct compiler root filters session _ coherent empty]
  constructor
  · intro selected
    obtain ⟨compiled, succeeds, holds⟩ := selected
    obtain ⟨entity, reflected, fit⟩ :=
      (direct_succeeds_iff_fit compiler root filters).mp ⟨compiled, succeeds⟩
    rw [direct_holds_iff engine database compiler root filters compiled entity succeeds reflected,
      meets_entries_iff] at holds
    exact ⟨entity, reflected, fit, holds⟩
  · intro selected
    obtain ⟨entity, reflected, fit, met⟩ := selected
    obtain ⟨compiled, succeeds⟩ :=
      (direct_succeeds_iff_fit compiler root filters).mpr ⟨entity, reflected, fit⟩
    refine ⟨compiled, succeeds, ?_⟩
    rw [direct_holds_iff engine database compiler root filters compiled entity succeeds reflected,
      meets_entries_iff]
    exact met

section

variable (merged first second : Filter) (perm : merged.Perm (first ++ second))

include perm

theorem forall_merged_iff (p : String × Value → Prop) :
    (∀ entry ∈ merged, p entry) ↔ (∀ entry ∈ first, p entry) ∧ ∀ entry ∈ second, p entry := by
  rw [← List.forall_mem_append]
  exact forall_congr' fun entry => imp_congr_left perm.mem_iff

theorem fits_merged_iff (registry : Registry) (naming : NamingStrategy) (entity : EntityRelations)
    (column : String) :
    Fits registry naming entity column (.object merged) ↔
      Fits registry naming entity column (.object first) ∧
      Fits registry naming entity column (.object second) := by
  simp only [fits_object_iff, forall_merged_iff merged first second perm]
  constructor
  · intro fits
    obtain ⟨relation, related, found, reflected, one, other⟩ := fits
    exact ⟨⟨relation, related, found, reflected, one⟩, relation, related, found, reflected, other⟩
  · intro both
    obtain ⟨⟨relation, related, found, reflected, one⟩, _, _, foundAgain, reflectedAgain, other⟩ :=
      both
    cases found.symm.trans foundAgain
    cases reflected.symm.trans reflectedAgain
    exact ⟨relation, related, found, reflected, one, other⟩

variable (engine : Engine) (database : Database) (registry : Registry) (naming : NamingStrategy)
  (wildcards : Bool) (entity : EntityRelations) (row : Row) (column : String)

theorem meets_parts_of_merged
    (met : MeetsEntry engine database registry naming wildcards entity row column
      (.object merged)) :
    MeetsEntry engine database registry naming wildcards entity row column (.object first) ∧
      MeetsEntry engine database registry naming wildcards entity row column (.object second) := by
  simp only [MeetsEntry, meets_entries_iff, forall_merged_iff merged first second perm] at met ⊢
  obtain ⟨relation, related, found, reflected, other, listed, joined, one, rest⟩ := met
  exact ⟨⟨relation, related, found, reflected, other, listed, joined, one⟩,
    relation, related, found, reflected, other, listed, joined, rest⟩

theorem meets_merged_of_parts (equality : engine.IsEquality) (relation : Relation)
    (found : entity.relation? column = some relation) (toOne : relation.kind = .toOne)
    (unique : UniqueKeys engine database naming (registry.resolve relation.related))
    (one : MeetsEntry engine database registry naming wildcards entity row column (.object first))
    (rest : MeetsEntry engine database registry naming wildcards entity row column
      (.object second)) :
    MeetsEntry engine database registry naming wildcards entity row column (.object merged) := by
  -- Two rows that one key refers to have the same primary key, so they are one row.
  simp only [MeetsEntry, meets_entries_iff, forall_merged_iff merged first second perm]
    at one rest ⊢
  obtain ⟨_, related, foundFirst, reflected, a, aListed, aJoined, aMet⟩ := one
  obtain ⟨_, _, foundSecond, reflectedAgain, b, bListed, bJoined, bMet⟩ := rest
  cases found.symm.trans foundFirst
  cases found.symm.trans foundSecond
  cases reflected.symm.trans reflectedAgain
  obtain ⟨table, key, _⟩ := reflect_parts registry naming _ related reflected
  have aKey : Equal engine (row relation.foreignKey) (a related.primaryKey) := by
    simpa only [Joined, toOne] using aJoined
  have bKey : Equal engine (row relation.foreignKey) (b related.primaryKey) := by
    simpa only [Joined, toOne] using bJoined
  have keys : Equal engine (a related.primaryKey) (b related.primaryKey) :=
    Sql.equal_trans engine equality _ _ _ (Sql.equal_symm engine equality _ _ aKey) bKey
  rw [table] at aListed bListed
  rw [key] at keys
  obtain rfl := unique a aListed b bListed keys
  exact ⟨relation, related, found, reflected, a, table ▸ aListed, aJoined, aMet, bMet⟩

end

theorem split_filter_selects_no_less (compiler : Compiler) (root : EntitySchema)
    (session : Session) (coherent : Coherent compiler.registry [root])
    (empty : session.cache.entries = []) (column : String) (first second : Json.Entries)
    (distinct : ((first ++ second).map (·.1)).Nodup) :
    let merged : List Filter := [[(column, .object (first.merge second))]]
    let split : List Filter := [[(column, .object first)], [(column, .object second)]]
    ((∃ compiled, (compiler.compile root merged).outcome session = .ok compiled) ↔
      ∃ compiled, (compiler.compile root split).outcome session = .ok compiled) ∧
    ∀ (engine : Engine) (database : Database) (row : Row),
      (SelectsIn engine database compiler session root merged row →
        SelectsIn engine database compiler session root split row) ∧
      ∀ entity relation, reflect compiler.registry compiler.naming root = .ok entity →
        entity.relation? column = some relation → relation.kind = .toOne → engine.IsEquality →
        UniqueKeys engine database compiler.naming (compiler.registry.resolve relation.related) →
        (SelectsIn engine database compiler session root merged row ↔
          SelectsIn engine database compiler session root split row) := by
  intro merged split
  have perm := Json.Entries.merge_perm first second distinct
  have fit := fits_merged_iff _ first second perm compiler.registry compiler.naming
  have alone : ∀ p : String × Value → Prop, (∀ entry ∈ merged.flatten, p entry) ↔
      p (column, .object (first.merge second)) := fun p => List.forall_mem_singleton
  have each : ∀ p : String × Value → Prop, (∀ entry ∈ split.flatten, p entry) ↔
      p (column, .object first) ∧ p (column, .object second) := by
    intro p
    exact List.forall_mem_cons.trans (and_congr_right' List.forall_mem_singleton)
  have narrower : ∀ engine database row,
      SelectsIn engine database compiler session root merged row →
        SelectsIn engine database compiler session root split row := by
    intro engine database row
    simp only [selects_in_iff _ _ compiler session root coherent empty, alone, each, fit]
    intro selected
    obtain ⟨entity, reflected, fits, met⟩ := selected
    exact ⟨entity, reflected, fits, meets_parts_of_merged _ first second perm _ _ _ _ _ _ _ _ met⟩
  refine ⟨?compiles, fun engine database row => ⟨narrower engine database row, ?toOne⟩⟩
  case compiles =>
    simp only [compile_ok_iff_direct compiler root _ session _ coherent empty, direct_succeeds_iff_fit,
      alone, each, fit]
  case toOne =>
    intro entity relation reflected found toOne equality unique
    refine ⟨narrower engine database row, ?_⟩
    simp only [selects_in_iff _ _ compiler session root coherent empty, alone, each, fit]
    intro selected
    obtain ⟨again, reflectedAgain, fits, one, rest⟩ := selected
    cases reflected.symm.trans reflectedAgain
    exact ⟨entity, reflected, fits, meets_merged_of_parts _ first second perm _ _ _ _ _ _ _ _
      equality relation found toOne unique one rest⟩

structure GuildMember where
  id : Int
  name : String
  mentor : Option Int := none
deriving DecidableEq, Repr

def GuildMember.row (member : GuildMember) : Row := fun column =>
  if column = "id" then some (.integer member.id)
  else if column = "name" then some (.text member.name)
  else if column = "mentor_ref" then member.mentor.map .integer
  else none

def guildMembers : List GuildMember := [⟨1, "Ann", none⟩, ⟨2, "Bob", some 1⟩, ⟨3, "Cat", some 1⟩]

def guild : Database := fun table => if table = "people" then guildMembers.map GuildMember.row else []

theorem guild_keys_unique : UniqueKeys .exact guild verbatim personSchema := by
  intro a listed b member same
  obtain ⟨first, firstListed, rfl⟩ := List.mem_map.mp listed
  obtain ⟨second, secondListed, rfl⟩ := List.mem_map.mp member
  obtain ⟨x, y, one, other, equal⟩ := same
  obtain rfl : .integer first.id = x := Option.some.inj one
  obtain rfl : .integer second.id = y := Option.some.inj other
  have ids : first.id = second.id := by
    simpa [Sql.Literal.meaning] using (Sql.exact_equal_iff _ _).mp equal
  have distinct : ∀ a ∈ guildMembers, ∀ b ∈ guildMembers, a.id = b.id → a = b := by decide
  rw [distinct first firstListed second secondListed ids]

-- Bob's mentor is one person. Among Ann's pupils Bob is called Bob, and Cat is the third.
theorem guild_split_filters :
    let called : Json.Entries := [("name", .string "Bob")]
    let third : Json.Entries := [("id", .number (.integer 3))]
    let selects := SelectsIn .exact guild peopleCompiler {} personSchema
    Coherent peopleRegistry [personSchema] ∧ ({} : Session).cache.entries = [] ∧
      ((called ++ third).map (·.1)).Nodup ∧ Engine.exact.IsEquality ∧
      UniqueKeys .exact guild verbatim personSchema ∧
      (∀ row, selects [[("mentor", .object (called.merge third))]] row ↔
        selects [[("mentor", .object called)], [("mentor", .object third)]] row) ∧
      selects [[("pupils", .object called)], [("pupils", .object third)]]
        (GuildMember.row ⟨1, "Ann", none⟩) ∧
      ¬ selects [[("pupils", .object (called.merge third))]] (GuildMember.row ⟨1, "Ann", none⟩) := by
  intro called third selects
  have distinct : ((called ++ third).map (·.1)).Nodup := by decide
  have mentors := (split_filter_selects_no_less peopleCompiler personSchema {} people_coherent rfl
    "mentor" called third distinct).2 .exact guild
  refine ⟨people_coherent, rfl, distinct, Sql.exact_equality, guild_keys_unique, ?_, ?_, ?_⟩
  · intro row
    exact (mentors row).2 _ _ rfl rfl rfl Sql.exact_equality guild_keys_unique
  · refine ⟨⟨[.inQuery (qualified "people" "id") (qualified "people" "mentor_ref") "people"
        [.compare (qualified "people" "name") .equal (.text "Bob")],
      .inQuery (qualified "people" "id") (qualified "people" "mentor_ref") "people"
        [.compare (qualified "people" "id") .equal (.integer 3)]]⟩, rfl, ?_⟩
    decide
  · intro selected
    obtain ⟨compiled, succeeds, holds⟩ := selected
    have built : (peopleCompiler.compile personSchema
        [[("pupils", .object (called.merge third))]]).outcome {} = .ok ⟨[
          .inQuery (qualified "people" "id") (qualified "people" "mentor_ref") "people"
            [.compare (qualified "people" "id") .equal (.integer 3),
              .compare (qualified "people" "name") .equal (.text "Bob")]]⟩ := rfl
    cases built.symm.trans succeeds
    revert holds
    decide

end NestedFilter
