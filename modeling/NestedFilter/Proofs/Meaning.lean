import NestedFilter.Proofs.Rules
import NestedFilter.Proofs.Truth

/-!
What a filter asks of a row, in terms of the rows that its relations lead to, and that the compiled
predicates hold of just the rows that meet it.
-/

set_option autoImplicit false

namespace NestedFilter

open Json (Value)
open Sql (Database Engine Equal Literal Predicate Row Scope Truth qualified)

def Like (engine : Engine) (cell : Option Literal) (pattern : String) : Prop :=
  ∃ value, cell = some value ∧ engine.like value pattern = true

-- The rows that a relation leads to, along the columns that reflection found for it.
def Joined (engine : Engine) (database : Database) (entity related : EntityRelations)
    (relation : Relation) (row other : Row) : Prop :=
  match relation.kind with
  | .toOne => Equal engine (row relation.foreignKey) (other related.primaryKey)
  | .toMany => Equal engine (row entity.primaryKey) (other relation.foreignKey)
  | .manyToMany junction =>
      ∃ link ∈ database junction.table,
        Equal engine (row entity.primaryKey) (link junction.ownerKey) ∧
        Equal engine (link junction.relatedKey) (other related.primaryKey)

section

variable (engine : Engine) (database : Database) (registry : Registry) (naming : NamingStrategy)
  (wildcards : Bool)

mutual

def MeetsEntries (entity : EntityRelations) (row : Row) : List (String × Value) → Prop
  | [] => True
  | (column, value) :: rest => MeetsEntry entity row column value ∧ MeetsEntries entity row rest
termination_by structural entries => entries

def MeetsEntry (entity : EntityRelations) (row : Row) (column : String) : Value → Prop
  | .null => row column = none
  | .bool value => Equal engine (row column) (literalOf? (.bool value))
  | .number value => Equal engine (row column) (literalOf? (.number value))
  | .string text =>
      if wildcards = true ∧ '*' ∈ text.toList then
        Like engine (row column) (String.ofList (text.toList.map percentForStar))
      else Equal engine (row column) (literalOf? (.string text))
  | .array items => ∃ item ∈ items, Equal engine (row column) (literalOf? item)
  | .object inner =>
      ∃ relation related, entity.relation? column = some relation ∧
        reflect registry naming (registry.resolve relation.related) = .ok related ∧
        ∃ other ∈ database related.table,
          Joined engine database entity related relation row other ∧
          MeetsEntries related other inner
termination_by structural value => value

end

def Meets (schema : EntitySchema) (row : Row) (filter : Filter) : Prop :=
  ∃ entity, reflect registry naming schema = .ok entity ∧
    MeetsEntries engine database registry naming wildcards entity row filter

end

theorem meets_entries_iff (engine : Engine) (database : Database) (registry : Registry)
    (naming : NamingStrategy) (wildcards : Bool) (entity : EntityRelations) (row : Row)
    (entries : Filter) :
    MeetsEntries engine database registry naming wildcards entity row entries ↔
      ∀ entry ∈ entries,
        MeetsEntry engine database registry naming wildcards entity row entry.1 entry.2 := by
  induction entries with
  | nil => simp [MeetsEntries]
  | cons entry rest ih => rw [MeetsEntries, ih, List.forall_mem_cons]

theorem meets_entries_flatten (engine : Engine) (database : Database) (registry : Registry)
    (naming : NamingStrategy) (wildcards : Bool) (entity : EntityRelations) (row : Row)
    (filters : List Filter) :
    MeetsEntries engine database registry naming wildcards entity row filters.flatten ↔
      ∀ filter ∈ filters,
        MeetsEntries engine database registry naming wildcards entity row filter := by
  simp only [meets_entries_iff, List.mem_flatten, forall_exists_index, and_imp]
  constructor
  · intro met filter member entry listed
    exact met entry filter member listed
  · intro met entry filter member listed
    exact met filter member entry listed

section

variable (engine : Engine) (database : Database)

theorem equality_holds (table name : String) (row : Row) (outer : List Scope) (literal : Literal) :
    (Predicate.compare (qualified table name) .equal literal).truth engine database
        (⟨table, row⟩ :: outer) = .holds ↔ Equal engine (row name) (some literal) := by
  rw [Predicate.truth, Sql.compare_cells_holds, Sql.cell_own]

theorem like_holds (table name : String) (row : Row) (outer : List Scope) (pattern : String) :
    (Predicate.like (qualified table name) pattern).truth engine database
        (⟨table, row⟩ :: outer) = .holds ↔ Like engine (row name) pattern := by
  rw [Predicate.truth, Sql.cell_own]
  cases row name <;> simp [Engine.likeCell, Like, Truth.of_bool_holds]

theorem meets_literal_iff (registry : Registry) (naming : NamingStrategy) (wildcards : Bool)
    (entity : EntityRelations) (row : Row) (column : String) (value : Value) (literal : Literal)
    (read : literalOf? value = some literal)
    (unstarred : ∀ text, value = .string text → wildcards = true → '*' ∉ text.toList) :
    MeetsEntry engine database registry naming wildcards entity row column value ↔
      Equal engine (row column) (some literal) := by
  cases value with
  | null => cases read
  | bool value => rw [MeetsEntry, read]
  | number value => rw [MeetsEntry, read]
  | string text =>
      have notLike : ¬ (wildcards = true ∧ '*' ∈ text.toList) :=
        fun starred => unstarred text rfl starred.1 starred.2
      rw [MeetsEntry, if_neg notLike, read]
  | array items => cases read
  | object inner => cases read

theorem scalar_rule_holds (registry : Registry) (naming : NamingStrategy) (wildcards : Bool)
    (entity : EntityRelations) (column : String) (value : Value) (predicate : Predicate)
    (row : Row) (outer : List Scope)
    (rule : ScalarRule (qualified entity.table column) wildcards value predicate) :
    predicate.truth engine database (⟨entity.table, row⟩ :: outer) = .holds ↔
      MeetsEntry engine database registry naming wildcards entity row column value := by
  cases rule with
  | null =>
      rw [Predicate.truth, Sql.cell_own, Truth.of_bool_holds, Option.isNone_iff_eq_none, MeetsEntry]
  | like text on starred => rw [like_holds, MeetsEntry, if_pos ⟨on, starred⟩]
  | equal _ literal read unstarred =>
      rw [equality_holds, meets_literal_iff engine database registry naming wildcards entity row
        column value literal read unstarred]
  | list items literals read =>
      rw [Sql.is_in_holds, Sql.cell_own, MeetsEntry]
      constructor
      · intro listed
        obtain ⟨literal, member, equal⟩ := listed
        obtain ⟨item, listed, same⟩ := literal_has_item items literals read literal member
        exact ⟨item, listed, same ▸ equal⟩
      · intro listed
        obtain ⟨item, listed, equal⟩ := listed
        obtain ⟨literal, member, same⟩ := item_has_literal items literals read item listed
        exact ⟨literal, member, same ▸ equal⟩

theorem membership_holds (scopes : List Scope) (owner : Sql.ColumnRef) (table column : String)
    (filter : List Predicate) :
    (membership owner table column filter).truth engine database scopes = .holds ↔
      ∃ other ∈ database table,
        (∀ predicate ∈ filter,
          predicate.truth engine database (⟨table, other⟩ :: scopes) = .holds) ∧
        Equal engine (Sql.cell scopes owner) (other column) := by
  rw [membership, Sql.in_query_holds]
  simp only [Sql.cell_own]

theorem relation_predicate_holds (entity related : EntityRelations) (relation : Relation)
    (nested : List Predicate) (row : Row) (outer : List Scope) (meets : Row → Prop)
    (independent : ∀ other around, (∀ predicate ∈ nested,
      predicate.truth engine database (⟨related.table, other⟩ :: around) = .holds) ↔ meets other) :
    (relationPredicate entity related relation nested).truth engine database
        (⟨entity.table, row⟩ :: outer) = .holds ↔
      ∃ other ∈ database related.table,
        Joined engine database entity related relation row other ∧ meets other := by
  -- What the nested predicates ask of a related row may not depend on the rows around it: through a
  -- junction they stand one scope deeper than through a key.
  unfold relationPredicate Joined
  cases relation.kind with
  | toOne =>
      simp only [membership_holds, independent, Sql.cell_own]
      simp only [and_comm]
  | toMany =>
      simp only [membership_holds, independent, Sql.cell_own]
      simp only [and_comm]
  | manyToMany junction =>
      simp only [membership_holds, List.mem_singleton, forall_eq, independent, Sql.cell_own]
      constructor
      · intro joined
        obtain ⟨link, linked, ⟨other, listed, met, right⟩, left⟩ := joined
        exact ⟨other, listed, ⟨link, linked, left, right⟩, met⟩
      · intro joined
        obtain ⟨other, listed, ⟨link, linked, left, right⟩, met⟩ := joined
        exact ⟨link, linked, ⟨other, listed, met, right⟩, left⟩

theorem yields_hold (compiler : Compiler) (entity : EntityRelations) (entries : Filter)
    (scalars nested : List Predicate) (yields : Yields compiler entity entries scalars nested)
    (row : Row) (outer : List Scope) :
    (∀ predicate ∈ scalars ++ nested,
      predicate.truth engine database (⟨entity.table, row⟩ :: outer) = .holds) ↔
      MeetsEntries engine database compiler.registry compiler.naming compiler.options.wildcards
        entity row entries := by
  induction yields generalizing row outer with
  | nil entity => simp [MeetsEntries]
  | plain entity column value rest predicate scalars nested plain declared built _ ih =>
      rw [List.cons_append, List.forall_mem_cons, ih, MeetsEntries]
      have rule := (scalar_rule_iff _ _ _ _ _).mp built
      rw [scalar_rule_holds engine database compiler.registry compiler.naming _ entity column value
        predicate row outer rule]
  | nested entity related column relation inner rest innerScalars innerNested scalars nested found
      reflected _ _ ihBelow ihRest =>
      have test := relation_predicate_holds engine database entity related relation
        (innerScalars ++ innerNested) row outer _ ihBelow
      rw [List.forall_mem_append, List.forall_mem_cons, test, and_left_comm,
        ← List.forall_mem_append, ihRest, MeetsEntries, MeetsEntry]
      constructor
      · intro tests
        obtain ⟨⟨other, listed, joined, met⟩, remaining⟩ := tests
        exact ⟨⟨relation, related, found, reflected, other, listed, joined, met⟩, remaining⟩
      · intro meets
        obtain ⟨⟨_, _, foundAgain, reflectedAgain, other, listed, joined, met⟩, remaining⟩ := meets
        cases found.symm.trans foundAgain
        cases reflected.symm.trans reflectedAgain
        exact ⟨⟨other, listed, joined, met⟩, remaining⟩

end

theorem direct_holds_iff (engine : Engine) (database : Database) (compiler : Compiler)
    (root : EntitySchema) (filters : List Filter) (compiled : CompiledFilter)
    (entity : EntityRelations) (succeeds : compiler.direct root filters = .ok compiled)
    (reflected : reflect compiler.registry compiler.naming root = .ok entity) (row : Row) :
    (∀ predicate ∈ compiled.predicates,
      predicate.truth engine database [⟨compiler.naming.table root, row⟩] = .holds) ↔
      MeetsEntries engine database compiler.registry compiler.naming compiler.options.wildcards
        entity row filters.flatten := by
  obtain ⟨again, scalars, nested, reflectedAgain, yields, rfl⟩ :=
    (direct_ok_iff compiler root filters compiled).mp succeeds
  cases reflected.symm.trans reflectedAgain
  rw [← (reflect_parts _ _ root entity reflected).1]
  exact yields_hold engine database compiler entity filters.flatten scalars nested yields row []

theorem compiled_filter_selects_meeting_rows (engine : Engine) (database : Database)
    (compiler : Compiler) (root : EntitySchema) (filters : List Filter) (session : Session)
    (compiled : CompiledFilter) (coherent : Coherent compiler.registry [root])
    (empty : session.cache.entries = [])
    (succeeds : (compiler.compile root filters).outcome session = .ok compiled) (row : Row) :
    (∀ predicate ∈ compiled.predicates,
      predicate.truth engine database [⟨compiler.naming.table root, row⟩] = .holds) ↔
      ∀ filter ∈ filters, Meets engine database compiler.registry compiler.naming
        compiler.options.wildcards root row filter := by
  rw [compile_ok_iff_direct compiler root filters session _ coherent empty] at succeeds
  obtain ⟨entity, scalars, nested, reflected, yields, rfl⟩ :=
    (direct_ok_iff compiler root filters compiled).mp succeeds
  rw [← (reflect_parts _ _ root entity reflected).1]
  rw [yields_hold engine database compiler entity filters.flatten scalars nested yields row []]
  rw [meets_entries_flatten]
  constructor
  · intro met filter member
    exact ⟨entity, reflected, met filter member⟩
  · intro met filter member
    obtain ⟨again, reflectedAgain, metAgain⟩ := met filter member
    cases reflected.symm.trans reflectedAgain
    exact metAgain

def namelessRow : Row := fun column => if column = "name" then none else some (.integer 7)

def adaRow : Row := fun column => if column = "name" then some (.text "Ada") else some (.integer 7)

def namelessAndAda : Database := fun _ => [namelessRow, adaRow]

theorem nameless_row_meets_filters :
    Coherent peopleRegistry [personSchema] ∧ ({} : Session).cache.entries = [] ∧
      (peopleCompiler.compile personSchema peopleFilters).outcome {} = .ok ⟨peoplePredicates⟩ ∧
      ∀ filter ∈ peopleFilters, Meets .exact namelessAndAda peopleRegistry verbatim true
        personSchema namelessRow filter := by
  have like : Engine.exact.like (.text "Ada") "A%" = true := by
    simp [Engine.exact, Sql.matchesLike]
  have selected : ∀ predicate ∈ peoplePredicates, predicate.truth .exact namelessAndAda
      [⟨verbatim.table personSchema, namelessRow⟩] = .holds := by
    simp only [peoplePredicates, List.forall_mem_cons]
    refine ⟨rfl, ?_, by decide +kernel, by simp⟩
    rw [Sql.in_query_holds]
    refine ⟨adaRow, by simp [namelessAndAda], ?_, ⟨.integer 7, .integer 7, rfl, rfl, rfl⟩⟩
    exact List.forall_mem_singleton.mpr ((like_holds _ _ _ _ adaRow _ _).mpr ⟨_, rfl, like⟩)
  exact ⟨people_coherent, rfl, people_compiled,
    (compiled_filter_selects_meeting_rows .exact namelessAndAda peopleCompiler personSchema
      peopleFilters {} ⟨peoplePredicates⟩ people_coherent rfl people_compiled namelessRow).mp
      selected⟩

end NestedFilter
