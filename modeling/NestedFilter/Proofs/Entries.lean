import Mathlib.Data.List.Perm.Basic
import NestedFilter.Proofs.Rules

/-!
Mappings as conjunctions of their entries: every entry makes one predicate by itself, and some
mappings make the predicates of their entries, those on plain columns before the membership tests.
-/

set_option autoImplicit false

namespace NestedFilter

open Json (Value)
open Sql (Predicate qualified)

def plainEntries (filters : List Filter) : Filter :=
  filters.flatten.filter fun entry => !isNested entry.2

def nestedEntries (filters : List Filter) : Filter :=
  filters.flatten.filter fun entry => isNested entry.2

def EntryYields (compiler : Compiler) (entity : EntityRelations) (entry : String × Value)
    (predicate : Predicate) : Prop :=
  ∃ scalars nested, Yields compiler entity [entry] scalars nested ∧ scalars ++ nested = [predicate]

theorem yields_nil_iff (compiler : Compiler) (entity : EntityRelations)
    (scalars nested : List Predicate) :
    Yields compiler entity [] scalars nested ↔ scalars = [] ∧ nested = [] := by
  constructor
  · intro yields
    cases yields
    exact ⟨rfl, rfl⟩
  · rintro ⟨rfl, rfl⟩
    exact .nil entity

theorem plain_entry_iff (compiler : Compiler) (entity : EntityRelations) (column : String)
    (value : Value) (predicate : Predicate) (plain : isNested value = false) :
    EntryYields compiler entity (column, value) predicate ↔
      entity.hasColumn column = true ∧
        scalarPredicate (qualified entity.table column) column value compiler.options.wildcards =
          .ok predicate := by
  simp only [EntryYields, yields_plain_iff _ _ _ _ _ _ _ plain, yields_nil_iff]
  constructor
  · intro yields
    obtain ⟨_, _, ⟨declared, first, _, built, ⟨rfl, rfl⟩, rfl⟩, single⟩ := yields
    cases single
    exact ⟨declared, built⟩
  · intro rule
    obtain ⟨declared, built⟩ := rule
    exact ⟨[predicate], [], ⟨declared, predicate, [], built, ⟨rfl, rfl⟩, rfl⟩, rfl⟩

theorem nested_entry_iff (compiler : Compiler) (entity : EntityRelations) (column : String)
    (inner : Filter) (predicate : Predicate) :
    EntryYields compiler entity (column, .object inner) predicate ↔
      ∃ relation related innerScalars innerNested,
        entity.relation? column = some relation ∧
        reflect compiler.registry compiler.naming (compiler.registry.resolve relation.related) =
          .ok related ∧
        Yields compiler related inner innerScalars innerNested ∧
        predicate = relationPredicate entity related relation (innerScalars ++ innerNested) := by
  simp only [EntryYields, yields_object_iff, yields_nil_iff]
  constructor
  · intro yields
    obtain ⟨_, _, ⟨relation, related, innerScalars, innerNested, _, found, reflected, below,
      ⟨rfl, rfl⟩, rfl⟩, single⟩ := yields
    cases single
    exact ⟨relation, related, innerScalars, innerNested, found, reflected, below, rfl⟩
  · intro rule
    obtain ⟨relation, related, innerScalars, innerNested, found, reflected, below, rfl⟩ := rule
    exact ⟨[], _, ⟨relation, related, innerScalars, innerNested, [], found, reflected, below,
      ⟨rfl, rfl⟩, rfl⟩, rfl⟩

theorem yields_plain_split (compiler : Compiler) (entity : EntityRelations) (column : String)
    (value : Value) (rest : Filter) (scalars nested : List Predicate)
    (plain : isNested value = false) :
    Yields compiler entity ((column, value) :: rest) scalars nested ↔
      ∃ predicate others, EntryYields compiler entity (column, value) predicate ∧
        Yields compiler entity rest others nested ∧ scalars = predicate :: others := by
  simp only [yields_plain_iff _ _ _ _ _ _ _ plain, plain_entry_iff _ _ _ _ _ plain]
  constructor
  · intro rule
    obtain ⟨declared, predicate, others, built, remaining, rfl⟩ := rule
    exact ⟨predicate, others, ⟨declared, built⟩, remaining, rfl⟩
  · intro split
    obtain ⟨predicate, others, ⟨declared, built⟩, remaining, rfl⟩ := split
    exact ⟨declared, predicate, others, built, remaining, rfl⟩

theorem yields_nested_split (compiler : Compiler) (entity : EntityRelations) (column : String)
    (inner rest : Filter) (scalars nested : List Predicate) :
    Yields compiler entity ((column, .object inner) :: rest) scalars nested ↔
      ∃ predicate others, EntryYields compiler entity (column, .object inner) predicate ∧
        Yields compiler entity rest scalars others ∧ nested = predicate :: others := by
  simp only [yields_object_iff, nested_entry_iff]
  constructor
  · intro rule
    obtain ⟨relation, related, innerScalars, innerNested, others, found, reflected, below, remaining,
      rfl⟩ := rule
    exact ⟨_, others, ⟨relation, related, innerScalars, innerNested, found, reflected, below, rfl⟩,
      remaining, rfl⟩
  · intro split
    obtain ⟨_, others, ⟨relation, related, innerScalars, innerNested, found, reflected, below, rfl⟩,
      remaining, rfl⟩ := split
    exact ⟨relation, related, innerScalars, innerNested, others, found, reflected, below, remaining,
      rfl⟩

theorem yields_iff_entries (compiler : Compiler) (entity : EntityRelations) (entries : Filter)
    (scalars nested : List Predicate) :
    Yields compiler entity entries scalars nested ↔
      List.Forall₂ (EntryYields compiler entity)
        (entries.filter fun entry => !isNested entry.2) scalars ∧
      List.Forall₂ (EntryYields compiler entity)
        (entries.filter fun entry => isNested entry.2) nested := by
  -- No entry has a say in the predicate of another: the rules walk the entries one by one.
  induction entries generalizing scalars nested with
  | nil => simp only [List.filter_nil, yields_nil_iff, List.forall₂_nil_left_iff]
  | cons entry rest ih =>
      obtain ⟨column, value⟩ := entry
      cases kind : isNested value with
      | false =>
          rw [yields_plain_split _ _ _ _ _ _ _ kind]
          simp only [List.filter_cons, kind, Bool.not_false, if_true, Bool.false_eq_true, if_false,
            List.forall₂_cons_left_iff, ih]
          constructor
          · intro split
            obtain ⟨predicate, others, first, ⟨plain, deeper⟩, rfl⟩ := split
            exact ⟨⟨predicate, others, first, plain, rfl⟩, deeper⟩
          · intro split
            obtain ⟨⟨predicate, others, first, plain, rfl⟩, deeper⟩ := split
            exact ⟨predicate, others, first, ⟨plain, deeper⟩, rfl⟩
      | true =>
          obtain ⟨inner, rfl⟩ := nested_value value kind
          rw [yields_nested_split]
          simp only [List.filter_cons, kind, Bool.not_true, if_true, Bool.false_eq_true, if_false,
            List.forall₂_cons_left_iff, ih]
          constructor
          · intro split
            obtain ⟨predicate, others, first, ⟨plain, deeper⟩, rfl⟩ := split
            exact ⟨plain, predicate, others, first, deeper, rfl⟩
          · intro split
            obtain ⟨plain, predicate, others, first, deeper, rfl⟩ := split
            exact ⟨predicate, others, first, ⟨plain, deeper⟩, rfl⟩

theorem single_entry_yields (compiler : Compiler) (entity : EntityRelations)
    (entry : String × Value) (scalars nested : List Predicate)
    (yields : Yields compiler entity [entry] scalars nested) :
    ∃ predicate, scalars ++ nested = [predicate] := by
  cases yields with
  | plain _ _ _ _ predicate _ _ _ _ _ others =>
      obtain ⟨rfl, rfl⟩ := (yields_nil_iff _ _ _ _).mp others
      exact ⟨predicate, rfl⟩
  | nested _ _ _ _ _ _ _ _ _ _ _ _ _ others =>
      obtain ⟨rfl, rfl⟩ := (yields_nil_iff _ _ _ _).mp others
      exact ⟨_, rfl⟩

theorem single_entry_ok_iff (compiler : Compiler) (root : EntitySchema)
    (entry : String × Value) (compiled : CompiledFilter) :
    compiler.direct root [[entry]] = .ok compiled ↔
      ∃ entity predicate, reflect compiler.registry compiler.naming root = .ok entity ∧
        EntryYields compiler entity entry predicate ∧ compiled = ⟨[predicate]⟩ := by
  have alone : [[entry]].flatten = [entry] := rfl
  rw [direct_ok_iff, alone]
  constructor
  · intro built
    obtain ⟨entity, scalars, nested, reflected, yields, rfl⟩ := built
    obtain ⟨predicate, single⟩ := single_entry_yields compiler entity entry scalars nested yields
    exact ⟨entity, predicate, reflected, ⟨scalars, nested, yields, single⟩, by rw [single]⟩
  · intro built
    obtain ⟨entity, predicate, reflected, ⟨scalars, nested, yields, single⟩, rfl⟩ := built
    exact ⟨entity, scalars, nested, reflected, yields, by rw [single]⟩

theorem related_append_iff {α β : Type} (related : α → β → Prop) (first others : List α)
    (results : List β) :
    List.Forall₂ related (first ++ others) results ↔
      ∃ before after, List.Forall₂ related first before ∧ List.Forall₂ related others after ∧
        results = before ++ after := by
  constructor
  · intro all
    induction first generalizing results with
    | nil => exact ⟨[], results, .nil, all, rfl⟩
    | cons a rest ih =>
        obtain ⟨b, remaining, one, more, rfl⟩ := List.forall₂_cons_left_iff.mp all
        obtain ⟨before, after, left, right, rfl⟩ := ih remaining more
        exact ⟨b :: before, after, .cons one left, right, rfl⟩
  · intro parts
    obtain ⟨before, after, left, right, rfl⟩ := parts
    exact List.rel_append left right

theorem direct_ok_iff_entries (compiler : Compiler) (root : EntitySchema) (filters : List Filter)
    (compiled : CompiledFilter) :
    compiler.direct root filters = .ok compiled ↔
      (∃ entity, reflect compiler.registry compiler.naming root = .ok entity) ∧
        List.Forall₂ (fun entry predicate => compiler.direct root [[entry]] = .ok ⟨[predicate]⟩)
          (plainEntries filters ++ nestedEntries filters) compiled.predicates := by
  -- Below one reflection, an entry compiles by itself to just the predicate that it yields.
  have alone : ∀ entity, reflect compiler.registry compiler.naming root = .ok entity →
      (fun entry predicate => compiler.direct root [[entry]] = .ok ⟨[predicate]⟩) =
        EntryYields compiler entity := by
    intro entity reflected
    funext entry predicate
    simp only [single_entry_ok_iff, reflected, Except.ok.injEq, CompiledFilter.mk.injEq,
      List.cons.injEq, and_true, eq_iff_iff]
    constructor
    · intro single
      obtain ⟨_, _, rfl, yields, rfl⟩ := single
      exact yields
    · intro yields
      exact ⟨entity, predicate, rfl, yields, rfl⟩
  rw [direct_ok_iff]
  constructor
  · intro built
    obtain ⟨entity, scalars, nested, reflected, yields, rfl⟩ := built
    refine ⟨⟨entity, reflected⟩, ?_⟩
    rw [alone entity reflected]
    obtain ⟨plain, deeper⟩ := (yields_iff_entries _ _ _ _ _).mp yields
    exact List.rel_append plain deeper
  · intro built
    obtain ⟨⟨entity, reflected⟩, entries⟩ := built
    rw [alone entity reflected] at entries
    obtain ⟨scalars, nested, plain, deeper, same⟩ := (related_append_iff _ _ _ _).mp entries
    exact ⟨entity, scalars, nested, reflected, (yields_iff_entries _ _ _ _ _).mpr ⟨plain, deeper⟩,
      congrArg CompiledFilter.mk same⟩

theorem related_exists_iff {α β : Type} (related : α → β → Prop) (items : List α) :
    (∃ results, List.Forall₂ related items results) ↔
      ∀ item ∈ items, ∃ result, related item result := by
  induction items with
  | nil => simp
  | cons item rest ih =>
      rw [List.forall_mem_cons, ← ih]
      simp only [List.forall₂_cons_left_iff]
      constructor
      · intro all
        obtain ⟨_, result, results, one, more, rfl⟩ := all
        exact ⟨⟨result, one⟩, results, more⟩
      · intro all
        obtain ⟨⟨result, one⟩, results, more⟩ := all
        exact ⟨result :: results, result, results, one, more, rfl⟩

theorem sorted_entries_perm (filters : List Filter) :
    (plainEntries filters ++ nestedEntries filters).Perm filters.flatten := by
  have split := List.filter_append_perm (fun entry => isNested entry.2) filters.flatten
  exact List.perm_append_comm.trans split

theorem sorted_entry_iff (filters : List Filter) (entry : String × Value) :
    entry ∈ plainEntries filters ++ nestedEntries filters ↔ ∃ filter ∈ filters, entry ∈ filter := by
  rw [(sorted_entries_perm filters).mem_iff, List.mem_flatten]

theorem single_entry_compiled (compiler : Compiler) (root : EntitySchema)
    (entry : String × Value) (single : CompiledFilter)
    (compiled : compiler.direct root [[entry]] = .ok single) :
    ∃ predicate, single = ⟨[predicate]⟩ := by
  obtain ⟨_, predicate, _, _, same⟩ := (single_entry_ok_iff _ _ _ _).mp compiled
  exact ⟨predicate, same⟩

theorem direct_succeeds_iff_entries (compiler : Compiler) (root : EntitySchema)
    (filters : List Filter) :
    (∃ compiled, compiler.direct root filters = .ok compiled) ↔
      (∃ entity, reflect compiler.registry compiler.naming root = .ok entity) ∧
        ∀ filter ∈ filters, ∀ entry ∈ filter, ∃ single,
          compiler.direct root [[entry]] = .ok single := by
  simp only [direct_ok_iff_entries compiler root filters]
  constructor
  · intro built
    obtain ⟨compiled, reflected, entries⟩ := built
    refine ⟨reflected, fun filter member entry listed => ?_⟩
    have sorted := (sorted_entry_iff filters entry).mpr ⟨filter, member, listed⟩
    obtain ⟨predicate, single⟩ := (related_exists_iff _ _).mp ⟨_, entries⟩ entry sorted
    exact ⟨⟨[predicate]⟩, single⟩
  · intro built
    obtain ⟨reflected, singles⟩ := built
    have paired : ∀ entry ∈ plainEntries filters ++ nestedEntries filters, ∃ predicate,
        compiler.direct root [[entry]] = .ok ⟨[predicate]⟩ := by
      intro entry sorted
      obtain ⟨filter, member, listed⟩ := (sorted_entry_iff filters entry).mp sorted
      obtain ⟨single, compiled⟩ := singles filter member entry listed
      obtain ⟨predicate, rfl⟩ := single_entry_compiled compiler root entry single compiled
      exact ⟨predicate, compiled⟩
    obtain ⟨predicates, entries⟩ := (related_exists_iff _ _).mpr paired
    exact ⟨⟨predicates⟩, reflected, entries⟩

theorem compile_composes_entries (compiler : Compiler) (root : EntitySchema) (session : Session)
    (coherent : Coherent compiler.registry [root]) (empty : session.cache.entries = [])
    (filters : List Filter) :
    ((∃ compiled, (compiler.compile root filters).outcome session = .ok compiled) ↔
      (∃ entity, reflect compiler.registry compiler.naming root = .ok entity) ∧
        ∀ filter ∈ filters, ∀ entry ∈ filter, ∃ single,
          (compiler.compile root [[entry]]).outcome session = .ok single) ∧
    (∀ entry single, (compiler.compile root [[entry]]).outcome session = .ok single →
      ∃ predicate, single.predicates = [predicate]) ∧
    (∀ compiled, (compiler.compile root filters).outcome session = .ok compiled →
      List.Forall₂ (fun entry predicate =>
          (compiler.compile root [[entry]]).outcome session = .ok ⟨[predicate]⟩)
        (plainEntries filters ++ nestedEntries filters) compiled.predicates) ∧
    (∀ others, plainEntries others = plainEntries filters →
      nestedEntries others = nestedEntries filters → ∀ compiled,
        (compiler.compile root others).outcome session = .ok compiled ↔
          (compiler.compile root filters).outcome session = .ok compiled) ∧
    (∀ others, others.flatten.Perm filters.flatten → ∀ compiled,
      (compiler.compile root filters).outcome session = .ok compiled →
        ∃ redistributed, (compiler.compile root others).outcome session = .ok redistributed ∧
          redistributed.predicates.Perm compiled.predicates) := by
  have direct := fun list compiled =>
    compile_ok_iff_direct compiler root list session compiled coherent empty
  simp only [direct]
  refine ⟨direct_succeeds_iff_entries compiler root filters, ?one, ?order, ?sequences, ?permuted⟩
  case one =>
    intro entry single compiled
    obtain ⟨predicate, rfl⟩ := single_entry_compiled compiler root entry single compiled
    exact ⟨predicate, rfl⟩
  case order =>
    intro compiled built
    exact ((direct_ok_iff_entries _ _ _ _).mp built).2
  case sequences =>
    intro others samePlain sameNested compiled
    rw [direct_ok_iff_entries, direct_ok_iff_entries, samePlain, sameNested]
  case permuted =>
    intro others redistributed compiled built
    obtain ⟨reflected, entries⟩ := (direct_ok_iff_entries _ _ _ _).mp built
    have sorted := ((sorted_entries_perm others).trans redistributed).trans
      (sorted_entries_perm filters).symm
    obtain ⟨predicates, made, same⟩ := List.perm_comp_forall₂ sorted entries
    exact ⟨⟨predicates⟩, (direct_ok_iff_entries _ _ _ _).mpr ⟨reflected, made⟩, same⟩

def regroupedFilters : List Filter := [
  [("mentor", .object [("name", .string "A*")])],
  [],
  [("name", .null), ("tags", .object [("people", .object [("id", .array [.number (.integer 7)])])])]]

theorem people_entries_compose :
    Coherent peopleRegistry [personSchema] ∧ ({} : Session).cache.entries = [] ∧
      List.Forall₂ (fun entry predicate =>
          (peopleCompiler.compile personSchema [[entry]]).outcome {} = .ok ⟨[predicate]⟩)
        (plainEntries peopleFilters ++ nestedEntries peopleFilters) peoplePredicates ∧
      (peopleCompiler.compile personSchema regroupedFilters).outcome {} =
        .ok ⟨peoplePredicates⟩ := by
  obtain ⟨_, _, order, sequences, _⟩ :=
    compile_composes_entries peopleCompiler personSchema {} people_coherent rfl peopleFilters
  refine ⟨people_coherent, rfl, order ⟨peoplePredicates⟩ people_compiled, ?_⟩
  exact (sequences regroupedFilters rfl rfl ⟨peoplePredicates⟩).mpr people_compiled

end NestedFilter
