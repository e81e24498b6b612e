import NestedFilter.Proofs.Faithful
import NestedFilter.Proofs.Level

/-!
Compilation without a cache: every entity is reflected where it is needed. Under any cache that
holds nothing but reflections the compiler gives the same answers.
-/

set_option autoImplicit false

namespace NestedFilter

open Json (Value)
open Sql (Predicate)

namespace Compiler

def directLevel (compiler : Compiler) (schema : EntitySchema) (entries : Filter) :
    Except Refusal (List Predicate) :=
  (compiler.level schema entries fun entity => compiler.nestedPredicates entity entries).direct
    compiler.registry

def directNestedPredicates (compiler : Compiler) (owner : EntityRelations) (entries : Filter) :
    Except Refusal (List Predicate) :=
  (compiler.nestedPredicates owner entries).direct compiler.registry

def directNestedPredicate (compiler : Compiler) (owner : EntityRelations) (column : String)
    (value : Value) : Except Refusal (List Predicate) :=
  (compiler.nestedPredicate owner column value).direct compiler.registry

def direct (compiler : Compiler) (schema : EntitySchema) (filters : List Filter) :
    Except Refusal CompiledFilter := (compiler.plan schema filters).direct compiler.registry

end Compiler

section

variable (compiler : Compiler) (owner : EntityRelations) (column : String)

theorem nested_plain (value : Value) (plain : isNested value = false) :
    compiler.nestedPredicate owner column value = pure [] := by
  cases value with
  | object inner => cases plain
  | _ => rfl

theorem direct_level_eq (schema : EntitySchema) (entries : Filter) :
    compiler.directLevel schema entries = (do
      let entity ← (reflect compiler.registry compiler.naming schema).mapError .collided
      let scalars ← (compiler.levelScalars schema entity entries).mapError .failed
      let relational ← compiler.directNestedPredicates entity entries
      pure (scalars ++ relational)) := by
  simp only [Compiler.directLevel, level_as_scalars, direct_bind, direct_relations, direct_answer,
    direct_pure]
  rfl

theorem direct_nested_plain (value : Value) (plain : isNested value = false) :
    compiler.directNestedPredicate owner column value = .ok [] := by
  rw [Compiler.directNestedPredicate, nested_plain compiler owner column value plain, direct_pure]

theorem direct_nested_object (inner : Filter) (relation : Relation)
    (found : owner.relation? column = some relation) :
    compiler.directNestedPredicate owner column (.object inner) = (do
      let schema := compiler.registry.resolve relation.related
      let related ← (reflect compiler.registry compiler.naming schema).mapError .collided
      let nested ← compiler.directLevel schema inner
      pure [relationPredicate owner related relation nested]) := by
  simp only [Compiler.directNestedPredicate, Compiler.nestedPredicate, found, direct_bind,
    direct_relations, direct_record, direct_pure]
  rfl

theorem direct_nested_cons (value : Value) (rest : Filter) :
    compiler.directNestedPredicates owner ((column, value) :: rest) = (do
      let first ← compiler.directNestedPredicate owner column value
      let others ← compiler.directNestedPredicates owner rest
      pure (first ++ others)) := by
  simp only [Compiler.directNestedPredicates, Compiler.nestedPredicates, direct_bind, direct_pure]
  rfl

theorem direct_eq (schema : EntitySchema) (filters : List Filter) :
    compiler.direct schema filters =
      (compiler.directLevel schema filters.flatten).map CompiledFilter.mk := by
  simp only [Compiler.direct, Compiler.plan, Compiler.predicates, direct_bind, direct_record,
    direct_pure, Compiler.directLevel]
  cases (compiler.level schema filters.flatten fun entity =>
    compiler.nestedPredicates entity filters.flatten).direct compiler.registry <;> rfl

end

section

variable (compiler : Compiler) (includes : NamingStrategy → EntitySchema → Prop)
  (owner : EntityRelations) (column : String)

theorem level_asks (schema : EntitySchema) (entries : Filter)
    (deeper : EntityRelations → Plan (List Predicate))
    (included : includes compiler.naming schema)
    (nested : ∀ entity, reflect compiler.registry compiler.naming schema = .ok entity →
      (deeper entity).Asks compiler.registry includes) :
    (compiler.level schema entries deeper).Asks compiler.registry includes := by
  rw [level_as_scalars, relations_bind]
  refine ⟨included, fun entity reflected => ?_⟩
  apply asks_bind
  · trivial
  · intro scalars _
    apply asks_bind _ includes _ _ (nested entity reflected)
    intro relational _
    trivial

theorem nested_plain_asks (value : Value) (rest : Filter) (plain : isNested value = false)
    (others : (compiler.nestedPredicates owner rest).Asks compiler.registry includes) :
    (compiler.nestedPredicates owner ((column, value) :: rest)).Asks compiler.registry
      includes := by
  rw [Compiler.nestedPredicates, nested_plain compiler owner column value plain, pure_bind]
  exact asks_bind _ includes _ _ others fun _ _ => trivial

theorem nested_object_asks (inner rest : Filter)
    (target : ∀ relation, owner.relation? column = some relation →
      includes compiler.naming (compiler.registry.resolve relation.related) ∧
      ∀ related, reflect compiler.registry compiler.naming
          (compiler.registry.resolve relation.related) = .ok related →
        (compiler.nestedPredicates related inner).Asks compiler.registry includes)
    (others : (compiler.nestedPredicates owner rest).Asks compiler.registry includes) :
    (compiler.nestedPredicates owner ((column, .object inner) :: rest)).Asks compiler.registry
      includes := by
  rw [Compiler.nestedPredicates]
  apply asks_bind
  · rw [Compiler.nestedPredicate]
    cases found : owner.relation? column with
    | none => trivial
    | some relation =>
        obtain ⟨included, below⟩ := target relation found
        simp only [relations_bind]
        refine ⟨included, fun related _ => ?_⟩
        apply asks_bind _ includes _ _ (level_asks compiler includes _ inner _ included below)
        intro nested _
        trivial
  · intro first _
    exact asks_bind _ includes _ _ others fun _ _ => trivial

theorem plan_asks (schema : EntitySchema) (filters : List Filter)
    (included : includes compiler.naming schema)
    (nested : ∀ entity, reflect compiler.registry compiler.naming schema = .ok entity →
      (compiler.nestedPredicates entity filters.flatten).Asks compiler.registry includes) :
    (compiler.plan schema filters).Asks compiler.registry includes := by
  apply asks_bind
  · apply asks_bind _ includes _ _
      (level_asks compiler includes schema filters.flatten _ included nested)
    intro predicates _
    trivial
  · intro predicates _
    trivial

end

theorem closed_lookups_asked (compiler : Compiler) (lookups : Lookups compiler.registry)
    (entries : Filter) (owner : EntityRelations)
    (related : ∀ column relation, owner.relation? column = some relation →
      lookups.includes compiler.naming (compiler.registry.resolve relation.related)) :
    (compiler.nestedPredicates owner entries).Asks compiler.registry lookups.includes := by
  induction entries using filter_induction generalizing owner with
  | nil => trivial
  | plain column value rest plain ih =>
      exact nested_plain_asks compiler _ owner column value rest plain (ih owner related)
  | nested column inner rest ihInner ihRest =>
      refine nested_object_asks compiler _ owner column inner rest ?_ (ihRest owner related)
      intro relation found
      have included := related column relation found
      refine ⟨included, fun target reflected => ihInner target ?_⟩
      intro other below
      exact lookups.closed compiler.naming _ target other below included reflected

theorem lookups_asked (compiler : Compiler) (lookups : Lookups compiler.registry)
    (schema : EntitySchema) (filters : List Filter)
    (included : lookups.includes compiler.naming schema) :
    (compiler.plan schema filters).Asks compiler.registry lookups.includes := by
  apply plan_asks compiler lookups.includes schema filters included
  intro entity reflected
  apply closed_lookups_asked
  intro column relation
  exact lookups.closed compiler.naming schema entity column relation included reflected

def Compiler.rootLookups (compiler : Compiler) (schema : EntitySchema)
    (coherent : Coherent compiler.registry [schema]) : Lookups compiler.registry :=
  .ofRoots compiler.registry [schema] (· = compiler.naming) coherent
    (fun _ _ sameA sameB _ => sameA.trans sameB.symm)

theorem compile_from_empty (compiler : Compiler) (schema : EntitySchema) (filters : List Filter)
    (session : Session) (coherent : Coherent compiler.registry [schema])
    (empty : session.cache.entries = []) :
    (compiler.compile schema filters).outcome session =
      (compiler.direct schema filters).mapError (Refusal.report
        (session.choices ((compiler.compile schema filters).after session).cache.reflections)) := by
  let lookups := compiler.rootLookups schema coherent
  have included : lookups.includes compiler.naming schema :=
    ⟨rfl, .root schema (List.mem_singleton.mpr rfl)⟩
  exact (run_faithful compiler.registry lookups.includes lookups.unambiguous _ session
    (lookups_asked compiler lookups schema filters included)
    (faithful_without_entries _ _ _ empty)).1

theorem compile_ok_iff_direct (compiler : Compiler) (schema : EntitySchema)
    (filters : List Filter) (session : Session) (compiled : CompiledFilter)
    (coherent : Coherent compiler.registry [schema]) (empty : session.cache.entries = []) :
    (compiler.compile schema filters).outcome session = .ok compiled ↔
      compiler.direct schema filters = .ok compiled := by
  rw [compile_from_empty compiler schema filters session coherent empty, map_error_ok_iff]

end NestedFilter
