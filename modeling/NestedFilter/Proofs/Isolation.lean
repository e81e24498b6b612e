import NestedFilter.Proofs.Rules

/-!
The SELECTs among compiled predicates as a tree of scopes. The tree follows the nested filters, and
each scope names only columns of its own table that reflection declares.
-/

set_option autoImplicit false

namespace NestedFilter

open Json (Value)
open Sql (ColumnRef Predicate qualified)

-- By its type a SELECT reads one table and projects one column. The columns are those that stand
-- in its WHERE clause outside of deeper SELECTs.
inductive Subquery where
  | select (table : String) (projected : ColumnRef) (columns : List ColumnRef)
      (inner : List Subquery)

def columnOf : Predicate → ColumnRef
  | .compare column _ _ => column
  | .like column _ => column
  | .isNull column => column
  | .isIn column _ => column
  | .inQuery column _ _ _ => column

mutual

def subqueriesOf : Predicate → List Subquery
  | .inQuery _ projected table filter =>
      [.select table projected (filter.map columnOf) (subqueriesOfAll filter)]
  | _ => []
termination_by structural predicate => predicate

def subqueriesOfAll : List Predicate → List Subquery
  | [] => []
  | predicate :: rest => subqueriesOf predicate ++ subqueriesOfAll rest
termination_by structural predicates => predicates

end

def Owned (table : String) (declared : String → Prop) (columns : List ColumnRef) : Prop :=
  ∀ column ∈ columns, ∃ name, column = qualified table name ∧ declared name

-- The names of an entity's scope; to-many adds the key on which the entity was reached.
def DeclaredName (entity : EntityRelations) (reachedBy : Option String) (name : String) : Prop :=
  entity.hasColumn name = true ∨ name = entity.primaryKey ∨
    (∃ column relation, entity.relation? column = some relation ∧ relation.kind = .toOne ∧
      name = relation.foreignKey) ∨
    reachedBy = some name

inductive RelationScope (related : EntityRelations) (relation : Relation) (below : List Subquery) :
    Subquery → Prop where
  | toOne (projected : ColumnRef) (columns : List ColumnRef) (kind : relation.kind = .toOne)
      (owned : Owned related.table (DeclaredName related none) (projected :: columns)) :
      RelationScope related relation below (.select related.table projected columns below)
  | toMany (projected : ColumnRef) (columns : List ColumnRef) (kind : relation.kind = .toMany)
      (owned : Owned related.table (DeclaredName related (some relation.foreignKey))
        (projected :: columns)) :
      RelationScope related relation below (.select related.table projected columns below)
  | manyToMany (junction : Junction) (owner linked projected : ColumnRef)
      (columns : List ColumnRef) (kind : relation.kind = .manyToMany junction)
      (ownedLink : Owned junction.table
        (fun name => name = junction.ownerKey ∨ name = junction.relatedKey) [owner, linked])
      (owned : Owned related.table (DeclaredName related none) (projected :: columns)) :
      RelationScope related relation below
        (.select junction.table owner [linked] [.select related.table projected columns below])

inductive Mirrors (registry : Registry) (naming : NamingStrategy) :
    EntityRelations → Filter → List Subquery → Prop where
  | nil (entity : EntityRelations) : Mirrors registry naming entity [] []
  | plain (entity : EntityRelations) (column : String) (value : Value) (rest : Filter)
      (trees : List Subquery) (plain : isNested value = false)
      (others : Mirrors registry naming entity rest trees) :
      Mirrors registry naming entity ((column, value) :: rest) trees
  | nested (entity related : EntityRelations) (column : String) (relation : Relation)
      (inner rest : Filter) (tree : Subquery) (below trees : List Subquery)
      (found : entity.relation? column = some relation)
      (reflected : reflect registry naming (registry.resolve relation.related) = .ok related)
      (scope : RelationScope related relation below tree)
      (deeper : Mirrors registry naming related inner below)
      (others : Mirrors registry naming entity rest trees) :
      Mirrors registry naming entity ((column, .object inner) :: rest) (tree :: trees)

theorem subqueries_append (first others : List Predicate) :
    subqueriesOfAll (first ++ others) = subqueriesOfAll first ++ subqueriesOfAll others := by
  induction first with
  | nil => rfl
  | cons predicate rest ih =>
      rw [List.cons_append, subqueriesOfAll, subqueriesOfAll, ih, List.append_assoc]

theorem owned_weaken (table : String) (few many : String → Prop) (columns : List ColumnRef)
    (weaker : ∀ name, few name → many name) (owned : Owned table few columns) :
    Owned table many columns := by
  intro column member
  obtain ⟨name, same, declared⟩ := owned column member
  exact ⟨name, same, weaker name declared⟩

theorem declared_weaken (entity : EntityRelations) (reachedBy : Option String) (name : String)
    (declared : DeclaredName entity none name) : DeclaredName entity reachedBy name := by
  rcases declared with plain | primary | foreign | reached
  · exact .inl plain
  · exact .inr (.inl primary)
  · exact .inr (.inr (.inl foreign))
  · cases reached

theorem owned_insert (table name : String) (declared : String → Prop)
    (first others : List ColumnRef) (new : declared name)
    (owned : Owned table declared (first ++ others)) :
    Owned table declared (first ++ qualified table name :: others) := by
  intro column member
  rcases List.mem_append.mp member with before | after
  · exact owned column (List.mem_append_left others before)
  · rcases List.mem_cons.mp after with rfl | later
    · exact ⟨name, rfl, new⟩
    · exact owned column (List.mem_append_right first later)

theorem owned_cons (table name : String) (declared : String → Prop) (columns : List ColumnRef)
    (first : declared name) (others : Owned table declared columns) :
    Owned table declared (qualified table name :: columns) :=
  owned_insert table name declared [] columns first others

theorem scalar_rule_names (column : ColumnRef) (wildcards : Bool) (value : Value)
    (predicate : Predicate) (rule : ScalarRule column wildcards value predicate) :
    columnOf predicate = column ∧ subqueriesOf predicate = [] := by
  cases rule with
  | null => exact ⟨rfl, rfl⟩
  | like _ _ _ => exact ⟨rfl, rfl⟩
  | equal _ _ _ _ => exact ⟨rfl, rfl⟩
  | list _ _ _ => exact ⟨rfl, rfl⟩

theorem relation_predicate_column (entity related : EntityRelations) (column : String)
    (relation : Relation) (nested : List Predicate)
    (found : entity.relation? column = some relation) :
    ∃ name, columnOf (relationPredicate entity related relation nested) =
      qualified entity.table name ∧ DeclaredName entity none name := by
  unfold relationPredicate
  cases kind : relation.kind with
  | toOne => exact ⟨relation.foreignKey, rfl, .inr (.inr (.inl ⟨column, relation, found, kind, rfl⟩))⟩
  | toMany => exact ⟨entity.primaryKey, rfl, .inr (.inl rfl)⟩
  | manyToMany junction => exact ⟨entity.primaryKey, rfl, .inr (.inl rfl)⟩

theorem relation_predicate_scope (entity related : EntityRelations) (relation : Relation)
    (nested : List Predicate)
    (owned : Owned related.table (DeclaredName related none) (nested.map columnOf)) :
    ∃ tree, subqueriesOf (relationPredicate entity related relation nested) = [tree] ∧
      RelationScope related relation (subqueriesOfAll nested) tree := by
  unfold relationPredicate
  cases kind : relation.kind with
  | toOne =>
      exact ⟨_, rfl, .toOne _ _ kind (owned_cons _ _ _ _ (.inr (.inl rfl)) owned)⟩
  | toMany =>
      have reached : Owned related.table (DeclaredName related (some relation.foreignKey))
          (nested.map columnOf) :=
        owned_weaken _ _ _ _ (declared_weaken related (some relation.foreignKey)) owned
      exact ⟨_, rfl, .toMany _ _ kind (owned_cons _ _ _ _ (.inr (.inr (.inr rfl))) reached)⟩
  | manyToMany junction =>
      refine ⟨_, rfl, .manyToMany junction _ _ _ _ kind ?_
        (owned_cons _ _ _ _ (.inr (.inl rfl)) owned)⟩
      apply owned_cons _ _ _ _ (.inl rfl)
      apply owned_cons _ _ _ _ (.inr rfl)
      intro column member
      cases member

theorem yields_isolated (compiler : Compiler) (entity : EntityRelations) (entries : Filter)
    (scalars nested : List Predicate) (yields : Yields compiler entity entries scalars nested) :
    Owned entity.table (DeclaredName entity none) ((scalars ++ nested).map columnOf) ∧
      subqueriesOfAll scalars = [] ∧
      Mirrors compiler.registry compiler.naming entity entries (subqueriesOfAll nested) := by
  induction yields with
  | nil entity =>
      refine ⟨?_, rfl, .nil entity⟩
      intro column member
      cases member
  | plain entity column value rest predicate scalars nested plain declared built _ ih =>
      obtain ⟨owned, none, mirrors⟩ := ih
      obtain ⟨own, noSubquery⟩ := scalar_rule_names _ _ _ _ ((scalar_rule_iff _ _ _ _ _).mp built)
      refine ⟨?_, ?_, .plain entity column value rest _ plain mirrors⟩
      · rw [List.cons_append, List.map_cons, own]
        exact owned_cons _ _ _ _ (.inl declared) owned
      · rw [subqueriesOfAll, noSubquery, none]
        rfl
  | nested entity related column relation inner rest innerScalars innerNested scalars nested found
      reflected _ _ ihBelow ihRest =>
      obtain ⟨innerOwned, innerNone, innerMirrors⟩ := ihBelow
      obtain ⟨owned, none, mirrors⟩ := ihRest
      obtain ⟨name, own, declared⟩ := relation_predicate_column entity related column relation
        (innerScalars ++ innerNested) found
      obtain ⟨tree, single, scope⟩ := relation_predicate_scope entity related relation
        (innerScalars ++ innerNested) innerOwned
      rw [subqueries_append, innerNone, List.nil_append] at scope
      refine ⟨?_, none, ?_⟩
      · rw [List.map_append] at owned
        rw [List.map_append, List.map_cons, own]
        exact owned_insert _ _ _ _ _ declared owned
      · rw [subqueriesOfAll, single]
        exact .nested entity related column relation inner rest tree _ _ found reflected scope
          innerMirrors mirrors

theorem select_all_table (compiled : CompiledFilter) (naming : NamingStrategy)
    (root : EntitySchema) : (compiled.selectAll naming root).table = naming.table root := by
  unfold CompiledFilter.selectAll CompiledFilter.apply
  split
  · rfl
  · rfl

theorem compiled_names_stay_in_scope (compiler : Compiler) (root : EntitySchema)
    (filters : List Filter) (session : Session) (compiled : CompiledFilter)
    (coherent : Coherent compiler.registry [root]) (empty : session.cache.entries = [])
    (succeeds : (compiler.compile root filters).outcome session = .ok compiled) :
    ∃ entity, reflect compiler.registry compiler.naming root = .ok entity ∧
      Owned (compiler.naming.table root) (DeclaredName entity none)
        (compiled.predicates.map columnOf) ∧
      Mirrors compiler.registry compiler.naming entity filters.flatten
        (subqueriesOfAll compiled.predicates) ∧
      (compiled.selectAll compiler.naming root).table = compiler.naming.table root := by
  rw [compile_ok_iff_direct compiler root filters session _ coherent empty] at succeeds
  obtain ⟨entity, scalars, nested, reflected, yields, rfl⟩ :=
    (direct_ok_iff compiler root filters compiled).mp succeeds
  obtain ⟨owned, none, mirrors⟩ := yields_isolated compiler entity _ scalars nested yields
  have sameTable := (reflect_parts _ _ root entity reflected).1
  have deeper : subqueriesOfAll (scalars ++ nested) = subqueriesOfAll nested := by
    rw [subqueries_append, none, List.nil_append]
  exact ⟨entity, reflected, sameTable ▸ owned, deeper ▸ mirrors,
    select_all_table _ compiler.naming root⟩

theorem people_names_stay_in_scope :
    Coherent peopleRegistry [personSchema] ∧ ({} : Session).cache.entries = [] ∧
      (peopleCompiler.compile personSchema peopleFilters).outcome {} = .ok ⟨peoplePredicates⟩ ∧
      ∃ entity, reflect peopleRegistry verbatim personSchema = .ok entity ∧
        Owned "people" (DeclaredName entity none) (peoplePredicates.map columnOf) ∧
        Mirrors peopleRegistry verbatim entity peopleFilters.flatten
          (subqueriesOfAll peoplePredicates) ∧
        ((CompiledFilter.mk peoplePredicates).selectAll verbatim personSchema).table = "people" :=
  ⟨people_coherent, rfl, people_compiled,
    compiled_names_stay_in_scope peopleCompiler personSchema peopleFilters {} ⟨peoplePredicates⟩
      people_coherent rfl people_compiled⟩

end NestedFilter
