import NestedFilter.Proofs.Agreement
import NestedFilter.Proofs.Collision

/-!
Entities whose fields are declared in another order. Where no key can name two fields of an entity
and at most one field is flagged as its primary key, all that compilation asks of the entity has the
same answer, so filters compile to the same predicates.
-/

set_option autoImplicit false

namespace NestedFilter

open Text (snakeCase)
open Sql (Predicate)

structure Reordered (a b : EntitySchema) : Prop where
  name : a.name = b.name
  tableName : a.tableName = b.tableName
  fields : a.fields.Perm b.fields

structure DistinctFields (schema : EntitySchema) : Prop where
  names : (schema.fields.map fun field => snakeCase field.name).Nodup
  flagged : (schema.fields.filter (·.isPrimaryKey)).length ≤ 1

theorem reordered_symm (a b : EntitySchema) (reordered : Reordered a b) : Reordered b a :=
  ⟨reordered.name.symm, reordered.tableName.symm, reordered.fields.symm⟩

theorem find_reordered {α : Type} (p : α → Bool) (first second : List α)
    (same : first.Perm second)
    (unique : ∀ a ∈ first, ∀ b ∈ first, p a = true → p b = true → a = b) :
    first.find? p = second.find? p := by
  cases search : first.find? p with
  | none =>
      have none := List.find?_eq_none.mp search
      exact (List.find?_eq_none.mpr fun b member => none b (same.mem_iff.mpr member)).symm
  | some a =>
      have inFirst := List.mem_of_find?_eq_some search
      have holds := List.find?_some search
      cases again : second.find? p with
      | none => exact absurd holds (List.find?_eq_none.mp again a (same.mem_iff.mp inFirst))
      | some b =>
          have inSecond := same.mem_iff.mpr (List.mem_of_find?_eq_some again)
          rw [unique a inFirst b inSecond holds (List.find?_some again)]

section

variable (a b : EntitySchema) (reordered : Reordered a b) (distinct : DistinctFields a)

theorem distinct_field (first second : FieldDef) (inFirst : first ∈ a.fields)
    (inSecond : second ∈ a.fields) (distinct : DistinctFields a)
    (same : snakeCase first.name = snakeCase second.name) : first = second :=
  List.inj_on_of_nodup_map distinct.names inFirst inSecond same

theorem distinct_flag (first second : FieldDef) (inFirst : first ∈ a.fields)
    (inSecond : second ∈ a.fields) (distinct : DistinctFields a)
    (firstFlagged : first.isPrimaryKey = true) (secondFlagged : second.isPrimaryKey = true) :
    first = second := by
  have firstKept := List.mem_filter.mpr ⟨inFirst, firstFlagged⟩
  have secondKept := List.mem_filter.mpr ⟨inSecond, secondFlagged⟩
  have few := distinct.flagged
  generalize a.fields.filter (·.isPrimaryKey) = flagged at firstKept secondKept few
  match flagged, few with
  | [], _ => cases firstKept
  | [only], _ => rw [List.mem_singleton.mp firstKept, List.mem_singleton.mp secondKept]

include reordered

theorem distinct_reordered (distinct : DistinctFields a) : DistinctFields b := by
  constructor
  · exact (reordered.fields.map _).nodup_iff.mp distinct.names
  · rw [← (reordered.fields.filter _).length_eq]
    exact distinct.flagged

theorem table_reordered (naming : NamingStrategy) : naming.table a = naming.table b :=
  table_alike naming a b reordered.name reordered.tableName

theorem column_reordered (naming : NamingStrategy) (field : FieldDef) :
    naming.column a field = naming.column b field :=
  column_alike naming a b (table_reordered a b reordered naming) field field rfl rfl

include distinct

theorem key_field_reordered (key : String) :
    NamingStrategy.keyField? a key = NamingStrategy.keyField? b key := by
  have form : ∀ field : FieldDef,
      (field.name == key || snakeCase field.name == snakeCase key) = true →
      snakeCase field.name = snakeCase key := by
    intro field named
    rw [names_key_form] at named
    exact eq_of_beq named
  apply find_reordered _ _ _ reordered.fields
  intro first inFirst second inSecond firstNamed secondNamed
  exact distinct_field a first second inFirst inSecond distinct
    ((form first firstNamed).trans (form second secondNamed).symm)

theorem key_column_reordered (naming : NamingStrategy) (key : String) :
    naming.keyColumn a key = naming.keyColumn b key := by
  rw [NamingStrategy.keyColumn, key_field_reordered a b reordered distinct key,
    table_reordered a b reordered, NamingStrategy.keyColumn]
  cases NamingStrategy.keyField? b key with
  | none => rfl
  | some field => exact column_reordered a b reordered naming field

theorem primary_key_field_reordered : a.primaryKeyField? = b.primaryKeyField? := by
  have flagged : a.fields.find? (·.isPrimaryKey) = b.fields.find? (·.isPrimaryKey) := by
    apply find_reordered _ _ _ reordered.fields
    intro first inFirst second inSecond
    exact distinct_flag a first second inFirst inSecond distinct
  have named : a.getField? "id" = b.getField? "id" := by
    apply find_reordered _ _ _ reordered.fields
    intro first inFirst second inSecond firstNamed secondNamed
    have same : first.name = second.name :=
      (eq_of_beq firstNamed).trans (eq_of_beq secondNamed).symm
    exact distinct_field a first second inFirst inSecond distinct (congrArg snakeCase same)
  rw [EntitySchema.primaryKeyField?, flagged, named, EntitySchema.primaryKeyField?]

theorem primary_key_reordered (naming : NamingStrategy) :
    naming.primaryKey a = naming.primaryKey b := by
  rw [NamingStrategy.primaryKey, primary_key_field_reordered a b reordered distinct,
    table_reordered a b reordered, NamingStrategy.primaryKey]
  cases b.primaryKeyField? with
  | none => rfl
  | some field => exact column_reordered a b reordered naming field

end

structure SameAnswers (a b : EntityRelations) : Prop where
  table : a.table = b.table
  primaryKey : a.primaryKey = b.primaryKey
  columns : ∀ name, a.hasColumn name = b.hasColumn name
  relations : ∀ name, a.relation? name = b.relation? name

section

variable (registry other : Registry) (naming : NamingStrategy)
  (resolved : ∀ ref, Reordered (registry.resolve ref) (other.resolve ref))
  (a b : EntitySchema) (reordered : Reordered a b) (distinct : DistinctFields a)
  (related : ∀ field ∈ a.fields, ∀ ref, field.fieldType.entityRef? = some ref →
    DistinctFields (registry.resolve ref))

include reordered

theorem columns_reordered (entity found : EntityRelations)
    (reflected : reflect registry naming a = .ok entity)
    (reflectedOther : reflect other naming b = .ok found) (name : String) :
    entity.hasColumn name = found.hasColumn name := by
  rw [Bool.eq_iff_iff, has_column_iff registry naming a entity reflected,
    has_column_iff other naming b found reflectedOther]
  simp only [reordered.fields.mem_iff, column_reordered a b reordered]

include resolved distinct related

theorem classify_reordered (field : FieldDef) (declared : field ∈ a.fields) :
    classify registry naming a field = classify other naming b field := by
  unfold classify
  rw [reordered.name]
  cases field.fieldType.shape? with
  | none => rfl
  | some shape =>
      cases refers : field.fieldType.entityRef? with
      | none => rfl
      | some ref =>
          have keyed : ∀ key, keyRelation registry naming a ref key shape =
              keyRelation other naming b ref key shape := by
            intro key
            cases shape with
            | single =>
                rw [keyRelation, key_column_reordered a b reordered distinct naming key,
                  keyRelation]
            | collection =>
                rw [keyRelation, key_column_reordered _ _ (resolved ref)
                  (related field declared ref refers) naming key, keyRelation]
          have linked : ∀ table, junctionRelation naming a ref table =
              junctionRelation naming b ref table := by
            intro table
            rw [junctionRelation, reordered.name, junctionRelation]
          simp only [keyed, linked]

theorem takes_reordered (column : String) (field : FieldDef) (declared : field ∈ a.fields)
    (takes : Takes other naming b column field) : Takes registry naming a column field := by
  unfold Takes at takes ⊢
  rwa [column_reordered a b reordered, classify_reordered registry other naming resolved a b
    reordered distinct related field declared]

theorem collides_reordered (column : String) (collides : Collides other naming b column) :
    Collides registry naming a column := by
  obtain ⟨first, second, both, firstTakes, secondTakes, classified⟩ := collides
  have inside : [first, second].Subperm a.fields := reordered.fields.subperm_left.mpr both
  have inFirst : first ∈ a.fields := inside.subset (by simp)
  have inSecond : second ∈ a.fields := inside.subset (by simp)
  have takes := takes_reordered registry other naming resolved a b reordered distinct related column
  refine ⟨first, second, inside, takes first inFirst firstTakes,
    takes second inSecond secondTakes, ?_⟩
  rwa [classify_reordered registry other naming resolved a b reordered distinct related first
    inFirst]

theorem relations_reordered (entity found : EntityRelations)
    (reflected : reflect registry naming a = .ok entity)
    (reflectedOther : reflect other naming b = .ok found) (name : String) :
    entity.relation? name = found.relation? name := by
  apply Option.ext
  intro relation
  rw [relation_found_iff registry naming a entity reflected,
    relation_found_iff other naming b found reflectedOther]
  have each : ∀ field ∈ a.fields,
      classify registry naming a field = classify other naming b field :=
    classify_reordered registry other naming resolved a b reordered distinct related
  constructor
  · intro placed
    obtain ⟨field, declared, plain, classified, named⟩ := placed
    rw [each field declared] at classified
    rw [column_reordered a b reordered] at named
    exact ⟨field, reordered.fields.mem_iff.mp declared, plain, classified, named⟩
  · intro placed
    obtain ⟨field, listed, plain, classified, named⟩ := placed
    have declared := reordered.fields.mem_iff.mpr listed
    rw [← each field declared] at classified
    rw [← column_reordered a b reordered] at named
    exact ⟨field, declared, plain, classified, named⟩

theorem reflect_reordered (entity : EntityRelations)
    (reflected : reflect registry naming a = .ok entity) :
    ∃ found, reflect other naming b = .ok found ∧ SameAnswers entity found := by
  have free := (reflects_iff_no_collision registry naming a).mp ⟨entity, reflected⟩
  obtain ⟨found, reflectedOther⟩ := (reflects_iff_no_collision other naming b).mpr
    fun column collides => free column
      (collides_reordered registry other naming resolved a b reordered distinct related column
        collides)
  obtain ⟨table, primaryKey, _⟩ := reflect_parts registry naming a entity reflected
  obtain ⟨otherTable, otherPrimaryKey, _⟩ := reflect_parts other naming b found reflectedOther
  refine ⟨found, reflectedOther, ?_, ?_, ?_, ?_⟩
  · rw [table, otherTable, table_reordered a b reordered]
  · rw [primaryKey, otherPrimaryKey, primary_key_reordered a b reordered distinct]
  · exact columns_reordered registry other naming a b reordered entity found reflected
      reflectedOther
  · exact relations_reordered registry other naming resolved a b reordered distinct related entity
      found reflected reflectedOther

end

theorem relation_predicate_reordered (relation : Relation) (nested : List Predicate)
    (a b c d : EntityRelations) (owners : SameAnswers a b) (targets : SameAnswers c d) :
    relationPredicate a c relation nested = relationPredicate b d relation nested := by
  unfold relationPredicate
  rw [owners.table, owners.primaryKey, targets.table, targets.primaryKey]

section

variable (compiler : Compiler) (other : Registry) (root : EntitySchema)
  (resolved : ∀ ref, Reordered (compiler.registry.resolve ref) (other.resolve ref))
  (distinct : ∀ schema, Reaches compiler.registry [root] schema → DistinctFields schema)

include resolved distinct

theorem reached_reflects_reordered (a b : EntitySchema) (reordered : Reordered a b)
    (reached : Reaches compiler.registry [root] a) (entity : EntityRelations)
    (reflected : reflect compiler.registry compiler.naming a = .ok entity) :
    ∃ found, reflect other compiler.naming b = .ok found ∧ SameAnswers entity found := by
  apply reflect_reordered compiler.registry other compiler.naming resolved a b reordered
    (distinct a reached) ?_ entity reflected
  intro field declared ref refers
  exact distinct _ (.reference a field ref reached declared refers)

theorem yields_reordered (schema : EntitySchema) (entity found : EntityRelations)
    (entries : Filter) (scalars nested : List Predicate)
    (reached : Reaches compiler.registry [root] schema)
    (reflected : reflect compiler.registry compiler.naming schema = .ok entity)
    (same : SameAnswers entity found)
    (yields : Yields compiler entity entries scalars nested) :
    Yields (compiler.withRegistry other) found entries scalars nested := by
  induction yields generalizing schema found with
  | nil entity => exact .nil found
  | plain entity column value rest predicate scalars nested plain declared built _ ih =>
      rw [same.columns] at declared
      rw [same.table] at built
      exact .plain found column value rest predicate scalars nested plain declared built
        (ih schema found reached reflected same)
  | nested entity target column relation inner rest innerScalars innerNested scalars nested related
      targetReflected _ _ ihBelow ihRest =>
      have below := related_reached compiler.registry compiler.naming [root] schema entity column
        relation reached reflected related
      obtain ⟨counterpart, otherReflected, targets⟩ := reached_reflects_reordered compiler other
        root resolved distinct _ _ (resolved relation.related) below target targetReflected
      rw [relation_predicate_reordered relation _ entity found target counterpart same targets]
      rw [same.relations] at related
      exact .nested found counterpart column relation inner rest innerScalars innerNested scalars
        nested related otherReflected (ihBelow _ counterpart below targetReflected targets)
        (ihRest schema found reached reflected same)

theorem direct_reordered (otherRoot : EntitySchema) (reordered : Reordered root otherRoot)
    (filters : List Filter) (compiled : CompiledFilter)
    (built : compiler.direct root filters = .ok compiled) :
    (compiler.withRegistry other).direct otherRoot filters = .ok compiled := by
  obtain ⟨entity, scalars, nested, reflected, yields, rfl⟩ := (direct_ok_iff _ _ _ _).mp built
  have reached : Reaches compiler.registry [root] root :=
    .root root (List.mem_singleton.mpr rfl)
  obtain ⟨found, otherReflected, same⟩ := reached_reflects_reordered compiler other root resolved
    distinct root otherRoot reordered reached entity reflected
  exact (direct_ok_iff _ _ _ _).mpr ⟨found, scalars, nested, otherReflected,
    yields_reordered compiler other root resolved distinct root entity found _ scalars nested
      reached reflected same yields, rfl⟩

end

def Registry.reorder (registry : Registry) (reorder : EntitySchema → EntitySchema) : Registry :=
  fun key => reorder (registry key)

section

variable (registry : Registry) (root : EntitySchema) (reorder : EntitySchema → EntitySchema)
  (permutes : ∀ schema, Reordered schema (reorder schema))

include permutes

theorem reaches_reordered (schema : EntitySchema)
    (reached : Reaches (registry.reorder reorder) [reorder root] schema) :
    ∃ original, Reaches registry [root] original ∧ reorder original = schema := by
  induction reached with
  | root schema member =>
      obtain rfl := List.mem_singleton.mp member
      exact ⟨root, .root root (List.mem_singleton.mpr rfl), rfl⟩
  | reference schema field ref _ declared refers ih =>
      obtain ⟨original, reached, rfl⟩ := ih
      have listed := (permutes original).fields.mem_iff.mpr declared
      exact ⟨_, .reference original field ref reached listed refers, rfl⟩

theorem coherent_reordered (coherent : Coherent registry [root]) :
    Coherent (registry.reorder reorder) [reorder root] := by
  intro a b reachedA reachedB same
  obtain ⟨first, firstReached, rfl⟩ := reaches_reordered registry root reorder permutes a reachedA
  obtain ⟨second, secondReached, rfl⟩ := reaches_reordered registry root reorder permutes b reachedB
  have names : first.name = second.name :=
    ((permutes first).name.trans same).trans (permutes second).name.symm
  rw [coherent first second firstReached secondReached names]

end

theorem field_order_irrelevant (compiler : Compiler) (root : EntitySchema) (filters : List Filter)
    (reorder : EntitySchema → EntitySchema) (session other : Session)
    (permutes : ∀ schema, Reordered schema (reorder schema))
    (distinct : ∀ schema, Reaches compiler.registry [root] schema → DistinctFields schema)
    (coherent : Coherent compiler.registry [root]) (empty : session.cache.entries = [])
    (otherEmpty : other.cache.entries = []) (compiled : CompiledFilter) :
    (compiler.compile root filters).outcome session = .ok compiled ↔
      ((compiler.withRegistry (compiler.registry.reorder reorder)).compile (reorder root)
        filters).outcome other = .ok compiled := by
  let reordered := compiler.withRegistry (compiler.registry.reorder reorder)
  have coherentOther : Coherent reordered.registry [reorder root] :=
    coherent_reordered compiler.registry root reorder permutes coherent
  have distinctOther : ∀ schema, Reaches reordered.registry [reorder root] schema →
      DistinctFields schema := by
    intro schema reached
    obtain ⟨original, found, rfl⟩ :=
      reaches_reordered compiler.registry root reorder permutes schema reached
    exact distinct_reordered _ _ (permutes original) (distinct original found)
  rw [compile_ok_iff_direct compiler root filters session _ coherent empty,
    compile_ok_iff_direct reordered (reorder root) filters other _ coherentOther otherEmpty]
  constructor
  · exact direct_reordered compiler reordered.registry root (fun ref => permutes _) distinct
      (reorder root) (permutes root) filters compiled
  · exact direct_reordered reordered compiler.registry (reorder root)
      (fun ref => reordered_symm _ _ (permutes _)) distinctOther root
      (reordered_symm _ _ (permutes root)) filters compiled

def reversed (schema : EntitySchema) : EntitySchema :=
  { schema with fields := schema.fields.reverse }

theorem reversed_reordered (schema : EntitySchema) : Reordered schema (reversed schema) :=
  ⟨rfl, rfl, (List.reverse_perm schema.fields).symm⟩

theorem people_fields_distinct (schema : EntitySchema)
    (reached : Reaches peopleRegistry [personSchema] schema) : DistinctFields schema := by
  have closed : ClosedList peopleRegistry [personSchema] [personSchema, tagSchema] :=
    ⟨by decide, by decide⟩
  have listed := reaches_listed peopleRegistry [personSchema] _ closed schema reached
  simp only [List.mem_cons, List.not_mem_nil, or_false] at listed
  rcases listed with rfl | rfl
  · exact ⟨by decide, by decide⟩
  · exact ⟨by decide, by decide⟩

theorem reversed_people_compile_alike :
    (∀ schema, Reordered schema (reversed schema)) ∧
      (∀ schema, Reaches peopleRegistry [personSchema] schema → DistinctFields schema) ∧
      Coherent peopleRegistry [personSchema] ∧ ({} : Session).cache.entries = [] ∧
      ((peopleCompiler.withRegistry (peopleRegistry.reorder reversed)).compile
        (reversed personSchema) peopleFilters).outcome {} = .ok ⟨peoplePredicates⟩ :=
  ⟨reversed_reordered, people_fields_distinct, people_coherent, rfl,
    (field_order_irrelevant peopleCompiler personSchema peopleFilters reversed {} {}
      reversed_reordered people_fields_distinct people_coherent rfl rfl ⟨peoplePredicates⟩).mp
      people_compiled⟩

end NestedFilter
