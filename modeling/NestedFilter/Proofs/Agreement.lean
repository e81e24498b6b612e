import Mathlib.Data.List.Forall2
import NestedFilter.Proofs.Visits

/-!
Registries that agree on the entities that a filter visits: it compiles alike under them. Their
reflections may differ, for a to-many key is looked up in a schema that no nested filter reaches.
-/

set_option autoImplicit false

namespace NestedFilter

open Json (Value)
open Sql (Predicate)

inductive Alike {ε α β : Type} (related : α → β → Prop) : Except ε α → Except ε β → Prop where
  | error (error : ε) : Alike related (.error error) (.error error)
  | ok (a : α) (b : β) (both : related a b) : Alike related (.ok a) (.ok b)

section

variable {ε α β γ : Type}

theorem alike_cases (related : α → β → Prop) (x : Except ε α) (y : Except ε β)
    (alike : Alike related x y) :
    (∃ error, x = .error error ∧ y = .error error) ∨
      ∃ a b, x = .ok a ∧ y = .ok b ∧ related a b := by
  cases alike with
  | error error => exact .inl ⟨error, rfl, rfl⟩
  | ok a b both => exact .inr ⟨a, b, rfl, rfl, both⟩

theorem alike_bind (related : α → β → Prop) (x : Except ε α) (y : Except ε β)
    (f : α → Except ε γ) (g : β → Except ε γ) (alike : Alike related x y)
    (next : ∀ a b, x = .ok a → related a b → f a = g b) : x >>= f = y >>= g := by
  cases alike with
  | error error => rfl
  | ok a b both => exact next a b rfl both

theorem alike_map_error {δ : Type} (related : α → β → Prop) (x : Except ε α) (y : Except ε β)
    (f : ε → δ) (alike : Alike related x y) : Alike related (x.mapError f) (y.mapError f) := by
  cases alike with
  | error error => exact .error (f error)
  | ok a b both => exact .ok a b both

theorem alike_map_all (related : α → β → Prop) (f : γ → Except ε α) (g : γ → Except ε β)
    (each : ∀ c, Alike related (f c) (g c)) (items : List γ) :
    Alike (List.Forall₂ related) (items.mapM f) (items.mapM g) := by
  induction items with
  | nil => exact .ok [] [] .nil
  | cons c rest ih =>
      rw [List.mapM_cons, List.mapM_cons]
      rcases alike_cases _ _ _ (each c) with ⟨error, left, right⟩ | ⟨a, b, left, right, first⟩
      · rw [left, right]
        exact .error error
      · rw [left, right]
        rcases alike_cases _ _ _ ih with ⟨error, left, right⟩ | ⟨as, bs, left, right, others⟩
        · rw [left, right]
          exact .error error
        · rw [left, right]
          exact .ok (a :: as) (b :: bs) (.cons first others)

end

section

variable {α β : Type} (related : α → β → Prop) (first : List α) (second : List β)
  (pairs : List.Forall₂ related first second)

include pairs

theorem find_related (p : α → Bool) (q : β → Bool)
    (same : ∀ a b, related a b → p a = q b) :
    Option.Rel related (first.find? p) (second.find? q) := by
  induction pairs with
  | nil => exact .none
  | cons pair _ ih =>
      rw [List.find?_cons, List.find?_cons, same _ _ pair]
      split
      · exact .some pair
      · exact ih

theorem filter_map_related {γ : Type} (f : α → Option γ) (g : β → Option γ)
    (same : ∀ a b, related a b → f a = g b) : first.filterMap f = second.filterMap g := by
  induction pairs with
  | nil => rfl
  | cons pair _ ih => rw [List.filterMap_cons, List.filterMap_cons, same _ _ pair, ih]

end

section

variable (registry other : Registry) (naming : NamingStrategy)

structure RelationMatches (a b : Relation) : Prop where
  related : a.related = b.related
  resolved : registry.resolve a.related = other.resolve a.related → a = b

def NamedMatch (a b : String × Relation) : Prop :=
  a.1 = b.1 ∧ RelationMatches registry other a.2 b.2

structure EntityMatches (a b : EntityRelations) : Prop where
  table : a.table = b.table
  primaryKey : a.primaryKey = b.primaryKey
  columns : a.columns = b.columns
  relations : List.Forall₂ (NamedMatch registry other) a.relations b.relations

theorem key_relation_matches (owner : EntitySchema) (related : EntityRef) (key : String)
    (shape : FieldShape) :
    RelationMatches registry other (keyRelation registry naming owner related key shape)
      (keyRelation other naming owner related key shape) := by
  cases shape with
  | single => exact ⟨rfl, fun _ => rfl⟩
  | collection =>
      refine ⟨rfl, fun same => ?_⟩
      simp only [keyRelation] at same ⊢
      rw [same]

theorem classify_matches (owner : EntitySchema) (field : FieldDef) :
    Alike (RelationMatches registry other) (classify registry naming owner field)
      (classify other naming owner field) := by
  unfold classify
  cases field.fieldType.shape? with
  | none => exact .error _
  | some shape =>
      cases field.fieldType.entityRef? with
      | none => exact .error _
      | some related =>
          cases field.annotations.foreignKey with
          | some key =>
              by_cases blank : Text.isBlank key = true
              · simp only [blank, if_true]
                exact .error _
              · simp only [blank]
                exact .ok _ _ (key_relation_matches registry other naming owner related key shape)
          | none =>
              cases field.annotations.manyToMany with
              | none => exact .error _
              | some table =>
                  by_cases blank : Text.isBlank table = true
                  · simp only [blank, if_true]
                    exact .error _
                  · simp only [blank]
                    exact .ok _ _ ⟨rfl, fun _ => rfl⟩

theorem declared_relations_match (schema : EntitySchema) :
    List.Forall₂ (NamedMatch registry other) (declaredRelations registry naming schema)
      (declaredRelations other naming schema) := by
  unfold declaredRelations
  induction schema.fields with
  | nil => exact .nil
  | cons field rest ih =>
      rw [List.filterMap_cons, List.filterMap_cons]
      unfold fieldRole at ih ⊢
      by_cases plain : field.isPlain = true
      · simp only [plain, if_true]
        exact ih
      · rcases alike_cases _ _ _ (classify_matches registry other naming schema field) with
          ⟨error, left, right⟩ | ⟨a, b, left, right, both⟩
        · simp only [plain, left, right]
          exact ih
        · simp only [plain, left, right]
          exact .cons ⟨rfl, both⟩ ih

theorem matched_names (left right : List (String × Relation))
    (matched : List.Forall₂ (NamedMatch registry other) left right) :
    left.map (·.1) = right.map (·.1) := by
  induction matched with
  | nil => rfl
  | cons first _ ih => rw [List.map_cons, List.map_cons, first.1, ih]

theorem reflect_matches (schema : EntitySchema) :
    Alike (EntityMatches registry other) (reflect registry naming schema)
      (reflect other naming schema) := by
  have relations := declared_relations_match registry other naming schema
  have names := matched_names registry other _ _ relations
  have same : collision? schema.name (declaredRelations registry naming schema)
      (declaredColumns naming schema) =
        collision? schema.name (declaredRelations other naming schema)
          (declaredColumns naming schema) := by
    rw [collision?, names, collision?]
  simp only [reflect, same]
  cases collision? schema.name (declaredRelations other naming schema)
      (declaredColumns naming schema) with
  | some collision => exact .error _
  | none => exact .ok _ _ ⟨rfl, rfl, rfl, relations⟩

theorem reflected_counterpart (schema : EntitySchema) (b : EntityRelations)
    (reflected : reflect other naming schema = .ok b) :
    ∃ a, reflect registry naming schema = .ok a ∧ EntityMatches registry other a b := by
  rcases alike_cases _ _ _ (reflect_matches registry other naming schema) with
    ⟨error, _, failed⟩ | ⟨a, _, same, again, both⟩
  · cases reflected.symm.trans failed
  · cases reflected.symm.trans again
    exact ⟨a, same, both⟩

theorem relation_matches (a b : EntityRelations) (both : EntityMatches registry other a b)
    (column : String) :
    (a.relation? column = none ∧ b.relation? column = none) ∨
      ∃ first second, a.relation? column = some first ∧ b.relation? column = some second ∧
        RelationMatches registry other first second := by
  have found := find_related _ _ _ both.relations (·.1 == column) (·.1 == column)
    fun first second matched => by rw [matched.1]
  unfold EntityRelations.relation?
  generalize a.relations.find? _ = left, b.relations.find? _ = right at found ⊢
  cases found with
  | none => exact .inl ⟨rfl, rfl⟩
  | some matched => exact .inr ⟨_, _, rfl, rfl, matched.2⟩

theorem missing_relation_matches (schema : EntitySchema) (column : String) :
    missingRelation registry naming schema column = missingRelation other naming schema column := by
  unfold missingRelation
  cases schema.fields.find? fun field =>
      field.fieldType.shape?.isSome && naming.column schema field == column with
  | none => rfl
  | some field =>
      rcases alike_cases _ _ _ (classify_matches registry other naming schema field) with
        ⟨error, left, right⟩ | ⟨a, b, left, right, _⟩ <;>
        simp only [Option.map_some, left, right]

theorem place_plain_matches (schema : EntitySchema) (a b : EntityRelations)
    (both : EntityMatches registry other a b) (column : String) (value : Value)
    (plain : isNested value = false) :
    placeEntry registry naming schema a column value =
      placeEntry other naming schema b column value := by
  have columns : a.hasColumn column = b.hasColumn column := by
    rw [EntityRelations.hasColumn, both.columns, EntityRelations.hasColumn]
  have related : (a.relation? column).isSome = (b.relation? column).isSome := by
    rcases relation_matches registry other a b both column with
      ⟨left, right⟩ | ⟨first, second, left, right, _⟩ <;> simp [left, right]
  cases value with
  | object inner => cases plain
  | _ => simp only [placeEntry, columns, related]

theorem place_object_matches (schema : EntitySchema) (a b : EntityRelations)
    (both : EntityMatches registry other a b) (column : String) (inner : Filter) :
    Alike (fun first second => first.scalar? = second.scalar?)
      (placeEntry registry naming schema a column (.object inner))
      (placeEntry other naming schema b column (.object inner)) := by
  unfold placeEntry
  rcases relation_matches registry other a b both column with
    ⟨left, right⟩ | ⟨first, second, left, right, _⟩
  · simp only [left, right, missing_relation_matches registry other naming schema column]
    exact .error _
  · simp only [left, right]
    exact .ok _ _ rfl

theorem place_entry_matches (schema : EntitySchema) (a b : EntityRelations)
    (both : EntityMatches registry other a b) (column : String) (value : Value) :
    Alike (fun first second => first.scalar? = second.scalar?)
      (placeEntry registry naming schema a column value)
      (placeEntry other naming schema b column value) := by
  cases plain : isNested value with
  | false =>
      rw [place_plain_matches registry other naming schema a b both column value plain]
      cases placeEntry other naming schema b column value with
      | error error => exact .error error
      | ok placed => exact .ok placed placed rfl
  | true =>
      cases value with
      | object inner =>
          exact place_object_matches registry other naming schema a b both column inner
      | _ => cases plain

end

def Compiler.withRegistry (compiler : Compiler) (registry : Registry) : Compiler :=
  { compiler with registry := registry }

section

variable (compiler : Compiler) (other : Registry)

theorem level_scalars_match (schema : EntitySchema) (a b : EntityRelations)
    (both : EntityMatches compiler.registry other a b) (entries : Filter) :
    compiler.levelScalars schema a entries =
      (compiler.withRegistry other).levelScalars schema b entries := by
  simp only [Compiler.levelScalars, Compiler.withRegistry, partition, bind_assoc, pure_bind]
  refine alike_bind (List.Forall₂ fun first second => first.scalar? = second.scalar?) _ _ _ _
    (alike_map_all _ _ _ ?_ entries) ?_
  · intro entry
    exact place_entry_matches compiler.registry other compiler.naming schema a b both entry.1
      entry.2
  · intro left right _ placed
    have scalars := filter_map_related _ left right placed _ _ fun _ _ same => same
    simp only [Partition.scalarPredicates, both.table, scalars]

theorem level_matches (schema : EntitySchema) (entries : Filter)
    (same : ∀ a b, reflect compiler.registry compiler.naming schema = .ok a →
      EntityMatches compiler.registry other a b →
      compiler.directNestedPredicates a entries =
        (compiler.withRegistry other).directNestedPredicates b entries) :
    compiler.directLevel schema entries =
      (compiler.withRegistry other).directLevel schema entries := by
  rw [direct_level_eq, direct_level_eq]
  have matched := reflect_matches compiler.registry other compiler.naming schema
  apply alike_bind _ _ _ _ _ (alike_map_error _ _ _ Refusal.collided matched)
  intro a b found both
  have reflected := (map_error_ok_iff _ _ _).mp found
  rw [level_scalars_match compiler other schema a b both, same a b reflected both]

theorem relation_predicate_matches (relation : Relation) (nested : List Predicate)
    (a b c d : EntityRelations) (owners : EntityMatches compiler.registry other a b)
    (targets : EntityMatches compiler.registry other c d) :
    relationPredicate a c relation nested = relationPredicate b d relation nested := by
  unfold relationPredicate
  rw [owners.table, owners.primaryKey, targets.table, targets.primaryKey]

def Compiler.reflected? (schema : EntitySchema) : Option EntityRelations :=
  (reflect compiler.registry compiler.naming schema).toOption

theorem reflected_found (schema : EntitySchema) (entity : EntityRelations)
    (reflected : reflect compiler.registry compiler.naming schema = .ok entity) :
    compiler.reflected? schema = some entity := by
  rw [Compiler.reflected?, reflected]
  rfl

section

variable (property : EntityRef → Prop)

def AllFollowed (entity : EntityRelations) (entries : Filter) : Prop :=
  ∀ ref, Follows compiler.registry compiler.reflected? entity entries ref → property ref

theorem followed_rest (entity : EntityRelations) (column : String) (value : Value) (rest : Filter)
    (followed : AllFollowed compiler property entity ((column, value) :: rest)) :
    AllFollowed compiler property entity rest := fun ref follows =>
  followed ref (follows_rest _ _ entity column rest ref value follows)

theorem followed_first (entity : EntityRelations) (column : String) (inner rest : Filter)
    (relation : Relation) (found : entity.relation? column = some relation)
    (followed : AllFollowed compiler property entity ((column, .object inner) :: rest)) :
    property relation.related ∧
      ∀ target, reflect compiler.registry compiler.naming
          (compiler.registry.resolve relation.related) = .ok target →
        AllFollowed compiler property target inner := by
  have first := List.mem_cons_self (a := (column, Value.object inner)) (l := rest)
  refine ⟨followed _ (.here entity _ inner column relation first found), ?_⟩
  intro target reflected ref follows
  have reached := reflected_found compiler _ target reflected
  exact followed ref
    (.deeper entity target _ inner column relation ref first found reached follows)

end

def Agree (registry other : Registry) (ref : EntityRef) : Prop :=
  registry.resolve ref = other.resolve ref

theorem nested_object_matches (a b : EntityRelations)
    (both : EntityMatches compiler.registry other a b) (column : String) (inner rest : Filter)
    (followed : AllFollowed compiler (Agree compiler.registry other) a
      ((column, .object inner) :: rest))
    (below : ∀ c d, EntityMatches compiler.registry other c d →
      AllFollowed compiler (Agree compiler.registry other) c inner →
      compiler.directNestedPredicates c inner =
        (compiler.withRegistry other).directNestedPredicates d inner) :
    compiler.directNestedPredicate a column (.object inner) =
      (compiler.withRegistry other).directNestedPredicate b column (.object inner) := by
  rcases relation_matches compiler.registry other a b both column with
    ⟨left, right⟩ | ⟨relation, _, left, right, matched⟩
  · simp only [Compiler.directNestedPredicate, Compiler.nestedPredicate, left, right, direct_pure]
  · obtain ⟨agree, deeper⟩ := followed_first compiler _ a column inner rest relation left followed
    obtain rfl := matched.resolved agree
    have level := level_matches compiler other (compiler.registry.resolve relation.related) inner
      (fun c d reflected targets => below c d targets (deeper c reflected))
    have resolved : (compiler.withRegistry other).registry.resolve relation.related =
        compiler.registry.resolve relation.related := agree.symm
    have target := reflect_matches compiler.registry other compiler.naming
      (compiler.registry.resolve relation.related)
    rw [direct_nested_object compiler a column inner relation left,
      direct_nested_object (compiler.withRegistry other) b column inner relation right]
    simp only [level, resolved]
    apply alike_bind _ _ _ _ _ (alike_map_error _ _ _ Refusal.collided target)
    intro c d _ targets
    simp only [relation_predicate_matches compiler other relation _ a b c d both targets]

theorem nested_predicates_match (entries : Filter) (a b : EntityRelations)
    (both : EntityMatches compiler.registry other a b)
    (followed : AllFollowed compiler (Agree compiler.registry other) a entries) :
    compiler.directNestedPredicates a entries =
      (compiler.withRegistry other).directNestedPredicates b entries := by
  induction entries using filter_induction generalizing a b with
  | nil => rfl
  | plain column value rest plain ih =>
      have others := ih a b both (followed_rest compiler _ a column value rest followed)
      rw [direct_nested_cons, direct_nested_cons, others,
        direct_nested_plain compiler a column value plain,
        direct_nested_plain (compiler.withRegistry other) b column value plain]
  | nested column inner rest ihInner ihRest =>
      have others := ihRest a b both (followed_rest compiler _ a column _ rest followed)
      have first := nested_object_matches compiler other a b both column inner rest followed ihInner
      rw [direct_nested_cons, direct_nested_cons, first, others]

theorem direct_matches (root : EntitySchema) (filters : List Filter)
    (agree : ∀ entity, reflect compiler.registry compiler.naming root = .ok entity →
      AllFollowed compiler (Agree compiler.registry other) entity filters.flatten) :
    compiler.direct root filters = (compiler.withRegistry other).direct root filters := by
  have level := level_matches compiler other root filters.flatten fun a b reflected both =>
    nested_predicates_match compiler other filters.flatten a b both (agree a reflected)
  rw [direct_eq, direct_eq, level]

theorem followed_asks (schemas : EntitySchema → Prop) (entries : Filter) (a b : EntityRelations)
    (both : EntityMatches compiler.registry other a b)
    (followed : AllFollowed compiler
      (fun ref => Agree compiler.registry other ref ∧ schemas (other.resolve ref)) a entries) :
    ((compiler.withRegistry other).nestedPredicates b entries).Asks other
      (fun naming schema => naming = compiler.naming ∧ schemas schema) := by
  induction entries using filter_induction generalizing a b with
  | nil => trivial
  | plain column value rest plain ih =>
      apply nested_plain_asks (compiler.withRegistry other) _ b column value rest plain
      exact ih a b both (followed_rest compiler _ a column value rest followed)
  | nested column inner rest ihInner ihRest =>
      apply nested_object_asks (compiler.withRegistry other) _ b column inner rest ?_
        (ihRest a b both (followed_rest compiler _ a column _ rest followed))
      intro counterpart right
      rcases relation_matches compiler.registry other a b both column with
        ⟨_, missing⟩ | ⟨relation, _, left, again, matched⟩
      · cases right.symm.trans missing
      · cases right.symm.trans again
        obtain ⟨⟨agree, visited⟩, deeper⟩ :=
          followed_first compiler _ a column inner rest relation left followed
        obtain rfl := matched.resolved agree
        refine ⟨⟨rfl, visited⟩, fun d reflectedOther => ?_⟩
        obtain ⟨c, reflected, targets⟩ := reflected_counterpart compiler.registry other
          compiler.naming (other.resolve relation.related) d reflectedOther
        rw [← agree] at reflected
        exact ihInner c d targets (deeper c reflected)

def Compiler.Visits (compiler : Compiler) (root : EntitySchema) (filters : List Filter)
    (schema : EntitySchema) : Prop :=
  Visited compiler.registry compiler.reflected? root filters.flatten schema

theorem visits_asked (root : EntitySchema) (filters : List Filter)
    (agree : ∀ entity, compiler.reflected? root = some entity →
      AllFollowed compiler (Agree compiler.registry other) entity filters.flatten) :
    ((compiler.withRegistry other).plan root filters).Asks other
      (fun naming schema => naming = compiler.naming ∧ compiler.Visits root filters schema) := by
  apply plan_asks (compiler.withRegistry other) _ root filters ⟨rfl, .inl rfl⟩
  intro b reflectedOther
  obtain ⟨a, reflected, both⟩ :=
    reflected_counterpart compiler.registry other compiler.naming root b reflectedOther
  have known := reflected_found compiler root a reflected
  apply followed_asks compiler other (compiler.Visits root filters) filters.flatten a b both
  intro ref follows
  have resolved := agree a known ref follows
  exact ⟨resolved, .inr ⟨a, known, ref, follows, resolved⟩⟩

theorem compile_visits (root : EntitySchema) (filters : List Filter) (session : Session)
    (empty : session.cache.entries = [])
    (agree : ∀ entity, compiler.reflected? root = some entity →
      AllFollowed compiler (Agree compiler.registry other) entity filters.flatten)
    (coherent : ∀ a b, compiler.Visits root filters a → compiler.Visits root filters b →
      a.name = b.name → a = b) :
    let left := ((compiler.withRegistry other).compile root filters).after session
    ((compiler.withRegistry other).compile root filters).outcome session =
      ((compiler.withRegistry other).direct root filters).mapError
        (Refusal.report (session.choices left.cache.reflections)) :=
  have unambiguous := unambiguous_of_names other compiler.naming (compiler.Visits root filters)
    coherent
  (run_faithful other _ unambiguous _ session (visits_asked compiler other root filters agree)
    (faithful_without_entries other _ _ empty)).1

end

def Compiler.Clashes (compiler : Compiler) (root : EntitySchema) (filters : List Filter)
    (collision : Collision) : Prop :=
  ∃ schema, compiler.Visits root filters schema ∧
    reflect compiler.registry compiler.naming schema = .error collision

theorem direct_clashes (compiler : Compiler) (root : EntitySchema) (filters : List Filter)
    (collision : Collision)
    (failed : compiler.direct root filters = .error (.collided collision)) :
    compiler.Clashes root filters collision := by
  have asks := visits_asked compiler compiler.registry root filters fun _ _ _ _ => rfl
  obtain ⟨_, schema, ⟨rfl, visited⟩, refused⟩ :=
    direct_collision compiler.registry _ _ asks collision failed
  exact ⟨schema, visited, refused⟩

-- Any choice may be made under either registry, so one that fails can report what the other does.
theorem only_visited_entities_matter (compiler : Compiler) (other : Registry)
    (root : EntitySchema) (filters : List Filter) (session otherSession : Session)
    (empty : session.cache.entries = []) (otherEmpty : otherSession.cache.entries = [])
    (agree : ∀ entity, compiler.reflected? root = some entity →
      AllFollowed compiler (Agree compiler.registry other) entity filters.flatten)
    (coherent : ∀ a b, compiler.Visits root filters a → compiler.Visits root filters b →
      a.name = b.name → a = b) :
    let compile := compiler.compile root filters
    let recompile := (compiler.withRegistry other).compile root filters
    SameReport (compiler.Clashes root filters) (compile.outcome session)
        (recompile.outcome otherSession) ∧
      ∃ choices, compile.outcome session =
        recompile.outcome { otherSession with choices := choices } := by
  intro compile recompile
  have followed : ∀ entity, reflect compiler.registry compiler.naming root = .ok entity →
      AllFollowed compiler (Agree compiler.registry other) entity filters.flatten :=
    fun entity reflected => agree entity (reflected_found compiler root entity reflected)
  have first := compile_visits compiler compiler.registry root filters session empty
    (fun _ _ _ _ => rfl) coherent
  have second := fun choices => compile_visits compiler other root filters
    { otherSession with choices := choices } otherEmpty agree coherent
  rw [← direct_matches compiler other root filters followed] at second
  let choice := session.choices (compile.after session).cache.reflections
  have outcome : compile.outcome session =
      (compiler.direct root filters).mapError (Refusal.report choice) := first
  refine ⟨?_, fun _ => choice, outcome.trans (second fun _ => choice).symm⟩
  rw [outcome, second otherSession.choices]
  exact same_report_of_result _ _ (direct_clashes compiler root filters) _ _

def citySchema : EntitySchema where
  name := "City"
  tableName := some "cities"
  fields := [
    { name := "id", fieldType := .scalar "i64" },
    { name := "name", fieldType := .scalar "String" },
    { name := "libraries", fieldType := .list (.entity ⟨"Library", "Library"⟩),
      annotations := { foreignKey := some "city_ref" } }]

def librarySchema : EntitySchema where
  name := "Library"
  tableName := some "libraries"
  fields := [
    { name := "id", fieldType := .scalar "i64" },
    { name := "city_ref", fieldType := .scalar "i64" },
    { name := "city", fieldType := .entity ⟨"City", "City"⟩,
      annotations := { foreignKey := some "city_ref" } },
    { name := "books", fieldType := .list (.entity ⟨"Book", "Book"⟩),
      annotations := { foreignKey := some "library_ref" } }]

def shelvedBook : EntitySchema where
  name := "Book"
  tableName := some "books"
  fields := [
    { name := "id", fieldType := .scalar "i64" },
    { name := "library_ref", fieldType := .scalar "i64", columnName := some "shelved_in" }]

-- No book at all: it has the name of another entity, and two of its fields share theirs.
def strayBook : EntitySchema where
  name := "Library"
  fields := [
    { name := "city", fieldType := .scalar "String" },
    { name := "city", fieldType := .entity ⟨"City", "City"⟩,
      annotations := { foreignKey := some "city" } }]

def libraryRegistry : Registry :=
  ((Registry.empty.define "City" citySchema).define "Library" librarySchema).define "Book"
    shelvedBook

def strayRegistry : Registry := libraryRegistry.define "Book" strayBook

def libraryCompiler : Compiler := ⟨libraryRegistry, verbatim, { wildcards := true }⟩

def libraryFilters : List Filter := [
  [("city", .object [("libraries", .object [("id", .number (.integer 7))]),
    ("name", .string "A*")])],
  [("id", .null)]]

def cityEntity : EntityRelations where
  entity := "City"
  table := "cities"
  primaryKey := "id"
  relations := [("libraries", ⟨⟨"Library", "Library"⟩, "city_ref", .toMany⟩)]
  columns := ["id", "name"]

def libraryEntity (bookKey : String) : EntityRelations where
  entity := "Library"
  table := "libraries"
  primaryKey := "id"
  relations := [("city", ⟨⟨"City", "City"⟩, "city_ref", .toOne⟩),
    ("books", ⟨⟨"Book", "Book"⟩, bookKey, .toMany⟩)]
  columns := ["city_ref", "id"]

theorem library_reflected :
    libraryCompiler.reflected? librarySchema = some (libraryEntity "shelved_in") := rfl

theorem city_reflected : libraryCompiler.reflected? citySchema = some cityEntity := rfl

theorem library_follows (ref : EntityRef)
    (follows : Follows libraryRegistry libraryCompiler.reflected? (libraryEntity "shelved_in")
      libraryFilters.flatten ref) : ref = ⟨"City", "City"⟩ ∨ ref = ⟨"Library", "Library"⟩ := by
  have city : (libraryEntity "shelved_in").relation? "city" =
    some ⟨⟨"City", "City"⟩, "city_ref", .toOne⟩ := rfl
  have libraries : cityEntity.relation? "libraries" =
    some ⟨⟨"Library", "Library"⟩, "city_ref", .toMany⟩ := rfl
  have plain := fun entity column value isPlain => (follows_plain_iff libraryRegistry
    libraryCompiler.reflected? entity column [] value isPlain ref).mp
  rcases (follows_object_iff _ _ _ _ _ _ _).mp follows with
    ⟨_, found, rfl | ⟨_, reached, below⟩⟩ | later
  · cases city.symm.trans found
    exact .inl rfl
  · cases city.symm.trans found
    cases city_reflected.symm.trans reached
    rcases (follows_object_iff _ _ _ _ _ _ _).mp below with
      ⟨_, found, rfl | ⟨_, reached, below⟩⟩ | later
    · cases libraries.symm.trans found
      exact .inr rfl
    · cases libraries.symm.trans found
      cases library_reflected.symm.trans reached
      exact absurd (plain _ _ _ rfl below) (follows_nothing _ _ _ ref)
    · exact absurd (plain _ _ _ rfl later) (follows_nothing _ _ _ ref)
  · exact absurd (plain _ _ _ rfl later) (follows_nothing _ _ _ ref)

theorem library_ignores_stray_book :
    let compile := libraryCompiler.compile librarySchema libraryFilters
    let other := (libraryCompiler.withRegistry strayRegistry).compile librarySchema libraryFilters
    ({} : Session).cache.entries = [] ∧
      (∀ entity, libraryCompiler.reflected? librarySchema = some entity →
        AllFollowed libraryCompiler (Agree libraryRegistry strayRegistry) entity
          libraryFilters.flatten) ∧
      (∀ a b, libraryCompiler.Visits librarySchema libraryFilters a →
        libraryCompiler.Visits librarySchema libraryFilters b → a.name = b.name → a = b) ∧
      reflect strayRegistry verbatim strayBook = .error { entity := "Library", column := "city" } ∧
      reflect strayRegistry verbatim librarySchema = .ok (libraryEntity "library_ref") ∧
      ∃ compiled, compile.outcome {} = .ok compiled ∧ other.outcome {} = .ok compiled := by
  intro compile other
  have agree : ∀ entity, libraryCompiler.reflected? librarySchema = some entity →
      AllFollowed libraryCompiler (Agree libraryRegistry strayRegistry) entity
        libraryFilters.flatten := by
    intro entity reflected ref follows
    cases library_reflected.symm.trans reflected
    rcases library_follows ref follows with rfl | rfl <;> rfl
  have coherent : ∀ a b, libraryCompiler.Visits librarySchema libraryFilters a →
      libraryCompiler.Visits librarySchema libraryFilters b → a.name = b.name → a = b := by
    have listed : ∀ schema, libraryCompiler.Visits librarySchema libraryFilters schema →
        schema = librarySchema ∨ schema = citySchema := by
      rintro schema (rfl | ⟨entity, reflected, ref, follows, rfl⟩)
      · exact .inl rfl
      · cases library_reflected.symm.trans reflected
        rcases library_follows ref follows with rfl | rfl
        · exact .inr rfl
        · exact .inl rfl
    intro a b visitedA visitedB same
    rcases listed a visitedA with rfl | rfl <;> rcases listed b visitedB with rfl | rfl <;>
      simp [librarySchema, citySchema] at same ⊢
  obtain ⟨same, _⟩ := only_visited_entities_matter libraryCompiler strayRegistry librarySchema
    libraryFilters {} {} rfl rfl agree coherent
  exact ⟨rfl, agree, coherent, rfl, rfl, _, rfl, (same_report_ok_iff _ _ _ same _).mp rfl⟩

end NestedFilter
