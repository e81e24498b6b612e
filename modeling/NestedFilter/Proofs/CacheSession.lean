import NestedFilter.Proofs.Direct

/-!
Sessions on one cache: lookups, compilations and resets in any order. Under snake-case strategies
the cache is transparent, for no two of their settings share a fingerprint.
-/

set_option autoImplicit false

namespace NestedFilter

inductive CacheCall where
  | lookup (naming : NamingStrategy) (schema : EntitySchema)
  | compile (naming : NamingStrategy) (options : FilterOptions) (root : EntitySchema)
      (filters : List Filter)
  | reset

inductive CacheAnswer where
  | relations (found : Except FilterError EntityRelations)
  | compiled (result : Except FilterError CompiledFilter)
  | done

namespace CacheCall

def roots : CacheCall → List EntitySchema
  | lookup _ schema => [schema]
  | compile _ _ root _ => [root]
  | reset => []

def strategies : CacheCall → List NamingStrategy
  | lookup naming _ => [naming]
  | compile naming _ _ _ => [naming]
  | reset => []

def run (registry : Registry) : CacheCall → SessionM CacheAnswer
  | lookup naming schema => do
      let found ← (Session.relations registry naming schema).run
      pure (.relations found)
  | compile naming options root filters => do
      let compiler : Compiler := ⟨registry, naming, options⟩
      let result ← (compiler.compile root filters).run
      pure (.compiled result)
  | reset => do
      Session.resetCache
      pure .done

def runAll (registry : Registry) : List CacheCall → SessionM (List CacheAnswer)
  | [] => pure []
  | call :: rest => do
      let answer ← call.run registry
      let answers ← runAll registry rest
      pure (answer :: answers)

-- What a call answers by itself, given the choice among the columns of a collision: a lookup
-- reflects, and a compilation starts from an empty cache.
def alone (registry : Registry) (choice : Nat) : CacheCall → CacheAnswer
  | lookup naming schema =>
      .relations ((reflect registry naming schema).mapError (·.report choice))
  | compile naming options root filters =>
      let compiler : Compiler := ⟨registry, naming, options⟩
      .compiled ((compiler.compile root filters).outcome { choices := fun _ => choice })
  | reset => .done

def Known (registry : Registry) (call : CacheCall) (collision : Collision) : Prop :=
  ∃ naming ∈ call.strategies, ∃ schema, Reaches registry call.roots schema ∧
    reflect registry naming schema = .error collision

end CacheCall

inductive SameAnswer (known : Collision → Prop) : CacheAnswer → CacheAnswer → Prop where
  | relations (found other : Except FilterError EntityRelations)
      (same : SameReport known found other) : SameAnswer known (.relations found) (.relations other)
  | compiled (result other : Except FilterError CompiledFilter)
      (same : SameReport known result other) : SameAnswer known (.compiled result) (.compiled other)
  | done : SameAnswer known .done .done

-- The call might have been the only one. Where it reports a collision, that takes the right choice
-- of a column, and with another choice another column of the same collision is reported.
def CacheCall.Transparent (registry : Registry) (call : CacheCall) (answer : CacheAnswer) : Prop :=
  (∃ choice, answer = call.alone registry choice) ∧
    ∀ choice, SameAnswer (call.Known registry) answer (call.alone registry choice)

def flagText (singular : Bool) : String := if singular then "true" else "false"

theorem flag_text_last (a b : String) (singular other : Bool)
    (same : a ++ flagText singular = b ++ flagText other) : singular = other := by
  -- Read from the end, one flag is told from the other before the free text in front begins.
  have letters := congrArg (fun text => text.toList.reverse) same
  cases singular with
  | false =>
      cases other with
      | false => rfl
      | true => simp [flagText] at letters
  | true =>
      cases other with
      | false => simp [flagText] at letters
      | true => rfl

theorem fingerprint_injective (a b : SnakeCaseNaming) (same : a.fingerprint = b.fingerprint) :
    a = b := by
  obtain ⟨front, singular⟩ := a
  obtain ⟨otherFront, otherSingular⟩ := b
  obtain rfl : singular = otherSingular := flag_text_last _ _ singular otherSingular same
  have fronts : front = otherFront := by
    simpa only [SnakeCaseNaming.fingerprint, String.append_left_inj, String.append_right_inj] using
      same
  rw [fronts]

theorem snake_case_key_injective (a b : SnakeCaseNaming) (schema other : EntitySchema)
    (same : RelationCache.key a.strategy schema = RelationCache.key b.strategy other) :
    a = b ∧ schema.name = other.name := by
  obtain ⟨names, fingerprints⟩ := CacheKey.mk.inj same
  exact ⟨fingerprint_injective a b fingerprints, names⟩

def sessionLookups (registry : Registry) (roots : List EntitySchema)
    (coherent : Coherent registry roots) : Lookups registry :=
  .ofRoots registry roots (fun naming => ∃ settings : SnakeCaseNaming, naming = settings.strategy)
    coherent (by
      intro a b snakeA snakeB same
      obtain ⟨settings, rfl⟩ := snakeA
      obtain ⟨others, rfl⟩ := snakeB
      rw [fingerprint_injective settings others same])

theorem reflect_same_report (registry : Registry) (naming : NamingStrategy)
    (schema : EntitySchema) (choice other : Nat) :
    SameReport ((CacheCall.lookup naming schema).Known registry)
      ((reflect registry naming schema).mapError (·.report choice))
      ((reflect registry naming schema).mapError (·.report other)) := by
  cases reflected : reflect registry naming schema with
  | ok entity => exact .inl rfl
  | error collision =>
      have reached : Reaches registry [schema] schema := .root schema (List.mem_singleton.mpr rfl)
      exact .inr ⟨collision, choice, other,
        ⟨naming, List.mem_singleton.mpr rfl, schema, reached, reflected⟩, rfl, rfl⟩

theorem direct_known (compiler : Compiler) (root : EntitySchema) (filters : List Filter)
    (coherent : Coherent compiler.registry [root]) (collision : Collision)
    (failed : compiler.direct root filters = .error (.collided collision)) :
    ∃ schema, Reaches compiler.registry [root] schema ∧
      reflect compiler.registry compiler.naming schema = .error collision := by
  let lookups := compiler.rootLookups root coherent
  have asked := lookups_asked compiler lookups root filters
    ⟨rfl, .root root (List.mem_singleton.mpr rfl)⟩
  obtain ⟨_, schema, ⟨rfl, reached⟩, refused⟩ :=
    direct_collision compiler.registry lookups.includes _ asked collision failed
  exact ⟨schema, reached, refused⟩

theorem compile_transparent (compiler : Compiler) (lookups : Lookups compiler.registry)
    (root : EntitySchema) (filters : List Filter) (session : Session)
    (coherent : Coherent compiler.registry [root])
    (included : lookups.includes compiler.naming root)
    (faithful : Faithful compiler.registry lookups.includes session.cache) :
    let call := CacheCall.compile compiler.naming compiler.options root filters
    let ran := compiler.compile root filters
    call.Transparent compiler.registry (.compiled (ran.outcome session)) ∧
      Faithful compiler.registry lookups.includes (ran.after session).cache := by
  intro call ran
  obtain ⟨same, kept⟩ := run_faithful compiler.registry lookups.includes lookups.unambiguous _
    session (lookups_asked compiler lookups root filters included) faithful
  have alone : ∀ choice, call.alone compiler.registry choice =
      .compiled ((compiler.direct root filters).mapError (Refusal.report choice)) := fun choice =>
    congrArg CacheAnswer.compiled (compile_from_empty compiler root filters _ coherent rfl)
  let choice := session.choices (ran.after session).cache.reflections
  have answer : CacheAnswer.compiled (ran.outcome session) =
      call.alone compiler.registry choice := by
    rw [alone]
    exact congrArg CacheAnswer.compiled same
  refine ⟨⟨⟨choice, answer⟩, fun other => ?_⟩, kept⟩
  rw [answer, alone, alone]
  refine .compiled _ _ (same_report_of_result _ _ ?_ choice other)
  intro collision failed
  obtain ⟨schema, reached, refused⟩ := direct_known compiler root filters coherent collision failed
  exact ⟨compiler.naming, List.mem_singleton.mpr rfl, schema, reached, refused⟩

theorem call_transparent (registry : Registry) (lookups : Lookups registry) (call : CacheCall)
    (session : Session) (coherent : Coherent registry call.roots)
    (included : ∀ naming ∈ call.strategies, ∀ schema ∈ call.roots, lookups.includes naming schema)
    (faithful : Faithful registry lookups.includes session.cache) :
    call.Transparent registry (call.run registry session).1 ∧
      Faithful registry lookups.includes (call.run registry session).2.cache := by
  cases call with
  | lookup naming schema =>
      have known := included naming (List.mem_singleton.mpr rfl) schema (List.mem_singleton.mpr rfl)
      obtain ⟨same, kept⟩ := apply_faithful registry lookups.includes lookups.unambiguous
        ⟨naming, schema⟩ session.cache known faithful
      let left := (Lookup.apply registry session.cache ⟨naming, schema⟩).2
      let choice := session.choices left.reflections
      have ran : ((CacheCall.lookup naming schema).run registry session).1 =
          .relations ((Lookup.apply registry session.cache ⟨naming, schema⟩).1.mapError
            (·.report choice)) := rfl
      have answer : ((CacheCall.lookup naming schema).run registry session).1 =
          (CacheCall.lookup naming schema).alone registry choice := by
        rw [ran, same]
        rfl
      refine ⟨⟨⟨choice, answer⟩, fun other => ?_⟩, kept⟩
      rw [answer]
      exact .relations _ _ (reflect_same_report registry naming schema choice other)
  | compile naming options root filters =>
      have known := included naming (List.mem_singleton.mpr rfl) root (List.mem_singleton.mpr rfl)
      exact compile_transparent ⟨registry, naming, options⟩ lookups root filters session coherent
        known faithful
  | reset => exact ⟨⟨⟨0, rfl⟩, fun _ => .done⟩, faithful_without_entries _ _ _ rfl⟩

theorem calls_transparent (registry : Registry) (lookups : Lookups registry)
    (calls : List CacheCall) (session : Session)
    (coherent : ∀ call ∈ calls, Coherent registry call.roots)
    (included : ∀ call ∈ calls, ∀ naming ∈ call.strategies, ∀ schema ∈ call.roots,
      lookups.includes naming schema)
    (faithful : Faithful registry lookups.includes session.cache) :
    List.Forall₂ (CacheCall.Transparent registry) calls
      (CacheCall.runAll registry calls session).1 := by
  induction calls generalizing session with
  | nil => exact .nil
  | cons call rest ih =>
      obtain ⟨first, kept⟩ := call_transparent registry lookups call session
        (coherent call List.mem_cons_self) (included call List.mem_cons_self) faithful
      exact .cons first (ih (call.run registry session).2
        (fun other listed => coherent other (List.mem_cons_of_mem call listed))
        (fun other listed => included other (List.mem_cons_of_mem call listed)) kept)

theorem session_cache_transparent (registry : Registry) (calls : List CacheCall)
    (session : Session) (coherent : Coherent registry (calls.flatMap CacheCall.roots))
    (snakeCase : ∀ call ∈ calls, ∀ naming ∈ call.strategies,
      ∃ settings : SnakeCaseNaming, naming = settings.strategy)
    (empty : session.cache.entries = []) :
    List.Forall₂ (CacheCall.Transparent registry) calls
        (CacheCall.runAll registry calls session).1 ∧
      ∀ (a b : SnakeCaseNaming) (schema other : EntitySchema),
        RelationCache.key a.strategy schema = RelationCache.key b.strategy other →
        a = b ∧ schema.name = other.name := by
  refine ⟨?_, snake_case_key_injective⟩
  let lookups := sessionLookups registry (calls.flatMap CacheCall.roots) coherent
  apply calls_transparent registry lookups calls session
  · intro call listed
    apply coherent_of_subset registry call.roots (calls.flatMap CacheCall.roots) _ coherent
    intro schema member
    exact List.mem_flatMap.mpr ⟨call, listed, member⟩
  · intro call listed naming used schema member
    exact ⟨snakeCase call listed naming used,
      .root schema (List.mem_flatMap.mpr ⟨call, listed, member⟩)⟩
  · exact faithful_without_entries _ _ _ empty

-- The free text of one strategy ends in what looks like the flag of the other.
def colonNaming : SnakeCaseNaming := ⟨"x:true", false⟩

def flagNaming : SnakeCaseNaming := ⟨"x", true⟩

def peopleCalls : List CacheCall := [
  .compile colonNaming.strategy { wildcards := true } personSchema
    [[("tags", .object [("people", .object [])]), ("name", .string "A*")]],
  .lookup flagNaming.strategy personSchema,
  .reset,
  .lookup colonNaming.strategy tagSchema,
  .compile flagNaming.strategy {} tagSchema [[("people", .null)]]]

theorem people_session_transparent :
    Coherent peopleRegistry (peopleCalls.flatMap CacheCall.roots) ∧
      (∀ call ∈ peopleCalls, ∀ naming ∈ call.strategies,
        ∃ settings : SnakeCaseNaming, naming = settings.strategy) ∧
      ({} : Session).cache.entries = [] ∧
      List.Forall₂ (CacheCall.Transparent peopleRegistry) peopleCalls
        (CacheCall.runAll peopleRegistry peopleCalls {}).1 ∧
      ∀ (a b : SnakeCaseNaming) (schema other : EntitySchema),
        RelationCache.key a.strategy schema = RelationCache.key b.strategy other →
        a = b ∧ schema.name = other.name := by
  have coherent : Coherent peopleRegistry (peopleCalls.flatMap CacheCall.roots) :=
    people_coherent_from _ (by decide)
  have snakeCase : ∀ call ∈ peopleCalls, ∀ naming ∈ call.strategies,
      ∃ settings : SnakeCaseNaming, naming = settings.strategy := by
    simp only [peopleCalls, CacheCall.strategies, List.forall_mem_cons]
    exact ⟨⟨⟨_, rfl⟩, by simp⟩, ⟨⟨_, rfl⟩, by simp⟩, by simp, ⟨⟨_, rfl⟩, by simp⟩,
      ⟨⟨_, rfl⟩, by simp⟩, by simp⟩
  exact ⟨coherent, snakeCase, rfl,
    session_cache_transparent peopleRegistry peopleCalls {} coherent snakeCase rfl⟩

end NestedFilter
