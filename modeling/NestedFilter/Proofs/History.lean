import NestedFilter.Proofs.CacheSession
import NestedFilter.Proofs.Plan
import NestedFilter.Proofs.Rules

/-!
The history of a relation cache: lookups and resets in the order in which they happen, those in the
middle of compilations among them. The history decides which entries a cache holds, and how many
reflections it has counted.
-/

set_option autoImplicit false

namespace NestedFilter

inductive CacheEvent where
  | lookup (lookup : Lookup)
  | reset

def CacheEvent.apply (registry : Registry) (cache : RelationCache) : CacheEvent → RelationCache
  | lookup asked => (asked.apply registry cache).2
  | reset => cache.reset

namespace CacheCall

def events (registry : Registry) (cache : RelationCache) : CacheCall → List CacheEvent
  | lookup naming schema => [.lookup ⟨naming, schema⟩]
  | compile naming options root filters =>
      let compiler : Compiler := ⟨registry, naming, options⟩
      ((compiler.plan root filters).lookups registry cache).map .lookup
  | reset => [.reset]

def history (registry : Registry) : List CacheCall → Session → List CacheEvent
  | [], _ => []
  | call :: rest, session =>
      call.events registry session.cache ++ history registry rest (call.run registry session).2

end CacheCall

def sinceReset (seen : List Lookup) : List CacheEvent → List Lookup
  | [] => seen
  | .lookup asked :: rest => sinceReset (seen ++ [asked]) rest
  | .reset :: rest => sinceReset [] rest

def firstStored? (registry : Registry) (key : CacheKey) (lookups : List Lookup) :
    Option EntityRelations :=
  lookups.findSome? (Lookup.stored? registry key)

def misses (registry : Registry) (seen : List Lookup) : List CacheEvent → Nat
  | [] => 0
  | .lookup asked :: rest =>
      (if firstStored? registry asked.key seen = none then 1 else 0) +
        misses registry (seen ++ [asked]) rest
  | .reset :: rest => misses registry [] rest

structure Remembers (registry : Registry) (seen : List Lookup) (cache : RelationCache) : Prop where
  entries : ∀ key, cache.find? key = firstStored? registry key seen
  distinct : (cache.entries.map (·.1)).Nodup
  counted : cache.size ≤ cache.reflections

theorem empty_remembers (registry : Registry) : Remembers registry [] .empty :=
  ⟨fun _ => rfl, List.nodup_nil, Nat.le_refl 0⟩

section

variable (registry : Registry) (seen : List Lookup) (cache : RelationCache)

theorem lookup_remembered (asked : Lookup) (remembers : Remembers registry seen cache) :
    Remembers registry (seen ++ [asked]) (asked.apply registry cache).2 := by
  refine ⟨?_, apply_distinct registry cache asked remembers.distinct, ?_⟩
  · intro key
    rw [find_after_apply, remembers.entries key]
    simp [firstStored?, List.findSome?_append]
  · rw [apply_reflections]
    exact Nat.le_trans (apply_size registry cache asked) (Nat.add_le_add_right remembers.counted _)

theorem reset_remembered : Remembers registry [] cache.reset :=
  ⟨fun _ => rfl, List.nodup_nil, Nat.zero_le _⟩

theorem events_remembered (events : List CacheEvent) (remembers : Remembers registry seen cache) :
    Remembers registry (sinceReset seen events) (events.foldl (CacheEvent.apply registry) cache) ∧
      (events.foldl (CacheEvent.apply registry) cache).reflections =
        cache.reflections + misses registry seen events := by
  induction events generalizing seen cache with
  | nil => exact ⟨remembers, rfl⟩
  | cons event rest ih =>
      cases event with
      | lookup asked =>
          have step := lookup_remembered registry seen cache asked remembers
          obtain ⟨kept, counted⟩ := ih (seen ++ [asked]) (asked.apply registry cache).2 step
          refine ⟨kept, ?_⟩
          rw [List.foldl_cons, CacheEvent.apply, counted, apply_reflections,
            remembers.entries asked.key, misses, Nat.add_assoc]
      | reset =>
          obtain ⟨kept, counted⟩ := ih [] cache.reset (reset_remembered registry cache)
          exact ⟨kept, counted⟩

end

theorem eval_replays {α : Type} (registry : Registry) (plan : Plan α) (cache : RelationCache) :
    (plan.eval registry cache).2 =
      ((plan.lookups registry cache).map CacheEvent.lookup).foldl (CacheEvent.apply registry)
        cache := by
  induction plan generalizing cache with
  | answer result => rfl
  | log severity text next ih => exact ih cache
  | lookup asked next ih =>
      rw [Plan.eval, Plan.lookups]
      cases applied : asked.apply registry cache with
      | mk result left =>
          cases result with
          | error error => simp [CacheEvent.apply, applied]
          | ok found => simpa [CacheEvent.apply, applied] using ih found left

theorem call_replays (registry : Registry) (call : CacheCall) (session : Session) :
    (call.run registry session).2.cache =
      (call.events registry session.cache).foldl (CacheEvent.apply registry) session.cache := by
  cases call with
  | lookup naming schema => rfl
  | compile naming options root filters =>
      have carried := run_after registry (Compiler.plan ⟨registry, naming, options⟩ root filters)
        session
      rw [eval_replays] at carried
      exact carried
  | reset => rfl

theorem history_replays (registry : Registry) (calls : List CacheCall) (session : Session) :
    (CacheCall.runAll registry calls session).2.cache =
      (CacheCall.history registry calls session).foldl (CacheEvent.apply registry)
        session.cache := by
  induction calls generalizing session with
  | nil => rfl
  | cons call rest ih =>
      rw [CacheCall.history, List.foldl_append, ← call_replays]
      exact ih (call.run registry session).2

theorem session_remembers (registry : Registry) (calls : List CacheCall) (journal : Journal)
    (choices : Nat → Nat) :
    let session : Session := { journal := journal, choices := choices }
    let events := CacheCall.history registry calls session
    Remembers registry (sinceReset [] events)
        (CacheCall.runAll registry calls session).2.cache ∧
      (CacheCall.runAll registry calls session).2.cache.reflections = misses registry [] events := by
  intro session events
  obtain ⟨remembers, counted⟩ :=
    events_remembered registry [] .empty events (empty_remembers registry)
  rw [history_replays]
  exact ⟨remembers, counted.trans (Nat.zero_add _)⟩

theorem lookup_applies (registry : Registry) (naming : NamingStrategy) (schema : EntitySchema)
    (session : Session) :
    let applied := Lookup.apply registry session.cache ⟨naming, schema⟩
    let choice := session.choices applied.2.reflections
    ((CacheCall.lookup naming schema).run registry session).1 =
        .relations (applied.1.mapError (·.report choice)) ∧
      ((CacheCall.lookup naming schema).run registry session).2.cache = applied.2 := ⟨rfl, rfl⟩

theorem call_extends (registry : Registry) (call : CacheCall) (session : Session)
    (keeps : call ≠ .reset) : session.cache.Extends (call.run registry session).2.cache := by
  cases call with
  | lookup naming schema => exact apply_extends registry session.cache ⟨naming, schema⟩
  | compile naming options root filters =>
      let plan := Compiler.plan ⟨registry, naming, options⟩ root filters
      have carried := run_after registry plan session
      have extended := eval_extends registry plan session.cache
      rw [← carried] at extended
      exact extended
  | reset => exact absurd rfl keeps

theorem call_counts (registry : Registry) (seen : List Lookup) (call : CacheCall)
    (session : Session) (remembers : Remembers registry seen session.cache) :
    session.cache.reflections ≤ (call.run registry session).2.cache.reflections := by
  have counted := (events_remembered registry seen session.cache
    (call.events registry session.cache) remembers).2
  rw [call_replays, counted]
  exact Nat.le_add_right _ _

theorem cache_holds_its_history (registry : Registry) (calls : List CacheCall)
    (journal : Journal) (choices : Nat → Nat) :
    let start : Session := { journal := journal, choices := choices }
    let session := (CacheCall.runAll registry calls start).2
    let history := CacheCall.history registry calls start
    (∀ key, session.cache.find? key = firstStored? registry key (sinceReset [] history)) ∧
      (session.cache.entries.map (·.1)).Nodup ∧
      session.cache.reflections = misses registry [] history ∧
      session.cache.size ≤ session.cache.reflections ∧
      (∀ naming schema found,
        session.cache.find? (RelationCache.key naming schema) = some found →
        ((CacheCall.lookup naming schema).run registry session).1 = .relations (.ok found)) ∧
      (∀ naming schema collision,
        session.cache.find? (RelationCache.key naming schema) = none →
        reflect registry naming schema = .error collision →
        let choice := session.choices (session.cache.reflections + 1)
        ((CacheCall.lookup naming schema).run registry session).1 =
          .relations (.error (collision.report choice)) ∧
        ((CacheCall.lookup naming schema).run registry session).2.cache.entries =
          session.cache.entries) ∧
      ∀ call : CacheCall,
        session.cache.reflections ≤ (call.run registry session).2.cache.reflections ∧
        (call ≠ .reset → ∀ key found, session.cache.find? key = some found →
          (call.run registry session).2.cache.find? key = some found) := by
  intro start session history
  obtain ⟨remembers, counted⟩ := session_remembers registry calls journal choices
  refine ⟨remembers.entries, remembers.distinct, counted, remembers.counted, ?_, ?_, ?_⟩
  · intro naming schema found search
    rw [(lookup_applies registry naming schema session).1,
      apply_hit registry session.cache ⟨naming, schema⟩ found search]
    rfl
  · intro naming schema collision search failed
    obtain ⟨answer, left⟩ := lookup_applies registry naming schema session
    rw [answer, left, apply_failure registry session.cache ⟨naming, schema⟩ collision search failed]
    exact ⟨rfl, rfl⟩
  · intro call
    exact ⟨call_counts registry _ call session remembers, call_extends registry call session⟩

-- A schema of the same name, in which a plain column and a relation share a column.
def clashingPerson : EntitySchema :=
  { personSchema with
    fields := { name := "mentor", fieldType := .scalar "i64" } :: personSchema.fields }

def namesakeCalls : List CacheCall := [
  .lookup verbatim personSchema,
  .reset,
  .lookup verbatim clashingPerson,
  .compile verbatim {} personSchema peopleFilters]

def namesakeSession : Session := (CacheCall.runAll peopleRegistry namesakeCalls {}).2

def namesakeHistory : List CacheEvent := CacheCall.history peopleRegistry namesakeCalls {}

def failingCall : CacheCall := .lookup colonNaming.strategy clashingPerson

theorem namesake_history_held :
    let stored := firstStored? peopleRegistry (RelationCache.key verbatim clashingPerson)
      (sinceReset [] namesakeHistory)
    namesakeSession.cache.find? (RelationCache.key verbatim clashingPerson) = stored ∧
      namesakeSession.cache.reflections = misses peopleRegistry [] namesakeHistory ∧
      misses peopleRegistry [] namesakeHistory = 4 ∧
      (∃ found, stored = some found ∧
        ((CacheCall.lookup verbatim clashingPerson).run peopleRegistry namesakeSession).1 =
          .relations (.ok found)) ∧
      namesakeSession.cache.find? (RelationCache.key colonNaming.strategy clashingPerson) = none ∧
      reflect peopleRegistry colonNaming.strategy clashingPerson =
        .error { entity := "Person", column := "mentor" } ∧
      (failingCall.run peopleRegistry namesakeSession).2.cache.entries =
        namesakeSession.cache.entries ∧
      failingCall ≠ .reset ∧
      ∀ key found, namesakeSession.cache.find? key = some found →
        (failingCall.run peopleRegistry namesakeSession).2.cache.find? key = some found := by
  have clash : reflect peopleRegistry colonNaming.strategy clashingPerson =
      .error { entity := "Person", column := "mentor" } := by decide +kernel
  have absent : namesakeSession.cache.find?
      (RelationCache.key colonNaming.strategy clashingPerson) = none := by decide +kernel
  have four : misses peopleRegistry [] namesakeHistory = 4 := by decide +kernel
  have other : failingCall ≠ .reset := nofun
  obtain ⟨found, reflected⟩ : ∃ found, firstStored? peopleRegistry
      (RelationCache.key verbatim clashingPerson) (sinceReset [] namesakeHistory) = some found :=
    ⟨_, rfl⟩
  unfold namesakeSession namesakeHistory failingCall at *
  obtain ⟨entries, _, counted, _, hits, fails, keeps⟩ :=
    cache_holds_its_history peopleRegistry namesakeCalls [] fun _ => 0
  have search := entries (RelationCache.key verbatim clashingPerson)
  have answered := hits verbatim clashingPerson found (search.trans reflected)
  have unchanged := (fails colonNaming.strategy clashingPerson _ absent clash).2
  exact ⟨search, counted, four, ⟨found, reflected, answered⟩, absent, clash, unchanged, other,
    (keeps _).2 other⟩

end NestedFilter
