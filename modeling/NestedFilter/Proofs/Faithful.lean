import NestedFilter.Proofs.Plan
import NestedFilter.Proofs.Reach

/-!
Caches that hold nothing but reflections. Looking an entity up in such a cache is reflecting it,
as long as no two lookups with different reflections go by one key.
-/

set_option autoImplicit false

namespace NestedFilter

-- Lookups that share a key only if they share a reflection: that is all a cache can know of them.
def Unambiguous (registry : Registry) (includes : NamingStrategy → EntitySchema → Prop) : Prop :=
  ∀ naming other schema another, includes naming schema → includes other another →
    RelationCache.key naming schema = RelationCache.key other another →
    reflect registry naming schema = reflect registry other another

theorem unambiguous_of_names (registry : Registry) (naming : NamingStrategy)
    (schemas : EntitySchema → Prop)
    (distinct : ∀ a b, schemas a → schemas b → a.name = b.name → a = b) :
    Unambiguous registry fun other schema => other = naming ∧ schemas schema := by
  intro first second schema another included includedOther same
  obtain ⟨names, _⟩ := CacheKey.mk.inj same
  rw [included.1, includedOther.1, distinct schema another included.2 includedOther.2 names]

structure Lookups (registry : Registry) where
  includes : NamingStrategy → EntitySchema → Prop
  unambiguous : Unambiguous registry includes
  closed : ∀ naming schema entity column relation, includes naming schema →
    reflect registry naming schema = .ok entity → entity.relation? column = some relation →
    includes naming (registry.resolve relation.related)

def Lookups.ofRoots (registry : Registry) (roots : List EntitySchema)
    (strategies : NamingStrategy → Prop) (coherent : Coherent registry roots)
    (distinct : ∀ a b, strategies a → strategies b → a.fingerprint = b.fingerprint → a = b) :
    Lookups registry where
  includes naming schema := strategies naming ∧ Reaches registry roots schema
  unambiguous := by
    intro naming other schema another included includedOther same
    obtain ⟨names, fingerprints⟩ := CacheKey.mk.inj same
    rw [distinct naming other included.1 includedOther.1 fingerprints,
      coherent schema another included.2 includedOther.2 names]
  closed := by
    intro naming schema entity column relation included reflected found
    exact ⟨included.1,
      related_reached registry naming roots schema entity column relation included.2 reflected found⟩

def Faithful (registry : Registry) (includes : NamingStrategy → EntitySchema → Prop)
    (cache : RelationCache) : Prop :=
  ∀ naming schema found, includes naming schema →
    cache.find? (RelationCache.key naming schema) = some found →
    reflect registry naming schema = .ok found

theorem faithful_without_entries (registry : Registry)
    (includes : NamingStrategy → EntitySchema → Prop) (cache : RelationCache)
    (empty : cache.entries = []) : Faithful registry includes cache := by
  intro naming schema found _ search
  simp [RelationCache.find?, empty] at search

theorem find_appended (cache : RelationCache) (key query : CacheKey)
    (added found : EntityRelations) (count : Nat)
    (search : RelationCache.find? ⟨cache.entries ++ [(key, added)], count⟩ query = some found) :
    cache.find? query = some found ∨ key = query ∧ added = found := by
  rw [find_append] at search
  rcases Option.or_eq_some_iff.mp search with old | ⟨_, new⟩
  · exact .inl old
  · by_cases same : key = query
    · exact .inr ⟨same, by simpa [same] using new⟩
    · simp [same] at new

section

variable {α β : Type} (registry : Registry) (includes : NamingStrategy → EntitySchema → Prop)

theorem apply_faithful (unambiguous : Unambiguous registry includes) (asked : Lookup)
    (cache : RelationCache) (included : includes asked.naming asked.schema)
    (faithful : Faithful registry includes cache) :
    (asked.apply registry cache).1 = asked.reflection registry ∧
      Faithful registry includes (asked.apply registry cache).2 := by
  rcases apply_cases registry cache asked with ⟨found, search, applied⟩ |
    ⟨entity, _, reflected, applied⟩ | ⟨collision, _, failed, applied⟩
  · rw [applied]
    exact ⟨(faithful asked.naming asked.schema found included search).symm, faithful⟩
  · rw [applied]
    refine ⟨reflected.symm, ?_⟩
    intro other another found includedOther searchOther
    rcases find_appended cache _ _ entity found _ searchOther with old | ⟨same, rfl⟩
    · exact faithful other another found includedOther old
    · have alike := unambiguous other asked.naming another asked.schema includedOther included
        same.symm
      exact alike.trans reflected
  · rw [applied]
    exact ⟨failed.symm, faithful⟩

-- Whatever a plan looks up, as far as reflections lead it, is among these lookups.
def Plan.Asks : Plan α → Prop
  | .answer _ => True
  | .log _ _ next => next.Asks
  | .lookup asked next => includes asked.naming asked.schema ∧
      ∀ found, asked.reflection registry = .ok found → (next found).Asks

theorem asks_bind (plan : Plan α) (f : α → Plan β) (asks : plan.Asks registry includes)
    (others : ∀ a, plan.direct registry = .ok a → (f a).Asks registry includes) :
    (plan >>= f).Asks registry includes := by
  change (plan.bind f).Asks registry includes
  induction plan with
  | answer result =>
      cases result with
      | ok a => exact others a rfl
      | error error => trivial
  | log severity text next ih => exact ih asks others
  | lookup asked next ih =>
      refine ⟨asks.1, fun found reflected => ih found (asks.2 found reflected) ?_⟩
      intro a ended
      apply others a
      rw [Plan.direct, reflected]
      exact ended

theorem eval_faithful (unambiguous : Unambiguous registry includes) (plan : Plan α)
    (cache : RelationCache) (asks : plan.Asks registry includes)
    (faithful : Faithful registry includes cache) :
    (plan.eval registry cache).1 = plan.direct registry ∧
      Faithful registry includes (plan.eval registry cache).2 := by
  induction plan generalizing cache with
  | answer result => exact ⟨rfl, faithful⟩
  | log severity text next ih => exact ih cache asks faithful
  | lookup asked next ih =>
      obtain ⟨answered, kept⟩ :=
        apply_faithful registry includes unambiguous asked cache asks.1 faithful
      rw [Plan.eval, Plan.direct, ← answered]
      cases applied : asked.apply registry cache with
      | mk result left =>
          rw [applied] at answered kept
          cases result with
          | error collision => exact ⟨rfl, kept⟩
          | ok found => exact ih found left (asks.2 found answered.symm) kept

theorem run_faithful (unambiguous : Unambiguous registry includes) (plan : Plan α)
    (session : Session) (asks : plan.Asks registry includes)
    (faithful : Faithful registry includes session.cache) :
    let left := (plan.run registry).after session
    (plan.run registry).outcome session =
        (plan.direct registry).mapError
          (Refusal.report (session.choices left.cache.reflections)) ∧
      Faithful registry includes left.cache := by
  intro left
  have evaluated := eval_faithful registry includes unambiguous plan session.cache asks faithful
  rw [← evaluated.1, run_after]
  exact ⟨(run_eval registry plan session).1, evaluated.2⟩

theorem run_ok_iff_direct (unambiguous : Unambiguous registry includes) (plan : Plan α)
    (session : Session) (a : α) (asks : plan.Asks registry includes)
    (faithful : Faithful registry includes session.cache) :
    (plan.run registry).outcome session = .ok a ↔ plan.direct registry = .ok a := by
  have answered :=
    (run_faithful registry includes unambiguous plan session asks faithful).1
  rw [answered, map_error_ok_iff]

theorem direct_collision (plan : Plan α) (asks : plan.Asks registry includes)
    (collision : Collision) (failed : plan.direct registry = .error (.collided collision)) :
    ∃ naming schema, includes naming schema ∧
      reflect registry naming schema = .error collision := by
  induction plan with
  | answer result =>
      obtain ⟨error, _, same⟩ := (map_error_error_iff _ _ _).mp failed
      cases same
  | log severity text next ih => exact ih asks failed
  | lookup asked next ih =>
      rw [Plan.direct] at failed
      cases reflected : asked.reflection registry with
      | error other =>
          rw [reflected] at failed
          cases failed
          exact ⟨asked.naming, asked.schema, asks.1, reflected⟩
      | ok found =>
          rw [reflected] at failed
          exact ih found (asks.2 found reflected) failed

end

end NestedFilter
