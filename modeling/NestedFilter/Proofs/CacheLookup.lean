import NestedFilter.Filter.Plan
import NestedFilter.Proofs.ReflectedNames

set_option autoImplicit false

namespace NestedFilter

namespace Lookup

def key (lookup : Lookup) : CacheKey := RelationCache.key lookup.naming lookup.schema

def reflection (registry : Registry) (lookup : Lookup) : Except Collision EntityRelations :=
  reflect registry lookup.naming lookup.schema

def apply (registry : Registry) (cache : RelationCache) (lookup : Lookup) :
    Except Collision EntityRelations × RelationCache :=
  cache.fetch registry lookup.naming lookup.schema

def stored? (registry : Registry) (key : CacheKey) (lookup : Lookup) : Option EntityRelations :=
  if lookup.key = key then (lookup.reflection registry).toOption else none

end Lookup

def RelationCache.Extends (cache later : RelationCache) : Prop :=
  ∀ query found, cache.find? query = some found → later.find? query = some found

theorem extends_refl (cache : RelationCache) : cache.Extends cache :=
  fun _ _ search => search

theorem extends_trans (first second third : RelationCache) (before : first.Extends second)
    (after : second.Extends third) : first.Extends third :=
  fun query found search => after query found (before query found search)

section

variable (registry : Registry) (cache : RelationCache) (lookup : Lookup)

theorem apply_hit (found : EntityRelations) (search : cache.find? lookup.key = some found) :
    lookup.apply registry cache = (.ok found, cache) := by
  have known : cache.find? (RelationCache.key lookup.naming lookup.schema) = some found := search
  simp only [Lookup.apply, RelationCache.fetch, known]

theorem apply_miss (found : EntityRelations) (search : cache.find? lookup.key = none)
    (reflected : lookup.reflection registry = .ok found) :
    lookup.apply registry cache =
      (.ok found, ⟨cache.entries ++ [(lookup.key, found)], cache.reflections + 1⟩) := by
  have unknown : cache.find? (RelationCache.key lookup.naming lookup.schema) = none := search
  have known : reflect registry lookup.naming lookup.schema = .ok found := reflected
  simp only [Lookup.apply, RelationCache.fetch, unknown, known, Lookup.key]

theorem apply_failure (collision : Collision) (search : cache.find? lookup.key = none)
    (failed : lookup.reflection registry = .error collision) :
    lookup.apply registry cache = (.error collision, ⟨cache.entries, cache.reflections + 1⟩) := by
  have unknown : cache.find? (RelationCache.key lookup.naming lookup.schema) = none := search
  have known : reflect registry lookup.naming lookup.schema = .error collision := failed
  simp only [Lookup.apply, RelationCache.fetch, unknown, known]

theorem apply_cases :
    (∃ found, cache.find? lookup.key = some found ∧
      lookup.apply registry cache = (.ok found, cache)) ∨
    (∃ found, cache.find? lookup.key = none ∧ lookup.reflection registry = .ok found ∧
      lookup.apply registry cache =
        (.ok found, ⟨cache.entries ++ [(lookup.key, found)], cache.reflections + 1⟩)) ∨
    ∃ collision, cache.find? lookup.key = none ∧ lookup.reflection registry = .error collision ∧
      lookup.apply registry cache = (.error collision, ⟨cache.entries, cache.reflections + 1⟩) := by
  cases search : cache.find? lookup.key with
  | some found => exact .inl ⟨found, rfl, apply_hit registry cache lookup found search⟩
  | none =>
      cases reflected : lookup.reflection registry with
      | ok found =>
          exact .inr (.inl ⟨found, rfl, rfl,
            apply_miss registry cache lookup found search reflected⟩)
      | error collision =>
          exact .inr (.inr ⟨collision, rfl, rfl,
            apply_failure registry cache lookup collision search reflected⟩)

theorem find_append (added : EntityRelations) (key query : CacheKey) (count : Nat) :
    RelationCache.find? ⟨cache.entries ++ [(key, added)], count⟩ query =
      (cache.find? query).or (if key = query then some added else none) := by
  simp only [RelationCache.find?, List.find?_append, List.find?_singleton]
  cases cache.entries.find? (fun entry => entry.1 == query) with
  | some entry => simp
  | none => by_cases same : key = query <;> simp [same]

theorem find_none_iff (query : CacheKey) :
    cache.find? query = none ↔ query ∉ cache.entries.map (·.1) := by
  rw [RelationCache.find?, Option.map_eq_none_iff, List.find?_eq_none]
  constructor
  · intro absent listed
    obtain ⟨entry, member, same⟩ := List.mem_map.mp listed
    exact absent entry member (by simp [same])
  · intro absent entry member same
    have named : entry.1 = query := by simpa using same
    exact absent (List.mem_map.mpr ⟨entry, member, named⟩)

theorem find_after_apply (query : CacheKey) :
    (lookup.apply registry cache).2.find? query =
      (cache.find? query).or (lookup.stored? registry query) := by
  rcases apply_cases registry cache lookup with ⟨found, search, applied⟩ |
    ⟨found, _, reflected, applied⟩ | ⟨_, _, failed, applied⟩
  · rw [applied]
    by_cases same : lookup.key = query
    · rw [← same, search, Option.some_or]
    · rw [Lookup.stored?, if_neg same, Option.or_none]
  · rw [applied, find_append, Lookup.stored?, reflected]
    rfl
  · have nothing : lookup.stored? registry query = none := by
      simp [Lookup.stored?, failed, Except.toOption]
    rw [applied, nothing, Option.or_none]
    rfl

theorem apply_extends : cache.Extends (lookup.apply registry cache).2 := by
  intro query found search
  rw [find_after_apply, search, Option.some_or]

theorem apply_found (later : RelationCache) (found : EntityRelations)
    (answered : lookup.apply registry cache = (.ok found, later)) :
    later.find? lookup.key = some found := by
  rcases apply_cases registry cache lookup with ⟨entity, search, applied⟩ |
    ⟨entity, search, _, applied⟩ | ⟨_, _, _, applied⟩
  · cases answered.symm.trans applied
    exact search
  · cases answered.symm.trans applied
    rw [find_append, search, if_pos rfl, Option.none_or]
  · cases answered.symm.trans applied

theorem apply_reflections :
    (lookup.apply registry cache).2.reflections =
      cache.reflections + if cache.find? lookup.key = none then 1 else 0 := by
  rcases apply_cases registry cache lookup with ⟨_, search, applied⟩ | ⟨_, search, _, applied⟩ |
    ⟨_, search, _, applied⟩
  all_goals simp [applied, search]

theorem apply_size :
    (lookup.apply registry cache).2.size ≤
      cache.size + if cache.find? lookup.key = none then 1 else 0 := by
  rcases apply_cases registry cache lookup with ⟨_, search, applied⟩ | ⟨_, search, _, applied⟩ |
    ⟨_, search, _, applied⟩
  all_goals simp [applied, search, RelationCache.size]

theorem apply_distinct (distinct : (cache.entries.map (·.1)).Nodup) :
    ((lookup.apply registry cache).2.entries.map (·.1)).Nodup := by
  rcases apply_cases registry cache lookup with ⟨_, _, applied⟩ | ⟨found, search, _, applied⟩ |
    ⟨_, _, _, applied⟩
  · rwa [applied]
  · have fresh := (find_none_iff cache lookup.key).mp search
    rw [applied, List.map_append, List.map_singleton]
    exact distinct.append (List.nodup_singleton _) (List.disjoint_singleton.mpr fresh)
  · rwa [applied]

end

end NestedFilter
