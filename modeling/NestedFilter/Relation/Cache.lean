import NestedFilter.Relation.Reflect

/-!
The cache of reflections. An entity is reflected once under each naming strategy; entries stay
until the cache is reset, and failed reflections are not kept.
-/

set_option autoImplicit false

namespace NestedFilter

structure CacheKey where
  entity : String
  fingerprint : String
deriving DecidableEq, Repr

structure RelationCache where
  entries : List (CacheKey × EntityRelations) := []
  /-- Number of reflections made so far, the failed ones among them. -/
  reflections : Nat := 0
deriving DecidableEq, Repr

namespace RelationCache

def empty : RelationCache := {}

def key (naming : NamingStrategy) (schema : EntitySchema) : CacheKey :=
  ⟨schema.name, naming.fingerprint⟩

def find? (cache : RelationCache) (key : CacheKey) : Option EntityRelations :=
  (cache.entries.find? (fun entry => entry.1 == key)).map (·.2)

def size (cache : RelationCache) : Nat := cache.entries.length

/-- Drops the entries; the count of reflections goes on. -/
def reset (cache : RelationCache) : RelationCache := { cache with entries := [] }

def fetch (registry : Registry) (naming : NamingStrategy) (schema : EntitySchema)
    (cache : RelationCache) : Except Collision EntityRelations × RelationCache :=
  let key := key naming schema
  match cache.find? key with
  | some found => (.ok found, cache)
  | none =>
      let reflections := cache.reflections + 1
      match reflect registry naming schema with
      | .ok found => (.ok found, ⟨cache.entries ++ [(key, found)], reflections⟩)
      | .error collision => (.error collision, ⟨cache.entries, reflections⟩)

end RelationCache

end NestedFilter
