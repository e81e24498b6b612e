import NestedFilter.Session

/-!
Plans: computations that look entities up, make records and fail, but leave it open where the
relations of an entity come from. In a session they come from its cache.
-/

set_option autoImplicit false

namespace NestedFilter

structure Lookup where
  naming : NamingStrategy
  schema : EntitySchema

inductive Plan (α : Type) where
  | answer (result : Except FilterError α)
  | log (severity : Severity) (text : String) (next : Plan α)
  | lookup (lookup : Lookup) (next : EntityRelations → Plan α)

namespace Plan

variable {α β : Type}

def bind : Plan α → (α → Plan β) → Plan β
  | answer (.ok a), f => f a
  | answer (.error error), _ => answer (.error error)
  | log severity text next, f => log severity text (next.bind f)
  | lookup asked next, f => lookup asked fun found => (next found).bind f

instance : Monad Plan where
  pure a := answer (.ok a)
  bind := bind

instance : MonadLift (Except FilterError) Plan := ⟨answer⟩

def relations (naming : NamingStrategy) (schema : EntitySchema) : Plan EntityRelations :=
  lookup ⟨naming, schema⟩ pure

def record (severity : Severity) (text : String) : Plan Unit := log severity text (pure ())

def run (registry : Registry) : Plan α → FilterM α
  | answer result => liftM result
  | log severity text next => do
      Session.log severity text
      next.run registry
  | lookup asked next => do
      let found ← Session.relations registry asked.naming asked.schema
      (next found).run registry

end Plan

end NestedFilter
