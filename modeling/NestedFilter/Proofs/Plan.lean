import NestedFilter.Proofs.CacheLookup
import NestedFilter.Proofs.Outcome

/-!
What becomes of a plan: carried out on a cache it makes lookups in some order, and without a cache
every entity is reflected where it is needed. What it comes to in a session is what it comes to on
the cache of the session, up to the column that a collision reports.
-/

set_option autoImplicit false

namespace NestedFilter

inductive Refusal where
  | failed (error : FilterError)
  | collided (collision : Collision)

def Refusal.report (choice : Nat) : Refusal → FilterError
  | failed error => error
  | collided collision => collision.report choice

namespace Plan

variable {α : Type}

def eval (registry : Registry) : Plan α → RelationCache → Except Refusal α × RelationCache
  | answer result, cache => (result.mapError .failed, cache)
  | log _ _ next, cache => next.eval registry cache
  | lookup asked next, cache =>
      match asked.apply registry cache with
      | (.ok found, left) => (next found).eval registry left
      | (.error collision, left) => (.error (.collided collision), left)

def lookups (registry : Registry) : Plan α → RelationCache → List Lookup
  | answer _, _ => []
  | log _ _ next, cache => next.lookups registry cache
  | lookup asked next, cache =>
      match asked.apply registry cache with
      | (.ok found, left) => asked :: (next found).lookups registry left
      | (.error _, _) => [asked]

def direct (registry : Registry) : Plan α → Except Refusal α
  | answer result => result.mapError .failed
  | log _ _ next => next.direct registry
  | lookup asked next =>
      (asked.reflection registry).mapError .collided >>= fun found => (next found).direct registry

end Plan

section

variable {α β γ : Type}

theorem plan_bind_pure (plan : Plan α) : plan.bind (fun a => .answer (.ok a)) = plan := by
  induction plan with
  | answer result => cases result <;> rfl
  | log severity text next ih => simp only [Plan.bind, ih]
  | lookup asked next ih => simp only [Plan.bind, ih]

theorem plan_bind_assoc (plan : Plan α) (f : α → Plan β) (g : β → Plan γ) :
    (plan.bind f).bind g = plan.bind fun a => (f a).bind g := by
  induction plan with
  | answer result => cases result <;> rfl
  | log severity text next ih => simp only [Plan.bind, ih]
  | lookup asked next ih => simp only [Plan.bind, ih]

end

instance : LawfulMonad Plan :=
  LawfulMonad.mk' Plan (fun plan => plan_bind_pure plan) (fun _ _ => rfl)
    (fun plan f g => plan_bind_assoc plan f g)

section

variable {α β : Type} (registry : Registry)

theorem answer_bind (first : Except FilterError α) (next : α → Except FilterError β) :
    Plan.answer (first >>= next) = Plan.answer first >>= fun a => Plan.answer (next a) := by
  cases first <;> rfl

theorem relations_bind (naming : NamingStrategy) (schema : EntitySchema)
    (f : EntityRelations → Plan α) :
    Plan.relations naming schema >>= f = Plan.lookup ⟨naming, schema⟩ f := rfl

theorem lookup_bind (asked : Lookup) (next : EntityRelations → Plan α) (f : α → Plan β) :
    Plan.lookup asked next >>= f = Plan.lookup asked fun found => next found >>= f := rfl

theorem run_bind (plan : Plan α) (f : α → Plan β) :
    (plan >>= f).run registry = plan.run registry >>= fun a => (f a).run registry := by
  change (plan.bind f).run registry = _
  induction plan with
  | answer result => cases result <;> rfl
  | log severity text next ih => simp only [Plan.bind, Plan.run, ih, bind_assoc]
  | lookup asked next ih => simp only [Plan.bind, Plan.run, ih, bind_assoc]

theorem run_pure (a : α) : (pure a : Plan α).run registry = pure a := rfl

theorem run_answer (result : Except FilterError α) :
    (Plan.answer result).run registry = liftM result := rfl

theorem run_relations (naming : NamingStrategy) (schema : EntitySchema) :
    (Plan.relations naming schema).run registry = Session.relations registry naming schema := by
  change Session.relations registry naming schema >>= pure = _
  exact bind_pure _

theorem run_record (severity : Severity) (text : String) :
    (Plan.record severity text).run registry = liftM (Session.log severity text) := by
  change liftM (Session.log severity text) >>= pure = _
  exact bind_pure _

theorem direct_bind (plan : Plan α) (f : α → Plan β) :
    (plan >>= f).direct registry = plan.direct registry >>= fun a => (f a).direct registry := by
  change (plan.bind f).direct registry = _
  induction plan with
  | answer result => cases result <;> rfl
  | log severity text next ih => exact ih
  | lookup asked next ih => simp only [Plan.bind, Plan.direct, ih, bind_assoc]

theorem direct_pure (a : α) : (pure a : Plan α).direct registry = .ok a := rfl

theorem direct_answer (result : Except FilterError α) :
    (Plan.answer result).direct registry = result.mapError .failed := rfl

theorem direct_record (severity : Severity) (text : String) :
    (Plan.record severity text).direct registry = .ok () := rfl

theorem direct_relations (naming : NamingStrategy) (schema : EntitySchema) :
    (Plan.relations naming schema).direct registry =
      (reflect registry naming schema).mapError Refusal.collided := by
  change (reflect registry naming schema).mapError Refusal.collided >>= pure = _
  exact bind_pure _

end

section

variable {α : Type} (registry : Registry)

theorem run_eval (plan : Plan α) (session : Session) :
    let (result, left) := plan.eval registry session.cache
    (plan.run registry).outcome session =
        result.mapError (Refusal.report (session.choices left.reflections)) ∧
      ((plan.run registry).after session).cache = left ∧
      ((plan.run registry).after session).choices = session.choices := by
  induction plan generalizing session with
  | answer result => cases result <;> exact ⟨rfl, rfl, rfl⟩
  | log severity text next ih =>
      rw [Plan.run, FilterM.outcome_bind, FilterM.after_bind]
      exact ih _
  | lookup asked next ih =>
      rw [Plan.run, FilterM.outcome_bind, FilterM.after_bind, Plan.eval]
      let left := FilterM.after (Session.relations registry asked.naming asked.schema) session
      have cache : left.cache = (asked.apply registry session.cache).2 := rfl
      have found : FilterM.outcome (Session.relations registry asked.naming asked.schema) session =
          (asked.apply registry session.cache).1.mapError
            (·.report (session.choices left.cache.reflections)) := rfl
      rw [found]
      cases applied : asked.apply registry session.cache with
      | mk result later =>
          rw [applied] at cache
          cases result with
          | error collision => exact ⟨by rw [cache]; rfl, cache, rfl⟩
          | ok entity =>
              have remaining := ih entity left
              rw [cache] at remaining
              exact remaining

theorem run_ok_iff (plan : Plan α) (session : Session) (a : α) :
    (plan.run registry).outcome session = .ok a ↔
      (plan.eval registry session.cache).1 = .ok a := by
  rw [(run_eval registry plan session).1, map_error_ok_iff]

theorem run_after (plan : Plan α) (session : Session) :
    ((plan.run registry).after session).cache = (plan.eval registry session.cache).2 :=
  (run_eval registry plan session).2.1

theorem eval_extends (plan : Plan α) (cache : RelationCache) :
    cache.Extends (plan.eval registry cache).2 := by
  induction plan generalizing cache with
  | answer result => exact extends_refl cache
  | log severity text next ih => exact ih cache
  | lookup asked next ih =>
      have first := apply_extends registry cache asked
      rw [Plan.eval]
      cases applied : asked.apply registry cache with
      | mk result left =>
          rw [applied] at first
          cases result with
          | error collision => exact first
          | ok found => exact extends_trans cache left _ first (ih found left)

theorem eval_collision (plan : Plan α) (cache : RelationCache) (collision : Collision)
    (failed : (plan.eval registry cache).1 = .error (.collided collision)) :
    ∃ asked ∈ plan.lookups registry cache, asked.reflection registry = .error collision := by
  induction plan generalizing cache with
  | answer result =>
      obtain ⟨error, _, same⟩ := (map_error_error_iff _ _ _).mp failed
      cases same
  | log severity text next ih => exact ih cache failed
  | lookup asked next ih =>
      rw [Plan.lookups]
      rw [Plan.eval] at failed
      rcases apply_cases registry cache asked with ⟨found, _, applied⟩ | ⟨found, _, _, applied⟩ |
        ⟨other, _, refused, applied⟩
      · rw [applied] at failed ⊢
        obtain ⟨later, listed, same⟩ := ih found _ failed
        exact ⟨later, List.mem_cons_of_mem asked listed, same⟩
      · rw [applied] at failed ⊢
        obtain ⟨later, listed, same⟩ := ih found _ failed
        exact ⟨later, List.mem_cons_of_mem asked listed, same⟩
      · rw [applied] at failed ⊢
        cases failed
        exact ⟨asked, List.mem_singleton.mpr rfl, refused⟩

end

-- Outcomes that are the same, or that report two columns of one collision.
def SameReport {α : Type} (known : Collision → Prop) (a b : Except FilterError α) : Prop :=
  a = b ∨ ∃ collision choice other, known collision ∧
    a = .error (collision.report choice) ∧ b = .error (collision.report other)

theorem same_report_ok_iff {α : Type} (known : Collision → Prop) (a b : Except FilterError α)
    (same : SameReport known a b) (result : α) : a = .ok result ↔ b = .ok result := by
  rcases same with rfl | ⟨collision, choice, other, _, rfl, rfl⟩
  · rfl
  · exact ⟨nofun, nofun⟩

theorem same_report_map {α β : Type} (known : Collision → Prop) (a b : Except FilterError α)
    (same : SameReport known a b) (f : α → β) : SameReport known (a.map f) (b.map f) := by
  rcases same with rfl | ⟨collision, choice, other, met, rfl, rfl⟩
  · exact .inl rfl
  · exact .inr ⟨collision, choice, other, met, rfl, rfl⟩

theorem same_report_of_result {α : Type} (known : Collision → Prop) (result : Except Refusal α)
    (all : ∀ collision, result = .error (.collided collision) → known collision)
    (choice other : Nat) :
    SameReport known (result.mapError (Refusal.report choice))
      (result.mapError (Refusal.report other)) := by
  cases result with
  | ok a => exact .inl rfl
  | error refusal =>
      cases refusal with
      | failed error => exact .inl rfl
      | collided collision =>
          exact .inr ⟨collision, choice, other, all collision rfl, rfl, rfl⟩

def Plan.Meets {α : Type} (plan : Plan α) (registry : Registry) (cache : RelationCache)
    (collision : Collision) : Prop :=
  ∃ asked ∈ plan.lookups registry cache, asked.reflection registry = .error collision

theorem run_same_report {α : Type} (registry : Registry) (plan : Plan α)
    (session other : Session) (same : session.cache = other.cache) :
    SameReport (plan.Meets registry session.cache) ((plan.run registry).outcome session)
      ((plan.run registry).outcome other) := by
  rw [(run_eval registry plan session).1, (run_eval registry plan other).1, ← same]
  exact same_report_of_result _ _ (eval_collision registry plan session.cache) _ _

theorem run_same_choices {α : Type} (registry : Registry) (plan : Plan α)
    (session other : Session) (same : session.cache = other.cache)
    (choices : session.choices = other.choices) :
    (plan.run registry).outcome session = (plan.run registry).outcome other := by
  rw [(run_eval registry plan session).1, (run_eval registry plan other).1, same, choices]

theorem run_same_cache {α : Type} (registry : Registry) (plan : Plan α)
    (session other : Session) (same : session.cache = other.cache) :
    ((plan.run registry).after session).cache = ((plan.run registry).after other).cache := by
  rw [run_after, run_after, same]

end NestedFilter
