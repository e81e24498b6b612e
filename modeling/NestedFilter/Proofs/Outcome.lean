import NestedFilter.Session

set_option autoImplicit false

namespace NestedFilter

variable {ε α β : Type}

theorem bind_ok_iff (x : Except ε α) (f : α → Except ε β) (b : β) :
    x >>= f = .ok b ↔ ∃ a, x = .ok a ∧ f a = .ok b := by
  cases x with
  | error e => simp [bind, Except.bind]
  | ok a => simp [bind, Except.bind]

theorem bind_error_iff (x : Except ε α) (f : α → Except ε β) (e : ε) :
    x >>= f = .error e ↔ x = .error e ∨ ∃ a, x = .ok a ∧ f a = .error e := by
  cases x with
  | error other => simp [bind, Except.bind]
  | ok a => simp [bind, Except.bind]

theorem map_ok_iff (x : Except ε α) (f : α → β) (b : β) :
    x.map f = .ok b ↔ ∃ a, x = .ok a ∧ f a = b := by
  cases x <;> simp [Except.map]

theorem map_fails_iff (x : Except ε α) (f : α → β) (e : ε) :
    x.map f = .error e ↔ x = .error e := by
  cases x <;> simp [Except.map]

@[simp]
theorem map_error_of_ok {δ : Type} (a : α) (f : ε → δ) :
    (.ok a : Except ε α).mapError f = .ok a := rfl

@[simp]
theorem map_error_of_error {δ : Type} (e : ε) (f : ε → δ) :
    (.error e : Except ε α).mapError f = .error (f e) := rfl

theorem map_error_ok_iff {δ : Type} (x : Except ε α) (f : ε → δ) (a : α) :
    x.mapError f = .ok a ↔ x = .ok a := by
  cases x <;> simp

theorem map_error_error_iff {δ : Type} (x : Except ε α) (f : ε → δ) (d : δ) :
    x.mapError f = .error d ↔ ∃ e, x = .error e ∧ f e = d := by
  cases x <;> simp

theorem map_all_cons_ok_iff (f : α → Except ε β) (a : α) (rest : List α) (bs : List β) :
    (a :: rest).mapM f = .ok bs ↔
      ∃ b others, f a = .ok b ∧ rest.mapM f = .ok others ∧ bs = b :: others := by
  simp only [List.mapM_cons, bind_ok_iff, pure, Except.pure, Except.ok.injEq]
  constructor
  · intro built
    obtain ⟨b, first, others, remaining, rfl⟩ := built
    exact ⟨b, others, first, remaining, rfl⟩
  · intro built
    obtain ⟨b, others, first, remaining, rfl⟩ := built
    exact ⟨b, first, others, remaining, rfl⟩

theorem map_all_mem_iff (f : α → Except ε β) (as : List α) (bs : List β)
    (mapped : as.mapM f = .ok bs) (b : β) : b ∈ bs ↔ ∃ a ∈ as, f a = .ok b := by
  induction as generalizing bs with
  | nil =>
      cases mapped
      simp
  | cons a rest ih =>
      obtain ⟨first, others, one, remaining, rfl⟩ := (map_all_cons_ok_iff _ _ _ _).mp mapped
      rw [List.mem_cons, ih others remaining, eq_comm]
      simp only [List.mem_cons, exists_eq_or_imp, one, Except.ok.injEq]

theorem map_all_total (f : α → Except ε β) (as : List α) (bs : List β)
    (mapped : as.mapM f = .ok bs) (a : α) (member : a ∈ as) : ∃ b, f a = .ok b := by
  induction as generalizing bs with
  | nil => cases member
  | cons other rest ih =>
      obtain ⟨first, others, one, remaining, rfl⟩ := (map_all_cons_ok_iff _ _ _ _).mp mapped
      rcases List.mem_cons.mp member with rfl | later
      · exact ⟨first, one⟩
      · exact ih others remaining later

theorem map_all_exists_iff (f : α → Except ε β) (as : List α) :
    (∃ bs, as.mapM f = .ok bs) ↔ ∀ a ∈ as, ∃ b, f a = .ok b := by
  constructor
  · rintro ⟨bs, mapped⟩
    exact map_all_total f as bs mapped
  · intro total
    induction as with
    | nil => exact ⟨[], rfl⟩
    | cons a rest ih =>
        obtain ⟨⟨b, first⟩, later⟩ := List.forall_mem_cons.mp total
        obtain ⟨others, remaining⟩ := ih later
        exact ⟨b :: others, (map_all_cons_ok_iff f a rest _).mpr ⟨b, others, first, remaining, rfl⟩⟩

theorem map_all_error_iff (f : α → Except ε β) (as : List α) (e : ε) :
    as.mapM f = .error e ↔
      ∃ before a after, as = before ++ a :: after ∧ (∀ b ∈ before, ∃ c, f b = .ok c) ∧
        f a = .error e := by
  induction as with
  | nil => simp [pure, Except.pure]
  | cons a rest ih =>
      rw [List.mapM_cons, bind_error_iff]
      constructor
      · rintro (first | ⟨b, first, later⟩)
        · exact ⟨[], a, rest, rfl, by simp, first⟩
        · rcases (bind_error_iff _ _ _).mp later with remaining | ⟨others, _, ended⟩
          · obtain ⟨before, other, after, rfl, passed, failed⟩ := ih.mp remaining
            exact ⟨a :: before, other, after, rfl,
              List.forall_mem_cons.mpr ⟨⟨b, first⟩, passed⟩, failed⟩
          · cases ended
      · rintro ⟨before, other, after, split, passed, failed⟩
        cases before with
        | nil =>
            obtain ⟨rfl, rfl⟩ := List.cons.inj split
            exact .inl failed
        | cons first before =>
            obtain ⟨rfl, rfl⟩ := List.cons.inj split
            obtain ⟨⟨b, done⟩, passed⟩ := List.forall_mem_cons.mp passed
            have remaining := ih.mpr ⟨before, other, after, rfl, passed, failed⟩
            exact .inr ⟨b, done, (bind_error_iff _ _ _).mpr (.inl remaining)⟩

theorem map_all_error (f : α → Except ε β) (as : List α) (e : ε)
    (failed : as.mapM f = .error e) : ∃ a ∈ as, f a = .error e := by
  obtain ⟨before, a, after, rfl, _, failed⟩ := (map_all_error_iff f as e).mp failed
  exact ⟨a, List.mem_append_right before List.mem_cons_self, failed⟩

namespace FilterM

def outcome (x : FilterM α) (session : Session) : Except FilterError α := (x.run session).1

def after (x : FilterM α) (session : Session) : Session := (x.run session).2

theorem session_bind (x : SessionM α) (f : α → SessionM β) (session : Session) :
    (x >>= f) session = f (x session).1 (x session).2 := rfl

theorem outcome_bind (x : FilterM α) (f : α → FilterM β) (session : Session) :
    outcome (x >>= f) session = outcome x session >>= fun a => outcome (f a) (after x session) := by
  simp only [outcome, after, ExceptT.run_bind]
  rw [session_bind]
  cases (x.run session).1 <;> rfl

theorem outcome_bind_ok (x : FilterM α) (f : α → FilterM β) (session : Session) (a : α)
    (done : outcome x session = .ok a) :
    outcome (x >>= f) session = outcome (f a) (after x session) := by
  rw [outcome_bind, done]
  rfl

theorem after_bind (x : FilterM α) (f : α → FilterM β) (session : Session) :
    after (x >>= f) session =
      match outcome x session with
      | .ok a => after (f a) (after x session)
      | .error _ => after x session := by
  simp only [outcome, after, ExceptT.run_bind]
  rw [session_bind]
  cases (x.run session).1 <;> rfl

theorem outcome_lift_pure (answer : Except FilterError α) (f : α → β) (session : Session) :
    (liftM answer >>= fun a => pure (f a) : FilterM β).outcome session =
      (answer >>= fun a => pure (f a)) := by
  cases answer <;> rfl

end FilterM

end NestedFilter
