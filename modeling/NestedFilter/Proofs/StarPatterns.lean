import Mathlib.Data.List.Forall2
import NestedFilter.Proofs.Scalar
import NestedFilter.Proofs.Truth

/-!
Which texts a pattern matches. With wildcards on a filter text that holds a star selects the texts
that it matches as a pattern, in which percent signs and underscores are as active as the stars.
-/

set_option autoImplicit false

namespace NestedFilter.Sql

inductive Sign where
  | run
  | single
  | itself
deriving DecidableEq, Repr

def Sign.Takes (sign : Sign) (p : Char) (piece : List Char) : Prop :=
  match sign with
  | .run => True
  | .single => ∃ c, piece = [c]
  | .itself => piece = [p]

-- The text can be cut into pieces, one for each character of the pattern to take.
def Matches (reads : Char → Sign) (pattern text : List Char) : Prop :=
  ∃ pieces, List.Forall₂ (fun p piece => (reads p).Takes p piece) pattern pieces ∧
    pieces.flatten = text

def likeSign (c : Char) : Sign := if c = '%' then .run else if c = '_' then .single else .itself

def globSign (c : Char) : Sign := if c = '*' then .run else .itself

section

variable (reads : Char → Sign)

theorem matches_nil_iff (text : List Char) : Matches reads [] text ↔ text = [] := by
  simp [Matches, eq_comm]

theorem matches_cons_iff (p : Char) (pattern text : List Char) :
    Matches reads (p :: pattern) text ↔
      ∃ piece rest, (reads p).Takes p piece ∧ Matches reads pattern rest ∧ text = piece ++ rest := by
  constructor
  · intro cut
    obtain ⟨_, taken, rfl⟩ := cut
    obtain ⟨piece, pieces, first, others, rfl⟩ := List.forall₂_cons_left_iff.mp taken
    exact ⟨piece, pieces.flatten, first, ⟨pieces, others, rfl⟩, List.flatten_cons⟩
  · intro cut
    obtain ⟨piece, _, first, ⟨pieces, others, rfl⟩, rfl⟩ := cut
    exact ⟨piece :: pieces, .cons first others, List.flatten_cons⟩

theorem matches_run_nil_iff (p : Char) (pattern : List Char) (run : reads p = .run) :
    Matches reads (p :: pattern) [] ↔ Matches reads pattern [] := by
  simp only [matches_cons_iff, run, Sign.Takes, true_and]
  constructor
  · intro cut
    obtain ⟨_, _, later, same⟩ := cut
    obtain ⟨rfl, rfl⟩ := List.append_eq_nil_iff.mp same.symm
    exact later
  · intro later
    exact ⟨[], [], later, rfl⟩

theorem matches_run_cons_iff (p c : Char) (pattern text : List Char) (run : reads p = .run) :
    Matches reads (p :: pattern) (c :: text) ↔
      Matches reads pattern (c :: text) ∨ Matches reads (p :: pattern) text := by
  simp only [matches_cons_iff, run, Sign.Takes, true_and]
  constructor
  · intro cut
    obtain ⟨piece, rest, later, same⟩ := cut
    cases piece with
    | nil => exact .inl (same ▸ later)
    | cons d piece =>
        obtain ⟨_, same⟩ := List.cons.inj same
        exact .inr ⟨piece, rest, later, same⟩
  · intro cut
    obtain later | ⟨piece, rest, later, rfl⟩ := cut
    · exact ⟨[], c :: text, later, rfl⟩
    · exact ⟨c :: piece, rest, later, rfl⟩

theorem matches_single_iff (p : Char) (pattern text : List Char) (single : reads p = .single) :
    Matches reads (p :: pattern) text ↔ ∃ c rest, text = c :: rest ∧ Matches reads pattern rest := by
  simp only [matches_cons_iff, single, Sign.Takes]
  constructor
  · intro cut
    obtain ⟨_, rest, ⟨c, rfl⟩, later, rfl⟩ := cut
    exact ⟨c, rest, rfl, later⟩
  · intro cut
    obtain ⟨c, rest, rfl, later⟩ := cut
    exact ⟨[c], rest, ⟨c, rfl⟩, later, rfl⟩

theorem matches_itself_iff (p : Char) (pattern text : List Char) (itself : reads p = .itself) :
    Matches reads (p :: pattern) text ↔ ∃ rest, text = p :: rest ∧ Matches reads pattern rest := by
  simp only [matches_cons_iff, itself, Sign.Takes]
  constructor
  · intro cut
    obtain ⟨_, rest, rfl, later, rfl⟩ := cut
    exact ⟨rest, rfl, later⟩
  · intro cut
    obtain ⟨rest, rfl, later⟩ := cut
    exact ⟨[p], rest, rfl, later, rfl⟩

theorem itself_in_text (pattern text : List Char) (matched : Matches reads pattern text) (c : Char)
    (listed : c ∈ pattern) (itself : reads c = .itself) : c ∈ text := by
  induction pattern generalizing text with
  | nil => cases listed
  | cons p pattern ih =>
      obtain ⟨piece, rest, taken, later, rfl⟩ := (matches_cons_iff reads p pattern text).mp matched
      rcases List.mem_cons.mp listed with rfl | inRest
      · rw [itself] at taken
        obtain rfl : piece = [c] := taken
        exact List.mem_append_left rest (List.mem_singleton_self c)
      · exact List.mem_append_right piece (ih rest later inRest)

-- A text that a pattern matches, in which no run takes anything.
def sample (pattern : List Char) : List Char :=
  pattern.flatMap fun p =>
    match reads p with
    | .run => []
    | .single => ['x']
    | .itself => [p]

theorem sample_matches (pattern : List Char) : Matches reads pattern (sample reads pattern) := by
  induction pattern with
  | nil => exact ⟨[], .nil, rfl⟩
  | cons p pattern ih =>
      refine (matches_cons_iff reads p pattern _).mpr ⟨_, _, ?_, ih, List.flatMap_cons⟩
      cases sign : reads p with
      | run => trivial
      | single => exact ⟨'x', rfl⟩
      | itself => rfl

theorem sample_signs (pattern : List Char) (c : Char) (listed : c ∈ sample reads pattern) :
    c = 'x' ∨ reads c = .itself := by
  obtain ⟨p, _, taken⟩ := List.mem_flatMap.mp listed
  cases sign : reads p with
  | run => simp [sign] at taken
  | single => exact .inl (by simpa [sign] using taken)
  | itself =>
      obtain rfl : c = p := by simpa [sign] using taken
      exact .inr sign

theorem matches_of_takes (other : Char → Sign) (pattern text : List Char)
    (wider : ∀ p ∈ pattern, ∀ piece, (reads p).Takes p piece → (other p).Takes p piece)
    (matched : Matches reads pattern text) : Matches other pattern text := by
  induction pattern generalizing text with
  | nil => exact (matches_nil_iff other text).mpr ((matches_nil_iff reads text).mp matched)
  | cons p pattern ih =>
      obtain ⟨first, others⟩ := List.forall_mem_cons.mp wider
      obtain ⟨piece, rest, taken, later, rfl⟩ := (matches_cons_iff reads p pattern text).mp matched
      exact (matches_cons_iff other p pattern _).mpr
        ⟨piece, rest, first piece taken, ih rest others later, rfl⟩

theorem matches_map_iff (replace : Char → Char)
    (kept : ∀ p, reads (replace p) = .itself → replace p = p) (pattern text : List Char) :
    Matches reads (pattern.map replace) text ↔
      Matches (fun p => reads (replace p)) pattern text := by
  have same : ∀ p piece,
      (reads (replace p)).Takes (replace p) piece ↔ (reads (replace p)).Takes p piece := by
    intro p piece
    cases sign : reads (replace p) with
    | itself => rw [kept p sign]
    | run | single => rfl
  simp only [Matches, List.forall₂_map_left_iff, same]

end

theorem like_itself (p : Char) (noRun : p ≠ '%') (noSingle : p ≠ '_') : likeSign p = .itself := by
  rw [likeSign, if_neg noRun, if_neg noSingle]

theorem matches_like_iff (pattern text : List Char) :
    matchesLike pattern text = true ↔ Matches likeSign pattern text := by
  fun_induction matchesLike pattern text with
  | case1 text => rw [matches_nil_iff, List.isEmpty_iff]
  | case2 pattern ih => rw [ih, matches_run_nil_iff likeSign '%' pattern rfl]
  | case3 pattern c text ends goesOn =>
      rw [matches_run_cons_iff likeSign '%' c pattern text rfl, ← ends, ← goesOn,
        Bool.or_eq_true]
  | case4 pattern c text ih =>
      rw [matches_single_iff likeSign '_' pattern _ rfl, ih]
      simp
  | case5 p pattern c text noRun noSingle ih =>
      rw [matches_itself_iff likeSign p pattern _ (like_itself p noRun noSingle),
        Bool.and_eq_true, beq_iff_eq, ih]
      constructor
      · rintro ⟨rfl, later⟩
        exact ⟨text, rfl, later⟩
      · rintro ⟨_, same, later⟩
        cases same
        exact ⟨rfl, later⟩
  | case6 p pattern noRun =>
      refine iff_of_false Bool.false_ne_true ?_
      intro matched
      by_cases single : p = '_'
      · subst single
        obtain ⟨c, rest, same, _⟩ := (matches_single_iff likeSign '_' pattern [] rfl).mp matched
        cases same
      · obtain ⟨rest, same, _⟩ :=
          (matches_itself_iff likeSign p pattern [] (like_itself p noRun single)).mp matched
        cases same

def Engine.StandardLike (engine : Engine) : Prop :=
  ∀ text pattern, engine.like (.text text) pattern = true ↔
    Matches likeSign pattern.toList text.toList

theorem exact_like : Engine.exact.StandardLike :=
  fun text pattern => matches_like_iff pattern.toList text.toList

end NestedFilter.Sql

namespace NestedFilter

open Sql (ColumnRef Engine Matches Sign cell globSign likeSign qualified)

def starSign (c : Char) : Sign := likeSign (percentForStar c)

theorem itself_not_replaced (c : Char) (itself : likeSign (percentForStar c) = .itself) :
    percentForStar c = c := by
  by_cases star : c = '*'
  · subst star
    cases itself
  · exact if_neg star

theorem star_sign_glob (c : Char) (noPercent : c ≠ '%') (noUnderscore : c ≠ '_') :
    starSign c = globSign c := by
  by_cases star : c = '*'
  · subst star
    rfl
  · rw [starSign, percentForStar, if_neg star, Sql.like_itself c noPercent noUnderscore, globSign,
      if_neg star]

theorem star_takes_glob (p : Char) (piece : List Char) (taken : (globSign p).Takes p piece) :
    (starSign p).Takes p piece := by
  by_cases star : p = '*'
  · subst star
    trivial
  · rw [globSign, if_neg star] at taken
    obtain rfl : piece = [p] := taken
    cases sign : starSign p with
    | run => trivial
    | single => exact ⟨p, rfl⟩
    | itself => rfl

theorem glob_matches_star (pattern text : List Char) (matched : Matches globSign pattern text) :
    Matches starSign pattern text :=
  Sql.matches_of_takes globSign starSign pattern text (fun p _ => star_takes_glob p) matched

theorem readings_part (pattern : List Char) (c : Char) (listed : c ∈ pattern)
    (active : starSign c ≠ .itself) (itself : globSign c = .itself) (notSample : c ≠ 'x') :
    ¬ Matches globSign pattern (Sql.sample starSign pattern) := by
  -- The sample text lacks the signs that the glob asks for.
  intro matched
  have inSample := Sql.itself_in_text globSign pattern _ matched c listed itself
  rcases Sql.sample_signs starSign pattern c inSample with same | plain
  · exact notSample same
  · exact active plain

theorem readings_agree_iff (pattern : List Char) :
    (∀ text, Matches starSign pattern text ↔ Matches globSign pattern text) ↔
      '%' ∉ pattern ∧ '_' ∉ pattern := by
  constructor
  · intro agree
    have matched := (agree _).mp (Sql.sample_matches starSign pattern)
    constructor
    · intro percent
      exact readings_part pattern '%' percent (by decide) (by decide) (by decide) matched
    · intro underscore
      exact readings_part pattern '_' underscore (by decide) (by decide) (by decide) matched
  · rintro ⟨noPercent, noUnderscore⟩ text
    refine ⟨?_, glob_matches_star pattern text⟩
    apply Sql.matches_of_takes
    intro p listed piece taken
    rwa [← star_sign_glob p (fun same => noPercent (same ▸ listed))
      (fun same => noUnderscore (same ▸ listed))]

theorem starred_predicate_holds (engine : Engine) (standard : engine.StandardLike)
    (database : Sql.Database) (scopes : List Sql.Scope) (column : ColumnRef) (s text : String)
    (stored : cell scopes column = some (.text text)) :
    (Sql.Predicate.like column (String.ofList (s.toList.map percentForStar))).truth engine database
        scopes = .holds ↔ Matches starSign s.toList text.toList := by
  rw [Sql.Predicate.truth, stored, Engine.likeCell, Sql.Truth.of_bool_holds, standard,
    String.toList_ofList, Sql.matches_map_iff likeSign percentForStar itself_not_replaced]
  rfl

theorem starred_text_is_pattern (engine : Engine) (standard : engine.StandardLike)
    (column : ColumnRef) (field s : String) (starred : '*' ∈ s.toList) :
    ∃ predicate, scalarPredicate column field (.string s) true = .ok predicate ∧
      (∀ database scopes text, cell scopes column = some (.text text) →
        (predicate.truth engine database scopes = .holds ↔
          Matches starSign s.toList text.toList)) ∧
      (∀ text : String, Matches globSign s.toList text.toList →
        Matches starSign s.toList text.toList) ∧
      ((∀ text : String, Matches starSign s.toList text.toList ↔
          Matches globSign s.toList text.toList) ↔ '%' ∉ s.toList ∧ '_' ∉ s.toList) := by
  refine ⟨_, (scalar_rule_iff column field (.string s) true _).mpr (.like s rfl starred), ?_, ?_, ?_⟩
  · intro database scopes text stored
    exact starred_predicate_holds engine standard database scopes column s text stored
  · intro text
    exact glob_matches_star s.toList text.toList
  · rw [← readings_agree_iff s.toList]
    constructor
    · intro agree text
      simpa only [String.toList_ofList] using agree (String.ofList text)
    · intro agree text
      exact agree text.toList

def namedRow (name : String) : Sql.Row := fun column =>
  if column = "name" then some (.text name) else none

theorem starred_name_is_pattern :
    Engine.exact.StandardLike ∧ '*' ∈ "J_*".toList ∧
      ∃ predicate,
        scalarPredicate (qualified "people" "name") "name" (.string "J_*") true = .ok predicate ∧
        ∀ name, predicate.truth .exact (fun _ => []) [⟨"people", namedRow name⟩] = .holds ↔
          Matches starSign "J_*".toList name.toList := by
  obtain ⟨predicate, built, selects, _⟩ := starred_text_is_pattern .exact Sql.exact_like
    (qualified "people" "name") "name" "J_*" (by decide)
  exact ⟨Sql.exact_like, by decide, predicate, built, fun name => selects _ _ name rfl⟩

theorem selected_beyond_glob (s text : String) (c : Char) (starred : '*' ∈ s.toList)
    (matched : Matches starSign s.toList text.toList) (listed : c ∈ s.toList)
    (itself : globSign c = .itself) (absent : c ∉ text.toList) :
    ∃ predicate,
      scalarPredicate (qualified "people" "name") "name" (.string s) true = .ok predicate ∧
      predicate.truth .exact (fun _ => []) [⟨"people", namedRow text⟩] = .holds ∧
      ¬ Matches globSign s.toList text.toList := by
  have built := (scalar_rule_iff (qualified "people" "name") "name" (.string s) true _).mpr
    (.like s rfl starred)
  refine ⟨_, built, ?_, ?_⟩
  · exact (starred_predicate_holds .exact Sql.exact_like _ _ _ s text rfl).mpr matched
  · intro glob
    exact absent (Sql.itself_in_text globSign s.toList text.toList glob c listed itself)

-- An underscore beside a star lets any character through, and a percent sign any run of them.
theorem underscore_and_percent_stay_active :
    ('*' ∈ "a_*".toList ∧ ∃ predicate,
      scalarPredicate (qualified "people" "name") "name" (.string "a_*") true = .ok predicate ∧
      predicate.truth .exact (fun _ => []) [⟨"people", namedRow "abc"⟩] = .holds ∧
      ¬ Matches globSign "a_*".toList "abc".toList) ∧
    '*' ∈ "5%*".toList ∧ ∃ predicate,
      scalarPredicate (qualified "people" "name") "name" (.string "5%*") true = .ok predicate ∧
      predicate.truth .exact (fun _ => []) [⟨"people", namedRow "50"⟩] = .holds ∧
      ¬ Matches globSign "5%*".toList "50".toList := by
  have underscore : Matches starSign "a_*".toList "abc".toList :=
    ⟨[['a'], ['b'], ['c']], .cons rfl (.cons ⟨'b', rfl⟩ (.cons trivial .nil)), rfl⟩
  have percent : Matches starSign "5%*".toList "50".toList :=
    ⟨[['5'], ['0'], []], .cons rfl (.cons trivial (.cons trivial .nil)), rfl⟩
  exact ⟨⟨by decide, selected_beyond_glob "a_*" "abc" '_' (by decide) underscore (by decide)
      (by decide) (by decide)⟩,
    by decide, selected_beyond_glob "5%*" "50" '%' (by decide) percent (by decide) (by decide)
      (by decide)⟩

end NestedFilter
