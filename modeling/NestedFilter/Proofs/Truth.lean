import NestedFilter.Sql.Predicate

/-!
Predicates under three-valued logic. A reference is read in the innermost scope whose table it
names, so a sub-query sees the rows around it unless its own table hides them.
-/

set_option autoImplicit false

namespace NestedFilter.Sql

inductive Truth where
  | holds
  | fails
  | unknown
deriving DecidableEq, Repr

namespace Truth

def ofBool : Bool → Truth
  | true => holds
  | false => fails

def and : Truth → Truth → Truth
  | fails, _ => fails
  | _, fails => fails
  | holds, holds => holds
  | _, _ => unknown

def or : Truth → Truth → Truth
  | holds, _ => holds
  | _, holds => holds
  | fails, fails => fails
  | _, _ => unknown

def any (values : List Truth) : Truth := values.foldr or fails

theorem of_bool_holds (value : Bool) : ofBool value = holds ↔ value = true := by
  cases value <;> simp [ofBool]

theorem and_holds (a b : Truth) : a.and b = holds ↔ a = holds ∧ b = holds := by
  cases a <;> cases b <;> simp [and]

theorem or_holds (a b : Truth) : a.or b = holds ↔ a = holds ∨ b = holds := by
  cases a <;> cases b <;> simp [or]

theorem any_holds (values : List Truth) : any values = holds ↔ holds ∈ values := by
  induction values with
  | nil => simp [any]
  | cons value rest ih =>
      have step : any (value :: rest) = value.or (any rest) := rfl
      rw [step, or_holds, ih, List.mem_cons, eq_comm]

end Truth

-- Without a value a cell is NULL.
abbrev Row := String → Option Literal

abbrev Database := String → List Row

-- How an engine compares values that are not NULL, and which of them are LIKE a pattern.
structure Engine where
  compare : Comparison → Literal → Literal → Bool
  like : Literal → String → Bool

namespace Engine

def compareCells (engine : Engine) (comparison : Comparison) : Option Literal → Option Literal → Truth
  | some a, some b => .ofBool (engine.compare comparison a b)
  | _, _ => .unknown

def likeCell (engine : Engine) (pattern : String) : Option Literal → Truth
  | some a => .ofBool (engine.like a pattern)
  | none => .unknown

end Engine

namespace Literal

def fraction? : Literal → Option (Int × Nat)
  | .integer value => some (value, 1)
  | .double value =>
      let (numerator, denominator) := value.fraction
      some (if value.negative then -(numerator : Int) else numerator, denominator)
  | _ => none

def order? (a b : Literal) : Option Ordering :=
  match a, b with
  | .text s, .text t => some (compare s t)
  | .bool p, .bool q => some (compare p q)
  | _, _ =>
      match a.fraction?, b.fraction? with
      | some (m, d), some (n, e) => some (compare (m * e) (n * d))
      | _, _ => none

end Literal

def Comparison.accepts : Comparison → Ordering → Bool
  | .equal, order => order == .eq
  | .unequal, order => order != .eq
  | .greater, order => order == .gt
  | .greaterEqual, order => order != .lt
  | .less, order => order == .lt
  | .lessEqual, order => order != .gt

def matchesLike : List Char → List Char → Bool
  | [], text => text.isEmpty
  | '%' :: pattern, [] => matchesLike pattern []
  | '%' :: pattern, c :: text => matchesLike pattern (c :: text) || matchesLike ('%' :: pattern) text
  | '_' :: pattern, _ :: text => matchesLike pattern text
  | p :: pattern, c :: text => p == c && matchesLike pattern text
  | _ :: _, [] => false

-- Numbers by value, texts by code points; values of different kinds are only unequal.
def Engine.exact : Engine where
  compare comparison a b := ((a.order? b).map comparison.accepts).getD (comparison == .unequal)
  like
    | .text text, pattern => matchesLike pattern.toList text.toList
    | _, _ => false

structure Scope where
  table : String
  row : Row

def cell (scopes : List Scope) (column : ColumnRef) : Option Literal :=
  (scopes.find? fun scope => column.table.all (scope.table == ·)).bind (·.row column.name)

mutual

def Predicate.truth (engine : Engine) (database : Database) (scopes : List Scope) :
    Predicate → Truth
  | .compare column comparison value =>
      engine.compareCells comparison (cell scopes column) (some value)
  | .like column pattern => engine.likeCell pattern (cell scopes column)
  | .isNull column => .ofBool (cell scopes column).isNone
  | .isIn column items =>
      .any (items.map fun item => engine.compareCells .equal (cell scopes column) (some item))
  | .inQuery column projected table filter =>
      let selected := (database table).filter fun row =>
        Predicate.truthAll engine database (⟨table, row⟩ :: scopes) filter = .holds
      .any (selected.map fun row =>
        engine.compareCells .equal (cell scopes column) (cell (⟨table, row⟩ :: scopes) projected))
termination_by structural predicate => predicate

def Predicate.truthAll (engine : Engine) (database : Database) (scopes : List Scope) :
    List Predicate → Truth
  | [] => .holds
  | predicate :: rest =>
      (predicate.truth engine database scopes).and (truthAll engine database scopes rest)
termination_by structural predicates => predicates

end

def Equal (engine : Engine) (a b : Option Literal) : Prop :=
  ∃ x y, a = some x ∧ b = some y ∧ engine.compare .equal x y = true

theorem compare_cells_holds (engine : Engine) (a b : Option Literal) :
    engine.compareCells .equal a b = .holds ↔ Equal engine a b := by
  cases a <;> cases b <;> simp [Engine.compareCells, Equal, Truth.of_bool_holds]

theorem cell_own (table name : String) (row : Row) (outer : List Scope) :
    cell (⟨table, row⟩ :: outer) (qualified table name) = row name := by
  simp [cell, qualified]

theorem truth_all_holds (engine : Engine) (database : Database) (scopes : List Scope)
    (predicates : List Predicate) :
    Predicate.truthAll engine database scopes predicates = .holds ↔
      ∀ predicate ∈ predicates, predicate.truth engine database scopes = .holds := by
  induction predicates with
  | nil => simp [Predicate.truthAll]
  | cons predicate rest ih => rw [Predicate.truthAll, Truth.and_holds, ih, List.forall_mem_cons]

theorem is_in_holds (engine : Engine) (database : Database) (scopes : List Scope)
    (column : ColumnRef) (items : List Literal) :
    (Predicate.isIn column items).truth engine database scopes = .holds ↔
      ∃ item ∈ items, Equal engine (cell scopes column) (some item) := by
  rw [Predicate.truth, Truth.any_holds, List.mem_map]
  simp only [compare_cells_holds]

theorem in_query_holds (engine : Engine) (database : Database) (scopes : List Scope)
    (column projected : ColumnRef) (table : String) (filter : List Predicate) :
    (Predicate.inQuery column projected table filter).truth engine database scopes = .holds ↔
      ∃ row ∈ database table,
        (∀ predicate ∈ filter, predicate.truth engine database (⟨table, row⟩ :: scopes) = .holds) ∧
        Equal engine (cell scopes column) (cell (⟨table, row⟩ :: scopes) projected) := by
  rw [Predicate.truth, Truth.any_holds, List.mem_map]
  simp only [compare_cells_holds, List.mem_filter, decide_eq_true_eq, truth_all_holds, and_assoc]

end NestedFilter.Sql
