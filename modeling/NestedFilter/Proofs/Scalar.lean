import NestedFilter.Filter.Scalar
import NestedFilter.Proofs.Outcome

set_option autoImplicit false

namespace NestedFilter

open Json (Value)
open Sql (ColumnRef Literal Predicate)

def literalOf? : Value → Option Literal
  | .bool value => some (.bool value)
  | .number (.integer value) => some (.integer value)
  | .number (.double value) => some (.double value)
  | .string value => some (.text value)
  | _ => none

def percentForStar (c : Char) : Char := if c = '*' then '%' else c

-- A value is compared as its literal unless it is a text whose stars stand for any text.
inductive ScalarRule (column : ColumnRef) (wildcards : Bool) : Value → Predicate → Prop where
  | null : ScalarRule column wildcards .null (.isNull column)
  | like (text : String) (on : wildcards = true) (starred : '*' ∈ text.toList) :
      ScalarRule column wildcards (.string text)
        (.like column (String.ofList (text.toList.map percentForStar)))
  | equal (value : Value) (literal : Literal) (read : literalOf? value = some literal)
      (unstarred : ∀ text, value = .string text → wildcards = true → '*' ∉ text.toList) :
      ScalarRule column wildcards value (.compare column .equal literal)
  | list (items : List Value) (literals : List Literal)
      (read : items.map literalOf? = literals.map some) :
      ScalarRule column wildcards (.array items) (.isIn column literals)

theorem scalar_value_iff (field : String) (value : Value) (literal : Literal) :
    scalarValue field value = .ok literal ↔ literalOf? value = some literal := by
  cases value with
  | number value => cases value <;> simp [scalarValue, literalOf?]
  | _ => simp [scalarValue, literalOf?]

theorem scalar_values_iff (field : String) (items : List Value) (literals : List Literal) :
    items.mapM (scalarValue field) = .ok literals ↔ items.map literalOf? = literals.map some := by
  induction items generalizing literals with
  | nil =>
      cases literals with
      | nil => exact ⟨fun _ => rfl, fun _ => rfl⟩
      | cons literal others =>
          constructor
          · intro built
            cases built
          · intro read
            cases read
  | cons item rest ih =>
      rw [map_all_cons_ok_iff]
      constructor
      · intro built
        obtain ⟨literal, others, first, remaining, rfl⟩ := built
        rw [List.map_cons, List.map_cons, (scalar_value_iff field item literal).mp first,
          (ih others).mp remaining]
      · intro read
        cases literals with
        | nil => cases read
        | cons literal others =>
            obtain ⟨first, remaining⟩ := List.cons.inj read
            exact ⟨literal, others, (scalar_value_iff field item literal).mpr first,
              (ih others).mpr remaining, rfl⟩

theorem wildcard_pattern_starred (text : String) (starred : '*' ∈ text.toList) :
    wildcardPattern? text = some (String.ofList (text.toList.map percentForStar)) := by
  have contains : text.toList.contains wildcard = true := List.contains_iff_mem.mpr starred
  rw [wildcardPattern?, if_pos contains]
  rfl

theorem wildcard_pattern_unstarred (text : String) (unstarred : '*' ∉ text.toList) :
    wildcardPattern? text = none := by
  have absent : ¬ text.toList.contains wildcard = true :=
    fun contains => unstarred (List.contains_iff_mem.mp contains)
  rw [wildcardPattern?, if_neg absent]

theorem active_pattern_none (text : String) (wildcards : Bool)
    (unstarred : wildcards = true → '*' ∉ text.toList) :
    (if wildcards then wildcardPattern? text else none) = none := by
  by_cases on : wildcards = true
  · rw [if_pos on, wildcard_pattern_unstarred text (unstarred on)]
  · rw [if_neg on]

theorem scalar_rule_of_built (column : ColumnRef) (field : String) (value : Value)
    (wildcards : Bool) (predicate : Predicate)
    (built : scalarPredicate column field value wildcards = .ok predicate) :
    ScalarRule column wildcards value predicate := by
  cases value with
  | null =>
      cases built
      exact .null
  | bool value =>
      cases built
      exact .equal _ _ rfl (by simp)
  | number value =>
      obtain ⟨literal, converted, rfl⟩ := (map_ok_iff _ _ _).mp built
      exact .equal _ literal ((scalar_value_iff _ _ _).mp converted) (by simp)
  | string text =>
      by_cases starred : wildcards = true ∧ '*' ∈ text.toList
      · rw [scalarPredicate, if_pos starred.1, wildcard_pattern_starred text starred.2] at built
        cases built
        exact .like text starred.1 starred.2
      · have unstarred : wildcards = true → '*' ∉ text.toList := fun on star => starred ⟨on, star⟩
        rw [scalarPredicate, active_pattern_none text wildcards unstarred] at built
        cases built
        refine .equal _ _ rfl ?_
        intro other same
        cases same
        exact unstarred
  | array items =>
      obtain ⟨literals, listed, rfl⟩ := (map_ok_iff _ _ _).mp built
      exact .list items literals ((scalar_values_iff _ _ _).mp listed)
  | object inner => cases built

theorem built_of_scalar_rule (column : ColumnRef) (field : String) (value : Value)
    (wildcards : Bool) (predicate : Predicate)
    (rule : ScalarRule column wildcards value predicate) :
    scalarPredicate column field value wildcards = .ok predicate := by
  cases rule with
  | null => rfl
  | like text on starred => rw [scalarPredicate, if_pos on, wildcard_pattern_starred text starred]
  | equal _ literal read unstarred =>
      have converted := (scalar_value_iff field value literal).mpr read
      cases value with
      | null => cases read
      | array items => cases read
      | object inner => cases read
      | bool value => exact (map_ok_iff _ _ _).mpr ⟨literal, converted, rfl⟩
      | number value => exact (map_ok_iff _ _ _).mpr ⟨literal, converted, rfl⟩
      | string text =>
          rw [scalarPredicate, active_pattern_none text wildcards (unstarred text rfl)]
          cases read
          rfl
  | list items literals read =>
      have listed := (scalar_values_iff field items literals).mpr read
      exact (map_ok_iff _ _ _).mpr ⟨literals, listed, rfl⟩

theorem scalar_rule_iff (column : ColumnRef) (field : String) (value : Value) (wildcards : Bool)
    (predicate : Predicate) :
    scalarPredicate column field value wildcards = .ok predicate ↔
      ScalarRule column wildcards value predicate :=
  ⟨scalar_rule_of_built column field value wildcards predicate,
    built_of_scalar_rule column field value wildcards predicate⟩

theorem nested_value (value : Value) (nested : isNested value = true) :
    ∃ inner, value = .object inner := by
  cases value with
  | object inner => exact ⟨inner, rfl⟩
  | _ => simp [isNested] at nested

theorem literal_not_nested (value : Value) (literal : Literal)
    (read : literalOf? value = some literal) : isNested value = false := by
  cases value with
  | object inner => cases read
  | _ => rfl

theorem item_has_literal (items : List Value) (literals : List Literal)
    (read : items.map literalOf? = literals.map some) (item : Value) (member : item ∈ items) :
    ∃ literal ∈ literals, literalOf? item = some literal := by
  have listed : literalOf? item ∈ literals.map some := read ▸ List.mem_map_of_mem member
  obtain ⟨literal, found, same⟩ := List.mem_map.mp listed
  exact ⟨literal, found, same.symm⟩

theorem literal_has_item (items : List Value) (literals : List Literal)
    (read : items.map literalOf? = literals.map some) (literal : Literal)
    (member : literal ∈ literals) : ∃ item ∈ items, literalOf? item = some literal := by
  have listed : some literal ∈ items.map literalOf? := read ▸ List.mem_map_of_mem member
  exact List.mem_map.mp listed

-- A list that makes a predicate holds no nested filter: the partition asks nothing more of it.
theorem scalar_items_not_nested (column : ColumnRef) (wildcards : Bool) (items : List Value)
    (predicate : Predicate) (rule : ScalarRule column wildcards (.array items) predicate) :
    items.any isNested = false := by
  cases rule with
  | equal _ _ read => cases read
  | list _ literals read =>
      rw [List.any_eq_false]
      intro item member
      obtain ⟨literal, _, same⟩ := item_has_literal items literals read item member
      simp [literal_not_nested item literal same]

end NestedFilter
