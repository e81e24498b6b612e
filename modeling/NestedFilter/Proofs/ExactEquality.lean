import Mathlib.Algebra.Order.Field.Basic
import Mathlib.Algebra.Order.Ring.Rat
import NestedFilter.Proofs.Truth

/-!
Equality as an engine finds it. The engine that compares exactly finds two literals equal when they
are the same text, the same flag or the same number, so its equality is an equivalence.
-/

set_option autoImplicit false

namespace NestedFilter.Sql

def Engine.IsEquality (engine : Engine) : Prop :=
  Equivalence fun a b : Literal => engine.compare .equal a b = true

section

variable (engine : Engine) (equality : engine.IsEquality)

include equality

theorem equal_refl (a : Option Literal) (x : Literal) (stored : a = some x) : Equal engine a a :=
  ⟨x, x, stored, stored, equality.refl x⟩

theorem equal_symm (a b : Option Literal) (equal : Equal engine a b) : Equal engine b a := by
  obtain ⟨x, y, first, second, same⟩ := equal
  exact ⟨y, x, second, first, equality.symm same⟩

theorem equal_trans (a b c : Option Literal) (first : Equal engine a b)
    (second : Equal engine b c) : Equal engine a c := by
  obtain ⟨x, y, left, middle, same⟩ := first
  obtain ⟨z, w, again, right, other⟩ := second
  obtain rfl : y = z := Option.some.inj (middle.symm.trans again)
  exact ⟨x, w, left, right, equality.trans same other⟩

end

inductive Meaning where
  | flag (value : Bool)
  | number (value : Rat)
  | text (value : String)

def Literal.meaning : Literal → Meaning
  | .bool value => .flag value
  | .integer value => .number value
  | .double value =>
      let magnitude : Rat := value.fraction.1 / value.fraction.2
      .number (if value.negative then -magnitude else magnitude)
  | .text value => .text value

theorem fraction_denominator_pos (value : Decimal.Double) : 0 < value.fraction.2 := by
  unfold Decimal.Double.fraction
  split
  · exact Nat.one_pos
  · exact Nat.pow_pos Nat.two_pos

theorem fraction_meaning (literal : Literal) (numerator : Int) (denominator : Nat)
    (numeric : literal.fraction? = some (numerator, denominator)) :
    0 < denominator ∧ literal.meaning = .number (numerator / denominator) := by
  cases literal with
  | bool _ | text _ => cases numeric
  | integer value =>
      cases numeric
      exact ⟨Nat.one_pos, by simp [Literal.meaning]⟩
  | double value =>
      simp only [Literal.fraction?, Option.some.injEq, Prod.mk.injEq] at numeric
      obtain ⟨rfl, rfl⟩ := numeric
      refine ⟨fraction_denominator_pos value, ?_⟩
      cases negative : value.negative <;> simp [Literal.meaning, negative, neg_div]

theorem number_order_eq (m n : Int) (d e : Nat) (posD : 0 < d) (posE : 0 < e) :
    compare (m * e) (n * d) = .eq ↔ (m : Rat) / d = n / e := by
  have dNonzero : (d : Rat) ≠ 0 := Nat.cast_ne_zero.mpr posD.ne'
  have eNonzero : (e : Rat) ≠ 0 := Nat.cast_ne_zero.mpr posE.ne'
  rw [compare_eq_iff_eq, div_eq_div_iff dNonzero eNonzero]
  norm_cast

theorem number_order (a b : Literal) (m n : Int) (d e : Nat)
    (first : a.fraction? = some (m, d)) (second : b.fraction? = some (n, e)) :
    a.order? b = some (compare (m * e) (n * d)) := by
  cases a with
  | bool _ | text _ => cases first
  | integer _ | double _ => simp [Literal.order?, first, second]

theorem order_eq_iff (a b : Literal) : a.order? b = some .eq ↔ a.meaning = b.meaning := by
  cases first : a.fraction? with
  | some fraction =>
      obtain ⟨m, d⟩ := fraction
      obtain ⟨posD, meansA⟩ := fraction_meaning a m d first
      cases second : b.fraction? with
      | some other =>
          obtain ⟨n, e⟩ := other
          obtain ⟨posE, meansB⟩ := fraction_meaning b n e second
          rw [number_order a b m n d e first second, Option.some.injEq,
            number_order_eq m n d e posD posE, meansA, meansB, Meaning.number.injEq]
      | none =>
          cases a with
          | bool _ | text _ => cases first
          | integer _ | double _ =>
              cases b with
              | integer _ | double _ => cases second
              | bool _ | text _ => simp [Literal.order?, Literal.meaning, second]
  | none =>
      cases a with
      | integer _ | double _ => cases first
      | bool p =>
          cases b with
          | bool q => simp [Literal.order?, Literal.meaning]
          | integer _ | double _ | text _ => simp [Literal.order?, Literal.meaning, first]
      | text s =>
          cases b with
          | text t => simp [Literal.order?, Literal.meaning]
          | integer _ | double _ | bool _ => simp [Literal.order?, Literal.meaning, first]

theorem exact_equal_iff (a b : Literal) :
    Engine.exact.compare .equal a b = true ↔ a.meaning = b.meaning := by
  rw [← order_eq_iff]
  cases order : a.order? b with
  | none => simp [Engine.exact, order]
  | some found => cases found <;> simp [Engine.exact, order, Comparison.accepts]

theorem exact_equality : Engine.exact.IsEquality := by
  have same : (fun a b : Literal => Engine.exact.compare .equal a b = true) =
      fun a b => a.meaning = b.meaning := by
    funext a b
    exact propext (exact_equal_iff a b)
  rw [Engine.IsEquality, same]
  exact eq_equivalence.comap Literal.meaning

end NestedFilter.Sql
