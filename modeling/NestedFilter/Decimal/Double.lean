/-!
Finite binary floating-point numbers of 64 bits, held as a sign, a mantissa and a power of two,
and the rounding of a fraction to the nearest of them.
-/

set_option autoImplicit false

namespace NestedFilter.Decimal

/-- `± mantissa * 2 ^ exponent`, with the mantissa below `2 ^ 53` and the exponent the least one
that leaves it there. Zero keeps its sign. -/
structure Double where
  negative : Bool
  mantissa : Nat
  exponent : Int
deriving DecidableEq, Repr, Inhabited

namespace Double

def mantissaBits : Nat := 53
def leastExponent : Int := -1074
def greatestExponent : Int := 971

def zero (negative : Bool) : Double := ⟨negative, 0, leastExponent⟩

def isZero (d : Double) : Bool := d.mantissa == 0

def withSign (d : Double) (negative : Bool) : Double := { d with negative := negative }

def fraction (d : Double) : Nat × Nat :=
  if 0 ≤ d.exponent then (d.mantissa * Nat.pow 2 d.exponent.toNat, 1)
  else (d.mantissa, Nat.pow 2 (-d.exponent).toNat)

def roundEven (num den : Nat) : Nat :=
  let quotient := num / den
  let twice := 2 * (num % den)
  if den < twice ∨ (twice = den ∧ quotient % 2 = 1) then quotient + 1 else quotient

def scaled (num den : Nat) (exponent : Int) : Nat × Nat :=
  if 0 ≤ exponent then (num, den * Nat.pow 2 exponent.toNat)
  else (num * Nat.pow 2 (-exponent).toNat, den)

def fittingExponent (num den : Nat) : Int :=
  let least : Int := (num.log2 : Int) - (den.log2 : Int) - mantissaBits
  let (n, d) := scaled num den least
  if n < d * Nat.pow 2 mantissaBits then least else least + 1

def ofFraction? (negative : Bool) (num den : Nat) : Option Double :=
  if num = 0 then some (zero negative)
  else
    let exponent := max leastExponent (fittingExponent num den)
    let (n, d) := scaled num den exponent
    let mantissa := roundEven n d
    let rounded : Double :=
      if mantissa = Nat.pow 2 mantissaBits then
        ⟨negative, Nat.pow 2 (mantissaBits - 1), exponent + 1⟩
      else ⟨negative, mantissa, exponent⟩
    if greatestExponent < rounded.exponent then none else some rounded

def mul? (a b : Double) : Option Double :=
  let (an, ad) := a.fraction
  let (bn, bd) := b.fraction
  ofFraction? (a.negative != b.negative) (an * bn) (ad * bd)

def div? (a b : Double) : Option Double :=
  let (an, ad) := a.fraction
  let (bn, bd) := b.fraction
  ofFraction? (a.negative != b.negative) (an * bd) (ad * bn)

end Double

end NestedFilter.Decimal
