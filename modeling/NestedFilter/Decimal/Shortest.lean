import NestedFilter.Decimal.Double

/-!
The shortest decimal text of a double: the fewest digits that still round to it, and of those the
nearest. It is written without exponent.
-/

set_option autoImplicit false

namespace NestedFilter.Decimal

structure Digits where
  digits : Nat
  power : Int
deriving DecidableEq, Repr

namespace Double

/-- The magnitudes that round to `d`, in units of a quarter of its last place: lower and upper
end. Below a power of two the doubles lie twice as dense. -/
def quarterBounds (d : Double) : Nat × Nat :=
  let low :=
    if d.mantissa = Nat.pow 2 (mantissaBits - 1) ∧ leastExponent < d.exponent then 4 * d.mantissa - 1
    else 4 * d.mantissa - 2
  (low, 4 * d.mantissa + 2)

def onGrid (d : Double) (quarters : Nat) (power : Int) : Nat × Nat :=
  let (n, m) := scaled quarters 4 (-d.exponent)
  if 0 ≤ power then (n, m * Nat.pow 10 power.toNat) else (n * Nat.pow 10 (-power).toNat, m)

/-- Whether `point * 10 ^ power` rounds to `d`; the ends do when the mantissa is even. -/
def roundsTo (d : Double) (point : Nat) (power : Int) : Bool :=
  let (ln, ld) := d.onGrid d.quarterBounds.1 power
  let (un, ud) := d.onGrid d.quarterBounds.2 power
  if d.mantissa % 2 = 0 then ln ≤ point * ld && point * ud ≤ un
  else ln < point * ld && point * ud < un

def nearestOnGrid? (d : Double) (power : Int) : Option Nat :=
  let (n, m) := d.onGrid (4 * d.mantissa) power
  let below := n / m
  match d.roundsTo below power, d.roundsTo (below + 1) power with
  | true, true => some (if 2 * (n % m) < m then below else below + 1)
  | true, false => some below
  | false, true => some (below + 1)
  | false, false => none

def leadingPower (n m : Nat) : Int :=
  if m ≤ n then (Nat.toDigits 10 (n / m)).length
  else 1 - (Nat.toDigits 10 ((m - 1) / n)).length

def shortestFrom (d : Double) (top : Int) : Nat → Nat → Digits
  | 0, _ => ⟨0, 0⟩
  | more + 1, count =>
      match d.nearestOnGrid? (top - count) with
      | some digits => if digits = Nat.pow 10 count then ⟨1, top⟩ else ⟨digits, top - count⟩
      | none => shortestFrom d top more (count + 1)

def sufficientDigits : Nat := 17

def shortest (d : Double) : Digits :=
  if d.isZero then ⟨0, 0⟩
  else
    let (n, m) := d.fraction
    shortestFrom d (leadingPower n m) sufficientDigits 1

end Double

def Digits.text (d : Digits) : String :=
  let digits := Nat.toDigits 10 d.digits
  if 0 ≤ d.power then String.ofList (digits ++ List.replicate d.power.toNat '0')
  else
    let places := (-d.power).toNat
    let padded := List.replicate (places + 1 - digits.length) '0' ++ digits
    let whole := padded.take (padded.length - places)
    let part := padded.drop (padded.length - places)
    String.ofList (whole ++ ['.'] ++ part)

def Double.text (d : Double) : String :=
  (if d.negative then "-" else "") ++
    (if d.isZero then "0" else d.shortest.text)

end NestedFilter.Decimal
