import NestedFilter.Decimal.Double

/-!
Numbers written in decimal digits, and the integers that 64-bit words can hold. `ofScientific?` is
the nearest double to the written number; `ofSignificand?` gathers the digits into a 64-bit word
first and scales that word afterwards, so it rounds more than once.
-/

set_option autoImplicit false

namespace NestedFilter.Decimal

def wordLimit : Nat := Nat.pow 2 64

def signedLimit : Nat := Nat.pow 2 63

def fitsSigned (n : Int) : Bool := -signedLimit ≤ n && n < signedLimit

def fitsWord (n : Int) : Bool := -signedLimit ≤ n && n < wordLimit

def digitValue (c : Char) : Nat := c.toNat - '0'.toNat

def digitsFrom (start : Nat) (digits : List Char) : Nat :=
  digits.foldl (fun n c => 10 * n + digitValue c) start

/-- Reads digits into `start` while the number fits 64 bits; gives the digits left over too. -/
def gatherDigits (start : Nat) : List Char → Nat × List Char
  | [] => (start, [])
  | c :: rest =>
      let next := 10 * start + digitValue c
      if next < wordLimit then gatherDigits next rest else (start, c :: rest)

namespace Double

def greatestPower : Nat := 308

def vanishingPower : Int := -324

/-- Nearest double to `± digits * 10 ^ exponent`. Numbers far beyond either end of the range are
told by their power of ten. -/
def ofScientific? (negative : Bool) (digits : Nat) (exponent : Int) : Option Double :=
  if digits = 0 ∨ (Nat.toDigits 10 digits).length + exponent ≤ vanishingPower then
    some (zero negative)
  else if greatestPower < exponent then none
  else if 0 ≤ exponent then ofFraction? negative (digits * Nat.pow 10 exponent.toNat) 1
  else ofFraction? negative digits (Nat.pow 10 (-exponent).toNat)

def powerOfTen? (n : Nat) : Option Double := ofScientific? false 1 n

def lower? (d : Double) : Nat → Option Double
  | 0 => some d
  | steps + 1 =>
      if d.isZero then some d
      else do (← d.div? (← powerOfTen? greatestPower)).lower? steps

def shiftDown? (d : Double) (places : Nat) : Option Double := do
  let steps := (places - 1) / greatestPower
  (← d.lower? steps).div? (← powerOfTen? (places - steps * greatestPower))

def shiftUp? (d : Double) (places : Nat) : Option Double :=
  if places ≤ greatestPower then do d.mul? (← powerOfTen? places)
  else if d.isZero then some d
  else none

/-- The significand rounded to a double and then scaled by the power of ten. -/
def ofSignificand? (negative : Bool) (significand : Nat) (exponent : Int) : Option Double := do
  let unscaled ← ofFraction? false significand 1
  let magnitude ←
    if 0 ≤ exponent then unscaled.shiftUp? exponent.toNat
    else unscaled.shiftDown? (-exponent).toNat
  pure (magnitude.withSign negative)

/-- Reads whole digits, fraction digits and a power of ten. Digits that no longer fit the
significand are dropped; dropped whole digits still count as places. -/
def ofDigits? (negative : Bool) (whole fraction : List Char) (exponent : Int) : Option Double :=
  let (high, dropped) := gatherDigits 0 whole
  let (significand, ignored) := gatherDigits high fraction
  let places : Int := (dropped.length : Int) - ((fraction.length : Int) - ignored.length)
  ofSignificand? negative significand (places + exponent)

end Double

end NestedFilter.Decimal
