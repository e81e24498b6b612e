import NestedFilter.Toml.Value
import NestedFilter.Toml.Scanner
import NestedFilter.Decimal.Reading

set_option autoImplicit false

namespace NestedFilter.Toml

open NestedFilter.Decimal

def wholeDigits? : List Char → Option (List Char × List Char)
  | '0' :: rest => some (['0'], rest)
  | cs => digits? Char.isDigit cs

def exponent? : List Char → Option (Int × List Char)
  | [] => none
  | letter :: rest =>
      if letter = 'e' ∨ letter = 'E' then do
        let (negative, rest) := sign rest
        let (digits, rest) ← digits? Char.isDigit rest
        let n : Int := digitsFrom 0 digits
        pure (if negative then -n else n, rest)
      else none

/-- A number too great for a double is refused, unless it is negative. -/
def floatOf? (negative : Bool) (whole fraction : List Char) (exponent : Int) : Option FloatValue :=
  let digits := digitsFrom 0 (whole ++ fraction)
  match Double.ofScientific? negative digits (exponent - fraction.length) with
  | some value => some (.finite value)
  | none => if negative then some (.infinite true) else none

def specialFloat? (negative : Bool) : List Char → Option (FloatValue × List Char)
  | 'i' :: 'n' :: 'f' :: rest => some (.infinite negative, rest)
  | 'n' :: 'a' :: 'n' :: rest => some (.nan, rest)
  | _ => none

def decimalFloat? (negative : Bool) (cs : List Char) : Option (FloatValue × List Char) := do
  let (whole, rest) ← wholeDigits? cs
  match rest with
  | '.' :: rest =>
      let (fraction, rest) ← digits? Char.isDigit rest
      let (exponent, rest) := (exponent? rest).getD (0, rest)
      pure (← floatOf? negative whole fraction exponent, rest)
  | rest =>
      let (exponent, rest) ← exponent? rest
      pure (← floatOf? negative whole [] exponent, rest)

def float? (cs : List Char) : Option (FloatValue × List Char) :=
  let (negative, rest) := sign cs
  (decimalFloat? negative rest).or (specialFloat? negative rest)

def hexDigitValue (c : Char) : Nat :=
  if c.isDigit then c.toNat - '0'.toNat
  else if c.isLower then c.toNat - 'a'.toNat + 10
  else c.toNat - 'A'.toNat + 10

def isHexDigit (c : Char) : Bool :=
  c.isDigit || ('a' ≤ c && c ≤ 'f') || ('A' ≤ c && c ≤ 'F')

def isOctalDigit (c : Char) : Bool := '0' ≤ c && c ≤ '7'

def isBinaryDigit (c : Char) : Bool := c == '0' || c == '1'

def numeral (base : Nat) (digits : List Char) : Nat :=
  digits.foldl (fun n c => base * n + hexDigitValue c) 0

def inRange? (n : Int) : Option Int := if Decimal.fitsSigned n then some n else none

def basedInteger? (base : Nat) (isDigit : Char → Bool) (cs : List Char) :
    Option (Int × List Char) := do
  let (digits, rest) ← digits? isDigit cs
  pure (← inRange? (numeral base digits), rest)

def integer? : List Char → Option (Int × List Char)
  | '0' :: 'x' :: rest => basedInteger? 16 isHexDigit rest
  | '0' :: 'o' :: rest => basedInteger? 8 isOctalDigit rest
  | '0' :: 'b' :: rest => basedInteger? 2 isBinaryDigit rest
  | cs => do
      let (negative, rest) := sign cs
      let (digits, rest) ← wholeDigits? rest
      let n : Int := numeral 10 digits
      pure (← inRange? (if negative then -n else n), rest)

end NestedFilter.Toml
