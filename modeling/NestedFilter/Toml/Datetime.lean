import NestedFilter.Toml.Scanner
import NestedFilter.Decimal.Reading

/-!
Dates and times of TOML text, and their normal form: a `T` between date and time, a capital `Z`,
and a fraction of a second to nine places without closing zeros.
-/

set_option autoImplicit false

namespace NestedFilter.Toml

def fixed? (count low high : Nat) (cs : List Char) : Option (Nat × List Char) :=
  let digits := cs.take count
  let n := Decimal.digitsFrom 0 digits
  if digits.length = count ∧ digits.all Char.isDigit ∧ low ≤ n ∧ n ≤ high then
    some (n, cs.drop count)
  else none

def skip? (c : Char) : List Char → Option (List Char)
  | d :: rest => if d = c then some rest else none
  | [] => none

def padded (width n : Nat) : String :=
  let digits := Nat.toDigits 10 n
  String.ofList (List.replicate (width - digits.length) '0' ++ digits)

def isLeapYear (year : Nat) : Bool := year % 4 == 0 && (year % 100 != 0 || year % 400 == 0)

def daysIn (year month : Nat) : Nat :=
  if month = 2 then (if isLeapYear year then 29 else 28)
  else if [4, 6, 9, 11].contains month then 30
  else 31

def date? (cs : List Char) : Option (String × List Char) := do
  let (year, rest) ← fixed? 4 0 9999 cs
  let (month, rest) ← fixed? 2 1 12 (← skip? '-' rest)
  let (day, rest) ← fixed? 2 1 (daysIn year month) (← skip? '-' rest)
  pure (padded 4 year ++ "-" ++ padded 2 month ++ "-" ++ padded 2 day, rest)

def fractionText (digits : List Char) : String :=
  let kept := ((digits.take 9).reverse.dropWhile (· == '0')).reverse
  if kept.isEmpty then "" else "." ++ String.ofList kept

/-- A second may be a leap second. -/
def time? (cs : List Char) : Option (String × List Char) := do
  let (hour, rest) ← fixed? 2 0 23 cs
  let (minute, rest) ← fixed? 2 0 59 (← skip? ':' rest)
  let (second, rest) ← fixed? 2 0 60 (← skip? ':' rest)
  let shown := padded 2 hour ++ ":" ++ padded 2 minute ++ ":" ++ padded 2 second
  match rest with
  | '.' :: after =>
      let digits := after.takeWhile Char.isDigit
      if digits.isEmpty then pure (shown, rest)
      else pure (shown ++ fractionText digits, after.dropWhile Char.isDigit)
  | _ => pure (shown, rest)

def offset? : List Char → Option (String × List Char)
  | [] => none
  | c :: rest =>
      if c = 'Z' ∨ c = 'z' then some ("Z", rest)
      else if c = '+' ∨ c = '-' then do
        let (hours, rest) ← fixed? 2 0 23 rest
        let (minutes, rest) ← fixed? 2 0 59 (← skip? ':' rest)
        let mark := if c = '-' ∧ hours + minutes ≠ 0 then "-" else "+"
        pure (mark ++ padded 2 hours ++ ":" ++ padded 2 minutes, rest)
      else none

def isTimeMark (c : Char) : Bool := c == 'T' || c == 't' || c == ' '

def timeOfDay? : List Char → Option (String × List Char)
  | [] => none
  | c :: rest =>
      if isTimeMark c then do
        let (time, rest) ← time? rest
        let (zone, rest) := (offset? rest).getD ("", rest)
        pure ("T" ++ time ++ zone, rest)
      else none

def datetime? (cs : List Char) : Option (String × List Char) :=
  match date? cs with
  | some (date, rest) =>
      let (time, rest) := (timeOfDay? rest).getD ("", rest)
      some (date ++ time, rest)
  | none => time? cs

def momentText? (cs : List Char) : Option String :=
  match datetime? cs with
  | some (text, []) => some text
  | _ => none

end NestedFilter.Toml
