import NestedFilter.Json.Value
import NestedFilter.Decimal.Reading

set_option autoImplicit false

namespace NestedFilter.Json.Reader

open NestedFilter.Decimal

def isSpace (c : Char) : Bool := c == ' ' || c == '\n' || c == '\t' || c == '\r'

def skipSpace (cs : List Char) : List Char := cs.dropWhile isSpace

def hexValue? (c : Char) : Option Nat :=
  if '0' ≤ c ∧ c ≤ '9' then some (c.toNat - '0'.toNat)
  else if 'a' ≤ c ∧ c ≤ 'f' then some (c.toNat - 'a'.toNat + 10)
  else if 'A' ≤ c ∧ c ≤ 'F' then some (c.toNat - 'A'.toNat + 10)
  else none

def unit? (a b c d : Char) : Option Nat := do
  pure ((((← hexValue? a) * 16 + (← hexValue? b)) * 16 + (← hexValue? c)) * 16 + (← hexValue? d))

def isHighSurrogate (n : Nat) : Bool := 0xD800 ≤ n && n < 0xDC00
def isLowSurrogate (n : Nat) : Bool := 0xDC00 ≤ n && n < 0xE000

def shortEscape? : Char → Option Char
  | '"' => some '"'
  | '\\' => some '\\'
  | '/' => some '/'
  | 'b' => some '\x08'
  | 'f' => some '\x0c'
  | 'n' => some '\n'
  | 'r' => some '\r'
  | 't' => some '\t'
  | _ => none

def string? (read : List Char) : List Char → Option (String × List Char)
  | '"' :: rest => some (String.ofList read.reverse, rest)
  | '\\' :: 'u' :: a :: b :: c :: d :: '\\' :: 'u' :: e :: f :: g :: h :: rest => do
      let high ← unit? a b c d
      if isHighSurrogate high then
        let low ← unit? e f g h
        if isLowSurrogate low then
          string? (Char.ofNat (0x10000 + (high - 0xD800) * 0x400 + (low - 0xDC00)) :: read) rest
        else none
      else if isLowSurrogate high then none
      else string? (Char.ofNat high :: read) ('\\' :: 'u' :: e :: f :: g :: h :: rest)
  | '\\' :: 'u' :: a :: b :: c :: d :: rest => do
      let code ← unit? a b c d
      if isHighSurrogate code || isLowSurrogate code then none
      else string? (Char.ofNat code :: read) rest
  | '\\' :: c :: rest => do string? ((← shortEscape? c) :: read) rest
  | c :: rest => if c.toNat < 0x20 then none else string? (c :: read) rest
  | [] => none

def digits (cs : List Char) : List Char × List Char := cs.span Char.isDigit

def exponent? (cs : List Char) : Option (Int × List Char) :=
  let (negative, cs) :=
    match cs with
    | '-' :: rest => (true, rest)
    | '+' :: rest => (false, rest)
    | _ => (false, cs)
  match digits cs with
  | ([], _) => none
  | (ds, rest) =>
      let n : Int := digitsFrom 0 ds
      some (if negative then -n else n, rest)

/-- Number of plain digits: an integer when it fits a word and is not a negative zero. -/
def plainNumber? (negative : Bool) (whole : List Char) : Option Number :=
  let n : Int := digitsFrom 0 whole
  let value := if negative then -n else n
  if Decimal.fitsWord value && !(negative && n == 0) then some (.integer value)
  else (Double.ofDigits? negative whole [] 0).map .double

def unsignedNumber? (negative : Bool) (cs : List Char) : Option (Number × List Char) :=
  match digits cs with
  | ([], _) => none
  | ('0' :: _ :: _, _) => none
  | (whole, '.' :: rest) =>
      match digits rest with
      | ([], _) => none
      | (fraction, 'e' :: rest) | (fraction, 'E' :: rest) => do
          let (e, rest) ← exponent? rest
          pure (.double (← Double.ofDigits? negative whole fraction e), rest)
      | (fraction, rest) => do
          pure (.double (← Double.ofDigits? negative whole fraction 0), rest)
  | (whole, 'e' :: rest) | (whole, 'E' :: rest) => do
      let (e, rest) ← exponent? rest
      pure (.double (← Double.ofDigits? negative whole [] e), rest)
  | (whole, rest) => do pure (← plainNumber? negative whole, rest)

mutual

/-- One value; `fuel` bounds the values, members and items still to be read. -/
def value? : Nat → List Char → Option (Value × List Char)
  | 0, _ => none
  | fuel + 1, cs =>
      match skipSpace cs with
      | 'n' :: 'u' :: 'l' :: 'l' :: rest => some (.null, rest)
      | 't' :: 'r' :: 'u' :: 'e' :: rest => some (.bool true, rest)
      | 'f' :: 'a' :: 'l' :: 's' :: 'e' :: rest => some (.bool false, rest)
      | '"' :: rest => (string? [] rest).map fun (s, rest) => (.string s, rest)
      | '-' :: rest => (unsignedNumber? true rest).map fun (n, rest) => (.number n, rest)
      | '[' :: rest =>
          match skipSpace rest with
          | ']' :: rest => some (.array [], rest)
          | rest => (items? fuel rest).map fun (items, rest) => (.array items, rest)
      | '\x7b' :: rest =>
          match skipSpace rest with
          | '\x7d' :: rest => some (.object [], rest)
          | rest =>
              (members? fuel rest).map fun (members, rest) =>
                (.object (Entries.ofMembers members), rest)
      | rest => (unsignedNumber? false rest).map fun (n, rest) => (.number n, rest)

def items? : Nat → List Char → Option (List Value × List Char)
  | 0, _ => none
  | fuel + 1, cs => do
      let (item, rest) ← value? fuel cs
      match skipSpace rest with
      | ',' :: rest =>
          let (items, rest) ← items? fuel rest
          pure (item :: items, rest)
      | ']' :: rest => pure ([item], rest)
      | _ => none

def members? : Nat → List Char → Option (List (String × Value) × List Char)
  | 0, _ => none
  | fuel + 1, cs =>
      match skipSpace cs with
      | '"' :: rest => do
          let (key, rest) ← string? [] rest
          match skipSpace rest with
          | ':' :: rest =>
              let (value, rest) ← value? fuel rest
              match skipSpace rest with
              | ',' :: rest =>
                  let (members, rest) ← members? fuel rest
                  pure ((key, value) :: members, rest)
              | '\x7d' :: rest => pure ([(key, value)], rest)
              | _ => none
          | _ => none
      | _ => none

end

end Reader

def Value.read? (text : String) : Option Value := do
  let cs := text.toList
  let (value, rest) ← Reader.value? (cs.length + 1) cs
  if (Reader.skipSpace rest).isEmpty then some value else none

end NestedFilter.Json
