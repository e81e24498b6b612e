import NestedFilter.Json.Value
import NestedFilter.Decimal.Shortest

/-!
Compact JSON text of a value. A double keeps a fraction, so that reading gives a double again.
-/

set_option autoImplicit false

namespace NestedFilter.Json

namespace Printer

def hexDigit (n : Nat) : Char := Nat.digitChar n

def escapeChar (c : Char) : List Char :=
  if c = '"' then ['\\', '"']
  else if c = '\\' then ['\\', '\\']
  else if c = '\n' then ['\\', 'n']
  else if c = '\r' then ['\\', 'r']
  else if c = '\t' then ['\\', 't']
  else if c.toNat < 0x20 then
    ['\\', 'u', '0', '0', hexDigit (c.toNat / 16), hexDigit (c.toNat % 16)]
  else [c]

def string (s : String) : String :=
  String.ofList (['"'] ++ s.toList.flatMap escapeChar ++ ['"'])

def number : Number → String
  | .integer n => toString n
  | .double d => if d.text.toList.contains '.' then d.text else d.text ++ ".0"

mutual

def value : Value → String
  | .null => "null"
  | .bool b => if b then "true" else "false"
  | .number n => number n
  | .string s => string s
  | .array items => "[" ++ String.intercalate "," (itemTexts items) ++ "]"
  | .object entries => "\x7b" ++ String.intercalate "," (entryTexts entries) ++ "\x7d"

def itemTexts : List Value → List String
  | [] => []
  | item :: rest => value item :: itemTexts rest

def entryTexts : List (String × Value) → List String
  | [] => []
  | (key, v) :: rest => (string key ++ ":" ++ value v) :: entryTexts rest

end

end Printer

def Value.text (v : Value) : String := Printer.value v

end NestedFilter.Json
