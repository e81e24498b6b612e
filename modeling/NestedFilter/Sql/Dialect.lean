set_option autoImplicit false

namespace NestedFilter.Sql

inductive Dialect where
  | sqlite
  | postgres
deriving DecidableEq, Repr

def doubled (mark : Char) (text : String) : String :=
  let body := text.toList.flatMap fun c => if c = mark then [c, c] else [c]
  String.ofList ([mark] ++ body ++ [mark])

def identifier (name : String) : String := doubled '"' name

namespace Postgres

def isControl (c : Char) : Bool := c.toNat < 32 || c.toNat == 127

def needsEscapes (c : Char) : Bool := c == '\'' || c == '\\' || isControl c

def octal (n : Nat) : List Char :=
  [Nat.digitChar (n / 64 % 8), Nat.digitChar (n / 8 % 8), Nat.digitChar (n % 8)]

def escapeChar (c : Char) : List Char :=
  if c = '\x08' then ['\\', 'b']
  else if c = '\x0c' then ['\\', 'f']
  else if c = '\n' then ['\\', 'n']
  else if c = '\r' then ['\\', 'r']
  else if c = '\t' then ['\\', 't']
  else if c = '\x00' then ['\\', '0']
  else if c = '\\' then ['\\', '\\']
  else if c = '\'' then ['\\', '\'']
  else if isControl c then '\\' :: octal c.toNat
  else [c]

def stringLiteral (text : String) : String :=
  if text.toList.any needsEscapes then
    String.ofList (['E', '\''] ++ text.toList.flatMap escapeChar ++ ['\''])
  else String.ofList (['\''] ++ text.toList ++ ['\''])

end Postgres

def Dialect.stringLiteral : Dialect → String → String
  | .sqlite => doubled '\''
  | .postgres => Postgres.stringLiteral

end NestedFilter.Sql
