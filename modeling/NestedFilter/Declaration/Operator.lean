import NestedFilter.Declaration.Token

/-!
Which signs of an expression or a type make one operator. Signs in front of an operand stand by
themselves, between operands the longest operator counts, and angle brackets around types are
never part of a longer one.
-/

set_option autoImplicit false

namespace NestedFilter.Token

def leadingOperators : List String := ["...", "..=", "::", "..", "->"]

def infixOperators : List String := [
  "<<=", ">>=", "...", "..=", "&&", "||", "<<", ">>", "==", "!=", "<=", ">=", "+=", "-=", "*=",
  "/=", "%=", "^=", "&=", "|=", "::", "->", "=>", ".."]

def typeOperators : List String := ["...", "::", "->"]

def leadingKeywords : List String := [
  "as", "return", "break", "if", "else", "while", "match", "in", "move", "mut", "const", "let",
  "dyn", "impl", "for", "unsafe", "loop", "async", "static", "yield"]

inductive Scope where
  | expression
  | type
  | angle
  /-- The tokens of a macro call stay as they are written. -/
  | verbatim
deriving DecidableEq, Repr

structure Reading where
  scopes : List Scope
  leading : Bool := true
  called : Bool := false
  pointed : Bool := false
  casting : Bool := false
  pending : Nat := 0

namespace Reading

def scope (reading : Reading) : Scope := reading.scopes.headD .expression

def operators (reading : Reading) : List String :=
  if reading.leading then leadingOperators
  else if reading.casting then infixOperators.filter (fun operator => !operator.startsWith "<<")
  else
    match reading.scope with
    | .expression => infixOperators
    | _ => typeOperators

def signsAhead : List Token → List Char
  | .sign c true :: rest => c :: signsAhead rest
  | .sign c false :: _ => [c]
  | _ => []

def operatorLength (reading : Reading) (tokens : List Token) : Nat :=
  let ahead := signsAhead tokens
  match reading.operators.find? (fun operator => operator.toList.isPrefixOf ahead) with
  | some operator => operator.length
  | none => 1

/-- The bracket that a sign is here, if it is one: a less-than sign opens angle brackets in front of
an operand, and everywhere in a type. -/
def bracket? (reading : Reading) (c : Char) : Option Token :=
  if c = '<' ∧ (reading.leading ∨ reading.casting ∨ reading.scope ≠ .expression) then
    some (.opening .angle)
  else if c = '>' ∧ reading.scope = .angle then some (.closing .angle)
  else none

/-- Goes on behind an operator of one sign. What follows a semicolon in a type is an expression. -/
def afterSign (reading : Reading) (c : Char) : Reading :=
  if c = ';' ∧ reading.scope = .type then
    { reading with scopes := .expression :: reading.scopes.tail, leading := true }
  else if c = '?' ∧ !reading.leading then reading
  else if c = '!' ∧ !reading.leading then { reading with called := true }
  else { reading with
    leading := true
    pointed := c == '.'
    casting := reading.casting && reading.leading }

def withinOperator (reading : Reading) (c : Char) (pending : Nat) : Reading :=
  { reading with leading := true, casting := reading.casting && c == ':', pending := pending }

def inner (reading : Reading) (delimiter : Delimiter) : Scope :=
  if reading.called ∨ reading.scope = .verbatim then .verbatim
  else
    match reading.scope, delimiter with
    | _, .angle => .angle
    | .expression, _ => .expression
    | _, .brace => .expression
    | _, _ => .type

def afterToken (reading : Reading) : Token → Reading
  | .word text =>
      { reading with
        leading := leadingKeywords.contains (String.ofList text)
        called := false
        pointed := false
        casting := reading.casting || text == "as".toList }
  | .opening delimiter =>
      { scopes := reading.inner delimiter :: reading.scopes }
  | .closing .angle => { scopes := reading.scopes.tail, leading := false }
  | .closing _ =>
      { scopes := (reading.scopes.dropWhile (· = .angle)).tail, leading := false }
  | .sign _ _ => reading

end Reading

/-- The positions of members that stand in the form of one number, with the points between them. -/
def positions (text : List Char) : List Token :=
  let words := (text.splitOn '.').map fun part => if part.isEmpty then [] else [word part]
  List.flatten (words.intersperse [.sign '.' false])

def members (reading : Reading) : Token → List Token
  | .word text => if reading.pointed && !text.isEmpty then positions text else [.word text]
  | token => [token]

def regroup (reading : Reading) : List Token → List Token
  | [] => []
  | .sign c joined :: rest =>
      if reading.scope = .verbatim then .sign c joined :: regroup reading rest
      else
        match reading.pending with
        | more + 1 =>
            .sign c (more != 0) :: regroup { reading with pending := more } rest
        | 0 =>
            let length := reading.operatorLength (.sign c joined :: rest)
            if length = 1 then
              match reading.bracket? c with
              | some bracket => bracket :: regroup (reading.afterToken bracket) rest
              | none => .sign c false :: regroup (reading.afterSign c) rest
            else
              .sign c true :: regroup (reading.withinOperator c (length - 1)) rest
  | token :: rest => members reading token ++ regroup (reading.afterToken token) rest

end NestedFilter.Token
