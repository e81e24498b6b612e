import NestedFilter.Text.CharClass

set_option autoImplicit false

namespace NestedFilter

inductive Delimiter where
  | paren
  | bracket
  | brace
  | angle
deriving DecidableEq, Repr

inductive Token where
  | word (text : List Char)
  | sign (char : Char) (joined : Bool)
  | opening (delimiter : Delimiter)
  | closing (delimiter : Delimiter)
deriving DecidableEq, Repr

namespace Token

def isNameStart (c : Char) : Bool := c == '_' || (Text.isAlphanumeric c && !c.isDigit)

def isNameChar (c : Char) : Bool := c == '_' || Text.isAlphanumeric c

def isSign (c : Char) : Bool := "~!@#$%^&*-=+|;:,<.>/?'".toList.contains c

def delimiter? : Char → Option Token
  | '(' => some (.opening .paren)
  | ')' => some (.closing .paren)
  | '[' => some (.opening .bracket)
  | ']' => some (.closing .bracket)
  | '\x7b' => some (.opening .brace)
  | '\x7d' => some (.closing .brace)
  | _ => none

def startsSign : List Char → Bool
  | '/' :: '/' :: _ => false
  | '/' :: '*' :: _ => false
  | c :: _ => isSign c
  | [] => false

def quotedLength (quote : Char) : List Char → Nat
  | [] => 0
  | '\\' :: _ :: rest => 2 + quotedLength quote rest
  | c :: rest => if c = quote then 1 else 1 + quotedLength quote rest

def rawLength (hashes : Nat) : List Char → Nat
  | [] => 0
  | c :: rest =>
      if c = '"' ∧ rest.take hashes = List.replicate hashes '#' then 1 + hashes
      else 1 + rawLength hashes rest

/-- Number of characters of a block comment behind its opening; such comments nest. -/
def commentLength (depth : Nat) : List Char → Nat
  | '*' :: '/' :: rest =>
      match depth with
      | 0 => 2
      | outer + 1 => 2 + commentLength outer rest
  | '/' :: '*' :: rest => 2 + commentLength (depth + 1) rest
  | _ :: rest => 1 + commentLength depth rest
  | [] => 0

def literalLength? (cs : List Char) : Option Nat :=
  let mark := cs.takeWhile Char.isAlpha
  let rest := cs.drop mark.length
  let hashes := (rest.takeWhile (· == '#')).length
  let isRaw := [['r'], ['b', 'r'], ['c', 'r']].contains mark
  match rest.drop hashes with
  | '"' :: body =>
      if isRaw then some (mark.length + hashes + 1 + rawLength hashes body)
      else if hashes = 0 ∧ [[], ['b'], ['c']].contains mark then
        some (mark.length + 1 + quotedLength '"' body)
      else none
  | '\'' :: body =>
      if hashes = 0 ∧ mark = ['b'] then some (2 + quotedLength '\'' body) else none
  | _ => none

def tickedLength : List Char → Nat
  | '\\' :: rest => quotedLength '\'' ('\\' :: rest)
  | _ :: '\'' :: _ => 2
  | rest => (rest.takeWhile isNameChar).length

def isDigitOrGap (c : Char) : Bool := c.isDigit || c == '_'

/-- Number of characters of the point and the digits that a whole number goes on with: none when a
range or the name of a member follows. -/
def fractionLength : List Char → Nat
  | '.' :: rest =>
      match rest with
      | c :: _ =>
          if c = '.' ∨ isNameStart c then 0 else 1 + (rest.takeWhile isDigitOrGap).length
      | [] => 1
  | _ => 0

def exponentLength : List Char → Nat
  | e :: rest =>
      let gap := (rest.takeWhile (· == '_')).length
      let sign :=
        match rest.drop gap with
        | s :: _ => if s = '+' ∨ s = '-' then 1 else 0
        | [] => 0
      let digits := (rest.drop (gap + sign)).takeWhile isDigitOrGap
      if (e = 'e' ∨ e = 'E') ∧ digits.any Char.isDigit then 1 + gap + sign + digits.length else 0
  | [] => 0

def numberLength (cs : List Char) : Nat :=
  let whole := (cs.takeWhile isDigitOrGap).length
  let mantissa := whole + fractionLength (cs.drop whole)
  let numeral := mantissa + exponentLength (cs.drop mantissa)
  numeral + ((cs.drop numeral).takeWhile isNameChar).length

def nameLength : List Char → Nat
  | 'r' :: '#' :: rest => 2 + (rest.takeWhile isNameChar).length
  | cs => (cs.takeWhile isNameChar).length

def isGap (c : Char) : Bool := Text.isWhiteSpace c || c == '\u200e' || c == '\u200f'

def next (cs : List Char) : Option Token × Nat :=
  match cs with
  | [] => (none, 0)
  | '/' :: '/' :: rest => (none, 2 + (rest.takeWhile (· ≠ '\n')).length)
  | '/' :: '*' :: rest => (none, 2 + commentLength 0 rest)
  | c :: rest =>
      let word (length : Nat) := (some (.word (cs.take length)), length)
      if isGap c then (none, 1)
      else if let some length := literalLength? cs then word length
      else if c = '\'' then word (1 + tickedLength rest)
      else if c.isDigit then word (numberLength cs)
      else if isNameStart c then word (nameLength cs)
      else if let some token := delimiter? c then (some token, 1)
      else if isSign c then (some (.sign c (startsSign rest)), 1)
      else word 1

def lexFrom : Nat → List Char → List Token
  | 0, _ => []
  | _, [] => []
  | fuel + 1, cs =>
      let (token, length) := next cs
      token.toList ++ lexFrom fuel (cs.drop length)

def lex (cs : List Char) : List Token := lexFrom cs.length cs

def text : Token → List Char
  | .word text => text
  | .sign c _ => [c]
  | .opening .paren => ['(']
  | .opening .bracket => ['[']
  | .opening .brace => ['\x7b']
  | .opening .angle => ['<']
  | .closing .paren => [')']
  | .closing .bracket => [']']
  | .closing .brace => ['\x7d']
  | .closing .angle => ['>']

/-- Whether nothing stands between two tokens that follow each other: behind a joined sign, and just
inside parentheses and brackets. -/
def isTight : Token → Token → Bool
  | .sign _ true, _ => true
  | .opening .paren, _ => true
  | .opening .bracket, _ => true
  | _, .closing .paren => true
  | _, .closing .bracket => true
  | _, _ => false

def spell : List Token → List Char
  | [] => []
  | [token] => token.text
  | token :: following :: rest =>
      token.text ++ (if token.isTight following then [] else [' ']) ++ spell (following :: rest)

end Token

end NestedFilter
