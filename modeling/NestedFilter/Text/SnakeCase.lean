import NestedFilter.Text.CharClass
import NestedFilter.Text.LetterCase

/-!
Snake case: a name is cut into words where its case changes and at every character that is
neither letter nor digit, and the words are written in lower case with `_` between them.
-/

set_option autoImplicit false

namespace NestedFilter.Text

inductive WordCase where
  | unset
  | lower
  | upper
deriving DecidableEq

def WordCase.after (current : WordCase) (c : Char) : WordCase :=
  if isLowercase c then .lower else if isUppercase c then .upper else current

def wordsFrom (current : WordCase) (word : List Char) : List Char → List (List Char)
  | [] => if word.isEmpty then [] else [word]
  | [c] => [word ++ [c]]
  | c :: d :: rest =>
      if current.after c = .lower ∧ isUppercase d then
        (word ++ [c]) :: wordsFrom .unset [] (d :: rest)
      else if current = .upper ∧ isUppercase c ∧ isLowercase d then
        word :: wordsFrom .unset [c] (d :: rest)
      else wordsFrom (current.after c) (word ++ [c]) (d :: rest)

def words (s : String) : List (List Char) :=
  (s.toList.splitOnP (!isAlphanumeric ·)).flatMap (wordsFrom .unset [])

/-- Lower-case form of a word; a capital sigma that ends it takes its final form. -/
def lowerWord : List Char → List Char
  | [] => []
  | [c] => if c = 'Σ' then ['ς'] else lowerChar c
  | c :: rest => lowerChar c ++ lowerWord rest

def snakeCase (s : String) : String :=
  String.ofList (List.intercalate ['_'] ((words s).map lowerWord))

end NestedFilter.Text
