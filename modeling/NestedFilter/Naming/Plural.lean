set_option autoImplicit false

namespace NestedFilter.Naming

def uncountable : List String := [
  "equipment", "information", "rice", "money", "species", "series", "fish", "sheep", "deer",
  "news", "police", "metadata"]

def irregular : List (String × String) := [
  ("person", "people"), ("man", "men"), ("woman", "women"), ("child", "children"),
  ("mouse", "mice"), ("goose", "geese"), ("tooth", "teeth"), ("foot", "feet")]

def isVowel (c : Char) : Bool := ['a', 'e', 'i', 'o', 'u'].contains c

def endsInSibilant (word : List Char) : Bool :=
  ["s", "x", "z", "ch", "sh"].any (fun ending => ending.toList.isSuffixOf word)

/-- Plural by the regular rules. A single letter is no word to inflect and only takes an `s`. -/
def regularPlural (word : List Char) : List Char :=
  if endsInSibilant word then
    if word.length = 1 then word ++ ['s'] else word ++ ['e', 's']
  else
    match word.reverse with
    | 'y' :: before :: stem =>
        if isVowel before then word ++ ['s'] else (before :: stem).reverse ++ ['i', 'e', 's']
    | _ => word ++ ['s']

def lastWord (name : List Char) : List Char := (name.reverse.takeWhile (· ≠ '_')).reverse

def pluralWord (word : String) : String :=
  if word.isEmpty || uncountable.contains word then word
  else
    match irregular.find? (fun forms => forms.1 == word) with
    | some forms => forms.2
    | none => String.ofList (regularPlural word.toList)

def pluralize (name : String) : String :=
  let chars := name.toList
  let word := lastWord chars
  String.ofList (chars.take (chars.length - word.length)) ++ pluralWord (String.ofList word)

end NestedFilter.Naming
