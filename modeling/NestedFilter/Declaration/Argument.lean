import NestedFilter.Declaration.Operator

/-!
Arguments between angle brackets. Lifetimes come first, and each argument keeps the comma that was
written behind it.
-/

set_option autoImplicit false

namespace NestedFilter

structure Argument (α : Type) where
  body : α
  isLifetime : Bool
  hasComma : Bool

namespace Argument

def bodies {α : Type} (comma : α) (arguments : List (Argument α)) : List α :=
  arguments.flatMap fun argument =>
    argument.body :: (if argument.hasComma then [comma] else [])

/-- Arguments with their commas, lifetimes first. A lifetime that was written last gets the comma
that it needs there. -/
def arrange {α : Type} (comma : α) (arguments : List (Argument α)) : List α :=
  let lifetimes := arguments.filter (·.isLifetime)
  let others := arguments.filter (!·.isLifetime)
  let lacking :=
    match lifetimes.getLast? with
    | some last => !last.hasComma && !others.isEmpty
    | none => false
  bodies comma lifetimes ++ (if lacking then [comma] else []) ++ bodies comma others

end Argument

namespace Token

structure Group where
  opened : Token
  complete : List (Argument (List Token)) := []
  current : List Token := []

namespace Group

def isLifetime : List Token → Bool
  | [.word ('\'' :: rest)] => rest.getLast? != some '\''
  | _ => false

def finish (group : Group) (hasComma : Bool) : Group :=
  { group with
    complete := group.complete ++ [⟨group.current, isLifetime group.current, hasComma⟩]
    current := [] }

def content (group : Group) : List Token :=
  if group.opened = .opening .angle then
    let last := if group.current.isEmpty then group else group.finish false
    (Argument.arrange [.sign ',' false] last.complete).flatten
  else group.current

end Group

structure Enclosure where
  groups : List Group := []
  before : List Token := []

namespace Enclosure

def append (around : Enclosure) (tokens : List Token) : Enclosure :=
  match around.groups with
  | group :: outer =>
      { around with groups := { group with current := group.current ++ tokens } :: outer }
  | [] => { around with before := around.before ++ tokens }

def step (around : Enclosure) (token : Token) : Enclosure :=
  match token, around.groups with
  | .opening _, groups => { around with groups := { opened := token } :: groups }
  | .closing _, group :: outer =>
      { around with groups := outer }.append (group.opened :: group.content ++ [token])
  | .sign ',' _, group :: outer =>
      if group.opened = .opening .angle then { around with groups := group.finish true :: outer }
      else around.append [token]
  | _, _ => around.append [token]

def all (around : Enclosure) : List Token :=
  around.groups.foldr (fun group tokens => tokens ++ group.opened :: group.content) around.before

end Enclosure

def arrangeArguments (tokens : List Token) : List Token :=
  (tokens.foldl Enclosure.step {}).all

def sourceText (scope : Scope) (source : String) : String :=
  let tokens := regroup { scopes := [scope] } (lex source.toList)
  String.ofList (spell (arrangeArguments tokens))

def expressionText : String → String := sourceText .expression

def typeText : String → String := sourceText .type

end Token

end NestedFilter
