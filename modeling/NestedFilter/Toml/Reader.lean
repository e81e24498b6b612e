import NestedFilter.Toml.Tree
import NestedFilter.Toml.DateTable
import NestedFilter.Toml.Quoted

/-!
Reading a TOML document. Arrays and inline tables nest to a limited depth, and keys have a limited
number of parts.
-/

set_option autoImplicit false

namespace NestedFilter.Toml

def depthLimit : Nat := 80

def isBareKeyChar (c : Char) : Bool := c.isAlphanum || c == '_' || c == '-'

def simpleKey? (cs : List Char) : Option (String × List Char) :=
  let bare := cs.takeWhile isBareKeyChar
  if bare.isEmpty then line? cs else some (String.ofList bare, cs.dropWhile isBareKeyChar)

def key? : Nat → List Char → Option (List String × List Char)
  | 0, _ => none
  | fuel + 1, cs => do
      let (part, rest) ← simpleKey? (skipBlanks cs)
      match skipBlanks rest with
      | '.' :: rest =>
          let (parts, rest) ← key? fuel rest
          pure (part :: parts, rest)
      | rest => pure ([part], rest)

def keyBefore? (mark : Char) (cs : List Char) : Option (List String × List Char) := do
  let (parts, rest) ← key? (depthLimit - 1) cs
  match rest with
  | c :: rest => if c = mark then some (parts, rest) else none
  | [] => none

def numeric? (cs : List Char) : Option (Value × List Char) :=
  match datetime? cs with
  | some (text, rest) => some (.datetime text, rest)
  | none =>
      match float? cs with
      | some (value, rest) => some (.float value, rest)
      | none => (integer? cs).map fun (value, rest) => (.integer value, rest)

def simpleValue? : List Char → Option (Value × List Char)
  | 't' :: 'r' :: 'u' :: 'e' :: rest => some (.boolean true, rest)
  | 'f' :: 'a' :: 'l' :: 's' :: 'e' :: rest => some (.boolean false, rest)
  | '"' :: rest => (string? ('"' :: rest)).map fun (text, rest) => (.string text, rest)
  | '\'' :: rest => (string? ('\'' :: rest)).map fun (text, rest) => (.string text, rest)
  | cs => numeric? cs

mutual

/-- One value; `depth` bounds the nesting and `fuel` the values still to be read. -/
def value? (depth : Nat) : Nat → List Char → Option (Value × List Char)
  | 0, _ => none
  | fuel + 1, cs =>
      match cs with
      | '[' :: rest =>
          if depth = 0 then none
          else (items? (depth - 1) fuel rest).map fun (items, rest) => (.array items, rest)
      | '\x7b' :: rest =>
          if depth = 0 then none
          else
            match skipBlanks rest with
            | '\x7d' :: rest => some (.table [], rest)
            | rest =>
                (pairs? (depth - 1) fuel [] rest).map fun (nodes, rest) =>
                  (.table (Node.entryValues nodes), rest)
      | cs => simpleValue? cs

def items? (depth : Nat) : Nat → List Char → Option (List Value × List Char)
  | 0, _ => none
  | fuel + 1, cs =>
      match skipLines (cs.length + 1) cs with
      | ']' :: rest => some ([], rest)
      | cs => do
          let (item, rest) ← value? depth fuel cs
          match skipLines (rest.length + 1) rest with
          | ',' :: rest =>
              let (items, rest) ← items? depth fuel rest
              pure (item :: items, rest)
          | ']' :: rest => pure ([item], rest)
          | _ => none

def pairs? (depth : Nat) : Nat → Nodes → List Char → Option (Nodes × List Char)
  | 0, _, _ => none
  | fuel + 1, nodes, cs => do
      let (path, rest) ← keyBefore? '=' cs
      let (value, rest) ← value? depth fuel (skipBlanks rest)
      let nodes ← nodes.addValue? value path
      match skipBlanks rest with
      | ',' :: rest => pairs? depth fuel nodes rest
      | '\x7d' :: rest => pure (nodes, rest)
      | _ => none

end

structure Progress where
  root : Nodes := []
  path : List String := []

def Progress.enter? (progress : Progress) (path : List String)
    (define : String → Nodes → Option Nodes) : Option Progress := do
  let root ← progress.root.change? (define (path.getLastD "")) path.dropLast
  pure ⟨root, path⟩

def statement? (fuel : Nat) (progress : Progress) (cs : List Char) :
    Option (Progress × List Char) :=
  match skipBlanks cs with
  | '[' :: '[' :: rest => do
      let (path, rest) ← keyBefore? ']' rest
      match rest with
      | ']' :: rest => pure (← progress.enter? path Nodes.defineNext?, rest)
      | _ => none
  | '[' :: rest => do
      let (path, rest) ← keyBefore? ']' rest
      pure (← progress.enter? path Nodes.define?, rest)
  | rest =>
      if (lineEnd? rest).isSome then some (progress, rest)
      else do
        let (path, rest) ← keyBefore? '=' rest
        let (value, rest) ← value? (depthLimit - 1) fuel (skipBlanks rest)
        let root ← progress.root.change? (Nodes.addValue? value path) progress.path
        pure ({ progress with root := root }, rest)

def document? : Nat → Progress → List Char → Option Nodes
  | _, progress, [] => some progress.root
  | 0, _, _ => none
  | fuel + 1, progress, cs => do
      let (progress, rest) ← statement? (cs.length + 1) progress cs
      document? fuel progress (← lineEnd? rest)

def withoutMark : List Char → List Char
  | '\ufeff' :: rest => rest
  | cs => cs

/-- The entries of the document that a text spells; a document that stands for a moment has none. -/
def read? (text : String) : Option (List (String × Value)) := do
  let cs := withoutMark text.toList
  let nodes ← document? (cs.length + 1) {} cs
  match ← (Value.table (Node.entryValues nodes)).settle? with
  | .table entries => pure entries
  | _ => none

end NestedFilter.Toml
