import NestedFilter.Toml.Number

/-!
Strings of TOML text: basic ones with escapes, literal ones without, and the form of either that
runs over several lines.
-/

set_option autoImplicit false

namespace NestedFilter.Toml

def shortEscape? : Char → Option Char
  | 'b' => some '\x08'
  | 't' => some '\t'
  | 'n' => some '\n'
  | 'f' => some '\x0c'
  | 'r' => some '\r'
  | '"' => some '"'
  | '\\' => some '\\'
  | _ => none

def codePoint? (count : Nat) (cs : List Char) : Option (Char × List Char) :=
  let digits := cs.take count
  let n := numeral 16 digits
  if digits.length = count ∧ digits.all isHexDigit ∧ n.isValidChar then
    some (Char.ofNat n, cs.drop count)
  else none

def escape? : List Char → Option (Char × List Char)
  | 'u' :: rest => codePoint? 4 rest
  | 'U' :: rest => codePoint? 8 rest
  | c :: rest => (shortEscape? c).map fun escaped => (escaped, rest)
  | [] => none

def basic? : Nat → List Char → Option (List Char × List Char)
  | 0, _ => none
  | fuel + 1, cs =>
      match cs with
      | '"' :: rest => some ([], rest)
      | '\\' :: rest => do
          let (c, rest) ← escape? rest
          let (text, rest) ← basic? fuel rest
          pure (c :: text, rest)
      | c :: rest =>
          if isPlain c then do
            let (text, rest) ← basic? fuel rest
            pure (c :: text, rest)
          else none
      | [] => none

def literal? : List Char → Option (List Char × List Char)
  | '\'' :: rest => some ([], rest)
  | c :: rest =>
      if isPlain c then do
        let (text, rest) ← literal? rest
        pure (c :: text, rest)
      else none
  | [] => none

def skipBlankLines : Nat → List Char → List Char
  | 0, cs => cs
  | fuel + 1, cs =>
      let rest := skipBlanks cs
      match newline? rest with
      | some next => skipBlankLines fuel next
      | none => rest

def joinedLine? (fuel : Nat) (cs : List Char) : Option (List Char) :=
  (newline? (skipBlanks cs)).map (skipBlankLines fuel)

/-- Quotes at the end of a string of several lines: up to two of them are its last characters. -/
def closing? (quote : Char) (cs : List Char) : Option (List Char × List Char) :=
  let run := (cs.takeWhile (· == quote)).length
  if 3 ≤ run then
    let kept := min (run - 3) 2
    some (List.replicate kept quote, cs.drop (kept + 3))
  else none

def lines? (quote : Char) : Nat → List Char → Option (List Char × List Char)
  | 0, _ => none
  | fuel + 1, cs =>
      match closing? quote cs with
      | some closed => some closed
      | none =>
          match newline? cs with
          | some rest => do
              let (text, rest) ← lines? quote fuel rest
              pure ('\n' :: text, rest)
          | none =>
              match cs with
              | [] => none
              | c :: rest =>
                  if c = '\\' ∧ quote = '"' then
                    match joinedLine? fuel rest with
                    | some rest => lines? quote fuel rest
                    | none => do
                        let (escaped, rest) ← escape? rest
                        let (text, rest) ← lines? quote fuel rest
                        pure (escaped :: text, rest)
                  else if isPlain c then do
                    let (text, rest) ← lines? quote fuel rest
                    pure (c :: text, rest)
                  else none

def body? (quote : Char) (cs : List Char) : Option (List Char × List Char) :=
  let rest := (newline? cs).getD cs
  lines? quote (rest.length + 1) rest

def line? : List Char → Option (String × List Char)
  | '"' :: rest => (basic? (rest.length + 1) rest).map fun (text, rest) => (String.ofList text, rest)
  | '\'' :: rest => (literal? rest).map fun (text, rest) => (String.ofList text, rest)
  | _ => none

def string? : List Char → Option (String × List Char)
  | '"' :: '"' :: '"' :: rest => (body? '"' rest).map fun (text, rest) => (String.ofList text, rest)
  | '\'' :: '\'' :: '\'' :: rest =>
      (body? '\'' rest).map fun (text, rest) => (String.ofList text, rest)
  | cs => line? cs

end NestedFilter.Toml
