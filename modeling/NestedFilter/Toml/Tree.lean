import NestedFilter.Toml.Value

/-!
Tables under construction. How a table came about decides what may still be added to it: each
table is defined once, and a value is never extended.
-/

set_option autoImplicit false

namespace NestedFilter.Toml

inductive TableOrigin where
  /-- On the way to a table with a header. -/
  | passed
  | dotted
  | header
deriving DecidableEq, Repr

inductive Node where
  | value (value : Value)
  | table (origin : TableOrigin) (entries : List (String × Node))
  /-- Tables under one repeated header, the latest one last. -/
  | tables (earlier : List (List (String × Node))) (latest : List (String × Node))

abbrev Nodes := List (String × Node)

namespace Nodes

def addNew? (key : String) (node : Node) (nodes : Nodes) : Option Nodes :=
  match nodes.lookup key with
  | some _ => none
  | none => some (putEntry key node nodes)

/-- Adds a value under a dotted key. Tables with a header are not reached by it, and the last
table on the way must be one that dotted keys made. -/
def addValue? (value : Value) : List String → Nodes → Option Nodes
  | [], _ => none
  | [key], nodes => addNew? key (.value value) nodes
  | key :: rest, nodes =>
      match nodes.lookup key with
      | none => do pure (putEntry key (.table .dotted (← addValue? value rest [])) nodes)
      | some (.value _) => none
      | some (.table origin inner) =>
          if origin = .header ∨ (rest.length = 1 ∧ origin ≠ .dotted) then none
          else do pure (putEntry key (.table origin (← addValue? value rest inner)) nodes)
      | some (.tables earlier latest) =>
          if rest.length = 1 then none
          else do pure (putEntry key (.tables earlier (← addValue? value rest latest)) nodes)

def change? (f : Nodes → Option Nodes) : List String → Nodes → Option Nodes
  | [], nodes => f nodes
  | key :: rest, nodes =>
      match nodes.lookup key with
      | none => do pure (putEntry key (.table .passed (← change? f rest [])) nodes)
      | some (.value _) => none
      | some (.table origin inner) => do
          pure (putEntry key (.table origin (← change? f rest inner)) nodes)
      | some (.tables earlier latest) => do
          pure (putEntry key (.tables earlier (← change? f rest latest)) nodes)

def remove (key : String) (nodes : Nodes) : Nodes := nodes.filter (fun entry => entry.1 != key)

def define? (key : String) (nodes : Nodes) : Option Nodes :=
  match nodes.lookup key with
  | none => some (putEntry key (.table .header []) nodes)
  | some (.table .passed inner) => some (remove key nodes ++ [(key, .table .header inner)])
  | some _ => none

def defineNext? (key : String) (nodes : Nodes) : Option Nodes :=
  match nodes.lookup key with
  | none => some (putEntry key (.tables [] []) nodes)
  | some (.tables earlier latest) => some (putEntry key (.tables (earlier ++ [latest]) []) nodes)
  | some _ => none

end Nodes

mutual

def Node.toValue : Node → Value
  | .value ready => ready
  | .table _ entries => .table (Node.entryValues entries)
  | .tables earlier latest => .array (Node.tableValues earlier ++ [.table (Node.entryValues latest)])
termination_by structural node => node

def Node.entryValues : List (String × Node) → List (String × Value)
  | [] => []
  | (key, node) :: rest => (key, node.toValue) :: Node.entryValues rest
termination_by structural entries => entries

def Node.tableValues : List (List (String × Node)) → List Value
  | [] => []
  | entries :: rest => .table (Node.entryValues entries) :: Node.tableValues rest
termination_by structural tables => tables

end

end NestedFilter.Toml
