import NestedFilter.Toml.Value
import NestedFilter.Text.Lowered
import NestedFilter.Settings.Path

/-!
Settings as a tree of named entries. Names are compared in lower case, and later settings override
earlier ones entry by entry.
-/

set_option autoImplicit false

namespace NestedFilter.Settings

inductive Origin where
  | file
  | environment
deriving DecidableEq, Repr

inductive Scalar where
  | boolean (value : Bool)
  | integer (value : Int)
  | float (value : Toml.FloatValue)
  | text (value : String)
deriving DecidableEq, Repr

inductive Setting where
  /-- Fills a sequence up to an item that was set behind its end. -/
  | unset
  | scalar (origin : Option Origin) (value : Scalar)
  | sequence (origin : Option Origin) (items : List Setting)
  | table (origin : Option Origin) (entries : List (String × Setting))
deriving Repr

abbrev Tree := List (String × Setting)

mutual

def Setting.ofToml (origin : Option Origin) : Toml.Value → Setting
  | .boolean value => .scalar origin (.boolean value)
  | .integer value => .scalar origin (.integer value)
  | .float value => .scalar origin (.float value)
  | .string value => .scalar origin (.text value)
  | .datetime text => .scalar origin (.text text)
  | .array items => .sequence origin (Setting.itemsOfToml origin items)
  | .table entries => .table origin (Setting.entriesOfToml origin entries)
termination_by structural value => value

def Setting.itemsOfToml (origin : Option Origin) : List Toml.Value → List Setting
  | [] => []
  | item :: rest => Setting.ofToml origin item :: Setting.itemsOfToml origin rest
termination_by structural items => items

def Setting.entriesOfToml (origin : Option Origin) :
    List (String × Toml.Value) → List (String × Setting)
  | [] => []
  | (name, value) :: rest => (name, Setting.ofToml origin value) :: Setting.entriesOfToml origin rest
termination_by structural entries => entries

end

namespace Tree

def entry (tree : Tree) (name : String) : Setting := (tree.lookup name).getD .unset

end Tree

namespace Setting

def entries : Setting → Option Origin × Tree
  | .table origin entries => (origin, entries)
  | _ => (none, [])

def items : Setting → Option Origin × List Setting
  | .sequence origin items => (origin, items)
  | _ => (none, [])

end Setting

mutual

/-- Adds a setting under a name. A table is merged into the one that stands there, any other
setting takes its place. -/
def Setting.mergeInto (tree : Tree) (name : String) : Setting → Tree
  | .unset => putEntry (Text.lowered name) .unset tree
  | .table _ [] =>
      let key := Text.lowered name
      if (tree.lookup key).isSome then tree else putEntry key (.table none []) tree
  | .table _ (first :: rest) =>
      let key := Text.lowered name
      let (origin, present) := (tree.entry key).entries
      putEntry key (.table origin (Setting.mergeAllInto present (first :: rest))) tree
  | .sequence origin items => putEntry (Text.lowered name) (.sequence origin items) tree
  | .scalar origin value => putEntry (Text.lowered name) (.scalar origin value) tree
termination_by structural setting => setting

def Setting.mergeAllInto (tree : Tree) : List (String × Setting) → Tree
  | [] => tree
  | (name, setting) :: rest =>
      Setting.mergeAllInto (Setting.mergeInto tree name setting) rest
termination_by structural entries => entries

end

namespace Setting

def indexOf (position : Int) (length : Nat) : Nat :=
  if 0 ≤ position then position.toNat else length - position.natAbs

def putItem (items : List Setting) (index : Nat) (setting : Setting) : List Setting :=
  (items ++ List.replicate (index + 1 - items.length) Setting.unset).set index setting

/-- Adds a setting at the end of a path. What stands on the way and is no table or sequence, as the
path needs it, gives way to one. -/
def mergeAt (setting : Setting) : List Step → Setting → Setting
  | [], _ => setting
  | [.entry name], present =>
      let (origin, tree) := present.entries
      .table origin (setting.mergeInto tree name)
  | .entry name :: next :: rest, present =>
      let (origin, tree) := present.entries
      let key := Text.lowered name
      .table origin (putEntry key (setting.mergeAt (next :: rest) (tree.entry key)) tree)
  | .item position :: rest, present =>
      let (origin, items) := present.items
      let index := indexOf position items.length
      .sequence origin (putItem items index (setting.mergeAt rest (items.getD index .unset)))

end Setting

namespace Tree

def addAt (tree : Tree) (name : String) (setting : Setting) : Tree :=
  (setting.mergeAt (pathOf name) (.table none tree)).entries.2

def override (tree : Tree) (settings : List (String × Setting)) : Tree :=
  settings.foldl (fun tree named => tree.addAt named.1 named.2) tree

end Tree

end NestedFilter.Settings
