import NestedFilter.Settings.Tree

/-!
Where a named setting goes. The name spells a path, and of the tree only what stands at its beginning
is touched; tables are merged entry by entry.
-/

set_option autoImplicit false

namespace NestedFilter.Settings

namespace Step

def lowered : Step → Step
  | .entry name => .entry (Text.lowered name)
  | .item position => .item position

theorem part_begins (part : List Char) (steps : List Step) (read : ofPart? part = some steps) :
    ∃ name rest, steps = .entry name :: rest := by
  rw [ofPart?] at read
  split at read
  · split at read
    · cases read
    · obtain ⟨items, _, rfl⟩ := Option.map_eq_some_iff.mp read
      exact ⟨_, _, rfl⟩
  · cases read

theorem part_of_plain (part : List Char) (noBracket : '[' ∉ part) :
    ofPart? part = none ∨ ofPart? part = some [.entry (String.ofList part)] := by
  rw [ofPart?, List.splitOn_eq_singleton noBracket]
  by_cases odd : (part.isEmpty || !part.all isNameChar) = true
  · exact .inl (if_pos odd)
  · exact .inr (if_neg odd)

end Step

theorem path_begins (name : String) : ∃ first rest, pathOf name = .entry first :: rest := by
  rw [pathOf]
  split
  · rename_i steps read
    cases parts : name.toList.splitOn '.' with
    | nil => exact absurd parts (List.splitOn_ne_nil _ _)
    | cons part others =>
        rw [parts, List.mapM_cons] at read
        obtain ⟨first, readFirst, read⟩ := Option.bind_eq_some_iff.mp read
        obtain ⟨later, _, read⟩ := Option.bind_eq_some_iff.mp read
        obtain ⟨entry, items, rfl⟩ := Step.part_begins part first readFirst
        cases read
        exact ⟨entry, items ++ later.flatten, rfl⟩
  · exact ⟨name, [], rfl⟩

theorem path_of_plain (name : String) (noPoint : '.' ∉ name.toList) (noBracket : '[' ∉ name.toList) :
    pathOf name = [.entry name] := by
  rw [pathOf, List.splitOn_eq_singleton noPoint, List.mapM_cons, List.mapM_nil]
  rcases Step.part_of_plain name.toList noBracket with odd | entry
  · rw [odd]
    rfl
  · rw [entry, String.ofList_toList]
    rfl

-- The path of a name as it is followed: entries are compared in lower case.
def spelled (name : String) : List Step := (pathOf name).map Step.lowered

theorem spelled_plain (name : String) (noPoint : '.' ∉ name.toList) (noBracket : '[' ∉ name.toList) :
    spelled name = [.entry (Text.lowered name)] := by
  rw [spelled, path_of_plain name noPoint noBracket]
  rfl

theorem lookup_put_entry {α : Type} (entries : List (String × α)) (name key : String) (item : α) :
    (putEntry name item entries).lookup key =
      if key = name then some item else entries.lookup key := by
  induction entries with
  | nil =>
      by_cases same : key = name
      · simp [putEntry, same]
      · simp [putEntry, List.lookup_cons, beq_eq_false_iff_ne.mpr same, same]
  | cons entry rest ih =>
      obtain ⟨first, present⟩ := entry
      by_cases here : first = name
      · subst first
        by_cases same : key = name
        · simp [putEntry, same]
        · simp [putEntry, List.lookup_cons, beq_eq_false_iff_ne.mpr same, same]
      · by_cases found : key = first
        · subst first
          simp [putEntry, here]
        · simp [putEntry, List.lookup_cons, beq_eq_false_iff_ne.mpr found, here, ih]

namespace Setting

def onto (setting : Setting) (present : Option Setting) : Setting :=
  match setting, present with
  | .table _ [], some found => found
  | .table _ entries, _ =>
      let (origin, tree) := (present.getD .unset).entries
      .table origin (Setting.mergeAllInto tree entries)
  | other, _ => other

theorem lookup_merge_into (setting : Setting) (tree : Tree) (name key : String) :
    (setting.mergeInto tree name).lookup key =
      if key = Text.lowered name then some (setting.onto (tree.lookup key)) else tree.lookup key := by
  cases setting with
  | unset | scalar _ _ | sequence _ _ => rw [mergeInto, lookup_put_entry]; rfl
  | table origin entries =>
      cases entries with
      | nil =>
          by_cases own : key = Text.lowered name
          · subst key
            cases search : tree.lookup (Text.lowered name) with
            | none => simp [mergeInto, search, lookup_put_entry, onto, mergeAllInto, Setting.entries]
            | some found => simp [mergeInto, search, onto]
          · rw [if_neg own, mergeInto]
            split
            · rfl
            · rw [lookup_put_entry, if_neg own]
      | cons first rest =>
          rw [mergeInto, lookup_put_entry]
          by_cases own : key = Text.lowered name
          · subst key
            rfl
          · rw [if_neg own, if_neg own]

def past (setting : Setting) : List Step → Option Setting → Setting
  | [], present => setting.onto present
  | next :: rest, present => setting.mergeAt (next :: rest) (present.getD .unset)

theorem merge_at_entry (setting present : Setting) (name : String) (rest : List Step) :
    ∃ inner : Tree, setting.mergeAt (.entry name :: rest) present = .table present.entries.1 inner ∧
      ∀ key, inner.lookup key =
        if key = Text.lowered name then some (setting.past rest (present.entries.2.lookup key))
        else present.entries.2.lookup key := by
  cases rest with
  | nil => exact ⟨_, rfl, fun key => setting.lookup_merge_into present.entries.2 name key⟩
  | cons next rest =>
      refine ⟨_, rfl, ?_⟩
      intro key
      rw [lookup_put_entry]
      by_cases own : key = Text.lowered name
      · rw [if_pos own, if_pos own, own]
        rfl
      · rw [if_neg own, if_neg own]
        rfl

theorem merge_into_other (setting : Setting) (tree : Tree) (name key : String)
    (other : key ≠ Text.lowered name) :
    (setting.mergeInto tree name).lookup key = tree.lookup key := by
  rw [lookup_merge_into, if_neg other]

theorem merge_into_absent (setting : Setting) (tree : Tree) (name : String)
    (absent : tree.lookup (Text.lowered name) = none) :
    (setting.mergeInto tree name).lookup (Text.lowered name) = some (setting.onto none) := by
  rw [lookup_merge_into, if_pos rfl, absent]

theorem merge_all_others (entries : List (String × Setting)) (tree : Tree) (key : String)
    (others : ∀ entry ∈ entries, Text.lowered entry.1 ≠ key) :
    (mergeAllInto tree entries).lookup key = tree.lookup key := by
  induction entries generalizing tree with
  | nil => rw [mergeAllInto]
  | cons entry rest ih =>
      obtain ⟨first, later⟩ := List.forall_mem_cons.mp others
      rw [mergeAllInto, ih _ later, merge_into_other _ tree entry.1 key first.symm]

theorem merge_all_lookup (entries : List (String × Setting)) (tree : Tree) (key : String)
    (distinct : (entries.map (fun entry => Text.lowered entry.1)).Nodup)
    (absent : tree.lookup key = none) :
    (mergeAllInto tree entries).lookup key =
      (entries.find? (fun entry => Text.lowered entry.1 == key)).map (·.2.onto none) := by
  -- By induction on the entries; the one of this key, if any, finds none there before it.
  induction entries generalizing tree with
  | nil => simpa [mergeAllInto] using absent
  | cons entry rest ih =>
      obtain ⟨unique, later⟩ := List.nodup_cons.mp distinct
      rw [mergeAllInto]
      by_cases own : Text.lowered entry.1 = key
      · subst key
        have others : ∀ other ∈ rest, Text.lowered other.1 ≠ Text.lowered entry.1 := by
          intro other listed same
          exact unique (List.mem_map.mpr ⟨other, listed, same⟩)
        rw [merge_all_others rest _ _ others, merge_into_absent _ tree entry.1 absent]
        simp
      · have still : (entry.2.mergeInto tree entry.1).lookup key = none := by
          rw [merge_into_other _ tree entry.1 key (Ne.symm own), absent]
        rw [ih _ later still]
        simp [own]

end Setting

namespace Tree

theorem lookup_add_at (tree : Tree) (name key first : String) (rest : List Step) (setting : Setting)
    (path : pathOf name = .entry first :: rest) :
    (tree.addAt name setting).lookup key =
      if key = Text.lowered first then some (setting.past rest (tree.lookup key))
      else tree.lookup key := by
  obtain ⟨inner, merged, lookups⟩ := setting.merge_at_entry (.table none tree) first rest
  rw [addAt, path, merged]
  exact lookups key

theorem add_at_other (tree : Tree) (name key : String) (setting : Setting)
    (other : ∀ rest, spelled name ≠ .entry key :: rest) :
    (tree.addAt name setting).lookup key = tree.lookup key := by
  obtain ⟨first, rest, path⟩ := path_begins name
  have different : key ≠ Text.lowered first := by
    intro same
    apply other (rest.map Step.lowered)
    rw [spelled, path, same]
    rfl
  rw [lookup_add_at tree name key first rest setting path, if_neg different]

theorem add_at_alike (tree other : Tree) (name key : String) (setting : Setting)
    (same : other.lookup key = tree.lookup key) :
    (other.addAt name setting).lookup key = (tree.addAt name setting).lookup key := by
  obtain ⟨first, rest, path⟩ := path_begins name
  rw [lookup_add_at other name key first rest setting path,
    lookup_add_at tree name key first rest setting path, same]

end Tree

end NestedFilter.Settings
