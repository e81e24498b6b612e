import NestedFilter.Proofs.SettingPaths
import NestedFilter.Settings.Filter

/-!
What settings added by their paths do to the section of the filter, and what a whole document writes
for each setting in it.
-/

set_option autoImplicit false

namespace NestedFilter.Settings

open SettingsError (sectionName)

def settingNames : List String := ["wildcards", "table_prefix", "singular_table"]

def sectionPath : List Step := [.entry sectionName]

def settingPath (key : String) : List Step := [.entry sectionName, .entry key]

-- Paths on which the section or a setting would have to be something else: those to an item of the
-- section, and those that go on below a setting.
def Strays (path : List Step) : Prop :=
  (∃ position rest, path = .entry sectionName :: .item position :: rest) ∨
    ∃ key ∈ settingNames, ∃ step rest,
      path = .entry sectionName :: .entry key :: step :: rest

-- What a position before the front of a sequence comes to is left open.
def FromFront (path : List Step) : Prop := ∀ position, .item position ∈ path → 0 ≤ position

theorem entries_from_front (names : List String) : FromFront (names.map .entry) := by
  intro position listed
  obtain ⟨_, _, same⟩ := List.mem_map.mp listed
  cases same

namespace Tree

def sectionEntries (tree : Tree) : Tree := (tree.entry sectionName).entries.2

def setting? (tree : Tree) (key : String) : Option Setting := tree.sectionEntries.lookup key

def Sectioned (tree : Tree) : Prop :=
  ∀ found, tree.lookup sectionName = some found → ∃ origin entries, found = .table origin entries

theorem of_tree_settings (tree : Tree) (sectioned : tree.Sectioned) :
    ofTree tree = ofEntries (tree.setting? "wildcards") (tree.setting? "table_prefix")
      (tree.setting? "singular_table") := by
  cases search : tree.lookup sectionName with
  | none =>
      have empty : tree.sectionEntries = [] := by simp [sectionEntries, entry, search, Setting.entries]
      simp only [ofTree, search, setting?, empty]
      rfl
  | some found =>
      obtain ⟨origin, entries, rfl⟩ := sectioned found search
      have present : tree.sectionEntries = entries := by
        simp [sectionEntries, entry, search, Setting.entries]
      simp only [ofTree, search, setting?, present, ofSection]

theorem section_found (tree : Tree) (origin : Option Origin) (entries : Tree)
    (search : tree.lookup sectionName = some (.table origin entries)) :
    tree.Sectioned ∧ tree.sectionEntries = entries := by
  constructor
  · intro found same
    exact ⟨origin, entries, Option.some.inj (same.symm.trans search)⟩
  · simp [sectionEntries, entry, search, Setting.entries]

theorem section_alike (tree other : Tree)
    (same : other.lookup sectionName = tree.lookup sectionName) :
    (tree.Sectioned → other.Sectioned) ∧ other.sectionEntries = tree.sectionEntries := by
  constructor
  · intro sectioned found search
    exact sectioned found (same.symm.trans search)
  · rw [sectionEntries, entry, same, sectionEntries, entry]

theorem add_at_cases (tree : Tree) (name : String) (setting : Setting)
    (straight : ¬ Strays (spelled name)) :
    let after := tree.addAt name setting
    (spelled name = sectionPath ∧
      after.lookup sectionName = some (setting.onto (tree.lookup sectionName))) ∨
    (∃ own, spelled name = settingPath own ∧ after.Sectioned ∧
      ∀ key, after.setting? key =
        if key = own then some (setting.onto (tree.setting? key)) else tree.setting? key) ∨
    (spelled name ≠ sectionPath ∧ (∀ key, spelled name ≠ settingPath key) ∧
      (tree.Sectioned → after.Sectioned) ∧
      ∀ key ∈ settingNames, after.setting? key = tree.setting? key) := by
  intro after
  obtain ⟨first, rest, path⟩ := path_begins name
  have spelling : spelled name = .entry (Text.lowered first) :: rest.map Step.lowered := by
    rw [spelled, path]
    rfl
  by_cases top : Text.lowered first = sectionName
  · have search := lookup_add_at tree name sectionName first rest setting path
    rw [if_pos top.symm] at search
    rw [top] at spelling
    cases rest with
    | nil => exact .inl ⟨spelling, search⟩
    | cons next rest =>
        cases next with
        | item position => exact absurd (.inl ⟨position, _, spelling⟩) straight
        | entry written =>
            obtain ⟨inner, merged, lookups⟩ :=
              setting.merge_at_entry (tree.entry sectionName) written rest
            obtain ⟨sectioned, entries⟩ :=
              section_found after _ inner (search.trans (congrArg some merged))
            cases rest with
            | nil =>
                refine .inr (.inl ⟨_, spelling, sectioned, ?_⟩)
                intro key
                rw [setting?, entries]
                exact lookups key
            | cons step rest =>
                refine .inr (.inr ⟨?_, ?_, fun _ => sectioned, ?_⟩)
                · rw [spelling]
                  simp [sectionPath]
                · intro key
                  rw [spelling]
                  simp [settingPath]
                · intro key named
                  have different : key ≠ Text.lowered written := by
                    rintro rfl
                    exact straight (.inr ⟨_, named, _, _, spelling⟩)
                  rw [setting?, entries, lookups, if_neg different]
                  rfl
  · have elsewhere : ∀ rest, spelled name ≠ .entry sectionName :: rest := by
      intro other same
      rw [spelling] at same
      exact top (Step.entry.inj (List.cons.inj same).1)
    obtain ⟨sectioned, inner⟩ :=
      section_alike tree after (add_at_other tree name sectionName setting elsewhere)
    refine .inr (.inr ⟨elsewhere [], fun key => elsewhere [.entry key], sectioned, ?_⟩)
    intro key _
    rw [setting?, inner, setting?]

theorem table_onto_section (tree : Tree) (origin : Option Origin)
    (entries : List (String × Setting)) (sectioned : tree.Sectioned) :
    ∃ kept, (Setting.table origin entries).onto (tree.lookup sectionName) =
      .table kept (Setting.mergeAllInto tree.sectionEntries entries) := by
  rw [sectionEntries, entry]
  cases entries with
  | nil =>
      cases search : tree.lookup sectionName with
      | none => exact ⟨_, rfl⟩
      | some found =>
          obtain ⟨kept, present, rfl⟩ := sectioned found search
          exact ⟨kept, rfl⟩
  | cons first rest => exact ⟨_, rfl⟩

end Tree

def writesOf (entry : String × Toml.Value) : List (String × Toml.Value) :=
  match spelled entry.1, entry.2 with
  | [.entry top], .table entries =>
      if top = sectionName then entries.map fun inner => (Text.lowered inner.1, inner.2) else []
  | [.entry top, .entry key], value => if top = sectionName then [(key, value)] else []
  | _, _ => []

def writes (document : List (String × Toml.Value)) : List (String × Toml.Value) :=
  document.flatMap writesOf

-- The value that is written for a setting. A table is built up anew from its entries.
def written? (origin : Option Origin) (writes : List (String × Toml.Value)) (key : String) :
    Option Setting :=
  (writes.find? (fun write => write.1 == key)).map fun write =>
    (Setting.ofToml origin write.2).onto none

theorem writes_of_section (name : String) (entries : List (String × Toml.Value))
    (spelling : spelled name = sectionPath) :
    writesOf (name, .table entries) =
      entries.map fun inner => (Text.lowered inner.1, inner.2) := by
  simp [writesOf, spelling, sectionPath]

theorem writes_of_setting (name key : String) (value : Toml.Value)
    (spelling : spelled name = settingPath key) : writesOf (name, value) = [(key, value)] := by
  simp [writesOf, spelling, settingPath]

theorem writes_of_other (name : String) (value : Toml.Value)
    (noSection : spelled name ≠ sectionPath) (noSetting : ∀ key, spelled name ≠ settingPath key) :
    writesOf (name, value) = [] := by
  unfold writesOf
  split
  · rename_i top entries spelling _
    apply if_neg
    rintro rfl
    exact noSection spelling
  · rename_i top key spelling
    apply if_neg
    rintro rfl
    exact noSetting key spelling
  · rfl

theorem entries_of_toml (origin : Option Origin) (entries : List (String × Toml.Value)) :
    Setting.entriesOfToml origin entries =
      entries.map fun inner => (inner.1, Setting.ofToml origin inner.2) := by
  induction entries with
  | nil => rfl
  | cons entry rest ih => rw [Setting.entriesOfToml, ih, List.map_cons]

theorem written_append (origin : Option Origin) (before after : List (String × Toml.Value))
    (key : String) :
    written? origin (before ++ after) key =
      (written? origin before key).or (written? origin after key) := by
  rw [written?, List.find?_append]
  cases search : before.find? (fun write => write.1 == key) <;> simp [written?, search]

theorem unwritten (origin : Option Origin) (writes : List (String × Toml.Value)) (key : String)
    (absent : key ∉ writes.map (·.1)) : written? origin writes key = none := by
  have none : writes.find? (fun write => write.1 == key) = none := by
    apply List.find?_eq_none.mpr
    intro write listed same
    exact absent (List.mem_map.mpr ⟨write, listed, eq_of_beq same⟩)
  rw [written?, none]
  rfl

structure Orderly (document : List (String × Toml.Value)) : Prop where
  tables : ∀ entry ∈ document, spelled entry.1 = sectionPath → ∃ entries, entry.2 = .table entries
  straight : ∀ entry ∈ document, ¬ Strays (spelled entry.1)
  forward : ∀ entry ∈ document, FromFront (spelled entry.1)
  distinct : ((writes document).map (·.1)).Nodup

namespace Tree

theorem merge_table_settings (tree : Tree) (origin : Option Origin)
    (entries : List (String × Toml.Value)) (key : String)
    (distinct : (entries.map (fun inner => Text.lowered inner.1)).Nodup)
    (fresh : key ∈ entries.map (fun inner => Text.lowered inner.1) → tree.lookup key = none) :
    (Setting.mergeAllInto tree (Setting.entriesOfToml origin entries)).lookup key =
      (written? origin (entries.map fun inner => (Text.lowered inner.1, inner.2)) key).or
        (tree.lookup key) := by
  rw [entries_of_toml]
  by_cases listed : key ∈ entries.map (fun inner => Text.lowered inner.1)
  · have absent := fresh listed
    rw [Setting.merge_all_lookup _ tree key (by simpa [Function.comp_def] using distinct) absent,
      absent, Option.or_none, written?, List.find?_map, List.find?_map]
    simp only [Option.map_map]
    rfl
  · have others : ∀ entry ∈ entries.map (fun inner => (inner.1, Setting.ofToml origin inner.2)),
        Text.lowered entry.1 ≠ key := by
      intro entry member same
      obtain ⟨inner, inside, rfl⟩ := List.mem_map.mp member
      exact listed (List.mem_map.mpr ⟨inner, inside, same⟩)
    rw [Setting.merge_all_others _ tree key others, unwritten origin _ key]
    · rfl
    · simpa [Function.comp_def] using listed

theorem add_written (tree : Tree) (origin : Option Origin) (entry : String × Toml.Value)
    (key : String) (named : key ∈ settingNames) (sectioned : tree.Sectioned)
    (tables : spelled entry.1 = sectionPath → ∃ entries, entry.2 = .table entries)
    (straight : ¬ Strays (spelled entry.1)) (distinct : ((writesOf entry).map (·.1)).Nodup)
    (fresh : key ∈ (writesOf entry).map (·.1) → tree.setting? key = none) :
    let after := tree.addAt entry.1 (Setting.ofToml origin entry.2)
    after.Sectioned ∧
      after.setting? key = (written? origin (writesOf entry) key).or (tree.setting? key) := by
  obtain ⟨name, value⟩ := entry
  intro after
  rcases add_at_cases tree name (Setting.ofToml origin value) straight with
    ⟨spelling, search⟩ | ⟨own, spelling, kept, settings⟩ | ⟨noSection, noSetting, kept, others⟩
  · obtain ⟨entries, rfl⟩ := tables spelling
    rw [writes_of_section name entries spelling] at distinct fresh ⊢
    rw [List.map_map] at distinct fresh
    obtain ⟨merged, onto⟩ :=
      table_onto_section tree origin (Setting.entriesOfToml origin entries) sectioned
    obtain ⟨kept, inner⟩ := section_found after _ _ (search.trans (congrArg some onto))
    refine ⟨kept, ?_⟩
    rw [setting?, inner]
    exact merge_table_settings tree.sectionEntries origin entries key distinct fresh
  · rw [writes_of_setting name own value spelling] at fresh ⊢
    refine ⟨kept, ?_⟩
    rw [settings]
    by_cases same : key = own
    · subst own
      rw [if_pos rfl, fresh (List.mem_singleton.mpr rfl)]
      simp [written?]
    · rw [if_neg same, unwritten origin _ key (by simpa using same)]
      rfl
  · rw [writes_of_other name value noSection noSetting]
    exact ⟨kept sectioned, others key named⟩

theorem document_settings (document : List (String × Toml.Value)) (tree : Tree)
    (origin : Option Origin) (key : String) (named : key ∈ settingNames)
    (orderly : Orderly document) (sectioned : tree.Sectioned)
    (fresh : key ∈ (writes document).map (·.1) → tree.setting? key = none) :
    let after := tree.override (Setting.entriesOfToml origin document)
    after.Sectioned ∧
      after.setting? key = (written? origin (writes document) key).or (tree.setting? key) := by
  -- By induction on the entries that are left, the first of which writes what no other one does.
  induction document generalizing tree with
  | nil => exact ⟨sectioned, rfl⟩
  | cons entry rest ih =>
      obtain ⟨tables, straight, forward, distinct⟩ := orderly
      obtain ⟨ownTable, restTables⟩ := List.forall_mem_cons.mp tables
      obtain ⟨ownStraight, restStraight⟩ := List.forall_mem_cons.mp straight
      have restForward := (List.forall_mem_cons.mp forward).2
      have split : writes (entry :: rest) = writesOf entry ++ writes rest := List.flatMap_cons
      rw [split, List.map_append] at distinct fresh
      obtain ⟨ownDistinct, restDistinct, apart⟩ := List.nodup_append.mp distinct
      obtain ⟨kept, added⟩ := add_written tree origin entry key named sectioned ownTable ownStraight
        ownDistinct (fun listed => fresh (List.mem_append_left _ listed))
      have still : key ∈ (writes rest).map (·.1) →
          (tree.addAt entry.1 (Setting.ofToml origin entry.2)).setting? key = none := by
        intro later
        have absent : key ∉ (writesOf entry).map (·.1) :=
          fun listed => apart key listed key later rfl
        rw [added, unwritten origin _ key absent, fresh (List.mem_append_right _ later)]
        rfl
      obtain ⟨keptAll, all⟩ := ih _ ⟨restTables, restStraight, restForward, restDistinct⟩ kept still
      refine ⟨keptAll, all.trans ?_⟩
      rw [added, split, written_append]
      by_cases listed : key ∈ (writesOf entry).map (·.1)
      · have later : key ∉ (writes rest).map (·.1) := fun later => apart key listed key later rfl
        rw [unwritten origin _ key later, Option.or_none, Option.none_or]
      · rw [unwritten origin _ key listed, Option.none_or, Option.none_or]

end Tree

def DistinctTable (value : Toml.Value) : Prop :=
  ∃ inner, value = .table inner ∧ (inner.map fun named => Text.lowered named.1).Nodup

theorem distinct_table_iff (inner : List (String × Toml.Value)) :
    DistinctTable (.table inner) ↔ (inner.map fun named => Text.lowered named.1).Nodup := by
  constructor
  · intro distinct
    obtain ⟨same, table, nodup⟩ := distinct
    cases table
    exact nodup
  · intro nodup
    exact ⟨inner, rfl, nodup⟩

instance (value : Toml.Value) : Decidable (DistinctTable value) :=
  match value with
  | .table inner => decidable_of_iff' _ (distinct_table_iff inner)
  | .boolean _ | .integer _ | .float _ | .string _ | .datetime _ | .array _ =>
      isFalse fun distinct => nomatch distinct

structure Plain (document : List (String × Toml.Value)) : Prop where
  marks : ∀ entry ∈ document, '.' ∉ entry.1.toList ∧ '[' ∉ entry.1.toList
  unique : (document.map fun entry => Text.lowered entry.1).Nodup
  tables : ∀ entry ∈ document, Text.lowered entry.1 = sectionName → DistinctTable entry.2

theorem plain_iff (document : List (String × Toml.Value)) :
    Plain document ↔ (∀ entry ∈ document, '.' ∉ entry.1.toList ∧ '[' ∉ entry.1.toList) ∧
      (document.map fun entry => Text.lowered entry.1).Nodup ∧
      ∀ entry ∈ document, Text.lowered entry.1 = sectionName → DistinctTable entry.2 :=
  ⟨fun ⟨marks, unique, tables⟩ => ⟨marks, unique, tables⟩,
    fun ⟨marks, unique, tables⟩ => ⟨marks, unique, tables⟩⟩

instance (document : List (String × Toml.Value)) : Decidable (Plain document) :=
  decidable_of_iff' _ (plain_iff document)

theorem writes_of_plain (document : List (String × Toml.Value)) (plain : Plain document) :
    ((writes document).map (·.1)).Nodup ∧
      (sectionName ∉ document.map (fun entry => Text.lowered entry.1) → writes document = []) := by
  induction document with
  | nil => exact ⟨List.nodup_nil, fun _ => rfl⟩
  | cons entry rest ih =>
      obtain ⟨marks, unique, tables⟩ := plain
      obtain ⟨⟨noPoint, noBracket⟩, restMarks⟩ := List.forall_mem_cons.mp marks
      obtain ⟨alone, restUnique⟩ := List.nodup_cons.mp unique
      obtain ⟨ownTable, restTables⟩ := List.forall_mem_cons.mp tables
      obtain ⟨distinct, none⟩ := ih ⟨restMarks, restUnique, restTables⟩
      have spelling := spelled_plain entry.1 noPoint noBracket
      have split : writes (entry :: rest) = writesOf entry ++ writes rest := List.flatMap_cons
      by_cases top : Text.lowered entry.1 = sectionName
      · obtain ⟨inner, table, innerDistinct⟩ := ownTable top
        have empty : writes rest = [] := none (top ▸ alone)
        have wrote : writesOf entry = inner.map fun named => (Text.lowered named.1, named.2) := by
          rw [top] at spelling
          rw [← writes_of_section entry.1 inner spelling, ← table]
        rw [split, wrote, empty, List.append_nil, List.map_map]
        exact ⟨innerDistinct, fun absent => absurd (List.mem_cons.mpr (.inl top.symm)) absent⟩
      · have noSection : spelled entry.1 ≠ sectionPath := by
          rw [spelling]
          simpa [sectionPath] using top
        have noSetting : ∀ key, spelled entry.1 ≠ settingPath key := by
          intro key
          rw [spelling]
          simp [settingPath]
        rw [split, writes_of_other entry.1 entry.2 noSection noSetting, List.nil_append]
        exact ⟨distinct, fun absent => none (fun later => absent (List.mem_cons_of_mem _ later))⟩

theorem orderly_of_plain (document : List (String × Toml.Value)) (plain : Plain document) :
    Orderly document where
  tables := by
    intro entry listed top
    obtain ⟨noPoint, noBracket⟩ := plain.marks entry listed
    rw [spelled_plain entry.1 noPoint noBracket] at top
    obtain ⟨inner, table, _⟩ := plain.tables entry listed (Step.entry.inj (List.cons.inj top).1)
    exact ⟨inner, table⟩
  straight := by
    intro entry listed
    obtain ⟨noPoint, noBracket⟩ := plain.marks entry listed
    rw [spelled_plain entry.1 noPoint noBracket]
    rintro (⟨position, rest, same⟩ | ⟨key, _, step, rest, same⟩)
    · cases (List.cons.inj same).2
    · cases (List.cons.inj same).2
  forward := by
    intro entry listed
    obtain ⟨noPoint, noBracket⟩ := plain.marks entry listed
    rw [spelled_plain entry.1 noPoint noBracket]
    exact entries_from_front [Text.lowered entry.1]
  distinct := (writes_of_plain document plain).1

end NestedFilter.Settings
