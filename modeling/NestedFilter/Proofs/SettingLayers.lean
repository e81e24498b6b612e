import NestedFilter.Proofs.SectionWrites

/-!
The layers of the filter settings: for each of them, a variable of the environment goes before the
file, and the file before the default.
-/

set_option autoImplicit false

namespace NestedFilter.Settings

open SettingsError (sectionName)

def variablePath? (name : String) : Option (List Step) :=
  (ofBinding (name, "")).map fun named => spelled named.1

-- The last variable of that path is the one that counts.
def bound? (environment : List (String × String)) (key : String) : Option Setting :=
  (environment.reverse.find? (fun binding => variablePath? binding.1 = some (settingPath key))).map
    fun binding => .scalar (some .environment) (.text binding.2)

-- A file that cannot be read counts as an empty one.
def fileEntries (file : Option String) : List (String × Toml.Value) :=
  (file.bind Toml.read?).getD []

def effective? (file : Option String) (environment : List (String × String)) (key : String) :
    Option Setting :=
  (bound? environment key).or (written? (some .file) (writes (fileEntries file)) key)

-- A variable that is neither the section as a whole nor below one of its settings or items.
def Harmless (name : String) : Prop :=
  ∀ path, variablePath? name = some path → path ≠ sectionPath ∧ ¬ Strays path ∧ FromFront path

def Forward (file : Option String) (environment : List (String × String)) : Prop :=
  (∀ entry ∈ fileEntries file, FromFront (spelled entry.1)) ∧
    ∀ binding ∈ environment, ∀ path, variablePath? binding.1 = some path → FromFront path

def InSection (path : List Step) : Prop := path.head? = some (.entry sectionName)

instance (path : List Step) : Decidable (InSection path) :=
  inferInstanceAs (Decidable (path.head? = some (.entry sectionName)))

def ownEntries (document : List (String × Toml.Value)) : List (String × Toml.Value) :=
  document.filter fun entry => InSection (spelled entry.1)

def ownVariables (environment : List (String × String)) : List (String × String) :=
  environment.filter fun binding => (variablePath? binding.1).any fun path => InSection path

theorem of_binding_cases (name value : String) :
    (ofBinding (name, value) = none ∧ variablePath? name = none) ∨
      ∃ path, ofBinding (name, value) = some (path, .scalar (some .environment) (.text value)) ∧
        variablePath? name = some (spelled path) := by
  by_cases begins : variableStart.isPrefixOf (Text.lowered name).toList = true
  · right
    rw [variablePath?, ofBinding, ofBinding, if_pos begins, if_pos begins]
    exact ⟨_, rfl, rfl⟩
  · left
    have unread : ∀ value, ofBinding (name, value) = none := fun value => if_neg begins
    exact ⟨unread value, by rw [variablePath?, unread]; rfl⟩

theorem setting_variable (name key : String) (named : key ∈ settingNames)
    (spelling : Text.lowered name = "deepguard__deepfilter__" ++ key) :
    variablePath? name = some (settingPath key) := by
  have evaluated : ∀ key ∈ settingNames,
      (if variableStart.isPrefixOf ("deepguard__deepfilter__" ++ key).toList then
        some (spelled (String.ofList
          (pointed (("deepguard__deepfilter__" ++ key).toList.drop variableStart.length))))
      else none) = some (settingPath key) := by decide +kernel
  rw [variablePath?, ofBinding, spelling, apply_ite (Option.map _)]
  exact evaluated key named

theorem setting_harmless (name key : String) (reads : variablePath? name = some (settingPath key)) :
    Harmless name := by
  intro path same
  obtain rfl : settingPath key = path := Option.some.inj (reads.symm.trans same)
  refine ⟨?_, ?_, entries_from_front [sectionName, key]⟩
  · simp [settingPath, sectionPath]
  · rintro (⟨position, rest, same⟩ | ⟨inner, _, step, rest, same⟩)
    · cases (List.cons.inj same).2
    · cases (List.cons.inj (List.cons.inj same).2).2

theorem bound_cons (binding : String × String) (rest : List (String × String)) (key : String) :
    bound? (binding :: rest) key = (bound? rest key).or (bound? [binding] key) := by
  rw [bound?, List.reverse_cons, List.find?_append]
  cases search : rest.reverse.find?
      (fun binding => variablePath? binding.1 = some (settingPath key)) with
  | none => simp [bound?, search]
  | some found => simp [bound?, search]

theorem bound_alone (name value key : String) :
    bound? [(name, value)] key =
      if variablePath? name = some (settingPath key) then
        some (.scalar (some .environment) (.text value)) else none := by
  by_cases own : variablePath? name = some (settingPath key)
  · simp [bound?, own]
  · simp [bound?, own]

namespace Tree

theorem add_bound (tree : Tree) (name value path key : String) (named : key ∈ settingNames)
    (reads : variablePath? name = some (spelled path)) (harmless : Harmless name)
    (sectioned : tree.Sectioned) :
    let after := tree.addAt path (.scalar (some .environment) (.text value))
    after.Sectioned ∧ after.setting? key = (bound? [(name, value)] key).or (tree.setting? key) := by
  intro after
  obtain ⟨noSection, straight, _⟩ := harmless _ reads
  rw [bound_alone, reads]
  rcases add_at_cases tree path (.scalar (some .environment) (.text value)) straight with
    ⟨spelling, _⟩ | ⟨own, spelling, kept, settings⟩ | ⟨_, noSetting, kept, others⟩
  · exact absurd spelling noSection
  · refine ⟨kept, ?_⟩
    rw [settings, spelling]
    by_cases same : key = own
    · rw [if_pos same, if_pos (by rw [same])]
      rfl
    · have different : some (settingPath own) ≠ some (settingPath key) := by
        intro paths
        exact same (by simpa [settingPath] using paths.symm)
      rw [if_neg same, if_neg different]
      rfl
  · have different : some (spelled path) ≠ some (settingPath key) :=
      fun same => noSetting key (Option.some.inj same)
    rw [if_neg different]
    exact ⟨kept sectioned, others key named⟩

theorem environment_settings (environment : List (String × String)) (tree : Tree) (key : String)
    (named : key ∈ settingNames) (harmless : ∀ binding ∈ environment, Harmless binding.1)
    (sectioned : tree.Sectioned) :
    let after := tree.override (environment.filterMap ofBinding)
    after.Sectioned ∧ after.setting? key = (bound? environment key).or (tree.setting? key) := by
  -- By induction on the environment; what comes later goes over what is there by then.
  induction environment generalizing tree with
  | nil => exact ⟨sectioned, rfl⟩
  | cons binding rest ih =>
      obtain ⟨name, value⟩ := binding
      obtain ⟨own, later⟩ := List.forall_mem_cons.mp harmless
      rw [bound_cons, Option.or_assoc]
      rcases of_binding_cases name value with ⟨unread, pathless⟩ | ⟨path, read, reads⟩
      · have unbound : bound? [(name, value)] key = none := by
          rw [bound_alone, pathless]
          rfl
        rw [List.filterMap_cons_none unread, unbound, Option.none_or]
        exact ih tree later sectioned
      · obtain ⟨kept, added⟩ := add_bound tree name value path key named reads own sectioned
        rw [List.filterMap_cons_some read, ← added]
        exact ih _ later kept

theorem override_alike (settings : List (String × Setting)) (tree other : Tree)
    (same : other.lookup sectionName = tree.lookup sectionName) :
    (other.override (settings.filter fun named => InSection (spelled named.1))).lookup sectionName =
      (tree.override settings).lookup sectionName := by
  -- By induction on the settings, those past the section being left out of one of the trees.
  induction settings generalizing tree other with
  | nil => exact same
  | cons named rest ih =>
      by_cases inside : InSection (spelled named.1)
      · rw [List.filter_cons_of_pos (by simpa using inside)]
        exact ih _ _ (add_at_alike tree other named.1 sectionName named.2 same)
      · have elsewhere : ∀ rest, spelled named.1 ≠ .entry sectionName :: rest := by
          intro rest spelling
          rw [InSection, spelling] at inside
          exact inside rfl
        rw [List.filter_cons_of_neg (by simpa using inside)]
        exact ih _ _ (same.trans (add_at_other tree named.1 sectionName named.2 elsewhere).symm)

end Tree

def sources (file : Option String) (environment : List (String × String)) :
    List (String × Setting) :=
  Setting.entriesOfToml (some .file) (fileEntries file) ++ environment.filterMap ofBinding

theorem load_of_sources (file : Option String) (environment : List (String × String)) :
    FilterSettings.load file environment = ofTree (Tree.override [] (sources file environment)) := by
  have joined : Tree.override [] (sources file environment) =
      (fileTree (some .file) (fileEntries file)).override (environment.filterMap ofBinding) :=
    List.foldl_append
  rw [joined, FilterSettings.load, fileEntries]
  cases file.bind Toml.read? <;> rfl

theorem sources_in_section (file : Option String) (environment : List (String × String)) :
    (sources file environment).filter (fun named => InSection (spelled named.1)) =
      Setting.entriesOfToml (some .file) (ownEntries (fileEntries file)) ++
        (ownVariables environment).filterMap ofBinding := by
  have kept : ∀ binding, (ofBinding binding).filter (fun named => InSection (spelled named.1)) =
      if (variablePath? binding.1).any (fun path => InSection path) then ofBinding binding
      else none := by
    intro binding
    rcases of_binding_cases binding.1 binding.2 with ⟨unread, pathless⟩ | ⟨path, read, reads⟩
    · rw [unread, pathless]
      rfl
    · rw [read, reads]
      by_cases inside : InSection (spelled path)
      · simp [Option.filter, inside]
      · simp [Option.filter, inside]
  rw [sources, List.filter_append, entries_of_toml, entries_of_toml, List.filter_map, ownEntries,
    ownVariables, List.filter_filterMap, List.filterMap_filter, funext kept]
  rfl

theorem load_of_own (file otherFile : Option String)
    (environment otherEnvironment : List (String × String))
    (entries : ownEntries (fileEntries otherFile) = ownEntries (fileEntries file))
    (bindings : ownVariables otherEnvironment = ownVariables environment) :
    FilterSettings.load otherFile otherEnvironment = FilterSettings.load file environment := by
  have same : (Tree.override [] (sources otherFile otherEnvironment)).lookup sectionName =
      (Tree.override [] (sources file environment)).lookup sectionName := by
    rw [← Tree.override_alike (sources otherFile otherEnvironment) [] [] rfl,
      ← Tree.override_alike (sources file environment) [] [] rfl, sources_in_section,
      sources_in_section, entries, bindings]
  rw [load_of_sources, load_of_sources, ofTree, same, ofTree]

theorem load_of_effective (file : Option String) (environment : List (String × String))
    (orderly : Orderly (fileEntries file)) (harmless : ∀ binding ∈ environment, Harmless binding.1) :
    FilterSettings.load file environment =
      ofEntries (effective? file environment "wildcards") (effective? file environment "table_prefix")
        (effective? file environment "singular_table") := by
  have empty : Tree.Sectioned [] := fun found search => nomatch search
  have layered : ∀ key ∈ settingNames,
      (Tree.override [] (sources file environment)).Sectioned ∧
        (Tree.override [] (sources file environment)).setting? key =
          effective? file environment key := by
    intro key named
    obtain ⟨sectioned, fromFile⟩ := Tree.document_settings (fileEntries file) [] (some .file) key
      named orderly empty (fun _ => rfl)
    obtain ⟨kept, all⟩ := Tree.environment_settings environment
      (Tree.override [] (Setting.entriesOfToml (some .file) (fileEntries file))) key named harmless
      sectioned
    rw [sources, Tree.override, List.foldl_append]
    refine ⟨kept, all.trans ?_⟩
    rw [fromFile, effective?]
    exact congrArg _ Option.or_none
  rw [load_of_sources, Tree.of_tree_settings _ (layered "wildcards" (by decide)).1,
    (layered "wildcards" (by decide)).2, (layered "table_prefix" (by decide)).2,
    (layered "singular_table" (by decide)).2]

theorem of_entries_ok (wildcards tablePrefix singularTable : Option Setting)
    (wild : Bool) (pfx : String) (singular : Bool)
    (first : Setting.given Setting.toBool false wildcards = .ok wild)
    (second : Setting.given Setting.toText "" tablePrefix = .ok pfx)
    (third : Setting.given Setting.toBool false singularTable = .ok singular) :
    ofEntries wildcards tablePrefix singularTable = .ok ⟨wild, pfx, singular⟩ := by
  rw [ofEntries, first, second, third]
  rfl

theorem of_entries_fail (wildcards tablePrefix singularTable : Option Setting)
    (failure : SettingsError)
    (fails : Setting.given Setting.toBool false wildcards = .error failure ∨
      Setting.given Setting.toText "" tablePrefix = .error failure ∨
      Setting.given Setting.toBool false singularTable = .error failure) :
    ∃ reported, ofEntries wildcards tablePrefix singularTable = .error reported := by
  rw [ofEntries]
  cases first : Setting.given Setting.toBool false wildcards with
  | error reported => exact ⟨reported, rfl⟩
  | ok _ =>
      cases second : Setting.given Setting.toText "" tablePrefix with
      | error reported => exact ⟨reported, rfl⟩
      | ok _ =>
          cases third : Setting.given Setting.toBool false singularTable with
          | error reported => exact ⟨reported, rfl⟩
          | ok _ => simp [first, second, third] at fails

theorem message_begins (error : SettingsError) :
    ∃ detail, error.message = "deep filter configuration could not be loaded: " ++ detail := by
  have start : "deep filter configuration could not be loaded: invalid type: " =
      "deep filter configuration could not be loaded: " ++ "invalid type: " := by decide +kernel
  unfold SettingsError.message
  rw [start]
  simp only [String.append_assoc]
  exact ⟨_, rfl⟩

-- Which of several wrong values is reported is left open.
theorem settings_layered (file : Option String) (environment : List (String × String))
    (orderly : Orderly (fileEntries file)) (harmless : ∀ binding ∈ environment, Harmless binding.1) :
    let wildcards := Setting.given Setting.toBool false (effective? file environment "wildcards")
    let tablePrefix := Setting.given Setting.toText "" (effective? file environment "table_prefix")
    let singularTable :=
      Setting.given Setting.toBool false (effective? file environment "singular_table")
    let loaded := FilterSettings.load file environment
    (∀ wild pfx singular, wildcards = .ok wild → tablePrefix = .ok pfx →
      singularTable = .ok singular → loaded = .ok ⟨wild, pfx, singular⟩) ∧
    (∀ failure, wildcards = .error failure ∨ tablePrefix = .error failure ∨
        singularTable = .error failure →
      ∃ reported detail, loaded = .error reported ∧
        reported.message = "deep filter configuration could not be loaded: " ++ detail) ∧
    (∀ otherFile otherEnvironment, Forward otherFile otherEnvironment →
      ownEntries (fileEntries otherFile) = ownEntries (fileEntries file) →
      ownVariables otherEnvironment = ownVariables environment →
      (FilterSettings.load otherFile otherEnvironment).toOption = loaded.toOption) := by
  intro wildcards tablePrefix singularTable loaded
  have effective := load_of_effective file environment orderly harmless
  refine ⟨?_, ?_, fun otherFile otherEnvironment _ entries bindings => congrArg Except.toOption
    (load_of_own file otherFile environment otherEnvironment entries bindings)⟩
  · intro wild pfx singular first second third
    exact effective.trans (of_entries_ok _ _ _ wild pfx singular first second third)
  · intro failure fails
    obtain ⟨reported, failed⟩ := of_entries_fail _ _ _ failure fails
    obtain ⟨detail, message⟩ := message_begins reported
    exact ⟨reported, detail, effective.trans failed, message⟩

theorem ok_of_option {ε α : Type} (outcome : Except ε α) (a : α)
    (answers : outcome.toOption = some a) : outcome = .ok a := by
  cases outcome with
  | error failure => cases answers
  | ok b => rw [Option.some.inj answers]

def carelessFile : String := "[DeepFilter]\nwildcards = \"often\"\ntable_prefix = \"app_\"\n"

def carefulEnvironment : List (String × String) :=
  [("LANG", "C"), ("DeepGuard__DeepFilter__Wildcards", "On")]

-- The variable keeps the wrong value of the file from being looked at.
theorem variable_hides_wrong_value :
    Orderly (fileEntries (some carelessFile)) ∧
      (∀ binding ∈ carefulEnvironment, Harmless binding.1) ∧
      FilterSettings.load (some carelessFile) carefulEnvironment = .ok ⟨true, "app_", false⟩ := by
  have orderly : Orderly (fileEntries (some carelessFile)) :=
    orderly_of_plain _ (by decide +kernel)
  have harmless : ∀ binding ∈ carefulEnvironment, Harmless binding.1 := by
    have unread : variablePath? "LANG" = none := by decide +kernel
    have reads := setting_variable "DeepGuard__DeepFilter__Wildcards" "wildcards" (by decide)
      (by decide +kernel)
    intro binding listed
    cases listed with
    | head =>
        intro path same
        cases unread.symm.trans same
    | tail _ last =>
        obtain rfl := List.mem_singleton.mp last
        exact setting_harmless _ "wildcards" reads
  refine ⟨orderly, harmless, (settings_layered _ _ orderly harmless).1 true "app_" false ?_ ?_ ?_⟩
  · exact ok_of_option _ _ (by decide +kernel)
  · exact ok_of_option _ _ (by decide +kernel)
  · exact ok_of_option _ _ (by decide +kernel)

-- A bracket makes more of a name than it seems to say. No setting is named here, and yet one is set;
-- likewise by a key with a point in it, in a document without the section.
theorem bracket_sets_unnamed :
    let environment := [("DEEPGUARD__DEEPFILTER[0]", "true")]
    let document := "\"deepfilter.wildcards\" = true\n"
    (∀ key ∈ settingNames, (effective? none environment key).isNone) ∧
      variablePath? "DEEPGUARD__DEEPFILTER[0]" = some [.entry sectionName, .item 0] ∧
      FilterSettings.load none environment = .ok ⟨true, "", false⟩ ∧
      (fileEntries (some document)).map (·.1) = ["deepfilter.wildcards"] ∧
      FilterSettings.load (some document) [] = .ok ⟨true, "", false⟩ := by
  refine ⟨?_, ?_, ?_, ?_, ?_⟩
  · decide +kernel
  · decide +kernel
  · exact ok_of_option _ _ (by decide +kernel)
  · decide +kernel
  · exact ok_of_option _ _ (by decide +kernel)

end NestedFilter.Settings
