import NestedFilter.Settings.Tree
import NestedFilter.Toml.Reader
import NestedFilter.Text.Quoted
import NestedFilter.Naming.Strategy
import NestedFilter.Filter.Compile

/-!
The settings of deep filters: the `deepfilter` section of a TOML document, with environment
variables over those of the document.
-/

set_option autoImplicit false

namespace NestedFilter

open Settings (Origin Scalar Setting Tree)

structure FilterSettings where
  wildcards : Bool := false
  tablePrefix : String := ""
  singularTable : Bool := false
deriving DecidableEq, Repr

namespace FilterSettings

def options (settings : FilterSettings) : FilterOptions := ⟨settings.wildcards⟩

def naming (settings : FilterSettings) : SnakeCaseNaming :=
  ⟨settings.tablePrefix, settings.singularTable⟩

end FilterSettings

inductive Expectation where
  | boolean
  | text
  | section

def Expectation.phrase : Expectation → String
  | .boolean => "a boolean"
  | .text => "a string"
  | .section => "struct DeepFilterConfig"

structure SettingsError where
  found : String
  expected : Expectation
  origin : Option Origin := none

namespace SettingsError

def sectionName : String := "deepfilter"

def originText : Origin → String
  | .file => "config/config.toml"
  | .environment => "the environment"

/-- A wrong value inside the section is located, a wrong section is not. -/
def location (error : SettingsError) : String :=
  match error.expected with
  | .section => ""
  | _ =>
      s!" for key `{sectionName}`" ++
        match error.origin with
        | some origin => " in " ++ originText origin
        | none => ""

def message (error : SettingsError) : String :=
  "deep filter configuration could not be loaded: invalid type: " ++ error.found ++
    ", expected " ++ error.expected.phrase ++ error.location

end SettingsError

namespace Settings

def withPoint (text : String) : String := if text.toList.contains '.' then text else text ++ ".0"

def floatPhrase (value : Toml.FloatValue) : String :=
  match value with
  | .finite _ => withPoint value.text
  | _ => value.text

def Scalar.phrase : Scalar → String
  | .boolean value => s!"boolean `{value}`"
  | .integer value => s!"integer `{value}`"
  | .float value => s!"floating point `{floatPhrase value}`"
  | .text value => s!"string {Text.quoted value}"

namespace Setting

def unsetPhrase : String := "unit value"

def truth? (word : String) : Option Bool :=
  if ["1", "true", "on", "yes"].contains word then some true
  else if ["0", "false", "off", "no"].contains word then some false
  else none

def toBool : Setting → Except SettingsError Bool
  | .unset => .error ⟨unsetPhrase, .boolean, none⟩
  | .scalar _ (.boolean value) => .ok value
  | .scalar _ (.integer value) => .ok (value != 0)
  | .scalar _ (.float value) => .ok (!value.isZero)
  | .scalar origin (.text value) =>
      let word := Text.lowered value
      match truth? word with
      | some value => .ok value
      | none => .error ⟨Scalar.phrase (.text word), .boolean, origin⟩
  | .sequence origin _ => .error ⟨"sequence", .boolean, origin⟩
  | .table origin _ => .error ⟨"map", .boolean, origin⟩

def toText : Setting → Except SettingsError String
  | .unset => .error ⟨unsetPhrase, .text, none⟩
  | .scalar _ (.boolean value) => .ok (toString value)
  | .scalar _ (.integer value) => .ok (toString value)
  | .scalar _ (.float value) => .ok value.text
  | .scalar _ (.text value) => .ok value
  | .sequence origin _ => .error ⟨"sequence", .text, origin⟩
  | .table origin _ => .error ⟨"map", .text, origin⟩

def given {α : Type} (convert : Setting → Except SettingsError α) (default : α) :
    Option Setting → Except SettingsError α
  | none => .ok default
  | some setting => convert setting

end Setting

def ofEntries (wildcards tablePrefix singularTable : Option Setting) :
    Except SettingsError FilterSettings := do
  pure {
    wildcards := ← Setting.given Setting.toBool false wildcards
    tablePrefix := ← Setting.given Setting.toText "" tablePrefix
    singularTable := ← Setting.given Setting.toBool false singularTable }

def ofSection : Setting → Except SettingsError FilterSettings
  | .unset => .error ⟨Setting.unsetPhrase, .section, none⟩
  | .table _ entries =>
      let entry (name : String) := entries.lookup name
      ofEntries (entry "wildcards") (entry "table_prefix") (entry "singular_table")
  | .sequence _ items => ofEntries items[0]? items[1]? items[2]?
  | .scalar _ value => .error ⟨value.phrase, .section, none⟩

def ofTree (tree : Tree) : Except SettingsError FilterSettings :=
  match tree.lookup SettingsError.sectionName with
  | some found => ofSection found
  | none => .ok {}

def fileTree (origin : Option Origin) (document : List (String × Toml.Value)) : Tree :=
  Tree.override [] (Setting.entriesOfToml origin document)

def variableStart : List Char := "deepguard__".toList

def pointed : List Char → List Char
  | '_' :: '_' :: rest => '.' :: pointed rest
  | c :: rest => c :: pointed rest
  | [] => []

def ofBinding (binding : String × String) : Option (String × Setting) :=
  let name := (Text.lowered binding.1).toList
  if variableStart.isPrefixOf name then
    let path := String.ofList (pointed (name.drop variableStart.length))
    some (path, .scalar (some .environment) (.text binding.2))
  else none

end Settings

namespace FilterSettings

/-- Settings of a TOML document; the inner result tells a document that cannot be read. -/
def ofToml? (source : String) : Option (Except SettingsError FilterSettings) :=
  (Toml.read? source).map fun document => Settings.ofTree (Settings.fileTree none document)

def load (file : Option String) (environment : List (String × String)) :
    Except SettingsError FilterSettings :=
  let fromFile :=
    match file.bind Toml.read? with
    | some document => Settings.fileTree (some .file) document
    | none => []
  Settings.ofTree (fromFile.override (environment.filterMap Settings.ofBinding))

end FilterSettings

end NestedFilter
