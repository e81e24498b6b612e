import NestedFilter.Naming.Plural
import NestedFilter.Text.SnakeCase
import NestedFilter.Schema.Entity

/-!
Naming strategies: how declared names of entities and fields become names of tables and columns.
A schema's own table and column names come before the strategy.
-/

set_option autoImplicit false

namespace NestedFilter

open Text (snakeCase)

structure NamingStrategy where
  tableName (entity : String) : String
  columnName (table field : String) : String
  joinTableName (name : String) : String := snakeCase name
  foreignKeyName (entity : String) : String := snakeCase entity ++ "_id"
  /-- Tells strategies apart that can name the same entity differently. -/
  fingerprint : String

structure SnakeCaseNaming where
  tablePrefix : String := ""
  singularTable : Bool := false
deriving DecidableEq, Repr

namespace SnakeCaseNaming

def tableName (naming : SnakeCaseNaming) (entity : String) : String :=
  naming.tablePrefix ++
    (if naming.singularTable then snakeCase entity else Naming.pluralize (snakeCase entity))

def fingerprint (naming : SnakeCaseNaming) : String :=
  "snake_case:" ++ naming.tablePrefix ++ ":" ++ (if naming.singularTable then "true" else "false")

def strategy (naming : SnakeCaseNaming) : NamingStrategy where
  tableName := naming.tableName
  columnName _ field := snakeCase field
  joinTableName name := naming.tablePrefix ++ snakeCase name
  fingerprint := naming.fingerprint

end SnakeCaseNaming

namespace NamingStrategy

def table (naming : NamingStrategy) (schema : EntitySchema) : String :=
  schema.tableName.getD (naming.tableName schema.name)

def column (naming : NamingStrategy) (schema : EntitySchema) (field : FieldDef) : String :=
  field.columnName.getD (naming.columnName (naming.table schema) field.name)

/-- The first declared field that a key names, exactly or up to snake case. -/
def keyField? (schema : EntitySchema) (key : String) : Option FieldDef :=
  schema.fields.find? (fun field => field.name == key || snakeCase field.name == snakeCase key)

def keyColumn (naming : NamingStrategy) (schema : EntitySchema) (key : String) : String :=
  match keyField? schema key with
  | some field => naming.column schema field
  | none => naming.columnName (naming.table schema) key

def primaryKey (naming : NamingStrategy) (schema : EntitySchema) : String :=
  match schema.primaryKeyField? with
  | some field => naming.column schema field
  | none => naming.columnName (naming.table schema) "id"

end NamingStrategy

end NestedFilter
