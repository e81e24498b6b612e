import NestedFilter.Relation.Cache

/-!
Sessions: computations that share a relation cache and keep a journal of what they have to report.
What they do to both stands also when they fail. The journal has no effect on their answers.
-/

set_option autoImplicit false

namespace NestedFilter

inductive Severity where
  | trace
  | debug
  | warn
deriving DecidableEq, Repr

structure LogRecord where
  severity : Severity
  text : String
deriving DecidableEq, Repr

abbrev Journal := List LogRecord

def Severity.label : Severity → String
  | .trace => "TRACE"
  | .debug => "DEBUG"
  | .warn => "WARN"

def LogRecord.line (record : LogRecord) : String := record.severity.label ++ " " ++ record.text

def fieldRecords (registry : Registry) (naming : NamingStrategy) (schema : EntitySchema)
    (seen : List String) : List FieldDef → Journal
  | [] => []
  | field :: rest =>
      let label := schema.name ++ "." ++ field.name
      match fieldRole registry naming schema field with
      | .column => fieldRecords registry naming schema seen rest
      | .skipped reason =>
          ⟨.trace, s!"skipping field {label}: {reason.message}"⟩ ::
            fieldRecords registry naming schema seen rest
      | .relation relation =>
          let record : LogRecord :=
            ⟨.trace, s!"{label} is a {relation.kind.label} relation to {relation.related.name}"⟩
          let column := naming.column schema field
          if seen.contains column then [record]
          else record :: fieldRecords registry naming schema (column :: seen) rest

def reflectionRecords (registry : Registry) (naming : NamingStrategy) (schema : EntitySchema) :
    Journal :=
  fieldRecords registry naming schema [] schema.fields ++
    match reflect registry naming schema with
    | .ok found =>
        let columns := found.columns.length
        let relations := found.relations.length
        [⟨.debug, s!"reflected {schema.name}: {columns} column(s), {relations} relation(s)"⟩]
    | .error _ => []

def RelationCache.fetchRecords (registry : Registry) (naming : NamingStrategy)
    (schema : EntitySchema) (cache : RelationCache) : Journal :=
  match cache.find? (key naming schema) with
  | some _ => [⟨.trace, "relation cache hit for " ++ schema.name⟩]
  | none => reflectionRecords registry naming schema

structure Session where
  cache : RelationCache := .empty
  journal : Journal := []
  /-- The choice of each reflection, by its number, among the columns that it may report. -/
  choices : Nat → Nat := fun _ => 0

abbrev SessionM := StateM Session

abbrev FilterM := ExceptT FilterError SessionM

namespace Session

def log (severity : Severity) (text : String) : SessionM Unit :=
  modify fun session => { session with journal := session.journal ++ [⟨severity, text⟩] }

def relations (registry : Registry) (naming : NamingStrategy) (schema : EntitySchema) :
    FilterM EntityRelations :=
  ExceptT.mk fun session =>
    let (found, cache) := session.cache.fetch registry naming schema
    let records := session.cache.fetchRecords registry naming schema
    (found.mapError (·.report (session.choices cache.reflections)),
      { session with cache := cache, journal := session.journal ++ records })

def resetCache : SessionM Unit := do
  modify fun session => { session with cache := session.cache.reset }
  log .debug "relation cache reset"

end Session

end NestedFilter
