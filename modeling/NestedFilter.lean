import NestedFilter.Decimal.Double
import NestedFilter.Decimal.Reading
import NestedFilter.Decimal.Shortest
import NestedFilter.Declaration.Argument
import NestedFilter.Declaration.Describe
import NestedFilter.Declaration.Operator
import NestedFilter.Declaration.Token
import NestedFilter.Declaration.TypeExpr
import NestedFilter.Error
import NestedFilter.Filter.Compile
import NestedFilter.Filter.Partition
import NestedFilter.Filter.Plan
import NestedFilter.Filter.Scalar
import NestedFilter.Json.Printer
import NestedFilter.Json.Reader
import NestedFilter.Json.Value
import NestedFilter.Naming.Plural
import NestedFilter.Naming.Strategy
import NestedFilter.Proofs.Agreement
import NestedFilter.Proofs.BuilderCalls
import NestedFilter.Proofs.CacheLookup
import NestedFilter.Proofs.CacheSession
import NestedFilter.Proofs.Classification
import NestedFilter.Proofs.ClauseTests
import NestedFilter.Proofs.Collision
import NestedFilter.Proofs.ConditionTruth
import NestedFilter.Proofs.DeclaredEntity
import NestedFilter.Proofs.DeclaredFields
import NestedFilter.Proofs.DeclaredType
import NestedFilter.Proofs.Diagnosis
import NestedFilter.Proofs.Direct
import NestedFilter.Proofs.Entries
import NestedFilter.Proofs.ExactEquality
import NestedFilter.Proofs.Faithful
import NestedFilter.Proofs.FieldOrder
import NestedFilter.Proofs.FieldRoles
import NestedFilter.Proofs.History
import NestedFilter.Proofs.Inverse
import NestedFilter.Proofs.Isolation
import NestedFilter.Proofs.JunctionKeys
import NestedFilter.Proofs.KeySearch
import NestedFilter.Proofs.LazyReflection
import NestedFilter.Proofs.Level
import NestedFilter.Proofs.Meaning
import NestedFilter.Proofs.Outcome
import NestedFilter.Proofs.Placement
import NestedFilter.Proofs.Plan
import NestedFilter.Proofs.PlanEnd
import NestedFilter.Proofs.PluginDirect
import NestedFilter.Proofs.PluginErrors
import NestedFilter.Proofs.PluginQuery
import NestedFilter.Proofs.PluginRewrite
import NestedFilter.Proofs.Reach
import NestedFilter.Proofs.ReflectedNames
import NestedFilter.Proofs.Reflection
import NestedFilter.Proofs.RelatedFilter
import NestedFilter.Proofs.Restriction
import NestedFilter.Proofs.Rules
import NestedFilter.Proofs.Scalar
import NestedFilter.Proofs.SectionWrites
import NestedFilter.Proofs.SettingLayers
import NestedFilter.Proofs.SettingPaths
import NestedFilter.Proofs.Spelling
import NestedFilter.Proofs.SplitFilter
import NestedFilter.Proofs.StarPatterns
import NestedFilter.Proofs.Truth
import NestedFilter.Proofs.TypeLayers
import NestedFilter.Proofs.Visits
import NestedFilter.Proofs.WellFormed
import NestedFilter.Proofs.Wildcards
import NestedFilter.Query.Clause
import NestedFilter.Query.Plugin
import NestedFilter.Query.SelectQuery
import NestedFilter.Relation.Cache
import NestedFilter.Relation.Classify
import NestedFilter.Relation.Reflect
import NestedFilter.Schema.Entity
import NestedFilter.Schema.FieldType
import NestedFilter.Session
import NestedFilter.Settings.Filter
import NestedFilter.Settings.Path
import NestedFilter.Settings.Tree
import NestedFilter.Sql.Condition
import NestedFilter.Sql.Dialect
import NestedFilter.Sql.Predicate
import NestedFilter.Sql.Render
import NestedFilter.Sql.Select
import NestedFilter.Text.CharClass
import NestedFilter.Text.LetterCase
import NestedFilter.Text.Lowered
import NestedFilter.Text.Quoted
import NestedFilter.Text.SnakeCase
import NestedFilter.Toml.DateTable
import NestedFilter.Toml.Datetime
import NestedFilter.Toml.Number
import NestedFilter.Toml.Quoted
import NestedFilter.Toml.Reader
import NestedFilter.Toml.Scanner
import NestedFilter.Toml.Tree
import NestedFilter.Toml.Value
