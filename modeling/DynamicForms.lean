import DynamicForms.Command.Arguments
import DynamicForms.Command.Folder
import DynamicForms.Command.Plan
import DynamicForms.Command.Request
import DynamicForms.Dictionary
import DynamicForms.Forest.Basic
import DynamicForms.Forest.Build
import DynamicForms.Forest.Cycles
import DynamicForms.Forest.Inspection
import DynamicForms.Forest.Marks
import DynamicForms.Forest.Metrics
import DynamicForms.Json.Decode
import DynamicForms.Json.NumberText
import DynamicForms.Json.Outline
import DynamicForms.Json.Printer
import DynamicForms.Json.Value
import DynamicForms.Logic.Compare
import DynamicForms.Logic.Condition
import DynamicForms.Logic.Dependencies
import DynamicForms.Logic.States
import DynamicForms.Main
import DynamicForms.Number.Binary64
import DynamicForms.Number.Literal
import DynamicForms.Number.Shortest
import DynamicForms.Pattern.ClassReading
import DynamicForms.Pattern.Engine
import DynamicForms.Pattern.Escape
import DynamicForms.Pattern.Expression
import DynamicForms.Pattern.Matching
import DynamicForms.Pattern.Meaning
import DynamicForms.Pattern.Reading
import DynamicForms.Pattern.Syntax
import DynamicForms.Schema.Condition
import DynamicForms.Schema.Config
import DynamicForms.Schema.Field
import DynamicForms.Schema.File
import DynamicForms.Schema.Form
import DynamicForms.Schema.Kind
import DynamicForms.Schema.Problem
import DynamicForms.Schema.Reading
import DynamicForms.Schema.Record
import DynamicForms.Schema.Shape
import DynamicForms.Schema.Writing
import DynamicForms.Schema.YamlReading
import DynamicForms.Structure.Issue
import DynamicForms.Structure.Repair
import DynamicForms.Structure.Report
import DynamicForms.Text.Blank
import DynamicForms.Text.LowerCase
import DynamicForms.Text.Quoted
import DynamicForms.Time.Calendar
import DynamicForms.Time.Reading
import DynamicForms.Unicode.CaseOrbit
import DynamicForms.Unicode.Category
import DynamicForms.Unicode.CodePoints
import DynamicForms.Unicode.Property
import DynamicForms.Unicode.Script
import DynamicForms.Unicode.Table
import DynamicForms.Validation.Checking
import DynamicForms.Validation.Email
import DynamicForms.Validation.PatternCache
import DynamicForms.Validation.Registry
import DynamicForms.Validation.Rule
import DynamicForms.Validation.Verdict
import DynamicForms.Yaml.Cursor
import DynamicForms.Yaml.Decode
import DynamicForms.Yaml.Node
import DynamicForms.Yaml.Node.Reading
import DynamicForms.Yaml.Printer
import DynamicForms.Yaml.Scalar
import DynamicForms.Yaml.Token
import DynamicForms.Yaml.Token.Lexer
import DynamicForms.Yaml.Token.Property
import DynamicForms.Yaml.Token.Scalar
import DynamicForms.Proofs.Ascent
import DynamicForms.Proofs.Cycles
import DynamicForms.Proofs.Breaks
import DynamicForms.Proofs.Traversal
import DynamicForms.Proofs.Placement
import DynamicForms.Proofs.Declarations
import DynamicForms.Proofs.BuiltForest
import DynamicForms.Proofs.WellFormed
import DynamicForms.Proofs.Repairs
import DynamicForms.Proofs.Agreement
import DynamicForms.Proofs.Loops
import DynamicForms.Proofs.MappedFields
import DynamicForms.Proofs.RepairedForest
import DynamicForms.Proofs.Reparenting
import DynamicForms.Proofs.Dependents
import DynamicForms.Proofs.Reevaluation
import DynamicForms.Proofs.StandardRules
import DynamicForms.Proofs.Layouts
import DynamicForms.Proofs.Decoding
import DynamicForms.Proofs.RecordReading
import DynamicForms.Proofs.RoundTrip
import DynamicForms.Proofs.FieldByField
import DynamicForms.Proofs.RuleRuns
import DynamicForms.Proofs.Cascade
import DynamicForms.Proofs.RepairedReport
import DynamicForms.Proofs.FaultPolicies
import DynamicForms.Proofs.StandIns
import DynamicForms.Proofs.LocalRules
import DynamicForms.Proofs.OwnValues
import DynamicForms.Proofs.ModuleRules
import DynamicForms.Proofs.NamedTree
import DynamicForms.Proofs.SamePlaces
import DynamicForms.Proofs.LastDeclarations
import DynamicForms.Proofs.DeclarationOrder
import DynamicForms.Proofs.FileRepair
import DynamicForms.Proofs.BlankValues
import DynamicForms.Proofs.Occurrences
import DynamicForms.Proofs.TextOrder
import DynamicForms.Proofs.NearestNumbers
import DynamicForms.Proofs.WholeNumbers
import DynamicForms.Proofs.DisplayOrder
import DynamicForms.Proofs.Ancestors
import DynamicForms.Proofs.MovedSubtree
import DynamicForms.Proofs.NestingDepth
import DynamicForms.Proofs.FieldCounts
import DynamicForms.Proofs.Paths
import DynamicForms.Proofs.Decisions
import DynamicForms.Proofs.TellingWarnings
import DynamicForms.Proofs.Matching
import DynamicForms.Proofs.EmailAddresses
import DynamicForms.Proofs.CachedPatterns
import DynamicForms.Proofs.Triggers
import DynamicForms.Proofs.CycleSearch
