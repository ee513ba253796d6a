import FluentBuilders.Batch.Pass
import FluentBuilders.Batch.Report
import FluentBuilders.Builder.Emission
import FluentBuilders.Builder.Plan
import FluentBuilders.Builder.Synthesis
import FluentBuilders.Catalogue
import FluentBuilders.Category
import FluentBuilders.Class.Basic
import FluentBuilders.Class.Eligibility
import FluentBuilders.Class.Reading
import FluentBuilders.Class.Rejection
import FluentBuilders.Code.Acceptance
import FluentBuilders.Code.Ahead
import FluentBuilders.Code.Grammar
import FluentBuilders.Code.Idiom
import FluentBuilders.Code.Kind
import FluentBuilders.Code.Layout
import FluentBuilders.Code.Literal
import FluentBuilders.Code.Operator
import FluentBuilders.Code.PathText
import FluentBuilders.Code.Refusal
import FluentBuilders.Code.Reserved
import FluentBuilders.Code.Source
import FluentBuilders.Code.Spelling
import FluentBuilders.Code.Token
import FluentBuilders.Code.TokenLayout
import FluentBuilders.Code.TokenList
import FluentBuilders.Code.TokenText
import FluentBuilders.Code.Tree
import FluentBuilders.Command.Arguments
import FluentBuilders.Command.Generate
import FluentBuilders.Command.Help
import FluentBuilders.Command.Input
import FluentBuilders.Command.Invocation
import FluentBuilders.Command.List
import FluentBuilders.Command.Option
import FluentBuilders.Command.Run
import FluentBuilders.Descriptor.Basic
import FluentBuilders.Descriptor.Printer
import FluentBuilders.Descriptor.Reader
import FluentBuilders.Generation.Header
import FluentBuilders.Generation.Output
import FluentBuilders.Json.Fault
import FluentBuilders.Json.Reading
import FluentBuilders.Json.Scanner
import FluentBuilders.Json.Tree
import FluentBuilders.Json.Value
import FluentBuilders.Layout.Doc
import FluentBuilders.Main
import FluentBuilders.Name.Grammar
import FluentBuilders.Name.Member
import FluentBuilders.Number.Binary64
import FluentBuilders.Number.Shortest
import FluentBuilders.Proofs.Batch.Accounts
import FluentBuilders.Proofs.Batch.Admission
import FluentBuilders.Proofs.Batch.Attribution
import FluentBuilders.Proofs.Batch.Canonical
import FluentBuilders.Proofs.Batch.Collisions
import FluentBuilders.Proofs.Batch.Denotation
import FluentBuilders.Proofs.Batch.Intake
import FluentBuilders.Proofs.Batch.Missing
import FluentBuilders.Proofs.Batch.Names
import FluentBuilders.Proofs.Batch.Order
import FluentBuilders.Proofs.Batch.Processing
import FluentBuilders.Proofs.Batch.References
import FluentBuilders.Proofs.Batch.Report
import FluentBuilders.Proofs.Batch.Rounds
import FluentBuilders.Proofs.Batch.Settling
import FluentBuilders.Proofs.Builder.Closure
import FluentBuilders.Proofs.Builder.Consistency
import FluentBuilders.Proofs.Builder.Containers
import FluentBuilders.Proofs.Builder.Drafting
import FluentBuilders.Proofs.Builder.Emission
import FluentBuilders.Proofs.Builder.Members
import FluentBuilders.Proofs.Catalogue.Declarations
import FluentBuilders.Proofs.Catalogue.Order
import FluentBuilders.Proofs.Catalogue.Paths
import FluentBuilders.Proofs.Catalogue.Resolution
import FluentBuilders.Proofs.Catalogue.Shadowing
import FluentBuilders.Proofs.Category.Collections
import FluentBuilders.Proofs.Category.Rules
import FluentBuilders.Proofs.Class.Names
import FluentBuilders.Proofs.Class.Reading
import FluentBuilders.Proofs.Code.PathGrammar
import FluentBuilders.Proofs.Code.PathText
import FluentBuilders.Proofs.Code.PrintedTypes
import FluentBuilders.Proofs.Code.Respelling
import FluentBuilders.Proofs.Code.Segments
import FluentBuilders.Proofs.Code.Spelling
import FluentBuilders.Proofs.Code.Words
import FluentBuilders.Proofs.Command.Generating
import FluentBuilders.Proofs.Descriptor.Forms
import FluentBuilders.Proofs.Descriptor.Loading
import FluentBuilders.Proofs.Generation.Files
import FluentBuilders.Proofs.Generation.Names
import FluentBuilders.Proofs.Generation.Remarks
import FluentBuilders.Proofs.Generation.Spelling
import FluentBuilders.Proofs.Generation.SupportSet
import FluentBuilders.Proofs.Json.Cursor
import FluentBuilders.Proofs.Json.Holding
import FluentBuilders.Proofs.Json.Numbers
import FluentBuilders.Proofs.Json.Printing
import FluentBuilders.Proofs.Json.Reading
import FluentBuilders.Proofs.Json.Scanning
import FluentBuilders.Proofs.Json.Soundness
import FluentBuilders.Proofs.Json.Source
import FluentBuilders.Proofs.Json.Strings
import FluentBuilders.Proofs.Lookup
import FluentBuilders.Proofs.Name.Paths
import FluentBuilders.Proofs.Name.Pattern
import FluentBuilders.Proofs.Name.Segments
import FluentBuilders.Proofs.Name.Words
import FluentBuilders.Proofs.Outcome
import FluentBuilders.Proofs.Sample.Meaning
import FluentBuilders.Proofs.Support.Collector
import FluentBuilders.Proofs.Support.Slot
import FluentBuilders.Proofs.Text.Utf8
import FluentBuilders.Sample.Address
import FluentBuilders.Sample.Labeled
import FluentBuilders.Sample.Person
import FluentBuilders.Sample.Team
import FluentBuilders.Support.BuildError
import FluentBuilders.Support.Collector
import FluentBuilders.Support.Slot
import FluentBuilders.Terminal.Color
import FluentBuilders.Terminal.Palette
import FluentBuilders.Terminal.Table
import FluentBuilders.Terminal.Wrap
import FluentBuilders.Text.Blank
import FluentBuilders.Text.Case
import FluentBuilders.Text.CaseTable
import FluentBuilders.Text.Cluster
import FluentBuilders.Text.ClusterTable
import FluentBuilders.Text.Column
import FluentBuilders.Text.ColumnTable
import FluentBuilders.Text.Letter
import FluentBuilders.Text.LetterTable
import FluentBuilders.Text.PrintTable
import FluentBuilders.Text.Quoted
import FluentBuilders.Text.Span
import FluentBuilders.Text.Utf8
import FluentBuilders.Text.Word
import FluentBuilders.Text.WordTable
import FluentBuilders.TypeRef
