import ProviderCoverage.AcceptanceTest
import ProviderCoverage.Analysis.Basic
import ProviderCoverage.Analysis.Run
import ProviderCoverage.Block
import ProviderCoverage.CommandLine
import ProviderCoverage.Coverage
import ProviderCoverage.Digest.Blake3
import ProviderCoverage.Discovery.Attributes
import ProviderCoverage.Discovery.Extraction
import ProviderCoverage.Discovery.State
import ProviderCoverage.Discovery.Strategies
import ProviderCoverage.Duration
import ProviderCoverage.EditDistance
import ProviderCoverage.Entity
import ProviderCoverage.Files.Folder
import ProviderCoverage.Files.IgnoreRule
import ProviderCoverage.Files.Walk
import ProviderCoverage.Finding
import ProviderCoverage.Findings
import ProviderCoverage.Glob.Basic
import ProviderCoverage.Glob.Syntax
import ProviderCoverage.Go.Expression
import ProviderCoverage.Go.Grammar.Declarations
import ProviderCoverage.Go.Grammar.Expressions
import ProviderCoverage.Go.Grammar.Reader
import ProviderCoverage.Go.Grammar.Statements
import ProviderCoverage.Go.Grammar.Types
import ProviderCoverage.Go.Lexeme
import ProviderCoverage.Go.Node
import ProviderCoverage.Go.SourceFile
import ProviderCoverage.Go.StringLiteral
import ProviderCoverage.Go.Syntax
import ProviderCoverage.Go.Token
import ProviderCoverage.Linker
import ProviderCoverage.Main
import ProviderCoverage.Naming
import ProviderCoverage.Number.Binary64
import ProviderCoverage.Number.Decimal
import ProviderCoverage.Number.Numeral
import ProviderCoverage.Pattern.Basic
import ProviderCoverage.Pattern.Syntax
import ProviderCoverage.Proofs.Lists
import ProviderCoverage.Registry.Basic
import ProviderCoverage.Registry.Build
import ProviderCoverage.Registry.History
import ProviderCoverage.Report.Format
import ProviderCoverage.Report.Structured
import ProviderCoverage.Report.Terminal
import ProviderCoverage.Session.Cache
import ProviderCoverage.Session.Callers
import ProviderCoverage.Session.Sequence
import ProviderCoverage.Settings.Basic
import ProviderCoverage.Settings.Error
import ProviderCoverage.Settings.FileFilter
import ProviderCoverage.Settings.Load
import ProviderCoverage.Settings.OfYaml
import ProviderCoverage.Settings.Overrides
import ProviderCoverage.Settings.Validation
import ProviderCoverage.Similarity
import ProviderCoverage.Sources
import ProviderCoverage.TestFile.Category
import ProviderCoverage.TestFile.Harness
import ProviderCoverage.TestFile.Steps
import ProviderCoverage.TestFile.Tests
import ProviderCoverage.Text.Cut
import ProviderCoverage.Text.JsonValue
import ProviderCoverage.Text.NameSet
import ProviderCoverage.Text.Quoted
import ProviderCoverage.Text.Styled
import ProviderCoverage.Unicode.Case
import ProviderCoverage.Unicode.Class
import ProviderCoverage.Unicode.Span
import ProviderCoverage.Yaml.Cursor
import ProviderCoverage.Yaml.Node
import ProviderCoverage.Yaml.Scalar
import ProviderCoverage.Proofs.Analysis.Conservation
import ProviderCoverage.Proofs.Discovery.Index
import ProviderCoverage.Proofs.Discovery.Standing
import ProviderCoverage.Proofs.Discovery.AuthoritativeNames
import ProviderCoverage.Proofs.Discovery.Receivers
import ProviderCoverage.Proofs.Naming.SnakeCase
import ProviderCoverage.Proofs.Registry.Associations
import ProviderCoverage.Proofs.Findings.Agreement
import ProviderCoverage.Proofs.Findings.Reviews
import ProviderCoverage.Proofs.Findings.Severity
import ProviderCoverage.Proofs.Glob.Remainders
import ProviderCoverage.Proofs.Registry.KeyOrder
import ProviderCoverage.Proofs.Registry.Built
import ProviderCoverage.Proofs.Registry.FileOrder
import ProviderCoverage.Proofs.Registry.Growth
import ProviderCoverage.Proofs.Registry.Interleaving
import ProviderCoverage.Proofs.Registry.Unmatched
import ProviderCoverage.Proofs.Linker.Precedence
import ProviderCoverage.Proofs.Linker.AdvisedTest
import ProviderCoverage.Proofs.Linker.ProviderPrefix
import ProviderCoverage.Proofs.Linker.MoreEntities
import ProviderCoverage.Proofs.Linker.Settled
import ProviderCoverage.Proofs.Linker.KindHints
import ProviderCoverage.Proofs.Linker.ExactNames
import ProviderCoverage.Proofs.Linker.FileConventions
import ProviderCoverage.Proofs.Linker.SimilarNames
import ProviderCoverage.Proofs.Session.Moves
import ProviderCoverage.Proofs.Session.SingleFlight
import ProviderCoverage.Proofs.Session.Failures
import ProviderCoverage.Proofs.Session.Refinement
import ProviderCoverage.Proofs.Settings.Validation
import ProviderCoverage.Proofs.Similarity.Best
import ProviderCoverage.Proofs.Similarity.Scores
import ProviderCoverage.Proofs.TestFile.WalkedCases
import ProviderCoverage.Proofs.TestFile.StepLists
import ProviderCoverage.Proofs.Coverage.Updates
import ProviderCoverage.Proofs.Linker.FunctionSuffixes
import ProviderCoverage.Proofs.Discovery.Renaming
import ProviderCoverage.Proofs.Discovery.FactoryNames
import ProviderCoverage.Proofs.Text.Parts
import ProviderCoverage.Proofs.Blocks.Occurrences
import ProviderCoverage.Proofs.Settings.Durations
import ProviderCoverage.Proofs.TestFile.CalledFunctions
import ProviderCoverage.Proofs.Text.WhiteSpace
import ProviderCoverage.Proofs.TestFile.Reformatting
import ProviderCoverage.Proofs.Similarity.Edits
import ProviderCoverage.Proofs.Findings.MoreTests
import ProviderCoverage.Proofs.Glob.Wildcards
import ProviderCoverage.Proofs.Settings.TestFileStems
import ProviderCoverage.Proofs.Analysis.FreshSession
import ProviderCoverage.Proofs.Similarity.Winners
import ProviderCoverage.Proofs.Coverage.Totals
import ProviderCoverage.Proofs.Naming.RoundTrip
import ProviderCoverage.Proofs.Naming.Underscores
import ProviderCoverage.Proofs.Go.StringLiterals
