import Assay.Chain
import Assay.Check
import Assay.Decimal
import Assay.Declaration
import Assay.Double.Basic
import Assay.Double.Rounding
import Assay.Double.Shortest
import Assay.Double.Whole
import Assay.Duplicates
import Assay.Email
import Assay.Entries
import Assay.Factory
import Assay.Json.Basic
import Assay.Json.Reader
import Assay.Json.Writer
import Assay.Kind
import Assay.Log
import Assay.Message
import Assay.Numeric
import Assay.Pattern.Basic
import Assay.Pattern.Charset
import Assay.Pattern.Cursor
import Assay.Pattern.Expression
import Assay.Pattern.PropertyName
import Assay.Regex
import Assay.Rule
import Assay.Scope
import Assay.Session
import Assay.Settings.Adjustment
import Assay.Settings.Basic
import Assay.Settings.Reader
import Assay.Text.Blank
import Assay.Text.Case
import Assay.Text.CaseTable
import Assay.Text.Category
import Assay.Text.Length
import Assay.Text.Occurrence
import Assay.Text.Property
import Assay.Text.Quoted
import Assay.Text.RangeTable
import Assay.Text.Script
import Assay.Trace
import Assay.Value.Basic
import Assay.Value.Display
import Assay.Value.Equality
import Assay.Value.Interchange
import Assay.Proofs.ExactOrder
import Assay.Proofs.Equality
import Assay.Proofs.Building
import Assay.Proofs.EvaluationTime
import Assay.Proofs.Histories
import Assay.Proofs.Indiscernible
import Assay.Proofs.ScopeLaw
import Assay.Proofs.PlainRules
import Assay.Proofs.RuleList
import Assay.Proofs.Isolation
import Assay.Proofs.Executions
import Assay.Proofs.DeferredRuns
import Assay.Proofs.EventLog
import Assay.Proofs.JsonProjection
import Assay.Proofs.KeyOrder
import Assay.Proofs.ObjectEntries
import Assay.Proofs.Matching
import Assay.Proofs.AsciiFolding
import Assay.Proofs.EmailGrammar
import Assay.Proofs.PlainAddresses
import Assay.Proofs.CaseTables
import Assay.Proofs.CaseMapping
import Assay.Proofs.SingleChecks
import Assay.Proofs.Normalisation
import Assay.Proofs.NumberChecks
import Assay.Proofs.Rounding
import Assay.Proofs.NearestDecimals
import Assay.Proofs.NearestDoubles
import Assay.Proofs.SizeChecks
import Assay.Proofs.IntegerConversions
import Assay.Proofs.PairScan
import Assay.Proofs.UniqueItems
import Assay.Proofs.Declarations
import Assay.Proofs.Wording
import Assay.Proofs.FirstFailure
import Assay.Proofs.PatternTexts
import Assay.Proofs.TextParts
import Assay.Proofs.LoweredAddresses
import Assay.Proofs.LengthModes
import Assay.Proofs.Emptiness
import Assay.Proofs.Variables
import Assay.Proofs.ShortestDecimals
import Assay.Proofs.DoubleTexts
import Assay.Proofs.Legibility
