import FormRules.Main
import FormRules.Pattern.Spanning
import FormRules.Rule.Extra
import FormRules.StandIn
import FormRules.Proofs.Checking
import FormRules.Proofs.Description
import FormRules.Proofs.ByteOrder
import FormRules.Proofs.Trimming
import FormRules.Proofs.Joining
import FormRules.Proofs.Misconfiguration
import FormRules.Proofs.OrderedMap
import FormRules.Proofs.Verification
import FormRules.Proofs.Writing
import FormRules.Proofs.Conjunction
import FormRules.Proofs.Growth
import FormRules.Proofs.Legibility
import FormRules.Proofs.Range
import FormRules.Proofs.Summary
import FormRules.Proofs.WholeMatch
import FormRules.Proofs.PatternProgress
import FormRules.Proofs.EscapeGrammar
import FormRules.Proofs.MarkGrammar
import FormRules.Proofs.ClassGrammar
import FormRules.Proofs.Tidying
import FormRules.Proofs.Pointwise
import FormRules.Proofs.Persistence
import FormRules.Proofs.Loading
import FormRules.Proofs.Stages
import FormRules.Proofs.Outcome
import FormRules.Proofs.SetHistory
import FormRules.Proofs.Registration
import FormRules.Proofs.JsonText
import FormRules.Proofs.Printout
import FormRules.Proofs.JsonForms
import FormRules.Proofs.FormHistory
import FormRules.Proofs.DecimalValue
import FormRules.Proofs.NumeralText
import FormRules.Proofs.NumericKinds
import FormRules.Proofs.BoundOrder
import FormRules.Proofs.ShortestDecimal
import FormRules.Proofs.JsonNumber
import FormRules.Proofs.WrittenNumber
import FormRules.Proofs.RoundingError
import FormRules.Proofs.Rereading
import FormRules.Proofs.RereadingError
import FormRules.Proofs.RereadingRange
import FormRules.Proofs.JsonBounds
import FormRules.Proofs.NumberAgreement
import FormRules.Proofs.WholeNumbers
import FormRules.Proofs.LengthBounds
import FormRules.Proofs.Repetition
import FormRules.Proofs.PrintedBounds
import FormRules.Proofs.ReportViews
