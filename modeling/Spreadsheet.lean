import Spreadsheet.Calendar.Numbering
import Spreadsheet.Cell.Json
import Spreadsheet.Criteria.Criterion
import Spreadsheet.Format.Styles
import Spreadsheet.Proofs.GlobLanguage
import Spreadsheet.Proofs.DecimalRounding
import Spreadsheet.Proofs.SignificantDigits
import Spreadsheet.Proofs.NumberLayout
import Spreadsheet.Proofs.Binary64Rounding
import Spreadsheet.Proofs.SerialRoundTrip
import Spreadsheet.Proofs.CriterionErrors
import Spreadsheet.Proofs.NumberCriteria
import Spreadsheet.Proofs.NumberGrammar
import Spreadsheet.Proofs.SerialOrder
import Spreadsheet.Proofs.DateRoundTrip
import Spreadsheet.Proofs.ShortYears
import Spreadsheet.Proofs.QuotedPatterns
import Spreadsheet.Proofs.IntegerCriteria
import Spreadsheet.Proofs.DateCriteria
import Spreadsheet.Proofs.NearestBinary64
import Spreadsheet.Proofs.NumeralRounding
import Spreadsheet.Proofs.NumberReading
import Spreadsheet.Proofs.FixedPoint
import Spreadsheet.Proofs.GeneralNotation
import Spreadsheet.Proofs.NormalForm
import Spreadsheet.Proofs.HalfAwayRounding
import Spreadsheet.Proofs.Int32Rounding
import Spreadsheet.Proofs.DecimalSurvival
import Spreadsheet.Proofs.SignificantRounding
import Spreadsheet.Proofs.BarePattern
import Spreadsheet.Proofs.ShownDigits
import Spreadsheet.Proofs.ScientificLayout
import Spreadsheet.Proofs.ScientificReading
import Spreadsheet.Proofs.DisplayReentry
import Spreadsheet.Proofs.SerialCells
import Spreadsheet.Proofs.OperatorResolution
import Spreadsheet.Proofs.OperatorCoherence
import Spreadsheet.Proofs.SerialIdentity
import Spreadsheet.Proofs.CaseContext
import Spreadsheet.Proofs.AffixPatterns
import Spreadsheet.Proofs.ExponentText
import Spreadsheet.Proofs.MinusShorthand
import Spreadsheet.Proofs.BareLiteral
import Spreadsheet.Proofs.StyleHistory
import Spreadsheet.Proofs.SectionLexemes
import Spreadsheet.Proofs.SectionSigns
import Spreadsheet.Proofs.NegativeSections
import Spreadsheet.Proofs.NearestFraction
import Spreadsheet.Proofs.FractionPatterns
import Spreadsheet.Proofs.FractionText
import Spreadsheet.Proofs.MixedNumbers
import Spreadsheet.Proofs.FractionDisplay
import Spreadsheet.Proofs.CellJson
import Spreadsheet.Proofs.SerialDecoding
import Spreadsheet.Proofs.SerialBounds
import Spreadsheet.Proofs.SerialDays
import Spreadsheet.Proofs.DurationText
import Spreadsheet.Proofs.TimesOfDay
import Spreadsheet.Proofs.TemplateParts
import Spreadsheet.Proofs.LiteralPatterns
import Spreadsheet.Proofs.LeastDuration
