import DocumentaryCredit.Cache
import DocumentaryCredit.Calendar
import DocumentaryCredit.Calendar.Layout
import DocumentaryCredit.CommandLine.Display
import DocumentaryCredit.CommandLine.Invocation
import DocumentaryCredit.CommandLine.Logging
import DocumentaryCredit.CommandLine.Run
import DocumentaryCredit.CommandLine.Settings
import DocumentaryCredit.Csv
import DocumentaryCredit.Decimal
import DocumentaryCredit.FileTree
import DocumentaryCredit.Format
import DocumentaryCredit.Format.Cache
import DocumentaryCredit.Format.Charset
import DocumentaryCredit.Format.Match
import DocumentaryCredit.Format.Mismatch
import DocumentaryCredit.Format.Specification
import DocumentaryCredit.Interchange.Format
import DocumentaryCredit.Interchange.Message
import DocumentaryCredit.Interchange.Presentation
import DocumentaryCredit.Interchange.Standards
import DocumentaryCredit.Json
import DocumentaryCredit.Json.Reader
import DocumentaryCredit.Json.Record
import DocumentaryCredit.Main
import DocumentaryCredit.Message.Field
import DocumentaryCredit.Message.Result
import DocumentaryCredit.Message.Schema
import DocumentaryCredit.Message.TextBlock
import DocumentaryCredit.Message.Validation
import DocumentaryCredit.Message.Validator
import DocumentaryCredit.Named
import DocumentaryCredit.Presentation.Comparison
import DocumentaryCredit.Presentation.Disagreement
import DocumentaryCredit.Presentation.Discrepancy
import DocumentaryCredit.Presentation.Document
import DocumentaryCredit.Presentation.Equivalence
import DocumentaryCredit.Presentation.Extraction
import DocumentaryCredit.Presentation.Report
import DocumentaryCredit.Presentation.Value
import DocumentaryCredit.Regex
import DocumentaryCredit.Regex.CharSet
import DocumentaryCredit.Regex.Reader
import DocumentaryCredit.Regex.Search
import DocumentaryCredit.Regex.Size
import DocumentaryCredit.Session
import DocumentaryCredit.Sha256
import DocumentaryCredit.Standards.Bundled
import DocumentaryCredit.Standards.Error
import DocumentaryCredit.Standards.Manifest
import DocumentaryCredit.Standards.RuleBook
import DocumentaryCredit.Standards.Shelf
import DocumentaryCredit.Standards.Tables
import DocumentaryCredit.Tabulated
import DocumentaryCredit.Text.Alphanumeric
import DocumentaryCredit.Text.Ascii
import DocumentaryCredit.Text.Blank
import DocumentaryCredit.Text.Printable
import DocumentaryCredit.Text.Uppercase
import DocumentaryCredit.Text.Utf8
import DocumentaryCredit.Text.Word
import DocumentaryCredit.TextMap
import DocumentaryCredit.Toml
import DocumentaryCredit.Toml.Quoted
import DocumentaryCredit.Toml.Scalar
import DocumentaryCredit.Toml.Statement
import DocumentaryCredit.Toml.Tree
import DocumentaryCredit.Proofs.Format.Decomposition
import DocumentaryCredit.Proofs.Format.Ends
import DocumentaryCredit.Proofs.Format.Search
import DocumentaryCredit.Proofs.Order
import DocumentaryCredit.Proofs.Presentation.Consistency
import DocumentaryCredit.Proofs.CommandLine.Comparison
import DocumentaryCredit.Proofs.Decimal
import DocumentaryCredit.Proofs.Message.Construction
import DocumentaryCredit.Proofs.Presentation.MessageAmount
import DocumentaryCredit.Proofs.Calendar
import DocumentaryCredit.Proofs.Presentation.MessageDate
import DocumentaryCredit.Proofs.Message.Validation
import DocumentaryCredit.Proofs.Arithmetic
import DocumentaryCredit.Proofs.Presentation.Pairs
import DocumentaryCredit.Proofs.Presentation.CreditAmount
import DocumentaryCredit.Proofs.Presentation.Bounds
import DocumentaryCredit.Proofs.Presentation.Independence
import DocumentaryCredit.Proofs.Presentation.Reordering
import DocumentaryCredit.Proofs.Presentation.Relaxation
import DocumentaryCredit.Proofs.Presentation.UnreadableDates
import DocumentaryCredit.Proofs.Format.Grammar
import DocumentaryCredit.Proofs.Standards.Tables
import DocumentaryCredit.Proofs.Standards.Loading
import DocumentaryCredit.Proofs.FileTree
import DocumentaryCredit.Proofs.Standards.Assembly
import DocumentaryCredit.Proofs.Standards.Sealing
import DocumentaryCredit.Proofs.Message.Answers
import DocumentaryCredit.Proofs.Office
import DocumentaryCredit.Proofs.Format.Sharing
import DocumentaryCredit.Proofs.Standards.Schemas
import DocumentaryCredit.Proofs.Message.Availability
import DocumentaryCredit.Proofs.Message.ReadableTags
import DocumentaryCredit.Proofs.Message.Folding
import DocumentaryCredit.Proofs.Message.Grammar
import DocumentaryCredit.Proofs.Message.Serialization
import DocumentaryCredit.Proofs.Presentation.Spellings
import DocumentaryCredit.Proofs.Csv
import DocumentaryCredit.Proofs.Sha256
import DocumentaryCredit.Proofs.Standards.TableFiles
import DocumentaryCredit.Proofs.CommandLine.Arguments
import DocumentaryCredit.Proofs.Standards.Bundled
import DocumentaryCredit.Proofs.CommandLine.Construction
import DocumentaryCredit.Proofs.Format.Compiled
import DocumentaryCredit.Proofs.Format.BlockText
import DocumentaryCredit.Proofs.Format.Furthest
import DocumentaryCredit.Proofs.Format.SingleLine
import DocumentaryCredit.Proofs.Message.AllowedValues
import DocumentaryCredit.Proofs.Format.WrittenForm
import DocumentaryCredit.Proofs.Presentation.AmountWritings
import DocumentaryCredit.Proofs.Calendar.Writings
import DocumentaryCredit.Proofs.Presentation.WrittenDates
import DocumentaryCredit.Proofs.Presentation.ToleranceFormat
import DocumentaryCredit.Proofs.Presentation.Orientation
import DocumentaryCredit.Proofs.Presentation.Numbering
import DocumentaryCredit.Proofs.Text.Words
import DocumentaryCredit.Proofs.Presentation.WordGroups
import DocumentaryCredit.Proofs.Presentation.Variants
import DocumentaryCredit.Proofs.Decimal.Readable
import DocumentaryCredit.Proofs.Presentation.MentionedNumbers
import DocumentaryCredit.Proofs.Standards.DateRules
import DocumentaryCredit.Proofs.Agreement
import DocumentaryCredit.Proofs.Standards.RearrangedTables
import DocumentaryCredit.Proofs.Standards.RearrangedBooks
import DocumentaryCredit.Proofs.Format.LineCount
import DocumentaryCredit.Proofs.Standards.MessageTypes
import DocumentaryCredit.Proofs.Presentation.Respelling
import DocumentaryCredit.Proofs.Format.FaultPlaces
