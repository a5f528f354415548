import Wording.Calendar.Date
import Wording.Calendar.Duration
import Wording.Calendar.Instant
import Wording.Calendar.Reader
import Wording.Catalog
import Wording.Command.Outcome
import Wording.Command.Platform
import Wording.Command.Program
import Wording.Command.Request
import Wording.Command.Scan
import Wording.Configuration
import Wording.Console.Printout
import Wording.Console.ScanText
import Wording.Console.TermsText
import Wording.Export.Csv
import Wording.Export.Csv.Reader
import Wording.Export.Fault
import Wording.Export.Json
import Wording.Export.Json.Fields
import Wording.Export.Json.Reader
import Wording.Export.Json.Token
import Wording.Export.Kind
import Wording.Files.Disk
import Wording.Files.Path
import Wording.Files.Tree
import Wording.Finding
import Wording.Number.Binary
import Wording.Number.Decimal
import Wording.Number.Quantity
import Wording.Plain.Command.CommandLine
import Wording.Plain.Command.Switch
import Wording.Plain.Command.Usage
import Wording.Plain.Console.Emoji
import Wording.Plain.Console.EmojiNames
import Wording.Plain.Console.LineBreak
import Wording.Plain.Console.Markup
import Wording.Plain.Console.Style
import Wording.Plain.Console.Table
import Wording.Plain.Document.Cursor
import Wording.Plain.Document.Error
import Wording.Plain.Document.Graph
import Wording.Plain.Document.Merge
import Wording.Plain.Document.Plain
import Wording.Plain.Document.Read
import Wording.Plain.Document.Scalar
import Wording.Plain.Document.Structure
import Wording.Plain.Document.Token
import Wording.Plain.Document.Value
import Wording.Plain.Platform
import Wording.Plain.Similarity
import Wording.Plain.Width
import Wording.Plain.Width.Table
import Wording.Proofs.Attempt
import Wording.Proofs.Calendar.Days
import Wording.Proofs.Calendar.Duration
import Wording.Proofs.Calendar.Range
import Wording.Proofs.Calendar.Stamp
import Wording.Proofs.Calendar.TimeText
import Wording.Proofs.Catalog
import Wording.Proofs.Catalog.Extension
import Wording.Proofs.Catalog.Registration
import Wording.Proofs.Command.Display
import Wording.Proofs.Command.Fault
import Wording.Proofs.Command.Outcome
import Wording.Proofs.Command.Precedence
import Wording.Proofs.Configuration.Fault
import Wording.Proofs.Configuration.Load
import Wording.Proofs.Console.Markup
import Wording.Proofs.Export.Agreement
import Wording.Proofs.Export.Csv
import Wording.Proofs.Export.Details
import Wording.Proofs.Export.Json.Characters
import Wording.Proofs.Export.Json.Fields
import Wording.Proofs.Export.Json.Number
import Wording.Proofs.Export.Json.Report
import Wording.Proofs.Export.Json.Token
import Wording.Proofs.Export.Json.Value
import Wording.Proofs.Files.Route
import Wording.Proofs.Files.Walk
import Wording.Proofs.Finding.Column
import Wording.Proofs.Finding.Identifiers
import Wording.Proofs.Finding.Locate
import Wording.Proofs.Finding.Terms
import Wording.Proofs.Number.Percentage
import Wording.Proofs.Number.Ratio
import Wording.Proofs.Number.Rounding
import Wording.Proofs.Number.Shortest
import Wording.Proofs.Number.Value
import Wording.Proofs.Scan.Batch
import Wording.Proofs.Scan.ByLine
import Wording.Proofs.Scan.Cancellation
import Wording.Proofs.Scan.Content
import Wording.Proofs.Scan.Coverage
import Wording.Proofs.Scan.Disk
import Wording.Proofs.Scan.Identifiers
import Wording.Proofs.Scan.Kinds
import Wording.Proofs.Scan.LetterCase
import Wording.Proofs.Scan.Location
import Wording.Proofs.Scan.PlainText
import Wording.Proofs.Scan.Selection
import Wording.Proofs.Scan.Session
import Wording.Proofs.Scan.Terms
import Wording.Proofs.Settings.Ids
import Wording.Proofs.Settings.Kinds
import Wording.Proofs.Settings.Layer
import Wording.Proofs.Settings.Proposal
import Wording.Proofs.Settings.Terms
import Wording.Proofs.StableSort
import Wording.Proofs.Text.Blank
import Wording.Proofs.Text.Casing
import Wording.Proofs.Text.Digits
import Wording.Proofs.Text.FirstSeen
import Wording.Proofs.Text.Integer
import Wording.Proofs.Text.Lines
import Wording.Proofs.Text.Lowercase
import Wording.Proofs.Text.Order
import Wording.Proofs.Text.Search
import Wording.Proofs.Text.SmallForm
import Wording.Proofs.Text.Utf8
import Wording.Proofs.Tokens.Annotation
import Wording.Proofs.Tokens.Comment
import Wording.Proofs.Tokens.Division
import Wording.Proofs.Tokens.JavaScript
import Wording.Proofs.Tokens.Joined
import Wording.Proofs.Tokens.LineComments
import Wording.Proofs.Tokens.LineEnd
import Wording.Proofs.Tokens.Literal
import Wording.Proofs.Tokens.Name
import Wording.Proofs.Tokens.Occurrence
import Wording.Proofs.Tokens.Passes
import Wording.Proofs.Tokens.Pattern
import Wording.Proofs.Tokens.Python
import Wording.Proofs.Tokens.Python.Names
import Wording.Proofs.Tokens.Python.Strings
import Wording.Proofs.Tokens.Quotation
import Wording.Proofs.Tokens.Stripping
import Wording.Proofs.Tokens.TypeScript
import Wording.Proofs.Tokens.TypeScript.Names
import Wording.Proofs.Tokens.WordGaps
import Wording.Proofs.Tokens.Words
import Wording.Proofs.Value.Reach
import Wording.Scan.Report
import Wording.Scan.Scanner
import Wording.Scan.Selection
import Wording.Scan.Session
import Wording.Scan.Source
import Wording.Settings.Basic
import Wording.Settings.Builtin
import Wording.Settings.Error
import Wording.Settings.Layer
import Wording.Settings.Proposal
import Wording.Term
import Wording.Text.Basic
import Wording.Text.Blank
import Wording.Text.CodePoints
import Wording.Text.Digit
import Wording.Text.Integer
import Wording.Text.Lowercase
import Wording.Text.Lowercase.Table
import Wording.Text.Printable
import Wording.Text.Quoted
import Wording.Text.Spans
import Wording.Text.Utf8
import Wording.Text.WordChar
import Wording.Tokens.Basic
import Wording.Tokens.Comment
import Wording.Tokens.JavaScript
import Wording.Tokens.Literal
import Wording.Tokens.Name
import Wording.Tokens.Pattern
import Wording.Tokens.Python
import Wording.Tokens.TypeScript
import Wording.Value.Basic
import Wording.Value.Moment
