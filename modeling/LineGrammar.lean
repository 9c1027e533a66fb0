import LineGrammar.Binary64.Basic
import LineGrammar.Binary64.Shortest
import LineGrammar.Component.Basic
import LineGrammar.Component.Build
import LineGrammar.Component.Same
import LineGrammar.Container
import LineGrammar.Cursor
import LineGrammar.Datum.Basic
import LineGrammar.Datum.Display
import LineGrammar.Datum.Moment
import LineGrammar.Demo
import LineGrammar.Document.Catalogue
import LineGrammar.Document.Decode
import LineGrammar.Document.Encode
import LineGrammar.Document.Text
import LineGrammar.Error
import LineGrammar.Grammar.Branch
import LineGrammar.Grammar.DefaultLine
import LineGrammar.Grammar.Definition
import LineGrammar.Grammar.Obstacle
import LineGrammar.Grammar.Report
import LineGrammar.Grammar.ReportText
import LineGrammar.Json.Reader
import LineGrammar.Json.Writer
import LineGrammar.Main
import LineGrammar.Manifold
import LineGrammar.Manual.Placeholder
import LineGrammar.Manual.Text
import LineGrammar.Number
import LineGrammar.Proofs.Absent
import LineGrammar.Proofs.Anchor
import LineGrammar.Proofs.BranchLine
import LineGrammar.Proofs.Built
import LineGrammar.Proofs.Catalogue
import LineGrammar.Proofs.Completeness
import LineGrammar.Proofs.Conservation
import LineGrammar.Proofs.Cut
import LineGrammar.Proofs.Decoded
import LineGrammar.Proofs.Dependencies
import LineGrammar.Proofs.Encoded
import LineGrammar.Proofs.Enumeration
import LineGrammar.Proofs.Escape
import LineGrammar.Proofs.Groups
import LineGrammar.Proofs.Guarded
import LineGrammar.Proofs.Inside
import LineGrammar.Proofs.Label
import LineGrammar.Proofs.Leading
import LineGrammar.Proofs.Lengths
import LineGrammar.Proofs.Literals
import LineGrammar.Proofs.Pointing
import LineGrammar.Proofs.Readback
import LineGrammar.Proofs.Registered
import LineGrammar.Proofs.RoundTrip
import LineGrammar.Proofs.Rounding
import LineGrammar.Proofs.Route
import LineGrammar.Proofs.Rows
import LineGrammar.Proofs.Search
import LineGrammar.Proofs.Shape
import LineGrammar.Proofs.Soundness
import LineGrammar.Proofs.Spacing
import LineGrammar.Proofs.Spelled
import LineGrammar.Proofs.Step
import LineGrammar.Proofs.Supplied
import LineGrammar.Proofs.Table
import LineGrammar.Proofs.Tokens
import LineGrammar.Proofs.Trailing
import LineGrammar.Proofs.Values
import LineGrammar.Proofs.Verdict
import LineGrammar.Proofs.Wording
import LineGrammar.ReadError
import LineGrammar.Reading.Basic
import LineGrammar.Reading.Record
import LineGrammar.Text.Base64
import LineGrammar.Text.Blank
import LineGrammar.Text.Case
import LineGrammar.Text.Digits
import LineGrammar.Text.Numeral
import LineGrammar.Text.Printable
import LineGrammar.Text.Quoted
import LineGrammar.Yaml.Character
import LineGrammar.Yaml.Date
import LineGrammar.Yaml.Fault
import LineGrammar.Yaml.Growth
import LineGrammar.Yaml.Head
import LineGrammar.Yaml.Level
import LineGrammar.Yaml.Lexeme
import LineGrammar.Yaml.Plain
import LineGrammar.Yaml.Reader
import LineGrammar.Yaml.Scalar
import LineGrammar.Yaml.Tag
import LineGrammar.Yaml.Tree
import LineGrammar.Yaml.Value
import LineGrammar.Yaml.Writer
