import Companion.Artifact
import Companion.Class.Basic
import Companion.Class.Source
import Companion.Class.Spelling
import Companion.Decimal.Binary64
import Companion.Decimal.Shortest
import Companion.Declaration
import Companion.Diagnostic
import Companion.Generator
import Companion.Json.Decode
import Companion.Json.Number
import Companion.Json.Quote
import Companion.Json.Reader
import Companion.Json.Value
import Companion.Layout
import Companion.Name.ClassName
import Companion.Name.ClassText
import Companion.Name.Identifier
import Companion.Name.Qualified
import Companion.Round.Basic
import Companion.Round.Chain
import Companion.Round.CompanionName
import Companion.Round.Entity
import Companion.Round.Error
import Companion.Round.Json
import Companion.Settings
import Companion.Settings.Json
import Companion.Sink.Basic
import Companion.Sink.Directory
import Companion.Sink.Memory
import Companion.Text.Alphabetic
import Companion.Text.CharClass
import Companion.Text.Hidden
import Companion.Text.Numeric
import Companion.Text.Quoted
import Companion.Text.Ranges
import Companion.Text.Sorted
import Companion.Type.Basic
import Companion.Type.Error
import Companion.Type.Reader
import Companion.Type.Text
import Companion.Proofs.Name.ClassText
import Companion.Proofs.Type.Pieces
import Companion.Proofs.Type.Grammar
import Companion.Proofs.Type.Spelled
import Companion.Proofs.Json.Record
import Companion.Proofs.Type.RoundTrip
import Companion.Proofs.Class.Meaning
import Companion.Proofs.Round.Walk
import Companion.Proofs.Round.Calls
import Companion.Proofs.Round.Names
import Companion.Proofs.Round.Discovery
import Companion.Proofs.Sink.Delivery
import Companion.Proofs.Generator.Distinct
import Companion.Proofs.Sink.History
import Companion.Proofs.Layout.Lines
import Companion.Proofs.Generator.Contents
import Companion.Proofs.Class.Alike
import Companion.Proofs.Type.Derivation
import Companion.Proofs.Round.Relocation
import Companion.Proofs.Generator.Outcome
import Companion.Proofs.Generator.Noninterference
import Companion.Proofs.Generator.Growth
import Companion.Proofs.Generator.Reordering
import Companion.Proofs.Sink.Location
import Companion.Proofs.Sink.FileTree
import Companion.Proofs.Sink.Offer
import Companion.Proofs.Sink.Refinement
import Companion.Proofs.Generator.Accounting
import Companion.Proofs.Round.Namesakes
import Companion.Proofs.Sink.Containment
import Companion.Proofs.Json.Spelling
import Companion.Proofs.Name.ShortestText
import Companion.Proofs.Settings.RoundTrip
import Companion.Proofs.Round.Forest
import Companion.Proofs.Round.Building
import Companion.Proofs.Text.Bytes
import Companion.Proofs.Layout.Pieces
import Companion.Proofs.Class.Claims
import Companion.Proofs.Class.Parts
import Companion.Proofs.Class.Imports
import Companion.Proofs.Layout.LineByLine
import Companion.Proofs.Generator.Filing
import Companion.Proofs.Json.Given
import Companion.Proofs.Type.Named
import Companion.Proofs.Type.Cursor
import Companion.Proofs.Type.Progress
