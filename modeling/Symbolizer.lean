import Symbolizer.Address
import Symbolizer.Attribution
import Symbolizer.Block
import Symbolizer.Buffer
import Symbolizer.Command.Arguments
import Symbolizer.Command.Complaint
import Symbolizer.Command.Filter
import Symbolizer.Command.Flag
import Symbolizer.Command.Report
import Symbolizer.Device
import Symbolizer.Diagnostic
import Symbolizer.Extent
import Symbolizer.Failure
import Symbolizer.Fault
import Symbolizer.Header
import Symbolizer.Json.Quoted
import Symbolizer.Json.Record
import Symbolizer.Json.Token
import Symbolizer.Layout
import Symbolizer.Lines
import Symbolizer.Listing
import Symbolizer.Main
import Symbolizer.Pattern
import Symbolizer.Pattern.Class
import Symbolizer.Pattern.Mode
import Symbolizer.Pattern.Piece
import Symbolizer.Receiver
import Symbolizer.Records
import Symbolizer.Run
import Symbolizer.Sink
import Symbolizer.Source
import Symbolizer.SymbolTable
import Symbolizer.Text.Decimal
import Symbolizer.Text.Hex
import Symbolizer.Text.Property
import Symbolizer.Text.Quoted
import Symbolizer.Text.Scan
import Symbolizer.Text.Similarity
import Symbolizer.Text.Terminal
import Symbolizer.Text.Tolerant
import Symbolizer.Proofs.Lines.Marks
import Symbolizer.Proofs.Lines.Lineation
import Symbolizer.Proofs.Lines.Reading
import Symbolizer.Proofs.Lines.Decoding
import Symbolizer.Proofs.Lines.Stretches
import Symbolizer.Proofs.Lines.Concatenation
import Symbolizer.Proofs.Address
import Symbolizer.Proofs.Header
import Symbolizer.Proofs.Header.Parts
import Symbolizer.Proofs.Block
import Symbolizer.Proofs.Block.Parts
import Symbolizer.Proofs.Lookup
import Symbolizer.Proofs.Layout.Unbounded
import Symbolizer.Proofs.Layout.Coverage
import Symbolizer.Proofs.Layout.Assignment
import Symbolizer.Proofs.Lookup.Scan
import Symbolizer.Proofs.Layout.Names
import Symbolizer.Proofs.Listing
import Symbolizer.Proofs.Listing.Loading
import Symbolizer.Proofs.Run.Writing
import Symbolizer.Proofs.Run.Meaning
import Symbolizer.Proofs.Run.Outcome
import Symbolizer.Proofs.Run.Course
import Symbolizer.Proofs.Run.Stages
import Symbolizer.Proofs.Run.Account
import Symbolizer.Proofs.Text.Encoding
import Symbolizer.Proofs.Run.Output
import Symbolizer.Proofs.Run.Shards
import Symbolizer.Proofs.Run.Repetition
import Symbolizer.Proofs.Run.Alike
import Symbolizer.Proofs.Command.Verbosity
import Symbolizer.Proofs.Json.Quoted
import Symbolizer.Proofs.Json.Token
import Symbolizer.Proofs.Layout.Widths
import Symbolizer.Proofs.Lines.Exhaustion
import Symbolizer.Proofs.Listing.Insertion
import Symbolizer.Proofs.Json.Record
import Symbolizer.Proofs.Records
