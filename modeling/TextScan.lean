import TextScan.Main
import TextScan.Scanner.Session
import TextScan.Span.Json
import TextScan.Stream
import TextScan.Proofs.Escapes
import TextScan.Proofs.Normalization
import TextScan.Proofs.Decoding
import TextScan.Proofs.Steps
import TextScan.Proofs.Reading
import TextScan.Proofs.Alterations
import TextScan.Proofs.Slices
import TextScan.Proofs.Sessions
import TextScan.Proofs.Routes
import TextScan.Proofs.Places
import TextScan.Proofs.Ahead
import TextScan.Proofs.Parts
import TextScan.Proofs.LineEndings
import TextScan.Proofs.Tiling
import TextScan.Proofs.Streams
import TextScan.Proofs.LogicalLines
import TextScan.Proofs.Ends
import TextScan.Proofs.TomlStrings
import TextScan.Proofs.FileTrees
import TextScan.Proofs.Saving
import TextScan.Proofs.Printing
import TextScan.Proofs.SpanDumps
import TextScan.Proofs.Runs
import TextScan.Proofs.Overrides
import TextScan.Proofs.Progress
import TextScan.Proofs.LineEntries
import TextScan.Proofs.OnePass
import TextScan.Proofs.Flags
import TextScan.Proofs.Directories
import TextScan.Proofs.Ensuring
import TextScan.Proofs.Numerals
import TextScan.Proofs.PositionTexts
