import TurnByTurn.Main
import TurnByTurn.RouteFile.Writer
import TurnByTurn.Proofs.Binary64.Compare
import TurnByTurn.Proofs.Binary64.Canonical
import TurnByTurn.Proofs.Binary64.RoundEven
import TurnByTurn.Proofs.Binary64.Remainder
import TurnByTurn.Proofs.Decimal.Doubles
import TurnByTurn.Proofs.Decimal.Shortest
import TurnByTurn.Proofs.Geometry.Sectors
import TurnByTurn.Proofs.Geometry.Lengths
import TurnByTurn.Proofs.Text.Digits
import TurnByTurn.Proofs.Json.Grammar
import TurnByTurn.Proofs.Json.Literals
import TurnByTurn.Proofs.Json.Strings
import TurnByTurn.Proofs.Json.Reading
import TurnByTurn.Proofs.Json.Records
import TurnByTurn.Proofs.Json.Order
import TurnByTurn.Proofs.Json.Numerals
import TurnByTurn.Proofs.Json.Writing
import TurnByTurn.Proofs.Trace.Samples
import TurnByTurn.Proofs.Trace.Timetable
import TurnByTurn.Proofs.Trace.Legs
import TurnByTurn.Proofs.Trace.Order
import TurnByTurn.Proofs.Trace.Overflow
import TurnByTurn.Proofs.Trace.Outcome
import TurnByTurn.Proofs.Trace.Composition
import TurnByTurn.Proofs.Trace.Drift
import TurnByTurn.Proofs.Trace.Written
import TurnByTurn.Proofs.Maneuvers.Intervals
import TurnByTurn.Proofs.Maneuvers.Headings
import TurnByTurn.Proofs.Maneuvers.Bearings
import TurnByTurn.Proofs.RouteFile.Built
import TurnByTurn.Proofs.RouteFile.Measured
import TurnByTurn.Proofs.RouteFile.Tracing
import TurnByTurn.Proofs.RouteFile.Entries
import TurnByTurn.Proofs.RouteFile.Faithful
import TurnByTurn.Proofs.RouteFile.Judged
import TurnByTurn.Proofs.RouteFile.Shapes
import TurnByTurn.Proofs.RouteFile.Accepted
import TurnByTurn.Proofs.RouteFile.RoundTrip
import TurnByTurn.Proofs.Phrases.Templates
import TurnByTurn.Proofs.Phrases.Bundles
import TurnByTurn.Proofs.Phrases.Sentences
import TurnByTurn.Proofs.Calendar.Days
import TurnByTurn.Proofs.Calendar.Texts
import TurnByTurn.Proofs.Calendar.Forms
import TurnByTurn.Proofs.Files.Paths
import TurnByTurn.Proofs.Files.Writes
import TurnByTurn.Proofs.Files.Listing
import TurnByTurn.Proofs.Command.Arguments
import TurnByTurn.Proofs.Command.Effects
import TurnByTurn.Proofs.Command.Outputs
import TurnByTurn.Proofs.Command.RouteFiles
import TurnByTurn.Proofs.Command.Failures
import TurnByTurn.Proofs.Command.SingleFiles
