import LayoutQuery.Command.Run
import LayoutQuery.Json.Writer
import LayoutQuery.Main
import LayoutQuery.Proofs.Text.Letters
import LayoutQuery.Proofs.Condition.Grammar
import LayoutQuery.Proofs.Condition.Acceptance
import LayoutQuery.Proofs.Condition.Rendering
import LayoutQuery.Proofs.Search.Run
import LayoutQuery.Proofs.Search.Hits
import LayoutQuery.Proofs.Layout.Stream
import LayoutQuery.Proofs.Search.Limit
import LayoutQuery.Proofs.Condition.Rejection
import LayoutQuery.Proofs.Condition.RoundTrip
import LayoutQuery.Proofs.Layout.Decoding
import LayoutQuery.Proofs.Json.Reading
import LayoutQuery.Proofs.Text.Utf8
import LayoutQuery.Proofs.Text.Lines
import LayoutQuery.Proofs.Json.Writing
import LayoutQuery.Proofs.Files.Order
import LayoutQuery.Proofs.Layout.Snapshot
import LayoutQuery.Proofs.Search.Taken
import LayoutQuery.Proofs.Layout.Pulls
import LayoutQuery.Proofs.Layout.Session
import LayoutQuery.Proofs.Settings.Limit
import LayoutQuery.Proofs.Layout.Feed
import LayoutQuery.Proofs.Command.Agreement
import LayoutQuery.Proofs.Json.Numbers
import LayoutQuery.Proofs.Json.Extents
import LayoutQuery.Proofs.Layout.Loading
import LayoutQuery.Proofs.Matching.Counts
import LayoutQuery.Proofs.Matching.Equivalence
import LayoutQuery.Proofs.Matching.Thresholds
import LayoutQuery.Proofs.Files.Agreement
import LayoutQuery.Proofs.Files.Creation
import LayoutQuery.Proofs.Search.Failure
import LayoutQuery.Proofs.Layout.Iteration
import LayoutQuery.Proofs.Files.Changes
import LayoutQuery.Proofs.Search.Dependence
import LayoutQuery.Proofs.Layout.RoomTokens
import LayoutQuery.Proofs.Matching.Names
import LayoutQuery.Proofs.Command.Failure
import LayoutQuery.Proofs.Files.Patterns
import LayoutQuery.Proofs.Command.Answers
import LayoutQuery.Proofs.Command.Conditions
import LayoutQuery.Proofs.Command.Levels
import LayoutQuery.Proofs.Json.Display
import LayoutQuery.Proofs.Layout.JsonFiles
import LayoutQuery.Proofs.Matching.Partition
import LayoutQuery.Proofs.Settings.Assignments
import LayoutQuery.Proofs.Settings.Reading
import LayoutQuery.Proofs.Settings.Precedence
