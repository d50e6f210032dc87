import MazeRobot.Autosave
import MazeRobot.Autosave.History
import MazeRobot.Autosave.Overrun
import MazeRobot.Autosave.Sharing
import MazeRobot.Behaviour
import MazeRobot.Blake3
import MazeRobot.Catalog
import MazeRobot.Catalog.Builtin
import MazeRobot.Config
import MazeRobot.Config.File
import MazeRobot.Config.Json
import MazeRobot.Coord
import MazeRobot.Dialogue
import MazeRobot.Disk
import MazeRobot.Engine
import MazeRobot.Explanation
import MazeRobot.FileReading
import MazeRobot.Grid
import MazeRobot.Grid.Json
import MazeRobot.Heading
import MazeRobot.Json.Basic
import MazeRobot.Json.Decode
import MazeRobot.Json.Scan
import MazeRobot.Json.Tagged
import MazeRobot.Main
import MazeRobot.Numeral
import MazeRobot.Options
import MazeRobot.Playback
import MazeRobot.Playback.Event
import MazeRobot.Playback.Observed
import MazeRobot.Playback.Overrun
import MazeRobot.Playback.View
import MazeRobot.Program
import MazeRobot.Program.Watching
import MazeRobot.Proofs.Accounting
import MazeRobot.Proofs.Action
import MazeRobot.Proofs.Alarms
import MazeRobot.Proofs.Answers
import MazeRobot.Proofs.Arguments
import MazeRobot.Proofs.Asides
import MazeRobot.Proofs.Autosaves
import MazeRobot.Proofs.Budget
import MazeRobot.Proofs.Cancellation
import MazeRobot.Proofs.Celebration
import MazeRobot.Proofs.Closing
import MazeRobot.Proofs.Codes
import MazeRobot.Proofs.Counters
import MazeRobot.Proofs.Course
import MazeRobot.Proofs.Debounce
import MazeRobot.Proofs.Decoding
import MazeRobot.Proofs.Deeds
import MazeRobot.Proofs.Delays
import MazeRobot.Proofs.Departure
import MazeRobot.Proofs.Directories
import MazeRobot.Proofs.Due
import MazeRobot.Proofs.Fingerprints
import MazeRobot.Proofs.Frames
import MazeRobot.Proofs.Grid
import MazeRobot.Proofs.Mirror
import MazeRobot.Proofs.Numerals
import MazeRobot.Proofs.Overrun
import MazeRobot.Proofs.Pace
import MazeRobot.Proofs.Performance
import MazeRobot.Proofs.Places
import MazeRobot.Proofs.PlayOrder
import MazeRobot.Proofs.Playable
import MazeRobot.Proofs.Reading
import MazeRobot.Proofs.Records
import MazeRobot.Proofs.Refusal
import MazeRobot.Proofs.Replay
import MazeRobot.Proofs.Rounds
import MazeRobot.Proofs.Scene
import MazeRobot.Proofs.Sensing
import MazeRobot.Proofs.Settings
import MazeRobot.Proofs.Shift
import MazeRobot.Proofs.Showing
import MazeRobot.Proofs.Solo
import MazeRobot.Proofs.StoredCatalogs
import MazeRobot.Proofs.StoredReports
import MazeRobot.Proofs.Stores
import MazeRobot.Proofs.Stride
import MazeRobot.Proofs.Submission
import MazeRobot.Proofs.Takers
import MazeRobot.Proofs.Tally
import MazeRobot.Proofs.Tempo
import MazeRobot.Proofs.Visits
import MazeRobot.Proofs.Walk
import MazeRobot.Proofs.Watching
import MazeRobot.Proofs.WayBack
import MazeRobot.Proofs.Worker
import MazeRobot.Puzzle
import MazeRobot.Puzzle.Json
import MazeRobot.Report
import MazeRobot.Report.Json
import MazeRobot.Robot
import MazeRobot.Robot.Primitives
import MazeRobot.Script.Access
import MazeRobot.Script.Behaviour
import MazeRobot.Script.Commands
import MazeRobot.Script.Complaint
import MazeRobot.Script.Decimal
import MazeRobot.Script.Description
import MazeRobot.Script.Evaluation.Callbacks
import MazeRobot.Script.Evaluation.Calls
import MazeRobot.Script.Evaluation.Chains
import MazeRobot.Script.Evaluation.Expressions
import MazeRobot.Script.Evaluation.Invocations
import MazeRobot.Script.Evaluation.Statements
import MazeRobot.Script.Failure
import MazeRobot.Script.Fraction
import MazeRobot.Script.FunctionName
import MazeRobot.Script.Grammar.Checks
import MazeRobot.Script.Grammar.Data
import MazeRobot.Script.Grammar.Expression
import MazeRobot.Script.Grammar.Script
import MazeRobot.Script.Grammar.Statement
import MazeRobot.Script.Items
import MazeRobot.Script.Known
import MazeRobot.Script.Lexer
import MazeRobot.Script.Library.All
import MazeRobot.Script.Library.Arrays
import MazeRobot.Script.Library.Basic
import MazeRobot.Script.Library.Bits
import MazeRobot.Script.Library.Blobs
import MazeRobot.Script.Library.Maps
import MazeRobot.Script.Library.Numbers
import MazeRobot.Script.Library.Ranges
import MazeRobot.Script.Library.Strings
import MazeRobot.Script.Limits
import MazeRobot.Script.Machine
import MazeRobot.Script.Operator
import MazeRobot.Script.Reader
import MazeRobot.Script.Room
import MazeRobot.Script.Simplification.Basic
import MazeRobot.Script.Simplification.Expression
import MazeRobot.Script.Simplification.Purity
import MazeRobot.Script.Simplification.Script
import MazeRobot.Script.Simplification.Statement
import MazeRobot.Script.Starter
import MazeRobot.Script.Text.Blank
import MazeRobot.Script.Text.Case
import MazeRobot.Script.Text.Cased
import MazeRobot.Script.Text.Decoding
import MazeRobot.Script.Text.Hidden
import MazeRobot.Script.Text.Quoted
import MazeRobot.Script.Token
import MazeRobot.Script.Tree
import MazeRobot.Script.Value
import MazeRobot.Script.Value.Shown
import MazeRobot.Session
import MazeRobot.Session.Gathering
import MazeRobot.Session.Worker
import MazeRobot.Simulator
import MazeRobot.Span
import MazeRobot.Store
import MazeRobot.Store.Calls
import MazeRobot.Store.Files
import MazeRobot.Store.Memory
import MazeRobot.Trace
import MazeRobot.Trace.Fingerprint
import MazeRobot.Trace.Json
import MazeRobot.Visits
import MazeRobot.Visits.Tally
