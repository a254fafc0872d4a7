import Tutor.Text.Word
import Tutor.Text.Digit
import Tutor.Text.Blank
import Tutor.Text.Quoted
import Tutor.Text.Find
import Tutor.Text.Lines
import Tutor.Text.Utf8
import Tutor.Pattern.Search
import Tutor.Explain.Record
import Tutor.Json.Token
import Tutor.Json.Printer
import Tutor.Json.Reader
import Tutor.Failure.Advice
import Tutor.Run.Answers
import Tutor.Run.Coordinator
import Tutor.Config.Basic
import Tutor.Child.Interpreter
import Tutor.Protocol.Frame
import Tutor.Server.Session
import Tutor.CommandLine.Run
import Tutor.Main
import Tutor.Proofs.Text.Utf8
import Tutor.Proofs.Text.Lines
import Tutor.Proofs.Text.Blank
import Tutor.Proofs.Text.Find
import Tutor.Proofs.Text.Leftmost
import Tutor.Proofs.Json.Literal
import Tutor.Proofs.Json.Numeral
import Tutor.Proofs.Json.Words
import Tutor.Proofs.Json.Scan
import Tutor.Proofs.Json.Grammar
import Tutor.Proofs.Json.Fields
import Tutor.Proofs.Json.RoundTrip
import Tutor.Proofs.Protocol.Stream
import Tutor.Proofs.Protocol.RoundTrip
import Tutor.Proofs.Run.History
import Tutor.Proofs.Run.Readiness
import Tutor.Proofs.Run.Discipline
import Tutor.Proofs.Run.Publication
import Tutor.Proofs.Child.Input
import Tutor.Proofs.Child.Passage
import Tutor.Proofs.Child.Line
import Tutor.Proofs.Child.Segments
import Tutor.Proofs.Server.Arguments
import Tutor.Proofs.Server.Serving
import Tutor.Proofs.Server.Work
import Tutor.Proofs.Server.Events
import Tutor.Proofs.Server.History
import Tutor.Proofs.Server.Independence
import Tutor.Proofs.Protocol.Header
import Tutor.Proofs.Server.Writer
import Tutor.Proofs.Protocol.Cut
import Tutor.Proofs.Server.Cut
import Tutor.Proofs.Protocol.Oversized
import Tutor.Proofs.Explain.Order
import Tutor.Proofs.Failure.Category
import Tutor.Proofs.Failure.Hints
import Tutor.Proofs.Failure.Opening
import Tutor.Proofs.Failure.BlamedLine
import Tutor.Proofs.Failure.UndefinedName
import Tutor.Proofs.Run.Verdict
import Tutor.Proofs.Server.Analysis
import Tutor.Proofs.Run.Answers
import Tutor.Proofs.Run.Agreement
import Tutor.Proofs.CommandLine.Presentation
import Tutor.Proofs.Config.Command
import Tutor.Proofs.CommandLine.Interactive
import Tutor.Proofs.Run.Broadcast
import Tutor.Proofs.Text.Lossy
import Tutor.Proofs.Child.Unmarked
import Tutor.Proofs.Config.Step
import Tutor.Proofs.Config.StartUp
import Tutor.Proofs.Explain.Records
import Tutor.Proofs.Protocol.Length
import Tutor.Proofs.Run.Course
import Tutor.Proofs.CommandLine.Arguments
import Tutor.Proofs.CommandLine.ExitCode
import Tutor.Proofs.Server.Rounds
import Tutor.Proofs.Protocol.Shape
import Tutor.Proofs.Server.Refusal
import Tutor.Proofs.Child.Outcome
import Tutor.Proofs.Explain.Names
import Tutor.Proofs.Explain.Rearrangement
import Tutor.Proofs.Explain.LineBreaks
import Tutor.Proofs.Child.Sending
import Tutor.Proofs.Explain.Margins
import Tutor.Proofs.CommandLine.Command
import Tutor.Proofs.Explain.Brackets
