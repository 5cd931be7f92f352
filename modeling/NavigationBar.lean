import NavigationBar.Bar.Basic
import NavigationBar.Bar.Executor
import NavigationBar.Bar.Plan
import NavigationBar.Bar.Popup
import NavigationBar.Bar.Run
import NavigationBar.CommandLine
import NavigationBar.Config.Action
import NavigationBar.Config.Basic
import NavigationBar.Config.Excerpt
import NavigationBar.Config.Item
import NavigationBar.Config.Load
import NavigationBar.Config.Look
import NavigationBar.Config.Ron
import NavigationBar.Decimal.Binary
import NavigationBar.Decimal.Notation
import NavigationBar.Decimal.Power
import NavigationBar.Decimal.Reading
import NavigationBar.Decimal.Shortest
import NavigationBar.Decode.Basic
import NavigationBar.Decode.Error
import NavigationBar.Decode.Record
import NavigationBar.Decode.Tagged
import NavigationBar.Display.Address
import NavigationBar.Display.Item
import NavigationBar.Display.Player
import NavigationBar.Gesture.Detector
import NavigationBar.Gesture.Run
import NavigationBar.Host.Entity
import NavigationBar.Host.Event
import NavigationBar.Host.Outbox
import NavigationBar.Host.Snapshot
import NavigationBar.Host.SnapshotText
import NavigationBar.Json.Basic
import NavigationBar.Json.Merge
import NavigationBar.Json.Parser
import NavigationBar.Json.Printer
import NavigationBar.LogFilter
import NavigationBar.Main
import NavigationBar.Script.Arithmetic
import NavigationBar.Script.Builtin
import NavigationBar.Script.Closeness
import NavigationBar.Script.Evaluator
import NavigationBar.Script.Fault
import NavigationBar.Script.Lexer
import NavigationBar.Script.Literal
import NavigationBar.Script.Parser
import NavigationBar.Script.Place
import NavigationBar.Script.Purity
import NavigationBar.Script.Selection
import NavigationBar.Script.Simplify
import NavigationBar.Script.Syntax
import NavigationBar.Script.Token
import NavigationBar.Script.Value
import NavigationBar.Template.Cache
import NavigationBar.Template.Conditional
import NavigationBar.Template.Context
import NavigationBar.Template.Delimiter
import NavigationBar.Template.Engine
import NavigationBar.Template.Failure
import NavigationBar.Template.Lexis
import NavigationBar.Template.Normal
import NavigationBar.Template.Resolve
import NavigationBar.Template.Spelling
import NavigationBar.Text.Blank
import NavigationBar.Text.Case
import NavigationBar.Text.Digit
import NavigationBar.Text.Letter
import NavigationBar.Text.Shown
import NavigationBar.Time.Agenda
import NavigationBar.Time.Deadlines
import NavigationBar.Time.Timers
import NavigationBar.Proofs.Gesture.Inputs
import NavigationBar.Proofs.Gesture.Settling
import NavigationBar.Proofs.Gesture.Presses
import NavigationBar.Proofs.Gesture.Tracking
import NavigationBar.Proofs.Gesture.BatchRefinement
import NavigationBar.Proofs.Template.Printed
import NavigationBar.Proofs.Template.Scanning
import NavigationBar.Proofs.Template.LastConditional
import NavigationBar.Proofs.Template.Unwinding
import NavigationBar.Proofs.Template.CoreLanguage
import NavigationBar.Proofs.Template.Copying
import NavigationBar.Proofs.Template.Surroundings
import NavigationBar.Proofs.Template.CacheTransparency
import NavigationBar.Proofs.Decode.Writing
import NavigationBar.Proofs.Decode.Slots
import NavigationBar.Proofs.Config.Actions
import NavigationBar.Proofs.Config.Items
import NavigationBar.Proofs.Config.RoundTrip
import NavigationBar.Proofs.Json.Numbers
import NavigationBar.Proofs.Json.Reading
import NavigationBar.Proofs.Config.Documents
import NavigationBar.Proofs.Config.Printed
import NavigationBar.Proofs.Gesture.EarnedHolds
import NavigationBar.Proofs.Gesture.ReleasedHolds
import NavigationBar.Proofs.Gesture.CountedTaps
import NavigationBar.Proofs.Gesture.OnePerRelease
import NavigationBar.Proofs.Time.InTime
import NavigationBar.Proofs.Bar.Composing
import NavigationBar.Proofs.Bar.Carrying
import NavigationBar.Proofs.Bar.ShownPopup
import NavigationBar.Proofs.Bar.RemovedPopups
import NavigationBar.Proofs.Json.Merging
import NavigationBar.Proofs.Decode.Steps
import NavigationBar.Proofs.Config.PopupLists
import NavigationBar.Proofs.Bar.Consistency
import NavigationBar.Proofs.Bar.SameItems
import NavigationBar.Proofs.Bar.Executing
import NavigationBar.Proofs.Host.Snapshots
import NavigationBar.Proofs.Bar.Playback
import NavigationBar.Proofs.Template.Rereading
import NavigationBar.Proofs.Template.Unfolding
import NavigationBar.Proofs.Template.BareTokens
import NavigationBar.Proofs.Template.Pieces
import NavigationBar.Proofs.Template.Respelling
import NavigationBar.Proofs.Template.BrokenLines
import NavigationBar.Proofs.Template.KeptPrograms
import NavigationBar.Proofs.Template.Requoting
import NavigationBar.Proofs.Template.Untouched
import NavigationBar.Proofs.Template.Bounds
import NavigationBar.Proofs.Json.Overlaying
import NavigationBar.Proofs.Gesture.Detaching
import NavigationBar.Proofs.Decode.Accepting
import NavigationBar.Proofs.Config.ActionMembers
import NavigationBar.Proofs.Bar.Relaying
import NavigationBar.Proofs.Bar.DelayedEvents
import NavigationBar.Proofs.Template.Bodies
import NavigationBar.Proofs.Display.Segments
import NavigationBar.Proofs.Config.Carets
import NavigationBar.Proofs.Config.Acceptance
import NavigationBar.Proofs.Gesture.HoldsInPress
import NavigationBar.Proofs.Host.RoundTrip
import NavigationBar.Proofs.Template.Tiling
