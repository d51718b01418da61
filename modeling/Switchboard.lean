import Switchboard.Config.Document
import Switchboard.Files.Tree
import Switchboard.Host
import Switchboard.Main
import Switchboard.Showcase
import Switchboard.StackMachine
import Switchboard.Summary
import Switchboard.TapeMachine.Machine
import Switchboard.TapeMachine.Samples
import Switchboard.Proofs.MethodSet.Binds
import Switchboard.Proofs.MethodSet.Faults
import Switchboard.Proofs.MethodSet.Acceptance
import Switchboard.Proofs.Table.Index
import Switchboard.Proofs.Table.Chain
import Switchboard.Proofs.Catalog.Index
import Switchboard.Proofs.Catalog.Codec
import Switchboard.Proofs.Table.Agreement
import Switchboard.Proofs.TapeMachine.LoopTree
import Switchboard.Proofs.TapeMachine.Partner
import Switchboard.Proofs.TapeMachine.Walk
import Switchboard.Proofs.TapeMachine.Reference
import Switchboard.Proofs.TapeMachine.View
import Switchboard.Proofs.TapeMachine.Loops
import Switchboard.Proofs.TapeMachine.Reachable
import Switchboard.Proofs.TapeMachine.Halt
import Switchboard.Proofs.TapeMachine.Course
import Switchboard.Proofs.Text.Words
import Switchboard.Proofs.StackMachine.Line
import Switchboard.Proofs.TapeMachine.History
import Switchboard.Proofs.TapeMachine.Widening
import Switchboard.Proofs.StackMachine.Charge
import Switchboard.Proofs.MethodSet.Compatible
import Switchboard.Proofs.Table.Renumbering
import Switchboard.Proofs.Table.Extension
import Switchboard.Proofs.MethodSet.Helpers
import Switchboard.Proofs.Table.Helpers
import Switchboard.Proofs.Command.Faults
import Switchboard.Proofs.Command.Stack
import Switchboard.Proofs.Host.Streams
import Switchboard.Proofs.Host.Output
import Switchboard.Proofs.TapeMachine.Loading
import Switchboard.Proofs.Host.Closing
import Switchboard.Proofs.Text.Utf8
import Switchboard.Proofs.Json.Reading
import Switchboard.Proofs.Json.RoundTrip
import Switchboard.Proofs.Command.Formats
import Switchboard.Proofs.Host.Formats
import Switchboard.Proofs.Config.Layers
import Switchboard.Proofs.Config.Sources
import Switchboard.Proofs.Config.Fields
import Switchboard.Proofs.Config.Load
import Switchboard.Proofs.StackMachine.Frame
import Switchboard.Proofs.TapeMachine.Nesting
import Switchboard.Proofs.TapeMachine.Intake
import Switchboard.Proofs.TapeMachine.Operators
import Switchboard.Proofs.TapeMachine.Comments
import Switchboard.Proofs.Numeral.Reading
import Switchboard.Proofs.StackMachine.Sequence
import Switchboard.Proofs.Host.Lines
import Switchboard.Proofs.StackMachine.Postfix
import Switchboard.Proofs.StackMachine.Printed
import Switchboard.Proofs.StackMachine.Batch
import Switchboard.Proofs.Domain.Literals
import Switchboard.Proofs.Domain.Widening
import Switchboard.Proofs.Table.Batch
import Switchboard.Proofs.Text.Lossy
import Switchboard.Proofs.Host.Front
import Switchboard.Proofs.Catalog.Streams
import Switchboard.Proofs.Host.Recoding
import Switchboard.Proofs.Table.Listing
import Switchboard.Proofs.Json.Scalars
import Switchboard.Proofs.Config.Document
import Switchboard.Proofs.Toml.Texts
import Switchboard.Proofs.CommandLine.Options
import Switchboard.Proofs.Config.Words
import Switchboard.Proofs.Config.Places
import Switchboard.Proofs.Config.Spellings
import Switchboard.Proofs.Table.Replay
import Switchboard.Proofs.StackMachine.Replay
import Switchboard.Proofs.MethodSet.Claims
import Switchboard.Proofs.TapeMachine.Jumps
