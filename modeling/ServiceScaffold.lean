import ServiceScaffold.Letter.Mapping
import ServiceScaffold.Filesystem.Memory
import ServiceScaffold.Main
import ServiceScaffold.Document.Text
import ServiceScaffold.Filesystem.Recording
import ServiceScaffold.Proofs.Generation.Plan
import ServiceScaffold.Proofs.Generation.TaskOrder
import ServiceScaffold.Proofs.Generation.Trace
import ServiceScaffold.Proofs.Generation.Report
import ServiceScaffold.Proofs.Generation.Schedule
import ServiceScaffold.Proofs.Memory.Run
import ServiceScaffold.Proofs.Memory.Content
import ServiceScaffold.Proofs.Memory.Sharing
import ServiceScaffold.Proofs.Memory.Schedules
import ServiceScaffold.Proofs.Generation.Effects
import ServiceScaffold.Proofs.Path.Resolution
import ServiceScaffold.Proofs.Generation.Containment
import ServiceScaffold.Proofs.Config.RoundTrip
import ServiceScaffold.Proofs.Config.Format
import ServiceScaffold.Proofs.Config.Validation
import ServiceScaffold.Proofs.Template.Parts
import ServiceScaffold.Proofs.Generation.Events
import ServiceScaffold.Proofs.Command.Resolution
import ServiceScaffold.Proofs.Memory.Isolation
import ServiceScaffold.Proofs.Memory.Repetition
import ServiceScaffold.Proofs.Memory.Batches
import ServiceScaffold.Proofs.Command.Endings
import ServiceScaffold.Proofs.Memory.History
import ServiceScaffold.Proofs.Template.Unclosed
import ServiceScaffold.Proofs.Naming.Separated
import ServiceScaffold.Proofs.Command.Switches
import ServiceScaffold.Proofs.Document.Content
import ServiceScaffold.Proofs.Naming.Capitals
import ServiceScaffold.Proofs.Naming.FixedPoints
import ServiceScaffold.Proofs.Naming.Composition
import ServiceScaffold.Proofs.Naming.Words
import ServiceScaffold.Proofs.Naming.Recovery
import ServiceScaffold.Proofs.Naming.Blanks
import ServiceScaffold.Proofs.Service.Trimming
import ServiceScaffold.Proofs.Service.Specification
import ServiceScaffold.Proofs.Service.ReadBack
import ServiceScaffold.Proofs.Template.Rendering
import ServiceScaffold.Proofs.Template.Concatenation
import ServiceScaffold.Proofs.Template.Filling
import ServiceScaffold.Proofs.Naming.Patterns
import ServiceScaffold.Proofs.Command.DocumentRun
import ServiceScaffold.Proofs.Command.Sequences
import ServiceScaffold.Proofs.Command.Wordings
import ServiceScaffold.Proofs.Command.Presentation
import ServiceScaffold.Proofs.Memory.Tree
