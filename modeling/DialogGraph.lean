import DialogGraph.Block.Port
import DialogGraph.CommandLine.Disk
import DialogGraph.Editor
import DialogGraph.Flow.Raw
import DialogGraph.History
import DialogGraph.Json.Printer
import DialogGraph.Main
import DialogGraph.Number.FixedPlaces
import DialogGraph.Preview
import DialogGraph.Program
import DialogGraph.Proofs.Block.ReadBack
import DialogGraph.Proofs.Flow.Editing
import DialogGraph.Proofs.Flow.Lookup
import DialogGraph.Proofs.Flow.Numbering
import DialogGraph.Proofs.Flow.Removing
import DialogGraph.Proofs.Flow.Repairing
import DialogGraph.Proofs.Flow.Sound
import DialogGraph.Proofs.History.Log
import DialogGraph.Proofs.Number.ReadBack
import DialogGraph.Proofs.Preview.Breakdown
import DialogGraph.Proofs.Preview.Course
import DialogGraph.Proofs.Preview.Nesting
import DialogGraph.Proofs.Preview.Resting
import DialogGraph.Proofs.Preview.Rounds
import DialogGraph.Proofs.Preview.Steps
import DialogGraph.Proofs.Preview.Termination
import DialogGraph.Proofs.Preview.Visits
import DialogGraph.Proofs.Program.Closed
import DialogGraph.Proofs.Script.Overlong
import DialogGraph.Proofs.Snapshot.AllOrNothing
import DialogGraph.Proofs.Snapshot.Loading
import DialogGraph.Proofs.Snapshot.RoundTrip
import DialogGraph.Proofs.Snapshot.Storable
import DialogGraph.Proofs.Snapshot.Wiring
import DialogGraph.Proofs.Workspace
import DialogGraph.Proofs.Workspace.Saving
import DialogGraph.Proofs.Workspace.Undoing
import DialogGraph.Text.Alphanumeric
import DialogGraph.Proofs.Program.Compiling
import DialogGraph.Proofs.Number.Fields
import DialogGraph.Proofs.Value.Equality
import DialogGraph.Proofs.Block.Keyed
import DialogGraph.Proofs.Snapshot.Keyed
import DialogGraph.Proofs.Editor.Turns
import DialogGraph.Proofs.Editor.InStep
import DialogGraph.Proofs.Number.Rounding
import DialogGraph.Proofs.Number.Shortest
import DialogGraph.Proofs.Literal.Enclosing
import DialogGraph.Proofs.Literal.Spreading
import DialogGraph.Proofs.Program.Literals
import DialogGraph.Proofs.Flow.Mending
import DialogGraph.Proofs.Snapshot.Admitting
import DialogGraph.Proofs.Program.Determined
import DialogGraph.Proofs.Workspace.Programs
import DialogGraph.Proofs.Literal.TextEnds
import DialogGraph.Proofs.Program.Heading
import DialogGraph.Proofs.Flow.Choosing
import DialogGraph.Proofs.Block.Apart
import DialogGraph.Proofs.Flow.Configuring
import DialogGraph.Proofs.Flow.Connecting
import DialogGraph.Proofs.Workspace.Refusing
import DialogGraph.Proofs.Workspace.Issuing
import DialogGraph.Proofs.Workspace.Mirroring
import DialogGraph.Proofs.Block.Salvaging
import DialogGraph.Proofs.Snapshot.SlotsOnly
import DialogGraph.Proofs.Workspace.SlotsOnly
import DialogGraph.Proofs.Script.Binding
import DialogGraph.Proofs.Script.Looping
import DialogGraph.Proofs.Preview.Silence
import DialogGraph.Proofs.Preview.Telling
import DialogGraph.Proofs.Preview.Tale
import DialogGraph.Proofs.Json.Legible
import DialogGraph.Proofs.Number.Integers
import DialogGraph.Proofs.Preview.Routing
import DialogGraph.Proofs.Preview.Browsing
import DialogGraph.Proofs.Formula.Grammar
import DialogGraph.Proofs.Formula.Spelling
import DialogGraph.Proofs.Script.Filling
import DialogGraph.Proofs.Formula.Integers
import DialogGraph.Proofs.Number.Largest
import DialogGraph.Proofs.Formula.Settling
import DialogGraph.Proofs.Json.Nesting
import DialogGraph.Proofs.Script.Selecting
import DialogGraph.Proofs.Text.Rows
import DialogGraph.Proofs.Script.Parsing
import DialogGraph.Proofs.Number.Product
import DialogGraph.Proofs.Number.Whole
import DialogGraph.Proofs.Script.Paying
import DialogGraph.Proofs.Script.Passing
import DialogGraph.Proofs.Script.Carting
import DialogGraph.Proofs.Text.Utf8
import DialogGraph.Proofs.Block.Legible
import DialogGraph.Proofs.Program.Snapshots
import DialogGraph.Proofs.CommandLine.Carrying
import DialogGraph.Proofs.CommandLine.Answering
import DialogGraph.Proofs.Preview.Asking
