import CommandShell.Completion
import CommandShell.LineEditor
import CommandShell.Main
import CommandShell.Proofs.Atom.Cutting
import CommandShell.Proofs.Splitter.TwoPasses
import CommandShell.Proofs.Session.Sequence
import CommandShell.Proofs.Session.Call
import CommandShell.Proofs.Registry
import CommandShell.Proofs.Registry.Changes
import CommandShell.Proofs.Registry.LastWrite
import CommandShell.Proofs.Registry.Listing
import CommandShell.Proofs.Session.Ending
import CommandShell.Proofs.Session.Dispatch
import CommandShell.Proofs.Session.Loading
import CommandShell.Proofs.Session.Transcript
import CommandShell.Proofs.Session.Preparation
import CommandShell.Proofs.Session.Spelling
import CommandShell.Proofs.Session.Reporting
import CommandShell.Proofs.Splitter.Written
import CommandShell.Proofs.Session.TypedLine
import CommandShell.Proofs.Text.Utf8
import CommandShell.Proofs.Text.Sequence
import CommandShell.Proofs.Files.Written
import CommandShell.Proofs.Files.Shape
import CommandShell.Proofs.History.Records
import CommandShell.Proofs.History.RoundTrip
import CommandShell.Proofs.Session.Kept
import CommandShell.Proofs.Session.Course
import CommandShell.Proofs.Session.Ended
import CommandShell.Proofs.Session.Saved
import CommandShell.Proofs.Session.Reentry
import CommandShell.Proofs.Session.Trouble
import CommandShell.Proofs.Signature
import CommandShell.Proofs.Binding
import CommandShell.Proofs.Settings.Effective
import CommandShell.Proofs.Settings.Faults
import CommandShell.Proofs.Settings.Checks
import CommandShell.Proofs.KeyValue.Requests
import CommandShell.Proofs.KeyValue.Refinement
import CommandShell.Proofs.Binding.Interleaving
import CommandShell.Proofs.Session.Misreading
import CommandShell.Proofs.Splitter.Layout
import CommandShell.Proofs.Splitter.Fields
import CommandShell.Proofs.Table
import CommandShell.Proofs.Completion
import CommandShell.Proofs.History.NormalForm
import CommandShell.Proofs.History.Untrimmed
import CommandShell.Proofs.Settings.Sections
import CommandShell.Proofs.Settings.Assignments
import CommandShell.Proofs.Settings.Flattening
import CommandShell.Proofs.Session.Logged
import CommandShell.Proofs.Text.Colour
