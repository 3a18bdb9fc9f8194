import CommandShell.Inspect
import CommandShell.Main
import CommandShell.Pool.Exchange
import CommandShell.Proofs.List.FirstAt
import CommandShell.Proofs.Pool.Transition
import CommandShell.Proofs.Pool.Ownership
import CommandShell.Proofs.Pool.Filling
import CommandShell.Proofs.Pool.History
import CommandShell.Proofs.Relay.Schedule
import CommandShell.Proofs.Shell.Line
import CommandShell.Proofs.Shell.Session
import CommandShell.Proofs.Shell.Coherence
import CommandShell.Proofs.Shell.Shorthand
import CommandShell.Proofs.Shell.Lookup
import CommandShell.Proofs.Shell.Naming
import CommandShell.Proofs.Shell.Output
import CommandShell.Proofs.Program.Lines
import CommandShell.Proofs.Program.Startup
import CommandShell.Proofs.Program.Run
import CommandShell.Proofs.Program.Serving
import CommandShell.Proofs.Pool.Closing
import CommandShell.Proofs.Shell.Frame
import CommandShell.Proofs.Shell.Truncation
import CommandShell.Proofs.Shell.Access
import CommandShell.Proofs.Shell.Growth
import CommandShell.Proofs.Shell.Batches
import CommandShell.Proofs.Shell.Refusal
import CommandShell.Proofs.Shell.Opening
import CommandShell.Proofs.Text.Utf8
import CommandShell.Proofs.Text.Layout
import CommandShell.Proofs.Text.Cutting
import CommandShell.Proofs.Registry.Search
import CommandShell.Proofs.Shell.LongNames
import CommandShell.Proofs.Config.Acceptance
import CommandShell.Proofs.Shell.Help
import CommandShell.Proofs.Demo.Arithmetic
import CommandShell.Proofs.Shell.Listing
import CommandShell.Proofs.Shell.Inquiry
