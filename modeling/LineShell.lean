import LineShell.Builtin.Probe
import LineShell.Interposed
import LineShell.Main
import LineShell.Program.Probe
import LineShell.Proofs.ExitReport
import LineShell.Proofs.Host.Slots
import LineShell.Proofs.Indexed
import LineShell.Proofs.Lines
import LineShell.Proofs.NormalForm
import LineShell.Proofs.Outline
import LineShell.Proofs.Protocol
import LineShell.Proofs.Rejection
import LineShell.Proofs.Script
import LineShell.Proofs.Sim.Abandoning
import LineShell.Proofs.Sim.Balance
import LineShell.Proofs.Sim.Paths
import LineShell.Proofs.Sim.PrintedListing
import LineShell.Proofs.Sim.Refusal
import LineShell.Proofs.Splitting
import LineShell.Proofs.TypeAhead
import LineShell.Proofs.WorkingDirectory
import LineShell.Scripted
import LineShell.Survey
