import JobShell.Main
import JobShell.Proofs.Announcements
import JobShell.Proofs.Arguments
import JobShell.Proofs.Becoming
import JobShell.Proofs.Crowd
import JobShell.Proofs.Decoding
import JobShell.Proofs.Completion
import JobShell.Proofs.Grammar
import JobShell.Proofs.Handover
import JobShell.Proofs.Launching
import JobShell.Proofs.Lengths
import JobShell.Proofs.Listing
import JobShell.Proofs.Locks
import JobShell.Proofs.Outputs
import JobShell.Proofs.Pass
import JobShell.Proofs.Prompt
import JobShell.Proofs.Reactions
import JobShell.Proofs.Refinement
import JobShell.Proofs.Reports
import JobShell.Proofs.Roster
import JobShell.Proofs.Routing
import JobShell.Proofs.Shutdown
import JobShell.Proofs.Spellings
import JobShell.Proofs.Transcript
import JobShell.Proofs.Wakeups
import JobShell.Proofs.Writing
import JobShell.Rehearsal
import JobShell.Scenario.Calls
import JobShell.Scenario.Handoffs
import JobShell.Scenario.Launches
import JobShell.Scenario.Requests
