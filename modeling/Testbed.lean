import Testbed.Lab.Rehearsal
import Testbed.Main
import Testbed.Proofs.Blocks
import Testbed.Proofs.Independence
import Testbed.Proofs.Content
import Testbed.Proofs.Abort
import Testbed.Proofs.Journal
import Testbed.Proofs.Visits
import Testbed.Proofs.Recognition
import Testbed.Proofs.ShellReading
import Testbed.Proofs.ShellRun
import Testbed.Proofs.DryRunLine
import Testbed.Proofs.Acceptance
import Testbed.Proofs.Scopes
import Testbed.Proofs.Phases
import Testbed.Proofs.Isolation
import Testbed.Proofs.Levels
import Testbed.Proofs.Subnets
import Testbed.Proofs.PrintedWords
import Testbed.Proofs.ExitStatus
import Testbed.Proofs.TypedCommand
import Testbed.Proofs.LookupChain
import Testbed.Proofs.Concatenation
import Testbed.Proofs.CapturedLines
import Testbed.Proofs.WriteBack
import Testbed.Proofs.Markers
import Testbed.Proofs.TableRows
import Testbed.Proofs.LineEndings
import Testbed.Proofs.HostCommands
import Testbed.Proofs.Locality
import Testbed.Proofs.Exhaustion
