import Testbed.Text.Blank
import Testbed.Value.Literal
import Testbed.Value.Printer
import Testbed.Value.Reader
import Testbed.Seconds
import Testbed.Timestamp
import Testbed.Proc
import Testbed.Namespace.Name
import Testbed.Fault.Basic
import Testbed.Fault.Message
import Testbed.Config.CommandLine
import Testbed.Config.Client
import Testbed.Poll.Config
import Testbed.Host.Site
import Testbed.Poll.Await
import Testbed.Client.ClientSet
import Testbed.Client.Connection
import Testbed.Span.Tree
import Testbed.Namespace.Creation
import Testbed.Namespace.Deletion
import Testbed.Namespace.ServiceAccount
import Testbed.Pod.Readiness
import Testbed.Diagnostics.Dump
import Testbed.Framework.Setup
import Testbed.Framework.Drain
import Testbed.Framework.Lifecycle
import Testbed.Scenario.Trace
import Testbed.Document.Fault
import Testbed.Scripted.World
import Testbed.Document.Step
import Testbed.Session.Run
import Testbed.Document.Run
import Testbed.Transcript.Run
import Testbed.Document.Span
import Testbed.Proofs.Custody
import Testbed.Proofs.Steps
import Testbed.Proofs.Conservation
import Testbed.Proofs.Ledger
import Testbed.Proofs.Pacing
import Testbed.Proofs.Creation
import Testbed.Proofs.AbortedSetup
import Testbed.Proofs.AbortedTeardown
import Testbed.Proofs.Books
import Testbed.Proofs.Enrolment
import Testbed.Proofs.Fixture
import Testbed.Proofs.Grants
import Testbed.Proofs.RegistryHistory
import Testbed.Proofs.Schedule
import Testbed.Proofs.Keeping
import Testbed.Proofs.AbortPath
import Testbed.Proofs.TestCode
import Testbed.Proofs.Clients
import Testbed.Proofs.Deferral
import Testbed.Proofs.Costs
import Testbed.Proofs.Akin
import Testbed.Proofs.Clearing
import Testbed.Proofs.Cycles
import Testbed.Proofs.DeletionTime
import Testbed.Proofs.Notices
import Testbed.Proofs.SetupTime
import Testbed.Proofs.Settlement
import Testbed.Proofs.FailedSetup
import Testbed.Proofs.Expiry
import Testbed.Proofs.Classification
import Testbed.Proofs.Order
import Testbed.Proofs.BestEffort
import Testbed.Proofs.StoppedSetup
import Testbed.Proofs.Tape
import Testbed.Proofs.Names
import Testbed.Proofs.Dump
import Testbed.Proofs.Resolution
import Testbed.Proofs.Expansion
import Testbed.Proofs.Phases
import Testbed.Proofs.Readiness
import Testbed.Proofs.Containers
