import Interchain.Main
import Interchain.Program.Start
import Interchain.Proofs.Blob
import Interchain.Proofs.Bridge.Direction
import Interchain.Proofs.Cli.FailStop
import Interchain.Proofs.Config.Expansion
import Interchain.Proofs.Config.Layout
import Interchain.Proofs.Config.Reach
import Interchain.Proofs.Executor.QueueKey
import Interchain.Proofs.Gateway.Classification
import Interchain.Proofs.Json.RoundTrip
import Interchain.Proofs.Registry.Agreement
import Interchain.Proofs.Registry.Independence
import Interchain.Proofs.Registry.Manifest
import Interchain.Proofs.Registry.Refusals
import Interchain.Proofs.Scheduler.Accepted
import Interchain.Proofs.Scheduler.Faults
import Interchain.Proofs.Scheduler.Fetching
import Interchain.Proofs.Scheduler.Handover
import Interchain.Proofs.Scheduler.Recovery
import Interchain.Proofs.Scheduler.StartUp
import Interchain.Proofs.Topology.Backing
import Interchain.Proofs.Topology.InPlace
import Interchain.Proofs.Topology.Projection
import Interchain.Proofs.Topology.Undoing
import Interchain.Scheduler.Idle
