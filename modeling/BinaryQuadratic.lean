import BinaryQuadratic.Coverage
import BinaryQuadratic.Device.Faulty
import BinaryQuadratic.Device.Machine
import BinaryQuadratic.Backend.Threads
import BinaryQuadratic.Backend.SharedDevice
import BinaryQuadratic.Solver.Call
import BinaryQuadratic.Proofs.Format.Precision
import BinaryQuadratic.Proofs.Agreement
import BinaryQuadratic.Proofs.PackedEnergy
import BinaryQuadratic.Proofs.Schedule
import BinaryQuadratic.Proofs.Tiling
import BinaryQuadratic.Proofs.Optimum
import BinaryQuadratic.Proofs.Repetition
import BinaryQuadratic.Proofs.Device.Kernel
import BinaryQuadratic.Proofs.Device.Machine
import BinaryQuadratic.Proofs.Device.Worker
import BinaryQuadratic.Proofs.Device.Scan
import BinaryQuadratic.Proofs.Device.Command
import BinaryQuadratic.Proofs.Device.Books
import BinaryQuadratic.Proofs.Device.Accounting
import BinaryQuadratic.Proofs.Device.Faulty
import BinaryQuadratic.Proofs.Device.FaultyWorker
import BinaryQuadratic.Proofs.Device.FaultyScan
import BinaryQuadratic.Proofs.Backend.Threads
import BinaryQuadratic.Proofs.Backend.SharedDevice
import BinaryQuadratic.Proofs.Backend.DeviceLedger
import BinaryQuadratic.Proofs.Backend.Capacity
import BinaryQuadratic.Proofs.Device.Workshop
import BinaryQuadratic.Proofs.Backend.FaultyDevice
import BinaryQuadratic.Proofs.Solver.Invariant
import BinaryQuadratic.Proofs.Solver.Prepare
import BinaryQuadratic.Proofs.Solver.Scan
import BinaryQuadratic.Proofs.Solver.Results
import BinaryQuadratic.Proofs.Solver.Call
import BinaryQuadratic.Proofs.Solver.Resilience
import BinaryQuadratic.Proofs.Solver.Rounds
import BinaryQuadratic.Proofs.Lifecycle
import BinaryQuadratic.Proofs.Optimality.Processor
import BinaryQuadratic.Proofs.Optimality.Device
import BinaryQuadratic.Proofs.Optimality.FaultyDevice
import BinaryQuadratic.Proofs.Energies
import BinaryQuadratic.Proofs.Parity
import BinaryQuadratic.Proofs.Progress
import BinaryQuadratic.Proofs.Recovery
import BinaryQuadratic.Proofs.Opposite
import BinaryQuadratic.Proofs.Solver.Staffed
import BinaryQuadratic.Proofs.Readiness
import BinaryQuadratic.Proofs.Device.History
import BinaryQuadratic.Proofs.Ownership
import BinaryQuadratic.Proofs.Capacity
import BinaryQuadratic.Proofs.Batching
import BinaryQuadratic.Proofs.Merging
import BinaryQuadratic.Proofs.Coverage
import BinaryQuadratic.Proofs.Device.Register
import BinaryQuadratic.Proofs.Device.Immediate
import BinaryQuadratic.Proofs.Codec
import BinaryQuadratic.Proofs.Posing
import BinaryQuadratic.Proofs.Preference
import BinaryQuadratic.Proofs.Settings
import BinaryQuadratic.Proofs.Headroom
