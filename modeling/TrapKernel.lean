import TrapKernel.Kernel.Shell
import TrapKernel.Main
import TrapKernel.Proofs.Memory.Ledger
import TrapKernel.Proofs.Device.Transfers
import TrapKernel.Proofs.Device.Order
import TrapKernel.Proofs.Device.Agreement
import TrapKernel.Proofs.Kernel.Trap
import TrapKernel.Proofs.Process.Verify
import TrapKernel.Proofs.Process.Safe
import TrapKernel.Proofs.Kernel.Scheduling
import TrapKernel.Proofs.Memory.Holds
import TrapKernel.Proofs.Process.Records
import TrapKernel.Proofs.Kernel.Ownership
import TrapKernel.Proofs.Kernel.Shutdown
import TrapKernel.Proofs.Kernel.Lifetime
import TrapKernel.Proofs.Serial.Registers
import TrapKernel.Proofs.Serial.Ring
import TrapKernel.Proofs.Serial.Fifo
import TrapKernel.Proofs.Serial.Receive
import TrapKernel.Proofs.Serial.Stream
import TrapKernel.Proofs.Process.Handles
import TrapKernel.Proofs.Process.Waiting
import TrapKernel.Proofs.Device.Ending
import TrapKernel.Proofs.Kernel.Attended
import TrapKernel.Proofs.Kernel.Asking
import TrapKernel.Proofs.Kernel.Watch
import TrapKernel.Proofs.Kernel.Halves
import TrapKernel.Proofs.Kernel.Events
import TrapKernel.Proofs.Kernel.Single
import TrapKernel.Proofs.Kernel.Diary
import TrapKernel.Proofs.Process.Window
import TrapKernel.Proofs.Kernel.Rounds
import TrapKernel.Proofs.Serial.Transmit
import TrapKernel.Proofs.Device.Outbox
import TrapKernel.Proofs.Memory.FirstFit
import TrapKernel.Proofs.Memory.Room
import TrapKernel.Proofs.Memory.Gaps
import TrapKernel.Proofs.Memory.Orderless
import TrapKernel.Proofs.Kernel.Policy
import TrapKernel.Proofs.Process.Lifespan
import TrapKernel.Proofs.Process.RollOrder
import TrapKernel.Proofs.Process.Refinement
import TrapKernel.Proofs.Process.Axes
import TrapKernel.Proofs.Process.Pouring
import TrapKernel.Proofs.Process.Resuming
import TrapKernel.Proofs.Process.InPlace
import TrapKernel.Proofs.Process.Atomic
import TrapKernel.Proofs.Process.Views
import TrapKernel.Proofs.Kernel.Reached
import TrapKernel.Proofs.Kernel.Views
import TrapKernel.Proofs.Kernel.Vigil
import TrapKernel.Proofs.Serial.Writing
import TrapKernel.Proofs.Simulation.Rounds
import TrapKernel.Proofs.Process.Stacks
import TrapKernel.Proofs.Kernel.Lasting
import TrapKernel.Proofs.Serial.Bracket
import TrapKernel.Proofs.Device.Supplied
import TrapKernel.Proofs.Kernel.Checked
import TrapKernel.Proofs.Process.Stored
import TrapKernel.Proofs.Simulation.Grammar
import TrapKernel.Proofs.Kernel.Pace
import TrapKernel.Proofs.Memory.Careful
