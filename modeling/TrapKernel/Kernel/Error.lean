import TrapKernel.Process.Error
import TrapKernel.Request
import TrapKernel.Text.Quoted
import TrapKernel.Text.Record

/-!
# Kernel errors

A fatal condition halts the kernel for good. All other errors are reported by the operation that
met them: booting, a system call, shutting down, or reading a configuration.
-/

namespace TrapKernel

/-- Why the kernel was halted. -/
inductive Fatal where
  /-- A process trapped without a request that the kernel can act on. The code is that of the
  request, if there was one. -/
  | invalidRequest (code : Option UInt32)
  | emptyReadyQueue
  deriving DecidableEq, Repr

namespace Fatal

/-- The sentence that reports a fatal condition. -/
def message : Fatal → String
  | invalidRequest code =>
    "trap without a valid request code (got " ++ Text.option (code.map fun c => toString c.toNat)
      ++ ")"
  | emptyReadyQueue => "no process is ready to run"

end Fatal

/-- Why an operation of the kernel failed. -/
inductive KernelError where
  | memory (cause : MemoryError)
  /-- Blocks of the heap are in use at a moment at which none may be. -/
  | heapNotEmpty (moment : String)
  | openFailed (cause : OpenError)
  | closeFailed (cause : CloseError)
  | registry (cause : RegistryError)
  | halted (cause : Fatal)
  | rejected (cause : RequestError)
  | configUnreadable (path reason : String)
  | configInvalid (reason : String)
  deriving DecidableEq, Repr

namespace KernelError

/-- An error of the driver together with its code. -/
def withCode (what : String) (code : Int) (message : String) : String :=
  s!"{what} ({code}): {message}"

/-- The sentence that reports an error. -/
def message : KernelError → String
  | memory cause => "memory error: " ++ cause.message
  | heapNotEmpty moment => "heap holds allocated blocks " ++ moment
  | openFailed cause => withCode "serial port open failed" cause.code cause.message
  | closeFailed cause => withCode "serial port close failed" cause.code cause.message
  | registry cause => "process registry: " ++ cause.message
  | halted cause => "kernel halted: " ++ cause.message
  | rejected cause => withCode "system request rejected" cause.code cause.message
  | configUnreadable path reason =>
    "failed to read config " ++ Text.quoted path ++ ": " ++ reason
  | configInvalid reason => "invalid config: " ++ reason

end KernelError

end TrapKernel
