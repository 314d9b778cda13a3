/-!
# Event flags

A flag that a driver raises when a transfer ends and that a scheduler polls. It counts how often
it was raised.
-/

namespace TrapKernel

/-- A completion flag. -/
structure EventFlag where
  isSet : Bool
  timesRaised : Nat
  deriving DecidableEq, Repr

namespace EventFlag

/-- A flag that was never raised. -/
def lowered : EventFlag := ⟨false, 0⟩

instance : Inhabited EventFlag := ⟨lowered⟩

/-- Raise the flag. Raising it twice counts twice. -/
def raise (e : EventFlag) : EventFlag := ⟨true, e.timesRaised + 1⟩

/-- Lower the flag. -/
def clear (e : EventFlag) : EventFlag := { e with isSet := false }

end EventFlag

end TrapKernel
