/-!
# One-shot signals

A latch is set once and stays set: whoever waits for it, then or later, sees it.
Until it has been created it can be neither set nor waited for.
-/

namespace BrokerLoad

/-- A one-shot signal. -/
structure Latch where
  /-- Whether it has been created. -/
  valid : Bool := false
  isSet : Bool := false
  deriving DecidableEq

namespace Latch

/-- Creates the signal.  Creating it again does not unset it. -/
def create (latch : Latch) : Latch := { latch with valid := true }

/-- A signal ready for use. -/
def ready : Latch := create {}

/-- Sets the signal, and tells whether it is set. -/
def notify (latch : Latch) : Bool × Latch :=
  if latch.valid then (true, { latch with isSet := true }) else (false, latch)

/-- What a wait says when it ends, provided nobody sets the signal meanwhile. -/
def wait (latch : Latch) : Bool := latch.valid && latch.isSet

/-- Setting a valid latch sets it. -/
theorem isSet_notify {latch : Latch} (h : latch.valid) : latch.notify.2.isSet = true := by
  simp [notify, h]

end Latch
end BrokerLoad
