import BrokerLoad.Client.Outcome

/-!
# Why a work loop ended
-/

namespace BrokerLoad

/-- Why a work loop ended. -/
inductive Ending where
  /-- It has not: it is still running, or never ran. -/
  | unset
  /-- Everything it was to send has been accepted. -/
  | completed
  | stopRequested
  /-- A message was refused as often as it may be. -/
  | attemptsExceeded
  /-- Something went wrong. -/
  | unexpectedError
  /-- A code without a name. -/
  | other (code : UInt8)
  deriving DecidableEq

namespace Ending

/-- The ending of a code. -/
def ofCode : UInt8 → Ending
  | 0 => .unset
  | 1 => .completed
  | 2 => .stopRequested
  | 3 => .attemptsExceeded
  | 4 => .unexpectedError
  | code => .other code

/-- How an ending is worded. -/
def text : Ending → String
  | .unset => "none"
  | .completed => "completed"
  | .stopRequested => "stop requested"
  | .attemptsExceeded => "max attempts exceeded"
  | .unexpectedError => "unexpected error"
  | .other _ => "unknown"

end Ending

/-- How a work loop came to its end: with an ending of its own, or through a fault that
nothing inside it caught. -/
abbrev Outcome : Type := Except Fault Ending

end BrokerLoad
