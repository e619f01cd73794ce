/-!
# How broker calls turn out

Administrative calls answer with an `AdminOutcome`, writes with a `Receipt`.  A
client may report codes that have no name here; they are kept as they are and
behave like failures.  Apart from that, any call may end in a `Fault`: an error
that can say what it is, or one that cannot.
-/

namespace BrokerLoad

/-- Why a call ended without an answer. -/
inductive Fault where
  | error (what : String)
  /-- Something that is not an error at all, and has no text. -/
  | foreign
  deriving DecidableEq

/-- The fault of asking for an answer that nobody is going to give any more. -/
def Fault.brokenPromise : Fault := .error "std::future_error: Broken promise"

/-- The answer to an administrative call. -/
inductive AdminOutcome where
  /-- Done. -/
  | success
  /-- There is one of that name already. -/
  | alreadyExists
  /-- There is none of that name. -/
  | notFound
  | closed
  /-- The broker could not do it. -/
  | failed
  /-- A code without a name. -/
  | other (code : Int)
  deriving DecidableEq

namespace AdminOutcome

/-- The outcome of a code. -/
def ofCode : Int → AdminOutcome
  | 0 => .success
  | 1 => .alreadyExists
  | 2 => .notFound
  | 3 => .closed
  | 4 => .failed
  | code => .other code

/-- How an outcome is worded. -/
def text : AdminOutcome → String
  | .success => "Success"
  | .alreadyExists => "Already exists"
  | .notFound => "Not found"
  | .closed => "Client closed"
  | .failed => "Broker error"
  | .other _ => "Unknown error"

end AdminOutcome

/-- What the broker says about a write. -/
inductive WriteStatus where
  | ok
  /-- Refused for now: slow down and try again. -/
  | throttled
  /-- Refused for any other reason. -/
  | failed
  /-- A code without a name. -/
  | other (code : UInt8)
  deriving DecidableEq

namespace WriteStatus

/-- The status of a code. -/
def ofCode : UInt8 → WriteStatus
  | 0 => .ok
  | 1 => .throttled
  | 2 => .failed
  | code => .other code

/-- How a status is worded. -/
def text : WriteStatus → String
  | .ok => "OK"
  | .throttled => "ERR_THROTTLED"
  | .failed => "ERR_FAILED"
  | .other _ => "UNKNOWN"

end WriteStatus

/-- The broker's receipt for a write. -/
structure Receipt where
  /-- What it says. -/
  status : WriteStatus
  /-- Why, in words, unless it was accepted. -/
  detail : String := ""
  deriving DecidableEq

end BrokerLoad
