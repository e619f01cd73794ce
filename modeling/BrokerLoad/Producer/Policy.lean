import BrokerLoad.Engine.Query
import BrokerLoad.Envelope

/-!
# What producers are told to do

The options of a producer, its counts, what it makes known about a message, and the
rule by which it deals with a receipt.
-/

namespace BrokerLoad

/-- What is to happen with a message whose receipt has come. -/
inductive Disposition where
  | ok
  /-- It is sent again after a pause. -/
  | throttled
  /-- It is sent again. -/
  | failed
  /-- It has been sent often enough; the producer gives up. -/
  | attemptsExceeded
  deriving DecidableEq

namespace Disposition

/-- The rule: an accepted message is done however often it was sent, a refused one is
sent again until it has been sent `maxAttempts` times. -/
def ofStatus (status : WriteStatus) (attempts maxAttempts : UInt32) : Disposition :=
  if status = .ok then .ok
  else if maxAttempts ≤ attempts then .attemptsExceeded
  else if status = .throttled then .throttled
  else .failed

/-- The number that stands for a disposition. -/
def code : Disposition → Nat
  | .ok => 0
  | .throttled => 1
  | .failed => 2
  | .attemptsExceeded => 3

/-- The disposition of a code, if it has one. -/
def ofCode? : Nat → Option Disposition
  | 0 => some .ok
  | 1 => some .throttled
  | 2 => some .failed
  | 3 => some .attemptsExceeded
  | _ => none

/-- How a disposition is worded. -/
def text : Disposition → String
  | .ok => "ok"
  | .throttled => "throttled"
  | .failed => "failed"
  | .attemptsExceeded => "attempts exceeded"

/-- How the disposition of a code is worded. -/
def textOfCode (code : Nat) : String :=
  ((ofCode? code).map text).getD "unknown"

end Disposition

namespace Producer

/-- What a producer does about messages in flight when it is asked to stop. -/
inductive StopPolicy where
  /-- It leaves them to the broker. -/
  | abandon
  /-- It sends nothing more, but waits for their receipts. -/
  | drain
  deriving DecidableEq

/-- The options of a producer. -/
structure Options where
  /-- Where it writes to. -/
  destination : String
  messages : UInt64 := 0
  /-- How many bytes of payload a message has. -/
  messageSize : Nat := 1024
  /-- How many messages may be in flight at once; at least one always may. -/
  maxInFlight : UInt64 := 4096
  /-- How often a message is sent before the producer gives up; once it always is. -/
  maxAttempts : UInt32 := 16
  /-- What it does about messages in flight when it is asked to stop. -/
  stopPolicy : StopPolicy := .abandon
  /-- The payload: the byte at each position, for each id and attempt. -/
  filler : UInt64 → UInt32 → Nat → UInt8 := fun _ _ _ => 0

namespace Options

/-- The most messages that may be in flight. -/
def window (options : Options) : Nat := max 1 options.maxInFlight.toNat

/-- The wire form of a message for one attempt at sending it. -/
def message (options : Options) (id : UInt64) (attempt : UInt32) : Bytes :=
  Envelope.encode ⟨id, (List.range options.messageSize).map (options.filler id attempt)⟩

end Options

/-- What a producer counts for itself. -/
structure Counts where
  /-- Messages handed to the broker, repeats included. -/
  submitted : UInt64 := 0
  /-- Of those, the repeats. -/
  retried : UInt64 := 0
  /-- Messages accepted. -/
  completed : UInt64 := 0
  /-- The most messages there have been in flight at once. -/
  peakInFlight : UInt64 := 0
  deriving DecidableEq

/-- One more message accepted. -/
def Counts.complete (counts : Counts) : Counts :=
  { counts with completed := counts.completed + 1 }

/-- What the shared counters learn about a message handed to the broker. -/
def announce (data : Bytes) : List Emission :=
  [.bump .messagesOut 1, .bump .bytesOut data.length.toUInt64]

/-- The report of a producer that gives up. -/
def givingUp (name : String) (id : UInt64) (status : WriteStatus) (attempts : UInt32) : LogLine :=
  .err (name ++ ": max attempts exceeded at sending message " ++ toString id.toNat ++
    " (" ++ status.text ++ " after " ++ toString attempts.toNat ++ " attempts)")

end Producer
end BrokerLoad
