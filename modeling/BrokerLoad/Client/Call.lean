import BrokerLoad.Client.Outcome
import BrokerLoad.Envelope.BigEndian

/-!
# The interface of a broker client

Everything that can be asked of a broker is one inductive type, `Call`, and
`Call.Reply` says what the answer to each call looks like.  A broker is then a
state with one function, `Client.serve`.  Three things follow.

* A *history* of a broker is a list of calls, whoever made them.
* An engine that is waiting for a broker is a call together with what it does with
  each possible answer, so that the same engine runs against any broker and, in a
  proof, against all of them.
* A broker that plays tricks, such as one that follows a script, differs from an
  honest one in its `serve` and in nothing else.

## Handles and tickets

A client hands out *handles* to publishers and consumers, and *tickets* for answers
that will come later.  Both are numbers that mean something to the client only.
-/

namespace BrokerLoad

/-- A publisher or a consumer that a client has handed out. -/
abbrev Handle : Type := Nat

/-- An answer that is still to come. -/
abbrev Ticket : Type := Nat

/-- The largest number of deliveries a group keeps at hand unless told otherwise. -/
def defaultPrefetch : UInt64 := 4096

/-- What a handle is for. -/
inductive Role where
  /-- Writing to a destination. -/
  | publisher (destination : String)
  /-- Reading from a consumer group of a destination. -/
  | consumer (destination group : String) (prefetch : UInt64)
  deriving DecidableEq

/-- How a destination checks its messages. -/
inductive Checksum where
  /-- Not at all. -/
  | absent
  /-- By a cyclic redundancy check. -/
  | crc32
  | md5
  deriving DecidableEq

/-- The number that stands for a kind of checksum. -/
def Checksum.code : Checksum → Nat
  | .absent => 0
  | .crc32 => 1
  | .md5 => 2

/-- A destination to be created. -/
structure DestinationSpec where
  path : String
  /-- How long a message is kept that nobody has consumed. -/
  unconsumedRetentionSeconds : UInt32 := 7200
  /-- How long a message is kept after it was consumed. -/
  consumedRetentionSeconds : UInt32 := 3600
  /-- Whom to write to about it. -/
  owner : String := ""
  checksum : Checksum := .crc32
  deriving DecidableEq

/-- A consumer group to be created. -/
structure GroupSpec where
  destination : String
  name : String
  /-- Whom to write to about it. -/
  owner : String := ""
  /-- How often a message is delivered before it is given up. -/
  maxDeliveries : UInt32 := 3
  /-- How old a message may be when it is first delivered. -/
  skipOlderSeconds : UInt32 := 3600
  /-- How long a delivery is reserved for its reader. -/
  lockTimeoutSeconds : UInt32 := 60
  deriving DecidableEq

/-- A message as it arrives at a reader. -/
structure Delivery where
  /-- The bytes of the message. -/
  payload : Bytes
  queue : Nat
  /-- What the queue knows it by until it is settled. -/
  token : UInt64
  deriving DecidableEq

/-- What can be asked of a broker client. -/
inductive Call where
  | createDestination (destination : DestinationSpec)
  | createGroup (group : GroupSpec)
  | deleteGroup (destination name : String)
  | deleteDestination (path : String)
  /-- Close the client. -/
  | shutDown
  /-- Hand out a publisher or a consumer. -/
  | create (role : Role)
  | openHandle (handle : Handle)
  | lastError (handle : Handle)
  | closeHandle (handle : Handle)
  /-- Give a handle back for good. -/
  | release (handle : Handle)
  | submit (handle : Handle) (data : Bytes)
  /-- Whether the receipt of a submission is there. -/
  | receiptReady (ticket : Ticket)
  | takeReceipt (ticket : Ticket)
  | write (handle : Handle) (data : Bytes)
  /-- Ask for the next delivery without waiting. -/
  | request (handle : Handle)
  /-- Whether a requested delivery is there. -/
  | deliveryReady (ticket : Ticket)
  | takeDelivery (ticket : Ticket)
  /-- Wait a while for the next delivery. -/
  | read (handle : Handle)
  /-- Tell the broker that a delivery was dealt with. -/
  | ack (delivery : Delivery)
  /-- Tell the broker that a delivery should come again. -/
  | nack (delivery : Delivery)
  deriving DecidableEq

namespace Call

/-- What the answer to each call looks like.  A missing ticket says that the client
could not take the call on, a missing delivery that there was none. -/
@[reducible] def Reply : Call → Type
  | .createDestination _ => AdminOutcome
  | .createGroup _ => AdminOutcome
  | .deleteGroup _ _ => AdminOutcome
  | .deleteDestination _ => AdminOutcome
  | .shutDown => Unit
  | .create _ => Except Fault (Option Handle)
  | .openHandle _ => Except Fault Bool
  | .lastError _ => String
  | .closeHandle _ => Except Fault Unit
  | .release _ => Unit
  | .submit _ _ => Except Fault (Option Ticket)
  | .receiptReady _ => Bool
  | .takeReceipt _ => Except Fault Receipt
  | .write _ _ => Except Fault Receipt
  | .request _ => Except Fault (Option Ticket)
  | .deliveryReady _ => Bool
  | .takeDelivery _ => Except Fault (Option Delivery)
  | .read _ => Except Fault (Option Delivery)
  | .ack _ => Except Fault Bool
  | .nack _ => Except Fault Bool

end Call

/-- A stop request that arrives while a call is being served. -/
inductive Interruption where
  /-- From the calling thread itself, which cannot wait for itself to stop. -/
  | inside
  /-- From another thread, which waits. -/
  | outside
  deriving DecidableEq

/-- A served call. -/
structure Served (β ρ : Type) where
  /-- The answer. -/
  reply : ρ
  client : β
  /-- The stop requests that came up meanwhile, in order. -/
  stops : List Interruption := []

/-- A broker client: a state that serves calls. -/
class Client (β : Type) where
  serve : (call : Call) → β → Served β call.Reply

end BrokerLoad
