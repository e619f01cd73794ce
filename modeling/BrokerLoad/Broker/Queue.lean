import BrokerLoad.Client.Call
import BrokerLoad.Fifo

/-!
# The queue of a consumer group

A consumer group keeps its messages in a queue of its own.  A message in it is
either *ready*, waiting for a reader, or *unacked*, delivered under a token and not
yet settled.  A reader that finds nothing ready may *park* a read, which the next
message goes to, ahead of all later readers.

Three things put a message into the queue: a write, a negative acknowledgement, which
sends the message round again until it has been delivered often enough, and every
so-manieth acknowledgement, by which the queue tries its consumers with a
duplicate.  Whichever it is, the message goes by `push`: to the longest parked
read, if there is one, else to the back of the ready messages.  A message leaves
for a reader by `deliver` alone.

A queue that has been shut down hands out nothing and takes nothing in, but what is
outstanding can still be settled.

A queue never looks at what its messages carry, so what they carry is a parameter:
bytes in a broker, and anything that tells messages apart in an argument about one.
-/

namespace BrokerLoad

/-- A message in a queue. -/
structure Message (δ : Type) where
  /-- What it carries. -/
  data : δ
  deliveries : UInt32 := 0
  deriving DecidableEq

/-- A parked read. -/
structure Parked where
  reader : UInt64
  ticket : Ticket
  deriving DecidableEq

/-- A message as it leaves a queue. -/
structure Handover (δ : Type) where
  token : UInt64
  /-- What it carries. -/
  payload : δ
  deriving DecidableEq

/-- The queue of a consumer group. -/
structure Queue (δ : Type) where
  /-- How often a message is delivered before it is given up; not 0. -/
  maxDeliveries : UInt32
  /-- The number of acknowledgements from one duplicate to the next; 0 for no duplicates. -/
  redeliverEvery : UInt32
  /-- The messages that wait for a reader, first one first. -/
  ready : Fifo (Message δ) := .empty
  /-- The reads that wait for a message, first one first. -/
  parked : List Parked := []
  /-- The messages delivered and not settled, by token. -/
  unacked : List (UInt64 × Message δ) := []
  nextToken : UInt64 := 1
  /-- How many deliveries have been acknowledged. -/
  acks : UInt64 := 0
  /-- Whether it has been shut down. -/
  closed : Bool := false
  deriving DecidableEq

namespace Queue

variable {δ : Type}

/-- A queue for a group that may ask for no deliveries at all, and gets one. -/
def create (maxDeliveries redeliverEvery : UInt32) : Queue δ where
  maxDeliveries := if maxDeliveries = 0 then 1 else maxDeliveries
  redeliverEvery := redeliverEvery

/-- How many messages are ready or unacked. -/
def backlog (q : Queue δ) : Nat := q.ready.size + q.unacked.length

/-- The unacked message of a token. -/
def find? (q : Queue δ) (token : UInt64) : Option (Message δ) := q.unacked.lookup token

/-- The queue without the unacked message of a token. -/
def settle (q : Queue δ) (token : UInt64) : Queue δ :=
  { q with unacked := q.unacked.filter fun entry => entry.1 ≠ token }

/-- Hands a message over: it becomes unacked under the next token.  A token that is
still in use keeps the message it has. -/
def deliver (q : Queue δ) (message : Message δ) : Handover δ × Queue δ :=
  let message := { message with deliveries := message.deliveries + 1 }
  (⟨q.nextToken, message.data⟩,
    { q with
      nextToken := q.nextToken + 1
      unacked :=
        if (q.find? q.nextToken).isSome then q.unacked
        else q.unacked ++ [(q.nextToken, message)] })

/-- Puts a message in.  The answer is the ticket of the parked read that it went to, if
it did, with the handover. -/
def push (q : Queue δ) (message : Message δ) : Option (Ticket × Handover δ) × Queue δ :=
  if q.closed then
    (none, q)
  else
    match q.parked with
    | read :: parked =>
      let (handover, q) := { q with parked }.deliver message
      (some (read.ticket, handover), q)
    | [] => (none, { q with ready := q.ready.push message })

/-- Takes the first ready message, if there is one. -/
def read (q : Queue δ) : Option (Handover δ) × Queue δ :=
  if q.closed then
    (none, q)
  else
    match q.ready.pop? with
    | some (message, ready) =>
      let (handover, q) := { q with ready }.deliver message
      (some handover, q)
    | none => (none, q)

/-- What becomes of a read that does not wait. -/
inductive Requested (δ : Type) where
  /-- It is answered at once, by a message or, if the queue is closed, by none. -/
  | answered (handover : Option (Handover δ))
  | parked
  deriving DecidableEq

/-- Takes the first ready message, or parks the read. -/
def request (q : Queue δ) (reader : UInt64) (ticket : Ticket) : Requested δ × Queue δ :=
  if q.closed then
    (.answered none, q)
  else
    match q.ready.pop? with
    | some (message, ready) =>
      let (handover, q) := { q with ready }.deliver message
      (.answered (some handover), q)
    | none => (.parked, { q with parked := q.parked ++ [⟨reader, ticket⟩] })

/-- What becomes of a message that is being settled. -/
inductive Settlement (δ : Type) where
  | done
  /-- It goes round again, perhaps straight to a parked read. -/
  | redelivered (served : Option (Ticket × Handover δ))
  /-- It is given up. -/
  | deadLettered
  deriving DecidableEq

/-- Whether the acknowledgement of a number brings a duplicate. -/
def duplicates (q : Queue δ) (number : UInt64) : Bool :=
  q.redeliverEvery ≠ 0 && number % q.redeliverEvery.toUInt64 = 0

/-- Settles a delivery that was dealt with, if its token is outstanding. -/
def ack (q : Queue δ) (token : UInt64) : Option (Settlement δ × Queue δ) :=
  (q.find? token).map fun message =>
    let q := { q.settle token with acks := q.acks + 1 }
    if !q.closed && q.duplicates q.acks then
      let (served, q) := q.push message
      (.redelivered served, q)
    else
      (.done, q)

/-- Settles a delivery that should come again, if its token is outstanding. -/
def nack (q : Queue δ) (token : UInt64) : Option (Settlement δ × Queue δ) :=
  (q.find? token).map fun message =>
    let q := q.settle token
    if q.closed then
      (.done, q)
    else if q.maxDeliveries ≤ message.deliveries then
      (.deadLettered, q)
    else
      let (served, q) := q.push message
      (.redelivered served, q)

/-- Drops the parked reads of a reader.  The answer is their tickets. -/
def drop (q : Queue δ) (reader : UInt64) : List Ticket × Queue δ :=
  ((q.parked.filter fun read => read.reader = reader).map Parked.ticket,
    { q with parked := q.parked.filter fun read => read.reader ≠ reader })

/-- Shuts the queue down: what was ready is discarded, what was parked resolves to
nothing.  The answer is the tickets of the latter. -/
def shutDown (q : Queue δ) : List Ticket × Queue δ :=
  (q.parked.map Parked.ticket, { q with closed := true, parked := [], ready := .empty })

end Queue
end BrokerLoad
