import BrokerLoad.Broker.Queue

/-!
# A broker in memory

A hub has destinations, and each destination has consumer groups; a write to a
destination goes to the queue of each of its groups.  The hub also remembers all the
handles and tickets it has handed out.

## What a name means

Queues are numbered in the order of their creation and never forgotten; the
*topology* says which of them can be reached by a name.  Deleting a group takes its
queue out of the topology and shuts it down, and a group created later under the
same name has another queue.  A consumer that was opened before keeps the queue it
found.

## When a delivery can be settled

A delivery knows its queue only as long as somebody else still holds it: the
topology does, as long as the hub itself is held by anyone, and so does every open
consumer.  `Hub.holds` says whether a queue is held.

## Throttling

Writes are counted when they are *admitted*: the hub is open and the destination
exists.  Of the admitted writes every so-manieth is refused with a request to slow
down.
-/

namespace BrokerLoad

/-- What a hub counts. -/
structure HubCounts where
  accepted : UInt64 := 0
  /-- Writes refused with a request to slow down. -/
  throttled : UInt64 := 0
  /-- Writes that were not admitted. -/
  rejected : UInt64 := 0
  deliveries : UInt64 := 0
  /-- Deliveries acknowledged. -/
  acks : UInt64 := 0
  /-- Deliveries refused by their reader. -/
  nacks : UInt64 := 0
  /-- Messages sent round again. -/
  redeliveries : UInt64 := 0
  /-- Messages given up. -/
  deadLettered : UInt64 := 0
  deriving DecidableEq

/-- A handle that a hub has handed out. -/
inductive HandleState where
  | publisher (path : String) (isOpen : Bool) (lastError : String)
  /-- A consumer, and the number of the queue it holds while it is open. -/
  | consumer (path group : String) (reader : UInt64) (queue : Option Nat) (lastError : String)
  /-- Given back. -/
  | released
  deriving DecidableEq

/-- What has become of a requested delivery. -/
inductive Awaited where
  /-- Nothing so far. -/
  | pending
  /-- It is there. -/
  | arrived (delivery : Delivery)
  /-- There is none. -/
  | nothing
  /-- Its reader has closed. -/
  | broken
  deriving DecidableEq

/-- A broker in memory. -/
structure Hub where
  /-- The number of admitted writes from one refusal to the next; 0 for no refusals. -/
  throttleEvery : UInt32 := 0
  /-- What its queues are created with. -/
  redeliverEvery : UInt32 := 0
  counts : HubCounts := {}
  queues : Array (Queue Bytes) := #[]
  /-- The destinations, and the queue number of each of their groups. -/
  topology : List (String × List (String × Nat)) := []
  writes : UInt64 := 0
  nextReader : UInt64 := 1
  closed : Bool := false
  owned : Bool := true
  handles : Array HandleState := #[]
  receipts : Array Receipt := #[]
  /-- The requested deliveries, by ticket. -/
  awaited : Array Awaited := #[]
  deriving DecidableEq

namespace Hub

/-! ## The topology -/

/-- The groups of a destination. -/
def groups? (hub : Hub) (path : String) : Option (List (String × Nat)) :=
  hub.topology.lookup path

/-- Whether there is a destination of a path, in a hub that is open. -/
def hasDestination (hub : Hub) (path : String) : Bool :=
  !hub.closed && (hub.groups? path).isSome

/-- The number of the queue that a name stands for, in a hub that is open. -/
def queueNumber? (hub : Hub) (path group : String) : Option Nat :=
  if hub.closed then none
  else (hub.groups? path).bind fun groups => groups.lookup group

/-- Changes the groups of a destination. -/
def withGroups (hub : Hub) (path : String)
    (f : List (String × Nat) → List (String × Nat)) : Hub :=
  { hub with
    topology := hub.topology.map fun entry =>
      if entry.1 = path then (entry.1, f entry.2) else entry }

/-- The numbers of all queues that can be reached by a name. -/
def reachable (hub : Hub) : List Nat :=
  hub.topology.flatMap fun entry => entry.2.map Prod.snd

/-! ## Holding -/

/-- Whether a handle has not been given back. -/
def isHeldHandle : HandleState → Bool
  | .released => false
  | _ => true

/-- Whether a handle holds a queue. -/
def handleHolds (number : Nat) : HandleState → Bool
  | .consumer _ _ _ queue _ => queue = some number
  | _ => false

/-- Whether anyone holds the hub: its owner, or a handle. -/
def isHeld (hub : Hub) : Bool := hub.owned || hub.handles.any isHeldHandle

/-- Whether anyone holds a queue: a hub that is held, by its topology, or a consumer. -/
def holds (hub : Hub) (number : Nat) : Bool :=
  (hub.isHeld && hub.reachable.contains number) || hub.handles.any (handleHolds number)

/-! ## Queues and tickets -/

/-- Puts a queue in the place of the one of its number. -/
def putQueue (hub : Hub) (number : Nat) (queue : Queue Bytes) : Hub :=
  { hub with queues := hub.queues.setIfInBounds number queue }

/-- Resolves a ticket. -/
def resolve (hub : Hub) (answer : Awaited) (ticket : Ticket) : Hub :=
  { hub with awaited := hub.awaited.setIfInBounds ticket answer }

/-- Resolves several tickets alike. -/
def resolveAll (hub : Hub) (answer : Awaited) (tickets : List Ticket) : Hub :=
  tickets.foldl (fun hub ticket => hub.resolve answer ticket) hub

/-- A handover as a delivery. -/
def delivery (number : Nat) (handover : Handover Bytes) : Delivery :=
  { payload := handover.payload, queue := number, token := handover.token }

/-- Counts a delivery. -/
def countDelivery (hub : Hub) : Hub :=
  { hub with counts := { hub.counts with deliveries := hub.counts.deliveries + 1 } }

/-- Counts the delivery of a message that went to a parked read, if it did, and answers
that read. -/
def serveParked (hub : Hub) (number : Nat) : Option (Ticket × Handover Bytes) → Hub
  | none => hub
  | some (ticket, handover) =>
    hub.countDelivery.resolve (.arrived (delivery number handover)) ticket

/-- Puts a message into a queue. -/
def pushTo (hub : Hub) (data : Bytes) (number : Nat) : Hub :=
  match hub.queues[number]? with
  | none => hub
  | some queue =>
    let (served, queue) := queue.push { data }
    (hub.putQueue number queue).serveParked number served

/-- Shuts a queue down. -/
def shutQueue (hub : Hub) (number : Nat) : Hub :=
  match hub.queues[number]? with
  | none => hub
  | some queue =>
    let (tickets, queue) := queue.shutDown
    (hub.putQueue number queue).resolveAll .nothing tickets

/-- Shuts several queues down. -/
def shutQueues (hub : Hub) (numbers : List Nat) : Hub :=
  numbers.foldl shutQueue hub

/-! ## Administration -/

/-- Creates a destination. -/
def createDestination (hub : Hub) (destination : DestinationSpec) : AdminOutcome × Hub :=
  if hub.closed then (.closed, hub)
  else if destination.path = "" then (.failed, hub)
  else if (hub.groups? destination.path).isSome then (.alreadyExists, hub)
  else (.success, { hub with topology := hub.topology ++ [(destination.path, [])] })

/-- Creates a consumer group and its queue. -/
def createGroup (hub : Hub) (group : GroupSpec) : AdminOutcome × Hub :=
  if hub.closed then (.closed, hub)
  else if group.name = "" then (.failed, hub)
  else
    match hub.groups? group.destination with
    | none => (.notFound, hub)
    | some groups =>
      if (groups.lookup group.name).isSome then
        (.alreadyExists, hub)
      else
        let number := hub.queues.size
        let queue := Queue.create group.maxDeliveries hub.redeliverEvery
        (.success,
          { hub with queues := hub.queues.push queue }.withGroups group.destination
            (· ++ [(group.name, number)]))

/-- Deletes a consumer group and shuts its queue down. -/
def deleteGroup (hub : Hub) (path name : String) : AdminOutcome × Hub :=
  if hub.closed then (.closed, hub)
  else
    match hub.queueNumber? path name with
    | none => (.notFound, hub)
    | some number =>
      (.success,
        (hub.withGroups path fun groups => groups.filter fun entry => entry.1 ≠ name).shutQueue
          number)

/-- Deletes a destination and shuts the queues of its groups down. -/
def deleteDestination (hub : Hub) (path : String) : AdminOutcome × Hub :=
  if hub.closed then (.closed, hub)
  else
    match hub.groups? path with
    | none => (.notFound, hub)
    | some groups =>
      (.success,
        { hub with topology := hub.topology.filter fun entry => entry.1 ≠ path }.shutQueues
          (groups.map Prod.snd))

/-- Closes the hub and shuts the queues in its topology down, once. -/
def close (hub : Hub) : Hub :=
  if hub.closed then hub
  else { hub with closed := true }.shutQueues hub.reachable

/-- The owner closes the hub and lets go of it. -/
def disown (hub : Hub) : Hub := { hub.close with owned := false }

/-- The backlog of a group, 0 if there is none of that name. -/
def backlog (hub : Hub) (path group : String) : Nat :=
  (((hub.queueNumber? path group).bind fun number => hub.queues[number]?).map
    Queue.backlog).getD 0

/-! ## Handles -/

/-- Changes the handle of a number. -/
def putHandle (hub : Hub) (handle : Handle) (state : HandleState) : Hub :=
  { hub with handles := hub.handles.setIfInBounds handle state }

/-- Hands out a handle, unless the hub is closed. -/
def create (hub : Hub) (role : Role) : Option Handle × Hub :=
  if hub.closed then
    (none, hub)
  else
    match role with
    | .publisher path =>
      (some hub.handles.size,
        { hub with handles := hub.handles.push (.publisher path false "") })
    | .consumer path group _ =>
      (some hub.handles.size,
        { hub with
          handles := hub.handles.push (.consumer path group hub.nextReader none "")
          nextReader := hub.nextReader + 1 })

/-- Why a destination could not be opened. -/
def noDestination (path : String) : String := "destination not found: " ++ path

/-- Why a group could not be opened. -/
def noGroup (path group : String) : String := "consumer group not found: " ++ path ++ "/" ++ group

/-- Opens a handle.  A consumer then holds the queue that its name stands for; one that
was open lets go of the queue it had, and so it does if there is none of that name
any more. -/
def openHandle (hub : Hub) (handle : Handle) : Bool × Hub :=
  match hub.handles[handle]? with
  | some (.publisher path isOpen lastError) =>
    if hub.hasDestination path then
      (true, hub.putHandle handle (.publisher path true lastError))
    else
      (false, hub.putHandle handle (.publisher path isOpen (noDestination path)))
  | some (.consumer path group reader _ lastError) =>
    match hub.queueNumber? path group with
    | some number => (true, hub.putHandle handle (.consumer path group reader number lastError))
    | none => (false, hub.putHandle handle (.consumer path group reader none (noGroup path group)))
  | _ => (false, hub)

/-- The last error of a handle. -/
def lastError (hub : Hub) (handle : Handle) : String :=
  match hub.handles[handle]? with
  | some (.publisher _ _ lastError) => lastError
  | some (.consumer _ _ _ _ lastError) => lastError
  | _ => ""

/-- Drops the reads that a reader has parked in a queue; their tickets are broken. -/
def dropReads (hub : Hub) (number : Nat) (reader : UInt64) : Hub :=
  match hub.queues[number]? with
  | none => hub
  | some queue =>
    let (tickets, queue) := queue.drop reader
    (hub.putQueue number queue).resolveAll .broken tickets

/-- Closes a handle.  An open consumer drops the reads it has parked. -/
def closeHandle (hub : Hub) (handle : Handle) : Hub :=
  match hub.handles[handle]? with
  | some (.publisher path _ lastError) => hub.putHandle handle (.publisher path false lastError)
  | some (.consumer path group reader (some number) lastError) =>
    (hub.dropReads number reader).putHandle handle (.consumer path group reader none lastError)
  | _ => hub

/-- Takes a handle back, closed. -/
def release (hub : Hub) (handle : Handle) : Hub :=
  (hub.closeHandle handle).putHandle handle .released

/-! ## Writing -/

/-- Counts a write. -/
def countWrite (hub : Hub) : WriteStatus → Hub
  | .ok => { hub with counts := { hub.counts with accepted := hub.counts.accepted + 1 } }
  | .throttled => { hub with counts := { hub.counts with throttled := hub.counts.throttled + 1 } }
  | _ => { hub with counts := { hub.counts with rejected := hub.counts.rejected + 1 } }

/-- Whether the admitted write of a number is refused with a request to slow down. -/
def throttles (hub : Hub) (number : UInt64) : Bool :=
  hub.throttleEvery ≠ 0 && number % hub.throttleEvery.toUInt64 = 0

/-- Writes to a destination. -/
def publish (hub : Hub) (path : String) (data : Bytes) : Receipt × Hub :=
  if hub.closed then
    ({ status := .failed, detail := "broker closed" }, hub.countWrite .failed)
  else
    match hub.groups? path with
    | none => ({ status := .failed, detail := noDestination path }, hub.countWrite .failed)
    | some groups =>
      let hub := { hub with writes := hub.writes + 1 }
      if hub.throttles hub.writes then
        ({ status := .throttled, detail := "throttled" }, hub.countWrite .throttled)
      else
        ({ status := .ok },
          ((groups.map Prod.snd).foldl (fun hub number => hub.pushTo data number) hub).countWrite
            .ok)

/-- Writes through a publisher. -/
def write (hub : Hub) (handle : Handle) (data : Bytes) : Receipt × Hub :=
  match hub.handles[handle]? with
  | some (.publisher path true _) => hub.publish path data
  | _ => ({ status := .failed, detail := "publisher not open" }, hub)

/-- Submits through a publisher: the write is made at once, and its receipt kept. -/
def submit (hub : Hub) (handle : Handle) (data : Bytes) : Ticket × Hub :=
  let (receipt, hub) := hub.write handle data
  (hub.receipts.size, { hub with receipts := hub.receipts.push receipt })

/-! ## Reading -/

/-- The queue that an open consumer holds, with its number, and the consumer's number. -/
def heldQueue? (hub : Hub) (handle : Handle) : Option (Nat × Queue Bytes × UInt64) :=
  match hub.handles[handle]? with
  | some (.consumer _ _ reader (some number) _) =>
    (hub.queues[number]?).map fun queue => (number, queue, reader)
  | _ => none

/-- Reads through a consumer; nothing is ready for one that is not open. -/
def read (hub : Hub) (handle : Handle) : Option Delivery × Hub :=
  match hub.heldQueue? handle with
  | none => (none, hub)
  | some (number, queue, _) =>
    match queue.read with
    | (none, _) => (none, hub)
    | (some handover, queue) =>
      (some (delivery number handover), (hub.putQueue number queue).countDelivery)

/-- Hands out the ticket for a requested delivery. -/
def ticketFor (hub : Hub) (awaited : Awaited) : Ticket × Hub :=
  (hub.awaited.size, { hub with awaited := hub.awaited.push awaited })

/-- Requests a delivery through a consumer; one that is not open gets none. -/
def request (hub : Hub) (handle : Handle) : Ticket × Hub :=
  match hub.heldQueue? handle with
  | none => hub.ticketFor .nothing
  | some (number, queue, reader) =>
    match queue.request reader hub.awaited.size with
    | (.answered none, _) => hub.ticketFor .nothing
    | (.answered (some handover), queue) =>
      (hub.putQueue number queue).countDelivery.ticketFor (.arrived (delivery number handover))
    | (.parked, queue) => (hub.putQueue number queue).ticketFor .pending

/-! ## Settling -/

/-- Counts what became of a message that was settled. -/
def countSettlement (hub : Hub) (number : Nat) : Queue.Settlement Bytes → Hub
  | .done => hub
  | .redelivered served =>
    { hub with
      counts := { hub.counts with redeliveries := hub.counts.redeliveries + 1 } }.serveParked
      number served
  | .deadLettered =>
    { hub with counts := { hub.counts with deadLettered := hub.counts.deadLettered + 1 } }

/-- The queue of a delivery, if anyone holds it. -/
def queueOf? (hub : Hub) (delivery : Delivery) : Option (Queue Bytes) :=
  if hub.holds delivery.queue then hub.queues[delivery.queue]? else none

/-- Settles a delivery that was dealt with, and tells whether it was outstanding. -/
def ack (hub : Hub) (delivery : Delivery) : Bool × Hub :=
  match (hub.queueOf? delivery).bind fun queue => queue.ack delivery.token with
  | none => (false, hub)
  | some (settlement, queue) =>
    let hub := { hub with counts := { hub.counts with acks := hub.counts.acks + 1 } }
    (true, (hub.putQueue delivery.queue queue).countSettlement delivery.queue settlement)

/-- Settles a delivery that should come again, and tells whether it was outstanding. -/
def nack (hub : Hub) (delivery : Delivery) : Bool × Hub :=
  match (hub.queueOf? delivery).bind fun queue => queue.nack delivery.token with
  | none => (false, hub)
  | some (settlement, queue) =>
    let hub := { hub with counts := { hub.counts with nacks := hub.counts.nacks + 1 } }
    (true, (hub.putQueue delivery.queue queue).countSettlement delivery.queue settlement)

/-! ## Serving calls -/

/-- What a ticket for a delivery brings when it is taken. -/
def take (hub : Hub) (ticket : Ticket) : Except Fault (Option Delivery) :=
  match hub.awaited[ticket]? with
  | some (.arrived delivery) => .ok (some delivery)
  | some .nothing => .ok none
  | _ => .error .brokenPromise

/-- The receipt behind a ticket. -/
def receipt (hub : Hub) (ticket : Ticket) : Except Fault Receipt :=
  match hub.receipts[ticket]? with
  | some receipt => .ok receipt
  | none => .error .brokenPromise

/-- Serves a call. -/
def serve (hub : Hub) : (call : Call) → Served Hub call.Reply
  | .createDestination destination =>
    let (reply, client) := hub.createDestination destination
    { reply, client }
  | .createGroup group =>
    let (reply, client) := hub.createGroup group
    { reply, client }
  | .deleteGroup path name =>
    let (reply, client) := hub.deleteGroup path name
    { reply, client }
  | .deleteDestination path =>
    let (reply, client) := hub.deleteDestination path
    { reply, client }
  | .shutDown => { reply := (), client := hub.close }
  | .create role =>
    let (reply, client) := hub.create role
    { reply := .ok reply, client }
  | .openHandle handle =>
    let (reply, client) := hub.openHandle handle
    { reply := .ok reply, client }
  | .lastError handle => { reply := hub.lastError handle, client := hub }
  | .closeHandle handle => { reply := .ok (), client := hub.closeHandle handle }
  | .release handle => { reply := (), client := hub.release handle }
  | .submit handle data =>
    let (ticket, client) := hub.submit handle data
    { reply := .ok (some ticket), client }
  | .receiptReady _ => { reply := true, client := hub }
  | .takeReceipt ticket => { reply := hub.receipt ticket, client := hub }
  | .write handle data =>
    let (receipt, client) := hub.write handle data
    { reply := .ok receipt, client }
  | .request handle =>
    let (ticket, client) := hub.request handle
    { reply := .ok (some ticket), client }
  | .deliveryReady ticket => { reply := hub.awaited[ticket]? ≠ some .pending, client := hub }
  | .takeDelivery ticket => { reply := hub.take ticket, client := hub }
  | .read handle =>
    let (reply, client) := hub.read handle
    { reply := .ok reply, client }
  | .ack delivery =>
    let (reply, client) := hub.ack delivery
    { reply := .ok reply, client }
  | .nack delivery =>
    let (reply, client) := hub.nack delivery
    { reply := .ok reply, client }

instance : Client Hub where
  serve call hub := hub.serve call

end Hub
end BrokerLoad
