import BrokerLoad.Broker.Watched

/-!
# Sessions on a hub

A session works on one hub by hand.  What it gets --- publishers, consumers,
deliveries, reads that are still pending --- it keeps under names of its own, one
set of names for each kind.  A name may be used again: the new thing is there first,
then the old one goes.

The session may let go of the hub itself and keep what it got from it.
-/

namespace BrokerLoad
namespace Session

/-- Things kept under names. -/
abbrev Names (α : Type) : Type := List (String × α)

namespace Names

variable {α : Type}

/-- Forgets a name. -/
def forget (names : Names α) (name : String) : Names α :=
  names.filter fun entry => entry.1 ≠ name

/-- Keeps a thing under a name. -/
def keep (names : Names α) (name : String) (thing : α) : Names α :=
  (name, thing) :: names.forget name

/-- Keeps a thing under a name, or forgets the name if there is none. -/
def keepOrForget (names : Names α) (name : String) : Option α → Names α
  | some thing => names.keep name thing
  | none => names.forget name

end Names

/-- The two kinds of handles. -/
inductive Side where
  | publisher
  | consumer
  deriving DecidableEq

/-- What can be done in a session. -/
inductive Action where
  | createDestination (path : String)
  | createGroup (path group : String) (maxDeliveries : UInt32)
  | deleteGroup (path group : String)
  | deleteDestination (path : String)
  /-- Get a publisher. -/
  | createPublisher (name path : String)
  /-- Get a consumer. -/
  | createConsumer (name path group : String)
  | openHandle (side : Side) (name : String)
  | closeHandle (side : Side) (name : String)
  /-- Give a handle back. -/
  | destroyHandle (side : Side) (name : String)
  | write (name : String) (data : Bytes)
  /-- Submit through a publisher and take the receipt. -/
  | submit (name : String) (data : Bytes)
  /-- Read through a consumer, and keep the delivery. -/
  | read (consumer name : String)
  /-- Request a delivery through a consumer, and keep the pending read. -/
  | request (consumer name : String)
  /-- Look at a pending read, and take its delivery if it is there. -/
  | poll (name : String)
  | ack (name : String)
  /-- Refuse a delivery. -/
  | nack (name : String)
  /-- Forget a delivery. -/
  | dropDelivery (name : String)
  /-- Forget a pending read. -/
  | dropPending (name : String)
  | ledger
  | backlog (path group : String)
  | counts
  | close
  /-- Close the hub and let go of it. -/
  | disown
  | run (name : String) (engine : Engine) (stopAt : Nat)

/-- What an action answers. -/
inductive Reply where
  | nothing
  /-- There is nothing of that name. -/
  | noSuchName
  | noHub
  | admin (outcome : AdminOutcome)
  /-- Yes or no. -/
  | flag (value : Bool)
  | opened (ok : Bool) (lastError : String)
  | receipt (receipt : Receipt)
  /-- The bytes of a message, if there was one. -/
  | payload (data : Option Bytes)
  /-- Whether a requested delivery was there at once. -/
  | requested (ready : Bool)
  | stillPending
  | resolved (data : Option Bytes)
  /-- A pending read will never be resolved. -/
  | broken
  | ledger (ledger : Ledger)
  | number (value : Nat)
  | counts (counts : HubCounts)
  /-- An engine that has run to its end. -/
  | ran (run : Watched.Run)

end Session

/-- A session on a hub. -/
structure Session where
  hub : Hub
  ledger : Ledger := {}
  publishers : Session.Names Handle := []
  consumers : Session.Names Handle := []
  deliveries : Session.Names Delivery := []
  pending : Session.Names Ticket := []

namespace Session

/-- The handles of a kind. -/
def handles (session : Session) : Side → Names Handle
  | .publisher => session.publishers
  | .consumer => session.consumers

/-- Changes the handles of a kind. -/
def withHandles (session : Session) (handles : Names Handle) : Side → Session
  | .publisher => { session with publishers := handles }
  | .consumer => { session with consumers := handles }

/-- Gives the handle of a name back. -/
def giveBack (session : Session) (side : Side) (name : String) : Session :=
  match (session.handles side).lookup name with
  | none => session
  | some handle => { session with hub := session.hub.release handle }

/-- Gets a handle and keeps it under a name. -/
def getHandle (session : Session) (side : Side) (name : String) (role : Role) : Reply × Session :=
  match session.hub.create role with
  | (none, _) => (.flag false, session)
  | (some handle, hub) =>
    let session := { session with hub }.giveBack side name
    (.flag true, session.withHandles ((session.handles side).keep name handle) side)

/-- Does something that needs the hub itself. -/
def onHub (session : Session) (f : Hub → Reply × Session) : Reply × Session :=
  if session.hub.owned then f session.hub else (.noHub, session)

/-- Does something with what is kept under a name. -/
def withName {α : Type} (session : Session) (names : Names α) (name : String)
    (f : α → Reply × Session) : Reply × Session :=
  match names.lookup name with
  | none => (.noSuchName, session)
  | some thing => f thing

/-- An administrative call. -/
def admin (session : Session) (f : Hub → AdminOutcome × Hub) : Reply × Session :=
  session.onHub fun hub =>
    let (outcome, hub) := f hub
    (.admin outcome, { session with hub })

/-- Does something. -/
def act (session : Session) : Action → Reply × Session
  | .createDestination path => session.admin (·.createDestination { path })
  | .createGroup destination name maxDeliveries =>
    session.admin (·.createGroup { destination, name, maxDeliveries })
  | .deleteGroup path group => session.admin (·.deleteGroup path group)
  | .deleteDestination path => session.admin (·.deleteDestination path)
  | .createPublisher name path =>
    session.onHub fun _ => session.getHandle .publisher name (.publisher path)
  | .createConsumer name path group =>
    session.onHub fun _ => session.getHandle .consumer name (.consumer path group defaultPrefetch)
  | .openHandle side name =>
    session.withName (session.handles side) name fun handle =>
      let (ok, hub) := session.hub.openHandle handle
      (.opened ok (hub.lastError handle), { session with hub })
  | .closeHandle side name =>
    session.withName (session.handles side) name fun handle =>
      (.nothing, { session with hub := session.hub.closeHandle handle })
  | .destroyHandle side name =>
    let full := ((session.handles side).lookup name).isSome
    let session := session.giveBack side name
    (.flag full, session.withHandles ((session.handles side).forget name) side)
  | .write name data =>
    session.withName session.publishers name fun handle =>
      let (receipt, hub) := session.hub.write handle data
      (.receipt receipt, { session with hub })
  | .submit name data =>
    session.withName session.publishers name fun handle =>
      let (ticket, hub) := session.hub.submit handle data
      match hub.receipt ticket with
      | .ok receipt => (.receipt receipt, { session with hub })
      | .error _ => (.broken, { session with hub })
  | .read consumer name =>
    session.withName session.consumers consumer fun handle =>
      let (delivery, hub) := session.hub.read handle
      (.payload (delivery.map Delivery.payload),
        { session with hub, deliveries := session.deliveries.keepOrForget name delivery })
  | .request consumer name =>
    session.withName session.consumers consumer fun handle =>
      let (ticket, hub) := session.hub.request handle
      (.requested (hub.awaited[ticket]? ≠ some .pending),
        { session with hub, pending := session.pending.keep name ticket })
  | .poll name =>
    session.withName session.pending name fun ticket =>
      let taken := { session with pending := session.pending.forget name }
      match session.hub.awaited[ticket]? with
      | some .pending => (.stillPending, session)
      | some (.arrived delivery) =>
        (.resolved (some delivery.payload),
          { taken with deliveries := session.deliveries.keep name delivery })
      | some .nothing =>
        (.resolved none, { taken with deliveries := session.deliveries.forget name })
      | _ => (.broken, taken)
  | .ack name =>
    session.withName session.deliveries name fun delivery =>
      let (ok, hub) := session.hub.ack delivery
      (.flag ok, { session with hub })
  | .nack name =>
    session.withName session.deliveries name fun delivery =>
      let (ok, hub) := session.hub.nack delivery
      (.flag ok, { session with hub })
  | .dropDelivery name =>
    (.flag (session.deliveries.lookup name).isSome,
      { session with deliveries := session.deliveries.forget name })
  | .dropPending name =>
    (.flag (session.pending.lookup name).isSome,
      { session with pending := session.pending.forget name })
  | .ledger => (.ledger session.ledger, session)
  | .backlog path group => session.onHub fun hub => (.number (hub.backlog path group), session)
  | .counts => session.onHub fun hub => (.counts hub.counts, session)
  | .close => session.onHub fun hub => (.nothing, { session with hub := hub.close })
  | .disown => session.onHub fun hub => (.nothing, { session with hub := hub.disown })
  | .run name engine stopAt =>
    session.onHub fun hub =>
      let run := Watched.run name engine { hub, stopAt } session.ledger
      (.ran run, { session with hub := run.shared.client.hub, ledger := run.shared.ledger })

end Session
end BrokerLoad
