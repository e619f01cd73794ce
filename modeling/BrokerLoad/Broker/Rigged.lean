import BrokerLoad.Broker.Hub
import BrokerLoad.Script.Client

/-!
# Rigged hubs

To see how a run copes with trouble, its hub may be rigged: it refuses to hand out
handles, or answers administrative calls with an outcome laid down beforehand
instead of carrying them out.  A rigged hub keeps a record of the administrative
calls.
-/

namespace BrokerLoad

/-- How a hub is rigged. -/
structure Rigging where
  publishers : Script.Creating := .handsOut
  consumers : Script.Creating := .handsOut
  createDestination : Option AdminOutcome := none
  createGroup : Option AdminOutcome := none
  deleteGroup : Option AdminOutcome := none
  deleteDestination : Option AdminOutcome := none

/-- A rigged hub. -/
structure Rigged where
  hub : Hub
  rigging : Rigging := {}
  calls : List Call := []

namespace Rigged

/-- Serves a call by the hub. -/
def forward (rigged : Rigged) (call : Call) : Served Rigged call.Reply :=
  let served := rigged.hub.serve call
  { reply := served.reply, client := { rigged with hub := served.client }, stops := served.stops }

/-- Puts a call on record. -/
def note (rigged : Rigged) (call : Call) : Rigged :=
  { rigged with calls := rigged.calls ++ [call] }

/-- What becomes of a request for a handle. -/
def creating (rigged : Rigged) : Role → Script.Creating
  | .publisher _ => rigged.rigging.publishers
  | .consumer _ _ _ => rigged.rigging.consumers

/-- Serves a call. -/
def serve (rigged : Rigged) : (call : Call) → Served Rigged call.Reply
  | .createDestination destination =>
    let noted := rigged.note (.createDestination destination)
    match rigged.rigging.createDestination with
    | some reply => { reply, client := noted }
    | none => noted.forward (.createDestination destination)
  | .createGroup group =>
    let noted := rigged.note (.createGroup group)
    match rigged.rigging.createGroup with
    | some reply => { reply, client := noted }
    | none => noted.forward (.createGroup group)
  | .deleteGroup path name =>
    let noted := rigged.note (.deleteGroup path name)
    match rigged.rigging.deleteGroup with
    | some reply => { reply, client := noted }
    | none => noted.forward (.deleteGroup path name)
  | .deleteDestination path =>
    let noted := rigged.note (.deleteDestination path)
    match rigged.rigging.deleteDestination with
    | some reply => { reply, client := noted }
    | none => noted.forward (.deleteDestination path)
  | .shutDown => (rigged.note .shutDown).forward .shutDown
  | .create role =>
    match rigged.creating role with
    | .handsOut => rigged.forward (.create role)
    | .nothing => { reply := .ok none, client := rigged }
    | .throws fault => { reply := .error fault, client := rigged }
  | call => rigged.forward call

instance : Client Rigged where
  serve call rigged := rigged.serve call

end Rigged
end BrokerLoad
