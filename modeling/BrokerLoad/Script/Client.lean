import BrokerLoad.Client.Call
import BrokerLoad.Envelope

/-!
# Brokers that follow a script

To see an engine in a given situation it is run against a broker that follows a
*script*: what becomes of the handle, of each submission and of each read is laid
down beforehand, and so is when a stop request comes in the middle of a call.  The
scripted client keeps a record of what was asked of it.

Submissions take their steps from two lists, one for the id submitted and one for
all; where both are used up a submission is accepted.  Reads take theirs from one
list, and when it is used up a read finds nothing, for ever, and brings a stop
request with it.
-/

namespace BrokerLoad
namespace Script

/-- What becomes of a request for a handle. -/
inductive Creating where
  | handsOut
  /-- There is none. -/
  | nothing
  /-- The request ends in a fault. -/
  | throws (fault : Fault)
  deriving DecidableEq

/-- What becomes of opening a handle. -/
inductive Opening where
  | opens
  /-- It does not open, and says why. -/
  | refuses (reason : String)
  /-- Opening it ends in a fault. -/
  | throws (fault : Fault)
  deriving DecidableEq

/-- What becomes of closing a handle. -/
inductive Closing where
  | closes
  /-- Closing it ends in a fault. -/
  | throws (fault : Fault)
  deriving DecidableEq

/-- What becomes of a submission. -/
inductive Sending where
  /-- It gets a receipt. -/
  | answers (status : WriteStatus)
  /-- The submission itself ends in a fault. -/
  | throws (fault : Fault)
  /-- It is not taken on, and the client says why. -/
  | refuses (reason : String)
  /-- Taking the receipt ends in a fault. -/
  | spoils (fault : Fault)
  | never
  deriving DecidableEq

/-- A step of the script for a submission. -/
structure SendStep where
  /-- What becomes of it. -/
  act : Sending := .answers .ok
  /-- Whether a stop request comes with the submission. -/
  stop : Bool := false
  /-- Whether a stop request comes with taking the receipt. -/
  lateStop : Bool := false
  deriving DecidableEq

/-- What becomes of a read. -/
inductive Reading where
  | brings (data : Bytes)
  /-- It resolves to no delivery. -/
  | nothing
  /-- The read itself ends in a fault. -/
  | throws (fault : Fault)
  /-- It is not taken on, and the client says why. -/
  | refuses (reason : String)
  /-- Taking the delivery ends in a fault. -/
  | spoils (fault : Fault)
  | never
  deriving DecidableEq

/-- What becomes of an acknowledgement. -/
inductive Acking where
  /-- It is taken. -/
  | accepts
  /-- It is not taken. -/
  | refuses
  /-- It ends in a fault. -/
  | throws (fault : Fault)
  deriving DecidableEq

/-- A step of the script for a read. -/
structure ReadStep where
  /-- What becomes of it. -/
  act : Reading
  ack : Acking := .accepts
  stopAtRead : Bool := false
  /-- Whether a stop request comes with the acknowledgement. -/
  stopAtAck : Bool := false
  deriving DecidableEq

/-- What a read does when the script has no more steps for it. -/
def exhausted : ReadStep := { act := .never, stopAtRead := true }

end Script

/-- A script. -/
structure Script where
  /-- What becomes of the request for the handle. -/
  creating : Script.Creating := .handsOut
  opening : Script.Opening := .opens
  closing : Script.Closing := .closes
  stepsById : List (UInt64 × List Script.SendStep) := []
  steps : List Script.SendStep := []
  reads : List Script.ReadStep := []
  /-- After how many submissions another thread requests a stop, which it does while the
  engine waits for a receipt that never comes. -/
  stopAfter : Option Nat := none

/-- A client that follows a script, and its record. -/
structure Scripted where
  script : Script
  asked : Option Role := none
  submitted : Array UInt64 := #[]
  bytes : Nat := 0
  opens : Nat := 0
  closes : Nat := 0
  /-- How often a read was asked for. -/
  readCalls : Nat := 0
  /-- How often an acknowledgement was tried. -/
  ackCalls : Nat := 0
  receipts : Array Script.SendStep := #[]
  /-- The steps behind the tickets for deliveries, and behind their tokens. -/
  deliveries : Array Script.ReadStep := #[]
  lastError : String := ""

namespace Scripted

open Script

/-- Takes the first step for an id from a list of steps by id. -/
def takeById (id : UInt64) :
    List (UInt64 × List SendStep) → Option (SendStep × List (UInt64 × List SendStep))
  | [] => none
  | (key, steps) :: rest =>
    match decide (key = id), steps with
    | true, step :: steps => some (step, (key, steps) :: rest)
    | _, _ => (takeById id rest).map fun (step, rest) => (step, (key, steps) :: rest)

/-- The step for a submission, and the script without it. -/
def nextSend (script : Script) (id : UInt64) : SendStep × Script :=
  match takeById id script.stepsById with
  | some (step, stepsById) => (step, { script with stepsById })
  | none =>
    match script.steps with
    | step :: steps => (step, { script with steps })
    | [] => ({}, script)

/-- The step for a read, and the script without it. -/
def nextRead (script : Script) : ReadStep × Script :=
  match script.reads with
  | step :: reads => (step, { script with reads })
  | [] => (exhausted, script)

/-- A stop request from the engine's own thread, if there is one. -/
def stopIf (stop : Bool) : List Interruption := if stop then [.inside] else []

/-- Takes the step for a submission and puts it on record. -/
def takeSend (client : Scripted) (data : Bytes) : SendStep × Scripted :=
  let id := ((Envelope.decode data).map Envelope.id).getD 0
  let (step, script) := nextSend client.script id
  (step,
    { client with
      script
      submitted := client.submitted.push id
      bytes := client.bytes + data.length })

/-- Takes the step for a read and puts it on record. -/
def takeRead (client : Scripted) : ReadStep × Scripted :=
  let (step, script) := nextRead client.script
  (step, { client with script, readCalls := client.readCalls + 1 })

/-- The delivery that a read step brings: its token is the number of the step. -/
def delivery (data : Bytes) (number : Nat) : Delivery :=
  { payload := data, queue := 0, token := number.toUInt64 }

/-- Serves a call by the script. -/
def serve (client : Scripted) : (call : Call) → Served Scripted call.Reply
  | .createDestination _ => { reply := .success, client }
  | .createGroup _ => { reply := .success, client }
  | .deleteGroup _ _ => { reply := .success, client }
  | .deleteDestination _ => { reply := .success, client }
  | .shutDown => { reply := (), client }
  | .create role =>
    let client := { client with asked := some role }
    match client.script.creating with
    | .handsOut => { reply := .ok (some 0), client }
    | .nothing => { reply := .ok none, client }
    | .throws fault => { reply := .error fault, client }
  | .openHandle _ =>
    let client := { client with opens := client.opens + 1 }
    match client.script.opening with
    | .opens => { reply := .ok true, client }
    | .refuses reason => { reply := .ok false, client := { client with lastError := reason } }
    | .throws fault => { reply := .error fault, client }
  | .lastError _ => { reply := client.lastError, client }
  | .closeHandle _ =>
    let client := { client with closes := client.closes + 1 }
    match client.script.closing with
    | .closes => { reply := .ok (), client }
    | .throws fault => { reply := .error fault, client }
  | .release _ => { reply := (), client }
  | .submit _ data =>
    let (step, client) := client.takeSend data
    let stops := stopIf step.stop
    match step.act with
    | .throws fault => { reply := .error fault, client, stops }
    | .refuses reason =>
      { reply := .ok none, client := { client with lastError := reason }, stops }
    | _ =>
      { reply := .ok (some client.receipts.size)
        client := { client with receipts := client.receipts.push step }
        stops }
  | .receiptReady ticket =>
    match (client.receipts[ticket]?).map SendStep.act with
    | some .never =>
      let stops :=
        match client.script.stopAfter with
        | some count => if count ≤ client.submitted.size then [.outside] else []
        | none => []
      { reply := false, client, stops }
    | _ => { reply := true, client }
  | .takeReceipt ticket =>
    match client.receipts[ticket]? with
    | some step =>
      let stops := stopIf step.lateStop
      match step.act with
      | .answers status => { reply := .ok { status }, client, stops }
      | .spoils fault => { reply := .error fault, client, stops }
      | _ => { reply := .error .brokenPromise, client, stops }
    | none => { reply := .error .brokenPromise, client }
  | .write _ data =>
    let (step, client) := client.takeSend data
    let stops := stopIf (step.stop || step.lateStop)
    match step.act with
    | .answers status => { reply := .ok { status }, client, stops }
    | .throws fault => { reply := .error fault, client, stops }
    | .spoils fault => { reply := .error fault, client, stops }
    | _ => { reply := .error .brokenPromise, client, stops }
  | .request _ =>
    let (step, client) := client.takeRead
    let stops := stopIf step.stopAtRead
    match step.act with
    | .throws fault => { reply := .error fault, client, stops }
    | .refuses reason =>
      { reply := .ok none, client := { client with lastError := reason }, stops }
    | _ =>
      { reply := .ok (some client.deliveries.size)
        client := { client with deliveries := client.deliveries.push step }
        stops }
  | .deliveryReady ticket =>
    { reply := (client.deliveries[ticket]?).map ReadStep.act ≠ some .never, client }
  | .takeDelivery ticket =>
    match (client.deliveries[ticket]?).map ReadStep.act with
    | some (.brings data) => { reply := .ok (some (delivery data ticket)), client }
    | some .nothing => { reply := .ok none, client }
    | some (.spoils fault) => { reply := .error fault, client }
    | _ => { reply := .error .brokenPromise, client }
  | .read _ =>
    let (step, client) := client.takeRead
    let stops := stopIf step.stopAtRead
    match step.act with
    | .brings data =>
      { reply := .ok (some (delivery data client.deliveries.size))
        client := { client with deliveries := client.deliveries.push step }
        stops }
    | .throws fault => { reply := .error fault, client, stops }
    | .spoils fault => { reply := .error fault, client, stops }
    | _ => { reply := .ok none, client, stops }
  | .ack delivery =>
    let client := { client with ackCalls := client.ackCalls + 1 }
    match client.deliveries[delivery.token.toNat]? with
    | some step =>
      let stops := stopIf step.stopAtAck
      match step.ack with
      | .accepts => { reply := .ok true, client, stops }
      | .refuses => { reply := .ok false, client, stops }
      | .throws fault => { reply := .error fault, client, stops }
    | none => { reply := .ok false, client }
  | .nack _ => { reply := .ok true, client }

instance : Client Scripted where
  serve call client := client.serve call

end Scripted
end BrokerLoad
