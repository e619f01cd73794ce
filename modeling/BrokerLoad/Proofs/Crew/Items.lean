import BrokerLoad.Engine
import BrokerLoad.Proofs.Broker.Passage
import BrokerLoad.Proofs.Ledger.Service
import Mathlib.Data.List.Perm.Subperm

/-!
# What workers hold

A worker of a crew holds *items*: a producer the messages that it may write and those whose
receipts it has not seen, a consumer the tickets that it waits at and the deliveries that it
takes in.  What an engine does with the rest of the crew is told by its items alone, and so
the items of all workers, in one bag, are the state of the crew.

An exchange uses up some items and makes others; `Trade` lists what there is, and
`Acts` says that all other items are kept or dropped.  Anything may be dropped at any time,
as it is by a worker that stops: nothing that is proved of a crew depends on an item's being
there.

## What an item says

* `resting`: the message may be written, and no write of it was accepted so far.
* `aloft`: it was submitted, and the ticket is the one for the receipt.
* `waiting`: a delivery was requested, and may come at the ticket.
* `arrived`, `noting`, `acking`: a delivery is taken in, as far as its name says.
* `due`: a repeat was noted that the shared counter does not know of yet.
-/

namespace BrokerLoad

/-- Something that a worker holds. -/
inductive Item where
  /-- A message that may be written. -/
  | resting (id : UInt64)
  /-- A message that was submitted, and the ticket for the receipt. -/
  | aloft (id : UInt64) (ticket : Ticket)
  /-- The ticket for a delivery. -/
  | waiting (ticket : Ticket)
  /-- A delivery that has just arrived. -/
  | arrived (delivery : Delivery)
  /-- A delivery whose id is about to be noted. -/
  | noting (id : UInt64) (delivery : Delivery)
  /-- A delivery that is about to be acknowledged. -/
  | acking (id : UInt64) (delivery : Delivery)
  /-- A repeat to be counted. -/
  | due
  deriving DecidableEq

namespace Exchange

/-- How many repeats are counted. -/
def repeats : Exchange → Nat
  | ⟨.emit (.bump .duplicates amount), _⟩ => amount.toNat
  | _ => 0

/-- Whether an exchange leaves everything as it is, as far as messages go. -/
def isIdle : Exchange → Bool
  | ⟨.mint, _⟩ => false
  | ⟨.note _, _⟩ => false
  | ⟨.emit (.bump .duplicates _), _⟩ => false
  | ⟨.broker (.write _ _), .ok receipt⟩ => receipt.status ≠ .ok
  | ⟨.broker (.submit _ _), .ok (some _)⟩ => false
  | ⟨.broker (.request _), .ok (some _)⟩ => false
  | ⟨.broker (.read _), .ok (some _)⟩ => false
  | ⟨.broker (.ack _), .ok true⟩ => false
  | ⟨.broker call, _⟩ => call.isUse
  | _ => true

/-- What an idle exchange does not do. -/
structure IsQuiet (exchange : Exchange) : Prop where
  /-- No id is given out. -/
  minted : exchange.minted? = none
  /-- No ticket for a delivery is given out. -/
  tickets : exchange.tickets = []
  /-- Nothing is read. -/
  readings : exchange.readings = []
  /-- Nothing is acknowledged. -/
  settled : exchange.settled = []
  /-- Nothing is accepted. -/
  accepted : ∀ hub : Hub, hub.accepted exchange = []
  /-- No repeat is counted. -/
  repeats : exchange.repeats = 0
  /-- The ledger sees no new id. -/
  seen : ∀ ledger : Ledger, (ledger.after exchange).seen = ledger.seen

theorem isQuiet_of_isIdle {exchange : Exchange} (idle : exchange.isIdle = true) :
    exchange.IsQuiet := by
  obtain ⟨query, reply⟩ := exchange
  cases query with
  | mint => cases idle
  | note id => cases idle
  | broker call =>
    cases call with
    | write handle data =>
      match reply with
      | .ok receipt =>
        exact ⟨rfl, rfl, rfl, rfl, fun _ => if_neg (of_decide_eq_true idle), rfl, fun _ => rfl⟩
      | .error fault => constructor <;> intros <;> rfl
    | submit handle data =>
      match reply with
      | .ok (some ticket) => cases idle
      | .ok none => constructor <;> intros <;> rfl
      | .error fault => constructor <;> intros <;> rfl
    | request handle =>
      match reply with
      | .ok (some ticket) => cases idle
      | .ok none => constructor <;> intros <;> rfl
      | .error fault => constructor <;> intros <;> rfl
    | read handle =>
      match reply with
      | .ok (some delivery) => cases idle
      | .ok none => constructor <;> intros <;> rfl
      | .error fault => constructor <;> intros <;> rfl
    | ack delivery =>
      match reply with
      | .ok true => cases idle
      | .ok false => constructor <;> intros <;> rfl
      | .error fault => constructor <;> intros <;> rfl
    | _ => constructor <;> intros <;> rfl
  | emit emission =>
    cases emission with
    | bump counter amount =>
      cases counter with
      | duplicates => cases idle
      | _ => constructor <;> intros <;> rfl
    | _ => constructor <;> intros <;> rfl
  | _ => constructor <;> intros <;> rfl

/-- A call in an idle exchange is one that engines make. -/
theorem isUse_of_isIdle {call : Call} {reply : call.Reply}
    (idle : isIdle ⟨.broker call, reply⟩ = true) : call.isUse = true := by
  cases call with
  | write handle data => rfl
  | submit handle data => rfl
  | request handle => rfl
  | read handle => rfl
  | ack delivery => rfl
  | _ => exact idle

end Exchange

/-- What an exchange does to the items of the worker that takes part in it: those that it
uses up, and those that it makes of them. -/
inductive Trade : Exchange → List Item → List Item → Prop
  /-- Nothing. -/
  | idle (exchange : Exchange) (idle : exchange.isIdle = true) : Trade exchange [] []
  /-- An id is taken for a message. -/
  | mint (id : UInt64) : Trade ⟨.mint, id⟩ [] [.resting id]
  /-- A message is submitted. -/
  | submit (handle : Handle) (data : Bytes) (id : UInt64) (ticket : Ticket)
      (carries : data.id? = some id) :
    Trade ⟨.broker (.submit handle data), .ok (some ticket)⟩ [.resting id] [.aloft id ticket]
  /-- A message is written and accepted. -/
  | accept (handle : Handle) (data : Bytes) (id : UInt64) (receipt : Receipt)
      (carries : data.id? = some id) (ok : receipt.status = .ok) :
    Trade ⟨.broker (.write handle data), .ok receipt⟩ [.resting id] []
  /-- A submission turns out to be refused. -/
  | refuse (id : UInt64) (ticket : Ticket) (receipt : Receipt) (refused : receipt.status ≠ .ok) :
    Trade ⟨.broker (.takeReceipt ticket), .ok receipt⟩ [.aloft id ticket] [.resting id]
  /-- A delivery is requested. -/
  | request (handle : Handle) (ticket : Ticket) :
    Trade ⟨.broker (.request handle), .ok (some ticket)⟩ [] [.waiting ticket]
  /-- A requested delivery is taken. -/
  | take (ticket : Ticket) (delivery : Delivery) :
    Trade ⟨.broker (.takeDelivery ticket), .ok (some delivery)⟩ [.waiting ticket]
      [.arrived delivery]
  /-- A delivery is read. -/
  | read (handle : Handle) (delivery : Delivery) :
    Trade ⟨.broker (.read handle), .ok (some delivery)⟩ [] [.arrived delivery]
  /-- A delivery turns out to be an envelope. -/
  | decode (id : UInt64) (delivery : Delivery) (carries : delivery.payload.id? = some id) :
    Trade ⟨.pause, ()⟩ [.arrived delivery] [.noting id delivery]
  /-- Its id is noted for the first time. -/
  | first (id : UInt64) (delivery : Delivery) :
    Trade ⟨.note id, true⟩ [.noting id delivery] [.acking id delivery]
  /-- Its id is noted, and was noted before. -/
  | again (id : UInt64) (delivery : Delivery) :
    Trade ⟨.note id, false⟩ [.noting id delivery] [.acking id delivery, .due]
  /-- It is acknowledged. -/
  | settle (id : UInt64) (delivery : Delivery) :
    Trade ⟨.broker (.ack delivery), .ok true⟩ [.acking id delivery] []
  /-- Repeats are counted. -/
  | bump (amount : UInt64) :
    Trade ⟨.emit (.bump .duplicates amount), ()⟩ (List.replicate amount.toNat .due) []

namespace Trade

variable {used made : List Item}

/-- A worker makes only calls that engines make. -/
theorem isUse {call : Call} {reply : call.Reply}
    (trade : Trade ⟨.broker call, reply⟩ used made) : call.isUse = true := by
  cases trade with
  | idle exchange idle => exact Exchange.isUse_of_isIdle idle
  | _ => rfl

/-- Whatever is accepted carries an id. -/
theorem map_id?_accepted {exchange : Exchange} (trade : Trade exchange used made) (hub : Hub) :
    (hub.accepted exchange).map Bytes.id? =
      ((hub.accepted exchange).filterMap Bytes.id?).map some := by
  have hone : ∀ {data : Bytes} {id : UInt64}, data.id? = some id →
      [data].map Bytes.id? = ([data].filterMap Bytes.id?).map some := by
    intro data id carries
    rw [List.filterMap_cons_some carries, List.map_singleton, carries]
    rfl
  cases trade with
  | idle exchange idle =>
    rw [(Exchange.isQuiet_of_isIdle idle).accepted]
    rfl
  | submit handle data id ticket carries =>
    rw [Hub.accepted]
    split
    · exact hone carries
    · rfl
  | accept handle data id receipt carries ok =>
    rw [Hub.accepted, if_pos ok]
    exact hone carries
  | _ => rfl

end Trade

/-- What becomes of the items of a worker in an exchange. -/
def Acts (exchange : Exchange) (before after : List Item) : Prop :=
  ∃ used made kept, Trade exchange used made ∧ before.Perm (used ++ kept) ∧
    after.Subperm (made ++ kept)

namespace Acts

variable {exchange : Exchange} {before after : List Item}

/-- Items are kept or dropped in an exchange that leaves everything as it is. -/
theorem of_idle (idle : exchange.isIdle = true) (hkept : after.Subperm before) :
    Acts exchange before after :=
  ⟨[], [], before, .idle exchange idle, .refl _, hkept⟩

theorem refl (idle : exchange.isIdle = true) : Acts exchange before before :=
  of_idle idle (.refl _)

/-- What others hold makes no difference. -/
theorem frame {mine mine' others : List Item} (acts : Acts exchange mine mine')
    (hbefore : before.Perm (mine ++ others)) (hafter : after.Perm (mine' ++ others)) :
    Acts exchange before after := by
  obtain ⟨used, made, kept, trade, hused, hmade⟩ := acts
  refine ⟨used, made, kept ++ others, trade, ?_, ?_⟩
  · rw [← List.append_assoc]
    exact hbefore.trans (hused.append_right others)
  · rw [← List.append_assoc]
    exact hafter.subperm.trans ((List.subperm_append_right others).2 hmade)

/-- The first items are used up, and others come in their place. -/
theorem of_trade {used made kept : List Item} (trade : Trade exchange used made) :
    Acts exchange (used ++ kept) (made ++ kept) :=
  ⟨used, made, kept, trade, .refl _, .refl _⟩

end Acts

/-! ## Emissions -/

/-- The repeats that an emission counts. -/
def Emission.dues : Emission → List Item
  | .bump .duplicates amount => List.replicate amount.toNat .due
  | _ => []

namespace Paced

variable {α β σ τ : Type}

/-- The items of a state, with the repeats that it still has to count. -/
def items (f : σ → List Item) (state : Paced σ) : List Item :=
  state.pending.flatMap Emission.dues ++ f state.now

@[simp] theorem items_nil (f : σ → List Item) (now : σ) : items f ⟨[], now⟩ = f now := rfl

/-- An emission counts its repeats. -/
theorem acts_emit (f : σ → List Item) (emission : Emission) (rest : List Emission) (now : σ) :
    Acts ⟨.emit emission, ()⟩ (items f ⟨emission :: rest, now⟩) (items f ⟨rest, now⟩) := by
  have hbefore : items f ⟨emission :: rest, now⟩ = emission.dues ++ items f ⟨rest, now⟩ := by
    rw [items, List.flatMap_cons, List.append_assoc]
    rfl
  rw [hbefore]
  cases emission with
  | bump counter amount =>
    cases counter with
    | duplicates => exact Acts.of_trade (.bump amount)
    | _ => exact .refl rfl
  | _ => exact .refl rfl

/-- A paced machine acts as its body does. -/
theorem acts_request {f : σ → List Item} {body : σ → Request α (Paced σ)} {state : Paced σ}
    (hbody : ∀ query next, body state.now = .ask query next → ∀ reply,
      Acts ⟨query, reply⟩ (f state.now) ((next reply).items f))
    {query : Query} {next : query.Reply → Paced σ} (asks : state.request body = .ask query next)
    (reply : query.Reply) : Acts ⟨query, reply⟩ (state.items f) ((next reply).items f) := by
  obtain ⟨pending, now⟩ := state
  cases pending with
  | nil => exact hbody query next asks reply
  | cons emission rest =>
    cases asks
    exact acts_emit f emission rest now

/-- A machine that is part of a larger one acts as it does by itself. -/
theorem acts_within {request : Request α (Paced σ)} {lift : σ → τ}
    {onward : Except Fault α → Paced τ} {f : τ → List Item} {before : List Item}
    (hask : ∀ query next, request = .ask query next → ∀ reply,
      Acts ⟨query, reply⟩ before ((next reply).items fun s => f (lift s)))
    (hfinish : ∀ result, request = .finish result → ((onward result).items f).Subperm before)
    {query : Query} {next : query.Reply → Paced τ}
    (asks : (request.within lift onward : Request β (Paced τ)) = .ask query next)
    (reply : query.Reply) : Acts ⟨query, reply⟩ before ((next reply).items f) := by
  cases request with
  | finish result =>
    cases asks
    exact .of_idle rfl (hfinish result rfl)
  | ask query next =>
    cases asks
    exact hask query next rfl reply

end Paced
end BrokerLoad
