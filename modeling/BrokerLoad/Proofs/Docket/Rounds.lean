import BrokerLoad.Proofs.Docket.Pipelined
import BrokerLoad.Proofs.Docket.Repeats
import BrokerLoad.Proofs.Producer.Balance

/-!
# How a pipelined producer ends with a docket

A docket that holds a receipt for every submission decides how a pipelined producer ends, and it
can be told from the refusals alone: the producer gives up if one message is refused as often as
it may be sent, and else completes (`exists_endsBy`).

Between two receipts the loop is *through* with the receipts that it has taken (`IsThrough`).  Then
what is in flight are the submissions that follow, in their order; every message and every refusal
so far has brought about one submission or is still to bring about one; and what was refused has
been repeated in its place.  A round of the loop is a new submission, or a receipt and what it
brings about (`IsThrough.send`, `IsThrough.accept`, `IsThrough.again`), and after every round less
is left to do.
-/

namespace BrokerLoad

/-- Whether a docket holds a receipt for every submission, and a refusal for these. -/
def Docket.Refuses (docket : Docket) (refused : Nat → Prop) : Prop :=
  ∀ number, ∃ answer, docket.outcome number = .ok answer ∧ (answer.status = .ok ↔ ¬ refused number)

namespace Producer
namespace Pipelined

/-- A loop that is about to submit does so, and the docket refuses the same as before. -/
theorem exists_submitted (name : String) (options : Options) (handle : Handle) (loop : Loop)
    (shared : Shared Docket) {refused : Nat → Prop} {id : UInt64} {attempt : UInt32}
    (refuses : shared.client.Refuses refused)
    (submits : loop.point.submits? = some (id, attempt)) (going : loop.draining = false) :
    ∃ next sharing, IsSubmitted ⟨id, attempt, shared.client.sent.length⟩ loop next ∧
      Goes name options handle ⟨[], loop⟩ shared ⟨[], next⟩ sharing ∧
      sharing.client.Refuses refused ∧
      sharing.client.sent.length = shared.client.sent.length + 1 := by
  obtain ⟨answer, hanswer, -⟩ := refuses shared.client.sent.length
  obtain ⟨next, submitted, hgoes⟩ := goes_submitted name options handle loop shared submits going
    hanswer
  refine ⟨next, _, submitted, hgoes, ?_, ?_⟩
  · rw [Shared.client_absorbAll]
    exact refuses
  · rw [Shared.client_absorbAll]
    show (shared.client.sent ++ [_]).length = _
    rw [List.length_append, List.length_singleton]

variable {name : String} {handle : Handle} {refused : Nat → Prop} [DecidablePred refused]
  {options : Options} {taken : Nat} {loop next : Loop} {oldest submission : InFlight}
  {window rest : List InFlight} {younger : Fifo InFlight} {shared : Shared Docket}

/-! ## What is in flight -/

/-- What is in flight are the submissions after the first so many, each with the number of its
attempt. -/
structure InTurn (refused : Nat → Prop) [DecidablePred refused] (options : Options) (taken : Nat)
    (window : List InFlight) : Prop where
  tickets : window.map InFlight.ticket = List.range' taken window.length
  attempts : ∀ inFlight ∈ window, IsAttempt refused options.window options.messages.toNat
    inFlight.ticket inFlight.attempts.toNat

namespace InTurn

theorem push (inTurn : InTurn refused options taken window)
    (ticket : submission.ticket = taken + window.length)
    (attempt : IsAttempt refused options.window options.messages.toNat submission.ticket
      submission.attempts.toNat) : InTurn refused options taken (window ++ [submission]) where
  tickets := by
    rw [List.map_append, inTurn.tickets, List.map_singleton, ticket, List.length_append,
      List.length_singleton, List.range'_1_concat]
  attempts inFlight hmem := by
    rcases List.mem_append.1 hmem with hbefore | hnow
    · exact inTurn.attempts inFlight hbefore
    · rwa [List.mem_singleton.1 hnow]

/-- The oldest is the next one. -/
theorem ticket_eq (inTurn : InTurn refused options taken (oldest :: rest)) :
    oldest.ticket = taken :=
  (List.cons.inj inTurn.tickets).1

theorem attempt (inTurn : InTurn refused options taken (oldest :: rest)) :
    IsAttempt refused options.window options.messages.toNat taken oldest.attempts.toNat :=
  inTurn.ticket_eq ▸ inTurn.attempts oldest List.mem_cons_self

theorem tail (inTurn : InTurn refused options taken (oldest :: rest)) :
    InTurn refused options (taken + 1) rest :=
  ⟨(List.cons.inj inTurn.tickets).2, fun inFlight hmem =>
    inTurn.attempts inFlight (List.mem_cons_of_mem _ hmem)⟩

end InTurn

/-! ## Between two receipts -/

/-- What is known of the loop when it has dealt with so many receipts. -/
structure IsThrough (refused : Nat → Prop) [DecidablePred refused] (options : Options)
    (taken : Nat) (loop : Loop) : Prop where
  place : loop.point = .head ∧ loop.window.toList.length ≤ options.window ∨
    loop.point = onward loop.remaining ∧ loop.window.toList.length < options.window
  going : loop.draining = false
  inTurn : InTurn refused options taken loop.window.toList
  /-- Messages and refusals have brought about submissions, or are to bring about some. -/
  left : loop.remaining.toNat + (taken + loop.window.toList.length) =
    options.messages.toNat + Nat.count refused taken
  repeated : ∀ number < taken, refused number →
    repeatOf refused options.window options.messages.toNat number <
        taken + loop.window.toList.length ∧
      ∃ attempt < max 1 options.maxAttempts.toNat,
        IsAttempt refused options.window options.messages.toNat number attempt
  completed : loop.counts.completed.toNat + Nat.count refused taken = taken

namespace IsThrough

theorem start (options : Options) : IsThrough refused options 0 (.start options) where
  place := .inl ⟨rfl, Nat.zero_le _⟩
  going := rfl
  inTurn := ⟨rfl, by simp [Loop.start]⟩
  left := by rw [Nat.count_zero]; rfl
  repeated _ hlt := absurd hlt (Nat.not_lt_zero _)
  completed := by rw [Nat.count_zero]; rfl

theorem free (through : IsThrough refused options taken loop) : loop.IsFree :=
  through.place.imp And.left And.left

theorem window_le (through : IsThrough refused options taken loop) :
    loop.window.toList.length ≤ options.window :=
  through.place.elim And.right fun h => Nat.le_of_lt h.2

/-- What is submitted while there is room for it repeats nothing. -/
theorem isAttempt_first (through : IsThrough refused options taken loop)
    (left : loop.remaining ≠ 0) (room : loop.window.toList.length < options.window) :
    IsAttempt refused options.window options.messages.toNat
      (taken + loop.window.toList.length) 1 := by
  have hleft : loop.remaining.toNat ≠ 0 := UInt64.toNat_inj.not.2 left
  have hfuture : taken + loop.window.toList.length <
      repeatOf refused options.window options.messages.toNat taken := by
    have hcount := through.left
    rw [repeatOf]
    omega
  refine .first fun earlier again hrepeat => ?_
  rcases Nat.lt_or_ge earlier taken with hpast | hcoming
  · exact Nat.ne_of_lt (through.repeated earlier hpast again).1 hrepeat
  · have hmono := repeatOf_mono refused options.window options.messages.toNat hcoming
    omega

/-- A new message is submitted. -/
theorem send {id : UInt64} (through : IsThrough refused options taken loop)
    (left : loop.remaining ≠ 0) (room : loop.window.toList.length < options.window)
    (submitted : IsSubmitted ⟨id, 1, taken + loop.window.toList.length⟩
      { loop with point := .sending id } next) : IsThrough refused options taken next := by
  have hfewer : next.remaining.toNat + 1 = loop.remaining.toNat := by
    rw [submitted.remaining]
    exact toNat_sub_one left
  have hlength : next.window.toList.length = loop.window.toList.length + 1 := by
    rw [submitted.window, List.length_append, List.length_singleton]
  have hcount := through.left
  refine ⟨.inl ⟨submitted.here, by omega⟩, submitted.going, ?_, by omega, ?_, ?_⟩
  · rw [submitted.window]
    exact through.inTurn.push rfl (through.isAttempt_first left room)
  · intro number hnumber again
    obtain ⟨hrepeat, hattempt⟩ := through.repeated number hnumber again
    exact ⟨by omega, hattempt⟩
  · rw [submitted.counts]
    exact through.completed

/-! ### A receipt -/

/-- What is submitted after a receipt is what repeats its submission, if it is refused. -/
theorem repeatOf_eq (through : IsThrough refused options taken loop)
    (must : options.window ≤ loop.window.toList.length ∨ loop.remaining = 0) :
    repeatOf refused options.window options.messages.toNat taken =
      taken + loop.window.toList.length := by
  have hroom := through.window_le
  have hcount := through.left
  rw [repeatOf]
  rcases must with hfull | hnone
  · omega
  · rw [hnone, UInt64.toNat_zero] at hcount
    omega

/-- A message was accepted. -/
theorem accept (through : IsThrough refused options taken loop)
    (window : loop.window.toList = oldest :: rest) (ok : ¬ refused taken)
    (rest_eq : younger.toList = rest) :
    IsThrough refused options (taken + 1)
      ⟨onward loop.remaining, loop.remaining, younger, loop.draining, loop.counts.complete⟩ := by
  have hlength : loop.window.toList.length = younger.toList.length + 1 := by
    rw [window, rest_eq, List.length_cons]
  have hroom := through.window_le
  have hcount := through.left
  have hcompleted := through.completed
  have hkept : Nat.count refused (taken + 1) = Nat.count refused taken :=
    Nat.count_succ_eq_count_iff.2 ok
  refine ⟨.inr ⟨rfl, ?_⟩, through.going, ?_, ?_, ?_, ?_⟩
  · show younger.toList.length < options.window
    omega
  · rw [rest_eq]
    exact (window ▸ through.inTurn).tail
  · show loop.remaining.toNat + (taken + 1 + younger.toList.length) = _
    omega
  · intro number hnumber again
    rcases Nat.lt_succ_iff_lt_or_eq.1 hnumber with hlt | rfl
    · obtain ⟨hrepeat, hattempt⟩ := through.repeated number hlt again
      refine ⟨Nat.lt_of_lt_of_eq hrepeat ?_, hattempt⟩
      show _ = taken + 1 + younger.toList.length
      omega
    · exact absurd again ok
  · have hfew := options.messages.toNat_lt
    show (loop.counts.completed + 1).toNat + _ = _
    rw [UInt64.toNat_add, UInt64.toNat_one, Nat.mod_eq_of_lt (by omega)]
    omega

/-- A message was refused, and is submitted once more. -/
theorem again (through : IsThrough refused options taken loop)
    (window : loop.window.toList = oldest :: rest)
    (must : options.window ≤ loop.window.toList.length ∨ loop.remaining = 0)
    (again : refused taken) (below : oldest.attempts < options.maxAttempts)
    (rest_eq : younger.toList = rest)
    (submitted : IsSubmitted ⟨oldest.id, oldest.attempts + 1, taken + loop.window.toList.length⟩
      ⟨.resending ⟨oldest.id, oldest.attempts⟩, loop.remaining, younger, loop.draining,
        loop.counts⟩ next) : IsThrough refused options (taken + 1) next := by
  have hnext : next.window.toList.length = loop.window.toList.length := by
    rw [submitted.window, window, rest_eq, List.length_append, List.length_singleton,
      List.length_cons]
  have hremaining : next.remaining = loop.remaining := submitted.remaining
  have hroom := through.window_le
  have hcount := through.left
  have hmore : Nat.count refused (taken + 1) = Nat.count refused taken + 1 :=
    Nat.count_succ_eq_succ_count_iff.2 again
  have hrepeat := through.repeatOf_eq must
  have hinTurn := window ▸ through.inTurn
  have hattempt := hinTurn.attempt
  refine ⟨.inl ⟨submitted.here, by omega⟩, submitted.going, ?_, ?_, ?_, ?_⟩
  · rw [submitted.window, rest_eq]
    have hticket : taken + loop.window.toList.length = taken + 1 + rest.length := by
      rw [window, List.length_cons]
      omega
    refine hinTurn.tail.push hticket ?_
    rw [toNat_succ_of_lt below]
    exact hrepeat ▸ .again hattempt again
  · rw [hremaining]
    omega
  · intro number hnumber again'
    rcases Nat.lt_succ_iff_lt_or_eq.1 hnumber with hlt | rfl
    · obtain ⟨hbefore, hattempt⟩ := through.repeated number hlt again'
      exact ⟨by omega, hattempt⟩
    · have hbelow := UInt32.lt_iff_toNat_lt.1 below
      exact ⟨by omega, _, by omega, hattempt⟩
  · have hcompleted := through.completed
    rw [submitted.counts]
    show loop.counts.completed.toNat + _ = _
    omega

end IsThrough

/-! ## Less is left to do -/

theorem IsSubmitted.effort_eq (cap : Nat) (submitted : IsSubmitted submission loop next) :
    next.effort cap = next.remaining.toNat * (cap + 2) +
      (loop.window.toList.map (InFlight.effort cap)).sum + submission.effort cap := by
  rw [Loop.effort, submitted.here, submitted.window, List.map_append, List.sum_append,
    List.map_singleton, List.sum_singleton, ← Nat.add_assoc]
  rfl

/-- A new message that is submitted takes fewer attempts than it had cost. -/
theorem effort_send {id : UInt64} {ticket : Ticket} (cap : Nat) (left : loop.remaining ≠ 0)
    (submitted : IsSubmitted ⟨id, 1, ticket⟩ { loop with point := .sending id } next) :
    next.effort cap < loop.effort cap := by
  have hfewer : next.remaining.toNat + 1 = loop.remaining.toNat := by
    rw [submitted.remaining]
    exact toNat_sub_one left
  rw [submitted.effort_eq, Loop.effort, ← hfewer, Nat.succ_mul, InFlight.effort, UInt32.toNat_one]
  dsimp only
  omega

/-- A message that was accepted takes no more attempts. -/
theorem effort_accept (cap : Nat) (window : loop.window.toList = oldest :: rest)
    (rest_eq : younger.toList = rest) (counts : Counts) :
    Loop.effort cap ⟨onward loop.remaining, loop.remaining, younger, loop.draining, counts⟩ <
      loop.effort cap := by
  have honward : (onward loop.remaining).effort cap = 0 := by
    rcases onward_cases loop.remaining with ⟨-, hon⟩ | ⟨-, hon⟩ <;> rw [hon] <;> rfl
  rw [Loop.effort, Loop.effort, window, List.map_cons, List.sum_cons, InFlight.effort]
  dsimp only
  rw [honward, rest_eq]
  omega

/-- A message that is submitted once more takes one attempt less. -/
theorem effort_again {ticket : Ticket} (below : oldest.attempts < options.maxAttempts)
    (window : loop.window.toList = oldest :: rest) (rest_eq : younger.toList = rest)
    (submitted : IsSubmitted ⟨oldest.id, oldest.attempts + 1, ticket⟩
      ⟨.resending ⟨oldest.id, oldest.attempts⟩, loop.remaining, younger, loop.draining,
        loop.counts⟩ next) :
    next.effort options.maxAttempts.toNat < loop.effort options.maxAttempts.toNat := by
  have hremaining : next.remaining = loop.remaining := submitted.remaining
  have hnext := toNat_succ_of_lt below
  rw [UInt32.lt_iff_toNat_lt] at below
  rw [submitted.effort_eq, Loop.effort, hremaining, window, List.map_cons, List.sum_cons,
    InFlight.effort, InFlight.effort, hnext]
  dsimp only
  rw [rest_eq]
  omega

/-! ## To the end -/

/-- How the loop has ended: every message was accepted, or one was refused as often as it may be
sent. -/
inductive EndsBy (refused : Nat → Prop) [DecidablePred refused] (options : Options) (loop : Loop) :
    Prop where
  | completed (here : loop.point = .halted (.ok .completed))
    (spared : ¬ Exhausts refused options.window options.messages.toNat
      (max 1 options.maxAttempts.toNat))
    (all : loop.counts.completed = options.messages)
  | exceeded (here : loop.point = .halted (.ok .attemptsExceeded))
    (exhausts : Exhausts refused options.window options.messages.toNat
      (max 1 options.maxAttempts.toNat))

/-- The loop goes on to where it is through with so many receipts, and has less left to do. -/
structure Advances (name : String) (options : Options) (handle : Handle) (refused : Nat → Prop)
    [DecidablePred refused] (loop : Loop) (shared : Shared Docket) (taken : Nat) (next : Loop)
    (sharing : Shared Docket) : Prop where
  goes : Goes name options handle ⟨[], loop⟩ shared ⟨[], next⟩ sharing
  through : IsThrough refused options taken next
  refuses : sharing.client.Refuses refused
  sent : sharing.client.sent.length = taken + next.window.toList.length
  nearer : next.effort options.maxAttempts.toNat < loop.effort options.maxAttempts.toNat

namespace IsThrough

/-- With no message left and nothing in flight, all messages were accepted. -/
theorem endsBy_completed (through : IsThrough refused options taken loop)
    (done : loop.remaining = 0) (empty : loop.window.toList = []) :
    EndsBy refused options { loop with point := .halted (.ok .completed) } := by
  have hcount := through.left
  rw [done, empty, UInt64.toNat_zero, List.length_nil, Nat.add_zero, Nat.zero_add] at hcount
  have hcompleted := through.completed
  refine .completed rfl ?_ (UInt64.toNat_inj.1 (by show loop.counts.completed.toNat = _; omega))
  exact not_exhausts (Nat.le_max_left _ _) (Nat.le_max_left _ _) hcount
    fun number hnumber again => (through.repeated number hnumber again).2

/-- A message that was refused as often as it may be sent was the end. -/
theorem endsBy_exceeded (through : IsThrough refused options taken loop)
    (window : loop.window.toList = oldest :: rest) (again : refused taken)
    (cap : options.maxAttempts ≤ oldest.attempts) (younger : Fifo InFlight) :
    EndsBy refused options
      { loop with window := younger, point := .halted (.ok .attemptsExceeded) } := by
  have hcount := through.left
  rw [window, List.length_cons] at hcount
  have hattempt := (window ▸ through.inTurn).attempt
  have hpos := hattempt.pos
  rw [UInt32.le_iff_toNat_le] at cap
  exact .exceeded rfl (hattempt.exhausts (by rw [IsMade]; omega) again (by omega))

/-- A loop that takes a receipt begins its turn before. -/
theorem goes_turn (name : String) (handle : Handle)
    (through : IsThrough refused options taken loop)
    (must : options.window ≤ loop.window.toList.length ∨ loop.remaining = 0)
    (shared : Shared Docket) :
    Goes name options handle ⟨[], loop⟩ shared ⟨[], { loop with point := .head }⟩ shared := by
  rcases through.place with ⟨here, -⟩ | ⟨here, room⟩
  · rw [show ({ loop with point := .head } : Loop) = loop by rw [← here]]
    exact .refl _ _
  · exact Pipelined.goes_turn name options handle loop shared (.inr here)
      (must.resolve_left (Nat.not_le.2 room)) through.going

/-- A loop that has a message left and room for it submits it. -/
theorem exists_sent (through : IsThrough refused options taken loop)
    (refuses : shared.client.Refuses refused)
    (sent : shared.client.sent.length = taken + loop.window.toList.length)
    (left : loop.remaining ≠ 0) (room : loop.window.toList.length < options.window) :
    ∃ next sharing, Advances name options handle refused loop shared taken next sharing := by
  have hsending := goes_sending name options handle loop shared through.free left room
  have hminted : (shared.answer false .mint).client.client.Refuses refused := refuses
  obtain ⟨next, sharing, submitted, hsubmitted, hrefuses, hsent⟩ :=
    exists_submitted name options handle
      { loop with point := .sending (shared.answer false .mint).reply }
      (shared.answer false .mint).client hminted rfl through.going
  have hlength : next.window.toList.length = loop.window.toList.length + 1 := by
    rw [submitted.window, List.length_append, List.length_singleton]
  have hsubmission := sent ▸ submitted
  refine ⟨next, sharing, hsending.trans hsubmitted, through.send left room hsubmission, hrefuses,
    ?_, effort_send _ left submitted⟩
  rw [hsent, hlength, ← Nat.add_assoc]
  exact congrArg (· + 1) sent

/-- A loop that has a message to send once more submits it. -/
theorem exists_again {between : Shared Docket} (through : IsThrough refused options taken loop)
    (refuses : shared.client.Refuses refused)
    (sent : shared.client.sent.length = taken + loop.window.toList.length)
    (window : loop.window.toList = oldest :: rest)
    (must : options.window ≤ loop.window.toList.length ∨ loop.remaining = 0)
    (again : refused taken) (below : oldest.attempts < options.maxAttempts)
    (rest_eq : younger.toList = rest)
    (goes : Goes name options handle ⟨[], loop⟩ shared
      ⟨[], ⟨.resending ⟨oldest.id, oldest.attempts⟩, loop.remaining, younger, loop.draining,
        loop.counts⟩⟩ between) (client_eq : between.client = shared.client) :
    ∃ next sharing,
      Advances name options handle refused loop shared (taken + 1) next sharing := by
  rw [← client_eq] at refuses sent
  obtain ⟨next, sharing, submitted, hsubmitted, hrefuses, hsent⟩ :=
    exists_submitted name options handle ⟨.resending ⟨oldest.id, oldest.attempts⟩,
      loop.remaining, younger, loop.draining, loop.counts⟩ between refuses rfl through.going
  have hlength : next.window.toList.length = loop.window.toList.length := by
    rw [submitted.window, window, rest_eq, List.length_append, List.length_singleton,
      List.length_cons]
  have hsubmission := sent ▸ submitted
  refine ⟨next, sharing, goes.trans hsubmitted,
    through.again window must again below rest_eq hsubmission, hrefuses, ?_,
    effort_again below window rest_eq submitted⟩
  rw [hsent, sent, hlength, Nat.add_right_comm]

/-- A loop that takes a receipt goes on, or has been refused too often. -/
theorem exists_taken (through : IsThrough refused options taken loop)
    (refuses : shared.client.Refuses refused)
    (sent : shared.client.sent.length = taken + loop.window.toList.length)
    (window : loop.window.toList = oldest :: rest)
    (must : options.window ≤ loop.window.toList.length ∨ loop.remaining = 0) :
    (∃ next sharing, Advances name options handle refused loop shared (taken + 1) next sharing) ∨
      ∃ last sharing, Goes name options handle ⟨[], loop⟩ shared ⟨[], last⟩ sharing ∧
        EndsBy refused options last := by
  obtain ⟨answer, hanswer, hstatus⟩ := refuses taken
  have hticket : oldest.ticket = taken := (window ▸ through.inTurn).ticket_eq
  have hanswered : shared.client.receipt oldest.ticket = .ok answer := by
    have hlt : taken < shared.client.sent.length := by
      rw [sent, window, List.length_cons]
      omega
    rw [hticket, Docket.receipt, if_pos hlt, hanswer]
  obtain ⟨younger, hyounger, hcollecting⟩ := goes_collecting name options handle
    { loop with point := .head } shared rfl through.going window must
  have hsettled := (through.goes_turn name handle must shared).trans
    (hcollecting.trans (goes_settled name options handle
      { loop with window := younger, point := .collecting oldest } shared rfl hanswered))
  by_cases hok : answer.status = .ok
  · left
    rw [Move.settle_of_ok hok] at hsettled
    refine ⟨_, _, hsettled, through.accept window (hstatus.1 hok) hyounger, ?_, ?_,
      effort_accept _ window hyounger _⟩
    · rw [Shared.client_absorbAll]
      exact refuses
    · rw [Shared.client_absorbAll, sent, window, List.length_cons, ← hyounger]
      show _ = taken + 1 + younger.toList.length
      omega
  have hagain : refused taken := by
    by_contra hnot
    exact hok (hstatus.2 hnot)
  by_cases hcap : options.maxAttempts ≤ oldest.attempts
  · right
    rw [Move.settle_of_cap hok hcap] at hsettled
    exact ⟨_, _, hsettled, through.endsBy_exceeded window hagain hcap younger⟩
  · left
    have hbelow := UInt32.not_le.1 hcap
    have hproceed := Move.proceed_some_of_going
      (show (Loop.mk (.collecting oldest) loop.remaining younger loop.draining loop.counts).draining
        = false from through.going) ⟨oldest.id, oldest.attempts⟩
    rw [Move.settle_of_below hok hbelow] at hsettled
    dsimp only at hsettled
    rw [hproceed] at hsettled
    exact through.exists_again refuses sent window must hagain hbelow hyounger hsettled
      (shared.client_absorbAll _)

/-- A loop with a docket that holds a receipt for every submission comes to its end. -/
theorem exists_endsBy (through : IsThrough refused options taken loop)
    (refuses : shared.client.Refuses refused)
    (sent : shared.client.sent.length = taken + loop.window.toList.length) :
    ∃ last sharing, Goes name options handle ⟨[], loop⟩ shared ⟨[], last⟩ sharing ∧
      EndsBy refused options last := by
  -- by induction on what is left to do
  generalize heffort : loop.effort options.maxAttempts.toNat = effort
  induction effort using Nat.strongRecOn generalizing taken loop shared with
  | _ effort ih =>
    have hcontinue : ∀ {taken' : Nat} {next : Loop} {sharing : Shared Docket},
        Advances name options handle refused loop shared taken' next sharing →
        ∃ last sharing, Goes name options handle ⟨[], loop⟩ shared ⟨[], last⟩ sharing ∧
          EndsBy refused options last := by
      intro taken' next sharing advances
      obtain ⟨last, sharing', hgoes, hends⟩ := ih _ (heffort ▸ advances.nearer) advances.through
        advances.refuses advances.sent rfl
      exact ⟨last, sharing', advances.goes.trans hgoes, hends⟩
    by_cases hroom : loop.remaining ≠ 0 ∧ loop.window.toList.length < options.window
    · obtain ⟨next, sharing, advances⟩ := through.exists_sent refuses sent hroom.1 hroom.2
      exact hcontinue advances
    have hmust : options.window ≤ loop.window.toList.length ∨ loop.remaining = 0 := by
      rw [not_and_or, not_not, Nat.not_lt] at hroom
      exact hroom.symm
    cases hwindow : loop.window.toList with
    | nil =>
      have hdone : loop.remaining = 0 := by
        refine hmust.resolve_left ?_
        rw [hwindow, Nat.not_le]
        exact Nat.lt_of_lt_of_le Nat.one_pos (Nat.le_max_left _ _)
      have hcompleted := goes_completed name options handle loop shared through.free hdone
        through.going hwindow
      exact ⟨_, shared, hcompleted, through.endsBy_completed hdone hwindow⟩
    | cons oldest rest =>
      rcases through.exists_taken refuses sent hwindow hmust with ⟨next, sharing, advances⟩ | hends
      · exact hcontinue advances
      · exact hends

end IsThrough

/-- A loop that has not begun comes to its end. -/
theorem exists_endsBy (name : String) (options : Options) (handle : Handle)
    (shared : Shared Docket) (refuses : shared.client.Refuses refused)
    (fresh : shared.client.sent = []) :
    ∃ last sharing, Goes name options handle ⟨[], .start options⟩ shared ⟨[], last⟩ sharing ∧
      EndsBy refused options last :=
  (IsThrough.start options).exists_endsBy refuses (by rw [fresh]; rfl)

end Pipelined
end Producer
end BrokerLoad
