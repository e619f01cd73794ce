import BrokerLoad.Proofs.Docket.Pipelined
import BrokerLoad.Producer.Blocking

/-!
# A pipelined producer abreast of a blocking one

A pipelined producer with one submission in flight and a blocking producer, each with a docket
of its own, are *abreast* when they are about to send the same message for the same time.  Then
they have the same receipt to come (`Abreast.round`).  The blocking one deals with it at once;
the pipelined one first ends its turn and waits, and asks for nothing on that way that the
blocking one does not.  After it they are abreast again, with the next attempt, or both have
done with the message, or both have given up.

So they come to the same end (`AtTurn.endLevel`), by induction on the messages that are left
and, for each message, on the attempts that may still be made at it.
-/

namespace BrokerLoad
namespace Producer

/-! ## A pipelined producer with one submission in flight -/

/-- The counts after a submission, for a producer that has one in flight at most. -/
def Counts.tally (counts : Counts) (attempt : UInt32) : Counts :=
  { counts with
    submitted := counts.submitted + 1
    retried := if 1 < attempt then counts.retried + 1 else counts.retried
    peakInFlight := 1 }

/-- The window of a producer that may have one submission in flight. -/
theorem Options.window_eq_one {options : Options} (single : options.maxInFlight ≤ 1) :
    options.window = 1 := by
  have hle := UInt64.le_iff_toNat_le.1 single
  rw [UInt64.toNat_one] at hle
  rw [Options.window]
  omega

namespace Pipelined

variable {options : Options} {loop collected : Loop} {id : UInt64} {attempt : UInt32}
  {ticket : Ticket} {shared : Shared Docket}

/-- What a loop with one submission in flight at most keeps to while it is about to submit. -/
structure IsSubmitting (options : Options) (id : UInt64) (attempt : UInt32) (loop : Loop) :
    Prop where
  submits : loop.point.submits? = some (id, attempt)
  empty : loop.window.toList = []
  going : loop.draining = false
  peak : loop.counts.peakInFlight ≤ 1
  /-- What is repeated was submitted before, and may be submitted again. -/
  again : ∀ retry, loop.point = .resending retry →
    retry.attempts ≠ 0 ∧ retry.attempts < options.maxAttempts

/-- A submission of which the receipt is to be collected. -/
structure IsCollecting (id : UInt64) (attempt : UInt32) (ticket : Ticket) (before after : Loop) :
    Prop where
  here : after.point = .collecting ⟨id, attempt, ticket⟩
  empty : after.window.toList = []
  going : after.draining = false
  remaining : after.remaining = before.rest
  counts : after.counts = before.counts.tally attempt

/-- What is submitted is submitted for the first time, or for a later one. -/
theorem IsSubmitting.attempt_ne_zero (submitting : IsSubmitting options id attempt loop) :
    attempt ≠ 0 := by
  rcases Point.of_submits? submitting.submits with ⟨-, rfl⟩ | ⟨retry, here, -, rfl⟩
  · decide
  · rw [ne_eq, ← UInt32.toNat_inj, toNat_succ_of_lt (submitting.again retry here).2]
    exact Nat.succ_ne_zero _

/-- A submission is a repeat if its attempt is not the first. -/
theorem IsSubmitting.repeats_eq (submitting : IsSubmitting options id attempt loop) :
    loop.repeats = if 1 < attempt then loop.counts.retried + 1 else loop.counts.retried := by
  rcases Point.of_submits? submitting.submits with ⟨here, rfl⟩ | ⟨retry, here, -, rfl⟩
  · rw [Loop.repeats, here, if_neg (by decide)]
  · obtain ⟨hmade, hbelow⟩ := submitting.again retry here
    have hrepeat : 1 < retry.attempts + 1 := by
      have hpos := UInt32.toNat_inj.not.2 hmade
      rw [UInt32.toNat_zero] at hpos
      rw [UInt32.lt_iff_toNat_lt, toNat_succ_of_lt hbelow, UInt32.toNat_one]
      omega
    rw [Loop.repeats, here, if_pos hrepeat]

theorem IsCollecting.peak {before : Loop}
    (collecting : IsCollecting id attempt ticket before collected) :
    collected.counts.peakInFlight ≤ 1 := by
  rw [collecting.counts]
  exact UInt64.le_refl _

/-- A submission that is taken on: its receipt is what is collected next. -/
theorem IsSubmitting.goes (name : String) (handle : Handle) {answer : Receipt}
    (submitting : IsSubmitting options id attempt loop) (single : options.window = 1)
    (upcoming : shared.client.upcoming = .ok answer) :
    ∃ collected : Loop, IsCollecting id attempt shared.client.sent.length loop collected ∧
      Goes name options handle ⟨[], loop⟩ shared ⟨[], collected⟩
        ((shared.serving (.write handle (options.message id attempt))).absorbAll
          (announce (options.message id attempt))) := by
  obtain ⟨waiting, submitted, hsubmitted⟩ := goes_submitted name options handle loop shared
    submitting.submits submitting.going upcoming
  have hwindow := submitted.window
  rw [submitting.empty, List.nil_append] at hwindow
  have hcounts : waiting.counts = loop.counts.tally attempt := by
    have hpeak : max loop.counts.peakInFlight 1 = 1 := if_pos submitting.peak
    rw [submitted.counts, hwindow, submitting.repeats_eq, count, Counts.tally]
    exact congrArg _ hpeak
  have hfull : options.window ≤ waiting.window.toList.length := by
    rw [single, hwindow]
    exact Nat.le_refl 1
  obtain ⟨younger, hyounger, hcollecting⟩ := goes_collecting name options handle waiting
    ((shared.serving (.write handle (options.message id attempt))).absorbAll
      (announce (options.message id attempt))) submitted.here submitted.going hwindow (.inl hfull)
  have collecting : IsCollecting id attempt shared.client.sent.length loop
      { waiting with
        window := younger, point := .collecting ⟨id, attempt, shared.client.sent.length⟩ } :=
    ⟨rfl, hyounger, submitted.going, submitted.remaining, hcounts⟩
  exact ⟨_, collecting, hsubmitted.trans hcollecting⟩

/-- What a loop with one submission in flight at most keeps to when a message is done, and in the
beginning. -/
structure IsResting (loop : Loop) : Prop where
  free : loop.IsFree
  empty : loop.window.toList = []
  going : loop.draining = false
  peak : loop.counts.peakInFlight ≤ 1

end Pipelined

/-! ## A blocking producer with a docket -/

namespace Blocking

variable (name : String) (options : Options) (handle : Handle) (loop : Loop)
  (shared : Shared Docket) {id : UInt64} {attempt : UInt32}

/-- A write that is answered is counted, and its receipt dealt with. -/
theorem gets_settled {answer : Receipt} (here : loop.point = .writing id attempt)
    (upcoming : shared.client.upcoming = .ok answer) :
    Gets (request name options handle) ⟨[], loop⟩ shared
      ⟨[], ((loop.tally attempt).settle name options id attempt answer).now⟩
      (((shared.serving (.write handle (options.message id attempt))).absorbAll
        (announce (options.message id attempt))).absorbAll
          ((loop.tally attempt).settle name options id attempt answer).pending) := by
  obtain ⟨point, sent, counts⟩ := loop
  dsimp only at here
  subst here
  have hwrite : Gets (request name options handle) ⟨[], ⟨.writing id attempt, sent, counts⟩⟩ shared
      _ _ := Gets.ask _ _ rfl (Except.ok answer : Except Fault Receipt) upcoming.symm
  have hemit := hwrite.trans (Gets.emits _ _ _)
  rwa [Shared.absorbAll, List.foldl_append] at hemit

/-- A write that ends in a fault ends the loop. -/
theorem gets_crashed {fault : Fault} (here : loop.point = .writing id attempt)
    (upcoming : shared.client.upcoming = .error fault) :
    Gets (request name options handle) ⟨[], loop⟩ shared
      ⟨[], { loop with point := .halted (.error fault) }⟩
      (shared.serving (.write handle (options.message id attempt))) := by
  obtain ⟨point, sent, counts⟩ := loop
  dsimp only at here
  subst here
  have hwrite : Gets (request name options handle) ⟨[], ⟨.writing id attempt, sent, counts⟩⟩ shared
      _ _ := Gets.ask _ _ rfl (Except.error fault : Except Fault Receipt) upcoming.symm
  exact hwrite

/-- A message that was refused is written again, when nobody asks to stop. -/
theorem gets_again (here : loop.point = .afterRefusal id attempt) :
    Gets (request name options handle) ⟨[], loop⟩ shared
      ⟨[], { loop with point := .writing id (attempt + 1) }⟩ shared := by
  obtain ⟨point, sent, counts⟩ := loop
  dsimp only at here
  subst here
  have hlook : Gets (request name options handle) ⟨[], ⟨.afterRefusal id attempt, sent, counts⟩⟩
      shared _ _ := Gets.ask _ _ rfl false rfl
  exact hlook

/-- After a message that was accepted the loop turns to the next, when nobody asks to stop. -/
theorem gets_head (here : loop.point = .afterAcceptance) :
    Gets (request name options handle) ⟨[], loop⟩ shared
      ⟨[], { loop with sent := loop.sent + 1, point := .head }⟩ shared := by
  obtain ⟨point, sent, counts⟩ := loop
  dsimp only at here
  subst here
  have hlook : Gets (request name options handle) ⟨[], ⟨.afterAcceptance, sent, counts⟩⟩ shared
      _ _ := Gets.ask _ _ rfl false rfl
  exact hlook

/-- With no message left the loop is over. -/
theorem gets_completed (here : loop.point = .head) (done : ¬ loop.sent < options.messages) :
    Gets (request name options handle) ⟨[], loop⟩ shared
      ⟨[], { loop with point := .halted (.ok .completed) }⟩ shared := by
  obtain ⟨point, sent, counts⟩ := loop
  dsimp only at here done
  subst here
  have hfinish : Gets (request name options handle) ⟨[], ⟨.head, sent, counts⟩⟩ shared _ _ :=
    Gets.ask _ _ rfl () rfl
  rwa [if_neg done] at hfinish

/-- With a message left the loop takes an id for it and is about to write it. -/
theorem gets_writing (here : loop.point = .head) (left : loop.sent < options.messages) :
    Gets (request name options handle) ⟨[], loop⟩ shared
      ⟨[], { loop with point := .writing (shared.answer false .mint).reply 1 }⟩
      (shared.answer false .mint).client := by
  obtain ⟨point, sent, counts⟩ := loop
  dsimp only at here left
  subst here
  have hrenew : Gets (request name options handle) ⟨[], ⟨.head, sent, counts⟩⟩ shared _ _ :=
    Gets.ask _ _ rfl () rfl
  rw [if_pos left] at hrenew
  have hmint : Gets (request name options handle) ⟨[], ⟨.minting, sent, counts⟩⟩ shared _ _ :=
    Gets.ask _ _ rfl _ rfl
  exact hrenew.trans hmint

end Blocking

/-! ## Two producers side by side -/

variable {name : String} {options : Options} {handle : Handle} {id : UInt64} {attempt : UInt32}
  {piped next last : Pipelined.Loop} {blocked next' last' : Blocking.Loop}
  {shared meanwhile sharing : Shared Docket}

/-- A pipelined and a blocking loop, each left to itself: where they get to, and what becomes of
what is shared, which is the same for both but for the delays. -/
structure BothGo (name : String) (options : Options) (handle : Handle) (piped : Pipelined.Loop)
    (blocked : Blocking.Loop) (shared : Shared Docket) (next : Pipelined.Loop)
    (next' : Blocking.Loop) (sharing : Shared Docket) : Prop where
  piped : Pipelined.Goes name options handle ⟨[], piped⟩ shared ⟨[], next⟩ sharing
  blocked : Gets (Blocking.request name options handle) ⟨[], blocked⟩ shared ⟨[], next'⟩ sharing

theorem BothGo.trans (first : BothGo name options handle piped blocked shared next next' meanwhile)
    (rest : BothGo name options handle next next' meanwhile last last' sharing) :
    BothGo name options handle piped blocked shared last last' sharing :=
  ⟨first.piped.trans rest.piped, first.blocked.trans rest.blocked⟩

/-- Two loops that are over, with the same outcome and the same counts. -/
def AreLevel (outcome : Outcome) (piped : Pipelined.Loop) (blocked : Blocking.Loop) : Prop :=
  piped.point = .halted outcome ∧ blocked.point = .halted outcome ∧ piped.counts = blocked.counts

/-- Two loops that are about to send the same message for the same time. -/
structure Abreast (options : Options) (id : UInt64) (attempt : UInt32) (piped : Pipelined.Loop)
    (blocked : Blocking.Loop) : Prop where
  submitting : Pipelined.IsSubmitting options id attempt piped
  writing : blocked.point = .writing id attempt
  counts : piped.counts = blocked.counts
  left : piped.rest.toNat + (blocked.sent.toNat + 1) = options.messages.toNat

/-- Two loops that are between two messages. -/
structure AtTurn (options : Options) (piped : Pipelined.Loop) (blocked : Blocking.Loop) :
    Prop where
  resting : Pipelined.IsResting piped
  here : blocked.point = .head
  counts : piped.counts = blocked.counts
  left : piped.remaining.toNat + blocked.sent.toNat = options.messages.toNat

/-- Both loops end in the beginning of a turn if no message is left. -/
theorem AtTurn.completed (name : String) (handle : Handle) (turn : AtTurn options piped blocked)
    (done : piped.remaining = 0) (shared : Shared Docket) :
    BothGo name options handle piped blocked shared { piped with point := .halted (.ok .completed) }
      { blocked with point := .halted (.ok .completed) } shared := by
  have hdone : ¬ blocked.sent < options.messages := by
    have hleft := turn.left
    rw [done, UInt64.toNat_zero, Nat.zero_add] at hleft
    rw [UInt64.lt_iff_toNat_lt, hleft]
    exact Nat.lt_irrefl _
  exact ⟨Pipelined.goes_completed name options handle piped shared turn.resting.free done
    turn.resting.going turn.resting.empty,
    Blocking.gets_completed name options handle blocked shared turn.here hdone⟩

/-- Both loops are about to send the same message next if one is left. -/
theorem AtTurn.renewed (name : String) (handle : Handle) (turn : AtTurn options piped blocked)
    (single : options.window = 1) (left : piped.remaining ≠ 0) (shared : Shared Docket) :
    ∃ next next', BothGo name options handle piped blocked shared next next'
        (shared.answer false .mint).client ∧
      Abreast options (shared.answer false .mint).reply 1 next next' ∧
      next.rest.toNat + 1 = piped.remaining.toNat := by
  have hrest : (piped.remaining - 1).toNat + 1 = piped.remaining.toNat := toNat_sub_one left
  have hleft := turn.left
  have hsent : blocked.sent < options.messages := by
    rw [UInt64.lt_iff_toNat_lt]
    omega
  have hroom : piped.window.toList.length < options.window := by
    rw [turn.resting.empty, single]
    exact Nat.one_pos
  refine ⟨_, _, ⟨Pipelined.goes_sending name options handle piped shared turn.resting.free left
    hroom, Blocking.gets_writing name options handle blocked shared turn.here hsent⟩, ?_, hrest⟩
  have hagain : ∀ retry, Pipelined.Point.sending (shared.answer false .mint).reply =
      .resending retry → retry.attempts ≠ 0 ∧ retry.attempts < options.maxAttempts :=
    fun retry hpoint => nomatch hpoint
  refine ⟨⟨rfl, turn.resting.empty, turn.resting.going, turn.resting.peak, hagain⟩, rfl,
    turn.counts, ?_⟩
  show (piped.remaining - 1).toNat + (blocked.sent.toNat + 1) = options.messages.toNat
  omega

/-! ## One receipt -/

/-- What both loops do about a receipt is made known alike. -/
theorem settle_pending_eq (name : String) (oldest : Pipelined.InFlight) (answer : Receipt)
    (piped : Pipelined.Loop) (blocked : Blocking.Loop) :
    (piped.settle name options oldest answer).pending =
      (blocked.settle name options oldest.id oldest.attempts answer).pending := by
  rw [Pipelined.Loop.settle, Blocking.Loop.settle]
  cases Disposition.ofStatus answer.status oldest.attempts options.maxAttempts <;> rfl

/-- What comes of the receipt of an attempt at a message: both loops are done with the message, or
both are about to send it once more, or both give up. -/
inductive Onward (options : Options) (id : UInt64) (attempt : UInt32) (rest : UInt64)
    (piped : Pipelined.Loop) (blocked : Blocking.Loop) : Prop where
  | turns (turn : AtTurn options piped blocked) (left : piped.remaining = rest)
  | repeats (abreast : Abreast options id (attempt + 1) piped blocked)
    (below : attempt < options.maxAttempts) (left : piped.rest = rest)
  | gives (level : AreLevel (.ok .attemptsExceeded) piped blocked)

variable {collected : Pipelined.Loop} {ticket : Ticket}

/-- The write that is answered is counted by both. -/
theorem Abreast.counts_eq (abreast : Abreast options id attempt piped blocked)
    (collecting : Pipelined.IsCollecting id attempt ticket piped collected) :
    collected.counts = (blocked.tally attempt).counts := by
  rw [collecting.counts, abreast.counts]
  rfl

/-- A message that was accepted is done for both loops. -/
theorem Abreast.accepted (abreast : Abreast options id attempt piped blocked)
    (collecting : Pipelined.IsCollecting id attempt ticket piped collected) :
    Onward options id attempt piped.rest (collected.complete.proceed none)
      { (blocked.tally attempt).complete with sent := blocked.sent + 1, point := .head } := by
  have hsent : (blocked.sent + 1).toNat = blocked.sent.toNat + 1 := by
    have hleft := abreast.left
    have hfew := options.messages.toNat_lt
    rw [UInt64.toNat_add, UInt64.toNat_one, Nat.mod_eq_of_lt (by omega)]
  rw [Pipelined.Move.proceed_none]
  refine .turns ⟨⟨.inr rfl, collecting.empty, collecting.going, collecting.peak⟩, rfl,
    congrArg Counts.complete (abreast.counts_eq collecting), ?_⟩ collecting.remaining
  show collected.remaining.toNat + (blocked.sent + 1).toNat = _
  rw [collecting.remaining, hsent]
  exact abreast.left

/-- A message that was refused below the cap is sent once more by both. -/
theorem Abreast.refused (abreast : Abreast options id attempt piped blocked)
    (collecting : Pipelined.IsCollecting id attempt ticket piped collected)
    (below : attempt < options.maxAttempts) :
    Onward options id attempt piped.rest (collected.proceed (some ⟨id, attempt⟩))
      { blocked.tally attempt with point := .writing id (attempt + 1) } := by
  have hagain : ∀ retry, Pipelined.Point.resending ⟨id, attempt⟩ = .resending retry →
      retry.attempts ≠ 0 ∧ retry.attempts < options.maxAttempts := by
    rintro _ ⟨⟩
    exact ⟨abreast.submitting.attempt_ne_zero, below⟩
  have hcounts := abreast.counts_eq collecting
  rw [Pipelined.Move.proceed_some_of_going collecting.going]
  refine .repeats ⟨⟨rfl, collecting.empty, collecting.going, collecting.peak, hagain⟩, rfl,
    hcounts, ?_⟩ below collecting.remaining
  show collected.remaining.toNat + _ = _
  rw [collecting.remaining]
  exact abreast.left

/-- A message that may be sent again has not been sent as often as it may be. -/
theorem lt_of_ofStatus {status : WriteStatus} {maxAttempts : UInt32}
    (refused : Disposition.ofStatus status attempt maxAttempts ≠ .ok)
    (spared : Disposition.ofStatus status attempt maxAttempts ≠ .attemptsExceeded) :
    attempt < maxAttempts := by
  by_contra hcap
  rw [UInt32.not_lt] at hcap
  by_cases hok : status = .ok
  · exact refused (if_pos hok)
  · exact spared (by rw [Disposition.ofStatus, if_neg hok, if_pos hcap])

/-- Both loops deal with a receipt alike. -/
theorem Abreast.settled (name : String) (handle : Handle)
    (abreast : Abreast options id attempt piped blocked)
    (collecting : Pipelined.IsCollecting id attempt ticket piped collected) (answer : Receipt)
    (shared : Shared Docket) :
    ∃ next', Gets (Blocking.request name options handle)
        ⟨[], ((blocked.tally attempt).settle name options id attempt answer).now⟩ shared
        ⟨[], next'⟩ shared ∧
      Onward options id attempt piped.rest
        (collected.settle name options ⟨id, attempt, ticket⟩ answer).now next' := by
  have hagain := Blocking.gets_again name options handle
    ((blocked.tally attempt).goto (.afterRefusal id attempt)) shared rfl
  have hrefused : Disposition.ofStatus answer.status attempt options.maxAttempts ≠ .ok →
      Disposition.ofStatus answer.status attempt options.maxAttempts ≠ .attemptsExceeded →
      Onward options id attempt piped.rest (collected.proceed (some ⟨id, attempt⟩))
        { blocked.tally attempt with point := .writing id (attempt + 1) } :=
    fun refused spared => abreast.refused collecting (lt_of_ofStatus refused spared)
  have hcounts := abreast.counts_eq collecting
  rw [Pipelined.Loop.settle, Blocking.Loop.settle]
  cases hrule : Disposition.ofStatus answer.status attempt options.maxAttempts with
  | ok => exact ⟨_, Blocking.gets_head _ _ _ _ _ rfl, abreast.accepted collecting⟩
  | throttled => exact ⟨_, hagain, hrefused (by simp [hrule]) (by simp [hrule])⟩
  | failed => exact ⟨_, hagain, hrefused (by simp [hrule]) (by simp [hrule])⟩
  | attemptsExceeded => exact ⟨_, .refl _ _, .gives ⟨rfl, rfl, hcounts⟩⟩

/-- Two loops abreast have the same receipt to come, and deal with it alike. -/
theorem Abreast.round (name : String) (handle : Handle) {answer : Receipt}
    (abreast : Abreast options id attempt piped blocked) (single : options.window = 1)
    (upcoming : shared.client.upcoming = .ok answer) :
    ∃ next next' sharing, BothGo name options handle piped blocked shared next next' sharing ∧
      Onward options id attempt piped.rest next next' := by
  obtain ⟨collected, collecting, hcollected⟩ :=
    abreast.submitting.goes name handle single upcoming
  have hanswered : ((shared.serving (.write handle (options.message id attempt))).absorbAll
      (announce (options.message id attempt))).client.receipt shared.client.sent.length =
      .ok answer := by
    rw [Shared.client_absorbAll, ← upcoming]
    show Docket.receipt (shared.client.record _) _ = _
    rw [Docket.receipt, if_pos (by simp [Docket.record])]
    rfl
  have hpiped := hcollected.trans
    (Pipelined.goes_settled name options handle collected _ collecting.here hanswered)
  have hsettled := Blocking.gets_settled name options handle blocked shared abreast.writing
    upcoming
  obtain ⟨next', hnext, honward⟩ := abreast.settled name handle collecting answer _
  rw [settle_pending_eq name _ _ _ (blocked.tally attempt)] at hpiped
  exact ⟨_, next', _, ⟨hpiped, hsettled.trans hnext⟩, honward⟩

/-! ## To the end -/

/-- Two loops that are left to themselves come to the same end, and leave the same behind. -/
def EndLevel (name : String) (options : Options) (handle : Handle) (piped : Pipelined.Loop)
    (blocked : Blocking.Loop) (shared : Shared Docket) : Prop :=
  ∃ outcome last last' sharing,
    BothGo name options handle piped blocked shared last last' sharing ∧
      AreLevel outcome last last'

/-- Two loops that go to where they end level end level. -/
theorem EndLevel.of_go (go : BothGo name options handle piped blocked shared next next' sharing)
    (level : EndLevel name options handle next next' sharing) :
    EndLevel name options handle piped blocked shared := by
  obtain ⟨outcome, last, last', after, hgo, hlevel⟩ := level
  exact ⟨outcome, last, last', after, go.trans hgo, hlevel⟩

/-- Two loops abreast end level if they do so whenever they are done with the message. -/
theorem Abreast.endLevel (single : options.window = 1)
    (turns : ∀ piped' blocked' shared', AtTurn options piped' blocked' →
      piped'.remaining = piped.rest → EndLevel name options handle piped' blocked' shared')
    (abreast : Abreast options id attempt piped blocked) (shared : Shared Docket) :
    EndLevel name options handle piped blocked shared := by
  -- by induction on how often the message may still be sent after this
  generalize hspare : options.maxAttempts.toNat - attempt.toNat = spare
  induction spare using Nat.strongRecOn generalizing attempt piped blocked shared with
  | _ spare ih =>
    cases hupcoming : shared.client.upcoming with
    | error fault =>
      have hcrashed := Pipelined.goes_crashed name options handle piped shared
        abreast.submitting.submits hupcoming
      have hcrashed' := Blocking.gets_crashed name options handle blocked shared abreast.writing
        hupcoming
      exact ⟨.error fault, _, _, _, ⟨hcrashed, hcrashed'⟩, rfl, rfl, abreast.counts⟩
    | ok answer =>
      obtain ⟨next, next', sharing, hgo, honward⟩ :=
        abreast.round name handle single hupcoming
      refine .of_go hgo ?_
      cases honward with
      | turns turn left => exact turns next next' sharing turn left
      | gives level => exact ⟨_, next, next', sharing, ⟨.refl _ _, .refl _ _⟩, level⟩
      | repeats abreast below left =>
        have hnext := toNat_succ_of_lt below
        have hbelow := UInt32.lt_iff_toNat_lt.1 below
        exact ih _ (by omega) (left ▸ turns) abreast sharing rfl

/-- Two loops between two messages end level. -/
theorem AtTurn.endLevel (single : options.window = 1) (turn : AtTurn options piped blocked)
    (shared : Shared Docket) : EndLevel name options handle piped blocked shared := by
  generalize hleft : piped.remaining.toNat = left
  induction left generalizing piped blocked shared with
  | zero =>
    have hdone : piped.remaining = 0 := UInt64.toNat_inj.1 hleft
    exact ⟨_, _, _, _, turn.completed name handle hdone shared, rfl, rfl, turn.counts⟩
  | succ left ih =>
    have hsome : piped.remaining ≠ 0 := fun hnone => by
      rw [hnone, UInt64.toNat_zero] at hleft
      exact Nat.succ_ne_zero _ hleft.symm
    obtain ⟨next, next', hgo, habreast, hrest⟩ :=
      turn.renewed name handle single hsome shared
    refine .of_go hgo (habreast.endLevel single ?_ _)
    intro piped' blocked' shared' turn' hremaining
    exact ih turn' shared' (by rw [hremaining]; omega)

/-- Two loops that have not begun end level. -/
theorem endLevel (name : String) (handle : Handle) (single : options.window = 1)
    (shared : Shared Docket) :
    EndLevel name options handle (.start options) {} shared :=
  AtTurn.endLevel single ⟨⟨.inl rfl, rfl, rfl, UInt64.zero_le⟩, rfl, rfl, rfl⟩ shared

end Producer
end BrokerLoad
