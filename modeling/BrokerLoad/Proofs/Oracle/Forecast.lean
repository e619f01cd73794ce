import BrokerLoad.Proofs.Oracle.Answers
import BrokerLoad.Proofs.Producer.Verdicts
import Mathlib.Data.List.Perm.Basic

/-!
# What an oracle's verdicts foretell

If the verdicts on all attempts at all messages are known, then it is known what a producer
will do about each message: it sends the message until it is accepted, or as often as it may.
When it does so depends on its window, on the receipts, and on what kind of producer it is;
what it does does not.

`Forecast.submissions` are the submissions that the verdicts foretell, message by message, and
`Forecast.Fulfils` is what they foretell for the counts of a producer and for the ledger.  A
history in which every message has a fate leaves no choice: if it is completed, then every
message was sent as foretold (`numbered_perm`), and if a producer gave a message up, then none
of the attempts that it may make would have been accepted (`not_accepts_of_exhausted`).
-/

namespace BrokerLoad

/-- Items in the order of their keys. -/
theorem perm_flatMap_filter {α κ : Type} [DecidableEq κ] (key : α → κ) {keys : List κ}
    (nodup : keys.Nodup) (items : List α) (covered : ∀ item ∈ items, key item ∈ keys) :
    items.Perm (keys.flatMap fun k => items.filter fun item => key item = k) := by
  induction keys generalizing items with
  | nil =>
    rw [List.eq_nil_iff_forall_not_mem.2 fun item hmem => List.not_mem_nil (covered item hmem)]
    exact List.Perm.refl _
  | cons k rest ih =>
    obtain ⟨hnew, hrest⟩ := List.nodup_cons.1 nodup
    have hothers := ih hrest (items.filter fun item => !decide (key item = k))
      fun item hmem => by
        obtain ⟨hitem, hne⟩ := List.mem_filter.1 hmem
        exact (List.mem_cons.1 (covered item hitem)).resolve_left (by simpa using hne)
    have hsame : (rest.flatMap fun k' => (items.filter fun item => !decide (key item = k)).filter
        fun item => key item = k') =
          rest.flatMap fun k' => items.filter fun item => key item = k' := by
      refine List.flatMap_congr fun k' hk' => ?_
      rw [List.filter_filter]
      refine List.filter_congr fun item _ => ?_
      by_cases hkey : key item = k'
      · have hne : key item ≠ k := fun heq => hnew (heq ▸ hkey ▸ hk')
        simp [hkey, hkey ▸ hne]
      · simp [hkey]
    rw [hsame] at hothers
    rw [List.flatMap_cons]
    exact (List.filter_append_perm _ items).symm.trans (hothers.append_left _)

/-! ## The forecast -/

namespace Forecast

variable (verdict : UInt64 → Nat → WriteStatus) (maxAttempts : UInt32)

/-- Every message is accepted at one of the attempts that may be made at it. -/
def AcceptsAll (ids : List UInt64) : Prop :=
  ∀ id ∈ ids, ∃ attempt, 1 ≤ attempt ∧ attempt ≤ max 1 maxAttempts.toNat ∧ verdict id attempt = .ok

/-- How often a message is sent until it is accepted, if it is. -/
def attempts (id : UInt64) : Nat :=
  ((List.range' 1 (max 1 maxAttempts.toNat)).find? fun attempt => verdict id attempt = .ok).getD 0

/-- The attempts at sending messages, each until it is accepted. -/
def submissions (ids : List UInt64) : List (UInt64 × Nat) :=
  ids.flatMap fun id => (List.range' 1 (attempts verdict maxAttempts id)).map fun attempt =>
    (id, attempt)

variable {verdict maxAttempts}

/-- The first attempt that is accepted is the last that is made. -/
theorem attempts_eq {id : UInt64} {count : Nat} (positive : 1 ≤ count)
    (bounded : count ≤ max 1 maxAttempts.toNat) (accepted : verdict id count = .ok)
    (refused : ∀ attempt, 1 ≤ attempt → attempt < count → verdict id attempt ≠ .ok) :
    attempts verdict maxAttempts id = count := by
  have hfind : (List.range' 1 (max 1 maxAttempts.toNat)).find?
      (fun attempt => verdict id attempt = .ok) = some count := by
    rw [List.find?_range'_eq_some]
    refine ⟨by simpa using accepted, by rw [List.mem_range'_1]; omega, fun attempt hone hlt => ?_⟩
    simpa using refused attempt hone hlt
  rw [attempts, hfind, Option.getD_some]

/-- What the verdicts foretell of a producer that is to send so many messages: what it counts,
and what the ledger learns. -/
structure Fulfils (verdict : UInt64 → Nat → WriteStatus) (messages : UInt64) (messageSize : Nat)
    (maxAttempts : UInt32) (ids : List UInt64) (before after : Ledger)
    (sent : List (UInt64 × Nat)) (counts : Producer.Counts) : Prop where
  /-- What is sent, in some order. -/
  sent : sent.Perm (submissions verdict maxAttempts ids)
  submitted : counts.submitted = UInt64.ofNat (submissions verdict maxAttempts ids).length
  /-- All attempts but the first ones are repetitions. -/
  retried : counts.retried =
    UInt64.ofNat ((submissions verdict maxAttempts ids).length - messages.toNat)
  completed : counts.completed = messages
  messagesOut : after.metrics.messagesOut =
    before.metrics.messagesOut + UInt64.ofNat (submissions verdict maxAttempts ids).length
  /-- The id takes eight bytes. -/
  bytesOut : after.metrics.bytesOut = before.metrics.bytesOut +
    UInt64.ofNat (submissions verdict maxAttempts ids).length * UInt64.ofNat (8 + messageSize)
  /-- All attempts but the last ones are refused. -/
  sendErrors : after.metrics.sendErrors = before.metrics.sendErrors +
    UInt64.ofNat ((submissions verdict maxAttempts ids).length - messages.toNat)
  throttled : after.metrics.throttled = before.metrics.throttled +
    UInt64.ofNat ((submissions verdict maxAttempts ids).countP fun submission =>
      verdict submission.1 submission.2 = .throttled)
  writes : after.metrics.writeLatency.count = before.metrics.writeLatency.count + messages
  latest : after.ids.latest = before.ids.latest + messages

end Forecast

namespace Producer

/-! ## Histories under known verdicts -/

/-- Submissions with the numbers of the attempts. -/
def numbered (submissions : List (UInt64 × UInt32)) : List (UInt64 × Nat) :=
  submissions.map fun submission => (submission.1, submission.2.toNat)

theorem numbered_append (submissions more : List (UInt64 × UInt32)) :
    numbered (submissions ++ more) = numbered submissions ++ numbered more :=
  List.map_append

/-- How often a message was submitted. -/
theorem countP_numbered (history : History) (id : UInt64) :
    (numbered history.sent).countP (fun entry => entry.1 = id) =
      (history.attemptsOf id).length := by
  rw [numbered, List.countP_map, History.attemptsOf, List.length_map, List.countP_eq_length_filter]
  rfl

/-- A message that rests has been submitted as often as its fate says. -/
theorem Tracks.length_attemptsOf {cap sent : Nat} {history : History} {id : UInt64}
    {stakes : List (UInt64 × Fate)} (tracks : Tracks cap history ((id, .resting sent) :: stakes)) :
    (history.attemptsOf id).length = sent :=
  (Reads.of_fate? (tracks.fates _ List.mem_cons_self).1).length_attemptsOf

/-- The part of one message in what was submitted. -/
theorem filter_numbered (submissions : List (UInt64 × UInt32)) (id : UInt64) :
    (numbered submissions).filter (fun entry => entry.1 = id) =
      (((submissions.filter fun submission => submission.1 = id).map Prod.snd).map
        UInt32.toNat).map fun attempt => (id, attempt) := by
  rw [numbered, List.filter_map, List.map_map, List.map_map]
  refine List.map_congr_left fun submission hmem => ?_
  have hid : submission.1 = id := by simpa using (List.mem_filter.1 hmem).2
  simp [hid]

namespace History

/-- The receipts say what was known beforehand. -/
def IsJudged (verdict : UInt64 → Nat → WriteStatus) (history : History) : Prop :=
  ∀ id attempt status, (id, attempt, status) ∈ history.answers → status = verdict id attempt.toNat

variable {verdict : UInt64 → Nat → WriteStatus} {maxAttempts : UInt32} {history events : History}

theorem IsJudged.append (judged : history.IsJudged verdict) (more : IsJudged verdict events) :
    IsJudged verdict (history ++ events) := by
  intro id attempt status hmem
  rw [answers_append, List.mem_append] at hmem
  exact hmem.elim (judged id attempt status) (more id attempt status)

theorem IsJudged.of_silent (silent : events.answers = []) : IsJudged verdict events := by
  intro id attempt status hmem
  rw [silent] at hmem
  cases hmem

theorem IsJudged.of_answer {id : UInt64} {attempt : UInt32} {status : WriteStatus}
    (answer : events.answers = [(id, attempt, status)])
    (known : status = verdict id attempt.toNat) : IsJudged verdict events := by
  intro id' attempt' status' hmem
  rw [answer] at hmem
  cases List.mem_singleton.1 hmem
  exact known

theorem IsJudged.of_mem_answersOf (judged : history.IsJudged verdict) {id : UInt64}
    {answer : UInt32 × WriteStatus} (hmem : answer ∈ history.answersOf id) :
    answer.2 = verdict id answer.1.toNat :=
  judged id answer.1 answer.2 (List.mem_filterMap.2 ⟨_, mem_answersOf.1 hmem, rfl⟩)

/-- The part of one message in the receipts, without what they say. -/
theorem filter_settled (history : History) (id : UInt64) :
    (history.settled.filter fun submission => submission.1 = id).map Prod.snd =
      (history.answersOf id).map Prod.fst := by
  rw [settled, List.filter_map, List.map_map, answersOf, List.map_map]
  rfl

theorem IsJudged.statuses_eq (judged : history.IsJudged verdict) :
    history.statuses =
      (numbered history.settled).map fun entry => verdict entry.1 entry.2 := by
  rw [statuses, numbered, settled, List.map_map, List.map_map]
  exact List.map_congr_left fun answer hmem => judged _ _ _ hmem

/-- A message is accepted at the first attempt that is, and all attempts until then were made
and answered. -/
theorem attempts_of_completed {id : UInt64}
    (fates : ∀ id, ∃ fate, history.fate? maxAttempts.toNat id = some fate)
    (judged : history.IsJudged verdict) (hmem : id ∈ history.completed) :
    ∃ count, 1 ≤ count ∧ count ≤ max 1 maxAttempts.toNat ∧ verdict id count = .ok ∧
      Forecast.attempts verdict maxAttempts id = count ∧
      (history.attemptsOf id).map UInt32.toNat = List.range' 1 count ∧
      (history.answersOf id).map Prod.fst = history.attemptsOf id := by
  obtain ⟨fate, hfate⟩ := fates id
  have reads := Reads.of_fate? hfate
  have haccepted : fate.isAccepted = true := by
    by_contra hnot
    obtain ⟨attempt, hanswered⟩ := mem_completed.1 hmem
    exact reads.refuses (by simpa using hnot) _ (mem_answersOf.2 hanswered) rfl
  obtain ⟨earlier, last, hanswers, hearlier⟩ := reads.accepts haccepted
  obtain ⟨waiting, hattempts, -, hnone⟩ := reads.answers
  have hlanded : fate.waits = false := by
    cases fate with
    | accepted sent => rfl
    | _ => cases haccepted
  rw [hnone hlanded, List.append_nil] at hattempts
  have hnumbers := reads.attempts
  rw [hattempts, hanswers, List.map_append, List.map_append] at hnumbers
  have hcount : fate.sent = earlier.length + 1 := by
    simpa using (congrArg List.length hnumbers).symm
  have hsplit := hnumbers
  rw [hcount, List.range'_concat] at hsplit
  obtain ⟨hbefore, hlast⟩ := List.append_inj' hsplit rfl
  have hnumber : last.toNat = fate.sent := by
    rw [hcount]
    simpa [Nat.add_comm] using hlast
  have hok : verdict id fate.sent = .ok := by
    rw [← hnumber]
    exact (judged.of_mem_answersOf (hanswers ▸ List.mem_append_right _ List.mem_cons_self)).symm
  have hpositive : 1 ≤ fate.sent := by omega
  refine ⟨fate.sent, hpositive, reads.bounded, hok,
    Forecast.attempts_eq hpositive reads.bounded hok fun attempt hone hlt => ?_, reads.attempts,
    hattempts.symm⟩
  have hrange : attempt ∈ List.range' 1 earlier.length := by
    rw [List.mem_range'_1]
    omega
  rw [← hbefore, List.map_map, List.mem_map] at hrange
  obtain ⟨answer, hanswer, rfl⟩ := hrange
  rw [Function.comp_apply, ← judged.of_mem_answersOf
    (by rw [hanswers]; exact List.mem_append_left _ hanswer)]
  exact hearlier answer hanswer

/-- What was answered was submitted. -/
theorem mem_sent_of_settled {cap : Nat} {submission : UInt64 × UInt32}
    (fates : ∀ id, ∃ fate, history.fate? cap id = some fate)
    (hmem : submission ∈ history.settled) : submission ∈ history.sent := by
  obtain ⟨fate, hfate⟩ := fates submission.1
  obtain ⟨waiting, hattempts, -⟩ := (Reads.of_fate? hfate).answers
  refine mem_attemptsOf.1 ?_
  rw [hattempts, ← filter_settled]
  exact List.mem_append_left _
    (List.mem_map.2 ⟨submission, List.mem_filter.2 ⟨hmem, decide_eq_true rfl⟩, rfl⟩)

/-- What was submitted when everything was accepted is what was foretold, and all of it was
answered. -/
theorem numbered_perm (fates : ∀ id, ∃ fate, history.fate? maxAttempts.toNat id = some fate)
    (judged : history.IsJudged verdict) (nodup : history.minted.Nodup)
    (all : ∀ id ∈ history.minted, id ∈ history.completed) :
    (numbered history.sent).Perm (Forecast.submissions verdict maxAttempts history.minted) ∧
      (numbered history.settled).Perm
        (Forecast.submissions verdict maxAttempts history.minted) := by
  have hperm : ∀ submissions : List (UInt64 × UInt32),
      (∀ submission ∈ submissions, submission.1 ∈ history.minted) →
      (∀ id ∈ history.minted,
        ((submissions.filter fun submission => submission.1 = id).map Prod.snd).map UInt32.toNat =
          List.range' 1 (Forecast.attempts verdict maxAttempts id)) →
      (numbered submissions).Perm (Forecast.submissions verdict maxAttempts history.minted) := by
    intro submissions covered parts
    have hkeys := perm_flatMap_filter Prod.fst nodup (numbered submissions)
      (List.forall_mem_map.2 covered)
    rwa [List.flatMap_congr fun id hmem => by rw [filter_numbered, parts id hmem]] at hkeys
  refine ⟨hperm _ (fun submission hmem => mem_minted_of_sent fates hmem) fun id hmem => ?_,
    hperm _ (fun submission hmem => mem_minted_of_sent fates (mem_sent_of_settled fates hmem))
      fun id hmem => ?_⟩
  · obtain ⟨count, -, -, -, rfl, hattempts, -⟩ := attempts_of_completed fates judged (all id hmem)
    exact hattempts
  · obtain ⟨count, -, -, -, rfl, hattempts, hanswered⟩ :=
      attempts_of_completed fates judged (all id hmem)
    rw [filter_settled, hanswered]
    exact hattempts

/-- A message whose last receipt refuses it as often as it may be would be accepted at none of the
attempts that may be made. -/
theorem not_accepts_of_exhausted
    (fates : ∀ id, ∃ fate, history.fate? maxAttempts.toNat id = some fate)
    (judged : history.IsJudged verdict) (exhausted : history.Exhausted maxAttempts) :
    ∃ id ∈ history.minted, ∀ attempt, 1 ≤ attempt → attempt ≤ max 1 maxAttempts.toNat →
      verdict id attempt ≠ .ok := by
  obtain ⟨id, last, status, hlast, hrefused, hcap⟩ := exhausted
  have hanswer : (id, last, status) ∈ history.answers := List.mem_of_getLast? hlast
  have hsettled : (id, last) ∈ history.settled := List.mem_map_of_mem hanswer
  refine ⟨id, mem_minted_of_sent fates (mem_sent_of_settled fates hsettled), ?_⟩
  obtain ⟨fate, hfate⟩ := fates id
  have reads := Reads.of_fate? hfate
  have hend : (history.answersOf id).getLast? = some (last, status) := by
    obtain ⟨earlier, hearlier⟩ := List.getLast?_eq_some_iff.1 hlast
    rw [answersOf, hearlier, List.filter_append]
    simp
  -- the message was not accepted, for then its last receipt would say so
  have hrefuses : ∀ answer ∈ history.answersOf id, answer.2 ≠ WriteStatus.ok := by
    refine reads.refuses (Bool.eq_false_iff.2 fun haccepted => ?_)
    obtain ⟨earlier, attempt, hanswers, -⟩ := reads.accepts haccepted
    rw [hanswers, List.getLast?_append, List.getLast?_singleton, Option.some_or] at hend
    cases hend
    exact hrefused rfl
  obtain ⟨waiting, hattempts, hwaiting, -⟩ := reads.answers
  have hnumbers := reads.attempts
  rw [hattempts, List.map_append, List.map_map] at hnumbers
  have hmem : last.toNat ∈ (history.answersOf id).map (UInt32.toNat ∘ Prod.fst) :=
    List.mem_map.2 ⟨_, List.mem_of_getLast? hend, rfl⟩
  have hcount : fate.sent = max 1 maxAttempts.toNat ∧ last.toNat = fate.sent := by
    have hbounded := reads.bounded
    have hbelow := UInt32.le_iff_toNat_le.1 hcap
    have hrange : last.toNat ∈ List.range' 1 fate.sent :=
      hnumbers ▸ List.mem_append_left _ hmem
    rw [List.mem_range'_1] at hrange
    omega
  -- and no receipt of it is missing, for it would be that of a later attempt
  have hnone : waiting = [] := by
    cases waiting with
    | nil => rfl
    | cons late more =>
      obtain rfl : more = [] := by simpa using hwaiting
      have hlength : fate.sent = (history.answersOf id).length + 1 := by
        simpa using (congrArg List.length hnumbers).symm
      rw [hlength, List.range'_concat] at hnumbers
      rw [(List.append_inj' hnumbers rfl).1, List.mem_range'_1] at hmem
      omega
  intro attempt hone hle
  have hrange : attempt ∈ List.range' 1 fate.sent := by
    rw [List.mem_range'_1]
    omega
  rw [← hnumbers, hnone, List.map_nil, List.append_nil, List.mem_map] at hrange
  obtain ⟨answer, hmade, rfl⟩ := hrange
  rw [Function.comp_apply, ← judged.of_mem_answersOf hmade]
  exact hrefuses answer hmade

end History

/-! ## The end of a run -/

/-- What is known of the run of a producer that an oracle has served to its end. -/
structure Ends (verdict : UInt64 → Nat → WriteStatus) (options : Options) (before after : Ledger)
    (sent : List (UInt64 × Nat)) (history : History) (counts : Counts) (ending : Ending) :
    Prop where
  fates : ∀ id, ∃ fate, history.fate? options.maxAttempts.toNat id = some fate
  judged : history.IsJudged verdict
  /-- The oracle numbers the attempts as the producer does. -/
  sent : sent = numbered history.sent
  unsent : history.unsent = []
  /-- The ids follow the latest one before. -/
  minted : history.minted = wordsAfter before.ids.latest history.minted.length
  supply : history.minted.length ≤ options.messages.toNat
  tallies : ∃ exceeded, Tallies history counts false 0 0 exceeded
  metrics : Gains options history before.metrics after.metrics
  latest : after.ids.latest = before.ids.latest + UInt64.ofNat history.minted.length
  /-- Every message is begun and accepted, or -/
  completed : ending = .completed → history.minted.length = options.messages.toNat ∧
    history.completed.length = options.messages.toNat ∧ history.Repeatable options.maxAttempts
  /-- the producer has given up. -/
  exceeded : ending ≠ .completed →
    ending = .attemptsExceeded ∧ history.Exhausted options.maxAttempts

namespace Ends

variable {verdict : UInt64 → Nat → WriteStatus} {options : Options} {before after : Ledger}
  {sent : List (UInt64 × Nat)} {history : History} {counts : Counts} {ending : Ending}

/-- What is known of a loop at its end is known of the run. -/
theorem of_attended {σ : Type} {body : σ → Request Ending (Paced σ)} {first state : Paced σ}
    {turns : List (Turn σ)} {start shared : Shared Oracle}
    (attended : Attended body first start turns state shared) (done : state.pending = [])
    (announced : Announced options history turns state)
    (minted : history.minted = mintedIds turns)
    (fates : ∀ id, ∃ fate, history.fate? options.maxAttempts.toNat id = some fate)
    (judged : history.IsJudged shared.client.verdict)
    (sent : shared.client.sent = numbered history.sent) (unsent : history.unsent = [])
    (supply : history.minted.length ≤ options.messages.toNat)
    (tallies : ∃ exceeded, Tallies history counts false 0 0 exceeded)
    (completed : ending = .completed → history.minted.length = options.messages.toNat ∧
      history.completed.length = options.messages.toNat ∧ history.Repeatable options.maxAttempts)
    (exceeded : ending ≠ .completed →
      ending = .attemptsExceeded ∧ history.Exhausted options.maxAttempts) :
    Ends start.client.verdict options start.ledger shared.ledger shared.client.sent history counts
      ending where
  fates := fates
  judged := attended.verdict_eq ▸ judged
  sent := sent
  unsent := unsent
  minted := by
    rw [minted]
    exact attended.mintedIds_eq
  supply := supply
  tallies := tallies
  metrics := by
    rw [announced.metrics done attended.serves]
    exact .of_history _ _
  latest := by
    rw [minted]
    exact attended.serves.latest
  completed := completed
  exceeded := exceeded

theorem nodup (ends : Ends verdict options before after sent history counts ending) :
    history.minted.Nodup := by
  rw [ends.minted]
  exact nodup_wordsAfter _ (Nat.le_trans ends.supply (Nat.le_of_lt options.messages.toNat_lt))

/-- A producer that gives up has a message that would not have been accepted. -/
theorem not_acceptsAll (ends : Ends verdict options before after sent history counts ending)
    (unfinished : ending ≠ .completed) :
    ¬ Forecast.AcceptsAll verdict options.maxAttempts
      (wordsAfter before.ids.latest options.messages.toNat) := by
  intro accepts
  obtain ⟨id, hmem, hrefused⟩ :=
    History.not_accepts_of_exhausted ends.fates ends.judged (ends.exceeded unfinished).2
  rw [ends.minted] at hmem
  have hwords : id ∈ wordsAfter before.ids.latest options.messages.toNat :=
    (List.Sublist.map _ (List.range_sublist.2 ends.supply)).subset hmem
  obtain ⟨attempt, hone, hle, hok⟩ := accepts id hwords
  exact hrefused attempt hone hle hok

section Completed

variable (ends : Ends verdict options before after sent history counts .completed)
include ends

theorem minted_eq :
    history.minted = wordsAfter before.ids.latest options.messages.toNat := by
  rw [ends.minted, (ends.completed rfl).1]

theorem mem_completed : ∀ id ∈ history.minted, id ∈ history.completed := fun _ hmem =>
  mem_completed_of_length_eq ends.fates
    (Nat.le_of_eq ((ends.completed rfl).1.trans (ends.completed rfl).2.1.symm)) hmem

/-- A producer that completes its task has had every message accepted. -/
theorem acceptsAll : Forecast.AcceptsAll verdict options.maxAttempts
    (wordsAfter before.ids.latest options.messages.toNat) := by
  intro id hmem
  rw [← ends.minted_eq] at hmem
  obtain ⟨count, hone, hle, hok, -⟩ :=
    History.attempts_of_completed ends.fates ends.judged (ends.mem_completed id hmem)
  exact ⟨count, hone, hle, hok⟩

/-- What comes of it is what was foretold. -/
theorem fulfils : Forecast.Fulfils verdict options.messages options.messageSize
    options.maxAttempts (wordsAfter before.ids.latest options.messages.toNat) before after sent
    counts := by
  obtain ⟨hminted, hcompleted, hrepeatable⟩ := ends.completed rfl
  obtain ⟨exceeded, tallies⟩ := ends.tallies
  have hperm := History.numbered_perm ends.fates ends.judged ends.nodup ends.mem_completed
  rw [ends.minted_eq] at hperm
  have hwords : UInt64.ofNat options.messages.toNat = options.messages := UInt64.ofNat_toNat
  have hsent : history.sent.length = (Forecast.submissions verdict options.maxAttempts
      (wordsAfter before.ids.latest options.messages.toNat)).length := by
    rw [← hperm.1.length_eq, numbered, List.length_map]
  have hrepeats : history.repeats = history.sent.length - options.messages.toNat := by
    have hfirsts := tallies.minted
    rw [History.unsentNew, ends.unsent] at hfirsts
    rw [History.length_sent, ← hminted, hfirsts]
    simp
  have hrefused : history.refused.length = history.sent.length - options.messages.toNat := by
    have hanswers := History.length_answers history
    have hsettled : history.answers.length = history.sent.length := by
      rw [hsent, ← hperm.2.length_eq, numbered, History.settled, List.length_map, List.length_map]
    omega
  have hslowed : history.slowed options.maxAttempts = (Forecast.submissions verdict
      options.maxAttempts (wordsAfter before.ids.latest options.messages.toNat)).countP
        fun submission => verdict submission.1 submission.2 = .throttled := by
    rw [History.slowed_eq hrepeatable, ends.judged.statuses_eq,
      (hperm.2.map _).count_eq, List.count_eq_countP, List.countP_map]
    exact List.countP_congr fun submission _ => by simp
  constructor
  · rw [ends.sent]
    exact hperm.1
  · rw [tallies.submitted, hsent]
  · rw [tallies.retried, hrepeats, hsent]
  · rw [tallies.completed, hcompleted, hwords]
  · rw [ends.metrics.messagesOut, hsent]
  · rw [ends.metrics.bytesOut, hsent]
  · rw [ends.metrics.sendErrors, hrefused, hsent]
  · rw [ends.metrics.throttled, hslowed]
  · rw [ends.metrics.writes, hcompleted, hwords]
  · rw [ends.latest, hminted, hwords]

end Completed
end Ends
end Producer
end BrokerLoad
