import BrokerLoad.Proofs.Ledger.Service
import BrokerLoad.Proofs.Producer.PipelinedFates
import BrokerLoad.Proofs.Producer.Window

/-!
# The balance of a pipelined producer

Every message that a pipelined producer is to send is in one of four places until it is
done with: it is still to be begun, it is in the window, it is in hand between two looks at
the window, or it has been accepted.  While the producer turns and does not drain its
window, nothing leaves these places (`Balances.balance`).  When it drains, it forgets what
it has not begun and drops what is refused, so that only a bound remains, on how many ids
it takes (`Balances.supply`).

A producer that says that it completed its task has never drained, and so has begun every
message and had each accepted (`Balances.finished`).
-/

namespace BrokerLoad
namespace Producer
namespace Pipelined

namespace Point

/-- How many messages are neither in the window nor accepted, nor still to be begun. -/
@[simp] def carried : Point → Nat
  | .awaiting _ => 1
  | .impatient _ => 1
  | .collecting _ => 1
  | .resending _ => 1
  | _ => 0

/-- How many ids may have been taken for messages that still count as to be begun. -/
@[simp] def begun : Point → Nat
  | .sending _ => 1
  | .refused _ => 1
  | .halted _ => 1
  | _ => 0

theorem begun_le_one (point : Point) : point.begun ≤ 1 := by
  cases point <;> simp

end Point

variable {name : String} {options : Options} {handle : Handle} {past : History}
  {state after : Paced Loop} {exchange : Exchange} {events : History}

/-- No message is lost sight of. -/
structure Balances (options : Options) (past : History) (loop : Loop) : Prop where
  /-- The messages accepted are counted. -/
  counted : loop.counts.completed = UInt64.ofNat past.completed.length
  /-- No more ids are taken than there are messages to be sent. -/
  supply : past.minted.length + loop.remaining.toNat ≤ options.messages.toNat + loop.point.begun
  /-- For every message that is not left to be begun an id was taken. -/
  taken : loop.draining = false → loop.point.isLive = true →
    past.minted.length + loop.remaining.toNat = options.messages.toNat + loop.point.begun
  /-- Every message is left to be begun, in the window, in hand, or accepted. -/
  balance : loop.draining = false → loop.point.isLive = true →
    loop.remaining.toNat + past.completed.length + loop.window.toList.length +
      loop.point.carried = options.messages.toNat
  /-- When the task is completed every message is begun and accepted. -/
  finished : loop.point = .halted (.ok .completed) →
    past.minted.length = options.messages.toNat ∧ past.completed.length = options.messages.toNat

theorem begun_onward (remaining : UInt64) : (onward remaining).begun = 0 := by
  rcases onward_cases remaining with ⟨-, hon⟩ | ⟨-, hon⟩ <;> rw [hon] <;> rfl

theorem carried_onward (remaining : UInt64) : (onward remaining).carried = 0 := by
  rcases onward_cases remaining with ⟨-, hon⟩ | ⟨-, hon⟩ <;> rw [hon] <;> rfl

theorem onward_ne_halted (remaining : UInt64) (outcome : Outcome) :
    onward remaining ≠ .halted outcome := by
  rcases onward_cases remaining with ⟨-, hon⟩ | ⟨-, hon⟩ <;> rw [hon] <;> exact nofun

namespace Balances

theorem start (options : Options) : Balances options [] (.start options) where
  counted := rfl
  supply := by simp [Loop.start]
  taken := by simp [Loop.start]
  balance := by simp [Loop.start]
  finished := by simp [Loop.start]

/-- A loop that turns on has begun what was begun before and what is begun now, and unless it
drains its window, what it has lost in one place is in another. -/
theorem turn {loop next : Loop} (balances : Balances options past loop)
    (live : loop.point.isLive = true) (counted : next.counts.completed =
      loop.counts.completed + UInt64.ofNat events.completed.length)
    (draining : next.draining = loop.draining)
    (taken : events.minted.length + next.remaining.toNat + loop.point.begun =
      loop.remaining.toNat + next.point.begun)
    (places : loop.draining = false → next.remaining.toNat + events.completed.length +
      next.window.toList.length + next.point.carried =
        loop.remaining.toNat + loop.window.toList.length + loop.point.carried)
    (unfinished : next.point ≠ .halted (.ok .completed)) :
    Balances options (past ++ events) next where
  counted := by
    rw [counted, balances.counted, ← UInt64.ofNat_add, History.completed_append,
      List.length_append]
  supply := by
    have hbefore := balances.supply
    rw [History.minted_append, List.length_append]
    omega
  taken going _ := by
    have hbefore := balances.taken (draining ▸ going) live
    rw [History.minted_append, List.length_append]
    omega
  balance going _ := by
    have hbefore := balances.balance (draining ▸ going) live
    have hplaces := places (draining ▸ going)
    rw [History.completed_append, List.length_append]
    omega
  finished here := absurd here unfinished

theorem goto {loop : Loop} {point : Point} (balances : Balances options past loop)
    (live : loop.point.isLive = true) (begun : point.begun = loop.point.begun)
    (carried : point.carried = loop.point.carried) (unfinished : point ≠ .halted (.ok .completed)) :
    Balances options (past ++ []) { loop with point := point } :=
  balances.turn live (UInt64.add_zero _).symm rfl
    (by rw [begun, History.minted_nil, List.length_nil, Nat.zero_add])
    (fun _ => by rw [carried, History.completed_nil, List.length_nil, Nat.add_zero]) unfinished

/-- A loop that turns no more, and has not completed its task, forgets what it had in hand. -/
theorem halt {loop next : Loop} (balances : Balances options past loop)
    (counts : next.counts = loop.counts) (remaining : next.remaining = loop.remaining)
    (minted : events.minted = []) (completed : events.completed = [])
    (ended : next.point.isLive = false) (begun : loop.point.begun ≤ next.point.begun)
    (unfinished : next.point ≠ .halted (.ok .completed)) :
    Balances options (past ++ events) next where
  counted := by
    rw [counts, balances.counted, History.completed_append, completed, List.append_nil]
  supply := by
    have hbefore := balances.supply
    rw [History.minted_append, minted, List.append_nil, remaining]
    omega
  taken _ live := by rw [ended] at live; cases live
  balance _ live := by rw [ended] at live; cases live
  finished here := absurd here unfinished

theorem move (balances : Balances options past state.now) (fits : Fits options state.now)
    (move : Move options handle state exchange events after) :
    Balances options (past ++ events) after.now := by
  have hsame : past ++ [] = past := List.append_nil past
  cases move with
  | emit emission rest loop => exact hsame.symm ▸ balances
  | starve loop here => exact hsame.symm ▸ balances
  | finish loop here empty none_left =>
    cases going : loop.draining with
    | true => exact balances.halt rfl rfl rfl rfl rfl (by simp [here]) (by simp)
    | false =>
      have htaken := balances.taken going (by simp [here])
      have hbalance := balances.balance going (by simp [here])
      simp only [here, empty, none_left, Point.begun, Point.carried, List.length_nil,
        UInt64.toNat_zero] at htaken hbalance
      rw [hsame]
      exact {
        counted := balances.counted
        supply := Nat.le_succ_of_le (none_left ▸ Nat.le_of_eq htaken)
        taken := fun _ live => by cases live
        balance := fun _ live => by cases live
        finished := fun _ => by omega }
  | take loop oldest rest here pops must =>
    have hlength := congrArg List.length pops
    rw [List.length_cons] at hlength
    refine balances.turn (by simp [here]) (by simp) rfl (by simp [here]) (fun _ => ?_) (by simp)
    simp only [here, Point.carried, History.completed_nil, List.length_nil]
    omega
  | accept loop oldest answer here ok =>
    refine balances.turn (by simp [here]) rfl rfl ?_ (fun _ => ?_) (onward_ne_halted _ _)
    · dsimp only
      rw [begun_onward, here]
      exact Nat.zero_add _
    · dsimp only
      rw [carried_onward, here]
      exact Nat.add_right_comm _ 1 _
  | drop loop oldest answer here refused below draining =>
    refine balances.turn (by simp [here]) (by simp [refused]) rfl ?_ (fun going => ?_)
      (onward_ne_halted _ _)
    · dsimp only
      rw [begun_onward, here]
      exact Nat.zero_add _
    · rw [draining] at going
      cases going
  | refuse loop oldest answer here refused below going =>
    exact balances.turn (by simp [here]) (by simp [refused]) rfl (by simp [here])
      (fun _ => by simp [here, refused]) (by simp)
  | mint loop id here =>
    refine balances.turn (by simp [here]) (by simp) rfl ?_ (fun _ => by simp [here]) (by simp)
    simp [here, Nat.add_comm]
  | send loop id ticket here =>
    have hleft : loop.remaining ≠ 0 := fits.left (by simp [here])
    have hless : (loop.remaining - 1).toNat + 1 = loop.remaining.toNat := toNat_sub_one hleft
    refine balances.turn (by simp [here]) (by simp) rfl ?_ (fun _ => ?_) (by simp)
    · simp [here, hless]
    · simp [here]
      omega
  | resend loop retry ticket here =>
    refine balances.turn (by simp [here]) (by simp) rfl (by simp [here]) (fun _ => ?_) (by simp)
    simp [here]
    omega
  | giveUp loop oldest answer line here refused cap =>
    exact balances.halt rfl rfl rfl (by simp [refused]) rfl (by simp [here]) (by simp)
  | drain loop here going policy =>
    have hsupply := balances.supply
    rw [here] at hsupply
    rw [hsame]
    exact {
      counted := balances.counted
      supply := Nat.le_of_add_right_le hsupply
      taken := nofun
      balance := nofun
      finished := nofun }
  | fail loop id attempt here =>
    exact balances.halt rfl rfl rfl rfl rfl loop.point.begun_le_one (by simp)
  | crash loop id attempt fault here =>
    exact balances.halt rfl rfl rfl rfl rfl loop.point.begun_le_one (by simp)
  | abandon loop oldest here => exact balances.halt rfl rfl rfl rfl rfl (by simp [here]) (by simp)
  | spoil loop oldest fault here =>
    exact balances.halt rfl rfl rfl rfl rfl (by simp [here]) (by simp)
  | explain loop id reason line here =>
    exact balances.halt rfl rfl rfl rfl rfl (by simp [here]) (by simp)
  | leave loop here going policy =>
    exact balances.halt rfl rfl rfl rfl rfl (by simp [here]) (by simp)
  | linger loop oldest here patient => exact hsame.symm ▸ balances
  | renew loop here left room =>
    exact balances.goto (by simp [here]) (by simp [here]) (by simp [here]) (by simp)
  | ready loop oldest here =>
    exact balances.goto (by simp [here]) (by simp [here]) (by simp [here]) (by simp)
  | doubt loop oldest here going policy =>
    exact balances.goto (by simp [here]) (by simp [here]) (by simp [here]) (by simp)
  | persist loop oldest here =>
    exact balances.goto (by simp [here]) (by simp [here]) (by simp [here]) (by simp)
  | turn loop here draining =>
    exact balances.goto (by simp [here]) (by simp [here]) (by simp [here]) (by simp)
  | goOn loop here going =>
    exact balances.goto (by simp [here]) (by simp [here]) (by simp [here]) (by simp)

/-- No message is lost sight of in any run. -/
theorem of_run {turns : List (Turn Loop)}
    (run : Run (request name options handle) (.enter (.start options)) turns state) :
    Balances options (history options turns) state.now :=
  (history_induction
    (P := fun past state => Fits options state.now ∧ Balances options past state.now)
    ⟨.start options, .start options⟩
    (fun inv move => ⟨inv.1.move move, inv.2.move inv.1 move⟩) run).2

/-- No more ids are taken than there are messages to be sent, in any run. -/
theorem minted_le_of_run {turns : List (Turn Loop)}
    (run : Run (request name options handle) (.enter (.start options)) turns state) :
    (history options turns).minted.length ≤ options.messages.toNat := by
  refine (history_induction
    (P := fun past state => Fits options state.now ∧ Balances options past state.now ∧
      past.minted.length ≤ options.messages.toNat)
    ⟨.start options, .start options, Nat.zero_le _⟩
    (fun {past events state after exchange} inv move => ?_) run).2.2
  obtain ⟨fits, balances, hle⟩ := inv
  refine ⟨fits.move move, balances.move fits move, ?_⟩
  rw [History.minted_append, List.length_append, move.minted]
  cases move with
  | mint loop id here =>
    -- A message is left to be begun, and no id was taken for it yet.
    have hleft : loop.remaining ≠ 0 := fits.left (by simp [here])
    have hless : (loop.remaining - 1).toNat + 1 = loop.remaining.toNat := toNat_sub_one hleft
    have hsupply := balances.supply
    simp only [here, Point.begun] at hsupply
    show past.minted.length + 1 ≤ options.messages.toNat
    omega
  | _ => exact hle

/-- The counter of the messages accepted is exact. -/
theorem completed_eq {loop : Loop} (balances : Balances options past loop)
    (few : past.completed.length < 2 ^ 64) :
    loop.counts.completed.toNat = past.completed.length := by
  rw [balances.counted, UInt64.toNat_ofNat', Nat.mod_eq_of_lt few]

end Balances

/-! ## At the head of the loop -/

variable {turns : List (Turn Loop)} {ledger later : Ledger} {others : List Exchange}

/-- The ids that a loop takes are new, unless the mint goes all the way round. -/
theorem nodup_mintedIds
    (run : Run (request name options handle) (.enter (.start options)) turns state)
    (served : ledger.Serves turns others later)
    (few : (Ledger.idsOf others).length + options.messages.toNat < 2 ^ 64) :
    (mintedIds turns).Nodup := by
  refine served.nodup_mintedIds ?_
  have hsupply := (Balances.of_run run).supply
  have hbegun := state.now.point.begun_le_one
  rw [minted_history run] at hsupply
  omega

/-- Whenever the loop decides what to do, its window is not too large and the peak is right,
what was submitted is what was settled and then the window, the window holds no message
twice and none that was accepted, and no message is missing; and it never waits for the
oldest of no submissions.  What is said of ids needs a mint that does not go all the way
round, which one producer alone never makes it do. -/
theorem window_at_head
    (run : Run (request name options handle) (.enter (.start options)) turns state) :
    state.now.point ≠ .starved ∧
    (state.now.point = .head →
      (state.now.window.size ≤ max 1 options.maxInFlight.toNat ∧
        (windowSizes turns state).max? = some state.now.counts.peakInFlight.toNat) ∧
      (history options turns).sent =
        (history options turns).settled ++ state.now.window.toList.map InFlight.submission ∧
      (∀ (ledger later : Ledger) (others : List Exchange), ledger.Serves turns others later →
        (Ledger.idsOf others).length + options.messages.toNat < 2 ^ 64 →
          (state.now.window.toList.map InFlight.id).Nodup ∧
            ∀ inFlight ∈ state.now.window.toList,
              inFlight.id ∉ (history options turns).completed) ∧
      (state.now.draining = false →
        options.messages.toNat = state.now.remaining.toNat +
          state.now.counts.completed.toNat + state.now.window.size)) := by
  have fits := Fits.of_run run
  have inOrder := InOrder.of_run run
  have balances := Balances.of_run run
  refine ⟨fits.fed, fun here => ⟨⟨?_, peak_isLargest run⟩, ?_, ?_, fun going => ?_⟩⟩
  · rw [Fifo.size_eq_length]
    exact Nat.le_trans (Nat.le_add_right _ _) fits.room
  · have hlossless := inOrder.lossless (by rw [here]; rfl)
    have horder := inOrder.order
    rw [hlossless, here, List.append_nil] at horder
    exact horder
  · intro ledger later others served few
    have tracks := tracks_of_run run (nodup_mintedIds run served few)
    constructor
    · have hnodup := tracks.nodup
      rw [Loop.stakes, here, List.map_append, List.map_map] at hnodup
      exact hnodup
    · intro inFlight hmem
      have hstake : inFlight.stake ∈ state.now.stakes :=
        List.mem_append_right _ (List.mem_map_of_mem hmem)
      exact tracks.notMem_completed hstake
  · have hbalance := balances.balance going (by rw [here]; rfl)
    have hmessages := options.messages.toNat_lt
    rw [balances.completed_eq (by omega), Fifo.size_eq_length]
    simp only [here, Point.carried] at hbalance
    omega

/-- With one submission in a window that has room for one. -/
theorem window_at_head_one_in_flight : ∃ (turns : List (Turn Loop)) (state : Paced Loop),
    state.now.point = .head ∧ state.now.window.size = 1 ∧
      (windowSizes turns state).max? = some 1 ∧
      (history { destination := "d", messages := 2, maxInFlight := 1 } turns).sent = [(1, 1)] ∧
      (state.now.window.toList.map InFlight.id).Nodup := by
  let options : Options := { destination := "d", messages := 2, maxInFlight := 1 }
  have begun : Run (request "p" options 0) (.enter (.start options)) _ _ := .start
  have sent := ((begun.ask rfl ()).ask rfl 1).ask rfl (Except.ok (some (5 : Ticket)))
  have run := ((sent.ask rfl ()).ask rfl ()).ask rfl false
  have hhead := window_at_head run
  have hids := (hhead.2 rfl).2.2.1 {} _ []
    (.turn (.turn (.turn (.turn (.turn (.turn .start trivial) rfl) trivial) trivial) trivial)
      trivial) (by decide)
  exact ⟨_, _, rfl, rfl, (hhead.2 rfl).1.2, (hhead.2 rfl).2.1, hids.1⟩

end Pipelined
end Producer
end BrokerLoad
