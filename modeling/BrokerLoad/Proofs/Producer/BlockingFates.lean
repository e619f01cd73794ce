import BrokerLoad.Proofs.Ledger.Service
import BrokerLoad.Proofs.Producer.BlockingMoves
import BrokerLoad.Proofs.Producer.Discipline

/-!
# The messages of a blocking producer

A blocking producer has to do with one message at a time.  Between its writes that message
rests, so its fate is told by the number of the attempt to come.

The balance is simple too: the messages done with are those accepted, the one after them is
the only other one that an id was taken for (`Balances`).
-/

namespace BrokerLoad
namespace Producer
namespace Blocking

/-- The message that the loop has to do with, and its fate. -/
@[simp] def Point.stakes : Point → List (UInt64 × Fate)
  | .writing id attempt => [(id, .resting (attempt - 1).toNat)]
  | .afterRefusal id attempt => [(id, .resting attempt.toNat)]
  | _ => []

variable {name : String} {options : Options} {handle : Handle} {past : History}
  {state after : Paced Loop} {exchange : Exchange} {events : History}

theorem Move.minted (move : Move options handle state exchange events after) :
    events.minted = exchange.minted?.toList := by
  cases move <;> rfl

/-- A message that is written is submitted first of all. -/
theorem tracks_submitted {cap : Nat} {id : UInt64} {attempt : UInt32} (hcap : cap < 2 ^ 32)
    (tracks : Tracks cap past [(id, .resting (attempt - 1).toNat)]) :
    Tracks cap (past ++ [.submitted id attempt]) [(id, .aloft attempt.toNat)] := by
  have hattempt := tracks.toNat_succ hcap
  rw [UInt32.sub_add_cancel] at hattempt
  exact tracks.keep rfl (Fate.next_submitted hattempt) trivial

/-- A move does to its message what comes next. -/
theorem Move.tracks (tracks : Tracks options.maxAttempts.toNat past state.now.point.stakes)
    (move : Move options handle state exchange events after)
    (new : (past ++ events).minted.Nodup) :
    Tracks options.maxAttempts.toNat (past ++ events) after.now.point.stakes := by
  have hcap : options.maxAttempts.toNat < 2 ^ 32 := options.maxAttempts.toNat_lt
  cases move with
  | emit emission rest loop => simpa using tracks
  | mint loop id here =>
    have hnew : id ∉ past.minted := by
      rw [History.minted_append] at new
      exact fun hmem => List.disjoint_of_nodup_append new hmem (List.mem_singleton_self _)
    simp only [here, Point.stakes] at tracks
    exact tracks.mint hnew
  | accept loop id attempt answer here ok =>
    simp only [here, Point.stakes] at tracks
    have haloft := tracks_submitted hcap tracks
    rw [List.append_cons]
    exact haloft.close rfl Fate.next_accepted (by simp)
  | refuse loop id attempt answer here refused below =>
    simp only [here, Point.stakes] at tracks
    have haloft := tracks_submitted hcap tracks
    rw [List.append_cons]
    exact haloft.keep rfl (Fate.next_refused refused (UInt32.lt_iff_toNat_lt.1 below)) trivial
  | giveUp loop id attempt answer line here refused cap =>
    simp only [here, Point.stakes] at tracks
    have haloft := tracks_submitted hcap tracks
    rw [List.append_cons]
    exact haloft.close rfl (Fate.next_exhausted refused (UInt32.le_iff_toNat_le.1 cap)) (by simp)
  | crash loop id attempt fault here =>
    simp only [here, Point.stakes] at tracks
    have hattempt := tracks.toNat_succ hcap
    rw [UInt32.sub_add_cancel] at hattempt
    exact tracks.close rfl (Fate.next_unsent hattempt) (by simp)
  | drop loop id attempt here =>
    simp only [here, Point.stakes] at tracks
    exact tracks.close rfl (if_pos rfl) (by simp)
  | again loop id attempt here =>
    simp only [here, Point.stakes] at tracks
    simpa using tracks
  | _ => simp_all

/-! ## The balance -/

namespace Point

/-- Whether an id was taken for the message that the loop has turned to. -/
@[simp] def begun : Point → Nat
  | .writing _ _ => 1
  | .afterRefusal _ _ => 1
  | .afterAcceptance => 1
  | _ => 0

/-- Whether the message that the loop has turned to was accepted. -/
@[simp] def done : Point → Nat
  | .afterAcceptance => 1
  | _ => 0

/-- Whether the loop is still turning. -/
@[simp] def isLive : Point → Bool
  | .halted _ => false
  | _ => true

/-- Whether the loop has turned to a message. -/
@[simp] def isBusy : Point → Bool
  | .head => false
  | .halted _ => false
  | _ => true

end Point

/-- No message is lost sight of. -/
structure Balances (options : Options) (past : History) (loop : Loop) : Prop where
  /-- The loop has turned to a message only if there was one left. -/
  left : loop.point.isBusy = true → loop.sent.toNat < options.messages.toNat
  /-- No more messages are done with than there are. -/
  enough : loop.sent.toNat ≤ options.messages.toNat
  /-- No more ids are taken than there are messages. -/
  supply : past.minted.length ≤ options.messages.toNat
  /-- An id was taken for every message done with, and maybe for the one after. -/
  taken : loop.point.isLive = true → past.minted.length = loop.sent.toNat + loop.point.begun
  /-- Every message done with was accepted, and maybe the one after. -/
  accepted : loop.point.isLive = true →
    past.completed.length = loop.sent.toNat + loop.point.done
  /-- When the task is completed every message is begun and accepted. -/
  finished : loop.point = .halted (.ok .completed) →
    past.minted.length = options.messages.toNat ∧ past.completed.length = options.messages.toNat

namespace Balances

theorem start (options : Options) : Balances options [] {} where
  left := by simp
  enough := by simp
  supply := by simp
  taken := by simp
  accepted := by simp
  finished := by simp

/-- A loop that has turned to a message can count it. -/
theorem toNat_sent_succ {loop : Loop} (balances : Balances options past loop)
    (busy : loop.point.isBusy = true) : (loop.sent + 1).toNat = loop.sent.toNat + 1 := by
  have hmore := balances.left busy
  have hmessages := options.messages.toNat_lt
  rw [UInt64.toNat_add, UInt64.toNat_one, Nat.mod_eq_of_lt (by omega)]

/-- A loop with a message left turns to it, or stays with it. -/
theorem stay {loop next : Loop} (balances : Balances options past loop)
    (live : loop.point.isLive = true) (left : loop.sent.toNat < options.messages.toNat)
    (sent : next.sent = loop.sent)
    (taken : events.minted.length + loop.point.begun = next.point.begun)
    (accepted : events.completed.length + loop.point.done = next.point.done)
    (unfinished : next.point ≠ .halted (.ok .completed)) :
    Balances options (past ++ events) next where
  left _ := by rw [sent]; exact left
  enough := by rw [sent]; exact balances.enough
  supply := by
    have hbefore := balances.taken live
    have hbegun : next.point.begun ≤ 1 := by cases next.point <;> simp
    rw [History.minted_append, List.length_append]
    omega
  taken _ := by
    have hbefore := balances.taken live
    rw [History.minted_append, List.length_append, sent]
    omega
  accepted _ := by
    have hbefore := balances.accepted live
    rw [History.completed_append, List.length_append, sent]
    omega
  finished here := absurd here unfinished

/-- A loop that turns no more, and has not completed its task. -/
theorem halt {loop next : Loop} {outcome : Outcome} (balances : Balances options past loop)
    (sent : next.sent = loop.sent) (minted : events.minted = [])
    (ended : next.point = .halted outcome) (unfinished : outcome ≠ .ok .completed) :
    Balances options (past ++ events) next where
  left busy := by rw [ended] at busy; cases busy
  enough := by rw [sent]; exact balances.enough
  supply := by
    rw [History.minted_append, minted, List.append_nil]
    exact balances.supply
  taken live := by rw [ended] at live; cases live
  accepted live := by rw [ended] at live; cases live
  finished here := by
    rw [ended] at here
    exact absurd (Point.halted.inj here) unfinished

theorem move (balances : Balances options past state.now)
    (move : Move options handle state exchange events after) :
    Balances options (past ++ events) after.now := by
  have hsame : past ++ [] = past := List.append_nil past
  cases move with
  | emit emission rest loop => exact hsame.symm ▸ balances
  | renew loop here left =>
    exact balances.stay (by simp [here]) (UInt64.lt_iff_toNat_lt.1 left) rfl (by simp [here])
      (by simp [here]) (by simp)
  | finish loop here none_left =>
    have htaken := balances.taken (by simp [here])
    have haccepted := balances.accepted (by simp [here])
    have hsent : loop.sent.toNat = options.messages.toNat :=
      Nat.le_antisymm balances.enough (UInt64.le_iff_toNat_le.1 none_left)
    rw [here, hsent] at htaken haccepted
    rw [hsame]
    exact { balances with
      left := nofun
      taken := nofun
      accepted := nofun
      finished := fun _ => ⟨htaken, haccepted⟩ }
  | mint loop id here =>
    exact balances.stay (by simp [here]) (balances.left (by simp [here])) rfl (by simp [here])
      (by simp [here]) (by simp)
  | accept loop id attempt answer here ok =>
    exact balances.stay (by simp [here]) (balances.left (by simp [here])) rfl (by simp [here])
      (by simp [here]) (by simp)
  | refuse loop id attempt answer here refused below =>
    exact balances.stay (by simp [here]) (balances.left (by simp [here])) rfl (by simp [here])
      (by simp [here, refused]) (by simp)
  | again loop id attempt here =>
    exact balances.stay (by simp [here]) (balances.left (by simp [here])) rfl (by simp [here])
      (by simp [here]) (by simp)
  | giveUp loop id attempt answer line here refused cap =>
    exact balances.halt rfl rfl rfl (by simp)
  | crash loop id attempt fault here => exact balances.halt rfl rfl rfl (by simp)
  | drop loop id attempt here => exact balances.halt rfl rfl rfl (by simp)
  | leave loop here => exact balances.halt rfl rfl rfl (by simp)
  | goOn loop here =>
    have hmore : loop.sent.toNat < options.messages.toNat := balances.left (by simp [here])
    have hnext : (loop.sent + 1).toNat = loop.sent.toNat + 1 :=
      balances.toNat_sent_succ (by simp [here])
    have htaken := balances.taken (by simp [here])
    have haccepted := balances.accepted (by simp [here])
    rw [here] at htaken haccepted
    rw [hsame]
    exact {
      left := nofun
      enough := by rw [hnext]; exact hmore
      supply := balances.supply
      taken := fun _ => by rw [hnext]; exact htaken
      accepted := fun _ => by rw [hnext]; exact haccepted
      finished := nofun }

end Balances

/-! ## Runs -/

variable {turns : List (Turn Loop)} {ledger later : Ledger} {others : List Exchange}

/-- No message is lost sight of in any run. -/
theorem Balances.of_run
    (run : Run (request name options handle) (.enter {}) turns state) :
    Balances options (history turns) state.now :=
  history_induction (P := fun past state => Balances options past state.now) (.start options)
    (fun balances move => balances.move move) run

theorem minted_history (run : Run (request name options handle) (.enter {}) turns state) :
    (history turns).minted = mintedIds turns := by
  induction run with
  | start => rfl
  | @ask turns state query next before asks reply ih =>
    obtain ⟨events, move⟩ := Move.of_request asks reply
    rw [history_append, history_singleton, move.events_eq, History.minted_append, move.minted, ih,
      mintedIds_append]
    cases query <;> rfl

/-- The ids that a loop takes are new, unless the mint goes all the way round. -/
theorem nodup_mintedIds (run : Run (request name options handle) (.enter {}) turns state)
    (served : ledger.Serves turns others later)
    (few : (Ledger.idsOf others).length + options.messages.toNat < 2 ^ 64) :
    (mintedIds turns).Nodup := by
  refine served.nodup_mintedIds ?_
  have hsupply := (Balances.of_run run).supply
  rw [minted_history run] at hsupply
  omega

/-- If the ids are new, the loop is right about the fate of its message. -/
theorem tracks_of_run (run : Run (request name options handle) (.enter {}) turns state)
    (new : (mintedIds turns).Nodup) :
    Tracks options.maxAttempts.toNat (history turns) state.now.point.stakes := by
  rw [← minted_history run] at new
  refine history_induction
    (P := fun past state => past.minted.Nodup →
      Tracks options.maxAttempts.toNat past state.now.point.stakes)
    (fun _ => .nil) (fun {past events state after exchange} tracks move hnew => ?_) run new
  rw [History.minted_append] at hnew
  exact move.tracks (tracks (List.Nodup.of_append_left hnew)) (History.minted_append _ _ ▸ hnew)

end Blocking
end Producer
end BrokerLoad
