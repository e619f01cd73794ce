import BrokerLoad.Proofs.Worker.Scene
import Mathlib.Tactic.Convert

/-!
# How a worker stands

Two things make it hard to say how a worker stands at some moment.  Its state, its thread, its
ending and its completion latch change in different steps; and some of these steps are taken by
callers that have decided on them a while ago.  An `Account` has it all together: what is to be
seen of the lifecycle, how many callers are about to create the thread or to announce a
stop that took effect before any start, and what has happened so far.

`Account.Move` says how one step can change an account, and `Standing` lists the accounts that
can come up at all: the worker is untouched, or a stop came first and nothing will ever run, or
a start came first and one thread goes through its phases once.  Moves stay within the list
(`Standing.move`), and a scene moves with each of its steps (`Scene.Step.move`).  So any scene
that is reached stands in one of these ways (`Scene.Runs.sound`), and what is to be known of it
can be read off the list.
-/

namespace BrokerLoad
namespace Lifecycle

/-- What a worker writes when it begins. -/
def startedLine (name : String) : LogLine := .out (name ++ " started")

/-- What a worker writes when it ends. -/
def stoppedLine (name : String) (ending : Ending) : LogLine :=
  .out (name ++ " stopped (" ++ ending.text ++ ")")

/-- What there is to say about a worker at some moment. -/
@[ext] structure Account where
  state : State
  phase : Phase
  ending : Ending
  isDone : Bool
  /-- How many callers are about to create the thread. -/
  spawning : Nat
  /-- How many callers have yet to tell that the worker will never run. -/
  cancelling : Nat
  /-- How often it was started. -/
  starts : Nat
  /-- How often a stop came before any start. -/
  cancels : Nat
  /-- How often its loop was entered. -/
  entries : Nat
  /-- What has come out of its loop. -/
  outcomes : List Outcome
  /-- What has been written to standard output. -/
  said : List LogLine

namespace Account

/-- How one step can change an account. -/
inductive Move (name : String) (account : Account) : Account → Prop
  | stay : Move name account account
  | start (found : account.state = .created) :
    Move name account
      { account with
        state := .running
        spawning := account.spawning + 1
        starts := account.starts + 1 }
  | spawn {rest : Nat} (claimed : account.spawning = rest + 1) :
    Move name account { account with phase := .announcing, spawning := rest }
  | cancel (found : account.state = .created) :
    Move name account
      { account with
        state := .stopped
        cancelling := account.cancelling + 1
        cancels := account.cancels + 1 }
  | finish {rest : Nat} (claimed : account.cancelling = rest + 1) :
    Move name account { account with isDone := true, cancelling := rest }
  | stop (found : account.state = .running) : Move name account { account with state := .stopping }
  | join (found : account.phase = .exited) : Move name account { account with phase := .joined }
  /-- The loop is entered. -/
  | enter (found : account.phase = .announcing) :
    Move name account
      { account with
        phase := .working
        entries := account.entries + 1
        said := account.said ++ [startedLine name] }
  /-- The loop is left with an ending. -/
  | leave (ending : Ending) (found : account.phase = .working) :
    Move name account
      { account with
        phase := .recording ending
        outcomes := account.outcomes ++ [.ok ending] }
  /-- The loop is left by a fault. -/
  | fail (fault : Fault) (found : account.phase = .working) :
    Move name account
      { account with
        phase := .complaining fault
        outcomes := account.outcomes ++ [.error fault] }
  | complain (fault : Fault) (found : account.phase = .complaining fault) :
    Move name account { account with phase := .recording .unexpectedError }
  | record (ending : Ending) (found : account.phase = .recording ending) :
    Move name account { account with ending := ending, phase := .closing ending }
  | close (ending : Ending) (found : account.phase = .closing ending) :
    Move name account { account with state := .stopped, phase := .leaving ending }
  | announce (ending : Ending) (found : account.phase = .leaving ending) :
    Move name account
      { account with
        phase := .signalling
        said := account.said ++ [stoppedLine name ending] }
  | signal (found : account.phase = .signalling) :
    Move name account { account with isDone := true, phase := .exited }

/-- Whether a worker that was started has not been marked as stopped. -/
def IsLive (state : State) : Prop := state = .running ∨ state = .stopping

/-- The accounts that can come up. -/
inductive Standing (name : String) : Account → Prop
  | untouched : Standing name ⟨.created, .absent, .unset, false, 0, 0, 0, 0, 0, [], []⟩
  /-- A stop came before any start. -/
  | cancelled (isDone : Bool) (cancelling : Nat) :
    Standing name ⟨.stopped, .absent, .unset, isDone, 0, cancelling, 0, 1, 0, [], []⟩
  /-- Started, and the thread is yet to be created. -/
  | claimed {state : State} (live : IsLive state) :
    Standing name ⟨state, .absent, .unset, false, 1, 0, 1, 0, 0, [], []⟩
  | announcing {state : State} (live : IsLive state) :
    Standing name ⟨state, .announcing, .unset, false, 0, 0, 1, 0, 0, [], []⟩
  | working {state : State} (live : IsLive state) :
    Standing name ⟨state, .working, .unset, false, 0, 0, 1, 0, 1, [], [startedLine name]⟩
  | complaining {state : State} (live : IsLive state) (fault : Fault) :
    Standing name ⟨state, .complaining fault, .unset, false, 0, 0, 1, 0, 1, [.error fault],
      [startedLine name]⟩
  | recording {state : State} (live : IsLive state) (outcome : Outcome) :
    Standing name ⟨state, .recording (verdict outcome), .unset, false, 0, 0, 1, 0, 1, [outcome],
      [startedLine name]⟩
  | closing {state : State} (live : IsLive state) (outcome : Outcome) :
    Standing name ⟨state, .closing (verdict outcome), verdict outcome, false, 0, 0, 1, 0, 1,
      [outcome], [startedLine name]⟩
  | leaving (outcome : Outcome) :
    Standing name ⟨.stopped, .leaving (verdict outcome), verdict outcome, false, 0, 0, 1, 0, 1,
      [outcome], [startedLine name]⟩
  | signalling (outcome : Outcome) :
    Standing name ⟨.stopped, .signalling, verdict outcome, false, 0, 0, 1, 0, 1, [outcome],
      [startedLine name, stoppedLine name (verdict outcome)]⟩
  | ended (outcome : Outcome) {phase : Phase} (past : phase = .exited ∨ phase = .joined) :
    Standing name ⟨.stopped, phase, verdict outcome, true, 0, 0, 1, 0, 1, [outcome],
      [startedLine name, stoppedLine name (verdict outcome)]⟩

namespace Standing

variable {name : String} {account after : Account}

/-- Every move leads to an account that can come up. -/
theorem move (standing : Standing name account) (move : account.Move name after) :
    Standing name after := by
  cases move with
  | stay => exact standing
  | start found =>
    cases standing with
    | untouched => exact .claimed (.inl rfl)
    | _ => simp_all [IsLive]
  | spawn claimed =>
    cases standing with
    | claimed live =>
      cases claimed
      exact .announcing live
    | _ => cases claimed
  | cancel found =>
    cases standing with
    | untouched => exact .cancelled false 1
    | _ => simp_all [IsLive]
  | finish claimed =>
    cases standing with
    | cancelled isDone cancelling => exact .cancelled true _
    | _ => cases claimed
  | stop found =>
    cases standing with
    | claimed live => exact .claimed (.inr rfl)
    | announcing live => exact .announcing (.inr rfl)
    | working live => exact .working (.inr rfl)
    | complaining live fault => exact .complaining (.inr rfl) fault
    | recording live outcome => exact .recording (.inr rfl) outcome
    | closing live outcome => exact .closing (.inr rfl) outcome
    | _ => cases found
  | join found =>
    cases standing with
    | ended outcome past => exact .ended outcome (.inr rfl)
    | _ => cases found
  | enter found =>
    cases standing with
    | announcing live => exact .working live
    | ended outcome past => simp_all
    | _ => cases found
  | leave ending found =>
    cases standing with
    | working live => exact .recording live (.ok ending)
    | ended outcome past => simp_all
    | _ => cases found
  | fail fault found =>
    cases standing with
    | working live => exact .complaining live fault
    | ended outcome past => simp_all
    | _ => cases found
  | complain fault found =>
    cases standing with
    | complaining live other => exact .recording live (.error other)
    | ended outcome past => simp_all
    | _ => cases found
  | record ending found =>
    cases standing with
    | recording live outcome =>
      cases found
      exact .closing live outcome
    | ended outcome past => simp_all
    | _ => cases found
  | close ending found =>
    cases standing with
    | closing live outcome =>
      cases found
      exact .leaving outcome
    | ended outcome past => simp_all
    | _ => cases found
  | announce ending found =>
    cases standing with
    | leaving outcome =>
      cases found
      exact .signalling outcome
    | ended outcome past => simp_all
    | _ => cases found
  | signal found =>
    cases standing with
    | signalling outcome => exact .ended outcome (.inl rfl)
    | ended outcome past => simp_all
    | _ => cases found

/-- A worker that is done stays so, and its ending with it. -/
theorem final (standing : Standing name account) (move : account.Move name after)
    (isDone : account.isDone = true) : after.isDone = true ∧ after.ending = account.ending := by
  cases move with
  | record ending found =>
    cases standing with
    | ended outcome past => simp_all
    | cancelled => cases found
    | _ => cases isDone
  | finish claimed => exact ⟨rfl, rfl⟩
  | signal found => exact ⟨rfl, rfl⟩
  | _ => exact ⟨isDone, rfl⟩

/-- The loop is entered once at most. -/
theorem entries_le_one (standing : Standing name account) : account.entries ≤ 1 := by
  cases standing <;> simp

/-- A worker that was stopped before any start never enters its loop. -/
theorem entries_of_cancels (standing : Standing name account) (cancels : 0 < account.cancels) :
    account.entries = 0 := by
  cases standing <;> first | rfl | simp at cancels

theorem state_of_isDone (standing : Standing name account) (isDone : account.isDone = true) :
    account.state = .stopped := by
  cases standing <;> first | rfl | cases isDone

theorem ending_of_isDone (standing : Standing name account) (isDone : account.isDone = true) :
    (account.entries = 0 ∧ account.outcomes = [] ∧ account.ending = .unset) ∨
      ∃ outcome, account.entries = 1 ∧ account.outcomes = [outcome] ∧
        account.ending = verdict outcome := by
  cases standing with
  | cancelled => exact .inl ⟨rfl, rfl, rfl⟩
  | ended outcome past => exact .inr ⟨outcome, rfl, rfl, rfl⟩
  | _ => cases isDone

theorem said_of_isDone (standing : Standing name account) (isDone : account.isDone = true) :
    account.said =
      if 0 < account.starts then [startedLine name, stoppedLine name account.ending] else [] := by
  cases standing with
  | cancelled => rfl
  | ended outcome past => rfl
  | _ => cases isDone

end Standing
end Account

namespace Scene

/-- The account of a scene and of what has happened so far. -/
def account (scene : Scene) (events : List Event) : Account where
  state := scene.life.state
  phase := scene.life.phase
  ending := scene.life.ending
  isDone := scene.life.isDone
  spawning := scene.callers.countP (·.now.isSpawning)
  cancelling := scene.callers.countP (·.now.isCancelling)
  starts := events.countP Event.isStart
  cancels := events.countP Event.isCancel
  entries := events.countP Event.isEntry
  outcomes := events.filterMap Event.outcome?
  said := scene.log.filter (·.stream = .out)

/-- A caller of a list goes on, as seen by a count of callers. -/
theorem countP_set_add {callers : List Caller} {number : Nat} {caller : Caller}
    (calls : callers[number]? = some caller) (p : Caller → Bool) (next : Caller) :
    (callers.set number next).countP p + (if p caller then 1 else 0) =
      callers.countP p + if p next then 1 else 0 := by
  obtain ⟨hlt, hget⟩ := List.getElem?_eq_some_iff.1 calls
  have hmem : p caller = true → 0 < callers.countP p := fun hp =>
    List.countP_pos_iff.2 ⟨caller, List.mem_of_getElem? calls, hp⟩
  rw [List.countP_set hlt, hget]
  split <;> rename_i hp
  · have := hmem hp
    omega
  · omega

section Moves

variable {scene : Scene} {events : List Event} {number : Nat} {caller : Caller} {now : Control}
  {life : Lifecycle} {lines : List LogLine}

/-- A caller's step is a move. -/
theorem move_of_control (name : String) (valid : scene.life.done.valid = true)
    (calls : scene.callers[number]? = some caller) {timeUp : Bool}
    (step : caller.now.step timeUp scene.life = some (now, life, lines)) :
    (scene.account events).Move name
      ((⟨life, scene.callers.set number ⟨caller.asked, now⟩, scene.log ++ lines⟩ : Scene).account
        (events ++ [.controlled number caller.now scene.life])) := by
  obtain ⟨effect, quiet⟩ := Control.effect_of_step step
  have hspawning := countP_set_add calls (·.now.isSpawning) ⟨caller.asked, now⟩
  have hcancelling := countP_set_add calls (·.now.isCancelling) ⟨caller.asked, now⟩
  obtain ⟨asked, control⟩ := caller
  dsimp only at effect step hspawning hcancelling ⊢
  cases effect with
  | start found =>
    have moves : (scene.account events).Move name _ := .start found
    convert moves using 1
    simp_all [account, Lifecycle.isDone]
  | spawn =>
    have moves : (scene.account events).Move name _ := .spawn hspawning.symm
    convert moves using 1
    simp_all [account, Lifecycle.isDone]
  | cancel found =>
    have moves : (scene.account events).Move name _ := .cancel found
    convert moves using 1
    simp_all [account, Lifecycle.isDone]
  | finish =>
    have moves : (scene.account events).Move name _ := .finish hcancelling.symm
    convert moves using 1
    simp_all [account, Lifecycle.isDone, Latch.isSet_notify]
  | stop found =>
    have moves : (scene.account events).Move name _ := .stop found
    convert moves using 1
    simp_all [account, Lifecycle.isDone]
  | join found =>
    have moves : (scene.account events).Move name _ := .join found
    convert moves using 1
    simp_all [account, Lifecycle.isDone]
  | pass named state phase ending done idle spawning cancelling swaps =>
    have moves : (scene.account events).Move name _ := .stay
    convert moves using 1
    cases control <;> simp_all [account, Lifecycle.isDone]

/-- A step of the worker's own thread is a move. -/
theorem move_of_advance {name : String} (named : scene.life.name = name)
    (valid : scene.life.done.valid = true) {outcome : Option Outcome}
    (step : scene.life.advance outcome = some (life, lines)) :
    (scene.account events).Move name
      ((⟨life, scene.callers, scene.log ++ lines⟩ : Scene).account
        (events ++ [.advanced scene.life outcome])) := by
  cases hphase : scene.life.phase with
  | absent => simp [advance, hphase] at step
  | announcing =>
    simp only [advance, hphase, Option.some.injEq, Prod.mk.injEq] at step
    obtain ⟨rfl, rfl⟩ := step
    have moves : (scene.account events).Move name _ := .enter hphase
    convert moves using 1
    simp [account, hphase, named, startedLine, Lifecycle.isDone, LogLine.out]
  | working =>
    cases outcome with
    | none => simp [advance, hphase] at step
    | some outcome =>
      cases outcome with
      | ok ending =>
        simp only [advance, hphase, Option.some.injEq, Prod.mk.injEq] at step
        obtain ⟨rfl, rfl⟩ := step
        have moves : (scene.account events).Move name _ := .leave ending hphase
        convert moves using 1
        simp [account, hphase, Lifecycle.isDone]
      | error fault =>
        simp only [advance, hphase, Option.some.injEq, Prod.mk.injEq] at step
        obtain ⟨rfl, rfl⟩ := step
        have moves : (scene.account events).Move name _ := .fail fault hphase
        convert moves using 1
        simp [account, hphase, Lifecycle.isDone]
  | complaining fault =>
    simp only [advance, hphase, Option.some.injEq, Prod.mk.injEq] at step
    obtain ⟨rfl, rfl⟩ := step
    have moves : (scene.account events).Move name _ := .complain fault hphase
    convert moves using 1
    simp [account, hphase, Lifecycle.isDone, LogLine.err]
  | recording ending =>
    simp only [advance, hphase, Option.some.injEq, Prod.mk.injEq] at step
    obtain ⟨rfl, rfl⟩ := step
    have moves : (scene.account events).Move name _ := .record ending hphase
    convert moves using 1
    simp [account, hphase, Lifecycle.isDone]
  | closing ending =>
    simp only [advance, hphase, Option.some.injEq, Prod.mk.injEq] at step
    obtain ⟨rfl, rfl⟩ := step
    have moves : (scene.account events).Move name _ := .close ending hphase
    convert moves using 1
    simp [account, hphase, Lifecycle.isDone]
  | leaving ending =>
    simp only [advance, hphase, Option.some.injEq, Prod.mk.injEq] at step
    obtain ⟨rfl, rfl⟩ := step
    have moves : (scene.account events).Move name _ := .announce ending hphase
    convert moves using 1
    simp [account, hphase, named, stoppedLine, Lifecycle.isDone, LogLine.out]
  | signalling =>
    simp only [advance, hphase, Option.some.injEq, Prod.mk.injEq] at step
    obtain ⟨rfl, rfl⟩ := step
    have moves : (scene.account events).Move name _ := .signal hphase
    convert moves using 1
    simp [account, hphase, Lifecycle.isDone, Latch.isSet_notify valid]
  | exited => simp [advance, hphase] at step
  | joined => simp [advance, hphase] at step

end Moves

end Scene
end Lifecycle
end BrokerLoad
