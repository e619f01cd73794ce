import BrokerLoad.Proofs.Engine.Closing
import BrokerLoad.Proofs.Worker.Engagement

/-!
# Tidy workers

The handle of every engine is closed in time: once, by the engine itself, after the last that
was read or written and before the completion latch is set.  `IsTidy` says so, and
`Engagement.Runs.tidy` that every engagement is like that, whatever the replies, the callers and
their timing.

There is one way out on which nobody closes the handle, which is a fault that is no error and
that comes out of a call about the open handle.  `left_open` shows that it really is one.

Whether or not a worker is tidy, its completion latch is set once it has left its loop: its own
thread is never kept from going on, and it has five steps to take at most.
-/

namespace BrokerLoad

namespace Lifecycle

/-- How many steps the worker's own thread has left after its loop. -/
def Phase.left : Phase → Nat
  | .complaining _ => 5
  | .recording _ => 4
  | .closing _ => 3
  | .leaving _ => 2
  | .signalling => 1
  | _ => 0

namespace Account.Standing

variable {name : String} {account after : Account}

/-- A worker that is in its loop has entered it, has not left it and is not done. -/
theorem of_working (standing : Standing name account) (working : account.phase = .working) :
    account.isDone = false ∧ account.entries = 1 ∧ account.outcomes = [] := by
  cases standing with
  | working live => exact ⟨rfl, rfl, rfl⟩
  | ended outcome past => simp_all
  | _ => cases working

/-- A worker that has left its loop is done, or its own thread has steps left. -/
theorem of_outcomes (standing : Standing name account) (ended : account.outcomes ≠ []) :
    (account.isDone = true ∨ 0 < account.phase.left) ∧ account.phase.left ≤ 5 ∧
      account.phase ≠ .announcing ∧ account.phase ≠ .working := by
  cases standing with
  | ended outcome past => rcases past with rfl | rfl <;> simp [Phase.left]
  | complaining live fault => simp [Phase.left]
  | recording live outcome => simp [Phase.left]
  | closing live outcome => simp [Phase.left]
  | leaving outcome => simp [Phase.left]
  | signalling outcome => simp [Phase.left]
  | _ => simp at ended

/-- Nobody gives a thread that has left its loop any more steps. -/
theorem left_of_move (standing : Standing name account) (ended : account.outcomes ≠ [])
    (move : account.Move name after) : after.phase.left ≤ account.phase.left := by
  cases move with
  | spawn claimed =>
    cases standing with
    | claimed => simp at ended
    | _ => cases claimed
  | leave ending found => exact absurd found (standing.of_outcomes ended).2.2.2
  | fail fault found => exact absurd found (standing.of_outcomes ended).2.2.2
  | _ => simp_all [Phase.left]

end Account.Standing

/-- After the loop each step of the thread is one step less. -/
theorem left_of_advance {life after : Lifecycle} {outcome : Option Outcome}
    {lines : List LogLine} (step : life.advance outcome = some (after, lines))
    (past : life.phase ≠ .announcing ∧ life.phase ≠ .working) :
    after.phase.left + 1 = life.phase.left := by
  simp only [advance] at step
  (repeat' split at step) <;> cases step <;> simp_all [Phase.left]

/-- A thread that has steps left after its loop can take one. -/
theorem exists_advance {life : Lifecycle} (left : 0 < life.phase.left) :
    ∃ after, life.advance none = some after := by
  cases hphase : life.phase <;> simp_all [Phase.left, advance]

end Lifecycle

open Lifecycle

namespace Engagement

variable {name : String} {start : Engine} {deeds more : List Deed}
  {engagement after final : Engagement} {deed : Deed}

/-- How the scene, the engine and what has happened go together. -/
structure Sound (name : String) (start : Engine) (deeds : List Deed) (engagement : Engagement) :
    Prop where
  scene : Scene.Sound name (events deeds) engagement.scene
  course : Engine.Course name start (exchanges deeds) engagement.engine
  /-- Nothing is asked before the loop is entered. -/
  idle : (events deeds).countP Event.isEntry = 0 → exchanges deeds = []
  /-- The loop is left when the engine has finished. -/
  finished : (events deeds).filterMap Event.outcome? ≠ [] →
    ∃ outcome, engagement.engine.request name = .finish outcome

/-- A step is one of the scene, or else the engine asks. -/
theorem Step.scene_cases (step : engagement.Step deed after) :
    (∃ event, deed = .life event ∧ engagement.scene.Step event after.scene) ∨
      ∃ exchange, deed = .asked exchange ∧ engagement.scene.life.phase = .working ∧
        after.scene = engagement.scene := by
  cases step with
  | others step other => exact .inl ⟨_, rfl, step⟩
  | advance outside step => exact .inl ⟨_, rfl, .advance _ none step⟩
  | finish working finishes step => exact .inl ⟨_, rfl, .advance _ _ step⟩
  | ask working asks reply => exact .inr ⟨_, rfl, working, rfl⟩

namespace Sound

theorem hire (name : String) (engine : Engine) : Sound name engine [] (.hire name engine) where
  scene := .fresh name
  course := .start
  idle _ := rfl
  finished h := absurd rfl h

theorem step (sound : Sound name start deeds engagement) (step : engagement.Step deed after) :
    Sound name start (deeds ++ [deed]) after := by
  cases step with
  | @others event scene step other =>
    have hquiet : event.outcome? = none := by
      cases event <;> first | rfl | cases other
    refine ⟨?_, ?_, fun h => ?_, fun h => ?_⟩
    · simpa using sound.scene.step step
    · simpa using sound.course
    · simp only [events_append, List.countP_append, Nat.add_eq_zero_iff] at h
      simpa using sound.idle h.1
    · rw [events_append, events_life, List.filterMap_append, List.filterMap_cons_none hquiet,
        List.filterMap_nil, List.append_nil] at h
      exact sound.finished h
  | advance outside step =>
    refine ⟨?_, ?_, fun h => ?_, fun h => ?_⟩
    · simpa using sound.scene.step (.advance _ none step)
    · simpa using sound.course
    · simp only [events_append, List.countP_append, Nat.add_eq_zero_iff] at h
      simpa using sound.idle h.1
    · simpa using sound.finished (by simpa [outside] using h)
  | @finish outcome life lines working finishes step =>
    refine ⟨?_, ?_, fun h => ?_, fun h => ?_⟩
    · simpa using sound.scene.step (.advance _ (some outcome) step)
    · simpa using sound.course
    · simp only [events_append, List.countP_append, Nat.add_eq_zero_iff] at h
      simpa using sound.idle h.1
    · exact ⟨outcome, sound.scene.named ▸ finishes⟩
  | @ask query next working asks reply =>
    obtain ⟨-, hentries, houtcomes⟩ := sound.scene.standing.of_working working
    refine ⟨?_, ?_, fun h => ?_, fun h => ?_⟩
    · simpa using sound.scene
    · rw [sound.scene.named] at asks
      simpa using sound.course.ask asks reply
    · simp only [events_append, events_asked, List.append_nil] at h
      exact absurd (h.symm.trans hentries) (by simp)
    · simp only [events_append, events_asked, List.append_nil] at h
      exact absurd houtcomes h

end Sound

theorem Runs.sound (runs : (hire name start).Runs deeds engagement) :
    Sound name start deeds engagement := by
  induction runs with
  | refl => exact .hire name start
  | step _ step ih => exact ih.step step

namespace Sound

theorem runs (sound : Sound name start deeds engagement) (runs : engagement.Runs more final) :
    Sound name start (deeds ++ more) final := by
  induction runs with
  | refl => simpa using sound
  | step _ step ih =>
    rw [← List.append_assoc]
    exact ih.step step

/-- Once the completion latch is set nothing is asked any more, and the latch stays set. -/
theorem silent (sound : Sound name start deeds engagement) (runs : engagement.Runs more final)
    (isDone : engagement.scene.life.isDone = true) :
    exchanges more = [] ∧ final.scene.life.isDone = true := by
  induction runs with
  | refl => exact ⟨rfl, isDone⟩
  | step before step ih =>
    have hscene := (sound.runs before).scene
    rcases step.scene_cases with ⟨event, rfl, hstep⟩ | ⟨exchange, rfl, working, -⟩
    · exact ⟨by simpa using ih.1, (hscene.settled (.step .refl hstep) ih.2).1⟩
    · have hdone := (hscene.standing.of_working working).1
      exact absurd (hdone.symm.trans ih.2) (by simp)

/-- After its loop the worker's own thread has a number of steps left, and takes no more. -/
theorem steps_left (sound : Sound name start deeds engagement) (runs : engagement.Runs more final)
    (ended : (events deeds).filterMap Event.outcome? ≠ []) :
    more.countP Deed.isOwn + final.scene.life.phase.left ≤ engagement.scene.life.phase.left := by
  induction runs with
  | refl => simp
  | @step more before after deed runs step ih =>
    have hscene := (sound.runs runs).scene
    have hended : (before.scene.account (events (deeds ++ more))).outcomes ≠ [] := by
      change (events (deeds ++ more)).filterMap Event.outcome? ≠ []
      rw [events_append, List.filterMap_append]
      exact fun h => ended (List.append_eq_nil_iff.1 h).1
    obtain ⟨-, -, houtside⟩ := hscene.standing.of_outcomes hended
    rw [List.countP_append, List.countP_singleton]
    rcases step.scene_cases with ⟨event, rfl, hstep⟩ | ⟨exchange, rfl, working, -⟩
    · cases hown : event.isOwn with
      | false =>
        have hleft := hscene.standing.left_of_move hended (hstep.move hscene.named hscene.valid)
        change after.scene.life.phase.left ≤ before.scene.life.phase.left at hleft
        simp only [Deed.isOwn, hown, Bool.false_eq_true, if_false]
        omega
      | true =>
        generalize after.scene = scene at hstep ⊢
        cases hstep with
        | advance outcome advances =>
          have hleft := left_of_advance advances houtside
          simp only [Deed.isOwn, hown, if_true]
          omega
        | _ => cases hown
    · exact absurd working houtside.2

end Sound

/-- A worker whose handle is closed in time: what has been done with it, and what is still done
with it later. -/
structure IsTidy (deeds : List Deed) (engagement : Engagement) (more : List Deed) : Prop where
  /-- There is one handle at most. -/
  handed_once : (handed (exchanges deeds)).length ≤ 1
  /-- It is closed once at most, and no other handle is. -/
  closed_once : closed (exchanges deeds) = [] ∨ closed (exchanges deeds) = handed (exchanges deeds)
  /-- After that nothing is read or written. -/
  ordered : (exchanges deeds).Pairwise fun earlier later =>
    earlier.closed? ≠ none → later.isTransfer = false
  /-- By the time that the loop has been left it has been closed, unless a fault has escaped. -/
  ended : (events deeds).filterMap Event.outcome? ≠ [] →
    closed (exchanges deeds) =
      if (exchanges deeds).any Exchange.escapes then [] else handed (exchanges deeds)
  /-- The same holds when the completion latch has been set, and nothing is asked any more. -/
  done : engagement.scene.life.isDone = true →
    closed (exchanges deeds) =
        (if (exchanges deeds).any Exchange.escapes then [] else handed (exchanges deeds)) ∧
      exchanges more = []
  /-- Once the loop has been left nothing keeps the worker's own thread from going on until the
  latch is set. -/
  ready : (events deeds).filterMap Event.outcome? ≠ [] →
    engagement.scene.life.isDone = true ∨
      ∃ deed after, deed.isOwn = true ∧ engagement.Step deed after
  /-- It takes five more steps at most. -/
  bounded : (events deeds).filterMap Event.outcome? ≠ [] → more.countP Deed.isOwn ≤ 5

/-- Every worker is tidy, whatever its engine, whatever it is told and whoever controls it. -/
theorem Runs.tidy (new : start.IsNew) (runs : (hire name start).Runs deeds engagement)
    (goesOn : engagement.Runs more final) : IsTidy deeds engagement more := by
  have hsound := runs.sound
  obtain ⟨escaping, tended⟩ := hsound.course.tended new
  have hended : (events deeds).filterMap Event.outcome? ≠ [] →
      closed (exchanges deeds) =
        if (exchanges deeds).any Exchange.escapes then [] else handed (exchanges deeds) := by
    intro ended
    obtain ⟨outcome, hfinish⟩ := hsound.finished ended
    rw [Engine.stage_of_finish hfinish] at tended
    exact tended.closed_of_over
  have hready : (events deeds).filterMap Event.outcome? ≠ [] →
      engagement.scene.life.isDone = true ∨
        ∃ deed after, deed.isOwn = true ∧ engagement.Step deed after := by
    intro ended
    obtain ⟨hstands, -, houtside⟩ := hsound.scene.standing.of_outcomes ended
    refine hstands.imp_right fun hleft => ?_
    obtain ⟨⟨life, lines⟩, hadvance⟩ := exists_advance hleft
    exact ⟨_, _, rfl, .advance engagement houtside.2 hadvance⟩
  refine
    { handed_once := tended.length_handed_le
      closed_once := tended.closed_eq
      ordered := hsound.course.ordered new
      ended := hended
      done := fun isDone => ⟨?_, (hsound.silent goesOn isDone).1⟩
      ready := hready
      bounded := fun ended => ?_ }
  · -- Either the loop has been left, or nothing was ever asked.
    rcases hsound.scene.standing.ending_of_isDone isDone with ⟨hentries, -, -⟩ | ⟨outcome, -, h, -⟩
    · rw [hsound.idle hentries]
      rfl
    · exact hended (by
        change (events deeds).filterMap Event.outcome? = [outcome] at h
        simp [h])
  · have hsteps := hsound.steps_left goesOn ended
    have hleft := (hsound.scene.standing.of_outcomes ended).2.1
    change engagement.scene.life.phase.left ≤ 5 at hleft
    omega

/-- A worker that was started and is now in its loop, with nothing asked yet. -/
theorem exists_entered (name : String) (engine : Engine) :
    ∃ deeds callers log, exchanges deeds = [] ∧ (hire name engine).Runs deeds
      ⟨⟨{ name := name, state := .running, phase := .working }, callers, log⟩, engine⟩ := by
  have runs : (hire name engine).Runs [] (hire name engine) := .refl
  have runs := runs.step (.others _ (.call _ .start) rfl)
  have runs := runs.step (.others _ (@Scene.Step.control _ false 0 _ rfl _ _ _ rfl) rfl)
  have runs := runs.step (.others _ (@Scene.Step.control _ false 0 _ rfl _ _ _ rfl) rfl)
  have runs := runs.step (.others _ (@Scene.Step.control _ false 0 _ rfl _ _ _ rfl) rfl)
  have runs := runs.step (.others _ (@Scene.Step.control _ false 0 _ rfl _ _ _ rfl) rfl)
  have runs := runs.step (.advance _ (by simp) rfl)
  exact ⟨_, _, _, rfl, runs⟩

/-- A producer that writes one message closes its handle after that. -/
theorem tidy_of_one_write : ∃ deeds engagement,
    (hire "publisher-0" (.producer false { destination := "/d", messages := 1 })).Runs deeds
      engagement ∧
    engagement.scene.life.isDone = true ∧ handed (exchanges deeds) = [7] ∧
    closed (exchanges deeds) = [7] ∧ (exchanges deeds).countP Exchange.isTransfer = 1 ∧
    IsTidy deeds engagement [] := by
  obtain ⟨deeds, callers, log, hnone, runs⟩ := exists_entered "publisher-0"
    (.producer false { destination := "/d", messages := 1 })
  have runs := runs.step (@Step.ask _ (.broker (.create _)) _ rfl rfl (.ok (some 7)))
  have runs := runs.step (@Step.ask _ (.broker (.openHandle _)) _ rfl rfl (.ok true))
  have runs := runs.step (@Step.ask _ .pause _ rfl rfl ())
  have runs := runs.step (@Step.ask _ .mint _ rfl rfl 1)
  have runs := runs.step (@Step.ask _ (.broker (.write _ _)) _ rfl rfl (.ok ⟨.ok, ""⟩))
  have runs := runs.step (@Step.ask _ (.emit _) _ rfl rfl ())
  have runs := runs.step (@Step.ask _ (.emit _) _ rfl rfl ())
  have runs := runs.step (@Step.ask _ (.emit _) _ rfl rfl ())
  have runs := runs.step (@Step.ask _ .stopRequested _ rfl rfl false)
  have runs := runs.step (@Step.ask _ .pause _ rfl rfl ())
  have runs := runs.step (@Step.ask _ .pause _ rfl rfl ())
  have runs := runs.step (@Step.ask _ (.broker (.closeHandle _)) _ rfl rfl (.ok ()))
  have runs := runs.step (@Step.ask _ (.broker (.release _)) _ rfl rfl ())
  have runs := runs.step (.finish _ rfl rfl rfl)
  have runs := runs.step (.advance _ (by simp) rfl)
  have runs := runs.step (.advance _ (by simp) rfl)
  have runs := runs.step (.advance _ (by simp) rfl)
  have runs := runs.step (.advance _ (by simp) rfl)
  refine ⟨_, _, runs, rfl, ?_, ?_, ?_, runs.tidy (.producer false _) .refl⟩ <;>
    simp only [exchanges_append, exchanges_asked, exchanges_life, hnone] <;> rfl

/-- A producer whose write ends in a fault that is no error leaves its handle open. -/
theorem left_open : ∃ deeds engagement,
    (hire "publisher-0" (.producer true { destination := "/d", messages := 1 })).Runs deeds
      engagement ∧
    engagement.scene.life.isDone = true ∧ handed (exchanges deeds) = [7] ∧
    closed (exchanges deeds) = [] := by
  obtain ⟨deeds, callers, log, hnone, runs⟩ := exists_entered "publisher-0"
    (.producer true { destination := "/d", messages := 1 })
  have runs := runs.step (@Step.ask _ (.broker (.create _)) _ rfl rfl (.ok (some 7)))
  have runs := runs.step (@Step.ask _ (.broker (.openHandle _)) _ rfl rfl (.ok true))
  have runs := runs.step (@Step.ask _ .pause _ rfl rfl ())
  have runs := runs.step (@Step.ask _ .mint _ rfl rfl 1)
  have runs := runs.step (@Step.ask _ (.broker (.submit _ _)) _ rfl rfl (.error .foreign))
  have runs := runs.step (@Step.ask _ .pause _ rfl rfl ())
  have runs := runs.step (@Step.ask _ (.broker (.release _)) _ rfl rfl ())
  have runs := runs.step (.finish _ rfl rfl rfl)
  have runs := runs.step (.advance _ (by simp) rfl)
  have runs := runs.step (.advance _ (by simp) rfl)
  have runs := runs.step (.advance _ (by simp) rfl)
  have runs := runs.step (.advance _ (by simp) rfl)
  have runs := runs.step (.advance _ (by simp) rfl)
  refine ⟨_, _, runs, rfl, ?_, ?_⟩
  · simp only [exchanges_append, exchanges_asked, exchanges_life, hnone]
    rfl
  · simp only [exchanges_append, exchanges_asked, exchanges_life, hnone]
    rfl

end Engagement
end BrokerLoad
