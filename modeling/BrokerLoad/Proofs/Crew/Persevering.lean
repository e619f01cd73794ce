import BrokerLoad.Proofs.Crew.Alone
import BrokerLoad.Proofs.Crew.Reach
import BrokerLoad.Proofs.Docket.Hub
import BrokerLoad.Proofs.Producer.Throttled

/-!
# A throttled producer that waits for each receipt

A blocking producer that is alone with a hub repeats what was throttled at once, so that the repeat
has the next number.  At a pace of two or more that is never throttled as well.  Hence throttling
alone keeps no such producer from completing its task, wherever in a round the hub was in the
beginning (`Crew.perseveres`): each message is written once or twice, and it is written twice as
often as a number that was used is a multiple of the pace.

A pipelined producer has no such luck: what it repeats may be throttled again.
-/

namespace BrokerLoad

/-- The ids of what was to be written, in order. -/
def Past.written (past : Past) : List UInt64 :=
  past.filterMap fun occasion => occasion.exchange.written?

theorem Past.written_eq (past : Past) :
    past.written = (past.map Occasion.exchange).filterMap Exchange.written? := by
  rw [List.filterMap_map]
  rfl

namespace Crew

/-- What the one worker of a crew asks. -/
theorem map_exchange_asked (worker : Worker) (shared : Shared Hub) :
    (asked ⟨shared, [worker]⟩ 0).map Occasion.exchange = worker.asks shared := by
  show List.map _ (if worker.life.phase = .working then _ else _) = _
  rw [Worker.asks]
  split
  · cases worker.engine.request worker.life.name <;> rfl
  · rfl

/-- A crew of one asks what its one worker asks. -/
theorem exists_askedBy {before after : Worker × Shared Hub} {trail : List Exchange}
    (reaches : Worker.Reaches before trail after) :
    ∃ bound, runWorker 0 bound ⟨before.2, [before.1]⟩ = ⟨after.2, [after.1]⟩ ∧
      (askedBy 0 bound ⟨before.2, [before.1]⟩).map Occasion.exchange = trail := by
  induction reaches with
  | refl => exact ⟨0, rfl, rfl⟩
  | @head before next after trail more steps _ ih =>
    obtain ⟨bound, hrun, hasked⟩ := ih
    have hstep := step_of_steps steps
    refine ⟨bound + 1, ?_, ?_⟩
    · rw [runWorker, hstep]
      exact hrun
    · rw [askedBy, hstep]
      dsimp only
      rw [List.map_append, hasked, map_exchange_asked, steps.trails]

/-- When the loop of a worker is over, its worker leaves the ledger as it is, and writes no more. -/
theorem leaving_ok (name : String) (role : Role) (handle : Handle) (ending : Ending)
    (shared : Shared Hub) :
    (leaving name role handle (.ok ending) shared).ledger = shared.ledger ∧
      (leaving name role handle (.ok ending) shared).client.writes = shared.client.writes := by
  refine ⟨rfl, ?_⟩
  show ((shared.client.closeHandle handle).release handle).writes = shared.client.writes
  obtain ⟨handles, hclosed, -⟩ := (Hub.changesHandle_close shared.client handle).desk
  obtain ⟨handles', hreleased, -⟩ := Hub.desk_release (shared.client.closeHandle handle) handle
  exact (congrArg Hub.Desk.writes hreleased).trans (congrArg Hub.Desk.writes hclosed)

/-- A blocking producer that is alone with an open hub, which throttles every so-manieth write but
not every write, comes to its end.  If it may send each message twice, and the number of the last
write is one that the hub can count to, then it completes its task: each id is written at most
twice, and the refusals, the throttled writes and the repetitions are as many as the multiples of
the pace among the numbers that were used, wherever they began. -/
theorem perseveres (name : String) (options : Producer.Options) (ledger : Ledger) {hub : Hub}
    (isOpen : hub.closed = false) (destined : (hub.groups? options.destination).isSome = true)
    (two : 2 ≤ hub.throttleEvery.toNat) (again : 2 ≤ options.maxAttempts) :
    ∃ (bound : Nat) (life : Lifecycle) (engine : Engine) (after : Shared Hub)
      (counts : Producer.Counts) (written : List UInt64),
      runWorker 0 bound (Crew.start
          ⟨{ ledger, client := hub }, [.hire name (.producer false options)]⟩ 0) =
        ⟨after, [⟨life, engine⟩]⟩ ∧
      (askedBy 0 bound (Crew.start
          ⟨{ ledger, client := hub }, [.hire name (.producer false options)]⟩ 0)).written =
        written ∧
      life.isDone = true ∧ engine.counts = .producer counts ∧
      after.client.writes = UInt64.ofNat (hub.writes.toNat + written.length) ∧
      written.length ≤ options.messages.toNat * max 1 options.maxAttempts.toNat ∧
      (hub.writes.toNat + written.length < 2 ^ 64 →
        life.ending = .completed ∧
        Producer.Persevered options
          (Hub.multiples hub.throttleEvery hub.writes.toNat written.length) ledger.metrics
          after.ledger.metrics written counts) := by
  obtain ⟨hcreated, hopened⟩ := Hub.create_openHandle isOpen destined
  have hclient : (entering name options.role hub.handles.size
      ({ ledger, client := hub } : Shared Hub)).client =
      { hub with handles := hub.handles.push (.publisher options.destination true "") } :=
    congrArg Prod.snd hopened
  obtain ⟨turns, state, shared, ending, attended, finishes, hwritten, hwrites, hsupply, hends⟩ :=
    Producer.Blocking.exists_persevered name options hub.handles.size
      (entering name options.role hub.handles.size { ledger, client := hub })
      (hclient ▸ .of_push isOpen destined) (hclient ▸ two) again
  rw [hclient] at hwrites hends
  have hreaches := Worker.reaches_finished (request_blockingProducer name options)
    (congrArg Except.ok hcreated) (congrArg (fun opened => Except.ok opened.1) hopened)
    (fun _ => rfl) attended finishes
  obtain ⟨bound, hrun, hasked⟩ := exists_askedBy hreaches
  rw [← start_hire] at hrun hasked
  have hrecord : (askedBy 0 bound (Crew.start
      ⟨{ ledger, client := hub }, [.hire name (.producer false options)]⟩ 0)).written =
      (Producer.Blocking.history turns).sent.map Prod.fst := by
    have hfarewell : (Handling.farewell name options.role hub.handles.size
        (.ok ending)).filterMap Exchange.written? = [] := rfl
    have htrail := congrArg (List.filterMap Exchange.written?) hasked
    rw [List.filterMap_append, List.filterMap_append, hfarewell, hwritten, List.append_nil]
      at htrail
    rw [Past.written_eq]
    exact htrail
  obtain ⟨hledger, hleft⟩ := leaving_ok name options.role hub.handles.size ending shared
  refine ⟨bound, _, _, _, state.now.counts, _, hrun, hrecord, rfl, rfl, ?_, ?_, fun few => ?_⟩
  · rw [hleft, hwrites, List.length_map]
  · rw [List.length_map]
    exact hsupply
  · rw [List.length_map] at few ⊢
    obtain ⟨rfl, hpersevered⟩ := hends few
    exact ⟨rfl, hledger ▸ hpersevered⟩

/-- Every other write is throttled, and the next one is the sixth: each of three messages is
throttled once, and then accepted. -/
theorem perseveres_three_times_throttled :
    2 ≤ (2 : UInt32).toNat ∧ (2 : UInt32) ≤ 2 ∧
    ∃ (bound : Nat) (life : Lifecycle) (engine : Engine) (after : Shared Hub)
      (counts : Producer.Counts) (written : List UInt64),
      runWorker 0 bound (Crew.start
          ⟨{ client := { (({ throttleEvery := 2 } : Hub).createDestination { path := "/d" }).2 with
              writes := 5 } },
            [.hire "publisher" (.producer false
              { destination := "/d", messages := 3, maxAttempts := 2 })]⟩ 0) =
        ⟨after, [⟨life, engine⟩]⟩ ∧
      life.isDone = true ∧ engine.counts = .producer counts ∧ life.ending = .completed ∧
      (∀ id, written.count id ≤ 2) ∧ written.length = 6 ∧ after.client.writes = 11 ∧
      counts.completed = 3 ∧ counts.retried = 3 ∧ after.ledger.metrics.sendErrors = 3 ∧
      after.ledger.metrics.throttled = 3 := by
  have hopen : ({ (({ throttleEvery := 2 } : Hub).createDestination { path := "/d" }).2 with
      writes := 5 } : Hub).closed = false := rfl
  obtain ⟨bound, life, engine, after, counts, written, hrun, -, hdone, hcounts, hwrites, hsupply,
    hends⟩ := perseveres "publisher" { destination := "/d", messages := 3, maxAttempts := 2 } {}
      hopen (by decide) (by decide) (by decide)
  have hfew : written.length ≤ 6 := hsupply
  obtain ⟨hcompleted, hpersevered⟩ :=
    hends (Nat.lt_of_le_of_lt (Nat.add_le_add_left hfew 5) (by decide))
  have hnumber : ∀ total ≤ 6, total = 3 + Hub.multiples 2 5 total → total = 6 := by decide
  have hsix := hnumber _ hfew hpersevered.written
  rw [hsix] at hwrites hpersevered
  exact ⟨by decide, by decide, bound, life, engine, after, counts, written, hrun, hdone, hcounts,
    hcompleted, hpersevered.twice, hsix, hwrites, hpersevered.completed, hpersevered.retried,
    hpersevered.sendErrors, hpersevered.throttled⟩

end Crew
end BrokerLoad
