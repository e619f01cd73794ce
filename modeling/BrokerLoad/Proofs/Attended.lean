import BrokerLoad.Proofs.Ledger.Service

/-!
# Runs with nobody else there

`Attended` are the runs of a machine that is served by what a crew shares, with nobody else
there.  They are runs, and the ledger serves them (`Attended.run`, `Attended.serves`), so that
all is true of them that is true of any run.  A machine that comes nearer to its end with
every step comes to its end (`Attended.exists_finish`).
-/

namespace BrokerLoad

/-! ## Answers to one machine -/

/-- A client that asks nobody to stop. -/
class QuietClient (β : Type) [Client β] : Prop where
  stops_serve : ∀ (call : Call) (client : β), (Client.serve call client).stops = []

namespace Shared

variable {β : Type} [Client β]

/-- An exchange with what a crew shares, for a worker that was not asked to stop. -/
structure Answers (shared : Shared β) (exchange : Exchange) (after : Shared β) : Prop where
  reply : exchange.2 = (shared.answer false exchange.1).reply
  after : after = (shared.answer false exchange.1).client

/-- What is no call to the client leaves the client alone. -/
theorem Answers.client_eq {shared after : Shared β} {exchange : Exchange}
    (answers : shared.Answers exchange after) (own : ∀ call, exchange.1 ≠ .broker call) :
    after.client = shared.client := by
  obtain ⟨query, reply⟩ := exchange
  rw [answers.after]
  cases query with
  | emit emission => cases emission <;> rfl
  | broker call => exact absurd rfl (own call)
  | _ => rfl

/-- What is shared after a call was served. -/
def serving (shared : Shared β) (call : Call) : Shared β :=
  { shared with client := (Client.serve call shared.client).client }

/-- What is shared after some emissions. -/
def absorbAll (shared : Shared β) (emissions : List Emission) : Shared β :=
  emissions.foldl absorb shared

/-- There is no stop request. -/
theorem Answers.stop_eq {shared after : Shared β} {stop : Bool}
    (answers : shared.Answers ⟨.stopRequested, stop⟩ after) : stop = false :=
  answers.reply

end Shared

/-! ## Coming nearer to an end -/

section Nearer

variable {first second third first' second' third' : Nat}

/-- Less is left of what comes first. -/
theorem nearer_first (less : first' < first) :
    WellFoundedRelation.rel (first', second', third') (first, second, third) :=
  Prod.Lex.left _ _ less

theorem nearer_second (less : second' < second) :
    WellFoundedRelation.rel (first, second', third') (first, second, third) :=
  Prod.Lex.right _ (Prod.Lex.left _ _ less)

theorem nearer_third (less : third' < third) :
    WellFoundedRelation.rel (first, second, third') (first, second, third) :=
  Prod.Lex.right _ (Prod.Lex.right _ less)

end Nearer

/-- The runs of a machine with nobody else there, served by what a crew shares: the turns taken
since the start, the state reached, and what is shared then. -/
inductive Attended {α σ β : Type} [Client β] (body : σ → Request α (Paced σ)) (start : Paced σ)
    (before : Shared β) : List (Turn σ) → Paced σ → Shared β → Prop where
  /-- No turn has been taken. -/
  | start : Attended body start before [] start before
  /-- One more turn. -/
  | ask {turns : List (Turn σ)} {state : Paced σ} {shared after : Shared β} {query : Query}
      {next : query.Reply → Paced σ} {reply : query.Reply}
      (earlier : Attended body start before turns state shared)
      (asks : state.request body = .ask query next)
      (answers : shared.Answers ⟨query, reply⟩ after) :
      Attended body start before (turns ++ [⟨state, ⟨query, reply⟩⟩]) (next reply) after

namespace Attended

variable {α σ β : Type} [Client β] {body : σ → Request α (Paced σ)} {start state : Paced σ}
  {before shared : Shared β} {turns : List (Turn σ)}

theorem run (attended : Attended body start before turns state shared) :
    Run body start turns state := by
  induction attended with
  | start => exact .start
  | ask earlier asks answers ih => exact ih.ask asks _

/-- The ledger serves the machine and nobody else. -/
theorem serves (attended : Attended body start before turns state shared) :
    before.ledger.Serves turns [] shared.ledger := by
  induction attended with
  | start => exact .start
  | @ask turns state shared after query next reply earlier asks answers ih =>
    have hreply : reply = (shared.answer false query).reply := answers.reply
    obtain ⟨hallowed, hledger⟩ := Ledger.shared_answer shared false query
    rw [answers.after, hledger, hreply]
    exact ih.turn hallowed

/-- The ids taken follow the one that was the latest before. -/
theorem mintedIds_eq (attended : Attended body start before turns state shared) :
    mintedIds turns = wordsAfter before.ledger.ids.latest (mintedIds turns).length :=
  attended.serves.mintedIds_sublist.eq_of_length (by simp [wordsAfter, Ledger.idsOf])

/-- A machine that comes nearer to its end with every step comes to its end. -/
theorem exists_finish {μ : Type} [WellFoundedRelation μ] (left : Paced σ → Shared β → μ)
    (nearer : ∀ {turns : List (Turn σ)} {state : Paced σ} {shared after : Shared β} {query : Query}
      {next : query.Reply → Paced σ} {reply : query.Reply},
      Attended body start before turns state shared → state.request body = .ask query next →
      shared.Answers ⟨query, reply⟩ after →
        WellFoundedRelation.rel (left (next reply) after) (left state shared)) :
    ∃ turns state shared result,
      Attended body start before turns state shared ∧ state.request body = .finish result := by
  suffices hends : ∀ (bound : μ) turns state shared, left state shared = bound →
      Attended body start before turns state shared → ∃ turns state shared result,
        Attended body start before turns state shared ∧ state.request body = .finish result from
    hends _ [] start before rfl .start
  intro bound
  induction bound using (WellFoundedRelation.wf (α := μ)).induction with
  | h bound ih =>
    rintro turns state shared rfl attended
    cases hrequest : state.request body with
    | finish result => exact ⟨turns, state, shared, result, attended, hrequest⟩
    | ask query next =>
      have answers : shared.Answers ⟨query, (shared.answer false query).reply⟩
          (shared.answer false query).client := ⟨rfl, rfl⟩
      exact ih _ (nearer attended hrequest answers) _ _ _ rfl (attended.ask hrequest answers)

/-- An attended run can be continued by one from where it has led to. -/
theorem append {between : Paced σ} {meanwhile : Shared β} {more : List (Turn σ)}
    (attended : Attended body start before turns between meanwhile)
    (rest : Attended body between meanwhile more state shared) :
    Attended body start before (turns ++ more) state shared := by
  induction rest with
  | start => rwa [List.append_nil]
  | ask earlier asks answers ih =>
    rw [← List.append_assoc]
    exact ih.ask asks answers

end Attended

/-- Where a machine gets to with nobody else there, and what is shared then. -/
def Gets {α σ β : Type} [Client β] (body : σ → Request α (Paced σ)) (state : Paced σ)
    (shared : Shared β) (after : Paced σ) (sharing : Shared β) : Prop :=
  ∃ turns, Attended body state shared turns after sharing

namespace Gets

variable {α σ β : Type} [Client β] {body : σ → Request α (Paced σ)} {state next after : Paced σ}
  {shared meanwhile sharing : Shared β}

theorem refl (state : Paced σ) (shared : Shared β) : Gets body state shared state shared :=
  ⟨[], .start⟩

theorem trans (first : Gets body state shared next meanwhile)
    (rest : Gets body next meanwhile after sharing) : Gets body state shared after sharing := by
  obtain ⟨turns, hfirst⟩ := first
  obtain ⟨more, hrest⟩ := rest
  exact ⟨turns ++ more, hfirst.append hrest⟩

/-- A machine that asks gets its answer. -/
theorem ask (state : Paced σ) (shared : Shared β) {query : Query} {next : query.Reply → Paced σ}
    (asks : state.request body = .ask query next) (reply : query.Reply)
    (replies : reply = (shared.answer false query).reply) :
    Gets body state shared (next reply) (shared.answer false query).client :=
  ⟨_, .ask .start asks ⟨replies, rfl⟩⟩

/-- A machine makes its emissions. -/
theorem emits (emissions : List Emission) (now : σ) (shared : Shared β) :
    Gets body ⟨emissions, now⟩ shared ⟨[], now⟩ (shared.absorbAll emissions) := by
  induction emissions generalizing shared with
  | nil => exact .refl _ _
  | cons emission rest ih =>
    have hasks : (⟨emission :: rest, now⟩ : Paced σ).request body =
        .ask (.emit emission) fun _ => ⟨rest, now⟩ := rfl
    exact (ask _ shared hasks () rfl).trans (ih _)

end Gets
end BrokerLoad
