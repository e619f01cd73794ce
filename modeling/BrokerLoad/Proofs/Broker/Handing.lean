import BrokerLoad.Proofs.Broker.Keeping

/-!
# Acting on one queue

There are two ways to act on a queue.  Parked requests are answered, all alike: because a
message came in, because their reader closed or because the queue was shut down
(`Leads.of_resolveAll`).  Or a ticket is given out, for a message that is ready or for a
request that is parked (`Leads.of_awaited_append`), of which a read is the case that none is
given out.  Each operation that acts on one queue is one of these.
-/

namespace BrokerLoad
namespace Hub

/-! ## Giving out tickets -/

theorem arrivedFrom_of_awaited_append {before after : Hub} {extra : List Awaited}
    (hawaited : after.awaited.toList = before.awaited.toList ++ extra) (number : Nat) :
    after.arrivedFrom number =
      before.arrivedFrom number ++ extra.filterMap (Awaited.from? number) := by
  rw [arrivedFrom, hawaited, List.filterMap_append, arrivedFrom]

theorem getElem?_of_awaited_append {before after : Hub} {extra : List Awaited}
    (hawaited : after.awaited.toList = before.awaited.toList ++ extra) {ticket : Ticket}
    (hlt : ticket < before.awaited.size) : after.awaited[ticket]? = before.awaited[ticket]? := by
  rw [← Array.getElem?_toList, hawaited, List.getElem?_append_left (by simpa using hlt),
    Array.getElem?_toList]

/-! ## Answering parked requests -/

section Answering

variable {hub after : Hub} {chronicle : List Entry} {number : Nat} {queue changed : Queue Bytes}
  {answer : Awaited} {tickets : List Ticket} {data : List Bytes}

/-- The journal of a queue in which parked requests were answered, all alike. -/
theorem Agrees.of_resolveAll {journal later : Queue.Journal Bytes}
    (agrees : hub.Agrees chronicle number queue journal)
    (hawaited : after.awaited = (hub.resolveAll answer tickets).awaited)
    (hparked : (queue.parked.map Parked.ticket).Perm
      (tickets ++ changed.parked.map Parked.ticket))
    (hkeeps : changed.Keeps later []) (hput : later.put = journal.put ++ data)
    (hhanded : (later.handed.map (delivery number)).Perm
      (takenFrom number chronicle ++ after.arrivedFrom number))
    (hwaited : later.waited =
      if answer = .broken then journal.waited.filter fun ticket => ticket ∉ tickets
      else journal.waited)
    (hserved : ∀ pair ∈ later.served, pair ∈ journal.served ∨
      (pair.1 ∈ tickets ∧ answer = .arrived (delivery number pair.2))) :
    after.Agrees (chronicle ++ data.map (.put number)) number changed later := by
  have hpending : ∀ ticket ∈ tickets, hub.awaited[ticket]? = some .pending := fun ticket hticket =>
    agrees.pending (hparked.mem_iff.2 (List.mem_append_left _ hticket))
  have hanswered : ∀ ticket ∈ tickets, after.awaited[ticket]? = some answer := by
    intro ticket hticket
    rw [hawaited, getElem?_resolveAll, if_pos]
    exact ⟨hticket, (Array.getElem?_eq_some_iff.1 (hpending ticket hticket)).1⟩
  have hother : ∀ ticket, ticket ∉ tickets → after.awaited[ticket]? = hub.awaited[ticket]? := by
    intro ticket hticket
    rw [hawaited, getElem?_resolveAll, if_neg fun h => hticket h.1]
  refine {
    keeps := hkeeps
    put := by rw [putInto_append, putInto_map_put, hput, agrees.put]
    handed := by rwa [takenFrom_append, takenFrom_map_put, List.append_nil]
    waited := ?_
    served := fun pair hpair => ?_
    parked := fun read hread => ?_ }
  · rw [parkedIn_append, parkedIn_map_put, List.append_nil, hwaited, agrees.waited]
    split
    next hbroken =>
      rw [List.filter_filter]
      refine List.filter_congr fun ticket hticket => ?_
      by_cases hmem : ticket ∈ tickets
      · simp [unbroken, hmem, hanswered ticket hmem, hbroken]
      · simp [unbroken, hmem, hother ticket hmem]
    next hunbroken =>
      refine List.filter_congr fun ticket hticket => ?_
      by_cases hmem : ticket ∈ tickets
      · simp [unbroken, hanswered ticket hmem, hpending ticket hmem, hunbroken]
      · rw [unbroken, unbroken, hother ticket hmem]
  · rcases hserved pair hpair with hold | ⟨hmem, hnew⟩
    · have harrived := agrees.served pair hold
      rw [hother]
      · exact harrived
      · intro hmem
        cases (hpending _ hmem).symm.trans harrived
    · exact hnew ▸ hanswered _ hmem
  · have hmem : read.ticket ∈ changed.parked.map Parked.ticket := List.mem_map_of_mem hread
    rw [hother]
    · exact agrees.pending (hparked.mem_iff.2 (List.mem_append_right _ hmem))
    · have hnodup := hparked.nodup_iff.1 agrees.keeps.nodup_tickets
      exact fun hanswer => (List.nodup_append.1 hnodup).2.2 _ hanswer _ hmem rfl

/-- A hub acts on a queue and answers parked requests in it, all alike. -/
theorem Leads.of_resolveAll (changed : Queue Bytes) (data : List Bytes) (answer : Awaited)
    (tickets : List Ticket) (hfound : hub.queues[number]? = some queue)
    (hqueues : after.queues = hub.queues.setIfInBounds number changed)
    (htopology : after.topology = hub.topology)
    (hawaited : after.awaited = (hub.resolveAll answer tickets).awaited)
    (hclosed : queue.closed = true → changed.closed = true) (hanswer : answer ≠ .pending)
    (hfrom : ∀ other, answer.from? other = none ∨ (other = number ∧ ∃ ticket, tickets = [ticket]))
    (hparked : (queue.parked.map Parked.ticket).Perm
      (tickets ++ changed.parked.map Parked.ticket))
    (hjournal : ∀ journal, queue.Keeps journal [] → ∃ later, changed.Keeps later [] ∧
      later.put = journal.put ++ data ∧
      later.handed.map (delivery number) =
        journal.handed.map (delivery number) ++ (answer.from? number).toList ∧
      (later.waited = if answer = .broken then journal.waited.filter fun ticket => ticket ∉ tickets
        else journal.waited) ∧
      ∀ pair ∈ later.served, pair ∈ journal.served ∨
        (pair.1 ∈ tickets ∧ answer = .arrived (delivery number pair.2))) :
    Leads hub after (data.map (.put number)) := by
  refine ActsOn.leads number fun {chronicle} tells => ⟨queue, changed, ?_⟩
  obtain ⟨journal, hbefore⟩ := tells.queues hfound
  obtain ⟨later, hkeeps, hput, hhanded, hwaited, hserved⟩ := hjournal journal hbefore.keeps
  have hpending : ∀ ticket ∈ tickets, hub.awaited[ticket]? = some .pending := fun ticket hticket =>
    hbefore.pending (hparked.mem_iff.2 (List.mem_append_left _ hticket))
  have harrivals : ∀ other, after.arrivedFrom other =
      (hub.resolveAll answer tickets).arrivedFrom other := by
    intro other
    rw [arrivedFrom, hawaited, arrivedFrom]
  have harrived : ∀ other, (after.arrivedFrom other).Perm
      (hub.arrivedFrom other ++ (answer.from? other).toList) := by
    intro other
    rw [harrivals]
    rcases hfrom other with hnone | ⟨-, ticket, rfl⟩
    · rw [hnone, Option.toList_none, List.append_nil]
      exact perm_arrivedFrom_resolveAll hnone hub fun ticket hticket =>
        ⟨.pending, hpending ticket hticket, rfl⟩
    · exact perm_arrivedFrom_resolve hub answer (hpending ticket (List.mem_singleton_self _)) other
  exact {
    found := hfound
    queues := hqueues
    topology := htopology
    closed := hclosed
    own := fun entry hentry => by
      obtain ⟨_, -, rfl⟩ := List.mem_map.1 hentry
      rfl
    untouched := fun ticket _ hnot => by
      rw [hawaited, getElem?_resolveAll, if_neg]
      exact fun h => hnot (hparked.mem_iff.2 (List.mem_append_left _ h.1))
    size := Nat.le_of_eq (by rw [hawaited, size_resolveAll])
    fresh := fun ticket hticket => by
      rw [parkedIn_map_put] at hticket
      cases hticket
    arrived := fun other hother => by
      have hperm := harrived other
      rcases hfrom other with hnone | ⟨hsame, -⟩
      · rwa [hnone, Option.toList_none, List.append_nil] at hperm
      · exact absurd hsame hother
    pending := fun ticket hticket => by
      rw [hawaited, getElem?_resolveAll] at hticket
      split at hticket
      · exact absurd (Option.some.inj hticket) hanswer
      next hnot =>
        by_cases hmem : ticket ∈ queue.parked.map Parked.ticket
        · rcases List.mem_append.1 (hparked.mem_iff.1 hmem) with hanswered | hstill
          · exact absurd ⟨hanswered, (Array.getElem?_eq_some_iff.1 hticket).1⟩ hnot
          · exact .inl hstill
        · exact .inr ⟨hticket, hmem⟩
    agrees := by
      refine ⟨later, hbefore.of_resolveAll hawaited hparked hkeeps hput ?_ hwaited hserved⟩
      rw [hhanded]
      have hmore := hbefore.handed.append_right (answer.from? number).toList
      rw [List.append_assoc] at hmore
      exact hmore.trans ((harrived number).symm.append_left _) }

end Answering

namespace Leads

variable {hub after : Hub} {number : Nat} {queue changed : Queue Bytes}

/-- Messages are put into a queue, and what the queue serves with it is at its ticket. -/
theorem of_serveParked (changed : Queue Bytes) (data : List Bytes)
    (served : Option (Ticket × Handover Bytes)) (hfound : hub.queues[number]? = some queue)
    (hqueues : after.queues = hub.queues.setIfInBounds number changed)
    (htopology : after.topology = hub.topology)
    (hawaited : after.awaited = (hub.serveParked number served).awaited)
    (hclosed : queue.closed = true → changed.closed = true)
    (hparked : queue.parked.map Parked.ticket =
      (served.map Prod.fst).toList ++ changed.parked.map Parked.ticket)
    (hkeeps : ∀ journal, queue.Keeps journal [] →
      changed.Keeps ((journal.add data).serve served) []) :
    Leads hub after (data.map (.put number)) := by
  cases served with
  | none =>
    refine of_resolveAll changed data .nothing [] hfound hqueues htopology hawaited
      hclosed nofun (fun _ => .inl rfl) (.of_eq hparked) fun journal hjournal => ?_
    refine ⟨_, hkeeps journal hjournal, rfl, ?_, rfl, fun pair hpair => ?_⟩
    · rw [Queue.Journal.serve_none]
      exact (List.append_nil _).symm
    · rw [Queue.Journal.serve_none] at hpair
      exact .inl hpair
  | some pair =>
    obtain ⟨ticket, handover⟩ := pair
    refine of_resolveAll changed data (.arrived (delivery number handover)) [ticket]
      hfound hqueues htopology hawaited hclosed nofun (fun other => ?_) (.of_eq hparked)
      fun journal hjournal => ?_
    · by_cases hother : other = number
      · exact .inr ⟨hother, ticket, rfl⟩
      · exact .inl (if_neg (Ne.symm hother))
    · refine ⟨_, hkeeps journal hjournal, rfl, ?_, rfl, fun pair hpair => ?_⟩
      · rw [Awaited.from?, if_pos (show (delivery number handover).queue = number from rfl)]
        exact List.map_append
      · rcases List.mem_append.1 hpair with hold | hnew
        · exact .inl hold
        · rw [List.mem_singleton.1 hnew]
          exact .inr ⟨List.mem_singleton_self _, rfl⟩

/-- A message is put into a queue. -/
theorem pushTo (hub : Hub) (data : Bytes) (hlt : number < hub.queues.size) :
    Leads hub (hub.pushTo data number) [.put number data] := by
  have hfound : hub.queues[number]? = some hub.queues[number] := Array.getElem?_eq_getElem hlt
  generalize hub.queues[number] = queue at hfound
  have hpushed : hub.pushTo data number = (hub.putQueue number (queue.push { data }).2).serveParked
      number (queue.push { data }).1 := by
    rw [Hub.pushTo, hfound]
  rw [hpushed]
  refine of_serveParked (queue.push { data }).2 [data] (queue.push { data }).1 hfound
    (by rw [queues_serveParked]; rfl) ?_ ?_
    (fun hclosed => (queue.closed_push _).trans hclosed) (queue.parked_push _)
    fun journal hjournal => hjournal.push (Nat.zero_le _)
  · cases (queue.push { data }).1 <;> rfl
  · cases (queue.push { data }).1 <;> rfl

/-- A delivery is settled, and may go round again. -/
theorem settle (hfound : hub.queues[number]? = some queue) {token : UInt64}
    {settlement : Queue.Settlement Bytes} (hsettles : queue.Settles token settlement changed)
    {counts : HubCounts} :
    Leads hub (({ hub with counts := counts }.putQueue number changed).countSettlement number
      settlement) ((queue.again token (some (settlement, changed))).map (.put number)) := by
  refine of_serveParked changed _ settlement.served hfound ?_ ?_ ?_
    (fun hclosed => hsettles.closed.trans hclosed) hsettles.parked
    fun journal hjournal => hjournal.settles hsettles
  · cases settlement with
    | redelivered served => exact queues_serveParked _ _ _
    | done => rfl
    | deadLettered => rfl
  · cases settlement with
    | redelivered served => cases served <;> rfl
    | done => rfl
    | deadLettered => rfl
  · cases settlement with
    | redelivered served => cases served <;> rfl
    | done => rfl
    | deadLettered => rfl

/-- Parked requests are dropped, because their reader closes. -/
theorem dropReads (hub : Hub) (number : Nat) (reader : UInt64) :
    Leads hub (hub.dropReads number reader) [] := by
  rw [Hub.dropReads]
  split
  next => exact .refl hub
  next queue hfound =>
    refine of_resolveAll (queue.drop reader).2 [] .broken (queue.drop reader).1 hfound
      (by rw [queues_resolveAll]; rfl)
      (by rw [topology_resolveAll]; rfl) (by rw [awaited_resolveAll, awaited_resolveAll]; rfl) id
      (by simp) (fun _ => .inl rfl) ?_ fun journal hjournal => ?_
    · have hsplit := List.filter_append_perm (fun read => read.reader = reader) queue.parked
      have htickets := (hsplit.map Parked.ticket).symm
      rw [List.map_append] at htickets
      refine htickets.trans (.of_eq ?_)
      simp only [Queue.drop, ne_eq, decide_not]
    · exact ⟨_, hjournal.drop reader, (List.append_nil _).symm, (List.append_nil _).symm, rfl,
        fun pair hpair => .inl hpair⟩

/-- A queue is shut down. -/
theorem shutQueue (hub : Hub) (number : Nat) : Leads hub (hub.shutQueue number) [] := by
  rw [Hub.shutQueue]
  split
  next => exact .refl hub
  next queue hfound =>
    refine of_resolveAll queue.shutDown.2 [] .nothing queue.shutDown.1 hfound
      (by rw [queues_resolveAll]; rfl)
      (by rw [topology_resolveAll]; rfl) (by rw [awaited_resolveAll, awaited_resolveAll]; rfl)
      (fun _ => rfl) nofun (fun _ => .inl rfl) (.of_eq (List.append_nil _).symm)
      fun journal hjournal => ?_
    exact ⟨_, hjournal.shutDown, (List.append_nil _).symm, (List.append_nil _).symm, rfl,
      fun pair hpair => .inl hpair⟩

theorem shutQueues (hub : Hub) (numbers : List Nat) : Leads hub (hub.shutQueues numbers) [] := by
  induction numbers generalizing hub with
  | nil => exact .refl hub
  | cons number rest ih => exact (shutQueue hub number).trans (ih _)

end Leads

/-! ## Messages that go out -/

section Handing

variable {hub after : Hub} {queue changed : Queue Bytes}

/-- A hub acts on a queue and gives out a ticket, for a message that is ready or for a request
that is parked, or it gives out none. -/
theorem Leads.of_awaited_append (number : Nat) (extra : List Awaited) (new : List Entry)
    (hfound : hub.queues[number]? = some queue)
    (hqueues : after.queues = hub.queues.setIfInBounds number changed)
    (htopology : after.topology = hub.topology)
    (hawaited : after.awaited.toList = hub.awaited.toList ++ extra)
    (hclosed : queue.closed = true → changed.closed = true)
    (hfrom : ∀ other, other ≠ number → extra.filterMap (Awaited.from? other) = [])
    (hown : ∀ entry ∈ new, entry.number = number) (hputs : putInto number new = [])
    (hparked : changed.parked.map Parked.ticket =
      queue.parked.map Parked.ticket ++ parkedIn number new)
    (htickets : (parkedIn number new = [] ∧ .pending ∉ extra) ∨
      (parkedIn number new = [hub.awaited.size] ∧ extra = [.pending]))
    (hjournal : ∀ journal, queue.Keeps journal [] → hub.awaited.size ∉ journal.waited →
      ∃ later, changed.Keeps later [] ∧ later.put = journal.put ∧ later.served = journal.served ∧
        later.handed.map (delivery number) = journal.handed.map (delivery number) ++
          (takenFrom number new ++ extra.filterMap (Awaited.from? number)) ∧
        later.waited = journal.waited ++ parkedIn number new) :
    Leads hub after new := by
  refine ActsOn.leads number fun {chronicle} tells => ⟨queue, changed, ?_⟩
  obtain ⟨journal, hbefore⟩ := tells.queues hfound
  have hunused : hub.awaited.size ∉ journal.waited := by
    rw [hbefore.waited]
    exact fun hmem => Nat.lt_irrefl _ (tells.known (List.mem_of_mem_filter hmem))
  obtain ⟨later, hkeeps, hput, hserved, hhanded, hwaited⟩ :=
    hjournal journal hbefore.keeps hunused
  have hsize : after.awaited.size = hub.awaited.size + extra.length := by
    rw [← Array.length_toList, hawaited, List.length_append, Array.length_toList]
  have hold : ∀ {ticket}, ticket < hub.awaited.size →
      after.awaited[ticket]? = hub.awaited[ticket]? := getElem?_of_awaited_append hawaited
  have hsame : ∀ {ticket answer}, hub.awaited[ticket]? = some answer →
      after.awaited[ticket]? = some answer := fun hanswer =>
    (hold (Array.getElem?_eq_some_iff.1 hanswer).1).trans hanswer
  have hnew : ∀ ticket ∈ parkedIn number new, ticket = hub.awaited.size ∧
      after.awaited[ticket]? = some .pending := by
    intro ticket hticket
    rcases htickets with ⟨hnone, -⟩ | ⟨hone, hextra⟩
    · rw [hnone] at hticket
      cases hticket
    · rw [hone, List.mem_singleton] at hticket
      subst hticket
      rw [← Array.getElem?_toList, hawaited, hextra]
      simp
  exact {
    found := hfound
    queues := hqueues
    topology := htopology
    closed := hclosed
    own := hown
    untouched := fun ticket hlt _ => hold hlt
    size := hsize ▸ Nat.le_add_right _ _
    fresh := fun ticket hticket => by
      obtain ⟨heq, hpending⟩ := hnew ticket hticket
      exact ⟨Nat.le_of_eq heq.symm, (Array.getElem?_eq_some_iff.1 hpending).1⟩
    arrived := fun other hother => by
      rw [arrivedFrom_of_awaited_append hawaited, hfrom other hother, List.append_nil]
    pending := fun ticket hticket => by
      rw [hparked]
      by_cases hlt : ticket < hub.awaited.size
      · rw [hold hlt] at hticket
        by_cases hmem : ticket ∈ queue.parked.map Parked.ticket
        · exact .inl (List.mem_append_left _ hmem)
        · exact .inr ⟨hticket, hmem⟩
      · have hle := Nat.le_of_not_lt hlt
        rw [← Array.getElem?_toList, hawaited, List.getElem?_append_right (by simpa using hle),
          Array.length_toList] at hticket
        rcases htickets with ⟨-, hnone⟩ | ⟨hone, hextra⟩
        · exact absurd (List.mem_of_getElem? hticket) hnone
        · rw [hextra, List.getElem?_singleton] at hticket
          have hzero : ticket - hub.awaited.size = 0 := by
            by_contra hne
            rw [if_neg hne] at hticket
            cases hticket
          have heq : ticket = hub.awaited.size :=
            Nat.le_antisymm (Nat.sub_eq_zero_iff_le.1 hzero) hle
          exact .inl (List.mem_append_right _ (by rw [hone, heq]; exact List.mem_singleton_self _))
    agrees := ⟨later, {
      keeps := hkeeps
      put := by rw [putInto_append, hputs, List.append_nil, hput, hbefore.put]
      handed := by
        rw [hhanded, takenFrom_append, arrivedFrom_of_awaited_append hawaited]
        refine (hbefore.handed.append_right _).trans ?_
        rw [List.append_assoc, List.append_assoc]
        refine List.Perm.append_left _ ?_
        rw [← List.append_assoc, ← List.append_assoc]
        exact List.perm_append_comm.append_right _
      waited := by
        rw [hwaited, hbefore.waited, parkedIn_append, List.filter_append]
        congr 1
        · refine List.filter_congr fun ticket hticket => ?_
          rw [unbroken, unbroken, hold (tells.known hticket)]
        · refine (List.filter_eq_self.2 fun ticket hticket => ?_).symm
          rw [unbroken, (hnew ticket hticket).2]
          rfl
      served := fun pair hpair => hsame (hbefore.served pair (hserved ▸ hpair))
      parked := fun read hread => by
        have hmem : read.ticket ∈ changed.parked.map Parked.ticket := List.mem_map_of_mem hread
        rw [hparked, List.mem_append] at hmem
        rcases hmem with hmem | hmem
        · exact hsame (hbefore.pending hmem)
        · exact (hnew _ hmem).2 }⟩ }

end Handing

/-- The queue that a consumer holds is there. -/
theorem found_of_heldQueue? {hub : Hub} {handle : Handle} {number : Nat} {queue : Queue Bytes}
    {reader : UInt64} (hheld : hub.heldQueue? handle = some (number, queue, reader)) :
    hub.queues[number]? = some queue := by
  rw [heldQueue?] at hheld
  split at hheld
  · obtain ⟨found, hfound, heq⟩ := Option.map_eq_some_iff.1 hheld
    cases heq
    exact hfound
  · cases hheld

/-- The queue of a delivery is there. -/
theorem found_of_queueOf? {hub : Hub} {delivery : Delivery} {queue : Queue Bytes}
    (hqueue : hub.queueOf? delivery = some queue) :
    hub.queues[delivery.queue]? = some queue := by
  rw [queueOf?] at hqueue
  split at hqueue
  · exact hqueue
  · cases hqueue

namespace Leads

/-- A ready message goes to a reader at once. -/
theorem read (hub : Hub) (handle : Handle) :
    Leads hub (hub.read handle).2 ((hub.read handle).1.toList.map .taken) := by
  rw [Hub.read]
  split
  next => exact .refl hub
  next number queue reader hheld =>
    have hfound := found_of_heldQueue? hheld
    split
    next => exact .refl hub
    next handover changed hread =>
      have hclosed := queue.closed_read
      have hparked := queue.parked_read
      rw [hread] at hclosed hparked
      refine of_awaited_append number [] _ hfound rfl rfl
        (List.append_nil _).symm (fun hshut => hclosed.trans hshut) (fun _ _ => rfl)
        (fun entry hentry => List.mem_singleton.1 hentry ▸ rfl) rfl ?_ (.inl ⟨rfl, nofun⟩)
        fun journal hjournal _ => ?_
      · exact (congrArg (List.map Parked.ticket) hparked).trans (List.append_nil _).symm
      · have hkeeps := hjournal.read
        rw [hread] at hkeeps
        have htaken : takenFrom number [.taken (delivery number handover)] =
            [delivery number handover] :=
          List.filterMap_cons_some (if_pos rfl)
        refine ⟨_, hkeeps, rfl, rfl, ?_, (List.append_nil _).symm⟩
        show (journal.handed ++ [handover]).map _ =
          _ ++ (takenFrom number [.taken (delivery number handover)] ++ [])
        rw [htaken, List.map_append]
        rfl

/-- A ticket is given out that nothing will ever be at. -/
theorem ticketFor_nothing (hub : Hub) : Leads hub (hub.ticketFor .nothing).2 [] := by
  have hawaited : (hub.ticketFor .nothing).2.awaited.toList =
      hub.awaited.toList ++ [.nothing] := Array.toList_push
  have hsize : (hub.ticketFor .nothing).2.awaited.size = hub.awaited.size + 1 := Array.size_push _
  refine of_queues_eq rfl (fun hanswer => ?_) (fun {ticket} hticket => ?_) (fun number => ?_)
    (hsize ▸ Nat.le_succ _) fun _ => id
  · exact (getElem?_of_awaited_append hawaited (Array.getElem?_eq_some_iff.1 hanswer).1).trans
      hanswer
  · have hlt : ticket < hub.awaited.size := by
      by_contra hle
      have hlast : ticket = hub.awaited.size := by
        have hless := (Array.getElem?_eq_some_iff.1 hticket).1
        rw [hsize] at hless
        exact Nat.le_antisymm (Nat.le_of_lt_succ hless) (Nat.le_of_not_lt hle)
      subst hlast
      rw [ticketFor, Array.getElem?_push_size] at hticket
      cases hticket
    rwa [getElem?_of_awaited_append hawaited hlt] at hticket
  · rw [arrivedFrom_of_awaited_append hawaited]
    exact List.append_nil _

/-- A ready message goes to a ticket, or the request is parked. -/
theorem request (hub : Hub) (handle : Handle) :
    Leads hub (hub.request handle).2 (hub.entries (.request handle)) := by
  cases hheld : hub.heldQueue? handle with
  | none =>
    rw [entries, hheld, Hub.request, hheld]
    exact ticketFor_nothing hub
  | some held =>
    obtain ⟨number, queue, reader⟩ := held
    have hfound := found_of_heldQueue? hheld
    rcases Queue.Keeps.request queue reader hub.awaited.size with
      hnone | ⟨handover, changed, hsome, hparked, hclosed, hkeeps⟩ |
        ⟨changed, hwaits, hparked, hclosed, hkeeps⟩
    · have hrequest : hub.request handle = hub.ticketFor .nothing := by
        rw [Hub.request, hheld]
        dsimp only
        rw [hnone]
      rw [entries, hheld, hrequest]
      dsimp only
      rw [if_neg (by simp [ticketFor])]
      exact ticketFor_nothing hub
    · have hrequest : hub.request handle = (hub.putQueue number changed).countDelivery.ticketFor
          (.arrived (delivery number handover)) := by
        rw [Hub.request, hheld]
        dsimp only
        rw [hsome]
      rw [entries, hheld, hrequest]
      dsimp only
      rw [if_neg (by simp [ticketFor])]
      refine of_awaited_append number [.arrived (delivery number handover)] [] hfound
        rfl rfl Array.toList_push (fun hshut => hclosed.trans hshut)
        (fun other hother => List.filterMap_cons_none (if_neg (Ne.symm hother))) nofun rfl ?_
        (.inl ⟨rfl, by simp⟩) fun journal hjournal _ => ?_
      · rw [hparked]
        exact (List.append_nil _).symm
      · refine ⟨_, hkeeps hjournal, rfl, rfl, ?_, (List.append_nil _).symm⟩
        have harrived : [Awaited.arrived (delivery number handover)].filterMap
            (Awaited.from? number) = [delivery number handover] :=
          List.filterMap_cons_some (if_pos rfl)
        rw [harrived]
        exact List.map_append
    · have hrequest : hub.request handle =
          (hub.putQueue number changed).ticketFor .pending := by
        rw [Hub.request, hheld]
        dsimp only
        rw [hwaits]
      rw [entries, hheld, hrequest]
      dsimp only
      rw [if_pos (by simp [ticketFor])]
      have hone : parkedIn number [.parked number hub.awaited.size] = [hub.awaited.size] :=
        List.filterMap_cons_some (if_pos rfl)
      refine of_awaited_append number [.pending] _ hfound rfl rfl Array.toList_push
        (fun hshut => hclosed.trans hshut) (fun _ _ => rfl)
        (fun entry hentry => List.mem_singleton.1 hentry ▸ rfl) rfl ?_ (.inr ⟨hone, rfl⟩)
        fun journal hjournal hnew => ?_
      · rw [hparked, List.map_append]
        exact congrArg _ hone.symm
      · exact ⟨_, hkeeps hjournal hnew, rfl, rfl, (List.append_nil _).symm,
          congrArg _ hone.symm⟩

/-! ### Settling -/

/-- A delivery is acknowledged. -/
theorem ack (hub : Hub) (delivery : Delivery) :
    Leads hub (hub.ack delivery).2 (hub.entries (.ack delivery)) := by
  rw [entries, Hub.again, Hub.ack]
  cases hqueue : hub.queueOf? delivery with
  | none => exact .refl hub
  | some queue =>
    dsimp only [Option.bind_some]
    cases hack : queue.ack delivery.token with
    | none => exact .refl hub
    | some pair => exact settle (found_of_queueOf? hqueue) (Queue.settles_of_ack hack)

/-- A delivery is refused. -/
theorem nack (hub : Hub) (delivery : Delivery) :
    Leads hub (hub.nack delivery).2 (hub.entries (.nack delivery)) := by
  rw [entries, Hub.again, Hub.nack]
  cases hqueue : hub.queueOf? delivery with
  | none => exact .refl hub
  | some queue =>
    dsimp only [Option.bind_some]
    cases hnack : queue.nack delivery.token with
    | none => exact .refl hub
    | some pair => exact settle (found_of_queueOf? hqueue) (Queue.settles_of_nack hnack)

end Leads
end Hub
end BrokerLoad
