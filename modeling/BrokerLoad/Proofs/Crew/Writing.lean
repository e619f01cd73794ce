import BrokerLoad.Proofs.Crew.Reach

/-!
# No message is accepted twice

A message rests with one producer, or is aloft with one: its id is an item of one worker
only, since ids are given out once.  `Writing` says so, and that what rests was not accepted
so far.  A submission that was accepted is aloft until its receipt is seen, and the receipt
is the one behind its ticket; so a refusal seen means that the message was not accepted, and
it may be written again (`Writing.of_trade`).

Nothing is asked of the hub but that a receipt stays what it is.
-/

namespace BrokerLoad

/-- The message that an item is, if it is one. -/
def Item.message? : Item → Option UInt64
  | .resting id => some id
  | .aloft id _ => some id
  | _ => none

/-- Part of a bag in part of another one. -/
theorem subperm_filterMap {α β : Type} {l l' : List α} (f : α → Option β) (h : l.Subperm l') :
    (l.filterMap f).Subperm (l'.filterMap f) := by
  obtain ⟨part, hperm, hsub⟩ := h
  exact ⟨part.filterMap f, hperm.filterMap f, hsub.filterMap f⟩

/-- Nothing is in a part of a bag twice that is not in the bag twice. -/
theorem nodup_of_subperm {α : Type} {l l' : List α} (h : l.Subperm l') (hnodup : l'.Nodup) :
    l.Nodup := by
  obtain ⟨part, hperm, hsub⟩ := h
  exact hperm.nodup_iff.1 (hsub.nodup hnodup)

/-- The messages that workers may write, and those whose receipts they have not seen, against the
ids given out and the ids accepted. -/
structure Writing (minted accepted : List UInt64) (hub : Hub) (items : List Item) : Prop where
  /-- A message is in one place. -/
  single : (items.filterMap Item.message?).Nodup
  /-- It has an id that was given out. -/
  given : ∀ id ∈ items.filterMap Item.message?, id ∈ minted
  /-- It was not accepted if it rests. -/
  resting : ∀ id, .resting id ∈ items → id ∉ accepted
  /-- Its receipt says so if it was accepted. -/
  aloft : ∀ id ticket, .aloft id ticket ∈ items → id ∈ accepted → hub.accepts ticket = true
  /-- No message is accepted twice. -/
  once : accepted.Nodup
  /-- Every message accepted has an id that was given out. -/
  known : ∀ id ∈ accepted, id ∈ minted

namespace Writing

variable {minted accepted : List UInt64} {hub after : Hub} {items items' kept : List Item}
  {id : UInt64}

theorem nil (hub : Hub) : Writing [] [] hub [] := by
  constructor <;> simp

theorem anti (writing : Writing minted accepted hub items) (hkept : items'.Subperm items) :
    Writing minted accepted hub items' where
  single := nodup_of_subperm (subperm_filterMap _ hkept) writing.single
  given id hid := writing.given id ((subperm_filterMap _ hkept).subset hid)
  resting id hid := writing.resting id (hkept.subset hid)
  aloft id ticket hid := writing.aloft id ticket (hkept.subset hid)
  once := writing.once
  known := writing.known

theorem onward (writing : Writing minted accepted hub items)
    (haccepts : ∀ ticket, hub.accepts ticket = true → after.accepts ticket = true) :
    Writing minted accepted after items :=
  { writing with
    aloft := fun id ticket hid hmem => haccepts ticket (writing.aloft id ticket hid hmem) }

/-- Items that are no messages make no difference. -/
theorem append {made : List Item} (writing : Writing minted accepted hub kept)
    (hmade : ∀ item ∈ made, item.message? = none) : Writing minted accepted hub (made ++ kept) := by
  have hmessages : (made ++ kept).filterMap Item.message? = kept.filterMap Item.message? := by
    rw [List.filterMap_append, List.filterMap_eq_nil_iff.2 hmade, List.nil_append]
  refine ⟨?_, ?_, ?_, ?_, writing.once, writing.known⟩
  · rw [hmessages]
    exact writing.single
  · rw [hmessages]
    exact writing.given
  · intro id hid
    rcases List.mem_append.1 hid with hnew | hold
    · cases hmade _ hnew
    · exact writing.resting id hold
  · intro id ticket hid
    rcases List.mem_append.1 hid with hnew | hold
    · cases hmade _ hnew
    · exact writing.aloft id ticket hold

/-- One more message is held. -/
theorem cons {item : Item} (writing : Writing minted accepted hub kept)
    (hmessage : item.message? = some id) (hplace : id ∉ kept.filterMap Item.message?)
    (hgiven : id ∈ minted) (hresting : item = .resting id → id ∉ accepted)
    (haloft : ∀ ticket, item = .aloft id ticket → id ∈ accepted → hub.accepts ticket = true) :
    Writing minted accepted hub (item :: kept) where
  single := by
    rw [List.filterMap_cons_some hmessage]
    exact List.nodup_cons.2 ⟨hplace, writing.single⟩
  given other hother := by
    rw [List.filterMap_cons_some hmessage] at hother
    rcases List.mem_cons.1 hother with rfl | hold
    · exact hgiven
    · exact writing.given other hold
  resting other hother := by
    rcases List.mem_cons.1 hother with rfl | hold
    · cases hmessage
      exact hresting rfl
    · exact writing.resting other hold
  aloft other ticket hother := by
    rcases List.mem_cons.1 hother with rfl | hold
    · cases hmessage
      exact haloft ticket rfl
    · exact writing.aloft other ticket hold
  once := writing.once
  known := writing.known

theorem more (writing : Writing minted accepted hub kept) (ids : List UInt64) :
    Writing (minted ++ ids) accepted hub kept :=
  { writing with
    given := fun id hid => List.mem_append_left ids (writing.given id hid)
    known := fun id hid => List.mem_append_left ids (writing.known id hid) }

/-- A message that rests is accepted, and does not rest any more. -/
theorem accept (writing : Writing minted accepted hub (.resting id :: kept)) :
    Writing minted (accepted ++ [id]) hub kept := by
  have hkept := writing.anti (List.sublist_cons_self _ kept).subperm
  have hnew : id ∉ accepted := writing.resting id List.mem_cons_self
  have hother : id ∉ kept.filterMap Item.message? := (List.nodup_cons.1 writing.single).1
  have hold : ∀ other ∈ kept.filterMap Item.message?, other ∈ accepted ++ [id] →
      other ∈ accepted := by
    intro other hmessage hmem
    rcases List.mem_append.1 hmem with hmem | hlast
    · exact hmem
    · rw [List.mem_singleton.1 hlast] at hmessage
      exact absurd hmessage hother
  refine ⟨hkept.single, hkept.given, ?_, ?_, ?_, ?_⟩
  · intro other hrests hmem
    exact hkept.resting other hrests
      (hold other (List.mem_filterMap.2 ⟨_, hrests, rfl⟩) hmem)
  · intro other ticket haloft hmem
    exact hkept.aloft other ticket haloft
      (hold other (List.mem_filterMap.2 ⟨_, haloft, rfl⟩) hmem)
  · exact writing.once.append (List.nodup_singleton id) (List.disjoint_singleton.2 hnew)
  · intro other hmem
    rcases List.mem_append.1 hmem with hmem | hlast
    · exact writing.known other hmem
    · rw [List.mem_singleton.1 hlast]
      exact writing.given id List.mem_cons_self

/-- An id that is given out is that of a message that rests. -/
theorem mint (writing : Writing minted accepted hub kept) (hnew : id ∉ minted) :
    Writing (minted ++ [id]) accepted hub (.resting id :: kept) :=
  (writing.more [id]).cons rfl (fun hid => hnew (writing.given id hid))
    (List.mem_append_right _ (List.mem_singleton_self _)) (fun _ hid => hnew (writing.known id hid))
    (fun _ heq => by cases heq)

/-- A message that rests is submitted, and is accepted if its receipt says so. -/
theorem submit {ticket : Ticket} (writing : Writing minted accepted hub (.resting id :: kept)) :
    Writing minted (accepted ++ if hub.accepts ticket then [id] else []) hub
      (.aloft id ticket :: kept) := by
  have hplace : id ∉ kept.filterMap Item.message? := (List.nodup_cons.1 writing.single).1
  have hknown : id ∈ minted := writing.given id List.mem_cons_self
  by_cases hok : hub.accepts ticket = true
  · rw [if_pos hok]
    refine writing.accept.cons rfl hplace hknown (fun heq => by cases heq) fun other heq _ => ?_
    cases heq
    exact hok
  · rw [if_neg hok, List.append_nil]
    exact (writing.anti (List.sublist_cons_self _ kept).subperm).cons rfl hplace hknown
      (fun heq => by cases heq) fun _ _ hid =>
        absurd hid (writing.resting id List.mem_cons_self)

/-- A message whose receipt refuses it rests again. -/
theorem refuse {ticket : Ticket} (writing : Writing minted accepted hub (.aloft id ticket :: kept))
    (hrefuses : ¬ hub.accepts ticket = true) :
    Writing minted accepted hub (.resting id :: kept) :=
  (writing.anti (List.sublist_cons_self _ kept).subperm).cons rfl
    (List.nodup_cons.1 writing.single).1 (writing.given id List.mem_cons_self)
    (fun _ hid => hrefuses (writing.aloft id ticket List.mem_cons_self hid))
    (fun _ heq => by cases heq)

variable {used made : List Item}

/-- A trade keeps what is said of messages, if the hub answers as it does and ids are new. -/
theorem of_trade {occasion : Occasion}
    (writing : Writing minted accepted occasion.before (used ++ kept))
    (trade : Trade occasion.exchange used made) (served : occasion.IsServed)
    (haccepts : ∀ ticket, occasion.before.accepts ticket = true →
      occasion.after.accepts ticket = true)
    (new : (minted ++ occasion.exchange.minted?.toList).Nodup) :
    Writing (minted ++ occasion.exchange.minted?.toList) (accepted ++ occasion.accepted)
      occasion.after (made ++ kept) := by
  have hkept : Writing minted accepted occasion.after kept :=
    (writing.anti (List.sublist_append_right used kept).subperm).onward haccepts
  -- nothing is minted and nothing accepted, and what is made is no message
  have hsilent : occasion.exchange.minted? = none → occasion.accepted = [] →
      (∀ item ∈ made, item.message? = none) →
      Writing (minted ++ occasion.exchange.minted?.toList) (accepted ++ occasion.accepted)
        occasion.after (made ++ kept) := by
    intro hminted haccepted hmade
    rw [hminted, haccepted, Option.toList_none, List.append_nil, List.append_nil]
    exact hkept.append hmade
  have hgiven : minted ++ Option.toList none = minted := List.append_nil _
  obtain ⟨before, exchange, after⟩ := occasion
  cases trade with
  | idle exchange idle =>
    have hquiet := Exchange.isQuiet_of_isIdle idle
    exact hsilent hquiet.minted (by rw [Occasion.accepted, hquiet.accepted]; rfl) (by simp)
  | mint id =>
    have hnew : id ∉ minted := by
      intro hmem
      exact (List.nodup_append.1 new).2.2 id hmem id (List.mem_singleton_self _) rfl
    have hnone : accepted ++ Occasion.accepted ⟨before, ⟨.mint, id⟩, after⟩ = accepted :=
      List.append_nil _
    rw [hnone]
    exact hkept.mint hnew
  | submit handle data id ticket carries =>
    have hids : Occasion.accepted ⟨before, ⟨.broker (.submit handle data), .ok (some ticket)⟩,
        after⟩ = if after.accepts ticket then [id] else [] := by
      rw [Occasion.accepted, Hub.accepted]
      split
      · rw [List.filterMap_cons, carries, List.filterMap_nil]
      · rfl
    rw [hids]
    exact hgiven.symm ▸ (writing.onward haccepts).submit
  | accept handle data id receipt carries ok =>
    have hids : Occasion.accepted ⟨before, ⟨.broker (.write handle data), .ok receipt⟩, after⟩ =
        [id] := by
      rw [Occasion.accepted, Hub.accepted, if_pos ok, List.filterMap_cons, carries,
        List.filterMap_nil]
    rw [hids]
    exact hgiven.symm ▸ writing.accept.onward haccepts
  | refuse id ticket receipt refused =>
    have hnone : accepted ++ Occasion.accepted
        ⟨before, ⟨.broker (.takeReceipt ticket), .ok receipt⟩, after⟩ = accepted :=
      List.append_nil _
    have hrefuses : ¬ before.accepts ticket = true := by
      have hreceipt : Except.ok receipt = before.receipt ticket := served.1
      rw [Hub.receipt] at hreceipt
      split at hreceipt
      next found hfound =>
        cases hreceipt
        rw [Hub.accepts, hfound]
        simpa using refused
      next => cases hreceipt
    rw [hnone]
    exact hgiven.symm ▸ (writing.refuse hrefuses).onward haccepts
  | request handle ticket => exact hsilent rfl rfl (by simp [Item.message?])
  | take ticket delivery => exact hsilent rfl rfl (by simp [Item.message?])
  | read handle delivery => exact hsilent rfl rfl (by simp [Item.message?])
  | decode id delivery carries => exact hsilent rfl rfl (by simp [Item.message?])
  | first id delivery => exact hsilent rfl rfl (by simp [Item.message?])
  | again id delivery => exact hsilent rfl rfl (by simp [Item.message?])
  | settle id delivery => exact hsilent rfl rfl (by simp)
  | bump amount => exact hsilent rfl rfl (by simp)

end Writing
end BrokerLoad
