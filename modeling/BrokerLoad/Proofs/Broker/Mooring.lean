import BrokerLoad.Proofs.Broker.Publishing

/-!
# Open queues can be reached

A queue that can be reached by a name in an open hub is open (`Hub.IsNamed`).  The other way
round, a queue that is open can be reached, and its hub is open: a group is taken out of the
topology together with the destination or by itself, and either way its queue is shut down.  For
this a name must not stand for two queues, so a *site*, the path of a destination with the name of
a group, is not repeated.

So nothing is left open in a hub that is closed.  And a name that stands for no queue goes on to
stand for none until a group of that name is created.
-/

namespace BrokerLoad

/-- Whether a call is about destinations and groups, or closes the hub. -/
def Call.isAdministrative : Call → Bool
  | .createDestination _ => true
  | .createGroup _ => true
  | .deleteGroup _ _ => true
  | .deleteDestination _ => true
  | .shutDown => true
  | _ => false

namespace Hub

/-! ## Sites -/

/-- The groups of a hub by their names: the path of each, and its name. -/
def sites (hub : Hub) : List (String × String) :=
  hub.places.map fun place => (place.1, place.2.1)

theorem places_shutQueues (hub : Hub) (numbers : List Nat) :
    (hub.shutQueues numbers).places = hub.places := by
  rw [places, topology_shutQueues, places]

/-- The groups of a destination are those of its path. -/
theorem groups?_of_mem_topology {hub : Hub} (paths : (hub.topology.map Prod.fst).Nodup)
    {path : String} {groups : List (String × Nat)} (hentry : (path, groups) ∈ hub.topology) :
    hub.groups? path = some groups := by
  obtain ⟨before, behind, hsplit⟩ := List.append_of_mem hentry
  refine List.lookup_eq_some_iff.2 ⟨before, behind, hsplit, fun entry hmem => ?_⟩
  rw [hsplit, List.map_append, List.nodup_append] at paths
  refine bne_iff_ne.2 fun hsame => paths.2.2 entry.1 (List.mem_map_of_mem hmem) path ?_ hsame.symm
  exact List.mem_cons_self

/-- A name stands for a queue in an open hub if it is that of a group. -/
theorem isSome_queueNumber?_iff {hub : Hub} (paths : (hub.topology.map Prod.fst).Nodup)
    {path name : String} : (hub.queueNumber? path name).isSome = true ↔
      hub.closed = false ∧ (path, name) ∈ hub.sites := by
  constructor
  · intro hsome
    obtain ⟨number, hnumber⟩ := Option.isSome_iff_exists.1 hsome
    refine ⟨?_, List.mem_map.2 ⟨_, mem_places_of_queueNumber? hnumber, rfl⟩⟩
    rw [queueNumber?] at hnumber
    simpa using (Option.ite_none_left_eq_some.1 hnumber).1
  · rintro ⟨hopen, hsite⟩
    obtain ⟨⟨path', name', number⟩, hplace, heq⟩ := List.mem_map.1 hsite
    cases heq
    obtain ⟨groups, hentry, hgroup⟩ := mem_places.1 hplace
    rw [queueNumber?, if_neg (by simp [hopen]), groups?_of_mem_topology paths hentry,
      Option.bind_some]
    refine Option.isSome_iff_ne_none.2 fun hnone => ?_
    exact bne_iff_ne.1 (List.lookup_eq_none_iff.1 hnone _ hgroup) rfl

/-- The sites of a hub with a new group. -/
theorem perm_sites_withGroups_append {hub : Hub} {path : String} {groups : List (String × Nat)}
    (hgroups : hub.groups? path = some groups) (paths : (hub.topology.map Prod.fst).Nodup)
    (name : String) (number : Nat) :
    (hub.withGroups path (· ++ [(name, number)])).sites.Perm ((path, name) :: hub.sites) :=
  (perm_places_withGroups_append hgroups paths name number).map _

/-- A destination that is created has no groups. -/
theorem places_append_destination (hub : Hub) (path : String) :
    places { hub with topology := hub.topology ++ [(path, [])] } = hub.places := by
  simp [places]

/-! ## Calls that are not administrative -/

/-- All calls but the administrative ones are calm. -/
theorem IsNamed.calm_serve {hub : Hub} (named : hub.IsNamed) {call : Call}
    (other : call.isAdministrative = false) : hub.Calm (hub.serve call).client := by
  cases call with
  | createDestination | createGroup | deleteGroup | deleteDestination | shutDown => cases other
  | create role => exact (Turns.create hub role).calm
  | openHandle handle => exact (Turns.openHandle hub handle).calm
  | closeHandle handle => exact (Turns.closeHandle hub handle).calm
  | release handle => exact (Turns.release hub handle).calm
  | submit handle data => exact (Turns.submit named handle data).calm
  | write handle data => exact (Turns.write named handle data).calm
  | request handle => exact (Turns.request hub handle).calm
  | read handle => exact (Turns.read hub handle).calm
  | ack delivery => exact (Turns.ack hub delivery).calm
  | nack delivery => exact (Turns.nack hub delivery).calm
  | lastError | receiptReady | takeReceipt | deliveryReady | takeDelivery =>
    exact (Turns.refl hub).calm

/-! ## Open queues -/

/-- A site is not repeated, and an open queue can be reached in an open hub. -/
structure IsMoored (hub : Hub) : Prop where
  sites : hub.sites.Nodup
  moored : ∀ {number : Nat} {queue : Queue Bytes}, hub.queues[number]? = some queue →
    queue.closed = false → hub.closed = false ∧ number ∈ hub.reachable

namespace IsMoored

variable {hub before after : Hub}

theorem fresh (throttleEvery redeliverEvery : UInt32) :
    IsMoored { throttleEvery, redeliverEvery } :=
  ⟨.nil, nofun⟩

theorem of_calm (moored : before.IsMoored) (calm : before.Calm after) : after.IsMoored where
  sites := by
    rw [Hub.sites, places, calm.topology]
    exact moored.sites
  moored {number queue} hqueue hopen := by
    have hflag := calm.queues number
    rw [hqueue, Option.map_some, hopen] at hflag
    obtain ⟨earlier, hearlier, hisOpen⟩ := Option.map_eq_some_iff.1 hflag.symm
    rw [calm.closed, reachable, calm.topology]
    exact moored.moored hearlier hisOpen

/-- Places are given up, and the queues at all of them are shut down. -/
theorem of_shutQueues (moored : before.IsMoored) {between : Hub} {numbers : List Nat}
    (hqueues : between.queues = before.queues) (hplaces : between.places.Sublist before.places)
    (hleft : before.closed = false → ∀ place ∈ before.places, place.2.2 ∉ numbers →
      between.closed = false ∧ place ∈ between.places) : (between.shutQueues numbers).IsMoored where
  sites := by
    rw [Hub.sites, places_shutQueues]
    exact moored.sites.sublist (hplaces.map _)
  moored {number queue} hqueue hopen := by
    rw [getElem?_shutQueues, hqueues] at hqueue
    obtain ⟨earlier, hearlier, rfl⟩ := Option.map_eq_some_iff.1 hqueue
    split at hopen
    · cases hopen
    next hnot =>
      obtain ⟨hbefore, hnumber⟩ := moored.moored hearlier hopen
      rw [reachable_eq_map_places] at hnumber
      obtain ⟨place, hplace, rfl⟩ := List.mem_map.1 hnumber
      obtain ⟨hbetween, hstays⟩ := hleft hbefore place hplace hnot
      rw [closed_shutQueues, reachable_eq_map_places, places_shutQueues]
      exact ⟨hbetween, List.mem_map_of_mem hstays⟩

/-! ### Administration -/

theorem createDestination (moored : hub.IsMoored) (destination : DestinationSpec) :
    (hub.createDestination destination).2.IsMoored := by
  rw [Hub.createDestination]
  split
  · exact moored
  · split
    · exact moored
    · split
      · exact moored
      · have hplaces := places_append_destination hub destination.path
        refine ⟨?_, fun {number queue} hqueue hopen => ?_⟩
        · rw [Hub.sites, hplaces]
          exact moored.sites
        · rw [reachable_eq_map_places, hplaces, ← reachable_eq_map_places]
          exact moored.moored hqueue hopen

/-- The queue of a new group can be reached. -/
theorem createGroup (moored : hub.IsMoored) (named : hub.IsNamed) (group : GroupSpec) :
    (hub.createGroup group).2.IsMoored := by
  rw [Hub.createGroup]
  split
  · exact moored
  next hnot =>
    have hisOpen : hub.closed = false := by simpa using hnot
    split
    · exact moored
    · split
      · exact moored
      next groups hgroups =>
        dsimp only
        split
        · exact moored
        next hnew =>
          have hnone : hub.queueNumber? group.destination group.name = none := by
            rw [queueNumber?, if_neg hnot, hgroups, Option.bind_some]
            exact Option.not_isSome_iff_eq_none.1 hnew
          have hsites := perm_sites_withGroups_append hgroups named.paths group.name
            hub.queues.size
          have hplaces := perm_places_withGroups_append hgroups named.paths group.name
            hub.queues.size
          refine ⟨hsites.nodup_iff.2 (List.nodup_cons.2 ⟨fun hsite => ?_, moored.sites⟩),
            fun {number queue} hqueue hopen => ⟨hisOpen, ?_⟩⟩
          · have hsome := (isSome_queueNumber?_iff named.paths).2 ⟨hisOpen, hsite⟩
            rw [hnone] at hsome
            cases hsome
          · have hnumbers := hplaces.map fun place => place.2.2
            rw [List.map_cons, ← reachable_eq_map_places, ← reachable_eq_map_places] at hnumbers
            refine hnumbers.mem_iff.2 ?_
            replace hqueue : (hub.queues.push _)[number]? = some queue := hqueue
            rw [Array.getElem?_push] at hqueue
            split at hqueue
            next hnumber => exact hnumber ▸ List.mem_cons_self
            next => exact List.mem_cons_of_mem _ (moored.moored hqueue hopen).2

theorem deleteGroup (moored : hub.IsMoored) (path name : String) :
    (hub.deleteGroup path name).2.IsMoored := by
  rw [Hub.deleteGroup]
  split
  · exact moored
  · split
    · exact moored
    next number hnumber =>
      have hplace := mem_places_of_queueNumber? hnumber
      have hfilter := places_withGroups_filter hub path name
      show (shutQueues _ [number]).IsMoored
      refine moored.of_shutQueues rfl (hfilter ▸ List.filter_sublist) fun hopen other hother hnot =>
        ⟨hopen, ?_⟩
      -- Another place with the name would be the one with the queue that is shut down.
      rw [hfilter, List.mem_filter]
      refine ⟨hother, decide_eq_true fun hsame => hnot ?_⟩
      have heq : other = (path, name, number) :=
        List.inj_on_of_nodup_map moored.sites hother hplace (Prod.ext hsame.1 hsame.2)
      rw [heq]
      exact List.mem_singleton_self _

theorem deleteDestination (moored : hub.IsMoored) (named : hub.IsNamed) (path : String) :
    (hub.deleteDestination path).2.IsMoored := by
  rw [Hub.deleteDestination]
  split
  · exact moored
  · split
    · exact moored
    next groups hgroups =>
      have hfilter := places_filter_topology hub path
      refine moored.of_shutQueues rfl (hfilter ▸ List.filter_sublist) fun hopen place hother hnot =>
        ⟨hopen, ?_⟩
      obtain ⟨other, group, number⟩ := place
      rw [hfilter, List.mem_filter]
      refine ⟨hother, decide_eq_true fun hsame => hnot ?_⟩
      obtain ⟨found, hentry, hgroup⟩ := mem_places.1 hother
      have hfound := groups?_of_mem_topology named.paths hentry
      rw [show other = path from hsame, hgroups] at hfound
      cases hfound
      exact List.mem_map_of_mem hgroup

theorem close (moored : hub.IsMoored) : hub.close.IsMoored := by
  rw [Hub.close]
  split
  · exact moored
  · refine moored.of_shutQueues rfl (.refl _) fun _ place hplace hnot => absurd ?_ hnot
    rw [reachable_eq_map_places]
    exact List.mem_map_of_mem hplace

theorem serve (moored : hub.IsMoored) (named : hub.IsNamed) (call : Call) :
    (hub.serve call).client.IsMoored := by
  cases hcall : call.isAdministrative with
  | false => exact moored.of_calm (named.calm_serve hcall)
  | true =>
    cases call with
    | createDestination destination => exact moored.createDestination destination
    | createGroup group => exact moored.createGroup named group
    | deleteGroup path name => exact moored.deleteGroup path name
    | deleteDestination path => exact moored.deleteDestination named path
    | shutDown => exact moored.close
    | _ => cases hcall

end IsMoored

/-! ## Names that stand for nothing -/

/-- Only a group that is created has a new place. -/
theorem places_serve_subset {hub : Hub} (named : hub.IsNamed) {call : Call}
    (other : ∀ group, call ≠ .createGroup group) : (hub.serve call).client.places ⊆ hub.places := by
  cases hcall : call.isAdministrative with
  | false =>
    rw [places, (named.calm_serve hcall).topology]
    exact List.Subset.refl _
  | true =>
    cases call with
    | createDestination destination =>
      show (hub.createDestination destination).2.places ⊆ _
      rw [createDestination]
      split
      · exact List.Subset.refl _
      · split
        · exact List.Subset.refl _
        · split
          · exact List.Subset.refl _
          · rw [places_append_destination]
            exact List.Subset.refl _
    | createGroup group => exact absurd rfl (other group)
    | deleteGroup path name =>
      show (hub.deleteGroup path name).2.places ⊆ _
      rw [deleteGroup]
      split
      · exact List.Subset.refl _
      · split
        · exact List.Subset.refl _
        · show (shutQueues _ [_]).places ⊆ _
          rw [places_shutQueues, places_withGroups_filter]
          exact List.filter_sublist.subset
    | deleteDestination path =>
      show (hub.deleteDestination path).2.places ⊆ _
      rw [deleteDestination]
      split
      · exact List.Subset.refl _
      · split
        · exact List.Subset.refl _
        · rw [places_shutQueues, places_filter_topology]
          exact List.filter_sublist.subset
    | shutDown =>
      show hub.close.places ⊆ _
      rw [close]
      split
      · exact List.Subset.refl _
      · rw [places_shutQueues]
        exact List.Subset.refl _
    | _ => cases hcall

/-- A site that is new is that of the group that is created. -/
theorem mem_sites_createGroup {hub : Hub} (named : hub.IsNamed) {group : GroupSpec}
    {site : String × String} (hsite : site ∈ (hub.createGroup group).2.sites) :
    site ∈ hub.sites ∨ site = (group.destination, group.name) := by
  rw [createGroup] at hsite
  split at hsite
  · exact .inl hsite
  · split at hsite
    · exact .inl hsite
    · split at hsite
      · exact .inl hsite
      next groups hgroups =>
        dsimp only at hsite
        split at hsite
        · exact .inl hsite
        · have hperm := perm_sites_withGroups_append hgroups named.paths group.name
            hub.queues.size
          exact (List.mem_cons.1 (hperm.mem_iff.1 hsite)).symm

/-- A name that stands for nothing goes on to do so, until a group of that name is created. -/
theorem queueNumber?_afterAll_eq_none {hub : Hub} {moved : Nat → Movement → Nat}
    (accounts : hub.Accounts moved) {path name : String}
    (nothing : hub.queueNumber? path name = none) (operations : List Operation)
    (never : ∀ group, .serve (.createGroup group) ∈ operations →
      ¬ (group.destination = path ∧ group.name = name)) :
    (hub.afterAll operations).queueNumber? path name = none := by
  induction operations generalizing hub moved with
  | nil => exact nothing
  | cons operation rest ih =>
    -- One call brings the name back only if it creates the group.
    have hserve : ∀ call : Call, (∀ group, call = .createGroup group →
        ¬ (group.destination = path ∧ group.name = name)) →
          (hub.serve call).client.queueNumber? path name = none := by
      intro call hcall
      by_contra hsome
      obtain ⟨hopen, hsite⟩ := (isSome_queueNumber?_iff (accounts.serve call).named.paths).1
        (Option.isSome_iff_ne_none.2 hsome)
      have hbefore : hub.closed = false := Bool.eq_false_iff.2 fun hclosed =>
        Bool.false_ne_true (hopen.symm.trans ((Advances.serve hub call).shut hclosed))
      have hgone : (path, name) ∉ hub.sites := fun hold => by
        have hthere := (isSome_queueNumber?_iff accounts.named.paths).2 ⟨hbefore, hold⟩
        rw [nothing] at hthere
        cases hthere
      by_cases hgroup : ∃ group, call = .createGroup group
      · obtain ⟨group, rfl⟩ := hgroup
        have hsame := (mem_sites_createGroup accounts.named hsite).resolve_left hgone
        exact hcall group rfl ⟨(congrArg Prod.fst hsame).symm, (congrArg Prod.snd hsame).symm⟩
      · have hplaces := places_serve_subset accounts.named fun group heq => hgroup ⟨group, heq⟩
        exact hgone (List.map_subset _ hplaces hsite)
    have hrest := fun group hmem => never group (List.mem_cons_of_mem _ hmem)
    cases operation with
    | serve call =>
      refine ih (accounts.serve call) (hserve call fun group hgroup => never group ?_) hrest
      exact hgroup ▸ List.mem_cons_self
    | disown => exact ih accounts.disown (hserve .shutDown nofun) hrest

end Hub
end BrokerLoad
