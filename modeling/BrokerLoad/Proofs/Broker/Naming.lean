import BrokerLoad.Proofs.Broker.Desk
import BrokerLoad.Proofs.Broker.Serving

/-!
# Queues that can be reached are open

As long as a hub is open, every queue that can be reached by a name is open, and by one name
only: paths are not repeated, and a queue gets its number when it is created, for one group.
So a queue that is shut down because its group or its destination is deleted is reached by no
other name, and a write to a destination finds the queues of all its groups open.

`Hub.places` lists the groups of a hub with their destinations and queues.  What an
administrative call does to the topology is said in terms of it.  All other calls are *calm*:
they leave the topology alone, and they neither create a queue nor shut one down.
-/

namespace BrokerLoad
namespace Hub

/-! ## Places -/

/-- The groups of a hub: the path of each, its name, and the number of its queue. -/
def places (hub : Hub) : List (String × String × Nat) :=
  hub.topology.flatMap fun entry => entry.2.map fun group => (entry.1, group)

theorem reachable_eq_map_places (hub : Hub) :
    hub.reachable = hub.places.map fun place => place.2.2 := by
  rw [reachable, places, List.map_flatMap]
  simp only [List.map_map, Function.comp_def]

theorem mem_places {hub : Hub} {path name : String} {number : Nat} :
    (path, name, number) ∈ hub.places ↔
      ∃ groups, (path, groups) ∈ hub.topology ∧ (name, number) ∈ groups := by
  rw [places, List.mem_flatMap]
  constructor
  · rintro ⟨⟨path', groups⟩, hentry, hplace⟩
    obtain ⟨group, hgroup, heq⟩ := List.mem_map.1 hplace
    cases heq
    exact ⟨groups, hentry, hgroup⟩
  · rintro ⟨groups, hentry, hgroup⟩
    exact ⟨(path, groups), hentry, List.mem_map.2 ⟨_, hgroup, rfl⟩⟩

theorem mem_topology_of_groups? {hub : Hub} {path : String} {groups : List (String × Nat)}
    (hgroups : hub.groups? path = some groups) : (path, groups) ∈ hub.topology := by
  obtain ⟨before, behind, htopology, -⟩ := List.lookup_eq_some_iff.1 hgroups
  rw [htopology]
  exact List.mem_append_right _ List.mem_cons_self

/-- A name that stands for a queue is that of a place. -/
theorem mem_places_of_queueNumber? {hub : Hub} {path name : String} {number : Nat}
    (hnumber : hub.queueNumber? path name = some number) : (path, name, number) ∈ hub.places := by
  rw [queueNumber?] at hnumber
  split at hnumber
  · cases hnumber
  · obtain ⟨groups, hgroups, hlookup⟩ := Option.bind_eq_some_iff.1 hnumber
    obtain ⟨before, behind, hsplit, -⟩ := List.lookup_eq_some_iff.1 hlookup
    refine mem_places.2 ⟨groups, mem_topology_of_groups? hgroups, ?_⟩
    rw [hsplit]
    exact List.mem_append_right _ List.mem_cons_self

/-- Destinations keep their paths. -/
theorem paths_withGroups (hub : Hub) (path : String)
    (f : List (String × Nat) → List (String × Nat)) :
    (hub.withGroups path f).topology.map Prod.fst = hub.topology.map Prod.fst := by
  rw [withGroups, List.map_map]
  refine List.map_congr_left fun entry _ => ?_
  show (if entry.1 = path then _ else entry).1 = entry.1
  split <;> rfl

/-- A group that is taken out of its destination leaves its place. -/
theorem places_withGroups_filter (hub : Hub) (path name : String) :
    (hub.withGroups path fun groups => groups.filter fun entry => entry.1 ≠ name).places =
      hub.places.filter fun place => ¬ (place.1 = path ∧ place.2.1 = name) := by
  simp only [places, withGroups, List.flatMap_map, List.filter_flatMap]
  refine congrArg (List.flatMap · hub.topology) (funext fun entry => ?_)
  rw [List.filter_map]
  by_cases hpath : entry.1 = path
  · simp [hpath, Function.comp_def]
  · simp [hpath, Function.comp_def]

/-- A destination that is taken out leaves all its places. -/
theorem places_filter_topology (hub : Hub) (path : String) :
    places { hub with topology := hub.topology.filter fun entry => entry.1 ≠ path } =
      hub.places.filter fun place => place.1 ≠ path := by
  simp only [places, List.filter_flatMap]
  induction hub.topology with
  | nil => rfl
  | cons entry rest ih =>
    rw [List.flatMap_cons, List.filter_map, ← ih]
    by_cases hpath : entry.1 = path
    · simp [hpath, Function.comp_def]
    · simp [hpath, Function.comp_def]

/-- A group that is added to a destination gets a place. -/
theorem perm_places_withGroups_append {hub : Hub} {path : String}
    {groups : List (String × Nat)} (hgroups : hub.groups? path = some groups)
    (paths : (hub.topology.map Prod.fst).Nodup) (name : String) (number : Nat) :
    (hub.withGroups path (· ++ [(name, number)])).places.Perm
      ((path, name, number) :: hub.places) := by
  obtain ⟨before, behind, htopology, -⟩ := List.lookup_eq_some_iff.1 hgroups
  rw [htopology, List.map_append, List.map_cons, List.nodup_middle, List.nodup_cons,
    ← List.map_append] at paths
  have hothers : ∀ entries : List (String × List (String × Nat)), entries ⊆ before ++ behind →
      entries.map (fun entry => if entry.1 = path then (entry.1, entry.2 ++ [(name, number)])
        else entry) = entries := by
    intro entries hsub
    refine (List.map_congr_left fun entry hentry => ?_).trans (List.map_id _)
    refine if_neg fun heq => paths.1 ?_
    exact List.mem_map.2 ⟨entry, hsub hentry, heq⟩
  simp only [places, withGroups, htopology, List.map_append, List.map_cons, if_true,
    hothers before (List.subset_append_left _ _), hothers behind (List.subset_append_right _ _),
    List.flatMap_append, List.flatMap_cons, List.map_nil, List.append_assoc, List.cons_append,
    List.nil_append]
  rw [← List.append_assoc, ← List.append_assoc]
  exact List.perm_middle

/-! ## Shutting queues down -/

theorem queues_shutQueue (hub : Hub) (number other : Nat) :
    (hub.shutQueue number).queues[other]? =
      (hub.queues[other]?).map fun queue => if other = number then queue.shutDown.2 else queue := by
  rw [shutQueue]
  cases hqueue : hub.queues[number]? with
  | none =>
    by_cases hother : other = number
    · rw [hother, hqueue, Option.map_none]
    · simp [hother]
  | some queue =>
    dsimp only
    rw [queues_resolveAll, putQueue, Array.getElem?_setIfInBounds]
    have hlt := (Array.getElem?_eq_some_iff.1 hqueue).1
    by_cases hother : number = other
    · rw [if_pos hother, if_pos hlt, ← hother, hqueue, Option.map_some, if_pos rfl]
    · rw [if_neg hother]
      simp [Ne.symm hother]

theorem getElem?_shutQueues (hub : Hub) (numbers : List Nat) (other : Nat) :
    (hub.shutQueues numbers).queues[other]? =
      (hub.queues[other]?).map fun queue =>
        if other ∈ numbers then queue.shutDown.2 else queue := by
  induction numbers generalizing hub with
  | nil => simp [shutQueues]
  | cons number rest ih =>
    show ((hub.shutQueue number).shutQueues rest).queues[other]? = _
    rw [ih, queues_shutQueue, Option.map_map]
    refine congrArg (Option.map · _) (funext fun queue => ?_)
    -- A queue that is shut down again stays as it is.
    have hagain : queue.shutDown.2.shutDown.2 = queue.shutDown.2 := rfl
    by_cases hother : other = number
    · simp [hother, hagain]
    · simp [hother]

theorem desk_shutQueues (hub : Hub) (numbers : List Nat) :
    (hub.shutQueues numbers).desk = hub.desk := by
  induction numbers generalizing hub with
  | nil => rfl
  | cons number rest ih =>
    refine (ih (hub.shutQueue number)).trans ?_
    rw [shutQueue]
    split
    · rfl
    · rw [desk_resolveAll, desk_putQueue]

theorem topology_shutQueues (hub : Hub) (numbers : List Nat) :
    (hub.shutQueues numbers).topology = hub.topology :=
  congrArg Desk.topology (desk_shutQueues hub numbers)

theorem closed_shutQueues (hub : Hub) (numbers : List Nat) :
    (hub.shutQueues numbers).closed = hub.closed :=
  congrArg Desk.closed (desk_shutQueues hub numbers)

/-! ## Calm steps -/

/-- A step that leaves the topology alone, and neither creates a queue nor shuts one down. -/
structure Calm (before after : Hub) : Prop where
  topology : after.topology = before.topology
  closed : after.closed = before.closed
  queues : ∀ number : Nat,
    (after.queues[number]?).map Queue.closed = (before.queues[number]?).map Queue.closed

namespace Calm

variable {before between after : Hub}

theorem trans (first : before.Calm between) (second : between.Calm after) :
    before.Calm after where
  topology := second.topology.trans first.topology
  closed := second.closed.trans first.closed
  queues number := (second.queues number).trans (first.queues number)

/-- So is a step at one queue that leaves it open or shut down, as it is. -/
theorem of_queue {number : Nat} {queue changed : Queue Bytes}
    (hfound : before.queues[number]? = some queue)
    (hqueues : after.queues = before.queues.setIfInBounds number changed)
    (hdesk : after.desk = before.desk) (hclosed : changed.closed = queue.closed) :
    before.Calm after where
  topology := congrArg Desk.topology hdesk
  closed := congrArg Desk.closed hdesk
  queues other := by
    have hlt := (Array.getElem?_eq_some_iff.1 hfound).1
    rw [hqueues, Array.getElem?_setIfInBounds, if_pos hlt]
    split
    next hsame => rw [← hsame, hfound, Option.map_some, Option.map_some, hclosed]
    next => rfl

theorem of_eq (hqueues : after.queues = before.queues)
    (htopology : after.topology = before.topology) (hclosed : after.closed = before.closed) :
    before.Calm after where
  topology := htopology
  closed := hclosed
  queues _ := by rw [hqueues]

/-- An open queue stays open. -/
theorem isOpen (calm : before.Calm after) {number : Nat}
    (hopen : ∃ queue, before.queues[number]? = some queue ∧ queue.closed = false) :
    ∃ queue, after.queues[number]? = some queue ∧ queue.closed = false := by
  obtain ⟨queue, hqueue, hclosed⟩ := hopen
  have hflag := calm.queues number
  rw [hqueue, Option.map_some, hclosed] at hflag
  exact Option.map_eq_some_iff.1 hflag

end Calm

/-! ## Queues and their names -/

/-- A queue has one name, and is open if its hub is. -/
structure IsNamed (hub : Hub) : Prop where
  /-- A destination has a path of its own. -/
  paths : (hub.topology.map Prod.fst).Nodup
  /-- A queue is that of one group. -/
  apart : hub.reachable.Nodup
  isOpen : hub.closed = false → ∀ number ∈ hub.reachable,
    ∃ queue, hub.queues[number]? = some queue ∧ queue.closed = false

namespace IsNamed

variable {hub before after : Hub}

theorem of_calm (named : before.IsNamed) (calm : before.Calm after) : after.IsNamed where
  paths := calm.topology ▸ named.paths
  apart := by
    rw [reachable, calm.topology]
    exact named.apart
  isOpen hopen number hnumber := by
    rw [reachable, calm.topology] at hnumber
    exact calm.isOpen (named.isOpen (calm.closed ▸ hopen) number hnumber)

/-- Some places are left, and none of the queues that are shut down is at any of them. -/
theorem of_shutQueues (named : before.IsNamed) {between : Hub} {numbers : List Nat}
    (hqueues : between.queues = before.queues) (hclosed : between.closed = before.closed)
    (hpaths : (between.topology.map Prod.fst).Sublist (before.topology.map Prod.fst))
    (hplaces : between.places.Sublist before.places)
    (hleft : before.closed = false → ∀ number ∈ between.reachable, number ∉ numbers) :
    (between.shutQueues numbers).IsNamed := by
  have htopology := topology_shutQueues between numbers
  have hsub : between.reachable.Sublist before.reachable := by
    rw [reachable_eq_map_places, reachable_eq_map_places]
    exact hplaces.map _
  have hreachable : (between.shutQueues numbers).reachable = between.reachable := by
    rw [reachable, htopology, reachable]
  refine {
    paths := htopology ▸ named.paths.sublist hpaths
    apart := hreachable ▸ named.apart.sublist hsub
    isOpen := fun hopen number hnumber => ?_ }
  rw [closed_shutQueues, hclosed] at hopen
  rw [hreachable] at hnumber
  obtain ⟨queue, hqueue, hisOpen⟩ := named.isOpen hopen number (hsub.subset hnumber)
  refine ⟨queue, ?_, hisOpen⟩
  rw [getElem?_shutQueues, hqueues, hqueue, Option.map_some, if_neg (hleft hopen number hnumber)]

/-- Two places with one queue are the same. -/
theorem eq_of_number_eq (named : hub.IsNamed) {place other : String × String × Nat}
    (hplace : place ∈ hub.places) (hother : other ∈ hub.places)
    (hnumber : place.2.2 = other.2.2) : place = other := by
  have hnodup := named.apart
  rw [reachable_eq_map_places] at hnodup
  exact List.inj_on_of_nodup_map hnodup hplace hother hnumber

/-- A queue is created for a new group of a destination. -/
theorem of_queues_push (named : hub.IsNamed) (hopen : hub.closed = false) {path name : String}
    {groups : List (String × Nat)} (hgroups : hub.groups? path = some groups)
    {queue : Queue Bytes} (hnew : queue.closed = false)
    (hqueues : after.queues = hub.queues.push queue)
    (htopology : after.topology =
      (hub.withGroups path (· ++ [(name, hub.queues.size)])).topology) : after.IsNamed := by
  have hold : ∀ number ∈ hub.reachable, number < hub.queues.size := by
    intro number hnumber
    obtain ⟨found, hfound, -⟩ := named.isOpen hopen number hnumber
    exact (Array.getElem?_eq_some_iff.1 hfound).1
  have hreachable : after.reachable.Perm (hub.queues.size :: hub.reachable) := by
    have hplaces := perm_places_withGroups_append hgroups named.paths name hub.queues.size
    have hnumbers := hplaces.map fun place => place.2.2
    rw [List.map_cons, ← reachable_eq_map_places, ← reachable_eq_map_places] at hnumbers
    rw [reachable, htopology]
    exact hnumbers
  refine {
    paths := ?_
    apart := ?_
    isOpen := fun _ number hnumber => ?_ }
  · rw [htopology, paths_withGroups]
    exact named.paths
  · rw [hreachable.nodup_iff, List.nodup_cons]
    exact ⟨fun hmem => Nat.lt_irrefl _ (hold _ hmem), named.apart⟩
  · rw [hqueues, Array.getElem?_push]
    rcases List.mem_cons.1 (hreachable.mem_iff.1 hnumber) with rfl | hmem
    · exact ⟨queue, if_pos rfl, hnew⟩
    · rw [if_neg (Nat.ne_of_lt (hold number hmem))]
      exact named.isOpen hopen number hmem

/-! ### Administration -/

theorem createDestination (named : hub.IsNamed) (destination : DestinationSpec) :
    (hub.createDestination destination).2.IsNamed := by
  rw [Hub.createDestination]
  split
  · exact named
  · split
    · exact named
    · split
      · exact named
      next hnew =>
        have hnone : hub.groups? destination.path = none := by
          simpa using hnew
        have hreachable : reachable
            { hub with topology := hub.topology ++ [(destination.path, [])] } = hub.reachable := by
          simp [reachable]
        refine {
          paths := ?_
          apart := hreachable ▸ named.apart
          isOpen := hreachable ▸ named.isOpen }
        rw [List.map_append, List.nodup_append]
        refine ⟨named.paths, List.nodup_singleton _, fun path hpath other hother heq => ?_⟩
        rw [List.map_singleton, List.mem_singleton] at hother
        obtain ⟨entry, hentry, hfirst⟩ := List.mem_map.1 hpath
        have hne := List.lookup_eq_none_iff.1 hnone entry hentry
        exact bne_iff_ne.1 hne (hother.symm.trans (heq.symm.trans hfirst.symm))

theorem createGroup (named : hub.IsNamed) (group : GroupSpec) :
    (hub.createGroup group).2.IsNamed := by
  rw [Hub.createGroup]
  split
  · exact named
  next hnot =>
    split
    · exact named
    · split
      · exact named
      next groups hgroups =>
        dsimp only
        split
        · exact named
        · exact named.of_queues_push (by simpa using hnot) hgroups
            (rfl : (Queue.create group.maxDeliveries hub.redeliverEvery).closed = false) rfl rfl

theorem deleteGroup (named : hub.IsNamed) (path name : String) :
    (hub.deleteGroup path name).2.IsNamed := by
  rw [Hub.deleteGroup]
  split
  · exact named
  · split
    · exact named
    next number hnumber =>
      -- What was at the place is at no other, and all other queues stay open.
      have hplace := mem_places_of_queueNumber? hnumber
      have hfilter := places_withGroups_filter hub path name
      have hpaths := paths_withGroups hub path fun groups =>
        groups.filter fun entry => entry.1 ≠ name
      show (shutQueues _ [number]).IsNamed
      refine named.of_shutQueues rfl rfl (hpaths ▸ .refl _)
        (hfilter ▸ List.filter_sublist) fun _ other hother hsame => ?_
      rw [reachable_eq_map_places, hfilter] at hother
      obtain ⟨place, hleft, rfl⟩ := List.mem_map.1 hother
      obtain ⟨hmem, hne⟩ := List.mem_filter.1 hleft
      have heq := named.eq_of_number_eq hmem hplace (List.mem_singleton.1 hsame)
      simp [heq] at hne

theorem deleteDestination (named : hub.IsNamed) (path : String) :
    (hub.deleteDestination path).2.IsNamed := by
  rw [Hub.deleteDestination]
  split
  · exact named
  · split
    · exact named
    next groups hgroups =>
      have hfilter := places_filter_topology hub path
      refine named.of_shutQueues rfl rfl (List.filter_sublist.map _)
        (hfilter ▸ List.filter_sublist) fun _ other hother hsame => ?_
      rw [reachable_eq_map_places, hfilter] at hother
      obtain ⟨place, hleft, rfl⟩ := List.mem_map.1 hother
      obtain ⟨hmem, hne⟩ := List.mem_filter.1 hleft
      obtain ⟨group, hgroup, hnumber⟩ := List.mem_map.1 hsame
      have hplace : (path, group) ∈ hub.places :=
        mem_places.2 ⟨groups, mem_topology_of_groups? hgroups, hgroup⟩
      have heq := named.eq_of_number_eq hmem hplace hnumber.symm
      simp [heq] at hne

/-- A hub that is closed reaches its queues no longer. -/
theorem close (named : hub.IsNamed) : hub.close.IsNamed := by
  rw [Hub.close]
  split
  · exact named
  · exact {
      paths := by
        rw [topology_shutQueues]
        exact named.paths
      apart := by
        rw [reachable, topology_shutQueues]
        exact named.apart
      isOpen := fun hopen =>
        Bool.noConfusion ((closed_shutQueues _ _).symm.trans hopen) }

end IsNamed
end Hub
end BrokerLoad
