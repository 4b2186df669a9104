import GridGooseSV.Common.Sessions
import GridGooseSV.Foundation.Simulation

/-!
# Lifetimes of receivers

The blocks in memory do what the calls mean for the receivers and their lists.
-/

namespace GridGooseSV

namespace Receivers

variable {Subscriber Frame Note : Type}

/-- The blocks that are allocated are those of the receivers and of their lists, and the
subscribers. -/
structure Refines (state : State Subscriber Frame) (world : World Subscriber Frame)
    (chains : Nat → List (Nat × Option Nat)) : Prop where
  sockets : state.sockets = world.sockets
  next : state.next = world.next
  shared : Shared state.memory.subscribers world.memory.loose world.memory.listed
  chained : Chained state.memory.nodes state.memory.receivers world.memory.listed chains state.next
  listening : Listening state.memory.receivers world.memory.links (calls state.sockets) state.next
  bounded : ∀ address, state.next ≤ address →
    state.memory.subscribers address = none ∧ state.memory.receivers address = none

/-- A process has the receivers, wherever their lists are. -/
def Represents (state : State Subscriber Frame) (world : World Subscriber Frame) : Prop :=
  ∃ chains, Refines state world chains

section Registry

variable {registry : Registry Subscriber} {self : Nat} {session : Session Subscriber}

theorem Registry.listed_eq (found : registry.sessions self = some session) :
    registry.listed self = session.subscribers := by
  rw [Registry.listed, found]
  rfl

theorem Registry.links_eq (found : registry.sessions self = some session) :
    registry.links self = some (session.interfaceId, session.link) := by
  rw [Registry.links, found]
  rfl

theorem Registry.listed_update (registry : Registry Subscriber) (self : Nat)
    (session : Option (Session Subscriber)) :
    Registry.listed { registry with sessions := Function.update registry.sessions self session } =
      Function.update registry.listed self ((session.map Session.subscribers).getD []) := by
  funext query
  by_cases same : query = self
  · subst same
    simp [Registry.listed]
  · simp [Registry.listed, Function.update_of_ne same]

theorem Registry.links_update (registry : Registry Subscriber) (self : Nat)
    (session : Option (Session Subscriber)) :
    Registry.links { registry with sessions := Function.update registry.sessions self session } =
      Function.update registry.links self
        (session.map fun session => (session.interfaceId, session.link)) := by
  funext query
  by_cases same : query = self
  · subst same
    simp [Registry.links]
  · simp [Registry.links, Function.update_of_ne same]

end Registry

section Memory

/-- The blocks that a loop over addresses and new blocks writes. -/
theorem foldl_update {cells : List (Nat × Subscriber)} (distinct : (cells.map Prod.fst).Nodup)
    (blocks : Nat → Option Subscriber) (address : Nat) :
    (address ∉ cells.map Prod.fst →
      cells.foldl (fun memory (address, block) => Function.update memory address (some block))
        blocks address = blocks address) ∧
    (address ∈ cells.map Prod.fst → ∀ block,
      cells.foldl (fun memory (address, block) => Function.update memory address (some block))
        blocks address = some block ↔ (address, block) ∈ cells) := by
  induction cells generalizing blocks with
  | nil => simp
  | cons cell cells ih =>
      obtain ⟨outside, rest⟩ := List.nodup_cons.mp distinct
      obtain ⟨kept, written⟩ := ih rest (Function.update blocks cell.1 (some cell.2))
      rw [List.map_cons, List.mem_cons, not_or, List.foldl_cons]
      refine ⟨fun ⟨differ, absent⟩ => ?_, fun member block => ?_⟩
      · rw [kept absent, Function.update_of_ne differ]
      · by_cases later : address ∈ cells.map Prod.fst
        · have differ : address ≠ cell.1 := fun same => outside (same ▸ later)
          rw [written later block, List.mem_cons]
          refine ⟨.inr, fun either => either.resolve_left fun same => ?_⟩
          exact differ (congrArg Prod.fst same)
        · obtain rfl := member.resolve_right later
          rw [kept later, Function.update_self, List.mem_cons]
          constructor
          · rintro ⟨⟩
            exact .inl rfl
          · rintro (same | again)
            · rw [← same]
            · exact absurd (List.mem_map_of_mem again) later

/-- The nodes without the one of a subscriber. -/
theorem eraseP_of_split {subscribers front back : List (Nat × Subscriber)} {address : Nat}
    {subscriber : Subscriber} (split : subscribers = front ++ (address, subscriber) :: back)
    (distinct : (subscribers.map Prod.fst).Nodup) (cells : List (Nat × Option Nat))
    (carried : cells.map Prod.snd = subscribers.map fun entry => some entry.1) :
    (cells.eraseP (·.2 = some address)).map Prod.snd =
      (front ++ back).map fun entry => some entry.1 := by
  rw [split, List.map_append, List.map_cons] at distinct carried
  obtain ⟨before, rest, rfl, early, late⟩ := List.map_eq_append_iff.mp carried
  obtain ⟨cell, behind, rfl, item, late⟩ := List.map_eq_cons_iff.mp late
  have apart : address ∉ front.map Prod.fst := fun member =>
    (List.nodup_append.mp distinct).2.2 address member address List.mem_cons_self rfl
  have passed : ∀ cell ∈ before, ¬ decide (cell.2 = some address) = true := by
    intro cell member same
    have there : some address ∈ front.map fun entry => some entry.1 := by
      rw [← early, ← of_decide_eq_true same]
      exact List.mem_map_of_mem member
    obtain ⟨entry, inside, equal⟩ := List.mem_map.mp there
    exact apart (Option.some.inj equal ▸ List.mem_map_of_mem inside)
  rw [List.eraseP_append_right _ passed, List.eraseP_cons_of_pos (by simpa using item),
    List.map_append, List.map_append, early, late]

/-- No node is of a subscriber that is not in the list. -/
theorem eraseP_of_not_mem {subscribers : List (Nat × Subscriber)} {address : Nat}
    (absent : address ∉ subscribers.map Prod.fst) (cells : List (Nat × Option Nat))
    (carried : cells.map Prod.snd = subscribers.map fun entry => some entry.1) :
    (cells.eraseP (·.2 = some address)).map Prod.snd =
      subscribers.map fun entry => some entry.1 := by
  have passed : ∀ cell ∈ cells, ¬ decide (cell.2 = some address) = true := by
    intro cell member same
    have there : some address ∈ subscribers.map fun entry => some entry.1 := by
      rw [← carried, ← of_decide_eq_true same]
      exact List.mem_map_of_mem member
    obtain ⟨entry, inside, equal⟩ := List.mem_map.mp there
    exact absent (Option.some.inj equal ▸ List.mem_map_of_mem inside)
  rw [List.eraseP_of_forall_not passed, carried]

/-- The subscribers of a list that are allocated are found. -/
theorem subscribersLoop_eq {memory : Heap Subscriber} {cells : List (Nat × Option Nat)}
    {entries : List (Nat × Subscriber)} {start : Option Nat} {fuel : Nat}
    (segment : Segment memory.nodes cells start none)
    (carried : cells.map Prod.snd = entries.map fun entry => some entry.1)
    (allocated : ∀ entry ∈ entries, memory.subscribers entry.1 = some entry.2)
    (enough : cells.length ≤ fuel) :
    State.subscribersLoop memory fuel start = some entries := by
  induction cells generalizing entries start fuel with
  | nil =>
      obtain rfl := List.map_eq_nil_iff.mp carried.symm
      obtain rfl : start = none := segment
      cases fuel <;> rfl
  | cons cell cells ih =>
      obtain ⟨rfl, next, node, rest⟩ := segment
      cases entries with
      | nil => simp at carried
      | cons entry entries =>
          obtain ⟨item, others⟩ := List.cons.inj carried
          obtain ⟨first, later⟩ := List.forall_mem_cons.mp allocated
          cases fuel with
          | zero => exact absurd enough (Nat.not_succ_le_zero _)
          | succ fuel =>
              have behind := ih rest others later (Nat.le_of_succ_le_succ enough)
              rw [item] at node
              simp [State.subscribersLoop, LinkedList.getData, LinkedList.getNext, node, first,
                behind]

/-- Subscribers that are allocated are deleted, one after the other. -/
theorem destroySubscribers_eq {addresses : List Nat} (distinct : addresses.Nodup)
    {state : State Subscriber Frame}
    (allocated : ∀ address ∈ addresses, state.memory.subscribers address ≠ none) :
    ∃ subscribers, State.destroySubscribers addresses state =
        some { state with memory.subscribers := subscribers } ∧
      (∀ address ∈ addresses, subscribers address = none) ∧
      ∀ address, address ∉ addresses → subscribers address = state.memory.subscribers address := by
  induction addresses generalizing state with
  | nil => exact ⟨state.memory.subscribers, rfl, by simp, fun _ _ => rfl⟩
  | cons address addresses ih =>
      obtain ⟨outside, rest⟩ := List.nodup_cons.mp distinct
      obtain ⟨first, later⟩ := List.forall_mem_cons.mp allocated
      obtain ⟨subscriber, found⟩ := Option.ne_none_iff_exists'.mp first
      let after : State Subscriber Frame := { state with
        memory.subscribers := Function.update state.memory.subscribers address none }
      have others : ∀ other ∈ addresses, after.memory.subscribers other ≠ none := by
        intro other member
        have differ : other ≠ address := fun same => outside (same ▸ member)
        change Function.update state.memory.subscribers address none other ≠ none
        rw [Function.update_of_ne differ]
        exact later other member
      obtain ⟨subscribers, deleted, inside, elsewhere⟩ := ih rest others
      refine ⟨subscribers, ?_, ?_, fun other absent => ?_⟩
      · have gone : state.destroySubscriber address = some after := by
          simp [State.destroySubscriber, found, after]
        simp only [State.destroySubscribers, gone, Option.bind_eq_bind, Option.bind_some, deleted]
        rfl
      · intro other member
        rcases List.mem_cons.mp member with rfl | member
        · rw [elsewhere other outside]
          exact Function.update_self ..
        · exact inside other member
      · rw [List.mem_cons, not_or] at absent
        rw [elsewhere other absent.2]
        exact Function.update_of_ne absent.1 ..

end Memory

namespace Refines

variable {state : State Subscriber Frame} {world : World Subscriber Frame}
  {chains : Nat → List (Nat × Option Nat)} {self : Nat} {session : Session Subscriber}

theorem exists_receiver (refines : Refines state world chains)
    (found : world.memory.sessions self = some session) :
    ∃ receiver, state.memory.receivers self = some receiver ∧
      receiver.interfaceId = session.interfaceId ∧
      Listens (calls state.sockets) receiver session.link :=
  refines.listening.exists_receiver (Registry.links_eq found)

theorem eq_none (refines : Refines state world chains)
    (absent : world.memory.sessions self = none) : state.memory.receivers self = none := by
  apply refines.listening.eq_none
  rw [Registry.links, absent]
  rfl

theorem lt_next (refines : Refines state world chains) {receiver : Receiver}
    (found : state.memory.receivers self = some receiver) : self < state.next := by
  by_contra beyond
  have none := (refines.bounded self (Nat.le_of_not_lt beyond)).2
  simp [found] at none

/-- The subscribers of a receiver are found in memory. -/
theorem subscribersOf_eq (refines : Refines state world chains)
    (found : world.memory.sessions self = some session) {receiver : Receiver}
    (given : state.memory.receivers self = some receiver) :
    state.subscribersOf receiver.subscriberList = some session.subscribers := by
  obtain ⟨cells, _, carried, segment, short⟩ := refines.chained.segment given
  obtain ⟨_, next, node, rest⟩ := segment
  rw [Registry.listed_eq found] at carried
  have allocated : ∀ entry ∈ session.subscribers,
      state.memory.subscribers entry.1 = some entry.2 := by
    intro entry member
    rw [← Registry.listed_eq found] at member
    exact refines.shared.block_of_mem member
  have all := subscribersLoop_eq rest carried allocated (Nat.le_of_lt short)
  simp [State.subscribersOf, LinkedList.getNext, node, all]

/-- A receiver gets another state or another socket, and keeps its list. -/
theorem relink (refines : Refines state world chains)
    (found : world.memory.sessions self = some session) {receiver : Receiver}
    (given : state.memory.receivers self = some receiver) (other : Receiver)
    (same : other.subscriberList = receiver.subscriberList) (after : Session Subscriber)
    (kept : after.subscribers = session.subscribers)
    (interface : after.interfaceId = other.interfaceId) {sockets : Sockets Frame}
    (listening : Listening (Function.update state.memory.receivers self (some other))
      (Function.update world.memory.links self (some (other.interfaceId, after.link)))
      (calls sockets) state.next) :
    Refines
      { state with
        sockets := sockets
        memory.receivers := Function.update state.memory.receivers self (some other) }
      { world.setSession self (some after) with sockets := sockets } chains := by
  have own := Registry.listed_eq found
  have listed := Registry.listed_update world.memory self (some after)
  have links := Registry.links_update world.memory self (some after)
  rw [Option.map_some, Option.getD_some, kept] at listed
  rw [Option.map_some, interface] at links
  have unchanged : Function.update world.memory.listed self session.subscribers =
      world.memory.listed := Function.update_eq_self_iff.mpr own.symm
  refine ⟨rfl, refines.next, ?_, ?_, links ▸ listening, fun address beyond => ?_⟩
  · exact listed.trans unchanged ▸ refines.shared
  · exact listed ▸ refines.chained.keep given other same (own ▸ rfl)
  · obtain ⟨one, two⟩ := refines.bounded address beyond
    have differ : address ≠ self := fun equal => by simp [← equal, two] at given
    exact ⟨one, (Function.update_of_ne differ ..).trans two⟩

/-- The subscribers of a receiver change, and stay where they are. -/
theorem reenter (refines : Refines state world chains)
    (found : world.memory.sessions self = some session) {entries : List (Nat × Subscriber)}
    (addresses : entries.map Prod.fst = session.subscribers.map Prod.fst)
    {subscribers : Nat → Option Subscriber}
    (elsewhere : ∀ address, address ∉ session.subscribers.map Prod.fst →
      subscribers address = state.memory.subscribers address)
    (inside : ∀ address ∈ session.subscribers.map Prod.fst, ∀ block,
      subscribers address = some block ↔ (address, block) ∈ entries) :
    Refines { state with memory.subscribers := subscribers }
      (world.setSession self (some { session with subscribers := entries })) chains := by
  obtain ⟨receiver, given, _⟩ := refines.exists_receiver found
  have own := Registry.listed_eq found
  have listed := Registry.listed_update world.memory self
    (some { session with subscribers := entries })
  have links := Registry.links_update world.memory self
    (some { session with subscribers := entries })
  have distinct := refines.shared.nodup self
  rw [own, ← addresses] at distinct
  refine ⟨refines.sockets, refines.next, ?_, ?_, ?_, fun address beyond => ?_⟩
  · have rewritten := @Shared.rewrite _ _ _ _ _ _ self _ _ refines.shared subscribers entries
      distinct (by rw [own, addresses]; exact fun _ => id) (by rw [own]; exact elsewhere)
      (by rw [own]; exact inside)
    exact listed ▸ rewritten
  · have kept := refines.chained.keep given receiver rfl (own ▸ addresses)
    rw [Function.update_eq_self_iff.mpr given.symm] at kept
    exact listed ▸ kept
  · have unchanged : Function.update world.memory.links self
        (some (session.interfaceId, session.link)) = world.memory.links :=
      Function.update_eq_self_iff.mpr (Registry.links_eq found).symm
    exact links.trans unchanged ▸ refines.listening
  · obtain ⟨one, two⟩ := refines.bounded address beyond
    refine ⟨?_, two⟩
    have absent := refines.shared.not_mem_of_eq_none one self
    rw [own] at absent
    exact (elsewhere address absent).trans one

/-- A subscriber that stands in no list is created, changes, or is deleted. -/
theorem reloose (refines : Refines state world chains) {address next : Nat}
    {subscriber : Option Subscriber} {subscribers : Nat → Option Subscriber}
    (shared : Shared subscribers (Function.update world.memory.loose address subscriber)
      world.memory.listed) (least : state.next ≤ next)
    (bounded : ∀ address, next ≤ address → subscribers address = none) :
    Refines { state with memory.subscribers := subscribers, next := next }
      { world.setLoose address subscriber with next := next } chains where
  sockets := refines.sockets
  next := rfl
  shared := shared
  chained := refines.chained.later least
  listening := refines.listening.later least
  bounded address beyond :=
    ⟨bounded address beyond, (refines.bounded address (Nat.le_trans least beyond)).2⟩

/-- A subscriber that stands in no list changes, or is deleted. -/
theorem changeLoose (refines : Refines state world chains) {address : Nat}
    {subscriber : Subscriber} (found : world.memory.loose address = some subscriber)
    {other : Option Subscriber}
    (shared : Shared (Function.update state.memory.subscribers address other)
      (Function.update world.memory.loose address other) world.memory.listed) :
    Refines
      { state with memory.subscribers := Function.update state.memory.subscribers address other }
      (world.setLoose address other) chains := by
  have there := refines.shared.block_of_loose found
  have refined := refines.reloose shared (Nat.le_refl _) fun query beyond => by
    have free := (refines.bounded query beyond).1
    have differ : query ≠ address := fun same => by simp [← same, free] at there
    rwa [Function.update_of_ne differ]
  have same : { world.setLoose address other with next := state.next } =
      world.setLoose address other := by
    rw [refines.next]
    rfl
  exact same ▸ refined

/-- A receiver is created. -/
theorem create (refines : Refines state world chains) :
    Refines state.create.1
      { world.setSession state.next
          (some { subscribers := [], interfaceId := none, link := .idle }) with
        next := state.next + 2 }
      (Function.update chains state.next [(state.next + 1, none)]) := by
  obtain ⟨_, free⟩ := refines.bounded state.next (Nat.le_refl _)
  have absent : world.memory.sessions state.next = none := by
    by_contra held
    obtain ⟨session, found⟩ := Option.ne_none_iff_exists'.mp held
    obtain ⟨receiver, given, _⟩ := refines.exists_receiver found
    simp [free] at given
  have listed := Registry.listed_update world.memory state.next
    (some { subscribers := [], interfaceId := none, link := .idle })
  have links := Registry.links_update world.memory state.next
    (some { subscribers := [], interfaceId := none, link := .idle })
  have unchanged : Function.update world.memory.listed state.next [] = world.memory.listed := by
    apply Function.update_eq_self_iff.mpr
    rw [Registry.listed, absent]
    rfl
  refine ⟨refines.sockets, rfl, ?_, ?_, ?_, fun address beyond => ?_⟩
  · exact listed.trans unchanged ▸ refines.shared
  · exact listed ▸ refines.chained.create free false none none
  · exact links ▸ refines.listening.create (state.next + 1)
  · change state.next + 2 ≤ address at beyond
    obtain ⟨one, two⟩ := refines.bounded address (by omega)
    refine ⟨one, ?_⟩
    change Function.update state.memory.receivers state.next _ address = none
    rwa [Function.update_of_ne (by omega)]

/-- The list of a receiver is rewritten. -/
theorem rechain (refines : Refines state world chains)
    (found : world.memory.sessions self = some session) {receiver : Receiver}
    (given : state.memory.receivers self = some receiver) {nodes : LinkedList.Heap Nat Nat}
    {cells : List (Nat × Option Nat)} {start : Option Nat}
    (rewrites : Rewrites state.memory.nodes nodes (chains self)
      ((receiver.subscriberList, none) :: cells) start (some receiver.subscriberList))
    {entries : List (Nat × Subscriber)} {loose : Nat → Option Subscriber} {next : Nat}
    (carried : cells.map Prod.snd = entries.map fun entry => some entry.1)
    (shared : Shared state.memory.subscribers loose
      (Function.update world.memory.listed self entries)) (least : state.next ≤ next)
    (bounded : ∀ address, next ≤ address → nodes address = none) :
    Refines { state with memory.nodes := nodes, next := next }
      { world with
        memory.loose := loose
        memory.sessions := Function.update world.memory.sessions self
          (some { session with subscribers := entries })
        next := next }
      (Function.update chains self ((receiver.subscriberList, none) :: cells)) := by
  have listed := Registry.listed_update world.memory self
    (some { session with subscribers := entries })
  have links := Registry.links_update world.memory self
    (some { session with subscribers := entries })
  have unchanged : Function.update world.memory.links self
      (some (session.interfaceId, session.link)) = world.memory.links :=
    Function.update_eq_self_iff.mpr (Registry.links_eq found).symm
  refine ⟨refines.sockets, rfl, ?_, ?_, ?_, fun address beyond =>
    refines.bounded address (Nat.le_trans least beyond)⟩
  · exact listed ▸ shared
  · exact listed ▸ refines.chained.rewrite given rewrites carried bounded
  · exact links.trans unchanged ▸ refines.listening.later least

/-- A subscriber that stands in no list is added to the list of a receiver. -/
theorem addSubscriber (refines : Refines state world chains) {address : Nat}
    {subscriber : Subscriber} (found : world.memory.sessions self = some session)
    (given : world.memory.loose address = some subscriber) :
    ∃ after, state.addSubscriber self address = some after ∧ Represents after
      { (world.setLoose address none).setSession self (some { session with
          subscribers := session.subscribers ++ [(address, subscriber)] }) with
        next := world.next + 1 } := by
  obtain ⟨receiver, there, _⟩ := refines.exists_receiver found
  obtain ⟨cells, chain, carried, segment, short⟩ := refines.chained.segment there
  have free := refines.chained.bounded state.next (Nat.le_refl _)
  obtain ⟨nodes, added, rewrites⟩ := LinkedList.add_rewrites segment free short
  have own := Registry.listed_eq found
  have shared := refines.shared.take given self
  rw [own] at carried shared
  rw [← chain] at rewrites
  have fits : ∀ query ∈ ((receiver.subscriberList, none) ::
      (cells ++ [(state.next, some address)])).map Prod.fst, query < state.next + 1 := by
    intro query member
    rw [← List.cons_append, ← chain, List.map_append] at member
    rcases List.mem_append.mp member with inside | last
    · exact Nat.lt_succ_of_lt (refines.chained.lt_next inside)
    · exact List.mem_singleton.mp last ▸ Nat.lt_succ_self _
  rw [← refines.next]
  refine ⟨_, ?_, _, refines.rechain found there rewrites ?_ shared (Nat.le_succ _)
    fun query beyond => refines.chained.eq_none_of_rewrites rewrites (Nat.le_succ _) fits beyond⟩
  · simp [State.addSubscriber, there, added]
  · rw [List.map_append, List.map_append, carried]
    rfl

/-- The list of a receiver loses the nodes of a subscriber. -/
theorem removeSubscriber (refines : Refines state world chains) {address : Nat}
    (found : world.memory.sessions self = some session)
    {entries : List (Nat × Subscriber)} {loose : Nat → Option Subscriber}
    (erased : ∀ cells : List (Nat × Option Nat),
      cells.map Prod.snd = session.subscribers.map (fun entry => some entry.1) →
        (cells.eraseP (·.2 = some address)).map Prod.snd =
          entries.map fun entry => some entry.1)
    (shared : Shared state.memory.subscribers loose
      (Function.update world.memory.listed self entries)) :
    ∃ after, state.removeSubscriber self address = some after ∧ Represents after
      { world with
        memory.loose := loose
        memory.sessions := Function.update world.memory.sessions self
          (some { session with subscribers := entries }) } := by
  obtain ⟨receiver, there, _⟩ := refines.exists_receiver found
  obtain ⟨cells, chain, carried, segment, short⟩ := refines.chained.segment there
  obtain ⟨_, next, node, rest⟩ := id segment
  obtain ⟨nodes, removed, rewrites⟩ : ∃ nodes,
      LinkedList.removeLoop state.memory.nodes (some address) state.next receiver.subscriberList
        next = some (nodes, cells.any (·.2 = some address)) ∧
      Rewrites state.memory.nodes nodes ((receiver.subscriberList, none) :: cells)
        ((receiver.subscriberList, none) :: cells.eraseP (·.2 = some address))
        (some receiver.subscriberList) (some receiver.subscriberList) :=
    LinkedList.removeLoop_rewrites node rest (Nat.le_of_lt short)
  rw [Registry.listed_eq found] at carried
  rw [← chain] at rewrites
  have fits : ∀ query ∈ ((receiver.subscriberList, none) ::
      cells.eraseP (·.2 = some address)).map Prod.fst, query < state.next := by
    intro query member
    have inside : query ∈ (chains self).map Prod.fst := by
      rw [chain]
      exact List.Sublist.subset ((List.eraseP_sublist.cons_cons _).map _) member
    exact refines.chained.lt_next inside
  have same := refines.next
  refine ⟨_, ?_, _, same ▸ refines.rechain found there rewrites (erased cells carried) shared
    (Nat.le_refl _) fun query beyond =>
      refines.chained.eq_none_of_rewrites rewrites (Nat.le_refl _) fits beyond⟩
  simp [State.removeSubscriber, LinkedList.remove, LinkedList.getNext, there, node, removed]
  exact same

/-- A receiver is destroyed with its list and its subscribers. -/
theorem destroy (refines : Refines state world chains)
    (found : world.memory.sessions self = some session) :
    ∃ after, state.destroy self = some after ∧ Represents after (world.setSession self none) := by
  obtain ⟨receiver, there, _⟩ := refines.exists_receiver found
  obtain ⟨cells, chain, carried, segment, short⟩ := refines.chained.segment there
  obtain ⟨nodes, freed, rewrites⟩ := LinkedList.destroyLoop_rewrites true segment short []
  have own := Registry.listed_eq found
  have data : ([] ++ if true then ((receiver.subscriberList, none) :: cells).filterMap Prod.snd
      else []) = session.subscribers.map Prod.fst := by
    have behind : cells.filterMap Prod.snd = (cells.map Prod.snd).filterMap id := by
      rw [List.filterMap_map]
      rfl
    rw [if_pos rfl, List.nil_append, List.filterMap_cons_none rfl, behind, carried, own,
      List.filterMap_map]
    exact congrFun List.filterMap_eq_map _
  rw [data] at freed
  have distinct := refines.shared.nodup self
  rw [own] at distinct
  have allocated : ∀ address ∈ session.subscribers.map Prod.fst,
      state.memory.subscribers address ≠ none := by
    intro address member free
    exact refines.shared.not_mem_of_eq_none free self (own ▸ member)
  obtain ⟨subscribers, deleted, inside, elsewhere⟩ := destroySubscribers_eq distinct
    (show ∀ address ∈ _, ({ state with memory.nodes := nodes } :
      State Subscriber Frame).memory.subscribers address ≠ none from allocated)
  have listed := Registry.listed_update world.memory self none
  have links := Registry.links_update world.memory self none
  rw [← chain] at rewrites
  have beyond : ∀ address, state.next ≤ address → nodes address = none := fun address past =>
    refines.chained.eq_none_of_rewrites rewrites (Nat.le_refl _) (by simp) past
  have shared := @Shared.rewrite _ _ _ _ _ _ self _ _ refines.shared subscribers []
    List.nodup_nil (fun _ member => absurd member List.not_mem_nil) (own ▸ elsewhere)
    fun address member block => by
      rw [own] at member
      simp [inside address member]
  refine ⟨{ state with
    memory := ⟨Function.update state.memory.receivers self none, subscribers, nodes⟩ }, ?_,
    Function.update chains self [], refines.sockets, refines.next, listed ▸ shared,
    listed ▸ refines.chained.destroy rewrites beyond, links ▸ refines.listening.destroy self,
    fun address past => ?_⟩
  · simp only [State.destroy, LinkedList.destroyDeep, there, freed, deleted, Option.bind_eq_bind,
      Option.bind_some]
  · obtain ⟨one, two⟩ := refines.bounded address past
    constructor
    · by_cases member : address ∈ session.subscribers.map Prod.fst
      · exact inside address member
      · exact (elsewhere address member).trans one
    · by_cases same : address = self
      · rw [same]
        exact Function.update_self ..
      · exact (Function.update_of_ne same ..).trans two

theorem setInterfaceId (refines : Refines state world chains)
    (found : world.memory.sessions self = some session) (node : Nat) :
    ∃ after, state.setInterfaceId self node = some after ∧
      Represents after
        (world.setSession self (some { session with interfaceId := some node })) := by
  obtain ⟨receiver, given, _⟩ := refines.exists_receiver found
  let other : Receiver := { receiver with interfaceId := some node }
  let renamed : Session Subscriber := { session with interfaceId := some node }
  have listening : Listening (Function.update state.memory.receivers self (some other)) _ _ _ :=
    refines.listening.keep (Registry.links_eq found) given rfl rfl
  have refined := refines.relink found given other rfl renamed rfl rfl listening
  have same : { world.setSession self (some renamed) with sockets := state.sockets } =
      world.setSession self (some renamed) := by
    rw [refines.sockets]
    rfl
  refine ⟨_, ?_, _, same ▸ refined⟩
  simp [State.setInterfaceId, given, other]

/-- A receiver listens to a new socket, which calls it if it is started so. -/
theorem listen (refines : Refines state world chains)
    (found : world.memory.sessions self = some session)
    (quiet : ∀ ethSocket, session.link ≠ .running ethSocket) {receiver : Receiver}
    (given : state.memory.receivers self = some receiver) (node : Nat) {callback : Option Nat}
    (own : ∀ query, callback = some query → query = self) :
    Refines
      { state with
        sockets := world.sockets ++
          [{ node := node, closed := false, deliveryQueue := [], callback := callback }]
        memory.receivers := Function.update state.memory.receivers self
          (some { receiver with
            ethSocket := some world.sockets.length
            running := true }) }
      (world.listening self node session callback) chains := by
  obtain ⟨kept, there, interface, _⟩ := refines.exists_receiver found
  obtain rfl : kept = receiver := Option.some.inj (there.symm.trans given)
  refine refines.relink found given
    { kept with ethSocket := some world.sockets.length, running := true } rfl
    { session with link := .running world.sockets.length } rfl interface.symm ?_
  rw [calls_concat, ← refines.sockets]
  exact refines.listening.listen (Registry.links_eq found) quiet (calls_length state.sockets) _ rfl
    rfl fun query called => ⟨own query called, own query called ▸ refines.lt_next given⟩

theorem startThreadless_eq (refines : Refines state world chains)
    (kind : Kind Subscriber Frame Note) (found : world.memory.sessions self = some session)
    {node : Nat} (interface : session.interfaceId = some node) {receiver : Receiver}
    (given : state.memory.receivers self = some receiver) :
    state.startThreadless kind self = some
      { state with
        sockets := (createSocket world.sockets node).1
        memory.receivers := Function.update state.memory.receivers self
          (some { receiver with
            ethSocket := some world.sockets.length
            running := true }) } := by
  obtain ⟨_, there, named, _⟩ := refines.exists_receiver found
  obtain rfl := Option.some.inj (there.symm.trans given)
  have all := refines.subscribersOf_eq found given
  rw [interface] at named
  have sockets := refines.sockets
  cases walks : kind.walks <;>
    simp [State.startThreadless, given, named, walks, all, createSocket, sockets]

theorem startThreadless (refines : Refines state world chains) (kind : Kind Subscriber Frame Note)
    (found : world.memory.sessions self = some session) {node : Nat}
    (interface : session.interfaceId = some node)
    (quiet : ∀ ethSocket, session.link ≠ .running ethSocket) :
    ∃ after, state.startThreadless kind self = some after ∧
      Represents after (world.listening self node session none) := by
  obtain ⟨receiver, given, _⟩ := refines.exists_receiver found
  have listens := refines.startThreadless_eq kind found interface given
  exact ⟨_, listens, chains, refines.listen found quiet given node fun _ called => nomatch called⟩

theorem start (refines : Refines state world chains) (kind : Kind Subscriber Frame Note)
    (found : world.memory.sessions self = some session) {node : Nat}
    (interface : session.interfaceId = some node)
    (quiet : ∀ ethSocket, session.link ≠ .running ethSocket) :
    ∃ after, state.start kind self = some after ∧
      Represents after (world.listening self node session (some self)) := by
  obtain ⟨receiver, given, _⟩ := refines.exists_receiver found
  have listens := refines.startThreadless_eq kind found interface given
  refine ⟨_, ?_, chains, refines.listen found quiet given node fun _ same =>
    (Option.some.inj same).symm⟩
  simp [State.start, listens, setRecvCallback_createSocket]

/-- A receiver closes the socket that it listens to. -/
theorem stopThreadless (refines : Refines state world chains) {ethSocket : Nat}
    {sockets : Sockets Frame} (found : world.memory.sessions self = some session)
    (listens : session.link = .running ethSocket)
    (closed : destroySocket world.sockets ethSocket = some sockets) :
    ∃ after, state.stopThreadless self = some after ∧ Represents after
      { world.setSession self (some { session with link := .stopped }) with
        sockets := sockets } := by
  obtain ⟨receiver, given, interface, listening⟩ := refines.exists_receiver found
  rw [listens] at listening
  have kept : receiver.ethSocket = some ethSocket := listening.2
  have linked := Registry.links_eq found
  rw [listens] at linked
  rw [← refines.sockets] at closed
  have shut := calls_destroySocket closed
  refine ⟨_, ?_, _, refines.relink found given { receiver with running := false } rfl
    { session with link := .stopped } rfl interface.symm
    (shut ▸ refines.listening.close linked { receiver with running := false } rfl kept)⟩
  simp [State.stopThreadless, given, kept, closed]

/-- A subscriber in the list of a receiver changes. -/
theorem changeListed (refines : Refines state world chains) {address : Nat}
    {subscriber other : Subscriber} {front back : List (Nat × Subscriber)}
    (found : world.memory.sessions self = some session)
    (split : session.subscribers = front ++ (address, subscriber) :: back) :
    Refines
      { state with
        memory.subscribers := Function.update state.memory.subscribers address (some other) }
      (world.setSession self (some { session with
        subscribers := front ++ (address, other) :: back })) chains := by
  have own := Registry.listed_eq found
  have addresses : (front ++ (address, other) :: back).map Prod.fst =
      session.subscribers.map Prod.fst := by
    rw [split, List.map_append, List.map_append]
    rfl
  have distinct := refines.shared.nodup self
  rw [own, split, List.map_append, List.map_cons] at distinct
  have apart : address ∉ (front ++ back).map Prod.fst := by
    rw [List.map_append]
    exact (List.nodup_cons.mp (List.nodup_middle.mp distinct)).1
  refine refines.reenter found addresses (fun query outside => ?_) fun query member block => ?_
  · have differ : query ≠ address := fun same => outside (by simp [same, split])
    exact Function.update_of_ne differ ..
  · by_cases same : query = address
    · subst same
      have once : (query, block) ∉ front ++ back := fun inside =>
        apart (List.mem_map_of_mem inside)
      rw [List.mem_append, not_or] at once
      rw [Function.update_self, List.mem_append, List.mem_cons]
      simp only [once.1, once.2, or_false, false_or, Prod.mk.injEq, true_and, Option.some.injEq]
      exact eq_comm
    · rw [Function.update_of_ne same, refines.shared.eq_some_iff (own ▸ member), own, split]
      simp [same]

/-- Frames wait in sockets, or are taken from them. -/
theorem resocket (refines : Refines state world chains) {sockets : Sockets Frame}
    (same : calls sockets = calls state.sockets) :
    Refines { state with sockets := sockets } { world with sockets := sockets } chains where
  sockets := rfl
  next := refines.next
  shared := refines.shared
  chained := refines.chained
  listening := same ▸ refines.listening
  bounded := refines.bounded

end Refines

/-! ## Frames -/

section Frames

variable {ns3 : PacketSockets Frame} {kind : Kind Subscriber Frame Note}
  {state : State Subscriber Frame} {world : World Subscriber Frame}

/-- A frame does the same to the subscribers in memory as to those of the session. -/
theorem parseMessage_agree (represents : Represents state world) (self : Nat) (frame : Frame) :
    Agree Represents (state.parseMessage kind self frame)
      (world.parseMessage kind self frame) := by
  obtain ⟨chains, refines⟩ := represents
  cases found : world.memory.sessions self with
  | none =>
      have absent := refines.eq_none found
      simp only [State.parseMessage, World.parseMessage, absent, found, Option.bind_eq_bind,
        Option.bind_none]
      exact .refused
  | some session =>
      obtain ⟨receiver, given, _⟩ := refines.exists_receiver found
      have all := refines.subscribersOf_eq found given
      have length := kind.length_parse (session.subscribers.map Prod.snd) frame
      generalize parsed : kind.parse (session.subscribers.map Prod.snd) frame = outcome
      rw [parsed, List.length_map] at length
      have addresses : ((session.subscribers.map Prod.fst).zip outcome.1).map Prod.fst =
          session.subscribers.map Prod.fst :=
        List.map_fst_zip (by simp [length])
      have distinct := refines.shared.nodup self
      rw [Registry.listed_eq found, ← addresses] at distinct
      have written := foldl_update distinct state.memory.subscribers
      rw [addresses] at written
      have kept := refines.reenter found addresses (fun address => (written address).1)
        fun address => (written address).2
      simp only [State.parseMessage, World.parseMessage, given, found, all, parsed,
        Option.bind_eq_bind, Option.bind_some]
      exact .answered ⟨chains, kept⟩ _

/-- A receiver takes the same frame from its socket as the session does. -/
theorem tick_agree (represents : Represents state world) (self : Nat) :
    Agree Represents (state.tick ns3 kind self) (world.tick ns3 kind self) := by
  obtain ⟨chains, refines⟩ := represents
  cases found : world.memory.sessions self with
  | none =>
      have absent := refines.eq_none found
      simp only [State.tick, World.tick, absent, found, Option.bind_eq_bind, Option.bind_none]
      exact .refused
  | some session =>
      obtain ⟨receiver, given, _, listens⟩ := refines.exists_receiver found
      simp only [State.tick, World.tick, given, found, Option.bind_eq_bind, Option.bind_some]
      cases link : session.link with
      | idle =>
          rw [link] at listens
          simp only [listens.2, Option.bind_none]
          exact .refused
      | stopped =>
          rw [link] at listens
          obtain ⟨_, ethSocket, kept, shut⟩ := listens
          simp only [kept, Option.bind_some, receivePacket, openSocket_of_closed shut,
            Option.bind_eq_bind, Option.bind_none]
          exact .refused
      | running ethSocket =>
          rw [link] at listens
          simp only [listens.2, Option.bind_some, refines.sockets]
          cases received : receivePacket ns3 world.sockets ethSocket ethBufferLength with
          | none => exact .refused
          | some outcome =>
              have same := calls_receivePacket received
              rw [← refines.sockets] at same
              have kept : Represents _ _ := ⟨chains, refines.resocket same⟩
              rw [Option.bind_some, Option.bind_some]
              split
              · exact parseMessage_agree kept self outcome.2
              · exact .answered kept []

/-- Where receivers agree on every frame that they take, they agree on what arrives. -/
theorem forwardUp_agree {Own Memory : Type}
    {related : Process Own Frame → Process Memory Frame → Prop} {ns3 : PacketSockets Frame}
    {tick : Process Own Frame → Nat → Option (Process Own Frame × List Note)}
    {other : Process Memory Frame → Nat → Option (Process Memory Frame × List Note)}
    (same : ∀ {first second}, related first second → first.sockets = second.sockets)
    (waits : ∀ {first second sockets}, related first second →
      calls sockets = calls first.sockets →
        related { first with sockets := sockets } { second with sockets := sockets })
    (ticks : ∀ {first second}, related first second → ∀ receiver,
      Agree related (tick first receiver) (other second receiver))
    (frame : Frame) (ethSockets : List Nat) {first : Process Own Frame}
    {second : Process Memory Frame} (initially : related first second) :
    Agree related (forwardUp ns3 tick frame ethSockets first)
      (forwardUp ns3 other frame ethSockets second) := by
  induction ethSockets generalizing first second with
  | nil => exact .answered initially []
  | cons ethSocket rest ih =>
      rw [forwardUp, forwardUp, same initially]
      cases there : second.sockets[ethSocket]? with
      | none => exact ih initially
      | some socket =>
          dsimp only
          cases ns3.enqueue socket.deliveryQueue frame with
          | none => exact ih initially
          | some deliveryQueue =>
              have unchanged : calls (second.sockets.set ethSocket { socket with
                  deliveryQueue := deliveryQueue }) = calls first.sockets := by
                rw [same initially]
                exact calls_setQueue there _
              have queued := waits initially unchanged
              dsimp only
              generalize { first with sockets := second.sockets.set ethSocket { socket with
                deliveryQueue := deliveryQueue } } = one at queued ⊢
              generalize { second with sockets := second.sockets.set ethSocket { socket with
                deliveryQueue := deliveryQueue } } = two at queued ⊢
              cases socket.callback with
              | none =>
                  refine (ih queued).bind fun final last heard kept => ?_
                  exact .answered kept _
              | some receiver =>
                  refine (ticks queued receiver).bind fun next own heard kept => ?_
                  refine (ih kept).bind fun final last more reached => ?_
                  exact .answered reached _

/-- A frame that arrives at a node does the same in memory as it means. -/
theorem arrive_agree (represents : Represents state world) (node : Nat) (frame : Frame) :
    Agree Represents (arrive ns3 (State.tick ns3 kind) node frame state)
      (arrive ns3 (World.tick ns3 kind) node frame world) := by
  have sockets : state.sockets = world.sockets := by
    obtain ⟨chains, refines⟩ := represents
    exact refines.sockets
  rw [arrive, arrive, sockets]
  refine forwardUp_agree (fun ⟨_, refines⟩ => refines.sockets) (fun ⟨chains, refines⟩ kept =>
    ⟨chains, refines.resocket kept⟩) tick_agree frame _ represents

end Frames

/-! ## Calls -/

section Calls

variable {ns3 : PacketSockets Frame} {kind : Kind Subscriber Frame Note}
  {state : State Subscriber Frame} {world final : World Subscriber Frame}
  {call : Call Subscriber Frame} {answer : Answer Note}

theorem Represents.createSubscriber (represents : Represents state world)
    (subscriber : Subscriber) :
    (state.createSubscriber subscriber).2 = world.next ∧
      Represents (state.createSubscriber subscriber).1
        { world.setLoose world.next (some subscriber) with next := world.next + 1 } := by
  obtain ⟨chains, refines⟩ := represents
  have outside := refines.shared.not_mem_of_eq_none
    (refines.bounded state.next (Nat.le_refl _)).1
  have bounded : ∀ address, state.next + 1 ≤ address →
      Function.update state.memory.subscribers state.next (some subscriber) address = none := by
    intro address beyond
    rw [Function.update_of_ne (by omega)]
    exact (refines.bounded address (by omega)).1
  rw [← refines.next]
  exact ⟨rfl, chains, refines.reloose (refines.shared.put outside subscriber) (Nat.le_succ _)
    bounded⟩

theorem Represents.create (represents : Represents state world) :
    state.create.2 = world.next ∧ Represents state.create.1
      { world.setSession world.next
          (some { subscribers := [], interfaceId := none, link := .idle }) with
        next := world.next + 2 } := by
  obtain ⟨chains, refines⟩ := represents
  rw [← refines.next]
  exact ⟨rfl, _, refines.create⟩

/-- What a call means is what it does in memory. -/
theorem perform_refines (represents : Represents state world)
    (meaning : Meaning ns3 kind world call final answer) :
    ∃ after, state.perform ns3 kind call = some (after, answer) ∧ Represents after final := by
  obtain ⟨chains, refines⟩ := represents
  have same := refines.next
  cases meaning with
  | createSubscriber subscriber =>
      obtain ⟨address, represents⟩ := Represents.createSubscriber ⟨chains, refines⟩ subscriber
      exact ⟨_, by rw [← address]; rfl, represents⟩
  | changeLoose found change =>
      have there := refines.shared.block_of_loose found
      refine ⟨_, ?_, chains, refines.changeLoose found
        (refines.shared.put (refines.shared.unlisted found) _)⟩
      simp [State.perform, State.changeSubscriber, there]
  | @changeListed self receiver _ subscriber front back found split change =>
      have member : (self, subscriber) ∈ world.memory.listed receiver :=
        Registry.listed_eq found ▸ split ▸ List.mem_append_right front List.mem_cons_self
      have there := refines.shared.block_of_mem member
      refine ⟨_, ?_, chains, refines.changeListed found split⟩
      simp [State.perform, State.changeSubscriber, there]
  | destroySubscriber found =>
      have there := refines.shared.block_of_loose found
      refine ⟨_, ?_, chains, refines.changeLoose found (refines.shared.free found)⟩
      simp [State.perform, State.destroySubscriber, there]
  | create =>
      obtain ⟨address, represents⟩ := Represents.create ⟨chains, refines⟩
      exact ⟨_, by rw [← address]; rfl, represents⟩
  | addSubscriber found given =>
      obtain ⟨after, added, represents⟩ := refines.addSubscriber found given
      exact ⟨after, by rw [State.perform, added]; rfl, represents⟩
  | @removeSubscriber self _ _ _ _ _ found split =>
      have distinct := refines.shared.nodup self
      rw [Registry.listed_eq found] at distinct
      have listed := (Registry.listed_eq found).trans split
      obtain ⟨after, removed, represents⟩ := refines.removeSubscriber found
        (eraseP_of_split split distinct) (refines.shared.release listed)
      exact ⟨after, by rw [State.perform, removed]; rfl, represents⟩
  | @removeOther self _ session found absent =>
      have listed : Function.update world.memory.listed self session.subscribers =
          world.memory.listed := Function.update_eq_self_iff.mpr (Registry.listed_eq found).symm
      have sessions : Function.update world.memory.sessions self (some session) =
          world.memory.sessions := Function.update_eq_self_iff.mpr found.symm
      obtain ⟨after, removed, represents⟩ := refines.removeSubscriber found
        (eraseP_of_not_mem absent) (listed.symm ▸ refines.shared)
      rw [sessions] at represents
      exact ⟨after, by rw [State.perform, removed]; rfl, represents⟩
  | setInterfaceId found node =>
      obtain ⟨after, named, represents⟩ := refines.setInterfaceId found node
      exact ⟨after, by rw [State.perform, named]; rfl, represents⟩
  | startThreadless found interface quiet =>
      obtain ⟨after, started, represents⟩ := refines.startThreadless kind found interface quiet
      exact ⟨after, by rw [State.perform, started]; rfl, represents⟩
  | start found interface quiet =>
      obtain ⟨after, started, represents⟩ := refines.start kind found interface quiet
      exact ⟨after, by rw [State.perform, started]; rfl, represents⟩
  | stopThreadless found listens closed =>
      obtain ⟨after, stopped, represents⟩ := refines.stopThreadless found listens closed
      exact ⟨after, by rw [State.perform, stopped]; rfl, represents⟩
  | @stopThreadlessIdle self session found idle =>
      obtain ⟨receiver, given, _, listens⟩ := refines.exists_receiver found
      rw [idle] at listens
      obtain ⟨resting, none⟩ : receiver.running = false ∧ receiver.ethSocket = none := listens
      have kept : Function.update state.memory.receivers self
          (some { receiver with running := false }) = state.memory.receivers :=
        Function.update_eq_self_iff.mpr (resting ▸ given.symm)
      refine ⟨state, ?_, chains, refines⟩
      rw [none] at kept
      simp [State.perform, State.stopThreadless, given, none, kept]
  | stopNothing empty =>
      refine ⟨state, ?_, chains, refines⟩
      simp [State.perform, State.stop, empty]
  | @stopQuiet self session found quiet =>
      obtain ⟨receiver, given, _, listens⟩ := refines.exists_receiver found
      have resting : receiver.running = false := by
        cases link : session.link with
        | idle => exact (link ▸ listens).1
        | running ethSocket => exact absurd link (quiet ethSocket)
        | stopped => exact (link ▸ listens).1
      refine ⟨state, ?_, chains, refines⟩
      simp [State.perform, State.stop, given, resting]
  | stop stops found listens closed =>
      obtain ⟨after, stopped, represents⟩ := refines.stopThreadless found listens closed
      obtain ⟨receiver, given, _, linked⟩ := refines.exists_receiver found
      rw [listens] at linked
      refine ⟨after, ?_, represents⟩
      simp [State.perform, State.stop, stops, given, linked.1, stopped]
  | destroy found =>
      obtain ⟨after, destroyed, represents⟩ := refines.destroy found
      exact ⟨after, by rw [State.perform, destroyed]; rfl, represents⟩
  | tick taken =>
      obtain ⟨after, done, represents⟩ := (tick_agree ⟨chains, refines⟩ _).exists_of_eq_some taken
      exact ⟨after, by rw [State.perform, done]; rfl, represents⟩
  | handleMessage parsed =>
      obtain ⟨after, done, represents⟩ :=
        (parseMessage_agree ⟨chains, refines⟩ _ _).exists_of_eq_some parsed
      exact ⟨after, by rw [State.perform, done]; rfl, represents⟩
  | frame arrived =>
      obtain ⟨after, done, represents⟩ :=
        (arrive_agree ⟨chains, refines⟩ _ _).exists_of_eq_some arrived
      exact ⟨after, by rw [State.perform, done]; rfl, represents⟩

/-- What calls mean, one after another, is what they do in memory. -/
theorem runAll_refines (represents : Represents state world)
    {calls : List (Call Subscriber Frame)} {answers : List (Answer Note)}
    (meanings : Meanings ns3 kind world calls final answers) :
    ∃ after, runAll (State.perform ns3 kind) state calls = some (after, answers) ∧
      Represents after final := by
  induction meanings generalizing state with
  | nil => exact ⟨state, rfl, represents⟩
  | cons first rest ih =>
      obtain ⟨next, performed, kept⟩ := perform_refines represents first
      obtain ⟨after, later, reached⟩ := ih kept
      refine ⟨after, ?_, reached⟩
      simp only [runAll, performed, later, Option.bind_eq_bind, Option.bind_some]
      rfl

theorem represents_initial :
    Represents (State.initial : State Subscriber Frame) World.initial :=
  ⟨fun _ => [], rfl, rfl, .empty, .empty, .empty, fun _ _ => ⟨rfl, rfl⟩⟩

/-- Whatever the simulator does with packet sockets and a program with receivers, if it refers only
to what is not destroyed, adds a subscriber to one list at a time, starts no receiver that listens
already or has no interface, stops none twice, and only receivers are called that listen and have a
packet to receive: no memory is touched that is not allocated, nothing is freed twice, the frames go
to the subscribers that they are meant for, and what is allocated in the end belongs to the
receivers that are left or is a subscriber that has none. -/
theorem receivers_refined {calls : List (Call Subscriber Frame)} {answers : List (Answer Note)}
    (meanings : Meanings ns3 kind World.initial calls final answers) :
    ∃ after, runAll (State.perform ns3 kind) State.initial calls = some (after, answers) ∧
      Represents after final :=
  runAll_refines represents_initial meanings

end Calls

/-- A frame is its length, which is added to the subscribers and told to them. -/
def counting : Kind Nat Nat Nat where
  size := id
  parse subscribers frame := (subscribers.map (· + frame), subscribers)
  length_parse _ _ := List.length_map _
  walks := true
  stops := false

/-- A receiver hears a frame and is destroyed, after it has closed its socket. -/
theorem receivers_refined_destroyed :
    let sockets := PacketSockets.bounded counting.size 131072
    ∃ after final, runAll (State.perform sockets counting) State.initial
        [.create, .setInterfaceId 0 7, .createSubscriber 100, .addSubscriber 0 2, .start 0,
          .frame 7 60, .removeSubscriber 0 2, .destroySubscriber 2, .stopThreadless 0, .destroy 0] =
        some (after, [.address 0, .done, .address 2, .done, .done, .heard [(0, [100])], .done,
          .done, .done, .done]) ∧
      Represents after final ∧ final.memory.sessions 0 = none := by
  intro sockets
  have meanings : ∃ final, Meanings sockets counting World.initial
      [.create, .setInterfaceId 0 7, .createSubscriber 100, .addSubscriber 0 2, .start 0,
        .frame 7 60, .removeSubscriber 0 2, .destroySubscriber 2, .stopThreadless 0, .destroy 0]
      final [.address 0, .done, .address 2, .done, .done, .heard [(0, [100])], .done, .done,
          .done, .done] ∧ final.memory.sessions 0 = none :=
    ⟨_, .cons .create <| .cons (.setInterfaceId rfl 7) <| .cons (.createSubscriber 100) <|
      .cons (.addSubscriber rfl rfl) <| .cons (.start rfl rfl (by simp)) <|
      .cons (.frame rfl) <| .cons (@Meaning.removeSubscriber _ _ _ _ _ _ _ _ _ _ [] [] rfl rfl) <|
      .cons (.destroySubscriber rfl) <| .cons (.stopThreadless rfl rfl rfl) <|
      .cons (.destroy rfl) .nil, rfl⟩
  obtain ⟨final, meanings, gone⟩ := meanings
  obtain ⟨after, run, represents⟩ := receivers_refined meanings
  exact ⟨after, final, run, represents, gone⟩

end Receivers

end GridGooseSV
