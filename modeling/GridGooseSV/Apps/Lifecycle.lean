import GridGooseSV.Common.Lifetimes
import GridGooseSV.Apps.GooseReceiver
import GridGooseSV.Goose.Separation
import GridGooseSV.Sv.Subscriber

/-!
# The lifecycle of the receiving applications

After `goose-receiver-app.cc` and `sv-subscriber-app.cc`. The simulator starts and stops
applications of one class on its nodes while frames arrive there. An application creates a receiver
when it is started and destroys it when it is stopped.
-/

namespace GridGooseSV.Ns3

open Receivers

variable {Subscriber Frame Note : Type}

/-- How a class of applications uses its receiver: the subscriber that it creates and sets up, and
whether it stops the receiver before it destroys it. -/
structure Receiving (Subscriber Frame Note : Type) where
  kind : Kind Subscriber Frame Note
  created : Subscriber
  setUp : Subscriber → Subscriber
  stopsReceiver : Bool

/-- A frame is parsed by `parseGooseMessage`, which tells whose listeners are called. -/
def gooseKind : Kind GooseSubscriber Arrival Nat where
  size := Arrival.numbytes
  parse subscribers arrival :=
    let reception :=
      (parseGooseMessage subscribers arrival.memory arrival.numbytes arrival.now).value
    (reception.subscriberList, reception.calls)
  length_parse := length_receive
  walks := true
  stops := false

/-- `ns3::GOOSEReceiver`. -/
def gooseReceiver : Receiving GooseSubscriber Arrival Nat where
  kind := gooseKind
  created := .create gcbAnalogValues none
  setUp subscriber := (subscriber.setDstMac ⟨[0x01, 0x0c, 0xcd, 0x01, 0x00, 0x01],
    length_gooseAddress⟩ |>.setAppId 1000).setListener
  stopsReceiver := true

/-- A frame is parsed by `parseSVMessage`, which changes no subscriber. -/
def svKind : Kind GridGooseSV.SVSubscriber Arrival SVCall where
  size := Arrival.numbytes
  parse subscribers arrival :=
    (subscribers, (parseSVMessage { SVReceiver.create with subscriberList := subscribers }
      arrival.memory arrival.numbytes).value.2)
  length_parse _ _ := rfl
  walks := false
  stops := true

/-- `ns3::SVSubscriber`. -/
def svSubscriber : Receiving GridGooseSV.SVSubscriber Arrival SVCall where
  kind := svKind
  created := .create none 0x4000
  setUp subscriber := subscriber.setListener
  stopsReceiver := false

/-- Whether the socket of the receiver is closed when the application is stopped. -/
def Receiving.closes (self : Receiving Subscriber Frame Note) : Bool :=
  self.stopsReceiver && self.kind.stops

/-- `StartApplication` on a node: the process, and the receiver that the application keeps. -/
def Receiving.startApplication (self : Receiving Subscriber Frame Note)
    (process : State Subscriber Frame) (node : Nat) : Option (State Subscriber Frame × Nat) := do
  let (process, receiver) := process.create
  let process ← process.setInterfaceId receiver node
  let (process, subscriber) := process.createSubscriber self.created
  let process ← process.changeSubscriber subscriber self.setUp
  let process ← process.addSubscriber receiver subscriber
  let process ← process.start self.kind receiver
  some (process, receiver)

/-- `StopApplication`. -/
def Receiving.stopApplication (self : Receiving Subscriber Frame Note)
    (process : State Subscriber Frame) (receiver : Nat) : Option (State Subscriber Frame) := do
  let process ← if self.stopsReceiver then process.stop self.kind receiver else some process
  process.destroy receiver

/-! ## Simulations -/

/-- An application that was started on a node. -/
structure Installed where
  node : Nat
  stopped : Bool
  deriving DecidableEq, Repr

/-- An application with the receiver that it keeps. -/
structure Installation extends Installed where
  receiver : Nat

/-- What happens in a simulation. Applications are numbered as they are started. -/
inductive Happening (Frame : Type)
  | startApplication (node : Nat)
  | stopApplication (application : Nat)
  | frame (node : Nat) (frame : Frame)

/-- The process, and the applications that were started. -/
structure Simulation (Subscriber Frame : Type) where
  process : State Subscriber Frame
  installations : List Installation

namespace Simulation

/-- Before anything has happened. -/
def initial : Simulation Subscriber Frame := ⟨.initial, []⟩

/-- What happens to the process, and what the receivers hear. An application is stopped once. -/
def step (ns3 : PacketSockets Frame) (self : Receiving Subscriber Frame Note)
    (simulation : Simulation Subscriber Frame) :
    Happening Frame → Option (Simulation Subscriber Frame × List (Nat × List Note))
  | .startApplication node => do
    let (process, receiver) ← self.startApplication simulation.process node
    some (⟨process, simulation.installations ++ [⟨⟨node, false⟩, receiver⟩]⟩, [])
  | .stopApplication application =>
    match simulation.installations[application]? with
    | none => some (simulation, [])
    | some installation =>
      if installation.stopped then some (simulation, [])
      else do
        let process ← self.stopApplication simulation.process installation.receiver
        some (⟨process, simulation.installations.set application
          { installation with stopped := true }⟩, [])
  | .frame node frame => do
    let (process, heard) ←
      arrive ns3 (State.tick ns3 self.kind) node frame simulation.process
    some ({ simulation with process := process }, heard)

end Simulation

/-- The applications after something has happened. -/
def Installed.after (applications : List Installed) : Happening Frame → List Installed
  | .startApplication node => applications ++ [⟨node, false⟩]
  | .stopApplication application =>
    applications.modify application fun installed => { installed with stopped := true }
  | .frame .. => applications

/-- The applications that were started so far, and whether they were stopped since. -/
def installed (happenings : List (Happening Frame)) : List Installed :=
  happenings.foldl Installed.after []

/-- An application that a frame at a node cannot be given to: it was stopped without closing its
socket, or the frame is longer than the buffer of its receiver. A frame may be dropped before. -/
def Receiving.Fails (ns3 : PacketSockets Frame) (self : Receiving Subscriber Frame Note)
    (node : Nat) (frame : Frame) (application : Installed) : Prop :=
  application.node = node ∧ (ns3.enqueue [] frame).isSome ∧
    if application.stopped then self.closes = false else ethBufferLength < self.kind.size frame

instance (ns3 : PacketSockets Frame) (self : Receiving Subscriber Frame Note) (node : Nat)
    (frame : Frame) (application : Installed) :
    Decidable (self.Fails ns3 node frame application) :=
  inferInstanceAs (Decidable (_ ∧ _))

/-- What can happen once other things have happened. -/
def Receiving.Bears (ns3 : PacketSockets Frame) (self : Receiving Subscriber Frame Note)
    (before : List (Happening Frame)) : Happening Frame → Prop
  | .frame node frame => ∀ application ∈ installed before, ¬ self.Fails ns3 node frame application
  | _ => True

/-! ## The sockets of the applications -/

/-- The socket that an application has opened. No frame waits in it. -/
def Receiving.socket (self : Receiving Subscriber Frame Note) (installation : Installation) :
    EthernetSocket Frame where
  node := installation.node
  closed := self.closes && installation.stopped
  deliveryQueue := []
  callback := some installation.receiver

/-- The sockets are those of the applications, in their order, and each calls the receiver of its
application, which is there until the application is stopped. -/
structure Hosts (kept : Receiving Subscriber Frame Note) (world : World Subscriber Frame)
    (installations : List Installation) : Prop where
  sockets : world.sockets = installations.map kept.socket
  bounded : ∀ installation ∈ installations, installation.receiver < world.next
  stopped : ∀ installation ∈ installations, installation.stopped = true →
    world.memory.sessions installation.receiver = none
  running : ∀ {index installation}, installations[index]? = some installation →
    installation.stopped = false → ∃ session,
      world.memory.sessions installation.receiver = some session ∧ session.link = .running index

/-- Something fails, or it goes on and the applications have their sockets again. -/
structure Outcome (kept : Receiving Subscriber Frame Note) (installations : List Installation)
    (fails : Prop) (result : Option (World Subscriber Frame × List (Nat × List Note))) :
    Prop where
  refused : fails → result = none
  goesOn : ¬ fails → ∃ after heard, result = some (after, heard) ∧ Hosts kept after installations

namespace Hosts

variable {ns3 : PacketSockets Frame} {self : Receiving Subscriber Frame Note}
  {world : World Subscriber Frame} {installations : List Installation}
  {installation : Installation} {index : Nat}

/-- A receiver that listens has another list or other subscribers. -/
theorem setSession (hosts : Hosts self world installations) {receiver : Nat}
    {session : Session Subscriber} (found : world.memory.sessions receiver = some session)
    (other : Session Subscriber) (same : other.link = session.link) :
    Hosts self (world.setSession receiver (some other)) installations where
  sockets := hosts.sockets
  bounded := hosts.bounded
  stopped installation member stopped := by
    have gone := hosts.stopped installation member stopped
    have differ : installation.receiver ≠ receiver := fun equal => by simp [← equal, gone] at found
    exact (Function.update_of_ne differ ..).trans gone
  running {index installation} there runs := by
    obtain ⟨kept, given, link⟩ := hosts.running there runs
    by_cases equal : installation.receiver = receiver
    · rw [equal] at given
      obtain rfl := Option.some.inj (given.symm.trans found)
      exact ⟨other, by rw [equal]; exact Function.update_self .., same.trans link⟩
    · exact ⟨kept, (Function.update_of_ne equal ..).trans given, link⟩

/-- An application is started. -/
theorem start (hosts : Hosts self world installations) {after : World Subscriber Frame} {node : Nat}
    (sockets : after.sockets = world.sockets ++ [self.socket ⟨⟨node, false⟩, world.next⟩])
    (next : world.next < after.next) (session : Session Subscriber)
    (link : session.link = .running world.sockets.length)
    (sessions : after.memory.sessions =
      Function.update world.memory.sessions world.next (some session)) :
    Hosts self after (installations ++ [⟨⟨node, false⟩, world.next⟩]) where
  sockets := by rw [sockets, hosts.sockets, List.map_append, List.map_singleton]
  bounded installation member := by
    rcases List.mem_append.mp member with earlier | last
    · exact Nat.lt_trans (hosts.bounded installation earlier) next
    · rwa [List.mem_singleton.mp last]
  stopped installation member stopped := by
    rcases List.mem_append.mp member with earlier | last
    · have differ := Nat.ne_of_lt (hosts.bounded installation earlier)
      rw [sessions, Function.update_of_ne differ]
      exact hosts.stopped installation earlier stopped
    · simp [List.mem_singleton.mp last] at stopped
  running {index installation} there runs := by
    rw [sessions]
    rcases Nat.lt_or_ge index installations.length with earlier | last
    · rw [List.getElem?_append_left earlier] at there
      have differ := Nat.ne_of_lt (hosts.bounded installation (List.mem_of_getElem? there))
      rw [Function.update_of_ne differ]
      exact hosts.running there runs
    · rw [List.getElem?_append_right last] at there
      rw [List.getElem?_singleton] at there
      split at there
      · next first =>
          obtain rfl := Option.some.inj there
          have length : index = world.sockets.length := by
            rw [hosts.sockets, List.length_map]
            omega
          exact ⟨session, Function.update_self .., length ▸ link⟩
      · contradiction

/-- An application is stopped. -/
theorem stop (hosts : Hosts self world installations) {after : World Subscriber Frame}
    (found : installations[index]? = some installation) (runs : installation.stopped = false)
    (sockets : after.sockets =
      (installations.set index { installation with stopped := true }).map self.socket)
    (next : after.next = world.next)
    (sessions : after.memory.sessions =
      Function.update world.memory.sessions installation.receiver none) :
    Hosts self after (installations.set index { installation with stopped := true }) where
  sockets := sockets
  bounded other member := by
    rw [next]
    rcases List.mem_or_eq_of_mem_set member with earlier | rfl
    · exact hosts.bounded other earlier
    · exact hosts.bounded installation (List.mem_of_getElem? found)
  stopped other member stopped := by
    rw [sessions]
    by_cases same : other.receiver = installation.receiver
    · rw [same, Function.update_self]
    · rw [Function.update_of_ne same]
      rcases List.mem_or_eq_of_mem_set member with earlier | rfl
      · exact hosts.stopped other earlier stopped
      · exact absurd rfl same
  running {query other} there running := by
    have differ : query ≠ index := by
      rintro rfl
      rw [List.getElem?_set_self (List.getElem?_eq_some_iff.mp found).1] at there
      obtain rfl := Option.some.inj there
      contradiction
    rw [List.getElem?_set_ne (Ne.symm differ)] at there
    obtain ⟨session, given, link⟩ := hosts.running there running
    obtain ⟨own, present, listens⟩ := hosts.running found runs
    have apart : other.receiver ≠ installation.receiver := by
      intro same
      rw [same] at given
      obtain rfl := Option.some.inj (given.symm.trans present)
      exact differ (Link.running.inj (link.symm.trans listens))
    rw [sessions, Function.update_of_ne apart]
    exact ⟨session, given, link⟩

/-- The socket of an application. -/
theorem getElem?_sockets (hosts : Hosts self world installations) (index : Nat) :
    world.sockets[index]? = installations[index]?.map self.socket := by
  rw [hosts.sockets, List.getElem?_map]

/-- The one frame that waits in the socket of an application is taken. -/
theorem receivePacket_eq (serves : ns3.Serves self.kind.size)
    (hosts : Hosts self world installations) (found : installations[index]? = some installation)
    (opened : (self.closes && installation.stopped) = false) (frame : Frame) :
    receivePacket ns3 (world.sockets.set index
        { self.socket installation with deliveryQueue := [frame] }) index ethBufferLength =
      if self.kind.size frame ≤ ethBufferLength then some (world.sockets, frame) else none := by
  have there := hosts.getElem?_sockets index
  rw [found, Option.map_some] at there
  have inside := (List.getElem?_eq_some_iff.mp there).1
  have restored : world.sockets.set index (self.socket installation) = world.sockets :=
    (List.getElem?_eq_some_iff.mp there).2 ▸ List.set_getElem_self inside
  have socket : openSocket (world.sockets.set index
      { self.socket installation with deliveryQueue := [frame] }) index =
        some { self.socket installation with deliveryQueue := [frame] } :=
    openSocket_eq_some.mpr ⟨List.getElem?_set_self inside, opened⟩
  simp only [receivePacket, socket, Option.bind_eq_bind, Option.bind_some]
  split
  · next fits =>
      simp only [serves.recv fits, Option.bind_some, List.set_set]
      exact congrArg (fun sockets => some (sockets, frame)) restored
  · next long => rw [serves.recv_long (Nat.lt_of_not_le long), Option.bind_none]

/-- An application is called for the frame that waits in its socket. -/
theorem tick (serves : ns3.Serves self.kind.size) (hosts : Hosts self world installations)
    (found : installations[index]? = some installation)
    (opened : (self.closes && installation.stopped) = false) (frame : Frame) :
    Outcome self installations
      (installation.stopped = true ∨ ethBufferLength < self.kind.size frame)
      (World.tick ns3 self.kind { world with
        sockets := world.sockets.set index
          { self.socket installation with deliveryQueue := [frame] } } installation.receiver) := by
  have received := hosts.receivePacket_eq serves found opened frame
  cases runs : installation.stopped with
  | true =>
      have gone := hosts.stopped installation (List.mem_of_getElem? found) runs
      refine ⟨fun _ => ?_, fun goes => absurd (.inl rfl) goes⟩
      rw [World.tick, gone]
      rfl
  | false =>
      obtain ⟨session, given, link⟩ := hosts.running found runs
      refine ⟨fun fails => ?_, fun goes => ?_⟩
      · have long := fails.resolve_left Bool.false_ne_true
        rw [if_neg (Nat.not_le_of_lt long)] at received
        simp only [World.tick, given, link, received, Option.bind_eq_bind, Option.bind_some,
          Option.bind_none]
      · have fits := Nat.le_of_not_lt fun long => goes (.inr long)
        rw [if_pos fits] at received
        simp only [World.tick, given, link, received, Option.bind_eq_bind, Option.bind_some]
        split
        · exact ⟨_, _, World.parseMessage_eq given frame, hosts.setSession given _ rfl⟩
        · exact ⟨world, [], rfl, hosts⟩

/-- A packet socket drops a frame, or calls its application for it. -/
theorem forwardUp_cons (serves : ns3.Serves self.kind.size)
    (hosts : Hosts self world installations)
    (found : installations[index]? = some installation) (frame : Frame) (rest : List Nat) :
    forwardUp ns3 (World.tick ns3 self.kind) frame (index :: rest) world =
      if (ns3.enqueue [] frame).isSome then
        (World.tick ns3 self.kind { world with
          sockets := world.sockets.set index
            { self.socket installation with deliveryQueue := [frame] } }
          installation.receiver).bind fun next =>
        (forwardUp ns3 (World.tick ns3 self.kind) frame rest next.1).bind fun last =>
          some (last.1, next.2 ++ last.2)
      else forwardUp ns3 (World.tick ns3 self.kind) frame rest world := by
  rw [forwardUp, hosts.getElem?_sockets, found, Option.map_some]
  simp only [Receiving.socket]
  cases queued : ns3.enqueue [] frame with
  | none => rfl
  | some deliveryQueue =>
      obtain rfl := serves.enqueue queued
      rfl

/-- The application that a packet socket is opened for decides whether the frame fails there. -/
theorem exists_fails_cons (found : installations[index]? = some installation) (node : Nat)
    (frame : Frame) (rest : List Nat) :
    (∃ query ∈ index :: rest, ∃ other, installations[query]? = some other ∧
        self.Fails ns3 node frame other.toInstalled) ↔
      self.Fails ns3 node frame installation.toInstalled ∨
        ∃ query ∈ rest, ∃ other, installations[query]? = some other ∧
          self.Fails ns3 node frame other.toInstalled := by
  rw [List.exists_mem_cons_iff]
  refine or_congr_left ⟨?_, fun fails => ⟨installation, found, fails⟩⟩
  rintro ⟨other, there, fails⟩
  obtain rfl := Option.some.inj (found.symm.trans there)
  exact fails

/-- A frame is given to the applications on its node, one after the other, or fails at one. -/
theorem forwardUp (serves : ns3.Serves self.kind.size) (hosts : Hosts self world installations)
    {node : Nat} (frame : Frame) {ethSockets : List Nat}
    (opened : ∀ index ∈ ethSockets, ∃ installation, installations[index]? = some installation ∧
      (self.closes && installation.stopped) = false ∧ installation.node = node) :
    Outcome self installations
      (∃ index ∈ ethSockets, ∃ installation, installations[index]? = some installation ∧
        self.Fails ns3 node frame installation.toInstalled)
      (Receivers.forwardUp ns3 (World.tick ns3 self.kind) frame ethSockets world) := by
  induction ethSockets generalizing world with
  | nil => exact ⟨by simp, fun _ => ⟨world, [], rfl, hosts⟩⟩
  | cons index rest ih =>
      obtain ⟨⟨installation, found, here, same⟩, others⟩ := List.forall_mem_cons.mp opened
      rw [forwardUp_cons serves hosts found, exists_fails_cons found]
      by_cases room : (ns3.enqueue [] frame).isSome
      · rw [if_pos room]
        have called := hosts.tick serves found here frame
        have fails_iff : self.Fails ns3 node frame installation.toInstalled ↔
            installation.stopped = true ∨ ethBufferLength < self.kind.size frame := by
          rw [Receiving.Fails]
          cases stopped : installation.stopped with
          | true =>
              rw [stopped, Bool.and_true] at here
              simp [same, room, here]
          | false => simp [same, room]
        refine ⟨fun fails => ?_, fun goes => ?_⟩
        · by_cases first : self.Fails ns3 node frame installation.toInstalled
          · rw [called.refused (fails_iff.mp first)]
            rfl
          · obtain ⟨next, heard, ticked, kept⟩ := called.goesOn (first ∘ fails_iff.mpr)
            rw [ticked, Option.bind_some, (ih kept others).refused (fails.resolve_left first)]
            rfl
        · obtain ⟨spared, later⟩ := not_or.mp goes
          obtain ⟨next, heard, ticked, kept⟩ := called.goesOn (spared ∘ fails_iff.mpr)
          obtain ⟨after, more, forwarded, hosted⟩ := (ih kept others).goesOn later
          exact ⟨after, heard ++ more, by rw [ticked, Option.bind_some, forwarded]; rfl, hosted⟩
      · have spared : ¬ self.Fails ns3 node frame installation.toInstalled :=
          fun fails => room fails.2.1
        rw [if_neg room]
        simpa only [spared, false_or] using ih hosts others

/-- The sockets that a node gives a frame to are those of its applications. -/
theorem mem_handlers_iff (serves : ns3.Serves self.kind.size)
    (hosts : Hosts self world installations) {node : Nat} :
    index ∈ ns3.handlers world.sockets node ↔
      ∃ installation, installations[index]? = some installation ∧
        (self.closes && installation.stopped) = false ∧ installation.node = node := by
  rw [serves.mem_handlers, hosts.getElem?_sockets]
  simp [Receiving.socket]

/-- A frame arrives at a node. -/
theorem arrive (serves : ns3.Serves self.kind.size) (hosts : Hosts self world installations)
    (node : Nat) (frame : Frame) :
    Outcome self installations
      (∃ installation ∈ installations, self.Fails ns3 node frame installation.toInstalled)
      (Receivers.arrive ns3 (World.tick ns3 self.kind) node frame world) := by
  have handled : (∃ index ∈ ns3.handlers world.sockets node, ∃ installation,
      installations[index]? = some installation ∧
        self.Fails ns3 node frame installation.toInstalled) ↔
      ∃ installation ∈ installations, self.Fails ns3 node frame installation.toInstalled := by
    constructor
    · rintro ⟨_, _, installation, found, fails⟩
      exact ⟨installation, List.mem_of_getElem? found, fails⟩
    · rintro ⟨installation, member, fails⟩
      obtain ⟨index, found⟩ := List.mem_iff_getElem?.mp member
      have fate := fails.2.2
      refine ⟨index, (hosts.mem_handlers_iff serves).mpr ⟨installation, found, ?_, fails.1⟩,
        installation, found, fails⟩
      cases stopped : installation.stopped with
      | true =>
          rw [if_pos stopped] at fate
          rw [fate, Bool.false_and]
      | false => exact Bool.and_false _
  exact propext handled ▸
    hosts.forwardUp serves frame fun index member => (hosts.mem_handlers_iff serves).mp member

end Hosts

/-! ## Runs -/

section Runs

variable {ns3 : PacketSockets Frame} {self : Receiving Subscriber Frame Note}
  {process : State Subscriber Frame} {world : World Subscriber Frame}
  {installations : List Installation}

/-- A call that answers nothing. -/
theorem eq_some_of_done {result : Option (State Subscriber Frame)} {after : State Subscriber Frame}
    (done : result.map (·, Answer.done) = some (after, (Answer.done : Answer Note))) :
    result = some after := by
  obtain ⟨_, rfl, same⟩ := Option.map_eq_some_iff.mp done
  rw [(Prod.mk.inj same).1]

/-- `StartApplication` can be run at any time. -/
theorem startApplication_hosts (ns3 : PacketSockets Frame) (represents : Represents process world)
    (hosts : Hosts self world installations) (node : Nat) :
    ∃ after next, self.startApplication process node = some (after, world.next) ∧
      Represents after next ∧ Hosts self next (installations ++ [⟨⟨node, false⟩, world.next⟩]) := by
  obtain ⟨receiver, first⟩ := represents.create
  rw [Receiving.startApplication]
  generalize process.create = made at receiver first ⊢
  obtain ⟨created, address⟩ := made
  obtain rfl : address = world.next := receiver
  obtain ⟨named, done, second⟩ := perform_refines first
    (.setInterfaceId (Function.update_self ..) node : Meaning ns3 self.kind _ _ _ _)
  have naming : created.setInterfaceId world.next node = some named := eq_some_of_done done
  obtain ⟨subscriber, third⟩ := second.createSubscriber self.created
  simp only [naming, Option.bind_eq_bind, Option.bind_some]
  generalize named.createSubscriber self.created = made at subscriber third ⊢
  obtain ⟨allocated, address⟩ := made
  obtain rfl : address = world.next + 2 := subscriber
  obtain ⟨setUp, done, fourth⟩ := perform_refines third
    (.changeLoose (Function.update_self ..) self.setUp : Meaning ns3 self.kind _ _ _ _)
  have setting : allocated.changeSubscriber (world.next + 2) self.setUp = some setUp :=
    eq_some_of_done done
  obtain ⟨added, done, fifth⟩ := perform_refines fourth
    (.addSubscriber (Function.update_self ..) (Function.update_self ..) :
      Meaning ns3 self.kind _ _ _ _)
  have adding : setUp.addSubscriber world.next (world.next + 2) = some added :=
    eq_some_of_done done
  obtain ⟨started, done, sixth⟩ := perform_refines fifth
    (.start (Function.update_self ..) rfl (by simp) : Meaning ns3 self.kind _ _ _ _)
  have starting : added.start self.kind world.next = some started := eq_some_of_done done
  refine ⟨started, _, ?_, sixth, hosts.start ?_ ?_
    ⟨[(world.next + 2, self.setUp self.created)], some node, .running world.sockets.length⟩ rfl ?_⟩
  · simp only [setting, adding, starting, Option.bind_some]
  · simp [World.listening, World.setSession, World.setLoose, Receiving.socket]
  · simp only [World.listening, World.setSession, World.setLoose]
    omega
  · simp only [World.listening, World.setSession, World.setLoose, Function.update_idem]
    rfl

/-- The receiver is stopped if the application stops it, and closes its socket if it stops. -/
theorem stop_hosts (ns3 : PacketSockets Frame) (represents : Represents process world)
    (hosts : Hosts self world installations) {index : Nat} {installation : Installation}
    (found : installations[index]? = some installation) (runs : installation.stopped = false) :
    ∃ stopped next, (if self.stopsReceiver then process.stop self.kind installation.receiver
        else some process) = some stopped ∧ Represents stopped next ∧
      ∃ session, next.memory.sessions installation.receiver = some session ∧
        next.sockets =
          (installations.set index { installation with stopped := true }).map self.socket ∧
        next.next = world.next ∧
        next.memory.sessions =
          Function.update world.memory.sessions installation.receiver (some session) := by
  obtain ⟨session, given, link⟩ := hosts.running found runs
  have there := hosts.getElem?_sockets index
  rw [found, Option.map_some] at there
  have set : (installations.set index { installation with stopped := true }).map self.socket =
      world.sockets.set index (self.socket { installation with stopped := true }) := by
    rw [List.map_set, hosts.sockets]
  rw [set]
  by_cases closes : self.closes = true
  · obtain ⟨calls, stops⟩ := Bool.and_eq_true_iff.mp closes
    have opened : openSocket world.sockets index = some (self.socket installation) :=
      openSocket_eq_some.mpr ⟨there, by rw [Receiving.socket, runs, Bool.and_false]⟩
    have closed : destroySocket world.sockets index =
        some (world.sockets.set index (self.socket { installation with stopped := true })) := by
      simp [destroySocket, opened, Receiving.socket, closes]
    obtain ⟨stopped, done, kept⟩ := perform_refines represents
      (.stop stops given link closed : Meaning ns3 self.kind _ _ _ _)
    exact ⟨stopped, _, by rw [if_pos calls]; exact eq_some_of_done done, kept, _,
      Function.update_self .., rfl, rfl, rfl⟩
  · have shut : self.socket { installation with stopped := true } = self.socket installation := by
      simp [Receiving.socket, closes]
    have restored : world.sockets.set index (self.socket installation) = world.sockets := by
      obtain ⟨inside, same⟩ := List.getElem?_eq_some_iff.mp there
      exact same ▸ List.set_getElem_self inside
    have goesOn : (if self.stopsReceiver then process.stop self.kind installation.receiver
        else some process) = some process := by
      split
      · next calls =>
          have empty : self.kind.stops = false := by
            simpa [Receiving.closes, calls] using closes
          simp [State.stop, empty]
      · rfl
    exact ⟨process, world, goesOn, represents, session, given, by rw [shut, restored], rfl,
      (Function.update_eq_self_iff.mpr given.symm).symm⟩

/-- `StopApplication` can be run as long as the application runs. -/
theorem stopApplication_hosts (ns3 : PacketSockets Frame) (represents : Represents process world)
    (hosts : Hosts self world installations) {index : Nat} {installation : Installation}
    (found : installations[index]? = some installation) (runs : installation.stopped = false) :
    ∃ after next, self.stopApplication process installation.receiver = some after ∧
      Represents after next ∧
      Hosts self next (installations.set index { installation with stopped := true }) := by
  obtain ⟨session, given, link⟩ := hosts.running found runs
  obtain ⟨stopped, next, stopping, kept, other, present, sockets, same, sessions⟩ :=
    stop_hosts ns3 represents hosts found runs
  obtain ⟨after, done, final⟩ := perform_refines kept
    (.destroy present : Meaning ns3 self.kind _ _ _ _)
  have destroying : stopped.destroy installation.receiver = some after := eq_some_of_done done
  refine ⟨after, _, ?_, final, hosts.stop found runs sockets same ?_⟩
  · have composed : self.stopApplication process installation.receiver =
        (if self.stopsReceiver then process.stop self.kind installation.receiver
          else some process).bind fun process => process.destroy installation.receiver := by
      rw [Receiving.stopApplication]
      split <;> rfl
    rw [composed, stopping, Option.bind_some, destroying]
  · rw [World.setSession, sessions, Function.update_idem]

/-- A simulation in which things have happened. -/
def Reached (self : Receiving Subscriber Frame Note) (simulation : Simulation Subscriber Frame)
    (happenings : List (Happening Frame)) : Prop :=
  ∃ world, Represents simulation.process world ∧ Hosts self world simulation.installations ∧
    simulation.installations.map Installation.toInstalled = installed happenings

theorem reached_initial :
    Reached self (Simulation.initial : Simulation Subscriber Frame) [] :=
  ⟨.initial, represents_initial, ⟨rfl, by simp [Simulation.initial], by simp [Simulation.initial],
    by simp [Simulation.initial]⟩, rfl⟩

theorem installed_concat (happenings : List (Happening Frame)) (happening : Happening Frame) :
    installed (happenings ++ [happening]) = Installed.after (installed happenings) happening := by
  rw [installed, List.foldl_append]
  rfl

theorem modify_installed {index : Nat} {installation : Installation}
    (found : installations[index]? = some installation) :
    (installations.map Installation.toInstalled).modify index
        (fun installed => { installed with stopped := true }) =
      (installations.set index { installation with stopped := true }).map
        Installation.toInstalled := by
  obtain ⟨inside, same⟩ := List.getElem?_eq_some_iff.mp found
  rw [List.modify_eq_set_getElem? , List.map_set]
  simp [found]

theorem exists_fails_iff {before : List (Happening Frame)} {node : Nat} {frame : Frame}
    (same : installations.map Installation.toInstalled = installed before) :
    (∃ installation ∈ installations, self.Fails ns3 node frame installation.toInstalled) ↔
      ∃ application ∈ installed before, self.Fails ns3 node frame application := by
  simp [← same]

/-- What is borne happens. -/
theorem step_reached (serves : ns3.Serves self.kind.size) {simulation : Simulation Subscriber Frame}
    {before : List (Happening Frame)} {happening : Happening Frame}
    (reached : Reached self simulation before) (borne : self.Bears ns3 before happening) :
    ∃ next heard, Simulation.step ns3 self simulation happening = some (next, heard) ∧
      Reached self next (before ++ [happening]) := by
  obtain ⟨world, represents, hosts, same⟩ := reached
  cases happening with
  | startApplication node =>
      obtain ⟨after, next, started, kept, hosted⟩ :=
        startApplication_hosts ns3 represents hosts node
      refine ⟨⟨after, simulation.installations ++ [⟨⟨node, false⟩, world.next⟩]⟩, [], ?_, next,
        kept, hosted, ?_⟩
      · rw [Simulation.step, started]
        rfl
      · rw [installed_concat, Installed.after, ← same, List.map_append]
        rfl
  | stopApplication application =>
      rw [Simulation.step]
      cases found : simulation.installations[application]? with
      | none =>
          refine ⟨simulation, [], rfl, world, represents, hosts, ?_⟩
          rw [installed_concat, Installed.after, ← same, List.modify_eq_self]
          simpa using found
      | some installation =>
          have modified := modify_installed found
          rw [same] at modified
          cases runs : installation.stopped with
          | true =>
              obtain ⟨inside, equal⟩ := List.getElem?_eq_some_iff.mp found
              have kept : simulation.installations.set application
                  { installation with stopped := true } = simulation.installations := by
                rw [← runs]
                exact equal ▸ List.set_getElem_self inside
              refine ⟨simulation, [], by simp [runs], world, represents, hosts, ?_⟩
              rw [installed_concat, Installed.after, modified, kept]
          | false =>
              obtain ⟨after, next, stopped, kept, hosted⟩ :=
                stopApplication_hosts ns3 represents hosts found runs
              refine ⟨⟨after, _⟩, [], by simp [runs, stopped], next, kept, hosted, ?_⟩
              rw [installed_concat, Installed.after, modified]
  | frame node frame =>
      obtain ⟨next, heard, arrived, hosted⟩ := (hosts.arrive serves node frame).goesOn
        ((exists_fails_iff same).not.mpr (by simpa [Receiving.Bears] using borne))
      obtain ⟨after, done, kept⟩ := (arrive_agree represents node frame).exists_of_eq_some arrived
      refine ⟨⟨after, simulation.installations⟩, heard, ?_, next, kept, hosted, ?_⟩
      · rw [Simulation.step, done]
        rfl
      · rw [installed_concat]
        exact same

/-- What is not borne fails. -/
theorem step_refused (serves : ns3.Serves self.kind.size) {simulation : Simulation Subscriber Frame}
    {before : List (Happening Frame)} {happening : Happening Frame}
    (reached : Reached self simulation before) (fails : ¬ self.Bears ns3 before happening) :
    Simulation.step ns3 self simulation happening = none := by
  obtain ⟨world, represents, hosts, same⟩ := reached
  cases happening with
  | startApplication node => exact absurd trivial fails
  | stopApplication application => exact absurd trivial fails
  | frame node frame =>
      have refused := (hosts.arrive serves node frame).refused
        ((exists_fails_iff same).mpr (by simpa [Receiving.Bears] using fails))
      rw [Simulation.step, (arrive_agree represents node frame).eq_none_iff.mpr refused]
      rfl

/-- Applications are started and stopped on any nodes, and frames arrive at them, in any order: no
memory is touched that was freed and no frame is asked for in vain, exactly if every frame that
arrives is borne. -/
theorem runAll_step_ne_none_iff (serves : ns3.Serves self.kind.size)
    (happenings : List (Happening Frame)) :
    runAll (Simulation.step ns3 self) Simulation.initial happenings ≠ none ↔
      ∀ before happening rest, happenings = before ++ happening :: rest →
        self.Bears ns3 before happening :=
  @runAll_ne_none_iff _ _ _ (Simulation.step ns3 self) _ _ (self.Bears ns3)
    (fun _ _ _ => step_reached serves) (fun _ _ _ => step_refused serves) _ reached_initial
    happenings

end Runs

/-! ## The two classes -/

/-- Every frame that arrives is dropped, or every application that was started on its node runs
still and has room for it. -/
def AllBorne (ns3 : PacketSockets Arrival) (happenings : List (Happening Arrival)) : Prop :=
  ∀ before node frame rest, happenings = before ++ .frame node frame :: rest →
    (ns3.enqueue [] frame).isSome → ∀ application ∈ installed before, application.node = node →
      application.stopped = false ∧ frame.numbytes ≤ ethBufferLength

theorem allBorne_iff {ns3 : PacketSockets Arrival} {self : Receiving Subscriber Arrival Note}
    (size : self.kind.size = Arrival.numbytes) (stays : self.closes = false)
    {happenings : List (Happening Arrival)} :
    (∀ before happening rest, happenings = before ++ happening :: rest →
        self.Bears ns3 before happening) ↔ AllBorne ns3 happenings := by
  have fails_iff : ∀ {node frame application}, ¬ self.Fails ns3 node frame application ↔
      ((ns3.enqueue [] frame).isSome → application.node = node →
        application.stopped = false ∧ frame.numbytes ≤ ethBufferLength) := by
    intro node frame application
    rw [Receiving.Fails, size, stays]
    by_cases room : (ns3.enqueue [] frame).isSome
    · cases application.stopped <;> simp [room]
    · simp [room]
  constructor
  · intro borne before node frame rest split room application member
    exact fails_iff.mp (borne before _ rest split application member) room
  · intro borne before happening rest split
    cases happening with
    | frame node frame =>
        intro application member
        exact fails_iff.mpr fun room => borne before node frame rest split room application member
    | startApplication _ => trivial
    | stopApplication _ => trivial

/-- Neither class closes its socket: `GooseReceiver_stop` is empty, and `SVReceiver_stop` is not
called. A run touches no freed memory and asks for no frame in vain exactly if no frame that is not
dropped arrives at a node on which an application was stopped, or is longer than the buffer of one
that runs there. -/
theorem applications_defined_iff {ns3 : PacketSockets Arrival}
    (serves : ns3.Serves Arrival.numbytes) (happenings : List (Happening Arrival)) :
    (runAll (Simulation.step ns3 gooseReceiver) Simulation.initial happenings ≠ none ↔
      AllBorne ns3 happenings) ∧
    (runAll (Simulation.step ns3 svSubscriber) Simulation.initial happenings ≠ none ↔
      AllBorne ns3 happenings) :=
  ⟨(runAll_step_ne_none_iff serves happenings).trans (allBorne_iff rfl rfl),
    (runAll_step_ne_none_iff serves happenings).trans (allBorne_iff rfl rfl)⟩

/-- A frame of 60 octets is borne while the application runs, and not after it was stopped. -/
theorem applications_defined_iff_stopped :
    let ns3 := PacketSockets.bounded Arrival.numbytes 131072
    let frame : Arrival := ⟨fun _ => 0, 60, 0⟩
    runAll (Simulation.step ns3 gooseReceiver) Simulation.initial
        [.startApplication 0, .frame 0 frame, .stopApplication 0] ≠ none ∧
      runAll (Simulation.step ns3 svSubscriber) Simulation.initial
        [.startApplication 0, .stopApplication 0, .frame 0 frame] = none := by
  intro ns3 frame
  have serves := PacketSockets.serves_bounded Arrival.numbytes 131072
  constructor
  · refine (applications_defined_iff serves _).1.mpr fun before node other rest split _ => ?_
    simp only [List.cons_eq_append_iff, List.nil_eq_append_iff, List.cons.injEq, reduceCtorEq,
      Happening.frame.injEq, false_and, and_false, false_or, or_false, exists_false] at split
    obtain ⟨_, rfl, rfl, ⟨rfl, rfl⟩, _⟩ := split
    intro application member _
    obtain rfl := List.mem_singleton.mp member
    exact ⟨rfl, by decide⟩
  · by_contra runs
    have borne := (applications_defined_iff serves _).2.mp runs
      [.startApplication 0, .stopApplication 0] 0 frame [] rfl rfl ⟨0, true⟩ (by decide) rfl
    exact Bool.false_ne_true borne.1.symm

end GridGooseSV.Ns3
