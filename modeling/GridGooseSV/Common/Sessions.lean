import GridGooseSV.Common.Receivers
import GridGooseSV.Foundation.Ownership
import Mathlib.Data.List.Perm.Subperm

/-!
# Sessions of receivers

What receivers are for: each has a list of subscribers of its own, and listens to one socket or to
none. As long as a program uses them so, no memory is touched that is not allocated, and all that is
allocated belongs to a receiver or is a subscriber that has none.
-/

namespace GridGooseSV

namespace Receivers

variable {Subscriber Frame Note : Type}

/-- Whether a receiver listens to a socket. -/
inductive Link
  | idle
  | running (ethSocket : Nat)
  | stopped
  deriving DecidableEq, Repr

/-- A receiver: its subscribers in their order, with their addresses, and its socket. -/
structure Session (Subscriber : Type) where
  subscribers : List (Nat × Subscriber)
  interfaceId : Option Nat
  link : Link

/-- The receivers there are, and the subscribers that stand in no list. -/
structure Registry (Subscriber : Type) where
  loose : Nat → Option Subscriber
  sessions : Nat → Option (Session Subscriber)

/-- The process with its receivers. -/
abbrev World (Subscriber Frame : Type) := Process (Registry Subscriber) Frame

/-- The subscribers of a receiver, and none of what is no receiver. -/
def Registry.listed (registry : Registry Subscriber) (receiver : Nat) : List (Nat × Subscriber) :=
  ((registry.sessions receiver).map Session.subscribers).getD []

namespace World

/-- Another session of a receiver. -/
def setSession (world : World Subscriber Frame) (receiver : Nat)
    (session : Option (Session Subscriber)) : World Subscriber Frame :=
  { world with memory.sessions := Function.update world.memory.sessions receiver session }

/-- Another subscriber that stands in no list, or none at an address. -/
def setLoose (world : World Subscriber Frame) (address : Nat) (subscriber : Option Subscriber) :
    World Subscriber Frame :=
  { world with memory.loose := Function.update world.memory.loose address subscriber }

/-- The subscribers of a receiver as a frame leaves them. -/
def parseMessage (kind : Kind Subscriber Frame Note) (world : World Subscriber Frame) (self : Nat)
    (frame : Frame) : Option (World Subscriber Frame × List (Nat × List Note)) := do
  let session ← world.memory.sessions self
  let (after, heard) := kind.parse (session.subscribers.map Prod.snd) frame
  some (world.setSession self (some { session with
    subscribers := (session.subscribers.map Prod.fst).zip after }), [(self, heard)])

/-- A receiver takes a frame from the socket that it listens to. -/
def tick (ns3 : PacketSockets Frame) (kind : Kind Subscriber Frame Note)
    (world : World Subscriber Frame) (self : Nat) :
    Option (World Subscriber Frame × List (Nat × List Note)) := do
  let session ← world.memory.sessions self
  match session.link with
  | .running ethSocket => do
    let (sockets, frame) ← receivePacket ns3 world.sockets ethSocket ethBufferLength
    if 0 < kind.size frame then parseMessage kind { world with sockets := sockets } self frame
    else some ({ world with sockets := sockets }, [])
  | _ => none

/-- Nothing was created so far. -/
def initial : World Subscriber Frame where
  memory := { loose := fun _ => none, sessions := fun _ => none }
  sockets := []
  next := 0

end World

theorem World.parseMessage_eq {kind : Kind Subscriber Frame Note} {world : World Subscriber Frame}
    {self : Nat} {session : Session Subscriber} (found : world.memory.sessions self = some session)
    (frame : Frame) :
    world.parseMessage kind self frame =
      some (world.setSession self (some { session with
        subscribers := (session.subscribers.map Prod.fst).zip
          (kind.parse (session.subscribers.map Prod.snd) frame).1 }),
        [(self, (kind.parse (session.subscribers.map Prod.snd) frame).2)]) := by
  rw [World.parseMessage, found]
  rfl

/-- A receiver that listens to a new socket of its node. -/
def World.listening (world : World Subscriber Frame) (self node : Nat)
    (session : Session Subscriber) (callback : Option Nat) : World Subscriber Frame :=
  { world.setSession self (some { session with link := .running world.sockets.length }) with
    sockets := world.sockets ++
      [{ node := node, closed := false, deliveryQueue := [], callback := callback }] }

/-- What a call means. A reference is to a receiver or a subscriber that is not destroyed; a
subscriber is added to one list at a time and is not destroyed as long as it is in one; a receiver
is started if it has an interface and does not listen yet, and `stopThreadless` is called if it
listens or was never started; a receiver that is called for a frame listens and is given one. -/
inductive Meaning (ns3 : PacketSockets Frame) (kind : Kind Subscriber Frame Note) :
    World Subscriber Frame → Call Subscriber Frame → World Subscriber Frame → Answer Note → Prop
  | createSubscriber {world : World Subscriber Frame} (subscriber : Subscriber) :
      Meaning ns3 kind world (.createSubscriber subscriber)
        { world.setLoose world.next (some subscriber) with next := world.next + 1 }
        (.address world.next)
  | changeLoose {world : World Subscriber Frame} {self : Nat} {subscriber : Subscriber}
      (found : world.memory.loose self = some subscriber) (change : Subscriber → Subscriber) :
      Meaning ns3 kind world (.changeSubscriber self change)
        (world.setLoose self (some (change subscriber))) .done
  | changeListed {world : World Subscriber Frame} {self receiver : Nat}
      {session : Session Subscriber} {subscriber : Subscriber}
      {front back : List (Nat × Subscriber)}
      (found : world.memory.sessions receiver = some session)
      (split : session.subscribers = front ++ (self, subscriber) :: back)
      (change : Subscriber → Subscriber) :
      Meaning ns3 kind world (.changeSubscriber self change)
        (world.setSession receiver (some { session with
          subscribers := front ++ (self, change subscriber) :: back })) .done
  | destroySubscriber {world : World Subscriber Frame} {self : Nat} {subscriber : Subscriber}
      (found : world.memory.loose self = some subscriber) :
      Meaning ns3 kind world (.destroySubscriber self) (world.setLoose self none) .done
  | create {world : World Subscriber Frame} :
      Meaning ns3 kind world .create
        { world.setSession world.next
            (some { subscribers := [], interfaceId := none, link := .idle }) with
          next := world.next + 2 }
        (.address world.next)
  | addSubscriber {world : World Subscriber Frame} {self address : Nat}
      {session : Session Subscriber} {subscriber : Subscriber}
      (found : world.memory.sessions self = some session)
      (given : world.memory.loose address = some subscriber) :
      Meaning ns3 kind world (.addSubscriber self address)
        { (world.setLoose address none).setSession self (some { session with
            subscribers := session.subscribers ++ [(address, subscriber)] }) with
          next := world.next + 1 } .done
  | removeSubscriber {world : World Subscriber Frame} {self address : Nat}
      {session : Session Subscriber} {subscriber : Subscriber}
      {front back : List (Nat × Subscriber)}
      (found : world.memory.sessions self = some session)
      (split : session.subscribers = front ++ (address, subscriber) :: back) :
      Meaning ns3 kind world (.removeSubscriber self address)
        ((world.setLoose address (some subscriber)).setSession self
          (some { session with subscribers := front ++ back })) .done
  | removeOther {world : World Subscriber Frame} {self address : Nat}
      {session : Session Subscriber} (found : world.memory.sessions self = some session)
      (absent : address ∉ session.subscribers.map Prod.fst) :
      Meaning ns3 kind world (.removeSubscriber self address) world .done
  | setInterfaceId {world : World Subscriber Frame} {self : Nat} {session : Session Subscriber}
      (found : world.memory.sessions self = some session) (node : Nat) :
      Meaning ns3 kind world (.setInterfaceId self node)
        (world.setSession self (some { session with interfaceId := some node })) .done
  | startThreadless {world : World Subscriber Frame} {self node : Nat}
      {session : Session Subscriber} (found : world.memory.sessions self = some session)
      (interface : session.interfaceId = some node)
      (quiet : ∀ ethSocket, session.link ≠ .running ethSocket) :
      Meaning ns3 kind world (.startThreadless self) (world.listening self node session none) .done
  | start {world : World Subscriber Frame} {self node : Nat} {session : Session Subscriber}
      (found : world.memory.sessions self = some session)
      (interface : session.interfaceId = some node)
      (quiet : ∀ ethSocket, session.link ≠ .running ethSocket) :
      Meaning ns3 kind world (.start self) (world.listening self node session (some self)) .done
  | stopThreadless {world : World Subscriber Frame} {self ethSocket : Nat}
      {session : Session Subscriber} {sockets : Sockets Frame}
      (found : world.memory.sessions self = some session)
      (listens : session.link = .running ethSocket)
      (closed : destroySocket world.sockets ethSocket = some sockets) :
      Meaning ns3 kind world (.stopThreadless self)
        { world.setSession self (some { session with link := .stopped }) with
          sockets := sockets } .done
  | stopThreadlessIdle {world : World Subscriber Frame} {self : Nat}
      {session : Session Subscriber} (found : world.memory.sessions self = some session)
      (idle : session.link = .idle) :
      Meaning ns3 kind world (.stopThreadless self) world .done
  | stopNothing {world : World Subscriber Frame} {self : Nat} (empty : kind.stops = false) :
      Meaning ns3 kind world (.stop self) world .done
  | stopQuiet {world : World Subscriber Frame} {self : Nat} {session : Session Subscriber}
      (found : world.memory.sessions self = some session)
      (quiet : ∀ ethSocket, session.link ≠ .running ethSocket) :
      Meaning ns3 kind world (.stop self) world .done
  | stop {world : World Subscriber Frame} {self ethSocket : Nat}
      {session : Session Subscriber} {sockets : Sockets Frame} (stops : kind.stops = true)
      (found : world.memory.sessions self = some session)
      (listens : session.link = .running ethSocket)
      (closed : destroySocket world.sockets ethSocket = some sockets) :
      Meaning ns3 kind world (.stop self)
        { world.setSession self (some { session with link := .stopped }) with
          sockets := sockets } .done
  | destroy {world : World Subscriber Frame} {self : Nat} {session : Session Subscriber}
      (found : world.memory.sessions self = some session) :
      Meaning ns3 kind world (.destroy self) (world.setSession self none) .done
  | tick {world final : World Subscriber Frame} {self : Nat} {heard : List (Nat × List Note)}
      (taken : world.tick ns3 kind self = some (final, heard)) :
      Meaning ns3 kind world (.tick self) final (.heard heard)
  | handleMessage {world final : World Subscriber Frame} {self : Nat} {frame : Frame}
      {heard : List (Nat × List Note)}
      (parsed : world.parseMessage kind self frame = some (final, heard)) :
      Meaning ns3 kind world (.handleMessage self frame) final (.heard heard)
  | frame {world final : World Subscriber Frame} {node : Nat} {frame : Frame}
      {heard : List (Nat × List Note)}
      (arrived : arrive ns3 (World.tick ns3 kind) node frame world = some (final, heard)) :
      Meaning ns3 kind world (.frame node frame) final (.heard heard)

/-- What calls mean, one after another. -/
inductive Meanings (ns3 : PacketSockets Frame) (kind : Kind Subscriber Frame Note) :
    World Subscriber Frame → List (Call Subscriber Frame) → World Subscriber Frame →
    List (Answer Note) → Prop
  | nil {world : World Subscriber Frame} : Meanings ns3 kind world [] world []
  | cons {world next final : World Subscriber Frame} {call : Call Subscriber Frame}
      {calls : List (Call Subscriber Frame)} {answer : Answer Note}
      {answers : List (Answer Note)} (first : Meaning ns3 kind world call next answer)
      (rest : Meanings ns3 kind next calls final answers) :
      Meanings ns3 kind world (call :: calls) final (answer :: answers)

/-! ## Who is called -/

/-- What may be done with a socket: an open one may call a receiver. -/
inductive Status
  | unused
  | closed
  | opened (callback : Option Nat)
  deriving DecidableEq, Repr

/-- What may be done with each socket. -/
def calls (sockets : Sockets Frame) (ethSocket : Nat) : Status :=
  match sockets[ethSocket]? with
  | none => .unused
  | some socket => if socket.closed then .closed else .opened socket.callback

/-- The receivers there are, with the node and the socket of each. -/
def Registry.links (registry : Registry Subscriber) (receiver : Nat) :
    Option (Option Nat × Link) :=
  (registry.sessions receiver).map fun session => (session.interfaceId, session.link)

/-- What a receiver keeps of its socket. -/
def Listens (calls : Nat → Status) (receiver : Receiver) : Link → Prop
  | .idle => receiver.running = false ∧ receiver.ethSocket = none
  | .running ethSocket => receiver.running = true ∧ receiver.ethSocket = some ethSocket
  | .stopped => receiver.running = false ∧
    ∃ ethSocket, receiver.ethSocket = some ethSocket ∧ calls ethSocket = .closed

/-- Every receiver listens to a socket of its own, and a socket calls no other receiver that is not
destroyed. -/
structure Listening (receivers : Nat → Option Receiver)
    (links : Nat → Option (Option Nat × Link)) (calls : Nat → Status) (next : Nat) : Prop where
  interface : ∀ self, (receivers self).map Receiver.interfaceId = (links self).map Prod.fst
  listens : ∀ {self receiver interfaceId link}, receivers self = some receiver →
    links self = some (interfaceId, link) → Listens calls receiver link
  opened : ∀ {self interfaceId ethSocket}, links self = some (interfaceId, .running ethSocket) →
    ∃ callback, calls ethSocket = .opened callback
  sole : ∀ {one two interfaceId other ethSocket},
    links one = some (interfaceId, .running ethSocket) →
    links two = some (other, .running ethSocket) → one = two
  called : ∀ {ethSocket self}, calls ethSocket = .opened (some self) → self < next ∧
    ∀ {interfaceId link}, links self = some (interfaceId, link) → link = .running ethSocket

section Sockets

variable {sockets after : Sockets Frame} {ethSocket node : Nat} {socket : EthernetSocket Frame}

theorem openSocket_eq_some :
    openSocket sockets ethSocket = some socket ↔
      sockets[ethSocket]? = some socket ∧ socket.closed = false := by
  rw [openSocket, Option.bind_eq_bind, Option.bind_eq_some_iff]
  constructor
  · rintro ⟨found, there, same⟩
    split at same
    · contradiction
    · next shut =>
        obtain rfl := Option.some.inj same
        exact ⟨there, Bool.eq_false_iff.mpr shut⟩
  · rintro ⟨there, shut⟩
    exact ⟨socket, there, by simp [shut]⟩

theorem calls_set (found : sockets[ethSocket]? = some socket) (other : EthernetSocket Frame) :
    calls (sockets.set ethSocket other) = Function.update (calls sockets) ethSocket
      (if other.closed then .closed else .opened other.callback) := by
  have inside := (List.getElem?_eq_some_iff.mp found).1
  funext query
  by_cases same : query = ethSocket
  · subst same
    simp [calls, inside]
  · rw [Function.update_of_ne same, calls, calls, List.getElem?_set_ne (Ne.symm same)]

/-- A socket with another queue calls the same receiver. -/
theorem calls_setQueue (found : sockets[ethSocket]? = some socket) (deliveryQueue : List Frame) :
    calls (sockets.set ethSocket { socket with deliveryQueue := deliveryQueue }) =
      calls sockets := by
  rw [calls_set found]
  apply Function.update_eq_self_iff.mpr
  rw [calls, found]

theorem calls_receivePacket {ns3 : PacketSockets Frame} {bufferSize : Nat} {frame : Frame}
    (received : receivePacket ns3 sockets ethSocket bufferSize = some (after, frame)) :
    calls after = calls sockets := by
  obtain ⟨socket, opened, rest⟩ := Option.bind_eq_some_iff.mp received
  obtain ⟨_, _, same⟩ := Option.bind_eq_some_iff.mp rest
  obtain ⟨rfl, _⟩ := Prod.mk.inj (Option.some.inj same)
  exact calls_setQueue (openSocket_eq_some.mp opened).1 _

theorem calls_length (sockets : Sockets Frame) : calls sockets sockets.length = .unused := by
  simp [calls]

theorem calls_concat (sockets : Sockets Frame) (socket : EthernetSocket Frame) :
    calls (sockets ++ [socket]) = Function.update (calls sockets) sockets.length
      (if socket.closed then .closed else .opened socket.callback) := by
  funext query
  by_cases same : query = sockets.length
  · subst same
    simp [calls]
  · have kept : (sockets ++ [socket])[query]? = sockets[query]? := by
      rw [List.getElem?_append]
      by_cases inside : query < sockets.length
      · rw [if_pos inside]
      · rw [if_neg inside, List.getElem?_eq_none (by simp; omega),
          List.getElem?_eq_none (by omega)]
    rw [Function.update_of_ne same, calls, calls, kept]

theorem calls_destroySocket (destroyed : destroySocket sockets ethSocket = some after) :
    calls after = Function.update (calls sockets) ethSocket .closed := by
  obtain ⟨socket, opened, rest⟩ := Option.bind_eq_some_iff.mp destroyed
  obtain rfl := Option.some.inj rest
  rw [calls_set (openSocket_eq_some.mp opened).1]
  rfl

/-- The socket that a receiver has created calls it. -/
theorem setRecvCallback_createSocket (sockets : Sockets Frame) (node receiver : Nat) :
    setRecvCallback (createSocket sockets node).1 sockets.length receiver =
      some (sockets ++ [{ node := node, closed := false, deliveryQueue := [],
                          callback := some receiver }]) := by
  simp [setRecvCallback, openSocket, createSocket]

/-- A socket that is closed was deleted. -/
theorem openSocket_of_closed (shut : calls sockets ethSocket = .closed) :
    openSocket sockets ethSocket = none := by
  rw [calls] at shut
  rw [openSocket]
  split at shut
  · contradiction
  · next socket found =>
      split at shut
      · next closed => simp [found, closed]
      · contradiction

end Sockets

namespace Listening

variable {receivers : Nat → Option Receiver} {links : Nat → Option (Option Nat × Link)}
  {calls : Nat → Status} {next self : Nat} {receiver : Receiver}
  {interfaceId : Option Nat} {link : Link}

theorem later (listening : Listening receivers links calls next) {after : Nat}
    (least : next ≤ after) : Listening receivers links calls after :=
  { listening with called := fun called =>
      ⟨Nat.lt_of_lt_of_le (listening.called called).1 least, (listening.called called).2⟩ }

/-- A receiver is there exactly if it has a session. -/
theorem exists_receiver (listening : Listening receivers links calls next)
    (linked : links self = some (interfaceId, link)) :
    ∃ receiver, receivers self = some receiver ∧ receiver.interfaceId = interfaceId ∧
      Listens calls receiver link := by
  have same := listening.interface self
  rw [linked, Option.map_some] at same
  obtain ⟨receiver, found, interface⟩ := Option.map_eq_some_iff.mp same
  exact ⟨receiver, found, interface, listening.listens found linked⟩

theorem eq_none (listening : Listening receivers links calls next) (free : links self = none) :
    receivers self = none := by
  have same := listening.interface self
  rwa [free, Option.map_none, Option.map_eq_none_iff] at same

theorem empty : Listening (fun _ => none) (fun _ => none) (fun _ => .unused) next where
  interface _ := rfl
  listens found := nomatch found
  opened linked := nomatch linked
  sole linked := nomatch linked
  called opened := nomatch opened

/-- A receiver gets another state. -/
theorem update (listening : Listening receivers links calls next) {after : Nat → Status}
    (receiver : Receiver) (link : Link) (listens : Listens after receiver link)
    (shut : ∀ ethSocket, calls ethSocket = .closed → after ethSocket = .closed)
    (opened : ∀ ethSocket, link = .running ethSocket →
      ∃ callback, after ethSocket = .opened callback)
    (still : ∀ other, other ≠ self → ∀ {interfaceId ethSocket},
      links other = some (interfaceId, .running ethSocket) →
        after ethSocket = calls ethSocket ∧ link ≠ .running ethSocket)
    (called : ∀ {ethSocket query}, after ethSocket = .opened (some query) → query < next ∧
      (query = self → link = .running ethSocket) ∧ (query ≠ self → ∀ {interfaceId found},
        links query = some (interfaceId, found) → found = .running ethSocket)) :
    Listening (Function.update receivers self (some receiver))
      (Function.update links self (some (receiver.interfaceId, link))) after next where
  interface query := by
    by_cases same : query = self
    · subst same
      simp
    · simp [Function.update_of_ne same, listening.interface query]
  listens {query found interfaceId other} given linked := by
    by_cases same : query = self
    · subst same
      rw [Function.update_self] at given linked
      obtain rfl := Option.some.inj given
      obtain ⟨_, rfl⟩ := Prod.mk.inj (Option.some.inj linked)
      exact listens
    · rw [Function.update_of_ne same] at given linked
      have before := listening.listens given linked
      cases other with
      | idle => exact before
      | running ethSocket => exact before
      | stopped =>
          obtain ⟨resting, ethSocket, kept, closed⟩ := before
          exact ⟨resting, ethSocket, kept, shut ethSocket closed⟩
  opened {query interfaceId ethSocket} linked := by
    by_cases same : query = self
    · subst same
      rw [Function.update_self] at linked
      exact opened ethSocket (Prod.mk.inj (Option.some.inj linked)).2
    · rw [Function.update_of_ne same] at linked
      rw [(still query same linked).1]
      exact listening.opened linked
  sole {one two interfaceId other ethSocket} first second := by
    by_cases left : one = self <;> by_cases right : two = self
    · exact left.trans right.symm
    · rw [left, Function.update_self] at first
      rw [Function.update_of_ne right] at second
      exact absurd (Prod.mk.inj (Option.some.inj first)).2 (still two right second).2
    · rw [right, Function.update_self] at second
      rw [Function.update_of_ne left] at first
      exact absurd (Prod.mk.inj (Option.some.inj second)).2 (still one left first).2
    · rw [Function.update_of_ne left] at first
      rw [Function.update_of_ne right] at second
      exact listening.sole first second
  called {ethSocket query} there := by
    obtain ⟨before, own, others⟩ := called there
    refine ⟨before, fun {interfaceId found} linked => ?_⟩
    by_cases same : query = self
    · subst same
      rw [Function.update_self] at linked
      exact (Prod.mk.inj (Option.some.inj linked)).2 ▸ own rfl
    · rw [Function.update_of_ne same] at linked
      exact others same linked

/-- A receiver gets another node or another list. -/
theorem keep (listening : Listening receivers links calls next)
    (linked : links self = some (interfaceId, link)) (found : receivers self = some receiver)
    {after : Receiver} (running : after.running = receiver.running)
    (ethSocket : after.ethSocket = receiver.ethSocket) :
    Listening (Function.update receivers self (some after))
      (Function.update links self (some (after.interfaceId, link))) calls next := by
  have before := listening.listens found linked
  refine listening.update after link ?_ (fun _ => id)
    (fun socket same => listening.opened (same ▸ linked)) (fun other differ _ socket there => ?_)
    fun {socket query} there => ?_
  · cases link <;> simp only [Listens, running, ethSocket] at before ⊢ <;> exact before
  · refine ⟨rfl, fun same => differ ?_⟩
    exact listening.sole there (same ▸ linked)
  · obtain ⟨bounded, own⟩ := listening.called there
    exact ⟨bounded, fun same => own (same ▸ linked), fun _ => own⟩

/-- A new receiver does not listen. -/
theorem create (listening : Listening receivers links calls next) (subscriberList : Nat) :
    Listening
      (Function.update receivers next
        (some { running := false, interfaceId := none, ethSocket := none,
                subscriberList := subscriberList }))
      (Function.update links next (some (none, .idle))) calls (next + 2) := by
  refine (listening.later (Nat.le_add_right next 2)).update
    { running := false, interfaceId := none, ethSocket := none, subscriberList := subscriberList }
    .idle ⟨rfl, rfl⟩ (fun _ => id) (fun socket same => nomatch same)
    (fun other differ _ socket there => ⟨rfl, by simp⟩) fun {socket query} there => ?_
  obtain ⟨bounded, own⟩ := listening.called there
  exact ⟨by omega, fun same => by omega, fun _ => own⟩

/-- A receiver listens to a new socket. -/
theorem listen (listening : Listening receivers links calls next)
    (linked : links self = some (interfaceId, link))
    (quiet : ∀ ethSocket, link ≠ .running ethSocket)
    {ethSocket : Nat} (fresh : calls ethSocket = .unused) (receiver : Receiver)
    (running : receiver.running = true) (kept : receiver.ethSocket = some ethSocket)
    {callback : Option Nat} (own : ∀ query, callback = some query → query = self ∧ query < next) :
    Listening (Function.update receivers self (some receiver))
      (Function.update links self (some (receiver.interfaceId, .running ethSocket)))
      (Function.update calls ethSocket (.opened callback)) next := by
  have apart : ∀ {other socket : Nat} {interfaceId : Option Nat},
      links other = some (interfaceId, .running socket) → socket ≠ ethSocket := by
    intro other socket interfaceId there same
    obtain ⟨callback, opened⟩ := listening.opened there
    rw [same, fresh] at opened
    contradiction
  refine listening.update receiver (.running ethSocket) ⟨running, kept⟩ (fun socket shut => ?_) ?_
    (fun other differ _ socket there => ?_) fun {socket query} there => ?_
  · have differ : socket ≠ ethSocket := fun same => by simp [same, fresh] at shut
    rwa [Function.update_of_ne differ]
  · rintro socket ⟨⟩
    exact ⟨callback, Function.update_self ..⟩
  · exact ⟨Function.update_of_ne (apart there) .., fun same =>
      apart there (Link.running.inj same).symm⟩
  · by_cases same : socket = ethSocket
    · subst same
      rw [Function.update_self] at there
      obtain ⟨rfl, bounded⟩ := own query (Status.opened.inj there)
      exact ⟨bounded, fun _ => rfl, fun differ => absurd rfl differ⟩
    · rw [Function.update_of_ne same] at there
      obtain ⟨bounded, only⟩ := listening.called there
      refine ⟨bounded, fun equal => ?_, fun _ => only⟩
      exact absurd (only (equal ▸ linked)) (quiet socket)

/-- A receiver closes its socket. -/
theorem close (listening : Listening receivers links calls next) {ethSocket : Nat}
    (linked : links self = some (interfaceId, .running ethSocket)) (receiver : Receiver)
    (resting : receiver.running = false) (kept : receiver.ethSocket = some ethSocket) :
    Listening (Function.update receivers self (some receiver))
      (Function.update links self (some (receiver.interfaceId, .stopped)))
      (Function.update calls ethSocket .closed) next := by
  refine listening.update receiver .stopped ⟨resting, ethSocket, kept, Function.update_self ..⟩
    (fun socket shut => ?_) (fun socket same => nomatch same)
    (fun other differ _ socket there => ?_) fun {socket query} there => ?_
  · by_cases same : socket = ethSocket
    · subst same
      exact Function.update_self ..
    · rwa [Function.update_of_ne same]
  · have apart : socket ≠ ethSocket := fun same => differ (listening.sole there (same ▸ linked))
    exact ⟨Function.update_of_ne apart .., by simp⟩
  · have apart : socket ≠ ethSocket := fun same => by simp [same] at there
    rw [Function.update_of_ne apart] at there
    obtain ⟨bounded, only⟩ := listening.called there
    refine ⟨bounded, fun equal => ?_, fun _ => only⟩
    exact absurd (Link.running.inj (only (equal ▸ linked))).symm apart

/-- A receiver is destroyed; its socket stays as it is. -/
theorem destroy (listening : Listening receivers links calls next) (self : Nat) :
    Listening (Function.update receivers self none) (Function.update links self none) calls
      next := by
  have kept : ∀ {query : Nat} {interfaceId : Option Nat} {link : Link},
      Function.update links self none query = some (interfaceId, link) →
        query ≠ self ∧ links query = some (interfaceId, link) := by
    intro query interfaceId link linked
    by_cases same : query = self
    · simp [same] at linked
    · exact ⟨same, by rwa [Function.update_of_ne same] at linked⟩
  refine ⟨fun query => ?_, fun {query _ _ _} found linked => ?_, fun linked =>
    listening.opened (kept linked).2, fun one two => listening.sole (kept one).2 (kept two).2,
    fun called => ⟨(listening.called called).1, fun linked =>
      (listening.called called).2 (kept linked).2⟩⟩
  · by_cases same : query = self
    · simp [same]
    · simp [Function.update_of_ne same, listening.interface query]
  · rw [Function.update_of_ne (kept linked).1] at found
    exact listening.listens found (kept linked).2

end Listening

/-! ## The lists in memory -/

/-- Every receiver has a linked list with the addresses of its subscribers. -/
structure Chained (nodes : LinkedList.Heap Nat Nat) (receivers : Nat → Option Receiver)
    (listed : Nat → List (Nat × Subscriber)) (chains : Nat → List (Nat × Option Nat))
    (next : Nat) : Prop where
  carries : Carries nodes chains
  absent : ∀ {self}, receivers self = none → chains self = []
  chain : ∀ {self receiver}, receivers self = some receiver →
    ∃ cells, chains self = (receiver.subscriberList, none) :: cells ∧
      cells.map Prod.snd = (listed self).map fun entry => some entry.1
  bounded : ∀ address, next ≤ address → nodes address = none

namespace Chained

variable {nodes after : LinkedList.Heap Nat Nat} {receivers : Nat → Option Receiver}
  {listed : Nat → List (Nat × Subscriber)} {chains : Nat → List (Nat × Option Nat)}
  {next self : Nat} {receiver : Receiver}

theorem empty : Chained (fun _ => none) (fun _ => none)
    (fun _ => [] : Nat → List (Nat × Subscriber)) (fun _ => []) next where
  carries := .empty
  absent _ := rfl
  chain found := nomatch found
  bounded _ _ := rfl

/-- The nodes of a list are at addresses that were given away. -/
theorem lt_next (chained : Chained nodes receivers listed chains next) {address : Nat}
    (member : address ∈ (chains self).map Prod.fst) : address < next := by
  by_contra beyond
  have allocated := (chained.carries.owned address).mpr ⟨self, member⟩
  exact allocated (chained.bounded address (Nat.le_of_not_lt beyond))

/-- A list has no more nodes than there are addresses. -/
theorem length_le (chained : Chained nodes receivers listed chains next) (self : Nat) :
    (chains self).length ≤ next := by
  obtain ⟨start, segment⟩ := chained.carries.chained self
  have inside : (chains self).map Prod.fst ⊆ List.range next := fun address member =>
    List.mem_range.mpr (chained.lt_next member)
  have few := (List.subperm_of_subset segment.nodup inside).length_le
  rwa [List.length_map, List.length_range] at few

/-- Where a list is rewritten within a bound, nothing is allocated beyond it. -/
theorem eq_none_of_rewrites (chained : Chained nodes receivers listed chains next)
    {new : List (Nat × Option Nat)} {start entry : Option Nat} {bound : Nat}
    (rewrites : Rewrites nodes after (chains self) new start entry) (least : next ≤ bound)
    (fits : ∀ address ∈ new.map Prod.fst, address < bound) {address : Nat}
    (beyond : bound ≤ address) : after address = none := by
  have unread : address ∉ (chains self).map Prod.fst := fun member => by
    have := chained.lt_next member
    omega
  have unwritten : address ∉ new.map Prod.fst := fun member => by
    have := fits address member
    omega
  rw [rewrites.elsewhere address unread unwritten]
  exact chained.bounded address (Nat.le_trans least beyond)

theorem later (chained : Chained nodes receivers listed chains next) {after : Nat}
    (least : next ≤ after) : Chained nodes receivers listed chains after :=
  { chained with bounded := fun address beyond =>
      chained.bounded address (Nat.le_trans least beyond) }

/-- The list of a receiver, and what it carries. -/
theorem segment (chained : Chained nodes receivers listed chains next)
    (found : receivers self = some receiver) :
    ∃ cells, chains self = (receiver.subscriberList, none) :: cells ∧
      cells.map Prod.snd = (listed self).map (fun entry => some entry.1) ∧
      Segment nodes ((receiver.subscriberList, none) :: cells) (some receiver.subscriberList)
        none ∧ cells.length < next := by
  obtain ⟨cells, chain, carried⟩ := chained.chain found
  have split : chains self = [] ++ (receiver.subscriberList, none) :: cells := chain
  have short := chained.length_le self
  rw [chain, List.length_cons] at short
  exact ⟨cells, chain, carried, chained.carries.segment_behind split, short⟩

/-- A receiver gets another state and keeps its list, whose subscribers stay where they are. -/
theorem keep (chained : Chained nodes receivers listed chains next)
    (found : receivers self = some receiver) (other : Receiver)
    (same : other.subscriberList = receiver.subscriberList)
    {entries : List (Nat × Subscriber)}
    (addresses : entries.map Prod.fst = (listed self).map Prod.fst) :
    Chained nodes (Function.update receivers self (some other))
      (Function.update listed self entries) chains next := by
  refine ⟨chained.carries, fun {query} absent => ?_, fun {query given} there => ?_, chained.bounded⟩
  · by_cases equal : query = self
    · simp [equal] at absent
    · rw [Function.update_of_ne equal] at absent
      exact chained.absent absent
  · by_cases equal : query = self
    · subst equal
      rw [Function.update_self] at there ⊢
      obtain rfl := Option.some.inj there
      obtain ⟨cells, chain, carried⟩ := chained.chain found
      refine ⟨cells, same ▸ chain, carried.trans ?_⟩
      have mapped := congrArg (List.map some) addresses
      simpa only [List.map_map, Function.comp_def] using mapped.symm
    · rw [Function.update_of_ne equal] at there ⊢
      exact chained.chain there

/-- The list of a receiver is rewritten. -/
theorem rewrite (chained : Chained nodes receivers listed chains next)
    (found : receivers self = some receiver) {cells : List (Nat × Option Nat)}
    {start : Option Nat} {bound : Nat}
    (rewrites : Rewrites nodes after (chains self) ((receiver.subscriberList, none) :: cells) start
      (some receiver.subscriberList)) {entries : List (Nat × Subscriber)}
    (carried : cells.map Prod.snd = entries.map fun entry => some entry.1)
    (bounded : ∀ address, bound ≤ address → after address = none) :
    Chained after receivers (Function.update listed self entries)
      (Function.update chains self ((receiver.subscriberList, none) :: cells)) bound := by
  refine ⟨chained.carries.replace rewrites, fun {query} absent => ?_, fun {query given} there => ?_,
    bounded⟩
  · have differ : query ≠ self := fun same => by simp [same, found] at absent
    rw [Function.update_of_ne differ]
    exact chained.absent absent
  · by_cases same : query = self
    · subst same
      obtain rfl := Option.some.inj (found.symm.trans there)
      rw [Function.update_self, Function.update_self]
      exact ⟨cells, rfl, carried⟩
    · rw [Function.update_of_ne same, Function.update_of_ne same]
      exact chained.chain there

/-- A new receiver has a new list. -/
theorem create (chained : Chained nodes receivers listed chains next)
    (free : receivers next = none) (running : Bool) (interfaceId ethSocket : Option Nat) :
    Chained (LinkedList.create nodes (next + 1))
      (Function.update receivers next (some ⟨running, interfaceId, ethSocket, next + 1⟩))
      (Function.update listed next []) (Function.update chains next [(next + 1, none)])
      (next + 2) := by
  have rewrites : Rewrites nodes (LinkedList.create nodes (next + 1)) (chains next)
      [(next + 1, none)] none (some (next + 1)) := by
    rw [chained.absent free]
    exact LinkedList.rewrites_create (chained.bounded _ (Nat.le_succ next))
  refine ⟨chained.carries.replace rewrites, fun {query} absent => ?_, fun {query given} there => ?_,
    fun address beyond => ?_⟩
  · by_cases same : query = next
    · simp [same] at absent
    · rw [Function.update_of_ne same] at absent ⊢
      exact chained.absent absent
  · by_cases same : query = next
    · subst same
      rw [Function.update_self] at there
      obtain rfl := Option.some.inj there
      exact ⟨[], by simp, by simp⟩
    · rw [Function.update_of_ne same] at there ⊢
      rw [Function.update_of_ne same]
      exact chained.chain there
  · rw [LinkedList.create, Function.update_of_ne (by omega)]
    exact chained.bounded address (by omega)

/-- A receiver is destroyed with its list. -/
theorem destroy (chained : Chained nodes receivers listed chains next) {start : Option Nat}
    (rewrites : Rewrites nodes after (chains self) [] start none)
    (bounded : ∀ address, next ≤ address → after address = none) :
    Chained after (Function.update receivers self none) (Function.update listed self [])
      (Function.update chains self []) next := by
  refine ⟨chained.carries.replace rewrites, fun {query} absent => ?_, fun {query given} there => ?_,
    bounded⟩
  · by_cases same : query = self
    · simp [same]
    · rw [Function.update_of_ne same] at absent ⊢
      exact chained.absent absent
  · have differ : query ≠ self := fun same => by simp [same] at there
    rw [Function.update_of_ne differ] at there ⊢
    rw [Function.update_of_ne differ]
    exact chained.chain there

end Chained

end Receivers

end GridGooseSV
