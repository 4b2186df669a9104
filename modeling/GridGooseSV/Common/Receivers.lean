import GridGooseSV.Common.LinkedList
import GridGooseSV.Foundation.Runs
import Mathlib.Tactic.Ring

/-!
# Receivers and their subscribers

After `goose_receiver.cc`, `sv_subscriber.cc` and `ethernet.cc`, where the GOOSE receiver and the SV
receiver are built alike. A receiver and its subscribers are blocks of memory, the list of the
subscribers is a linked list, and the packet socket of the simulator has a pointer to the receiver
that is called for each frame. How packet sockets queue frames is up to the simulator.
-/

namespace GridGooseSV

namespace Receivers

variable {Subscriber Frame Note Memory : Type}

/-! ## Sockets -/

/-- `struct sEthernetSocket`, which is deleted as soon as it is closed, and its packet socket, which
stays with the node. The callback of a receiver is bound to its address. -/
structure EthernetSocket (Frame : Type) where
  node : Nat
  closed : Bool
  deliveryQueue : List Frame
  callback : Option Nat
  deriving DecidableEq, Repr

abbrev Sockets (Frame : Type) := List (EthernetSocket Frame)

/-- What the simulator does with the packet sockets of its nodes. -/
structure PacketSockets (Frame : Type) where
  /-- the sockets that a node gives a frame to, one after the other -/
  handlers : Sockets Frame → (node : Nat) → List Nat
  /-- what waits in a socket that is given a frame, or `none` if the frame is dropped -/
  enqueue : (deliveryQueue : List Frame) → Frame → Option (List Frame)
  /-- `Recv` with the most octets that are wanted: a frame, and what waits from then on, or `none`
  for the null pointer -/
  recv : (deliveryQueue : List Frame) → (maxSize : Nat) → Option (Frame × List Frame)

/-- Packet sockets as they are documented: the handlers are those of the open sockets of a node,
a frame waits alone or is dropped, and it is received if it fits. -/
structure PacketSockets.Serves (ns3 : PacketSockets Frame) (size : Frame → Nat) : Prop where
  mem_handlers : ∀ {sockets node ethSocket}, ethSocket ∈ ns3.handlers sockets node ↔
    ∃ socket, sockets[ethSocket]? = some socket ∧ socket.closed = false ∧ socket.node = node
  enqueue : ∀ {frame deliveryQueue}, ns3.enqueue [] frame = some deliveryQueue →
    deliveryQueue = [frame]
  recv : ∀ {frame maxSize}, size frame ≤ maxSize → ns3.recv [frame] maxSize = some (frame, [])
  recv_long : ∀ {frame maxSize}, maxSize < size frame → ns3.recv [frame] maxSize = none

/-- Packet sockets that hold so many octets, and are given frames in the order of their creation. -/
def PacketSockets.bounded (size : Frame → Nat) (rcvBufSize : Nat) : PacketSockets Frame where
  handlers sockets node := (List.range sockets.length).filter fun ethSocket =>
    sockets[ethSocket]?.any fun socket => !socket.closed && socket.node = node
  enqueue deliveryQueue frame :=
    if (deliveryQueue.map size).sum + size frame ≤ rcvBufSize then some (deliveryQueue ++ [frame])
    else none
  recv deliveryQueue maxSize :=
    match deliveryQueue with
    | [] => none
    | frame :: rest => if size frame ≤ maxSize then some (frame, rest) else none

theorem PacketSockets.serves_bounded (size : Frame → Nat) (rcvBufSize : Nat) :
    (PacketSockets.bounded size rcvBufSize).Serves size where
  mem_handlers {sockets node ethSocket} := by
    simp only [bounded, List.mem_filter, List.mem_range, Option.any_eq_true, Bool.and_eq_true,
      Bool.not_eq_true', decide_eq_true_eq]
    refine ⟨And.right, fun found => ⟨?_, found⟩⟩
    obtain ⟨socket, there, _⟩ := found
    exact (List.getElem?_eq_some_iff.mp there).1
  enqueue {frame deliveryQueue} queued := by
    unfold bounded at queued
    dsimp only at queued
    split at queued
    · exact (Option.some.inj queued).symm
    · contradiction
  recv fits := if_pos fits
  recv_long long := if_neg (Nat.not_le_of_lt long)

/-- `Ethernet_createSocket` without a destination: the socket takes all frames of the node. -/
def createSocket (sockets : Sockets Frame) (node : Nat) : Sockets Frame × Nat :=
  (sockets ++ [{ node := node, closed := false, deliveryQueue := [], callback := none }],
    sockets.length)

/-- A socket that is not deleted. -/
def openSocket (sockets : Sockets Frame) (ethSocket : Nat) : Option (EthernetSocket Frame) := do
  let socket ← sockets[ethSocket]?
  if socket.closed then none else some socket

/-- `Ethernet_destroySocket`. -/
def destroySocket (sockets : Sockets Frame) (ethSocket : Nat) : Option (Sockets Frame) := do
  let socket ← openSocket sockets ethSocket
  some (sockets.set ethSocket { socket with closed := true })

/-- `Ethernet_getNS3Socket` and `SetRecvCallback` of its socket. -/
def setRecvCallback (sockets : Sockets Frame) (ethSocket receiver : Nat) :
    Option (Sockets Frame) := do
  let socket ← openSocket sockets ethSocket
  some (sockets.set ethSocket { socket with callback := some receiver })

/-- `Ethernet_receivePacket`; `none` where it dereferences the null pointer. -/
def receivePacket (ns3 : PacketSockets Frame) (sockets : Sockets Frame)
    (ethSocket bufferSize : Nat) : Option (Sockets Frame × Frame) := do
  let socket ← openSocket sockets ethSocket
  let (frame, deliveryQueue) ← ns3.recv socket.deliveryQueue bufferSize
  some (sockets.set ethSocket { socket with deliveryQueue := deliveryQueue }, frame)

/-- `ETH_BUFFER_LENGTH`. -/
def ethBufferLength : Nat := 1518

/-- What the process has: memory, sockets, and the addresses that were given away so far. No address
is given away twice, since a pointer to what is freed stands for nothing. -/
structure Process (Memory Frame : Type) where
  memory : Memory
  sockets : Sockets Frame
  next : Nat

/-- The packet sockets that are given a frame, one after the other. A socket that does not drop it
calls its receiver. -/
def forwardUp (ns3 : PacketSockets Frame)
    (tick : Process Memory Frame → Nat → Option (Process Memory Frame × List Note))
    (frame : Frame) : (ethSockets : List Nat) → Process Memory Frame →
    Option (Process Memory Frame × List Note)
  | [], process => some (process, [])
  | ethSocket :: rest, process =>
    match process.sockets[ethSocket]? with
    | none => forwardUp ns3 tick frame rest process
    | some socket =>
      match ns3.enqueue socket.deliveryQueue frame with
      | none => forwardUp ns3 tick frame rest process
      | some deliveryQueue => do
        let process := { process with
          sockets := process.sockets.set ethSocket { socket with deliveryQueue := deliveryQueue } }
        let (process, heard) ← match socket.callback with
          | none => some (process, [])
          | some receiver => tick process receiver
        let (process, more) ← forwardUp ns3 tick frame rest process
        some (process, heard ++ more)

/-- A frame arrives at a node. -/
def arrive (ns3 : PacketSockets Frame)
    (tick : Process Memory Frame → Nat → Option (Process Memory Frame × List Note)) (node : Nat)
    (frame : Frame) (process : Process Memory Frame) : Option (Process Memory Frame × List Note) :=
  forwardUp ns3 tick frame (ns3.handlers process.sockets node) process

/-! ## Receivers in memory -/

/-- What a kind of receiver does in its own way: how it parses a frame, whether it looks at its
subscribers when it is started, and whether stopping it does anything. -/
structure Kind (Subscriber Frame Note : Type) where
  size : Frame → Nat
  parse : List Subscriber → Frame → List Subscriber × List Note
  length_parse : ∀ subscribers frame, (parse subscribers frame).1.length = subscribers.length
  walks : Bool
  stops : Bool

/-- `struct sGooseReceiver` and `struct sSVReceiver`. The buffer and the string of the interface,
here the node that it names, belong to the receiver alone. -/
structure Receiver where
  running : Bool
  interfaceId : Option Nat
  ethSocket : Option Nat
  subscriberList : Nat
  deriving DecidableEq, Repr

/-- The blocks that are allocated. -/
structure Heap (Subscriber : Type) where
  receivers : Nat → Option Receiver
  subscribers : Nat → Option Subscriber
  nodes : LinkedList.Heap Nat Nat

/-- The process with its blocks. -/
abbrev State (Subscriber Frame : Type) := Process (Heap Subscriber) Frame

namespace State

/-- Nothing is allocated, and there is no socket. -/
def initial : State Subscriber Frame where
  memory := { receivers := fun _ => none, subscribers := fun _ => none, nodes := fun _ => none }
  sockets := []
  next := 0

/-- `GooseSubscriber_create`, `SVSubscriber_create`. -/
def createSubscriber (state : State Subscriber Frame) (subscriber : Subscriber) :
    State Subscriber Frame × Nat :=
  ({ state with
      memory.subscribers := Function.update state.memory.subscribers state.next (some subscriber)
      next := state.next + 1 },
    state.next)

/-- A function that changes a field of a subscriber. -/
def changeSubscriber (state : State Subscriber Frame) (self : Nat)
    (change : Subscriber → Subscriber) : Option (State Subscriber Frame) := do
  let subscriber ← state.memory.subscribers self
  some { state with
    memory.subscribers := Function.update state.memory.subscribers self (some (change subscriber)) }

/-- `GooseSubscriber_destroy`, `SVSubscriber_destroy`. -/
def destroySubscriber (state : State Subscriber Frame) (self : Nat) :
    Option (State Subscriber Frame) := do
  let _ ← state.memory.subscribers self
  some { state with memory.subscribers := Function.update state.memory.subscribers self none }

/-- `GooseReceiver_create`, `SVReceiver_create`. -/
def create (state : State Subscriber Frame) : State Subscriber Frame × Nat :=
  let subscriberList := state.next + 1
  ({ state with
      memory.nodes := LinkedList.create state.memory.nodes subscriberList
      memory.receivers := Function.update state.memory.receivers state.next
        (some
          { running := false
            interfaceId := none
            ethSocket := none
            subscriberList := subscriberList })
      next := state.next + 2 },
    state.next)

/-- `GooseReceiver_addSubscriber`, `SVReceiver_addSubscriber`. -/
def addSubscriber (state : State Subscriber Frame) (self subscriber : Nat) :
    Option (State Subscriber Frame) := do
  let receiver ← state.memory.receivers self
  let nodes ← LinkedList.add state.next state.memory.nodes receiver.subscriberList (some subscriber)
    state.next
  some { state with
    memory.nodes := nodes
    next := state.next + 1 }

/-- `GooseReceiver_removeSubscriber`, `SVReceiver_removeSubscriber`. -/
def removeSubscriber (state : State Subscriber Frame) (self subscriber : Nat) :
    Option (State Subscriber Frame) := do
  let receiver ← state.memory.receivers self
  let (nodes, _) ← LinkedList.remove state.next state.memory.nodes receiver.subscriberList
    (some subscriber)
  some { state with memory.nodes := nodes }

/-- `GooseReceiver_setInterfaceId`, `SVReceiver_setInterfaceId`. -/
def setInterfaceId (state : State Subscriber Frame) (self node : Nat) :
    Option (State Subscriber Frame) := do
  let receiver ← state.memory.receivers self
  some { state with
    memory.receivers := Function.update state.memory.receivers self
      (some { receiver with interfaceId := some node }) }

/-- The loop over the subscribers of a list: `LinkedList_getData` and `LinkedList_getNext`. -/
def subscribersLoop (memory : Heap Subscriber) :
    Nat → Option Nat → Option (List (Nat × Subscriber))
  | _, none => some []
  | 0, some _ => none
  | fuel + 1, some element => do
    let data ← LinkedList.getData memory.nodes element
    let address ← data
    let subscriber ← memory.subscribers address
    let element ← LinkedList.getNext memory.nodes element
    let rest ← subscribersLoop memory fuel element
    some ((address, subscriber) :: rest)

/-- The subscribers of a list. -/
def subscribersOf (state : State Subscriber Frame) (subscriberList : Nat) :
    Option (List (Nat × Subscriber)) := do
  let element ← LinkedList.getNext state.memory.nodes subscriberList
  subscribersLoop state.memory state.next element

/-- `GooseReceiver_startThreadless`, `SVReceiver_startThreadless`. The default interface names no
node of the simulator. -/
def startThreadless (kind : Kind Subscriber Frame Note) (state : State Subscriber Frame)
    (self : Nat) : Option (State Subscriber Frame) := do
  let receiver ← state.memory.receivers self
  let node ← receiver.interfaceId
  let (sockets, ethSocket) := createSocket state.sockets node
  if kind.walks then
    let _ ← state.subscribersOf receiver.subscriberList
  some { state with
    sockets := sockets
    memory.receivers := Function.update state.memory.receivers self
      (some { receiver with
        ethSocket := some ethSocket
        running := true }) }

/-- `GooseReceiver_start`, `SVReceiver_start`. -/
def start (kind : Kind Subscriber Frame Note) (state : State Subscriber Frame) (self : Nat) :
    Option (State Subscriber Frame) := do
  let state ← state.startThreadless kind self
  let receiver ← state.memory.receivers self
  let ethSocket ← receiver.ethSocket
  let sockets ← setRecvCallback state.sockets ethSocket self
  some { state with sockets := sockets }

/-- `GooseReceiver_stopThreadless`, `SVReceiver_stopThreadless`. -/
def stopThreadless (state : State Subscriber Frame) (self : Nat) :
    Option (State Subscriber Frame) := do
  let receiver ← state.memory.receivers self
  let sockets ← match receiver.ethSocket with
    | none => some state.sockets
    | some ethSocket => destroySocket state.sockets ethSocket
  some { state with
    sockets := sockets
    memory.receivers := Function.update state.memory.receivers self
      (some { receiver with running := false }) }

/-- `GooseReceiver_stop`, which is empty, and `SVReceiver_stop`. -/
def stop (kind : Kind Subscriber Frame Note) (state : State Subscriber Frame) (self : Nat) :
    Option (State Subscriber Frame) :=
  if kind.stops then do
    let receiver ← state.memory.receivers self
    if receiver.running then state.stopThreadless self else some state
  else some state

/-- Delete the subscribers of a list, one after the other. -/
def destroySubscribers : List Nat → State Subscriber Frame → Option (State Subscriber Frame)
  | [], state => some state
  | subscriber :: rest, state => do
    let state ← state.destroySubscriber subscriber
    destroySubscribers rest state

/-- `GooseReceiver_destroy`, `SVReceiver_destroy`. -/
def destroy (state : State Subscriber Frame) (self : Nat) : Option (State Subscriber Frame) := do
  let receiver ← state.memory.receivers self
  let (nodes, deleted) ← LinkedList.destroyDeep state.next state.memory.nodes
    (some receiver.subscriberList)
  let state ← destroySubscribers deleted { state with memory.nodes := nodes }
  some { state with memory.receivers := Function.update state.memory.receivers self none }

/-- `parseGooseMessage` or `parseSVMessage`: the subscribers as the frame leaves them. -/
def parseMessage (kind : Kind Subscriber Frame Note) (state : State Subscriber Frame) (self : Nat)
    (frame : Frame) : Option (State Subscriber Frame × List (Nat × List Note)) := do
  let receiver ← state.memory.receivers self
  let subscribers ← state.subscribersOf receiver.subscriberList
  let (after, heard) := kind.parse (subscribers.map Prod.snd) frame
  some ({ state with
      memory.subscribers := ((subscribers.map Prod.fst).zip after).foldl
        (fun memory (address, subscriber) => Function.update memory address (some subscriber))
        state.memory.subscribers },
    [(self, heard)])

/-- `GooseReceiver_tick`, `SVReceiver_tick`. -/
def tick (ns3 : PacketSockets Frame) (kind : Kind Subscriber Frame Note)
    (state : State Subscriber Frame) (self : Nat) :
    Option (State Subscriber Frame × List (Nat × List Note)) := do
  let receiver ← state.memory.receivers self
  let ethSocket ← receiver.ethSocket
  let (sockets, frame) ← receivePacket ns3 state.sockets ethSocket ethBufferLength
  if 0 < kind.size frame then parseMessage kind { state with sockets := sockets } self frame
  else some ({ state with sockets := sockets }, [])

end State

/-- What a program may call, and the arrival of a frame at a node. -/
inductive Call (Subscriber Frame : Type)
  | createSubscriber (subscriber : Subscriber)
  | changeSubscriber (subscriber : Nat) (change : Subscriber → Subscriber)
  | destroySubscriber (subscriber : Nat)
  | create
  | addSubscriber (receiver subscriber : Nat)
  | removeSubscriber (receiver subscriber : Nat)
  | setInterfaceId (receiver node : Nat)
  | startThreadless (receiver : Nat)
  | start (receiver : Nat)
  | stopThreadless (receiver : Nat)
  | stop (receiver : Nat)
  | destroy (receiver : Nat)
  | tick (receiver : Nat)
  | handleMessage (receiver : Nat) (frame : Frame)
  | frame (node : Nat) (frame : Frame)

/-- What comes back: the address of what is created, or what the subscribers of receivers hear. -/
inductive Answer (Note : Type)
  | done
  | address (address : Nat)
  | heard (heard : List (Nat × List Note))
  deriving DecidableEq, Repr

/-- What a call does to the process. -/
def State.perform (ns3 : PacketSockets Frame) (kind : Kind Subscriber Frame Note)
    (state : State Subscriber Frame) :
    Call Subscriber Frame → Option (State Subscriber Frame × Answer Note)
  | .createSubscriber subscriber =>
    let (state, address) := state.createSubscriber subscriber
    some (state, .address address)
  | .changeSubscriber self change => (state.changeSubscriber self change).map (·, .done)
  | .destroySubscriber self => (state.destroySubscriber self).map (·, .done)
  | .create =>
    let (state, address) := state.create
    some (state, .address address)
  | .addSubscriber self subscriber => (state.addSubscriber self subscriber).map (·, .done)
  | .removeSubscriber self subscriber => (state.removeSubscriber self subscriber).map (·, .done)
  | .setInterfaceId self node => (state.setInterfaceId self node).map (·, .done)
  | .startThreadless self => (state.startThreadless kind self).map (·, .done)
  | .start self => (state.start kind self).map (·, .done)
  | .stopThreadless self => (state.stopThreadless self).map (·, .done)
  | .stop self => (state.stop kind self).map (·, .done)
  | .destroy self => (state.destroy self).map (·, .done)
  | .tick self => (state.tick ns3 kind self).map fun (state, heard) => (state, .heard heard)
  | .handleMessage self frame =>
    (state.parseMessage kind self frame).map fun (state, heard) => (state, .heard heard)
  | .frame node frame =>
    (arrive ns3 (State.tick ns3 kind) node frame state).map fun (state, heard) =>
      (state, .heard heard)

end Receivers

end GridGooseSV
