import GridGooseSV.Apps.GooseNumbering
import GridGooseSV.Apps.GooseReceiver

/-!
# The GOOSE applications together

A publisher and a receiver, and a channel that delivers every frame once and in order. What the
receiver keeps of a state number is its low 16 bits, so the two agree up to the frame with state
number 65535.
-/

namespace GridGooseSV.Ns3

/-- A publisher, the frames in flight, and a receiver. -/
structure GOOSELink where
  publisher : GOOSEPublisher
  inFlight : List Transmission
  receiver : GOOSEReceiver

/-- What a run of both applications is made of. -/
inductive LinkAction
  | publisher (action : GOOSEAction)
  /-- the first frame in flight arrives, over what is left in the receive buffer -/
  | deliver (stale : Memory) (now : UInt64)

namespace GOOSELink

/-- Both applications are started. -/
def start (attributes : GOOSEAttributes) (srcAddr : Octets 6) (found : Memory) (now nextUid : Nat)
    (receiver : GOOSEReceiver) : Option GOOSELink := do
  let publisher ← GOOSEPublisher.startApplication attributes srcAddr found (.empty now nextUid)
  pure { publisher := publisher, inFlight := [], receiver := receiver }

/-- A step of either application, and the frame that is delivered. -/
def step (self : GOOSELink) : LinkAction → Option (GOOSELink × Option Transmission)
  | .publisher action => do
    let (publisher, output) ← self.publisher.step action
    pure ({ self with publisher := publisher, inFlight := self.inFlight ++ output.toList }, none)
  | .deliver stale now =>
    match self.inFlight with
    | [] => none
    | first :: rest =>
      let packet := first.frame.packet
      let arrival : Arrival := ⟨Memory.ofOctets packet stale, packet.length, now⟩
      some ({ self with inFlight := rest, receiver := self.receiver.deliver arrival }, some first)

/-- The applications after actions, and the frames that were delivered. -/
def startAndRun (attributes : GOOSEAttributes) (srcAddr : Octets 6) (found : Memory)
    (now nextUid : Nat) (receiver : GOOSEReceiver) (actions : List LinkAction) :
    Option (GOOSELink × List Transmission) := do
  let self ← start attributes srcAddr found now nextUid receiver
  (runAll step self actions).map fun (final, delivered) => (final, delivered.reduceOption)

end GOOSELink

/-- The receiver has what the publisher has sent to it so far. -/
structure Agrees (link : GOOSELink) (delivered : List Transmission) : Prop where
  received : link.receiver.received.toNat = delivered.length
  caughtUp : link.inFlight = [] → link.receiver.received = link.publisher.sent
  lastStNum : ∀ last, delivered.getLast? = some last →
    link.receiver.lastStNum.toNat = last.frame.stNum.toNat
  lastReceivedTime : ∀ last, delivered.getLast? = some last →
    link.receiver.lastReceivedTime = last.assignedAt / 1000000 * 1000000

/-- The times of delivered frames are below `2 ^ 32` seconds. -/
def Soon (delivered : List Transmission) : Prop :=
  ∀ transmission ∈ delivered, transmission.assignedAt < 2 ^ 32 * 10 ^ 9

/-- What holds of both applications, and the frames that were delivered. -/
structure Linked (attributes : GOOSEAttributes) (srcAddr : Octets 6) (link : GOOSELink)
    (delivered : List Transmission) : Prop where
  sending : link.publisher.Sending attributes srcAddr (delivered ++ link.inFlight)
  subscriber : ∃ subscriber, link.receiver.subscribers = [subscriber] ∧ Listening subscriber
  received : link.receiver.received.toNat = delivered.length
  last : ∀ last, delivered.getLast? = some last →
    link.receiver.lastStNum = last.frame.stNum.toUInt16 ∧
      link.receiver.lastReceivedTime = last.assignedAt / 1000000 * 1000000

section Steps

variable {attributes : GOOSEAttributes} {srcAddr : Octets 6} {link after : GOOSELink}
variable {delivered : List Transmission} {action : LinkAction} {output : Option Transmission}

/-- Everything that a step can do. -/
theorem GOOSELink.step_cases (stepped : link.step action = some (after, output)) :
    (∃ own publisher sent, link.publisher.step own = some (publisher, sent) ∧ output = none ∧
        after = { link with
          publisher := publisher
          inFlight := link.inFlight ++ sent.toList }) ∨
      ∃ first rest arrival, link.inFlight = first :: rest ∧ Arrival.Brings arrival first.frame ∧
        output = some first ∧
        after = { link with inFlight := rest, receiver := link.receiver.deliver arrival } := by
  cases action with
  | publisher own =>
      obtain ⟨⟨publisher, sent⟩, performed, rest⟩ := Option.bind_eq_some_iff.mp stepped
      obtain ⟨rfl, rfl⟩ := Prod.mk.inj (Option.some.inj rest)
      exact .inl ⟨own, publisher, sent, performed, rfl, rfl⟩
  | deliver stale now =>
      rw [GOOSELink.step] at stepped
      cases flying : link.inFlight with
      | nil => simp [flying] at stepped
      | cons first rest =>
          simp only [flying, Option.some.injEq, Prod.mk.injEq] at stepped
          obtain ⟨rfl, rfl⟩ := stepped
          exact .inr ⟨first, rest, _, rfl, ⟨Memory.holds_ofOctets _ _, rfl⟩, rfl, rfl⟩

/-- What a step keeps. -/
theorem Linked.step (linked : Linked attributes srcAddr link delivered)
    (stepped : link.step action = some (after, output))
    (soon : Soon (delivered ++ output.toList)) :
    Linked attributes srcAddr after (delivered ++ output.toList) := by
  rcases GOOSELink.step_cases stepped with ⟨_, _, sent, performed, rfl, rfl⟩ |
    ⟨first, rest, arrival, flying, brings, rfl, rfl⟩
  · have sending := linked.sending.step performed
    rw [List.append_assoc] at sending
    rw [Option.toList_none, List.append_nil]
    exact ⟨sending, linked.subscriber, linked.received, linked.last⟩
  · obtain ⟨sending, ⟨subscriber, only, listening⟩, received, _⟩ := linked
    rw [flying] at sending
    have readable : first.Readable := sending.readable first (by simp)
    rw [Option.toList_some] at soon ⊢
    obtain ⟨kept, still, delivery⟩ :=
      deliver_readable only listening readable (soon first (by simp)) brings
    -- The counter does not wrap, since no more frames are delivered than were sent.
    have counted := sending.counted
    have most := link.publisher.sent.toNat_lt
    have unit : (1 : UInt64).toNat = 1 := rfl
    rw [counted, List.length_append, List.length_cons] at most
    rw [delivery]
    refine ⟨by rwa [List.append_assoc, List.singleton_append], ⟨kept, rfl, still⟩, ?_, ?_⟩
    · simp only [List.length_append, List.length_singleton]
      rw [UInt64.toNat_add, unit, received, Nat.mod_eq_of_lt (by omega)]
    · intro last found
      rw [List.getLast?_append, List.getLast?_singleton] at found
      obtain rfl := Option.some.inj found
      exact ⟨rfl, rfl⟩

theorem linked_startAndRun {found : Memory} {now nextUid lastReceivedTime : Nat}
    {lastStNum : UInt16} {actions : List LinkAction}
    (run : GOOSELink.startAndRun attributes srcAddr found now nextUid
      (.startApplication lastReceivedTime lastStNum) actions = some (link, delivered))
    (soon : Soon delivered) : Linked attributes srcAddr link delivered := by
  obtain ⟨first, started, rest⟩ := Option.bind_eq_some_iff.mp run
  obtain ⟨⟨_, outputs⟩, ran, same⟩ := Option.map_eq_some_iff.mp rest
  obtain ⟨rfl, rfl⟩ := Prod.mk.inj same
  obtain ⟨publisher, startedPublisher, same⟩ := Option.bind_eq_some_iff.mp started
  obtain rfl := Option.some.inj same
  have initially : Linked attributes srcAddr
      ⟨publisher, [], .startApplication lastReceivedTime lastStNum⟩ [] :=
    ⟨GOOSEPublisher.sending_startApplication startedPublisher,
      ⟨gooseSubscriber, rfl, listening_gooseSubscriber⟩, rfl, by simp⟩
  exact @runAll_history _ _ _ GOOSELink.step _ _ actions outputs
    (fun link done => Soon done.reduceOption → Linked attributes srcAddr link done.reduceOption)
    (by
      intro _ done _ _ output linked stepped soon
      rw [List.reduceOption_append] at soon ⊢
      have earlier := linked fun transmission member => soon _ (List.mem_append_left _ member)
      cases output with
      | none => exact earlier.step stepped (by simpa using soon)
      | some transmission => exact earlier.step stepped (by simpa using soon))
    [] (fun _ => initially) ran soon

/-- The state number of a delivered frame tells how many there were. -/
theorem Linked.stNum_last (linked : Linked attributes srcAddr link delivered)
    {last : Transmission} (found : delivered.getLast? = some last)
    (few : delivered.length < 2 ^ 32 - 1) :
    last.frame.stNum.toNat = delivered.length + 1 := by
  rw [List.getLast?_eq_getElem?] at found
  obtain ⟨inside, _⟩ := List.getElem?_eq_some_iff.mp found
  have there : (delivered ++ link.inFlight)[delivered.length - 1]? = some last := by
    rw [List.getElem?_append_left inside, found]
  have place : delivered.length - 1 + 1 = delivered.length := by omega
  rw [(linked.sending.numbers _ _ there).1, place, toNat_stNumAfter few]

/-- The receiver agrees with the publisher as long as the last state number has 16 bits. -/
theorem Linked.agrees_iff (linked : Linked attributes srcAddr link delivered) :
    Agrees link delivered ↔ ∀ last, delivered.getLast? = some last →
      last.frame.stNum.toNat < 2 ^ 16 := by
  have truncated : ∀ last, delivered.getLast? = some last →
      (link.receiver.lastStNum.toNat = last.frame.stNum.toNat ↔
        last.frame.stNum.toNat < 2 ^ 16) := by
    intro last found
    rw [(linked.last last found).1, UInt32.toNat_toUInt16]
    omega
  constructor
  · intro agrees last found
    exact (truncated last found).mp (agrees.lastStNum last found)
  · intro narrow
    refine ⟨linked.received, fun nothing => ?_, fun last found =>
      (truncated last found).mpr (narrow last found), fun last found =>
      (linked.last last found).2⟩
    have counted := linked.sending.counted
    rw [nothing, List.append_nil, ← linked.received] at counted
    exact UInt64.toNat_inj.mp counted.symm

end Steps

/-! ## Runs -/

section Runs

variable {attributes : GOOSEAttributes} {srcAddr : Octets 6} {found : Memory} {now nextUid : Nat}
variable {receiver : GOOSEReceiver} {link : GOOSELink} {delivered : List Transmission}
variable {actions : List LinkAction}

/-- A run of both applications is a run followed by another. -/
theorem startAndRun_append {rest : List LinkAction} :
    GOOSELink.startAndRun attributes srcAddr found now nextUid receiver (actions ++ rest) =
        some (link, delivered) ↔
      ∃ middle before after,
        GOOSELink.startAndRun attributes srcAddr found now nextUid receiver actions =
          some (middle, before) ∧
        runAll GOOSELink.step middle rest = some (link, after) ∧
        delivered = before ++ after.reduceOption := by
  unfold GOOSELink.startAndRun
  simp only [Option.bind_eq_bind, Option.bind_eq_some_iff, Option.map_eq_some_iff, Prod.exists,
    Prod.mk.injEq]
  constructor
  · rintro ⟨first, started, _, outputs, run, rfl, rfl⟩
    obtain ⟨middle, before, after, earlier, later, rfl⟩ := runAll_append.mp run
    exact ⟨middle, _, after, ⟨first, started, middle, before, earlier, rfl, rfl⟩, later,
      List.reduceOption_append _ _⟩
  · rintro ⟨middle, _, after, ⟨first, started, _, before, earlier, rfl, rfl⟩, later, rfl⟩
    exact ⟨first, started, link, before ++ after,
      runAll_append.mpr ⟨_, before, after, earlier, later, rfl⟩, rfl,
      List.reduceOption_append _ _⟩

variable {lastReceivedTime : Nat} {lastStNum : UInt16}

/-- While the receiver agrees, few frames are delivered. -/
theorem length_delivered_lt
    (run : GOOSELink.startAndRun attributes srcAddr found now nextUid
      (.startApplication lastReceivedTime lastStNum) actions = some (link, delivered))
    (soon : Soon delivered)
    (agree : ∀ earlier, earlier <+: actions → ∀ link delivered,
      GOOSELink.startAndRun attributes srcAddr found now nextUid
        (.startApplication lastReceivedTime lastStNum) earlier = some (link, delivered) →
      Agrees link delivered) :
    delivered.length < 2 ^ 16 - 1 := by
  induction actions using List.reverseRecOn generalizing link delivered with
  | nil =>
      obtain ⟨_, _, same⟩ := Option.bind_eq_some_iff.mp run
      obtain ⟨_, rfl⟩ := Prod.mk.inj (Option.some.inj same)
      exact Nat.zero_lt_succ _
  | append_singleton actions action ih =>
      have linked := linked_startAndRun run soon
      have narrow := linked.agrees_iff.mp (agree _ (List.prefix_refl _) _ _ run)
      obtain ⟨middle, before, after, earlier, later, rfl⟩ := startAndRun_append.mp run
      have few := ih earlier (fun transmission member => soon _ (List.mem_append_left _ member))
        fun earlier prior => agree earlier (prior.trans (List.prefix_append _ _))
      obtain ⟨_, output, _, _, nothing, rfl⟩ := runAll_cons.mp later
      obtain ⟨rfl, rfl⟩ := Prod.mk.inj (Option.some.inj nothing)
      cases output with
      | none => simpa using few
      | some transmission =>
          -- The frame that is delivered last has the greatest state number.
          have last : (before ++ [some transmission].reduceOption).getLast? =
              some transmission := by simp
          have length : (before ++ [some transmission].reduceOption).length =
              before.length + 1 := by simp
          have number := linked.stNum_last last (by omega)
          have bound := narrow transmission last
          omega

/-- In a run of both applications the receiver agrees with the publisher after every step if and
only if at most 65534 frames are delivered. -/
theorem agrees_startAndRun_iff
    (run : GOOSELink.startAndRun attributes srcAddr found now nextUid
      (.startApplication lastReceivedTime lastStNum) actions = some (link, delivered))
    (soon : Soon delivered) :
    (∀ earlier, earlier <+: actions → ∀ link delivered,
      GOOSELink.startAndRun attributes srcAddr found now nextUid
        (.startApplication lastReceivedTime lastStNum) earlier = some (link, delivered) →
      Agrees link delivered) ↔ delivered.length ≤ 65534 := by
  constructor
  · intro agree
    have few := length_delivered_lt run soon agree
    omega
  · rintro few earlier ⟨rest, rfl⟩ middle before prior
    obtain ⟨_, _, after, same, _, rfl⟩ := startAndRun_append.mp run
    obtain ⟨rfl, rfl⟩ := Prod.mk.inj (Option.some.inj (same.symm.trans prior))
    have linked := linked_startAndRun prior fun transmission member =>
      soon _ (List.mem_append_left _ member)
    apply linked.agrees_iff.mpr
    intro last found
    rw [List.length_append] at few
    rw [linked.stNum_last found (by omega)]
    omega

end Runs

/-! ## Runs without events -/

/-- An application without events that has nothing in flight, and what it does next. -/
structure Ticking (link : GOOSELink) (rounds : Nat) : Prop where
  attributes : link.publisher.attributes = uneventful
  pending : ∃ uid, link.publisher.simulator.pending = [⟨uid, 20000000 * rounds, .send⟩]
  inFlight : link.inFlight = []

section Rounds

variable {srcAddr : Octets 6} {link : GOOSELink} {delivered : List Transmission}

/-- A message is sent every 20 milliseconds, as long as there are packets left. -/
theorem Ticking.event (ticking : Ticking link delivered.length)
    (linked : Linked uneventful srcAddr link delivered)
    (left : delivered.length < 2 ^ 64 - 1) :
    ∃ publisher transmission, link.publisher.step .event = some (publisher, some transmission) ∧
      transmission.assignedAt = 20000000 * delivered.length ∧
      publisher.attributes = uneventful ∧
      ∃ uid, publisher.simulator.pending = [⟨uid, 20000000 * (delivered.length + 1), .send⟩] := by
  obtain ⟨attributes, ⟨uid, pending⟩, nothing⟩ := ticking
  obtain ⟨first, simulator, found⟩ :
      ∃ first simulator, link.publisher.simulator.next = some (first, simulator) := by
    cases found : link.publisher.simulator.next with
    | none =>
        rw [EventQueue.next_eq_none.mp found] at pending
        contradiction
    | some taken => exact ⟨taken.1, taken.2, rfl⟩
  obtain ⟨member, now, _, rest⟩ := EventQueue.next_eq found
  rw [pending, List.mem_singleton] at member
  subst member
  -- The event that was taken out was the only one.
  have alone : simulator.pending = [] := by
    apply List.eq_nil_iff_forall_not_mem.mpr
    intro scheduled among
    obtain ⟨earlier, different⟩ := (rest scheduled).mp among
    rw [pending, List.mem_singleton] at earlier
    exact different (congrArg Scheduled.uid earlier)
  obtain ⟨publisher, present⟩ : ∃ publisher, link.publisher.publisher = some publisher := by
    apply Option.ne_none_iff_exists'.mp
    intro absent
    rw [linked.sending.invariant.stopped absent] at pending
    contradiction
  obtain ⟨configured, _⟩ := linked.sending.configured publisher present
  obtain ⟨publication, packet, published, _, sent⟩ :=
    (configured.increaseStNum (milliSeconds simulator.now)).published
  have positive : link.publisher.count ≠ 0 := by
    intro zero
    have accounted := linked.sending.invariant.accounted
    have counted := linked.sending.counted
    have total : GOOSEPublisher.budget uneventful.maxPackets = 2 ^ 64 - 1 := rfl
    rw [nothing, List.append_nil] at counted
    rw [zero, total, counted, UInt64.toNat_zero] at accounted
    omega
  have period : uneventful.t0 = 20000000 := rfl
  obtain ⟨next, after, scheduled⟩ :=
    @EventQueue.schedule_isSome _ simulator 20000000 (by decide) GOOSEHandler.send
  obtain ⟨_, rfl, _, _, queued⟩ := EventQueue.schedule_eq scheduled
  refine ⟨{ link.publisher with
      simulator := after
      publisher := some publication.publisher
      count := link.publisher.count - 1
      eventId := some simulator.nextUid
      sent := link.publisher.sent + 1 },
    ⟨decide (link.publisher.gooseEventId = some uid), simulator.now,
      ⟨(publisher.increaseStNum (milliSeconds simulator.now)).stNum, 0, packet⟩⟩,
    ?_, now, attributes, simulator.nextUid, ?_⟩
  · simp only [GOOSEPublisher.step, GOOSEPublisher.event, found, GOOSEPublisher.handle,
      GOOSEPublisher.send, if_neg positive, GOOSEPublisher.transmit, present,
      linked.sending.dataSet, published, sent, GOOSEPublisher.scheduleEvent, attributes, period,
      scheduled, Option.bind_eq_bind, Option.bind_some, Option.pure_def, Option.map_some]
    rfl
  · rw [queued, alone, now, List.nil_append]
    have time : 20000000 * delivered.length + (20000000 : Int).toNat =
        20000000 * (delivered.length + 1) := by omega
    rw [time]

/-- A message is sent and delivered. -/
theorem Ticking.round (ticking : Ticking link delivered.length)
    (linked : Linked uneventful srcAddr link delivered)
    (left : delivered.length < 2 ^ 64 - 1) :
    ∃ after transmission,
      runAll GOOSELink.step link [.publisher .event, .deliver (fun _ => 0) 0] =
        some (after, [none, some transmission]) ∧
      transmission.assignedAt = 20000000 * delivered.length ∧
      Ticking after (delivered ++ [transmission]).length := by
  obtain ⟨publisher, transmission, stepped, assigned, attributes, pending⟩ :=
    ticking.event linked left
  have sent : link.step (.publisher .event) = some ({ link with
      publisher := publisher
      inFlight := [transmission] }, none) := by
    simp only [GOOSELink.step, stepped, ticking.inFlight, Option.bind_eq_bind, Option.bind_some,
      Option.pure_def, Option.toList_some, List.nil_append]
  obtain ⟨after, delivery, kept, nothing⟩ : ∃ after,
      GOOSELink.step { link with publisher := publisher, inFlight := [transmission] }
          (.deliver (fun _ => 0) 0) = some (after, some transmission) ∧
        after.publisher = publisher ∧ after.inFlight = [] := ⟨_, rfl, rfl, rfl⟩
  refine ⟨after, transmission, ?_, assigned, ?_⟩
  · apply runAll_cons.mpr
    exact ⟨_, none, _, sent, runAll_cons.mpr ⟨_, some transmission, [], delivery, rfl, rfl⟩, rfl⟩
  · rw [List.length_append, List.length_singleton]
    exact ⟨kept ▸ attributes, kept ▸ pending, nothing⟩

/-- So many messages, each delivered before the next one is sent. -/
def rounds (count : Nat) : List LinkAction :=
  (List.replicate count [.publisher .event, .deliver (fun _ => 0) 0]).flatten

/-- There is a run with so many messages. -/
theorem exists_rounds (count : Nat) (few : count ≤ 2 ^ 32) :
    ∃ link delivered,
      GOOSELink.startAndRun uneventful Octets.zero (fun _ => 0) 0 4 (.startApplication 0 0)
        (rounds count) = some (link, delivered) ∧
      delivered.length = count ∧ Soon delivered ∧ Ticking link count := by
  induction count with
  | zero => exact ⟨_, [], rfl, rfl, by simp [Soon], rfl, ⟨4, rfl⟩, rfl⟩
  | succ count ih =>
      obtain ⟨link, delivered, run, length, soon, ticking⟩ := ih (by omega)
      subst length
      have linked := linked_startAndRun run soon
      obtain ⟨after, transmission, round, assigned, next⟩ := ticking.round linked (by omega)
      have split : rounds (delivered.length + 1) =
          rounds delivered.length ++ [.publisher .event, .deliver (fun _ => 0) 0] := by
        rw [rounds, List.replicate_succ', List.flatten_append, List.flatten_singleton, rounds]
      refine ⟨after, delivered ++ [transmission], ?_, by simp, ?_, by simpa using next⟩
      · rw [split]
        exact startAndRun_append.mpr ⟨link, delivered, _, run, round, rfl⟩
      · intro each member
        rcases List.mem_append.mp member with earlier | last
        · exact soon each earlier
        · obtain rfl := List.mem_singleton.mp last
          rw [assigned]
          omega

end Rounds

theorem agrees_rounds :
    ∃ link delivered,
      GOOSELink.startAndRun uneventful Octets.zero (fun _ => 0) 0 4 (.startApplication 0 0)
        (rounds 2) = some (link, delivered) ∧ delivered.length = 2 ∧
      ((∀ earlier, earlier <+: rounds 2 → ∀ link delivered,
        GOOSELink.startAndRun uneventful Octets.zero (fun _ => 0) 0 4 (.startApplication 0 0)
          earlier = some (link, delivered) → Agrees link delivered) ↔
        delivered.length ≤ 65534) := by
  obtain ⟨link, delivered, run, length, soon, _⟩ := exists_rounds 2 (by decide)
  exact ⟨link, delivered, run, length, agrees_startAndRun_iff run soon⟩

/-- After 65535 messages, 20 milliseconds apart, the receiver has the state number 0. -/
theorem disagrees_rounds :
    ∃ link delivered,
      GOOSELink.startAndRun uneventful Octets.zero (fun _ => 0) 0 4 (.startApplication 0 0)
        (rounds 65535) = some (link, delivered) ∧ Soon delivered ∧
      ¬ ∀ earlier, earlier <+: rounds 65535 → ∀ link delivered,
        GOOSELink.startAndRun uneventful Octets.zero (fun _ => 0) 0 4 (.startApplication 0 0)
          earlier = some (link, delivered) → Agrees link delivered := by
  obtain ⟨link, delivered, run, length, soon, _⟩ := exists_rounds 65535 (by decide)
  refine ⟨link, delivered, run, soon, fun agree => ?_⟩
  have few := length_delivered_lt run soon agree
  omega

end GridGooseSV.Ns3
