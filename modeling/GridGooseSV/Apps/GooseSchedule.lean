import GridGooseSV.Apps.GoosePublisher

/-!
# The schedule of the GOOSE publisher application

In every state that the application reaches, each pending event is held by one of its two
handles, and the packets that were sent and those that are left make up what it was given.
-/

namespace GridGooseSV.Ns3.GOOSEPublisher

/-! ## What a step can do -/

section Parts

variable {self after : GOOSEPublisher} {delay : Int} {handler : GOOSEHandler}

theorem scheduleEvent_eq (scheduled : self.scheduleEvent delay handler = some after) :
    ∃ simulator, self.simulator.schedule delay handler =
        some (self.simulator.nextUid, simulator) ∧
      after = { self with simulator := simulator, eventId := some self.simulator.nextUid } := by
  obtain ⟨⟨uid, simulator⟩, found, rest⟩ := Option.bind_eq_some_iff.mp scheduled
  obtain ⟨_, rfl, _⟩ := EventQueue.schedule_eq found
  exact ⟨simulator, found, (Option.some.inj rest).symm⟩

theorem scheduleGooseEvent_eq (scheduled : self.scheduleGooseEvent delay handler = some after) :
    ∃ simulator, self.simulator.schedule delay handler =
        some (self.simulator.nextUid, simulator) ∧
      after =
        { self with simulator := simulator, gooseEventId := some self.simulator.nextUid } := by
  obtain ⟨⟨uid, simulator⟩, found, rest⟩ := Option.bind_eq_some_iff.mp scheduled
  obtain ⟨_, rfl, _⟩ := EventQueue.schedule_eq found
  exact ⟨simulator, found, (Option.some.inj rest).symm⟩

/-- What sending a message does. -/
theorem transmit_eq {frame : Option SentFrame} (transmitted : self.transmit = some (after, frame)) :
    ∃ publisher publication, self.publisher = some publisher ∧
      (publisher.increaseStNum (milliSeconds self.simulator.now)).publish self.dataSetValues =
        some publication ∧
      after = { self with
        publisher := some publication.publisher
        sent := self.sent + 1
        count := self.count - 1 } ∧
      frame = publication.sent.map fun packet =>
        ⟨(publisher.increaseStNum (milliSeconds self.simulator.now)).stNum, 0, packet⟩ := by
  simp only [transmit, Option.bind_eq_bind, Option.pure_def, Option.bind_eq_some_iff,
    Option.some.injEq, Prod.mk.injEq] at transmitted
  obtain ⟨publisher, present, publication, published, rfl, rfl⟩ := transmitted
  exact ⟨publisher, publication, present, published, rfl, rfl⟩

end Parts

/-- What the handler of an event does, once the simulator has taken the event out. -/
inductive Ran (self : GOOSEPublisher) (first : Scheduled GOOSEHandler) :
    GOOSEPublisher → Option SentFrame → Prop
  | exhausted (nothing : self.count = 0) : Ran self first self none
  | periodic {sender after : GOOSEPublisher} {frame : Option SentFrame}
      (left : self.count ≠ 0) (handler : first.event = .send)
      (transmitted : self.transmit = some (sender, frame))
      (scheduled : sender.scheduleEvent sender.attributes.t0 .send = some after) :
      Ran self first after frame
  | handBack {armed sender after : GOOSEPublisher} {frame : Option SentFrame}
      (left : self.count ≠ 0) (handler : first.event = .sendEvent)
      (exceeded : self.eventCount > self.attributes.eventMessages)
      (armedBy : { self with
          simulator := self.simulator.cancel self.eventId
          eventCount := 1 }.scheduleGooseEvent self.attributes.eventInterval .sendEvent =
        some armed)
      (transmitted : armed.transmit = some (sender, frame))
      (scheduled : sender.scheduleEvent sender.attributes.t0 .send = some after) :
      Ran self first after frame
  | burst {sender after : GOOSEPublisher} {frame : Option SentFrame} {delay : Int}
      (left : self.count ≠ 0) (handler : first.event = .sendEvent)
      (inside : ¬ self.eventCount > self.attributes.eventMessages)
      (transmitted : { self with simulator := self.simulator.cancel self.eventId }.transmit =
        some (sender, frame))
      (delayed : sender.T sender.eventCount = some delay)
      (scheduled : sender.scheduleEvent delay .sendEvent = some after) :
      Ran self first { after with eventCount := after.eventCount + 1 } frame

section Steps

variable {self after : GOOSEPublisher} {first : Scheduled GOOSEHandler}
variable {frame : Option SentFrame}

theorem ran_of_send (left : self.count ≠ 0) (sent : self.send = some (after, frame)) :
    ∃ sender, self.transmit = some (sender, frame) ∧
      sender.scheduleEvent sender.attributes.t0 .send = some after := by
  rw [send, if_neg left] at sent
  simp only [Option.bind_eq_bind, Option.pure_def, Option.bind_eq_some_iff, Option.some.injEq,
    Prod.exists, Prod.mk.injEq] at sent
  obtain ⟨sender, _, transmitted, _, scheduled, rfl, rfl⟩ := sent
  exact ⟨sender, transmitted, scheduled⟩

/-- Everything that a handler can do. -/
theorem ran_of_handle (handled : self.handle first.event = some (after, frame)) :
    Ran self first after frame := by
  by_cases nothing : self.count = 0
  · have same : self.handle first.event = some (self, none) := by
      cases first.event
      · exact if_pos nothing
      · exact if_pos nothing
    obtain ⟨rfl, rfl⟩ := Prod.mk.inj (Option.some.inj (same.symm.trans handled))
    exact .exhausted nothing
  · cases handler : first.event with
    | send =>
        rw [handler] at handled
        obtain ⟨sender, transmitted, scheduled⟩ := ran_of_send nothing handled
        exact .periodic nothing handler transmitted scheduled
    | sendEvent =>
        rw [handler] at handled
        have sent : self.sendEvent = some (after, frame) := handled
        rw [sendEvent, if_neg nothing] at sent
        dsimp only at sent
        split at sent
        · rename_i exceeded
          obtain ⟨armed, armedBy, sent⟩ := Option.bind_eq_some_iff.mp sent
          have left : armed.count ≠ 0 := by
            obtain ⟨_, _, rfl⟩ := scheduleGooseEvent_eq armedBy
            exact nothing
          obtain ⟨sender, transmitted, scheduled⟩ := ran_of_send left sent
          exact .handBack nothing handler exceeded armedBy transmitted scheduled
        · rename_i inside
          simp only [Option.bind_eq_bind, Option.pure_def, Option.bind_eq_some_iff,
            Option.some.injEq, Prod.exists, Prod.mk.injEq] at sent
          obtain ⟨sender, _, transmitted, delay, delayed, _, scheduled, rfl, rfl⟩ := sent
          exact .burst nothing handler inside transmitted delayed scheduled

/-- Everything that a step can do. -/
theorem step_cases {action : GOOSEAction} {transmission : Option Transmission}
    (stepped : self.step action = some (after, transmission)) :
    (action = .stop ∧ after = self.stopApplication ∧ transmission = none) ∨
      ∃ first simulator frame, action = .event ∧ self.simulator.next = some (first, simulator) ∧
        Ran { self with simulator := simulator } first after frame ∧
        transmission = frame.map fun frame =>
          ⟨decide (self.gooseEventId = some first.uid), simulator.now, frame⟩ := by
  cases action with
  | stop =>
      obtain ⟨rfl, rfl⟩ := Prod.mk.inj (Option.some.inj stepped)
      exact .inl ⟨rfl, rfl, rfl⟩
  | event =>
      have happened : self.event = some (after, transmission) := stepped
      simp only [event, Option.bind_eq_bind, Option.pure_def, Option.bind_eq_some_iff,
        Option.some.injEq, Prod.exists, Prod.mk.injEq] at happened
      obtain ⟨first, simulator, found, _, frame, handled, rfl, rfl⟩ := happened
      exact .inr ⟨first, simulator, frame, rfl, found, ran_of_handle handled, rfl⟩

end Steps

/-! ## The pending events -/

/-- How the pending events are held. -/
structure Chained (application : GOOSEPublisher) : Prop where
  held : ∀ scheduled ∈ application.simulator.pending,
    application.eventId = some scheduled.uid ∨ application.gooseEventId = some scheduled.uid
  goose : ∀ scheduled ∈ application.simulator.pending,
    application.gooseEventId = some scheduled.uid →
    application.eventId ≠ some scheduled.uid ∧ scheduled.event = .sendEvent
  burst : ∀ scheduled ∈ application.simulator.pending, application.eventId = some scheduled.uid →
    scheduled.event = .sendEvent →
      ∀ other ∈ application.simulator.pending, application.gooseEventId ≠ some other.uid
  known : ∀ uid, application.eventId = some uid ∨ application.gooseEventId = some uid →
    uid < application.simulator.nextUid
  quiet : application.sendEvents = false → application.gooseEventId = none ∧
    ∀ scheduled ∈ application.simulator.pending, scheduled.event = .send

/-- No pending event is held by `eventId`, which is assigned next. -/
structure Loose (application : GOOSEPublisher) : Prop where
  goose : ∀ scheduled ∈ application.simulator.pending,
    application.gooseEventId = some scheduled.uid ∧ scheduled.event = .sendEvent
  known : ∀ uid, application.gooseEventId = some uid → uid < application.simulator.nextUid
  quiet : application.sendEvents = false → application.gooseEventId = none

section Pending

variable {self after : GOOSEPublisher} {delay : Int}

/-- `eventId` is assigned an event; it is one of a burst only if nothing else is pending. -/
theorem Loose.scheduleEvent (loose : self.Loose) {handler : GOOSEHandler}
    (alone : handler = .sendEvent → self.simulator.pending = [] ∧ self.sendEvents = true)
    (scheduled : self.scheduleEvent delay handler = some after) : after.Chained := by
  obtain ⟨simulator, found, rfl⟩ := scheduleEvent_eq scheduled
  obtain ⟨_, _, _, nextUid, pending⟩ := EventQueue.schedule_eq found
  have new : ∀ scheduled ∈ simulator.pending, scheduled ∈ self.simulator.pending ∨
      (scheduled.uid = self.simulator.nextUid ∧ scheduled.event = handler) := by
    intro scheduled member
    rw [pending] at member
    rcases List.mem_append.mp member with earlier | last
    · exact .inl earlier
    · obtain rfl := List.mem_singleton.mp last
      exact .inr ⟨rfl, rfl⟩
  -- The new identifier is greater than every one before it.
  have other : ∀ uid, self.gooseEventId = some uid → self.simulator.nextUid ≠ uid :=
    fun uid holds => Nat.ne_of_gt (loose.known uid holds)
  constructor
  · intro scheduled member
    rcases new scheduled member with earlier | ⟨uid, _⟩
    · exact .inr (loose.goose scheduled earlier).1
    · exact .inl (congrArg some uid.symm)
  · intro scheduled member holds
    have different := other scheduled.uid holds
    refine ⟨fun same => different (Option.some.inj same), ?_⟩
    rcases new scheduled member with earlier | ⟨uid, _⟩
    · exact (loose.goose scheduled earlier).2
    · exact absurd uid.symm different
  · intro scheduled member holds bursting each among same
    rcases new scheduled member with earlier | ⟨_, event⟩
    · exact other scheduled.uid (loose.goose scheduled earlier).1 (Option.some.inj holds)
    · obtain ⟨nothing, _⟩ := alone (event.symm.trans bursting)
      rcases new each among with earlier | ⟨uid, _⟩
      · rw [nothing] at earlier
        exact absurd earlier List.not_mem_nil
      · exact other each.uid same uid.symm
  · intro uid holds
    rw [nextUid]
    rcases holds with new | old
    · obtain rfl := Option.some.inj new
      exact Nat.lt_succ_self _
    · exact Nat.lt_succ_of_lt (loose.known uid old)
  · intro quiet
    have none := loose.quiet quiet
    refine ⟨none, fun scheduled member => ?_⟩
    rcases new scheduled member with earlier | ⟨_, event⟩
    · have goose := (loose.goose scheduled earlier).1
      rw [none] at goose
      contradiction
    · rw [event]
      cases handler with
      | send => rfl
      | sendEvent => exact absurd (quiet.symm.trans (alone rfl).2) Bool.false_ne_true

/-- `gooseEventId` is assigned an event while nothing is pending. -/
theorem loose_of_scheduleGooseEvent
    (scheduled : self.scheduleGooseEvent delay .sendEvent = some after)
    (nothing : self.simulator.pending = []) (enabled : self.sendEvents = true) :
    after.Loose := by
  obtain ⟨simulator, found, rfl⟩ := scheduleGooseEvent_eq scheduled
  obtain ⟨_, _, _, nextUid, pending⟩ := EventQueue.schedule_eq found
  constructor
  · intro scheduled member
    rw [pending, nothing, List.nil_append, List.mem_singleton] at member
    obtain rfl := member
    exact ⟨rfl, rfl⟩
  · intro uid holds
    obtain rfl := Option.some.inj holds
    rw [nextUid]
    exact Nat.lt_succ_self _
  · intro quiet
    exact absurd (quiet.symm.trans enabled) Bool.false_ne_true

variable {first : Scheduled GOOSEHandler} {simulator : EventQueue GOOSEHandler}

/-- Running an event alone keeps the others as they were. -/
theorem Chained.next (chained : self.Chained)
    (found : self.simulator.next = some (first, simulator)) :
    { self with simulator := simulator }.Chained := by
  obtain ⟨_, _, nextUid, pending⟩ := EventQueue.next_eq found
  have earlier : ∀ scheduled ∈ simulator.pending, scheduled ∈ self.simulator.pending :=
    fun scheduled member => ((pending scheduled).mp member).1
  exact {
    held := fun scheduled member => chained.held scheduled (earlier _ member)
    goose := fun scheduled member => chained.goose scheduled (earlier _ member)
    burst := fun scheduled member holds bursting other among =>
      chained.burst scheduled (earlier _ member) holds bursting other (earlier _ among)
    known := fun uid holds => nextUid ▸ chained.known uid holds
    quiet := fun quiet => ⟨(chained.quiet quiet).1, fun scheduled member =>
      (chained.quiet quiet).2 scheduled (earlier _ member)⟩ }

/-- Once a periodic event is run, only `gooseEventId` may hold an event. -/
theorem Chained.loose_next (chained : self.Chained)
    (found : self.simulator.next = some (first, simulator)) (periodic : first.event = .send) :
    { self with simulator := simulator }.Loose := by
  obtain ⟨member, _, nextUid, pending⟩ := EventQueue.next_eq found
  have mine : self.eventId = some first.uid := by
    rcases chained.held first member with mine | other
    · exact mine
    · have event := (chained.goose first member other).2
      rw [periodic] at event
      contradiction
  constructor
  · intro scheduled among
    obtain ⟨earlier, different⟩ := (pending scheduled).mp among
    rcases chained.held scheduled earlier with same | other
    · exact absurd (Option.some.inj (same.symm.trans mine)) different
    · exact ⟨other, (chained.goose scheduled earlier other).2⟩
  · intro uid holds
    exact nextUid ▸ chained.known uid (.inr holds)
  · exact fun quiet => (chained.quiet quiet).1

/-- Once an event of a burst is run and `eventId` is cancelled, nothing is pending. -/
theorem Chained.pending_cancel (chained : self.Chained)
    (found : self.simulator.next = some (first, simulator)) (bursting : first.event = .sendEvent) :
    (simulator.cancel self.eventId).pending = [] ∧ self.sendEvents = true := by
  obtain ⟨member, _, _, pending⟩ := EventQueue.next_eq found
  constructor
  · apply List.eq_nil_iff_forall_not_mem.mpr
    intro scheduled among
    obtain ⟨left, cancelled⟩ := EventQueue.mem_cancel.mp among
    obtain ⟨earlier, different⟩ := (pending scheduled).mp left
    rcases chained.held scheduled earlier with same | other
    · exact cancelled same
    · rcases chained.held first member with mine | goose
      · exact chained.burst first member mine bursting scheduled earlier other
      · exact different (Option.some.inj (other.symm.trans goose))
  · cases enabled : self.sendEvents with
    | true => rfl
    | false =>
        have event := (chained.quiet enabled).2 first member
        rw [bursting] at event
        contradiction

/-- Stopping the application cancels everything. -/
theorem Chained.pending_stop (chained : self.Chained) :
    self.stopApplication.simulator.pending = [] := by
  apply List.eq_nil_iff_forall_not_mem.mpr
  intro scheduled member
  unfold stopApplication at member
  dsimp only at member
  split at member
  · obtain ⟨left, notGoose⟩ := EventQueue.mem_cancel.mp member
    obtain ⟨earlier, notMine⟩ := EventQueue.mem_cancel.mp left
    rcases chained.held scheduled earlier with mine | goose
    · exact notMine mine
    · exact notGoose goose
  · rename_i disabled
    obtain ⟨earlier, notMine⟩ := EventQueue.mem_cancel.mp member
    rcases chained.held scheduled earlier with mine | goose
    · exact notMine mine
    · rw [(chained.quiet (Bool.eq_false_iff.mpr disabled)).1] at goose
      contradiction

end Pending

/-! ## The packets -/

/-- The number of packets that `MaxPackets` stands for. -/
def budget (maxPackets : UInt64) : Nat := if maxPackets = 0 then 2 ^ 64 - 1 else maxPackets.toNat

theorem budget_lt (maxPackets : UInt64) : budget maxPackets < 2 ^ 64 := by
  have small := maxPackets.toNat_lt
  unfold budget
  split <;> omega

/-- What every step keeps. -/
structure Invariant (attributes : GOOSEAttributes) (application : GOOSEPublisher) : Prop where
  chained : application.Chained
  accounted : application.sent.toNat + application.count.toNat = budget attributes.maxPackets
  stopped : application.publisher = none → application.simulator.pending = []

section Steps

variable {attributes : GOOSEAttributes} {self after : GOOSEPublisher}
variable {first : Scheduled GOOSEHandler} {frame : Option SentFrame}

/-- A message is taken from what is left. -/
theorem accounted_transmit (transmitted : self.transmit = some (after, frame))
    (accounted : self.sent.toNat + self.count.toNat = budget attributes.maxPackets)
    (left : self.count ≠ 0) :
    after.sent.toNat + after.count.toNat = budget attributes.maxPackets := by
  obtain ⟨_, _, _, _, rfl, _⟩ := transmit_eq transmitted
  have most := budget_lt attributes.maxPackets
  have positive : self.count.toNat ≠ 0 := fun zero => left (UInt64.toNat_inj.mp zero)
  have unit : (1 : UInt64).toNat = 1 := rfl
  have one : (1 : UInt64) ≤ self.count := by
    rw [UInt64.le_iff_toNat_le, unit]
    omega
  dsimp only
  rw [UInt64.toNat_sub_of_le _ _ one, UInt64.toNat_add, unit]
  omega

/-- What sending a message leaves alone. -/
theorem chained_parts_transmit (transmitted : self.transmit = some (after, frame)) :
    after.simulator = self.simulator ∧ after.eventId = self.eventId ∧
      after.gooseEventId = self.gooseEventId ∧ after.sendEvents = self.sendEvents ∧
      after.publisher.isSome := by
  obtain ⟨_, _, _, _, rfl, _⟩ := transmit_eq transmitted
  exact ⟨rfl, rfl, rfl, rfl, rfl⟩

/-- What scheduling leaves alone. -/
theorem accounted_parts_scheduleEvent {delay : Int} {handler : GOOSEHandler}
    (scheduled : self.scheduleEvent delay handler = some after) :
    after.sent = self.sent ∧ after.count = self.count ∧ after.publisher = self.publisher := by
  obtain ⟨_, _, rfl⟩ := scheduleEvent_eq scheduled
  exact ⟨rfl, rfl, rfl⟩

/-- A handler that sends a message schedules one event after it. -/
theorem invariant_scheduleEvent {sender : GOOSEPublisher}
    (transmitted : self.transmit = some (sender, frame)) {delay : Int} {handler : GOOSEHandler}
    (scheduled : sender.scheduleEvent delay handler = some after) (chained : after.Chained)
    (accounted : self.sent.toNat + self.count.toNat = budget attributes.maxPackets)
    (left : self.count ≠ 0) : Invariant attributes after := by
  have total := accounted_transmit transmitted accounted left
  obtain ⟨_, _, _, _, present⟩ := chained_parts_transmit transmitted
  obtain ⟨sent, count, publisher⟩ := accounted_parts_scheduleEvent scheduled
  refine ⟨chained, by rw [sent, count, total], fun absent => ?_⟩
  rw [← publisher, absent] at present
  contradiction

theorem Loose.transmit (loose : self.Loose) (transmitted : self.transmit = some (after, frame)) :
    after.Loose := by
  obtain ⟨simulator, _, gooseEventId, sendEvents, _⟩ := chained_parts_transmit transmitted
  exact {
    goose := by rw [simulator, gooseEventId]; exact loose.goose
    known := by rw [simulator, gooseEventId]; exact loose.known
    quiet := by rw [sendEvents, gooseEventId]; exact loose.quiet }

/-- What the handler of an event keeps. -/
theorem Invariant.ran (invariant : Invariant attributes self)
    {simulator : EventQueue GOOSEHandler} (found : self.simulator.next = some (first, simulator))
    (ran : Ran { self with simulator := simulator } first after frame) :
    Invariant attributes after := by
  obtain ⟨chained, accounted, stopped⟩ := invariant
  have running : self.publisher ≠ none := by
    intro absent
    have member := (EventQueue.next_eq found).1
    rw [stopped absent] at member
    exact List.not_mem_nil member
  cases ran with
  | exhausted _ => exact ⟨chained.next found, accounted, fun absent => absurd absent running⟩
  | periodic left handler transmitted scheduled =>
      have loose := (chained.loose_next found handler).transmit transmitted
      exact invariant_scheduleEvent transmitted scheduled
        (loose.scheduleEvent (by simp) scheduled) accounted left
  | handBack left handler _ armedBy transmitted scheduled =>
      obtain ⟨nothing, enabled⟩ := chained.pending_cancel found handler
      have loose := (loose_of_scheduleGooseEvent armedBy nothing enabled).transmit transmitted
      obtain ⟨_, _, rfl⟩ := scheduleGooseEvent_eq armedBy
      exact invariant_scheduleEvent transmitted scheduled
        (loose.scheduleEvent (by simp) scheduled) accounted left
  | @burst sender after _ delay left handler _ transmitted _ scheduled =>
      obtain ⟨nothing, enabled⟩ := chained.pending_cancel found handler
      obtain ⟨same, _, gooseEventId, sendEvents, _⟩ := chained_parts_transmit transmitted
      have loose : sender.Loose := {
        goose := by rw [same, nothing]; simp
        known := by
          intro uid holds
          rw [same, EventQueue.nextUid_cancel, (EventQueue.next_eq found).2.2.1]
          exact chained.known uid (.inr (gooseEventId.symm.trans holds))
        quiet := by
          intro quiet
          exact absurd (quiet.symm.trans (sendEvents.trans enabled)) Bool.false_ne_true }
      have chain := loose.scheduleEvent
        (fun _ => ⟨by rw [same, nothing], sendEvents.trans enabled⟩) scheduled
      obtain ⟨_, total, running⟩ :=
        invariant_scheduleEvent transmitted scheduled chain accounted left
      exact ⟨⟨chain.held, chain.goose, chain.burst, chain.known, chain.quiet⟩, total, running⟩

/-- What every step keeps. -/
theorem Invariant.step (invariant : Invariant attributes self) {action : GOOSEAction}
    {transmission : Option Transmission}
    (stepped : self.step action = some (after, transmission)) : Invariant attributes after := by
  rcases step_cases stepped with ⟨_, rfl, _⟩ | ⟨first, simulator, frame, _, found, ran, _⟩
  · have nothing := invariant.chained.pending_stop
    have nextUid : self.stopApplication.simulator.nextUid = self.simulator.nextUid := by
      unfold stopApplication
      dsimp only
      split <;> simp
    refine ⟨⟨?_, ?_, ?_, ?_, ?_⟩, invariant.accounted, fun _ => nothing⟩
    · simp [nothing]
    · simp [nothing]
    · simp [nothing]
    · rw [nextUid]
      exact invariant.chained.known
    · rw [nothing]
      exact fun quiet => ⟨(invariant.chained.quiet quiet).1, by simp⟩
  · exact invariant.ran found ran

end Steps

/-! ## Runs -/

section Runs

variable {attributes : GOOSEAttributes} {srcAddr : Octets 6} {found : Memory} {now nextUid : Nat}
variable {self : GOOSEPublisher}

/-- The application as it is before it schedules an event. -/
def unscheduled (attributes : GOOSEAttributes) (publisher : GridGooseSV.GoosePublisher)
    (now nextUid : Nat) : GOOSEPublisher where
  simulator := .empty now nextUid
  attributes := attributes
  dataSetValues := analogDataSet
  publisher := some publisher
  count := if attributes.maxPackets ≤ 0 then -1 else attributes.maxPackets
  eventCount := 1
  sendEvents := attributes.eventInterval ≠ 0
  eventId := none
  gooseEventId := none
  sent := 0

/-- What starting the application does. -/
theorem startApplication_eq
    (started : startApplication attributes srcAddr found (.empty now nextUid) = some self) :
    ∃ publisher armed,
      (GoosePublisher.create (gooseCommParameters attributes.appId) srcAddr (milliSeconds now)
        found).performAll [.setGoCbRef gcbAnalogValues, .setConfRev 1,
          .setDataSetRef analogValues, .setTimeAllowedToLive 500] = some publisher ∧
      (if attributes.eventInterval ≠ 0 then
        (unscheduled attributes publisher now nextUid).scheduleGooseEvent
          attributes.eventInterval .sendEvent = some armed
      else armed = unscheduled attributes publisher now nextUid) ∧
      armed.scheduleEvent 0 .send = some self := by
  simp only [startApplication, Option.bind_eq_bind, Option.pure_def,
    Option.bind_eq_some_iff, decide_eq_true_eq] at started
  obtain ⟨publisher, performed, rest⟩ := started
  by_cases enabled : attributes.eventInterval ≠ 0
  · obtain ⟨armed, arming, scheduled⟩ :=
      Option.bind_eq_some_iff.mp ((if_pos enabled).symm.trans rest)
    exact ⟨publisher, armed, performed, by rwa [if_pos enabled], scheduled⟩
  · have scheduled := (if_neg enabled).symm.trans rest
    refine ⟨publisher, _, performed, ?_, scheduled⟩
    rw [if_neg enabled]
    rfl

theorem invariant_startApplication
    (started : startApplication attributes srcAddr found (.empty now nextUid) = some self) :
    Invariant attributes self := by
  obtain ⟨publisher, armed, _, arming, scheduled⟩ := startApplication_eq started
  have total : (unscheduled attributes publisher now nextUid).sent.toNat +
      (unscheduled attributes publisher now nextUid).count.toNat =
        budget attributes.maxPackets := by
    have least : attributes.maxPackets ≤ 0 ↔ attributes.maxPackets = 0 := by
      rw [UInt64.le_iff_toNat_le, ← UInt64.toNat_inj]
      exact Nat.le_zero
    simp only [unscheduled, budget, least]
    split
    · rfl
    · exact Nat.zero_add _
  have parts : armed.Loose ∧ armed.sent = (unscheduled attributes publisher now nextUid).sent ∧
      armed.count = (unscheduled attributes publisher now nextUid).count ∧
      armed.publisher = some publisher := by
    split at arming
    · rename_i enabled
      have loose := loose_of_scheduleGooseEvent arming rfl (decide_eq_true enabled)
      obtain ⟨_, _, rfl⟩ := scheduleGooseEvent_eq arming
      exact ⟨loose, rfl, rfl, rfl⟩
    · rw [arming]
      exact ⟨⟨by simp [unscheduled, EventQueue.empty], by simp [unscheduled], fun _ => rfl⟩, rfl,
        rfl, rfl⟩
  obtain ⟨loose, sent, count, present⟩ := parts
  have chained := loose.scheduleEvent (by simp) scheduled
  obtain ⟨sentAfter, countAfter, publisherAfter⟩ := accounted_parts_scheduleEvent scheduled
  refine ⟨chained, by rw [sentAfter, countAfter, sent, count, total], fun absent => ?_⟩
  rw [publisherAfter, present] at absent
  contradiction

/-- A run of the application, from its start. -/
theorem startAndRun_eq {actions : List GOOSEAction} {sent : List Transmission}
    (run : startAndRun attributes srcAddr found now nextUid actions = some (self, sent)) :
    ∃ first outputs, startApplication attributes srcAddr found (.empty now nextUid) = some first ∧
      runAll step first actions = some (self, outputs) ∧ sent = outputs.reduceOption := by
  obtain ⟨first, started, rest⟩ := Option.bind_eq_some_iff.mp run
  obtain ⟨⟨_, outputs⟩, ran, same⟩ := Option.map_eq_some_iff.mp rest
  obtain ⟨rfl, rfl⟩ := Prod.mk.inj same
  exact ⟨first, outputs, started, ran, rfl⟩

theorem invariant_startAndRun {actions : List GOOSEAction} {sent : List Transmission}
    (run : startAndRun attributes srcAddr found now nextUid actions = some (self, sent)) :
    Invariant attributes self := by
  obtain ⟨first, _, started, ran, _⟩ := startAndRun_eq run
  exact runAll_invariant (fun _ _ _ _ before stepped => Invariant.step before stepped)
    (invariant_startApplication started) ran

/-- One chain of transmissions, and the packets that the application was given. -/
structure OneChain (attributes : GOOSEAttributes) (application : GOOSEPublisher) : Prop where
  /-- each handle holds at most one pending event -/
  eventId : (application.simulator.held application.eventId).length ≤ 1
  gooseEventId : (application.simulator.held application.gooseEventId).length ≤ 1
  oneSender : ¬ ((∃ scheduled ∈ application.simulator.held application.eventId,
      scheduled.event = .sendEvent) ∧
    ∃ scheduled ∈ application.simulator.held application.gooseEventId,
      scheduled.event = .sendEvent)
  noOther : ∀ scheduled ∈ application.simulator.pending,
    scheduled ∈ application.simulator.held application.eventId ∨
      scheduled ∈ application.simulator.held application.gooseEventId
  accounted : application.sent.toNat + application.count.toNat = budget attributes.maxPackets
  /-- with nothing left, no step sends a frame or takes a packet -/
  exhausted : application.count = 0 → ∀ action after transmission,
    application.step action = some (after, transmission) →
      transmission = none ∧ after.sent = application.sent ∧ after.count = 0
  /-- nothing is pending once the application is stopped, which destroys the publisher -/
  stopped : application.stopApplication.simulator.pending = [] ∧
    (application.publisher = none → application.simulator.pending = [])

/-- An application without packets sends nothing. -/
theorem step_of_exhausted (nothing : self.count = 0) {action : GOOSEAction}
    {after : GOOSEPublisher} {transmission : Option Transmission}
    (stepped : self.step action = some (after, transmission)) :
    transmission = none ∧ after.sent = self.sent ∧ after.count = 0 := by
  rcases step_cases stepped with ⟨_, rfl, rfl⟩ | ⟨_, _, _, _, _, ran, rfl⟩
  · exact ⟨rfl, rfl, nothing⟩
  · cases ran with
    | exhausted _ => exact ⟨rfl, rfl, nothing⟩
    | periodic left | handBack left | burst left => exact absurd nothing left

/-- In every state that the application reaches, there is one chain of transmissions. -/
theorem oneChain_startAndRun {actions : List GOOSEAction} {sent : List Transmission}
    (run : startAndRun attributes srcAddr found now nextUid actions = some (self, sent)) :
    OneChain attributes self := by
  obtain ⟨chained, accounted, stopped⟩ := invariant_startAndRun run
  exact {
    eventId := EventQueue.length_held_le _ _
    gooseEventId := EventQueue.length_held_le _ _
    oneSender := by
      rintro ⟨⟨mine, member, bursting⟩, other, among, _⟩
      obtain ⟨pending, holds⟩ := EventQueue.mem_held.mp member
      obtain ⟨pendingOther, holdsOther⟩ := EventQueue.mem_held.mp among
      exact chained.burst mine pending holds bursting other pendingOther holdsOther
    noOther := fun scheduled member => (chained.held scheduled member).imp
      (fun mine => EventQueue.mem_held.mpr ⟨member, mine⟩)
      (fun goose => EventQueue.mem_held.mpr ⟨member, goose⟩)
    accounted := accounted
    exhausted := fun nothing _ _ _ stepped => step_of_exhausted nothing stepped
    stopped := ⟨chained.pending_stop, stopped⟩ }

/-- An application with events of two messages. -/
def eventful : GOOSEAttributes where
  maxPackets := 5
  appId := 1000
  t0 := 20000000
  t1 := 3000000
  eventInterval := 50000000
  eventMessages := 2
  stretched := powered 20000000 3000000 2

theorem oneChain_eventful :
    ∃ self sent, startAndRun eventful Octets.zero (fun _ => 0) 0 4
        [.event, .event, .event, .event, .event, .event, .stop] = some (self, sent) ∧
      OneChain eventful self := by
  have runs : (startAndRun eventful Octets.zero (fun _ => 0) 0 4
      [.event, .event, .event, .event, .event, .event, .stop]).isSome := by decide +kernel
  obtain ⟨⟨self, sent⟩, run⟩ := Option.isSome_iff_exists.mp runs
  exact ⟨self, sent, run, oneChain_startAndRun run⟩

end Runs

end GridGooseSV.Ns3.GOOSEPublisher
