import GridGooseSV.Apps.GooseNumbering
import GridGooseSV.Foundation.Episodes

/-!
# Bursts of the GOOSE publisher application

An event leads to a burst: `SendEvent` sends a message and schedules itself, until its counter
exceeds `EventMessages`. Then it schedules the next event and hands back to `Send`. The counter has
8 bits, so that it exceeds every number but 255.
-/

namespace GridGooseSV.Ns3

/-- What a step of the application is. -/
inductive GOOSETurn
  | stopped
  /-- a handler finds no packets left -/
  | exhausted
  /-- the simulator runs `Send` -/
  | periodic
  /-- `SendEvent` sends a message itself -/
  | burst
  /-- `SendEvent` schedules the next event and calls `Send` -/
  | handBack
  deriving DecidableEq, Repr

/-- A step that was taken. -/
structure GOOSERecord where
  turn : GOOSETurn
  /-- whether an event starts: the handler is the one that `gooseEventId` stood for -/
  startsEvent : Bool
  /-- the counter before the step -/
  eventCount : UInt8
  transmission : Option Transmission
  deriving DecidableEq

namespace GOOSEPublisher

/-- What running a handler is. -/
def turn (self : GOOSEPublisher) : GOOSEHandler → GOOSETurn
  | .send => if self.count = 0 then .exhausted else .periodic
  | .sendEvent =>
    if self.count = 0 then .exhausted
    else if self.eventCount > self.attributes.eventMessages then .handBack
    else .burst

/-- A step, and the record of it. -/
def record (self : GOOSEPublisher) : GOOSEAction → Option (GOOSEPublisher × GOOSERecord)
  | .stop => some (self.stopApplication, ⟨.stopped, false, self.eventCount, none⟩)
  | .event => do
    let (first, _) ← self.simulator.next
    let (after, transmission) ← self.event
    pure (after, ⟨self.turn first.event, decide (self.gooseEventId = some first.uid),
      self.eventCount, transmission⟩)

/-- The application is started while nothing of it is pending, and its steps are recorded. -/
def startAndRecord (attributes : GOOSEAttributes) (srcAddr : Octets 6) (found : Memory)
    (now nextUid : Nat) (actions : List GOOSEAction) :
    Option (GOOSEPublisher × List GOOSERecord) := do
  let self ← startApplication attributes srcAddr found (.empty now nextUid)
  runAll record self actions

end GOOSEPublisher

/-- The burst of an event: messages that `SendEvent` sends itself, up to the step that hands back
after so many of them, or that finds the application stopped or without packets. -/
def burstRules (eventMessages : UInt8) : EpisodeRules GOOSERecord where
  starts record := record.startsEvent = true
  inside record := record.turn = .burst ∧ record.transmission.isSome
  ends count record := record.turn = .stopped ∨ record.turn = .exhausted ∨
    record.turn = .handBack ∧ count = eventMessages.toNat
  limit := eventMessages.toNat

/-- Every event leads to a burst that comes to its end, or the run ends in it and `SendEvent` is run
next. -/
def BurstsBounded (eventMessages : UInt8) (final : GOOSEPublisher) (records : List GOOSERecord) :
    Prop :=
  ∀ before start rest, records = before ++ start :: rest → start.startsEvent = true →
    (burstRules eventMessages).Closed (start :: rest) ∨
      (rest.length + 1 ≤ eventMessages.toNat ∧
        (∀ record ∈ start :: rest, (burstRules eventMessages).inside record) ∧
        ∃ first simulator, final.simulator.next = some (first, simulator) ∧
          first.event = .sendEvent)

/-- The counter was 0 when `SendEvent` sent a message. -/
def GOOSERecord.Wrapped (record : GOOSERecord) : Prop :=
  record.turn = .burst ∧ record.eventCount = 0

/-- Every time of the application can be waited for. -/
structure GOOSEAttributes.Waits (attributes : GOOSEAttributes) : Prop where
  rate : attributes.t1 ≠ 0
  t0 : 0 ≤ attributes.t0
  t1 : 0 ≤ attributes.t1
  stretched : ∀ n, 0 ≤ attributes.stretched n

namespace GOOSEPublisher

/-- What is recorded when a handler is run. -/
structure Records (application : GOOSEPublisher) (first : Scheduled GOOSEHandler)
    (frame : Option SentFrame) (record : GOOSERecord) : Prop where
  turn : record.turn = application.turn first.event
  startsEvent : record.startsEvent = true ↔ application.gooseEventId = some first.uid
  eventCount : record.eventCount = application.eventCount
  transmission : record.transmission.isSome = frame.isSome

section Steps

variable {self after : GOOSEPublisher} {record : GOOSERecord} {action : GOOSEAction}

/-- A recorded step is a step. -/
theorem step_of_record (recorded : self.record action = some (after, record)) :
    self.step action = some (after, record.transmission) := by
  cases action with
  | stop =>
      obtain ⟨rfl, rfl⟩ := Prod.mk.inj (Option.some.inj recorded)
      rfl
  | event =>
      obtain ⟨_, _, rest⟩ := Option.bind_eq_some_iff.mp recorded
      obtain ⟨_, happened, same⟩ := Option.bind_eq_some_iff.mp rest
      obtain ⟨rfl, rfl⟩ := Prod.mk.inj (Option.some.inj same)
      exact happened

/-- Everything that a recorded step can be. -/
theorem record_cases (recorded : self.record action = some (after, record)) :
    (after = self.stopApplication ∧ record = ⟨.stopped, false, self.eventCount, none⟩) ∨
      ∃ first simulator frame, self.simulator.next = some (first, simulator) ∧
        Ran { self with simulator := simulator } first after frame ∧
        self.Records first frame record := by
  rcases step_cases (step_of_record recorded) with
    ⟨rfl, rfl, _⟩ | ⟨first, simulator, frame, rfl, found, ran, sent⟩
  · exact .inl ⟨rfl, (Prod.mk.inj (Option.some.inj recorded)).2.symm⟩
  · refine .inr ⟨first, simulator, frame, found, ran, ?_⟩
    obtain ⟨_, again, rest⟩ := Option.bind_eq_some_iff.mp recorded
    obtain ⟨_, _, same⟩ := Option.bind_eq_some_iff.mp rest
    obtain rfl := Option.some.inj (found.symm.trans again)
    obtain ⟨rfl, rfl⟩ := Prod.mk.inj (Option.some.inj same)
    exact ⟨rfl, decide_eq_true_iff, rfl, by rw [sent, Option.isSome_map]⟩

end Steps

/-- Where the application stands: in a burst of which so many messages were sent, or in none. -/
inductive Stands (application : GOOSEPublisher) : Option Nat → Prop
  | spent (nothing : application.count = 0) : Stands application none
  | waiting (rearmed : ∀ scheduled ∈ application.simulator.pending, scheduled.event = .sendEvent →
      application.gooseEventId = some scheduled.uid ∧ application.eventCount = 1) :
      Stands application none
  | bursting {scheduled : Scheduled GOOSEHandler} {count : Nat}
      (alone : application.simulator.pending = [scheduled]) (event : scheduled.event = .sendEvent)
      (other : application.gooseEventId ≠ some scheduled.uid)
      (counter : application.eventCount = UInt8.ofNat (count + 1)) :
      Stands application (some count)

/-- No next event is scheduled in a burst. -/
theorem Stands.held_eq_nil {application : GOOSEPublisher} {count : Nat}
    (stands : Stands application (some count)) :
    application.simulator.held application.gooseEventId = [] := by
  obtain _ | _ | ⟨alone, _, other, _⟩ := stands
  rw [List.eq_nil_iff_forall_not_mem]
  intro scheduled member
  obtain ⟨pending, holds⟩ := EventQueue.mem_held.mp member
  rw [alone, List.mem_singleton] at pending
  exact other (pending ▸ holds)

section Standing

variable {self armed sender after : GOOSEPublisher} {frame : Option SentFrame}

/-- Between bursts, a step of `Send` leaves the next event as it was. -/
theorem waiting_of_periodic
    (rearmed : ∀ scheduled ∈ self.simulator.pending, scheduled.event = .sendEvent →
      self.gooseEventId = some scheduled.uid ∧ self.eventCount = 1)
    (transmitted : self.transmit = some (sender, frame)) {delay : Int}
    (scheduled : sender.scheduleEvent delay .send = some after) : Stands after none := by
  obtain ⟨_, _, _, _, rfl, _⟩ := transmit_eq transmitted
  obtain ⟨simulator, found, rfl⟩ := scheduleEvent_eq scheduled
  refine .waiting fun each member event => ?_
  rw [(EventQueue.schedule_eq found).2.2.2.2] at member
  rcases List.mem_append.mp member with earlier | last
  · exact rearmed each earlier event
  · obtain rfl := List.mem_singleton.mp last
    contradiction

/-- Handing back arms the counter again. -/
theorem waiting_of_handBack {delay interval : Int}
    (nothing : (self.simulator.cancel self.eventId).pending = [])
    (armedBy : { self with
        simulator := self.simulator.cancel self.eventId
        eventCount := 1 }.scheduleGooseEvent interval .sendEvent = some armed)
    (transmitted : armed.transmit = some (sender, frame))
    (scheduled : sender.scheduleEvent delay .send = some after) : Stands after none := by
  obtain ⟨simulator, found, rfl⟩ := scheduleGooseEvent_eq armedBy
  refine waiting_of_periodic (fun each member _ => ?_) transmitted scheduled
  rw [(EventQueue.schedule_eq found).2.2.2.2] at member
  dsimp only at member
  rw [nothing, List.nil_append, List.mem_singleton] at member
  obtain rfl := member
  exact ⟨rfl, rfl⟩

/-- A message of a burst leaves nothing but the next step of the burst. -/
theorem bursting_of_burst {delay : Int} {count : Nat}
    (nothing : (self.simulator.cancel self.eventId).pending = [])
    (known : ∀ uid, self.gooseEventId = some uid → uid < self.simulator.nextUid)
    (counter : self.eventCount = UInt8.ofNat count)
    (transmitted : { self with simulator := self.simulator.cancel self.eventId }.transmit =
      some (sender, frame))
    (scheduled : sender.scheduleEvent delay .sendEvent = some after) :
    Stands { after with eventCount := after.eventCount + 1 } (some count) := by
  obtain ⟨_, _, _, _, rfl, _⟩ := transmit_eq transmitted
  obtain ⟨simulator, found, rfl⟩ := scheduleEvent_eq scheduled
  have pending := (EventQueue.schedule_eq found).2.2.2.2
  dsimp only at pending
  rw [nothing, List.nil_append] at pending
  refine .bursting pending rfl (fun same => ?_) ?_
  · have earlier := known _ same
    rw [EventQueue.nextUid_cancel] at earlier
    exact Nat.lt_irrefl _ earlier
  · simp only [counter, UInt8.ofNat_add]
    rfl

end Standing

/-- What holds of an application and the records of its steps. -/
structure Recorded (attributes : GOOSEAttributes) (srcAddr : Octets 6)
    (application : GOOSEPublisher) (records : List GOOSERecord) : Prop where
  sending : ∃ sent, Sending attributes srcAddr application sent
  fixed : application.attributes = attributes
  bursts : (∃ current, Stands application current ∧
      (burstRules attributes.eventMessages).Orderly current records ∧
      ∀ record ∈ records, ¬ record.Wrapped) ∨
    (attributes.eventMessages = 255 ∧ (burstRules attributes.eventMessages).Overlong records ∧
      ∃ record ∈ records, record.Wrapped)

section Runs

variable {attributes : GOOSEAttributes} {srcAddr : Octets 6} {self after : GOOSEPublisher}
variable {records : List GOOSERecord} {record : GOOSERecord} {action : GOOSEAction}
variable {first : Scheduled GOOSEHandler} {simulator : EventQueue GOOSEHandler}
variable {frame : Option SentFrame}

theorem not_wrapped_concat (unwrapped : ∀ record ∈ records, ¬ record.Wrapped)
    (last : ¬ record.Wrapped) : ∀ each ∈ records ++ [record], ¬ each.Wrapped := by
  intro each among
  rcases List.mem_append.mp among with earlier | final
  · exact unwrapped each earlier
  · rw [List.mem_singleton.mp final]
    exact last

/-- No step changes the attributes. -/
theorem attributes_step {transmission : Option Transmission}
    (stepped : self.step action = some (after, transmission)) :
    after.attributes = self.attributes := by
  rcases step_cases stepped with ⟨_, rfl, _⟩ | ⟨first, simulator, frame, _, found, ran, _⟩
  · rfl
  · cases ran with
    | exhausted => rfl
    | periodic _ _ transmitted scheduled =>
        obtain ⟨_, _, _, _, rfl, _⟩ := transmit_eq transmitted
        obtain ⟨_, _, rfl⟩ := scheduleEvent_eq scheduled
        rfl
    | handBack _ _ _ armedBy transmitted scheduled =>
        obtain ⟨_, _, rfl⟩ := scheduleGooseEvent_eq armedBy
        obtain ⟨_, _, _, _, rfl, _⟩ := transmit_eq transmitted
        obtain ⟨_, _, rfl⟩ := scheduleEvent_eq scheduled
        rfl
    | burst _ _ _ transmitted _ scheduled =>
        obtain ⟨_, _, _, _, rfl, _⟩ := transmit_eq transmitted
        obtain ⟨_, _, rfl⟩ := scheduleEvent_eq scheduled
        rfl

/-- A message that is sent in a burst is one of the burst. -/
theorem Records.inside (records : self.Records first frame record) (turn : record.turn = .burst)
    (sent : frame.isSome) (eventMessages : UInt8) : (burstRules eventMessages).inside record :=
  ⟨turn, records.transmission.trans sent⟩

/-- A step without packets. -/
theorem orderly_spent (nothing : self.count = 0)
    (orderly : (burstRules self.attributes.eventMessages).Orderly none records)
    (ran : Ran { self with simulator := simulator } first after frame)
    (recorded : self.Records first frame record) :
    Stands after none ∧
      (burstRules self.attributes.eventMessages).Orderly none (records ++ [record]) ∧
      ¬ record.Wrapped := by
  have turn : record.turn = .exhausted := by
    rw [recorded.turn]
    cases first.event
    · exact if_pos nothing
    · exact if_pos nothing
  refine ⟨?_, orderly.quiet fun _ => .inr (.inl turn), by simp [GOOSERecord.Wrapped, turn]⟩
  cases ran with
  | exhausted _ => exact .spent nothing
  | periodic left | handBack left | burst left => exact absurd nothing left

/-- A step between bursts. -/
theorem orderly_waiting (invariant : Invariant attributes self)
    (rearmed : ∀ scheduled ∈ self.simulator.pending, scheduled.event = .sendEvent →
      self.gooseEventId = some scheduled.uid ∧ self.eventCount = 1)
    (orderly : (burstRules self.attributes.eventMessages).Orderly none records)
    (found : self.simulator.next = some (first, simulator))
    (ran : Ran { self with simulator := simulator } first after frame)
    (sent : self.count ≠ 0 → frame.isSome) (recorded : self.Records first frame record) :
    ∃ current, Stands after current ∧
      (burstRules self.attributes.eventMessages).Orderly current (records ++ [record]) ∧
      ¬ record.Wrapped := by
  obtain ⟨member, _, nextUid, left⟩ := EventQueue.next_eq found
  have turn := recorded.turn
  have number : (1 : UInt8).toNat = 1 := rfl
  cases ran with
  | exhausted nothing =>
      exact ⟨none, orderly_spent nothing orderly (.exhausted nothing) recorded⟩
  | periodic some handler transmitted scheduled =>
      rw [handler, GOOSEPublisher.turn, if_neg some] at turn
      have plain : ¬ record.startsEvent = true := by
        intro starts
        have event := (invariant.chained.goose first member (recorded.startsEvent.mp starts)).2
        rw [handler] at event
        contradiction
      refine ⟨none, waiting_of_periodic (fun each among => ?_) transmitted scheduled,
        orderly.quiet fun starts => absurd starts plain, by simp [GOOSERecord.Wrapped, turn]⟩
      exact rearmed each ((left each).mp among).1
  | handBack some handler exceeded armedBy transmitted scheduled =>
      obtain ⟨nothing, _⟩ := invariant.chained.pending_cancel found handler
      obtain ⟨_, counter⟩ := rearmed first member handler
      rw [handler, GOOSEPublisher.turn, if_neg some, if_pos exceeded] at turn
      refine ⟨none, waiting_of_handBack nothing armedBy transmitted scheduled,
        orderly.quiet fun _ => .inr (.inr ⟨turn, ?_⟩), by simp [GOOSERecord.Wrapped, turn]⟩
      simp only [counter, gt_iff_lt, UInt8.lt_iff_toNat_lt, number] at exceeded
      omega
  | burst some handler inside transmitted _ scheduled =>
      obtain ⟨nothing, _⟩ := invariant.chained.pending_cancel found handler
      obtain ⟨starts, counter⟩ := rearmed first member handler
      rw [handler, GOOSEPublisher.turn, if_neg some, if_neg inside] at turn
      refine ⟨.some 1, @bursting_of_burst { self with simulator := simulator } _ _ _ _ 1 nothing ?_
        counter transmitted scheduled,
        orderly.start (recorded.startsEvent.mpr starts) (recorded.inside turn (sent some) _) ?_, ?_⟩
      · intro uid holds
        rw [nextUid]
        exact invariant.chained.known uid (.inr holds)
      · simp only [counter, gt_iff_lt, UInt8.lt_iff_toNat_lt, number] at inside
        change 1 ≤ self.attributes.eventMessages.toNat
        omega
      · rintro ⟨_, zero⟩
        rw [recorded.eventCount, counter] at zero
        contradiction

/-- A step in a burst. -/
theorem orderly_bursting (invariant : Invariant attributes self)
    {scheduled : Scheduled GOOSEHandler} {count : Nat}
    (alone : self.simulator.pending = [scheduled]) (event : scheduled.event = .sendEvent)
    (other : self.gooseEventId ≠ some scheduled.uid)
    (counter : self.eventCount = UInt8.ofNat (count + 1))
    (orderly : (burstRules self.attributes.eventMessages).Orderly (some count) records)
    (found : self.simulator.next = some (first, simulator))
    (ran : Ran { self with simulator := simulator } first after frame)
    (sent : self.count ≠ 0 → frame.isSome) (recorded : self.Records first frame record) :
    (∃ current, Stands after current ∧
      (burstRules self.attributes.eventMessages).Orderly current (records ++ [record]) ∧
      ¬ record.Wrapped) ∨
    (self.attributes.eventMessages = 255 ∧
      (burstRules self.attributes.eventMessages).Overlong (records ++ [record]) ∧
      record.Wrapped) := by
  obtain ⟨member, _, nextUid, _⟩ := EventQueue.next_eq found
  rw [alone] at member
  obtain rfl := List.mem_singleton.mp member
  have turn := recorded.turn
  have plain : ¬ record.startsEvent = true := mt recorded.startsEvent.mp other
  obtain ⟨few, _⟩ := orderly.going count rfl
  change count ≤ self.attributes.eventMessages.toNat at few
  have most := self.attributes.eventMessages.toNat_lt
  have number : self.eventCount.toNat = (count + 1) % 2 ^ 8 := by rw [counter, UInt8.toNat_ofNat']
  cases ran with
  | exhausted nothing =>
      rw [event, GOOSEPublisher.turn, if_pos nothing] at turn
      exact .inl ⟨none, .spent nothing, orderly.finish plain (.inr (.inl turn)),
        by simp [GOOSERecord.Wrapped, turn]⟩
  | periodic _ handler _ _ =>
      rw [event] at handler
      contradiction
  | handBack some handler exceeded armedBy transmitted scheduled =>
      obtain ⟨nothing, _⟩ := invariant.chained.pending_cancel found handler
      rw [handler, GOOSEPublisher.turn, if_neg some, if_pos exceeded] at turn
      simp only [gt_iff_lt, UInt8.lt_iff_toNat_lt] at exceeded
      exact .inl ⟨none, waiting_of_handBack nothing armedBy transmitted scheduled,
        orderly.finish plain (.inr (.inr ⟨turn, by omega⟩)), by simp [GOOSERecord.Wrapped, turn]⟩
  | burst some handler inside transmitted _ scheduled =>
      obtain ⟨nothing, _⟩ := invariant.chained.pending_cancel found handler
      rw [handler, GOOSEPublisher.turn, if_neg some, if_neg inside] at turn
      have message := recorded.inside turn (sent some) self.attributes.eventMessages
      by_cases wrapped : self.eventCount = 0
      · -- Only a counter of 255 is 0 next.
        have zero : self.eventCount.toNat = 0 := by rw [wrapped]; rfl
        have all : self.attributes.eventMessages.toNat = 255 := by omega
        refine .inr ⟨UInt8.toNat_inj.mp all, orderly.overrun message ?_, turn,
          recorded.eventCount.trans wrapped⟩
        change self.attributes.eventMessages.toNat ≤ count
        omega
      · have positive : self.eventCount.toNat ≠ 0 := fun zero => wrapped (UInt8.toNat_inj.mp zero)
        refine .inl ⟨.some (count + 1), @bursting_of_burst { self with simulator := simulator } _ _
          _ _ (count + 1) nothing ?_ counter transmitted scheduled,
          orderly.goOn plain message ?_,
          fun wrap => wrapped (recorded.eventCount.symm.trans wrap.2)⟩
        · intro uid holds
          rw [nextUid]
          exact invariant.chained.known uid (.inr holds)
        · simp only [gt_iff_lt, UInt8.lt_iff_toNat_lt] at inside
          change count + 1 ≤ self.attributes.eventMessages.toNat
          omega

/-- What every step keeps of the records. -/
theorem Recorded.step (given : Recorded attributes srcAddr self records)
    (recorded : self.record action = some (after, record)) :
    Recorded attributes srcAddr after (records ++ [record]) := by
  obtain ⟨⟨sent, sending⟩, fixed, bursts⟩ := given
  have stepped := step_of_record recorded
  refine ⟨⟨_, sending.step stepped⟩, (attributes_step stepped).trans fixed, ?_⟩
  subst fixed
  rcases bursts with ⟨current, stands, orderly, unwrapped⟩ |
    ⟨all, overlong, each, among, wrapped⟩
  · rcases record_cases recorded with
      ⟨rfl, rfl⟩ | ⟨first, simulator, frame, found, ran, recorded⟩
    · refine .inl ⟨none, .waiting ?_, ?_,
        not_wrapped_concat unwrapped (by simp [GOOSERecord.Wrapped])⟩
      · rw [sending.invariant.chained.pending_stop]
        exact fun _ member => absurd member List.not_mem_nil
      · cases current with
        | none => exact orderly.quiet fun _ => .inl rfl
        | some count => exact orderly.finish Bool.false_ne_true (.inl rfl)
    · have sends := fun left => sending.isSome_frame left ran
      cases stands with
      | spent nothing =>
          obtain ⟨stands, next, last⟩ := orderly_spent nothing orderly ran recorded
          exact .inl ⟨none, stands, next, not_wrapped_concat unwrapped last⟩
      | waiting rearmed =>
          obtain ⟨current, stands, next, last⟩ :=
            orderly_waiting sending.invariant rearmed orderly found ran sends recorded
          exact .inl ⟨current, stands, next, not_wrapped_concat unwrapped last⟩
      | bursting alone event other counter =>
          rcases orderly_bursting sending.invariant alone event other counter orderly found ran
            sends recorded with ⟨current, stands, next, last⟩ |
            ⟨all, overlong, wrapped⟩
          · exact .inl ⟨current, stands, next, not_wrapped_concat unwrapped last⟩
          · exact .inr ⟨all, overlong, record, by simp, wrapped⟩
  · exact .inr ⟨all, overlong.concat record, each, List.mem_append_left _ among, wrapped⟩

theorem recorded_startApplication {found : Memory} {now nextUid : Nat}
    (started : startApplication attributes srcAddr found (.empty now nextUid) = some self) :
    Recorded attributes srcAddr self [] := by
  have sending := sending_startApplication started
  obtain ⟨publisher, armed, _, arming, scheduled⟩ := startApplication_eq started
  have parts : armed.attributes = attributes ∧ armed.eventCount = 1 ∧
      ∀ scheduled ∈ armed.simulator.pending, armed.gooseEventId = some scheduled.uid := by
    split at arming
    · obtain ⟨simulator, found, rfl⟩ := scheduleGooseEvent_eq arming
      refine ⟨rfl, rfl, fun scheduled member => ?_⟩
      rw [(EventQueue.schedule_eq found).2.2.2.2] at member
      obtain rfl := List.mem_singleton.mp member
      rfl
    · rw [arming]
      exact ⟨rfl, rfl, fun _ member => absurd member List.not_mem_nil⟩
  obtain ⟨fixed, counter, goose⟩ := parts
  obtain ⟨simulator, found, rfl⟩ := scheduleEvent_eq scheduled
  refine ⟨⟨[], sending⟩, fixed, .inl ⟨none, .waiting fun each member event => ?_,
    EpisodeRules.orderly_nil, by simp⟩⟩
  rw [(EventQueue.schedule_eq found).2.2.2.2] at member
  rcases List.mem_append.mp member with earlier | last
  · exact ⟨goose each earlier, counter⟩
  · obtain rfl := List.mem_singleton.mp last
    contradiction

/-- A recorded run that goes on. -/
theorem startAndRecord_append {found : Memory} {now nextUid : Nat}
    {actions others : List GOOSEAction} {more : List GOOSERecord}
    (run : startAndRecord attributes srcAddr found now nextUid actions = some (self, records))
    (ran : runAll GOOSEPublisher.record self others = some (after, more)) :
    startAndRecord attributes srcAddr found now nextUid (actions ++ others) =
      some (after, records ++ more) := by
  obtain ⟨start, started, before⟩ := Option.bind_eq_some_iff.mp run
  exact Option.bind_eq_some_iff.mpr ⟨start, started,
    runAll_append.mpr ⟨self, records, more, before, ran, rfl⟩⟩

/-- What holds of a recorded run. -/
theorem recorded_startAndRecord {found : Memory} {now nextUid : Nat} {actions : List GOOSEAction}
    (run : startAndRecord attributes srcAddr found now nextUid actions = some (self, records)) :
    Recorded attributes srcAddr self records := by
  obtain ⟨first, started, ran⟩ := Option.bind_eq_some_iff.mp run
  exact runAll_history (fun _ _ _ _ _ given stepped => given.step stepped)
    (recorded_startApplication started) ran

/-- A burst that goes on is going to be run. -/
theorem Stands.next {count : Nat} (stands : Stands self (some count)) :
    ∃ first simulator, self.simulator.next = some (first, simulator) ∧
      first.event = .sendEvent := by
  cases stands with
  | bursting alone event _ _ =>
      cases found : self.simulator.next with
      | none =>
          rw [EventQueue.next_eq_none.mp found] at alone
          contradiction
      | some result =>
          obtain ⟨first, simulator⟩ := result
          have member := (EventQueue.next_eq found).1
          rw [alone, List.mem_singleton] at member
          exact ⟨first, simulator, rfl, member ▸ event⟩

/-- In every run of the application: unless `EventMessages` is 255 the counter is never 0 when
`SendEvent` sends, and the bursts are bounded exactly if it is not. -/
theorem burstsBounded_iff {found : Memory} {now nextUid : Nat} {actions : List GOOSEAction}
    (run : startAndRecord attributes srcAddr found now nextUid actions = some (self, records)) :
    (attributes.eventMessages ≠ 255 → ∀ record ∈ records, ¬ record.Wrapped) ∧
      (BurstsBounded attributes.eventMessages self records ↔
        ∀ record ∈ records, ¬ record.Wrapped) := by
  obtain ⟨_, _, bursts⟩ := recorded_startAndRecord run
  rcases bursts with ⟨current, stands, orderly, unwrapped⟩ |
    ⟨all, overlong, record, member, wrapped⟩
  · refine ⟨fun _ => unwrapped, iff_of_true (fun before start rest split starts => ?_) unwrapped⟩
    refine (orderly.each _ _ _ split starts).imp_right fun ⟨going, inside⟩ => ?_
    subst going
    exact ⟨(orderly.going _ rfl).1, inside, stands.next⟩
  · refine ⟨fun other => absurd all other, iff_of_false (fun bounded => ?_)
      fun unwrapped => unwrapped record member wrapped⟩
    obtain ⟨before, start, rest, after, rfl, starts, long, inside⟩ := overlong
    rcases bounded before start (rest ++ after) (by simp) starts with closed | ⟨short, _⟩
    · have few := EpisodeRules.Closed.length_le closed inside fun count record ⟨turn, _⟩ ends => by
        simp [burstRules, turn] at ends
      rw [List.length_cons] at few
      omega
    · rw [List.length_append] at short
      change attributes.eventMessages.toNat < rest.length + 1 at long
      omega

/-! ## A burst without an end -/

theorem T_nonneg (waits : self.attributes.Waits) (n : UInt8) :
    ∃ delay, self.T n = some delay ∧ 0 ≤ delay := by
  unfold T
  rw [if_neg waits.rate]
  split
  · exact ⟨_, rfl, waits.t0⟩
  · split
    · exact ⟨_, rfl, waits.t1⟩
    · exact ⟨_, rfl, waits.stretched n⟩

/-- A publisher that was not destroyed can send. -/
theorem Sending.transmit {sent : List Transmission} (sending : Sending attributes srcAddr self sent)
    (running : self.simulator.pending ≠ []) (simulator : EventQueue GOOSEHandler) :
    ∃ sender frame, { self with simulator := simulator }.transmit = some (sender, frame) := by
  cases present : self.publisher with
  | none => exact absurd (sending.invariant.stopped present) running
  | some publisher =>
      have increased :=
        (sending.configured publisher present).1.increaseStNum (milliSeconds simulator.now)
      obtain ⟨publication, _, published, _, _⟩ := increased.published
      simp only [GOOSEPublisher.transmit, sending.dataSet, Option.bind_eq_bind,
        Option.bind_some, published, Option.pure_def]
      exact ⟨_, _, rfl⟩

/-- With `EventMessages` 255 a burst goes on as long as there are packets. -/
theorem record_of_unlimited {sent : List Transmission} {count : Nat}
    (sending : Sending attributes srcAddr self sent) (stands : Stands self (some count))
    (unlimited : self.attributes.eventMessages = 255) (waits : self.attributes.Waits)
    (left : self.count ≠ 0) :
    ∃ after record, self.record .event = some (after, record) ∧
      (burstRules 255).inside record ∧ Stands after (some (count + 1)) ∧
      after.count = self.count - 1 := by
  obtain ⟨first, simulator, found, event⟩ := stands.next
  have running : self.simulator.pending ≠ [] :=
    List.ne_nil_of_mem (EventQueue.next_eq found).1
  have inside : ¬ self.eventCount > self.attributes.eventMessages := by
    have most := self.eventCount.toNat_lt
    have number : (255 : UInt8).toNat = 255 := rfl
    rw [unlimited, gt_iff_lt, UInt8.lt_iff_toNat_lt, number]
    omega
  obtain ⟨sender, frame, transmitted⟩ :=
    sending.transmit running (simulator.cancel self.eventId)
  obtain ⟨_, _, _, _, same, _⟩ := transmit_eq transmitted
  have fixed : sender.attributes = self.attributes := by rw [same]
  obtain ⟨delay, delayed, positive⟩ := T_nonneg (fixed ▸ waits) sender.eventCount
  obtain ⟨uid, later, queued⟩ :=
    @EventQueue.schedule_isSome _ sender.simulator _ positive GOOSEHandler.sendEvent
  obtain ⟨after, scheduled⟩ : ∃ after, sender.scheduleEvent delay .sendEvent = some after :=
    ⟨{ sender with simulator := later, eventId := some uid },
      by rw [scheduleEvent, queued]; rfl⟩
  have handled : { self with simulator := simulator }.handle first.event =
      some ({ after with eventCount := after.eventCount + 1 }, frame) := by
    rw [event]
    change sendEvent { self with simulator := simulator } = _
    rw [sendEvent, if_neg left]
    dsimp only
    rw [if_neg inside]
    simp only [transmitted, delayed, scheduled, Option.bind_eq_bind, Option.bind_some,
      Option.pure_def]
  have recorded : self.record .event = some ({ after with eventCount := after.eventCount + 1 },
      ⟨self.turn first.event, decide (self.gooseEventId = some first.uid), self.eventCount,
        frame.map fun frame =>
          ⟨decide (self.gooseEventId = some first.uid), simulator.now, frame⟩⟩) := by
    simp only [record, GOOSEPublisher.event, found, handled, Option.bind_eq_bind,
      Option.bind_some, Option.pure_def]
  refine ⟨_, _, recorded, ⟨?_, ?_⟩, ?_, ?_⟩
  · rw [event, turn, if_neg left, if_neg inside]
  · rw [Option.isSome_map]
    have ran : Ran { self with simulator := simulator } first
        { after with eventCount := after.eventCount + 1 } frame :=
      .burst left event inside transmitted delayed scheduled
    exact sending.isSome_frame left ran
  · cases stands with
    | bursting _ _ _ counter =>
        obtain ⟨nothing, _⟩ := sending.invariant.chained.pending_cancel found event
        refine @bursting_of_burst { self with simulator := simulator } _ _ _ _ (count + 1) nothing
          (fun uid holds => ?_) counter transmitted scheduled
        rw [(EventQueue.next_eq found).2.2.1]
        exact sending.invariant.chained.known uid (.inr holds)
  · obtain ⟨_, _, rfl⟩ := scheduleEvent_eq scheduled
    rw [same]

/-- So many messages of it are sent. -/
theorem runAll_of_unlimited {sent : List Transmission} {count messages : Nat}
    (sending : Sending attributes srcAddr self sent) (stands : Stands self (some count))
    (unlimited : self.attributes.eventMessages = 255) (waits : self.attributes.Waits)
    (left : messages ≤ self.count.toNat) :
    ∃ after records,
      runAll GOOSEPublisher.record self (List.replicate messages .event) = some (after, records) ∧
      Stands after (some (count + messages)) ∧ records.length = messages ∧
      ∀ record ∈ records, (burstRules 255).inside record := by
  induction messages generalizing self sent count with
  | zero => exact ⟨self, [], rfl, stands, rfl, by simp⟩
  | succ messages ih =>
      have some : self.count ≠ 0 := by
        intro nothing
        rw [nothing] at left
        exact absurd left (Nat.not_succ_le_zero _)
      obtain ⟨next, record, recorded, inside, goesOn, fewer⟩ :=
        record_of_unlimited sending stands unlimited waits some
      have stepped := step_of_record recorded
      have fixed := attributes_step stepped
      have unit : (1 : UInt64).toNat = 1 := rfl
      have one : (1 : UInt64) ≤ self.count := by
        rw [UInt64.le_iff_toNat_le, unit]
        omega
      have packets : messages ≤ next.count.toNat := by
        rw [fewer, UInt64.toNat_sub_of_le _ _ one, unit]
        omega
      obtain ⟨after, records, ran, on, length, all⟩ := ih (sending.step stepped) goesOn
        (fixed ▸ unlimited) (fixed ▸ waits) packets
      refine ⟨after, record :: records, runAll_cons.mpr ⟨next, record, records, recorded, ran, rfl⟩,
        by rwa [Nat.add_right_comm] at on, congrArg (· + 1) length, ?_⟩
      rw [List.forall_mem_cons]
      exact ⟨inside, all⟩

end Runs

/-- An application with bursts of 255 messages. -/
def unlimited : GOOSEAttributes where
  maxPackets := 0
  appId := 1000
  t0 := 1000000000
  t1 := 3000000
  eventInterval := 1000000
  eventMessages := 255
  stretched := powered 1000000000 3000000 255

theorem waits_unlimited : unlimited.Waits where
  rate := by decide
  t0 := by decide
  t1 := by decide
  stretched _ := Int.natCast_nonneg _

/-- The burst of the first event goes on after 255 messages, and no next event is scheduled. -/
theorem burst_unlimited :
    ∃ self start burst, startAndRecord unlimited Octets.zero (fun _ => 0) 0 4
        (List.replicate 257 .event) = some (self, start :: burst) ∧
      ¬ BurstsBounded unlimited.eventMessages self (start :: burst) ∧
      burst.length = 256 ∧ (∀ record ∈ burst, (burstRules 255).inside record) ∧
      self.simulator.held self.gooseEventId = [] := by
  have started : ((startAndRecord unlimited Octets.zero (fun _ => 0) 0 4 [.event, .event]).any
      fun run => decide (255 ≤ run.1.count.toNat ∧ run.2.map (·.turn) = [.periodic, .burst] ∧
        run.2.map (·.startsEvent) = [false, true] ∧
        run.2.map (·.transmission.isSome) = [true, true])) = true := by
    decide +kernel
  obtain ⟨⟨first, records⟩, run, found⟩ := (Option.any_eq_true _ _).mp started
  obtain ⟨packets, turns, starting, sent⟩ := of_decide_eq_true found
  obtain ⟨periodic, burst, rfl⟩ := List.length_eq_two.mp (by simpa using congrArg List.length turns)
  simp only [List.map_cons, List.map_nil, List.cons.injEq, and_true] at turns starting sent
  have inside : (burstRules 255).inside burst := ⟨turns.2, sent.2⟩
  obtain ⟨⟨_, sending⟩, fixed, bursts⟩ := recorded_startAndRecord run
  -- After the first message of the burst, the burst goes on.
  have stands : Stands first (some 1) := by
    rcases bursts with ⟨current, stands, orderly, _⟩ |
      ⟨_, ⟨before, start, rest, after, split, _, long, _⟩, _⟩
    · rcases orderly.each [periodic] burst [] rfl starting.2 with
        ⟨body, last, rest, split, _, _, ends⟩ | ⟨going, _⟩
      · cases body with
        | nil =>
            obtain ⟨rfl, _⟩ := List.cons.inj split
            simp [burstRules, turns.2] at ends
        | cons => simp at split
      · exact going ▸ stands
    · have length := congrArg List.length split
      simp only [List.length_cons, List.length_nil, List.length_append] at length
      change 255 < rest.length + 1 at long
      omega
  obtain ⟨after, more, ran, goesOn, length, all⟩ := runAll_of_unlimited sending stands
    (congrArg GOOSEAttributes.eventMessages fixed) (fixed ▸ waits_unlimited) packets
  have whole := startAndRecord_append run ran
  rw [← List.replicate_one, ← List.replicate_succ, List.replicate_append_replicate] at whole
  refine ⟨after, periodic, burst :: more, whole, ?_, by rw [List.length_cons, length],
    List.forall_mem_cons.mpr ⟨inside, all⟩, goesOn.held_eq_nil⟩
  intro bounded
  change BurstsBounded 255 after ([periodic, burst] ++ more) at bounded
  rcases bounded [periodic] burst more rfl starting.2 with closed | ⟨short, _⟩
  · have few := @EpisodeRules.Closed.length_le _ _ (burst :: more) [] (by simpa using closed)
      (List.forall_mem_cons.mpr ⟨inside, all⟩) fun count record ⟨turn, _⟩ ends => by
        simp [burstRules, turn] at ends
    change (burst :: more).length ≤ 255 at few
    rw [List.length_cons, length] at few
    exact Nat.not_succ_le_self _ few
  · change more.length + 1 ≤ 255 at short
    rw [length] at short
    exact Nat.not_succ_le_self _ short

theorem burstsBounded_eventful :
    ∃ self records, startAndRecord eventful Octets.zero (fun _ => 0) 0 4
        [.event, .event, .event, .event, .event, .event, .stop] = some (self, records) ∧
      (eventful.eventMessages ≠ 255 → ∀ record ∈ records, ¬ record.Wrapped) ∧
      (BurstsBounded eventful.eventMessages self records ↔
        ∀ record ∈ records, ¬ record.Wrapped) := by
  have runs : (startAndRecord eventful Octets.zero (fun _ => 0) 0 4
      [.event, .event, .event, .event, .event, .event, .stop]).isSome := by decide +kernel
  obtain ⟨⟨self, records⟩, run⟩ := Option.isSome_iff_exists.mp runs
  exact ⟨self, records, run, burstsBounded_iff run⟩

end GOOSEPublisher

end GridGooseSV.Ns3
