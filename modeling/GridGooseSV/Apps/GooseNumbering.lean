import GridGooseSV.Apps.GooseFrames
import Mathlib.Data.List.Chain
import Mathlib.Data.List.ReduceOption
import Mathlib.Logic.Function.Iterate

/-!
# State numbers of the GOOSE publisher application

`Send` and `SendEvent` increase the state number before every message, so that a frame has a new
one whether or not an event has started. The numbers of a run are in order only if no frame after
the first is a repetition.
-/

namespace GridGooseSV.Ns3

/-- The state number after one. -/
def nextStNum (stNum : UInt32) : UInt32 := if stNum + 1 = 0 then 1 else stNum + 1

/-- The state number of a publisher that has increased it so often. -/
def stNumAfter (times : Nat) : UInt32 := nextStNum^[times] 1

theorem stNumAfter_succ (times : Nat) : stNumAfter (times + 1) = nextStNum (stNumAfter times) :=
  Function.iterate_succ_apply' nextStNum times 1

theorem nextStNum_ne (stNum : UInt32) : stNum ≠ nextStNum stNum := by
  intro same
  have numbers := congrArg UInt32.toNat same
  have unit : (1 : UInt32).toNat = 1 := rfl
  unfold nextStNum at numbers
  split at numbers
  · rename_i wraps
    have zero := congrArg UInt32.toNat wraps
    have nothing : (0 : UInt32).toNat = 0 := rfl
    rw [UInt32.toNat_add, unit, nothing] at zero
    rw [unit] at numbers
    omega
  · rw [UInt32.toNat_add, unit] at numbers
    have small := stNum.toNat_lt
    omega

/-- State numbers count up until they have run through all of 32 bits. -/
theorem toNat_stNumAfter {times : Nat} (few : times < 2 ^ 32 - 1) :
    (stNumAfter times).toNat = times + 1 := by
  induction times with
  | zero => rfl
  | succ times ih =>
      have before := ih (by omega)
      have unit : (1 : UInt32).toNat = 1 := rfl
      have sum : (stNumAfter times + 1).toNat = times + 2 := by
        rw [UInt32.toNat_add, before, unit]
        omega
      have positive : stNumAfter times + 1 ≠ 0 := by
        intro zero
        rw [zero] at sum
        have nothing : (0 : UInt32).toNat = 0 := rfl
        omega
      rw [stNumAfter_succ, nextStNum, if_neg positive, sum]

namespace GOOSEPublisher

/-- The messages of a handler, in terms of the publisher. -/
theorem Ran.sends {self after : GOOSEPublisher} {first : Scheduled GOOSEHandler}
    {frame : Option SentFrame} (ran : Ran self first after frame) :
    (self.count = 0 ∧ frame = none ∧ after.publisher = self.publisher ∧ after.sent = self.sent ∧
        after.dataSetValues = self.dataSetValues) ∨
      ∃ publisher publication, self.publisher = some publisher ∧ self.count ≠ 0 ∧
        (publisher.increaseStNum (milliSeconds self.simulator.now)).publish self.dataSetValues =
          some publication ∧
        after.publisher = some publication.publisher ∧ after.sent = self.sent + 1 ∧
        after.dataSetValues = self.dataSetValues ∧
        frame = publication.sent.map fun packet =>
          ⟨(publisher.increaseStNum (milliSeconds self.simulator.now)).stNum, 0, packet⟩ := by
  cases ran with
  | exhausted nothing => exact .inl ⟨nothing, rfl, rfl, rfl, rfl⟩
  | periodic left _ transmitted scheduled =>
      obtain ⟨publisher, publication, present, published, rfl, sent⟩ := transmit_eq transmitted
      obtain ⟨_, _, rfl⟩ := scheduleEvent_eq scheduled
      exact .inr ⟨publisher, publication, present, left, published, rfl, rfl, rfl, sent⟩
  | handBack left _ _ armedBy transmitted scheduled =>
      obtain ⟨simulator, found, rfl⟩ := scheduleGooseEvent_eq armedBy
      have now : simulator.now = self.simulator.now :=
        (EventQueue.schedule_eq found).2.2.1.trans (EventQueue.now_cancel _ _)
      obtain ⟨publisher, publication, present, published, rfl, sent⟩ := transmit_eq transmitted
      obtain ⟨_, _, rfl⟩ := scheduleEvent_eq scheduled
      simp only [now] at published sent
      exact .inr ⟨publisher, publication, present, left, published, rfl, rfl, rfl, sent⟩
  | burst left _ _ transmitted _ scheduled =>
      obtain ⟨publisher, publication, present, published, rfl, sent⟩ := transmit_eq transmitted
      obtain ⟨_, _, rfl⟩ := scheduleEvent_eq scheduled
      simp only [EventQueue.now_cancel] at published sent
      exact .inr ⟨publisher, publication, present, left, published, rfl, rfl, rfl, sent⟩

/-- What holds of an application and the frames it has sent. -/
structure Sending (attributes : GOOSEAttributes) (srcAddr : Octets 6)
    (application : GOOSEPublisher) (sent : List Transmission) : Prop where
  invariant : Invariant attributes application
  dataSet : application.dataSetValues = analogDataSet
  configured : ∀ publisher, application.publisher = some publisher →
    Configured attributes.appId srcAddr publisher ∧ publisher.stNum = stNumAfter sent.length
  counted : application.sent.toNat = sent.length
  readable : ∀ transmission ∈ sent, transmission.Readable
  numbers : ∀ index transmission, sent[index]? = some transmission →
    transmission.frame.stNum = stNumAfter (index + 1) ∧ transmission.frame.sqNum = 0

section Steps

variable {attributes : GOOSEAttributes} {srcAddr : Octets 6} {self after : GOOSEPublisher}
variable {sent : List Transmission} {action : GOOSEAction} {output : Option Transmission}

theorem Sending.step (sending : Sending attributes srcAddr self sent)
    (stepped : self.step action = some (after, output)) :
    Sending attributes srcAddr after (sent ++ output.toList) := by
  have invariant := sending.invariant.step stepped
  rcases step_cases stepped with ⟨_, rfl, rfl⟩ | ⟨first, simulator, frame, _, found, ran, rfl⟩
  · rw [Option.toList_none, List.append_nil]
    exact ⟨invariant, sending.dataSet, by simp [stopApplication], sending.counted,
      sending.readable, sending.numbers⟩
  · rcases ran.sends with ⟨_, rfl, publisher, total, dataSet⟩ |
      ⟨publisher, publication, present, left, published, publisherAfter, total, dataSet, rfl⟩
    · rw [Option.map_none, Option.toList_none, List.append_nil]
      refine ⟨invariant, dataSet.trans sending.dataSet, ?_, ?_, sending.readable,
        sending.numbers⟩
      · rw [publisher]
        exact sending.configured
      · rw [total]
        exact sending.counted
    · obtain ⟨configured, stNum⟩ := sending.configured publisher present
      dsimp only at published left total dataSet
      rw [sending.dataSet] at published
      have increased := configured.increaseStNum (milliSeconds simulator.now)
      obtain ⟨_, packet, same, _, octets⟩ := increased.published
      obtain rfl := Option.some.inj (published.symm.trans same)
      obtain ⟨kept, stNumKept⟩ := increased.publication published
      have number : (publisher.increaseStNum (milliSeconds simulator.now)).stNum =
          stNumAfter (sent.length + 1) := by
        rw [stNumAfter_succ, ← stNum]
        rfl
      have most := budget_lt attributes.maxPackets
      have accounted := sending.invariant.accounted
      have positive : self.count.toNat ≠ 0 := fun zero => left (UInt64.toNat_inj.mp zero)
      have unit : (1 : UInt64).toNat = 1 := rfl
      simp only [octets, Option.map_some, Option.toList_some]
      refine ⟨invariant, dataSet.trans sending.dataSet, ?_, ?_, ?_, ?_⟩
      · rw [publisherAfter]
        rintro _ ⟨⟩
        rw [List.length_append, List.length_singleton]
        exact ⟨kept, stNumKept.trans number⟩
      · rw [total, UInt64.toNat_add, unit, List.length_append, List.length_singleton,
          ← sending.counted]
        omega
      · intro transmission member
        rcases List.mem_append.mp member with earlier | last
        · exact sending.readable transmission earlier
        · obtain rfl := List.mem_singleton.mp last
          exact configured.readable published octets _ 0
      · intro index transmission found
        by_cases earlier : index < sent.length
        · rw [List.getElem?_append_left earlier] at found
          exact sending.numbers index transmission found
        · rw [List.getElem?_append_right (by omega), List.getElem?_singleton] at found
          split at found
          · rename_i last
            obtain rfl := Option.some.inj found
            have place : sent.length + 1 = index + 1 := by omega
            exact ⟨number.trans (congrArg stNumAfter place), rfl⟩
          · contradiction

/-- A handler that finds packets left sends a frame. -/
theorem Sending.isSome_frame (sending : Sending attributes srcAddr self sent)
    {simulator : EventQueue GOOSEHandler} {first : Scheduled GOOSEHandler}
    {frame : Option SentFrame} (left : self.count ≠ 0)
    (ran : Ran { self with simulator := simulator } first after frame) : frame.isSome := by
  rcases ran.sends with ⟨nothing, _⟩ |
    ⟨publisher, publication, present, _, published, _, _, _, rfl⟩
  · exact absurd nothing left
  · dsimp only at published
    rw [sending.dataSet] at published
    have increased :=
      (sending.configured publisher present).1.increaseStNum (milliSeconds simulator.now)
    obtain ⟨_, packet, same, _, octets⟩ := increased.published
    obtain rfl := Option.some.inj (published.symm.trans same)
    rw [octets]
    rfl

theorem sending_startApplication {found : Memory} {now nextUid : Nat}
    (started : startApplication attributes srcAddr found (.empty now nextUid) = some self) :
    Sending attributes srcAddr self [] := by
  have invariant := invariant_startApplication started
  obtain ⟨publisher, armed, performed, arming, scheduled⟩ := startApplication_eq started
  have configured : Configured attributes.appId srcAddr publisher := by
    have prepared := (GoosePublisher.prepared_create (gooseCommParameters attributes.appId)
      srcAddr (milliSeconds now) found).performAll performed
    obtain rfl := Option.some.inj performed
    exact ⟨prepared, rfl, rfl, rfl⟩
  have stNum : publisher.stNum = stNumAfter 0 := by
    obtain rfl := Option.some.inj performed
    rfl
  have parts : self.publisher = some publisher ∧ self.sent = 0 ∧
      self.dataSetValues = analogDataSet := by
    obtain ⟨_, _, rfl⟩ := scheduleEvent_eq scheduled
    split at arming
    · obtain ⟨_, _, rfl⟩ := scheduleGooseEvent_eq arming
      exact ⟨rfl, rfl, rfl⟩
    · rw [arming]
      exact ⟨rfl, rfl, rfl⟩
  obtain ⟨present, nothing, dataSet⟩ := parts
  refine ⟨invariant, dataSet, ?_, by rw [nothing]; rfl, by simp, by simp⟩
  rw [present]
  rintro _ ⟨⟩
  exact ⟨configured, stNum⟩

/-- What holds after a run, of the application and the frames it has sent. -/
theorem sending_startAndRun {found : Memory} {now nextUid : Nat} {actions : List GOOSEAction}
    (run : startAndRun attributes srcAddr found now nextUid actions = some (self, sent)) :
    Sending attributes srcAddr self sent := by
  obtain ⟨first, outputs, started, ran, rfl⟩ := startAndRun_eq run
  have kept := @runAll_history _ _ _ step first self actions outputs
    (fun application done => Sending attributes srcAddr application done.reduceOption)
    (by
      intro _ done _ _ output sending stepped
      have next := sending.step stepped
      cases output <;> simpa [List.reduceOption_append] using next)
    [] (sending_startApplication started) ran
  exact kept

end Steps

end GOOSEPublisher

/-- The state number and the sequence number of a frame after another: a frame with which an
event starts has a new state number, and any other frame is a repetition. -/
def StateNumbersFollow : List Transmission → Prop :=
  List.IsChain fun previous next =>
    if next.startsEvent then
      next.frame.stNum ≠ previous.frame.stNum ∧ next.frame.sqNum = 0
    else
      next.frame.stNum = previous.frame.stNum ∧ next.frame.sqNum = previous.frame.sqNum + 1

instance (sent : List Transmission) : Decidable (StateNumbersFollow sent) :=
  inferInstanceAs (Decidable (List.IsChain _ sent))

/-- The state numbers of a run change only with events if and only if every frame after the
first one is sent when an event starts. -/
theorem stateNumbersFollow_iff {attributes : GOOSEAttributes} {srcAddr : Octets 6}
    {found : Memory} {now nextUid : Nat} {actions : List GOOSEAction} {self : GOOSEPublisher}
    {sent : List Transmission}
    (run : GOOSEPublisher.startAndRun attributes srcAddr found now nextUid actions =
      some (self, sent)) :
    StateNumbersFollow sent ↔ ∀ transmission ∈ sent.tail, transmission.startsEvent = true := by
  have numbers := (GOOSEPublisher.sending_startAndRun run).numbers
  -- Every frame has a new state number and the sequence number 0.
  have each : ∀ index (bound : index + 1 < sent.length),
      (if sent[index + 1].startsEvent then
        sent[index + 1].frame.stNum ≠ sent[index].frame.stNum ∧ sent[index + 1].frame.sqNum = 0
      else
        sent[index + 1].frame.stNum = sent[index].frame.stNum ∧
          sent[index + 1].frame.sqNum = sent[index].frame.sqNum + 1) ↔
      sent[index + 1].startsEvent = true := by
    intro index bound
    obtain ⟨state, sequence⟩ := numbers index _ (List.getElem?_eq_getElem (by omega))
    obtain ⟨stateNext, sequenceNext⟩ := numbers (index + 1) _ (List.getElem?_eq_getElem bound)
    rw [state, sequence, stateNext, sequenceNext, stNumAfter_succ (index + 1)]
    split
    · rename_i starts
      exact ⟨fun _ => starts, fun _ => ⟨(nextStNum_ne _).symm, rfl⟩⟩
    · rename_i repeats
      exact ⟨fun same => absurd same.1.symm (nextStNum_ne _), fun starts => absurd starts repeats⟩
  rw [StateNumbersFollow, List.isChain_iff_getElem]
  constructor
  · intro follow transmission member
    obtain ⟨index, bound, rfl⟩ := List.mem_iff_getElem.mp member
    rw [List.length_tail] at bound
    rw [List.getElem_tail]
    exact (each index (by omega)).mp (follow index (by omega))
  · intro starts index bound
    apply (each index bound).mpr
    apply starts
    rw [← List.getElem_tail (by rw [List.length_tail]; omega)]
    exact List.getElem_mem _

/-- An application without events. -/
def uneventful : GOOSEAttributes where
  maxPackets := 0
  appId := 1000
  t0 := 20000000
  t1 := 3000000
  eventInterval := 0
  eventMessages := 5
  stretched _ := 0

/-- The second periodic message of an application without events has a new state number. -/
theorem stateNumber_of_repetition :
    ∃ self sent, GOOSEPublisher.startAndRun uneventful Octets.zero (fun _ => 0) 0 4
        [.event, .event] = some (self, sent) ∧ ¬ StateNumbersFollow sent := by
  have follow : (GOOSEPublisher.startAndRun uneventful Octets.zero (fun _ => 0) 0 4
      [.event, .event]).map (fun final => decide (StateNumbersFollow final.2)) =
        some false := by
    decide +kernel
  obtain ⟨⟨self, sent⟩, run, wrong⟩ := Option.map_eq_some_iff.mp follow
  exact ⟨self, sent, run, of_decide_eq_false wrong⟩

/-- An application with events that come before the next periodic message, and have none of their
own. -/
def restless : GOOSEAttributes :=
  { uneventful with t0 := 100000000, eventInterval := 50000000, eventMessages := 0 }

theorem stateNumbersFollow_restless :
    ∃ self sent, GOOSEPublisher.startAndRun restless Octets.zero (fun _ => 0) 0 4
        [.event, .event, .event] = some (self, sent) ∧ sent.length = 3 ∧
      (StateNumbersFollow sent ↔
        ∀ transmission ∈ sent.tail, transmission.startsEvent = true) := by
  have runs : (GOOSEPublisher.startAndRun restless Octets.zero (fun _ => 0) 0 4
      [.event, .event, .event]).map (fun final => final.2.length) = some 3 := by
    decide +kernel
  obtain ⟨⟨self, sent⟩, run, three⟩ := Option.map_eq_some_iff.mp runs
  exact ⟨self, sent, run, three, stateNumbersFollow_iff run⟩

end GridGooseSV.Ns3
