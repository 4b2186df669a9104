import GridGooseSV.Apps.GooseBursts

/-!
# How often the GOOSE publisher application sends

After every message the application schedules the next one, and an event that comes before it only
makes it earlier. No two messages in a row are further apart than the longest of the delays.
-/

namespace GridGooseSV.Ns3

/-- Every delay between two messages is at most so long. -/
structure GOOSEAttributes.Within (attributes : GOOSEAttributes) (bound : Nat) : Prop where
  t0 : attributes.t0.toNat ≤ bound
  t1 : attributes.t1.toNat ≤ bound
  stretched : ∀ n, n ≤ attributes.eventMessages → (attributes.stretched n).toNat ≤ bound

/-- Every message follows the one before it within so many nanoseconds. -/
def Paced (bound : Nat) : List Transmission → Prop :=
  List.IsChain fun previous next =>
    previous.assignedAt ≤ next.assignedAt ∧ next.assignedAt ≤ previous.assignedAt + bound

namespace GOOSEPublisher

section Steps

variable {attributes : GOOSEAttributes} {srcAddr : Octets 6} {bound : Nat}
variable {self after sender : GOOSEPublisher} {first : Scheduled GOOSEHandler}
variable {frame : Option SentFrame} {sent : List Transmission}

theorem toNat_T_le (within : self.attributes.Within bound) {n : UInt8} {delay : Int}
    (inside : n ≤ self.attributes.eventMessages) (delayed : self.T n = some delay) :
    delay.toNat ≤ bound := by
  unfold T at delayed
  split at delayed
  · contradiction
  · split at delayed
    · obtain rfl := Option.some.inj delayed
      exact within.t0
    · split at delayed
      · obtain rfl := Option.some.inj delayed
        exact within.t1
      · obtain rfl := Option.some.inj delayed
        exact within.stretched n inside

/-- An event that is scheduled is due after its delay. -/
theorem due_scheduleEvent {delay : Int} {handler : GOOSEHandler}
    (scheduled : sender.scheduleEvent delay handler = some after) (short : delay.toNat ≤ bound) :
    after.simulator.now = sender.simulator.now ∧
      ∃ event ∈ after.simulator.pending, event.time ≤ sender.simulator.now + bound := by
  obtain ⟨simulator, found, rfl⟩ := scheduleEvent_eq scheduled
  obtain ⟨_, _, now, _, pending⟩ := EventQueue.schedule_eq found
  refine ⟨now, ⟨sender.simulator.nextUid, sender.simulator.now + delay.toNat, handler⟩, ?_, ?_⟩
  · change _ ∈ simulator.pending
    rw [pending]
    exact List.mem_append_right _ (List.mem_singleton_self _)
  · exact Nat.add_le_add_left short _

/-- After a handler has sent a message, the next one is due in time. -/
theorem Ran.due (ran : Ran self first after frame) (within : self.attributes.Within bound)
    (left : self.count ≠ 0) :
    after.simulator.now = self.simulator.now ∧
      ∃ event ∈ after.simulator.pending, event.time ≤ self.simulator.now + bound := by
  cases ran with
  | exhausted nothing => exact absurd nothing left
  | periodic _ _ transmitted scheduled =>
      obtain ⟨_, _, _, _, rfl, _⟩ := transmit_eq transmitted
      have next := due_scheduleEvent scheduled within.t0
      exact next
  | handBack _ _ _ armedBy transmitted scheduled =>
      obtain ⟨simulator, found, rfl⟩ := scheduleGooseEvent_eq armedBy
      have now : simulator.now = self.simulator.now :=
        (EventQueue.schedule_eq found).2.2.1.trans (EventQueue.now_cancel _ _)
      obtain ⟨_, _, _, _, rfl, _⟩ := transmit_eq transmitted
      have next := due_scheduleEvent scheduled within.t0
      rw [← now]
      exact next
  | @burst sender _ _ delay _ _ inside transmitted delayed scheduled =>
      obtain ⟨_, _, _, _, rfl, _⟩ := transmit_eq transmitted
      have short : delay.toNat ≤ bound := by
        refine toNat_T_le within (UInt8.not_lt.mp inside) ?_
        exact delayed
      have next := due_scheduleEvent scheduled short
      simp only [EventQueue.now_cancel] at next
      exact next

/-- The messages so far are in time, and so is the next one. -/
structure Due (bound : Nat) (application : GOOSEPublisher) (sent : List Transmission) : Prop where
  paced : Paced bound sent
  last : application.count ≠ 0 → ∀ last, sent.getLast? = some last →
    last.assignedAt = application.simulator.now
  due : application.publisher ≠ none → application.count ≠ 0 →
    ∃ event ∈ application.simulator.pending, event.time ≤ application.simulator.now + bound

/-- The next event is not later than one that is due. -/
theorem Due.next (due : self.Due bound sent) (running : self.publisher ≠ none)
    (left : self.count ≠ 0) {simulator : EventQueue GOOSEHandler}
    (found : self.simulator.next = some (first, simulator)) :
    self.simulator.now ≤ simulator.now ∧ simulator.now ≤ self.simulator.now + bound := by
  obtain ⟨event, member, early⟩ := due.due running left
  obtain ⟨there, now, _, _⟩ := EventQueue.next_eq found
  have least : first.time ≤ event.time := by
    unfold EventQueue.next at found
    split at found
    · contradiction
    · rename_i earliest
      obtain ⟨rfl, _⟩ := Prod.mk.inj (Option.some.inj found)
      exact EventQueue.time_earliest_le earliest event member
  rw [now]
  exact ⟨self.simulator.ahead first there, least.trans early⟩

/-- A message in time keeps all of them in time. -/
theorem Due.paced_append (due : self.Due bound sent) (left : self.count ≠ 0)
    {transmission : Transmission} (notBefore : self.simulator.now ≤ transmission.assignedAt)
    (soon : transmission.assignedAt ≤ self.simulator.now + bound) :
    Paced bound (sent ++ [transmission]) := by
  refine List.isChain_append.mpr ⟨due.paced, List.isChain_singleton _, ?_⟩
  intro last found next same
  obtain rfl := Option.some.inj same
  rw [due.last left last found]
  exact ⟨notBefore, soon⟩

theorem Due.step (due : self.Due bound sent) (sending : Sending attributes srcAddr self sent)
    (within : self.attributes.Within bound) {action : GOOSEAction} {output : Option Transmission}
    (stepped : self.step action = some (after, output)) :
    after.Due bound (sent ++ output.toList) := by
  rcases step_cases stepped with ⟨_, rfl, rfl⟩ | ⟨first, simulator, frame, _, found, ran, rfl⟩
  · rw [Option.toList_none, List.append_nil]
    refine ⟨due.paced, fun left last final => ?_, fun running => absurd rfl running⟩
    have now : self.stopApplication.simulator.now = self.simulator.now := by
      unfold stopApplication
      dsimp only
      split <;> simp
    exact (due.last left last final).trans now.symm
  · by_cases nothing : self.count = 0
    · have exhausted := step_of_exhausted nothing stepped
      rw [exhausted.1, Option.toList_none, List.append_nil]
      exact ⟨due.paced, fun left => absurd exhausted.2.2 left,
        fun _ left => absurd exhausted.2.2 left⟩
    · obtain ⟨packet, rfl⟩ := Option.isSome_iff_exists.mp (sending.isSome_frame nothing ran)
      have running : self.publisher ≠ none := by
        intro absent
        have member := (EventQueue.next_eq found).1
        rw [sending.invariant.stopped absent] at member
        exact List.not_mem_nil member
      obtain ⟨notBefore, soon⟩ := due.next running nothing found
      obtain ⟨now, next⟩ := ran.due within nothing
      simp only [Option.map_some, Option.toList_some]
      refine ⟨due.paced_append nothing notBefore soon, fun _ last final => ?_, fun _ _ => ?_⟩
      · rw [List.getLast?_concat] at final
        obtain rfl := Option.some.inj final
        exact now.symm
      · obtain ⟨event, member, early⟩ := next
        exact ⟨event, member, by rw [now]; exact early⟩

theorem exists_scheduleEvent {delay : Int} (positive : 0 ≤ delay) (handler : GOOSEHandler) :
    ∃ after, sender.scheduleEvent delay handler = some after := by
  obtain ⟨_, _, scheduled⟩ := @EventQueue.schedule_isSome _ sender.simulator _ positive handler
  exact ⟨_, by rw [scheduleEvent, scheduled]; rfl⟩

theorem exists_scheduleGooseEvent {delay : Int} (positive : 0 ≤ delay) (handler : GOOSEHandler) :
    ∃ after, sender.scheduleGooseEvent delay handler = some after := by
  obtain ⟨_, _, scheduled⟩ := @EventQueue.schedule_isSome _ sender.simulator _ positive handler
  exact ⟨_, by rw [scheduleGooseEvent, scheduled]; rfl⟩

/-- What is configured and not destroyed can send. -/
theorem exists_transmit {appId : UInt16} {publisher : GridGooseSV.GoosePublisher}
    (present : self.publisher = some publisher) (dataSet : self.dataSetValues = analogDataSet)
    (configured : Configured appId srcAddr publisher) :
    ∃ sender frame, self.transmit = some (sender, frame) := by
  have increased := configured.increaseStNum (milliSeconds self.simulator.now)
  obtain ⟨_, _, published, _, _⟩ := increased.published
  simp only [transmit, present, dataSet, Option.bind_eq_bind, Option.bind_some, published,
    Option.pure_def]
  exact ⟨_, _, rfl⟩

/-- `Send` is possible where a message can be sent and `T0` can be waited for. -/
theorem exists_send {frame : Option SentFrame} (left : self.count ≠ 0)
    (waits : self.attributes.Waits) (transmitted : self.transmit = some (sender, frame)) :
    ∃ after frame, self.send = some (after, frame) := by
  obtain ⟨_, _, _, _, same, _⟩ := transmit_eq transmitted
  have fixed : sender.attributes = self.attributes := by rw [same]
  obtain ⟨after, scheduled⟩ :=
    @exists_scheduleEvent sender sender.attributes.t0 (fixed ▸ waits.t0) .send
  refine ⟨after, frame, ?_⟩
  simp only [send, if_neg left, transmitted, scheduled, Option.bind_eq_bind, Option.bind_some,
    Option.pure_def]

/-- With delays that can be waited for, the handler of every event is possible. -/
theorem exists_handle (sending : Sending attributes srcAddr self sent)
    (waits : self.attributes.Waits) (interval : 0 ≤ self.attributes.eventInterval)
    (running : self.publisher ≠ none) (simulator : EventQueue GOOSEHandler)
    (handler : GOOSEHandler) :
    ∃ after frame, { self with simulator := simulator }.handle handler = some (after, frame) := by
  obtain ⟨publisher, present⟩ := Option.ne_none_iff_exists'.mp running
  have configured := (sending.configured publisher present).1
  by_cases nothing : self.count = 0
  · refine ⟨{ self with simulator := simulator }, none, ?_⟩
    cases handler
    · exact if_pos nothing
    · exact if_pos nothing
  · cases handler with
    | send =>
        obtain ⟨sender, frame, transmitted⟩ :=
          @exists_transmit _ { self with simulator := simulator } _ _ present sending.dataSet
            configured
        exact @exists_send { self with simulator := simulator } sender frame nothing waits
          transmitted
    | sendEvent =>
        change ∃ after frame, sendEvent { self with simulator := simulator } = some (after, frame)
        rw [sendEvent, if_neg nothing]
        dsimp only
        split
        · obtain ⟨armed, scheduled⟩ := @exists_scheduleGooseEvent
            { self with simulator := simulator.cancel self.eventId, eventCount := 1 }
            self.attributes.eventInterval interval .sendEvent
          obtain ⟨_, _, same⟩ := scheduleGooseEvent_eq scheduled
          have parts : armed.publisher = self.publisher ∧
              armed.dataSetValues = self.dataSetValues ∧ armed.attributes = self.attributes ∧
              armed.count = self.count := by
            rw [same]
            exact ⟨rfl, rfl, rfl, rfl⟩
          obtain ⟨publisherKept, dataSet, fixed, count⟩ := parts
          obtain ⟨sender, frame, transmitted⟩ := exists_transmit (publisherKept.trans present)
            (dataSet.trans sending.dataSet) configured
          obtain ⟨after, last, sent⟩ :=
            exists_send (count ▸ nothing) (fixed ▸ waits) transmitted
          refine ⟨after, last, ?_⟩
          simp only [scheduled, sent, Option.bind_eq_bind, Option.bind_some]
        · obtain ⟨sender, frame, transmitted⟩ := @exists_transmit _
            { self with simulator := simulator.cancel self.eventId } _ _ present sending.dataSet
            configured
          obtain ⟨_, _, _, _, same, _⟩ := transmit_eq transmitted
          have fixed : sender.attributes = self.attributes := by rw [same]
          obtain ⟨delay, delayed, positive⟩ := T_nonneg (fixed ▸ waits) sender.eventCount
          obtain ⟨after, scheduled⟩ := @exists_scheduleEvent sender delay positive .sendEvent
          refine ⟨{ after with eventCount := after.eventCount + 1 }, frame, ?_⟩
          simp only [transmitted, delayed, scheduled, Option.bind_eq_bind, Option.bind_some,
            Option.pure_def]

end Steps

section Runs

variable {attributes : GOOSEAttributes} {srcAddr : Octets 6} {bound : Nat} {found : Memory}
variable {now nextUid : Nat} {self : GOOSEPublisher} {sent : List Transmission}
variable {actions : List GOOSEAction}

theorem due_startApplication
    (started : startApplication attributes srcAddr found (.empty now nextUid) = some self) :
    self.attributes = attributes ∧ self.Due bound [] := by
  obtain ⟨publisher, armed, _, arming, scheduled⟩ := startApplication_eq started
  have fixed : armed.attributes = attributes := by
    split at arming
    · obtain ⟨_, _, rfl⟩ := scheduleGooseEvent_eq arming
      rfl
    · rw [arming]
      rfl
  obtain ⟨same, event, member, early⟩ := due_scheduleEvent scheduled (Nat.zero_le bound)
  obtain ⟨_, _, rfl⟩ := scheduleEvent_eq scheduled
  exact ⟨fixed, List.isChain_nil, by simp, fun _ _ => ⟨event, member, by rw [same]; exact early⟩⟩

/-- What holds of the messages of a run, and of the one that is due. -/
theorem due_startAndRun (within : attributes.Within bound)
    (run : startAndRun attributes srcAddr found now nextUid actions = some (self, sent)) :
    self.attributes = attributes ∧ self.Due bound sent := by
  obtain ⟨first, outputs, started, ran, rfl⟩ := startAndRun_eq run
  obtain ⟨initially, due⟩ := @due_startApplication attributes srcAddr bound _ _ _ _ started
  have kept := @runAll_history _ _ _ step first self actions outputs
    (fun application done => application.attributes = attributes ∧
      Sending attributes srcAddr application done.reduceOption ∧
      application.Due bound done.reduceOption)
    (by
      rintro state done _ _ output ⟨fixed, sending, due⟩ stepped
      have further := due.step sending (fixed ▸ within) stepped
      have next := sending.step stepped
      refine ⟨(attributes_step stepped).trans fixed, ?_⟩
      cases output <;> simpa [List.reduceOption_append] using And.intro next further)
    [] ⟨initially, sending_startApplication started, due⟩ ran
  exact ⟨kept.1, kept.2.2⟩

/-- In every run, each message follows the one before it within the longest delay; and as long as
there are packets left and the application is not stopped, the next event is in time and sends
another message. -/
theorem frames_paced (within : attributes.Within bound) (waits : attributes.Waits)
    (interval : 0 ≤ attributes.eventInterval)
    (run : startAndRun attributes srcAddr found now nextUid actions = some (self, sent)) :
    Paced bound sent ∧ (self.publisher ≠ none → self.count ≠ 0 →
      ∃ after transmission, self.step .event = some (after, some transmission) ∧
        Paced bound (sent ++ [transmission])) := by
  obtain ⟨fixed, due⟩ := due_startAndRun within run
  have sending := sending_startAndRun run
  refine ⟨due.paced, fun running left => ?_⟩
  obtain ⟨event, member, _⟩ := due.due running left
  obtain ⟨⟨first, simulator⟩, next⟩ : ∃ next, self.simulator.next = some next := by
    apply Option.ne_none_iff_exists'.mp
    intro nothing
    rw [EventQueue.next_eq_none.mp nothing] at member
    exact List.not_mem_nil member
  obtain ⟨after, frame, handled⟩ := exists_handle sending (fixed ▸ waits) (fixed ▸ interval)
    running simulator first.event
  obtain ⟨packet, rfl⟩ :=
    Option.isSome_iff_exists.mp (sending.isSome_frame left (ran_of_handle handled))
  obtain ⟨notBefore, soon⟩ := due.next running left next
  refine ⟨after, ⟨decide (self.gooseEventId = some first.uid), simulator.now, packet⟩, ?_,
    due.paced_append left notBefore soon⟩
  simp only [step, GOOSEPublisher.event, next, handled, Option.bind_eq_bind, Option.bind_some,
    Option.pure_def, Option.map_some]

/-- Periodic messages and events of two messages are never more than `T0` apart. -/
theorem frames_paced_eventful :
    ∃ self sent, startAndRun eventful Octets.zero (fun _ => 0) 0 4 [.event, .event, .event] =
        some (self, sent) ∧
      Paced 20000000 sent ∧ (self.publisher ≠ none → self.count ≠ 0 →
        ∃ after transmission, self.step .event = some (after, some transmission) ∧
          Paced 20000000 (sent ++ [transmission])) := by
  have runs : (startAndRun eventful Octets.zero (fun _ => 0) 0 4
      [.event, .event, .event]).isSome := by decide +kernel
  obtain ⟨⟨self, sent⟩, run⟩ := Option.isSome_iff_exists.mp runs
  have within : eventful.Within 20000000 := by
    refine ⟨by decide, by decide, fun n few => ?_⟩
    have small : n.toNat ≤ 2 := few
    have each : ∀ exponent ≤ 1, Nat.nthRoot 2 (3000000 ^ 2 * 6 ^ exponent) ≤ 20000000 := by
      decide +kernel
    exact each (n.toNat - 1) (by omega)
  have waits : eventful.Waits := by
    exact ⟨by decide, by decide, by decide, fun n => Int.natCast_nonneg _⟩
  exact ⟨self, sent, run, frames_paced within waits (by decide) run⟩

end Runs

end GOOSEPublisher

end GridGooseSV.Ns3
