import GridGooseSV.Apps.GooseAgreement
import GridGooseSV.Apps.GooseCadence
import GridGooseSV.Goose.History

/-!
# Supervision of the GOOSE stream

Every message of the publisher application may be relied on for half a second. The receiver has a
valid subscriber exactly for so long after each arrival, and never loses it between two messages if
the delays of the publisher and those on the way make up half a second at most.
-/

namespace GridGooseSV.Ns3

open BerDecoder BerEncoder

/-- A frame may be relied on for 500 milliseconds and carries the data set of the application. -/
def Transmission.Lives (transmission : Transmission) : Prop :=
  ∀ memory, memory.Holds 0 transmission.frame.packet →
    (framePdu memory).timeAllowedToLive = 500 ∧ (framePdu memory).confRev = 1 ∧
    ∃ address, (framePdu memory).dataSetBufferAddress = some address ∧
      Data.CarriedAt memory address (framePdu memory).dataSetBufferLength
        (componentsData analogDataSet)

section Publishing

variable {appId : UInt16} {srcAddr : Octets 6} {publisher : GridGooseSV.GoosePublisher}

/-- A frame of the application lives as long as the publisher says. -/
theorem Configured.lives {now : Nat} (configured : Configured appId srcAddr publisher)
    (live : publisher.timeAllowedToLive = 500) (revision : publisher.confRev = 1)
    {publication : Publication}
    (published : (publisher.increaseStNum (milliSeconds now)).publish analogDataSet =
      some publication) {packet : List UInt8} (sent : publication.sent = some packet)
    (startsEvent : Bool) (stNum sqNum : UInt32) :
    Transmission.Lives ⟨startsEvent, now, ⟨stNum, sqNum, packet⟩⟩ := by
  have increased := configured.increaseStNum (milliSeconds now)
  obtain ⟨_, _, same, success, _⟩ := increased.published
  obtain rfl := Option.some.inj (published.symm.trans same)
  obtain ⟨payload, _, created, fits, octets, _, _⟩ :=
    GoosePublisher.publish_eq increased.prepared published success
  obtain rfl := Option.some.inj (octets.symm.trans sent)
  obtain ⟨size, entries, counted, encoded, _, shorter, payloadEq⟩ :=
    GoosePublisher.createGoosePayload_eq created (by omega)
  have wellFormed : ComponentsWellFormed analogDataSet :=
    ⟨⟨by decide, by decide⟩, .inr rfl, ⟨by decide, by decide⟩, trivial⟩
  have present : presentEntries analogDataSet = analogDataSet := rfl
  rw [present] at counted encoded
  have all := encodesAll _ wellFormed encoded (by omega)
  obtain rfl := Option.some.inj (counted.symm.trans all.counted)
  rw [List.take_length] at payloadEq
  intro memory held
  have number : payload.length + 8 = (UInt16.ofNat (payload.length + 8)).toNat := by
    rw [UInt16.toNat_ofNat', Nat.mod_eq_of_lt (by omega)]
  obtain ⟨elements, scanned, written⟩ :=
    elements_of_encoded held readsBack_encodeLength payloadEq number
  have carries := carries_items written
  have fields : framePdu memory = GoosePdu.ofElements memory elements := by
    rw [framePdu, scanned]
  obtain ⟨address, given, length, data⟩ := carries.dataSet
  rw [fields]
  refine ⟨carries.timeAllowedToLive.trans live, carries.confRev.trans revision, address, given, ?_⟩
  rw [length]
  exact carriedAt_of_encodesAll all (by omega) data

end Publishing

/-! ## The publisher -/

namespace GOOSEPublisher

/-- What the application has configured besides, and its frames so far. -/
structure Supervised (application : GOOSEPublisher) (sent : List Transmission) : Prop where
  configured : ∀ publisher, application.publisher = some publisher →
    publisher.timeAllowedToLive = 500 ∧ publisher.confRev = 1
  lives : ∀ transmission ∈ sent, transmission.Lives

section Steps

variable {attributes : GOOSEAttributes} {srcAddr : Octets 6} {self after : GOOSEPublisher}
variable {sent : List Transmission} {action : GOOSEAction} {output : Option Transmission}

theorem Supervised.step (supervised : self.Supervised sent)
    (sending : Sending attributes srcAddr self sent)
    (stepped : self.step action = some (after, output)) :
    after.Supervised (sent ++ output.toList) := by
  rcases step_cases stepped with ⟨_, rfl, rfl⟩ | ⟨first, simulator, frame, _, found, ran, rfl⟩
  · rw [Option.toList_none, List.append_nil]
    exact ⟨by simp [stopApplication], supervised.lives⟩
  · rcases ran.sends with ⟨_, rfl, publisher, _, _⟩ |
      ⟨publisher, publication, present, left, published, publisherAfter, _, _, rfl⟩
    · rw [Option.map_none, Option.toList_none, List.append_nil]
      exact ⟨publisher ▸ supervised.configured, supervised.lives⟩
    · obtain ⟨configured, _⟩ := sending.configured publisher present
      obtain ⟨live, revision⟩ := supervised.configured publisher present
      dsimp only at published
      rw [sending.dataSet] at published
      have increased := configured.increaseStNum (milliSeconds simulator.now)
      obtain ⟨_, packet, same, success, octets⟩ := increased.published
      obtain rfl := Option.some.inj (published.symm.trans same)
      obtain ⟨_, _, _, _, _, kept, _⟩ :=
        GoosePublisher.publish_eq increased.prepared published success
      refine ⟨?_, ?_⟩
      · rw [publisherAfter]
        rintro _ ⟨⟩
        rw [kept]
        exact ⟨live, revision⟩
      · intro transmission member
        simp only [octets, Option.map_some, Option.toList_some] at member
        rcases List.mem_append.mp member with earlier | last
        · exact supervised.lives transmission earlier
        · obtain rfl := List.mem_singleton.mp last
          exact configured.lives live revision published octets _ _ _

theorem supervised_startApplication {found : Memory} {now nextUid : Nat}
    (started : startApplication attributes srcAddr found (.empty now nextUid) = some self) :
    self.Supervised [] := by
  obtain ⟨publisher, armed, performed, arming, scheduled⟩ := startApplication_eq started
  have configured : publisher.timeAllowedToLive = 500 ∧ publisher.confRev = 1 := by
    obtain rfl := Option.some.inj performed
    exact ⟨rfl, rfl⟩
  have present : self.publisher = some publisher := by
    obtain ⟨_, _, rfl⟩ := scheduleEvent_eq scheduled
    split at arming
    · obtain ⟨_, _, rfl⟩ := scheduleGooseEvent_eq arming
      rfl
    · rw [arming]
      rfl
  refine ⟨?_, by simp⟩
  rw [present]
  rintro _ ⟨⟩
  exact configured

end Steps

end GOOSEPublisher

/-! ## The subscriber -/

/-- The subscriber of the application after its last frame, with the time at which it arrived. -/
def Watched (subscriber : GooseSubscriber) : Option (Transmission × UInt64) → Prop
  | none => subscriber.dataSetValues = none ∧ subscriber.stNum = 0 ∧ subscriber.stateValid = false
  | some (last, now) => subscriber.Holding 1 (componentsData analogDataSet) ∧
    subscriber.stNum = last.frame.stNum ∧ subscriber.stateValid = true ∧
    subscriber.invalidityTime = now + 500

/-- The subscribers of the receiver are those that the frame has left. -/
theorem subscribers_deliver (receiver : GOOSEReceiver) (arrival : Arrival) :
    (receiver.deliver arrival).subscribers =
      (parseGooseMessage receiver.subscribers arrival.memory arrival.numbytes
        arrival.now).value.subscriberList := by
  unfold GOOSEReceiver.deliver
  dsimp only
  generalize (parseGooseMessage receiver.subscribers arrival.memory arrival.numbytes
    arrival.now).value = reception
  suffices kept : ∀ (calls : List Nat) (self : GOOSEReceiver),
      (calls.foldl (fun self index =>
        (reception.subscriberList[index]?.map self.receive).getD self) self).subscribers =
        self.subscribers from kept _ _
  intro calls
  induction calls with
  | nil => exact fun _ => rfl
  | cons index rest ih =>
      intro self
      rw [List.foldl_cons, ih]
      cases reception.subscriberList[index]? <;> rfl

/-- The integers of the data set fit in the storage that it fixes. -/
theorem analogDataSet_fits :
    Data.AllIntegersFit (componentsData analogDataSet) (componentsData analogDataSet) := by
  exact ⟨Nat.le_of_ble_eq_true rfl, trivial, Nat.le_of_ble_eq_true rfl, trivial⟩

section Delivery

variable {subscriber : GooseSubscriber} {memory : Memory} {pdu : GoosePdu}

/-- The data set of the application is decoded whatever was received before. -/
theorem Watched.decode {last : Option (Transmission × UInt64)}
    (watched : Watched subscriber last) (revision : pdu.confRev = 1) {address : Nat}
    (given : pdu.dataSetBufferAddress = some address)
    (carried : Data.CarriedAt memory address pdu.dataSetBufferLength
      (componentsData analogDataSet)) :
    (subscriber.decode memory pdu).isValid = true ∧
      ∃ components, (subscriber.decode memory pdu).dataSetValues = some components ∧
        ComponentsBuiltFor components (componentsData analogDataSet) := by
  cases last with
  | none =>
      have kept : subscriber.keptDataSet pdu.confRev = none := by
        rw [GooseSubscriber.keptDataSet, watched.1, ite_self]
      obtain ⟨components, built, _, storage⟩ :=
        parseAllDataUnknownValue_of_carried carried subscriber.dataSetValuesSelfAllocated
      unfold GooseSubscriber.decode
      simp only [kept, given, Option.getD_some, built]
      exact ⟨trivial, components, rfl, storage⟩
  | some last =>
      obtain ⟨⟨unobserving, same, components, present, storage⟩, _⟩ := watched
      have kept : subscriber.keptDataSet pdu.confRev = some components := by
        rw [GooseSubscriber.keptDataSet, unobserving, same, revision, present]
        simp
      have able : ComponentsCanTake components (componentsData analogDataSet) :=
        (storage _).mpr ⟨rfl, analogDataSet_fits⟩
      obtain ⟨after, updated, _⟩ := parseAllData_of_carried carried able
      have stored : ComponentsBuiltFor after (componentsData analogDataSet) := by
        intro other
        have taken := @componentsCanTake_parseAllData memory address pdu.dataSetBufferLength
          components other
        rw [updated] at taken
        exact taken.trans (storage other)
      unfold GooseSubscriber.decode
      simp only [kept, given, Option.getD_some, updated]
      exact ⟨rfl, after, rfl, stored⟩

/-- A frame with a new state number makes the subscriber valid for half a second. -/
theorem Watched.deliver {receiver : GOOSEReceiver} (only : receiver.subscribers = [subscriber])
    (listening : Listening subscriber) {last : Option (Transmission × UInt64)}
    (watched : Watched subscriber last) {transmission : Transmission}
    (readable : transmission.Readable) (lives : transmission.Lives)
    (newer : subscriber.stNum ≠ transmission.frame.stNum) {arrival : Arrival}
    (brings : arrival.Brings transmission.frame) :
    ∃ after, (receiver.deliver arrival).subscribers = [after] ∧ Listening after ∧
      Watched after (some (transmission, arrival.now)) := by
  obtain ⟨held, numbytes⟩ := brings
  obtain ⟨goose, matching, stNum, _⟩ := readable.read arrival.memory held
  obtain ⟨live, revision, address, given, carried⟩ := lives arrival.memory held
  obtain ⟨elements, scanned, matched⟩ := matching subscriber listening.selects
  obtain ⟨_, list⟩ := received_sole goose scanned matched arrival.now
  have fields : framePdu arrival.memory = GoosePdu.ofElements arrival.memory elements := by
    rw [framePdu, scanned]
  rw [← numbytes, ← fields, ← only, ← subscribers_deliver receiver arrival, only] at list
  obtain ⟨valid, components, decoded, storage⟩ := watched.decode revision given carried
  have read := listening.parsed arrival.memory arrival.numbytes [subscriber] 0
  have old : (parsed arrival.memory arrival.numbytes [subscriber] 0 subscriber).stNum =
      subscriber.stNum := by
    rw [parsed_eq]
  refine ⟨_, list, ?_⟩
  rw [GooseSubscriber.value_deliver, decode_parsed]
  refine ⟨⟨⟨read.plain.unobserving, read.plain.whole⟩, read.goCBRef, read.listener⟩,
    ⟨by simpa using read.plain.unobserving, revision, components, decoded, storage⟩, stNum, ?_, ?_⟩
  · rw [valid]
    simp [GooseSubscriber.Repeated, old, stNum, newer]
  · rw [live]
    rfl

end Delivery

/-! ## Both applications -/

/-- When an action lets a frame arrive. -/
def LinkAction.time : LinkAction → UInt64
  | .publisher _ => 0
  | .deliver _ now => now

namespace GOOSELink

/-- A step of either application, and the frame that is delivered with its time. -/
def stepAt (self : GOOSELink) (action : LinkAction) :
    Option (GOOSELink × Option (Transmission × UInt64)) :=
  (self.step action).map fun (next, output) => (next, output.map fun frame => (frame, action.time))

/-- The applications after actions, and the frames that were delivered with their times. -/
def startAndWatch (attributes : GOOSEAttributes) (srcAddr : Octets 6) (found : Memory)
    (now nextUid : Nat) (receiver : GOOSEReceiver) (actions : List LinkAction) :
    Option (GOOSELink × List (Transmission × UInt64)) := do
  let self ← start attributes srcAddr found now nextUid receiver
  (runAll stepAt self actions).map fun (final, delivered) => (final, delivered.reduceOption)

end GOOSELink

/-- What holds of both applications, and the frames that were delivered with their times. -/
structure Watching (attributes : GOOSEAttributes) (srcAddr : Octets 6) (link : GOOSELink)
    (delivered : List (Transmission × UInt64)) : Prop where
  sending : link.publisher.Sending attributes srcAddr (delivered.map Prod.fst ++ link.inFlight)
  supervised : link.publisher.Supervised (delivered.map Prod.fst ++ link.inFlight)
  subscriber : ∃ subscriber, link.receiver.subscribers = [subscriber] ∧ Listening subscriber ∧
    Watched subscriber delivered.getLast?

section Steps

variable {attributes : GOOSEAttributes} {srcAddr : Octets 6} {link after : GOOSELink}
variable {delivered : List (Transmission × UInt64)} {action : LinkAction}
variable {output : Option (Transmission × UInt64)}

/-- The frame that is delivered next has another state number than the one before. -/
theorem Watching.newer (watching : Watching attributes srcAddr link delivered)
    {first : Transmission} {rest : List Transmission} (flying : link.inFlight = first :: rest)
    {subscriber : GooseSubscriber} (watched : Watched subscriber delivered.getLast?) :
    subscriber.stNum ≠ first.frame.stNum := by
  have numbers := watching.sending.numbers
  rw [flying] at numbers
  obtain ⟨number, _⟩ := numbers delivered.length first (by
    rw [List.getElem?_append_right (by simp)]
    simp)
  rw [number, stNumAfter_succ]
  rcases List.eq_nil_or_concat delivered with rfl | ⟨before, last, rfl⟩
  · rw [watched.2.1]
    decide
  · rw [List.concat_eq_append, List.getLast?_concat] at watched
    obtain ⟨before', _⟩ := numbers before.length last.1 (by simp)
    rw [watched.2.1, before', List.concat_eq_append, List.length_append, List.length_singleton]
    exact nextStNum_ne _

/-- Everything that a step can do. -/
theorem GOOSELink.stepAt_cases (stepped : link.stepAt action = some (after, output)) :
    (∃ own publisher sent, link.publisher.step own = some (publisher, sent) ∧ output = none ∧
        after = { link with
          publisher := publisher
          inFlight := link.inFlight ++ sent.toList }) ∨
      ∃ first rest arrival, link.inFlight = first :: rest ∧ Arrival.Brings arrival first.frame ∧
        output = some (first, arrival.now) ∧
        after = { link with inFlight := rest, receiver := link.receiver.deliver arrival } := by
  obtain ⟨⟨next, frame⟩, performed, same⟩ := Option.map_eq_some_iff.mp stepped
  obtain ⟨rfl, rfl⟩ := Prod.mk.inj same
  cases action with
  | publisher own =>
      obtain ⟨⟨publisher, sent⟩, own', rest⟩ := Option.bind_eq_some_iff.mp performed
      obtain ⟨rfl, rfl⟩ := Prod.mk.inj (Option.some.inj rest)
      exact .inl ⟨own, publisher, sent, own', rfl, rfl⟩
  | deliver stale now =>
      rw [GOOSELink.step] at performed
      cases flying : link.inFlight with
      | nil => simp [flying] at performed
      | cons first rest =>
          simp only [flying, Option.some.injEq, Prod.mk.injEq] at performed
          obtain ⟨rfl, rfl⟩ := performed
          exact .inr ⟨first, rest, ⟨Memory.ofOctets first.frame.packet stale,
            first.frame.packet.length, now⟩, rfl, ⟨Memory.holds_ofOctets _ _, rfl⟩, rfl, rfl⟩

theorem Watching.step (watching : Watching attributes srcAddr link delivered)
    (stepped : link.stepAt action = some (after, output)) :
    Watching attributes srcAddr after (delivered ++ output.toList) := by
  obtain ⟨subscriber, only, listening, watched⟩ := watching.subscriber
  rcases GOOSELink.stepAt_cases stepped with ⟨_, _, sent, own, rfl, rfl⟩ |
    ⟨first, rest, arrival, flying, brings, rfl, rfl⟩
  · have sending := watching.sending.step own
    have supervised := watching.supervised.step watching.sending own
    rw [List.append_assoc] at sending supervised
    rw [Option.toList_none, List.append_nil]
    exact ⟨sending, supervised, subscriber, only, listening, watched⟩
  · have newer := watching.newer flying watched
    obtain ⟨sending, supervised, _⟩ := watching
    rw [flying] at sending supervised
    obtain ⟨kept, still, further, final⟩ := watched.deliver only listening
      (sending.readable first (by simp)) (supervised.lives first (by simp)) newer brings
    rw [Option.toList_some]
    refine ⟨?_, ?_, kept, still, further, ?_⟩
    · simpa using sending
    · simpa using supervised
    · rwa [List.getLast?_concat]

/-- What holds of a run of both applications. -/
theorem watching_startAndWatch {found : Memory} {now nextUid lastReceivedTime : Nat}
    {lastStNum : UInt16} {actions : List LinkAction}
    (run : GOOSELink.startAndWatch attributes srcAddr found now nextUid
      (.startApplication lastReceivedTime lastStNum) actions = some (link, delivered)) :
    Watching attributes srcAddr link delivered := by
  obtain ⟨first, started, rest⟩ := Option.bind_eq_some_iff.mp run
  obtain ⟨⟨_, outputs⟩, ran, same⟩ := Option.map_eq_some_iff.mp rest
  obtain ⟨rfl, rfl⟩ := Prod.mk.inj same
  obtain ⟨publisher, startedPublisher, same⟩ := Option.bind_eq_some_iff.mp started
  obtain rfl := Option.some.inj same
  have initially : Watching attributes srcAddr
      ⟨publisher, [], .startApplication lastReceivedTime lastStNum⟩ [] :=
    ⟨GOOSEPublisher.sending_startApplication startedPublisher,
      GOOSEPublisher.supervised_startApplication startedPublisher,
      gooseSubscriber, rfl, listening_gooseSubscriber, rfl, rfl, rfl⟩
  exact @runAll_history _ _ _ GOOSELink.stepAt _ _ actions outputs
    (fun link done => Watching attributes srcAddr link done.reduceOption)
    (by
      intro _ done _ _ output watching stepped
      have next := watching.step stepped
      cases output <;> simpa [List.reduceOption_append] using next)
    [] initially ran

/-- When a subscriber is valid. -/
theorem Watched.isValid_iff {subscriber : GooseSubscriber}
    {last : Option (Transmission × UInt64)} (watched : Watched subscriber last)
    (room : ∀ arrival ∈ last, arrival.2.toNat + 500 < 2 ^ 64) (time : UInt64) :
    subscriber.isValid time = true ↔
      ∃ arrival, last = some arrival ∧ time.toNat ≤ arrival.2.toNat + 500 := by
  cases last with
  | none => simp [GooseSubscriber.isValid, watched.2.2]
  | some arrival =>
      have fits := room arrival rfl
      obtain ⟨_, _, valid, invalidity⟩ := watched
      have hundreds : (500 : UInt64).toNat = 500 := rfl
      have sum : (arrival.2 + 500).toNat = arrival.2.toNat + 500 := by
        rw [UInt64.toNat_add, hundreds, Nat.mod_eq_of_lt fits]
      simp [GooseSubscriber.isValid, valid, invalidity, UInt64.lt_iff_toNat_lt, sum]

/-- In every run of both applications the subscriber is valid at a time exactly if a frame has
arrived and the last one did so at most 500 milliseconds before. -/
theorem valid_iff_recent {found : Memory} {now nextUid lastReceivedTime : Nat}
    {lastStNum : UInt16} {actions : List LinkAction}
    (run : GOOSELink.startAndWatch attributes srcAddr found now nextUid
      (.startApplication lastReceivedTime lastStNum) actions = some (link, delivered))
    (room : ∀ arrival ∈ delivered, arrival.2.toNat + 500 < 2 ^ 64) :
    ∃ subscriber, link.receiver.subscribers = [subscriber] ∧ ∀ time : UInt64,
      subscriber.isValid time = true ↔
        ∃ last, delivered.getLast? = some last ∧ time.toNat ≤ last.2.toNat + 500 := by
  obtain ⟨subscriber, only, _, watched⟩ := (watching_startAndWatch run).subscriber
  exact ⟨subscriber, only, watched.isValid_iff fun arrival final =>
    room arrival (List.mem_of_getLast? final)⟩

theorem valid_iff_recent_late :
    ∃ link delivered,
      GOOSELink.startAndWatch uneventful Octets.zero (fun _ => 0) 0 4 (.startApplication 0 0)
        [.publisher .event, .publisher .event, .deliver (fun _ => 0) 30] =
          some (link, delivered) ∧ delivered.map Prod.snd = [30] ∧
      ∃ subscriber, link.receiver.subscribers = [subscriber] ∧ ∀ time : UInt64,
        subscriber.isValid time = true ↔
          ∃ last, delivered.getLast? = some last ∧ time.toNat ≤ last.2.toNat + 500 := by
  have runs : (GOOSELink.startAndWatch uneventful Octets.zero (fun _ => 0) 0 4
      (.startApplication 0 0)
      [.publisher .event, .publisher .event, .deliver (fun _ => 0) 30]).map
        (fun final => final.2.map Prod.snd) = some [30] := by decide +kernel
  obtain ⟨⟨link, delivered⟩, run, times⟩ := Option.map_eq_some_iff.mp runs
  refine ⟨link, delivered, run, times, valid_iff_recent run fun arrival member => ?_⟩
  have late : arrival.2 ∈ [(30 : UInt64)] := times ▸ List.mem_map_of_mem member
  rw [List.mem_singleton.mp late]
  decide

/-! ## No lapse -/

/-- Every frame arrives not before it is sent and at most so many nanoseconds after; the clock of
the receiver counts milliseconds. -/
def Prompt (jitter : Nat) (delivered : List (Transmission × UInt64)) : Prop :=
  ∀ arrival ∈ delivered, arrival.1.assignedAt / 1000000 ≤ arrival.2.toNat ∧
    arrival.2.toNat ≤ (arrival.1.assignedAt + jitter) / 1000000

theorem due_startAndWatch {bound : Nat} (within : attributes.Within bound) {found : Memory}
    {now nextUid lastReceivedTime : Nat} {lastStNum : UInt16} {actions : List LinkAction}
    (run : GOOSELink.startAndWatch attributes srcAddr found now nextUid
      (.startApplication lastReceivedTime lastStNum) actions = some (link, delivered)) :
    link.publisher.Due bound (delivered.map Prod.fst ++ link.inFlight) := by
  obtain ⟨first, started, rest⟩ := Option.bind_eq_some_iff.mp run
  obtain ⟨⟨_, outputs⟩, ran, same⟩ := Option.map_eq_some_iff.mp rest
  obtain ⟨rfl, rfl⟩ := Prod.mk.inj same
  obtain ⟨publisher, startedPublisher, same⟩ := Option.bind_eq_some_iff.mp started
  obtain rfl := Option.some.inj same
  obtain ⟨fixed, initially⟩ :=
    @GOOSEPublisher.due_startApplication attributes srcAddr bound _ _ _ _ startedPublisher
  have sending := GOOSEPublisher.sending_startApplication startedPublisher
  have kept := @runAll_history _ _ _ GOOSELink.stepAt _ _ actions outputs
    (fun link done => link.publisher.attributes = attributes ∧
      link.publisher.Sending attributes srcAddr (done.reduceOption.map Prod.fst ++ link.inFlight) ∧
      link.publisher.Due bound (done.reduceOption.map Prod.fst ++ link.inFlight))
    (by
      rintro link done _ _ output ⟨fixed, sending, due⟩ stepped
      rcases GOOSELink.stepAt_cases stepped with ⟨_, _, sent, own, rfl, rfl⟩ |
        ⟨first, rest, arrival, flying, _, rfl, rfl⟩
      · have further := due.step sending (fixed ▸ within) own
        have next := sending.step own
        rw [List.append_assoc] at further next
        rw [List.reduceOption_append]
        simpa using ⟨(GOOSEPublisher.attributes_step own).trans fixed, next, further⟩
      · rw [flying] at sending due
        rw [List.reduceOption_append]
        simpa using ⟨fixed, sending, due⟩)
    [] ⟨fixed, sending, initially⟩ ran
  exact kept.2.2

/-- If the longest delay of the publisher and the longest delay on the way make up half a second at
most, then whenever a frame arrives after the first one, the subscriber has been valid up to
then. -/
theorem never_lapses {bound jitter : Nat} (within : attributes.Within bound)
    (fast : bound + jitter ≤ 500000000) {found : Memory} {now nextUid lastReceivedTime : Nat}
    {lastStNum : UInt16} {actions : List LinkAction}
    (run : GOOSELink.startAndWatch attributes srcAddr found now nextUid
      (.startApplication lastReceivedTime lastStNum) actions = some (link, delivered))
    (before : delivered ≠ []) {next : Transmission × UInt64}
    (stepped : link.stepAt action = some (after, some next))
    (prompt : Prompt jitter (delivered ++ [next]))
    (room : ∀ arrival ∈ delivered, arrival.2.toNat + 500 < 2 ^ 64) :
    ∃ subscriber, link.receiver.subscribers = [subscriber] ∧ ∀ time : UInt64,
      time ≤ next.2 → subscriber.isValid time = true := by
  obtain ⟨subscriber, only, _, watched⟩ := (watching_startAndWatch run).subscriber
  refine ⟨subscriber, only, fun time early => ?_⟩
  have paced := (due_startAndWatch within run).paced
  rcases GOOSELink.stepAt_cases stepped with ⟨_, _, _, _, nothing, _⟩ |
    ⟨first, rest, arrival, flying, _, same, _⟩
  · contradiction
  · obtain rfl := Option.some.inj same
    obtain ⟨earlier, last, rfl⟩ := (List.eq_nil_or_concat delivered).resolve_left before
    rw [List.concat_eq_append] at watched paced prompt room
    rw [flying] at paced
    rw [List.getLast?_concat] at watched
    have gap : first.assignedAt ≤ last.1.assignedAt + bound := by
      have both := (List.isChain_append.mp paced).2.2 last.1 (by simp) first rfl
      exact both.2
    have arrived := (prompt last (by simp)).1
    have soon := (prompt (first, arrival.now) (by simp)).2
    have within : time.toNat ≤ arrival.now.toNat := early
    refine (watched.isValid_iff ?_ time).mpr ⟨last, rfl, ?_⟩
    · rintro _ ⟨⟩
      exact room last (by simp)
    · dsimp only at soon
      omega

theorem never_lapses_uneventful :
    ∃ link delivered after next,
      GOOSELink.startAndWatch uneventful Octets.zero (fun _ => 0) 0 4 (.startApplication 0 0)
        [.publisher .event, .deliver (fun _ => 0) 3, .publisher .event] =
          some (link, delivered) ∧
      link.stepAt (.deliver (fun _ => 0) 25) = some (after, some next) ∧
      ∃ subscriber, link.receiver.subscribers = [subscriber] ∧ ∀ time : UInt64,
        time ≤ next.2 → subscriber.isValid time = true := by
  have runs : (GOOSELink.startAndWatch uneventful Octets.zero (fun _ => 0) 0 4
      (.startApplication 0 0)
      [.publisher .event, .deliver (fun _ => 0) 3, .publisher .event]).bind
        (fun (link, delivered) => (link.stepAt (.deliver (fun _ => 0) 25)).bind fun (_, next) =>
          next.map fun next => (delivered ++ [next]).map fun arrival =>
            (arrival.1.assignedAt, arrival.2)) = some [(0, 3), (20000000, 25)] := by
    decide +kernel
  obtain ⟨⟨link, delivered⟩, run, rest⟩ := Option.bind_eq_some_iff.mp runs
  obtain ⟨⟨after, output⟩, stepped, last⟩ := Option.bind_eq_some_iff.mp rest
  obtain ⟨next, rfl, times⟩ := Option.map_eq_some_iff.mp last
  have arrivals : ∀ arrival ∈ delivered ++ [next],
      (arrival.1.assignedAt, arrival.2) ∈ [(0, 3), (20000000, (25 : UInt64))] :=
    fun arrival member => times ▸ List.mem_map_of_mem member
  have within : uneventful.Within 20000000 := 
    ⟨by decide, by decide, fun _ _ => Nat.zero_le _⟩
  refine ⟨link, delivered, after, next, run, stepped,
    @never_lapses _ _ _ _ _ _ 20000000 5000000 within (by decide) _ _ _ _ _ _ run ?_ _ stepped
      ?_ ?_⟩
  · rintro rfl
    simp at times
  · intro arrival member
    have either := arrivals arrival member
    simp only [List.mem_cons, Prod.mk.injEq, List.not_mem_nil, or_false] at either
    rcases either with ⟨sent, arrived⟩ | ⟨sent, arrived⟩
    · rw [sent, arrived]
      decide
    · rw [sent, arrived]
      decide
  · intro arrival member
    have either := arrivals arrival (List.mem_append_left _ member)
    simp only [List.mem_cons, Prod.mk.injEq, List.not_mem_nil, or_false] at either
    rcases either with ⟨_, arrived⟩ | ⟨_, arrived⟩
    · rw [arrived]
      decide
    · rw [arrived]
      decide

end Steps

end GridGooseSV.Ns3
