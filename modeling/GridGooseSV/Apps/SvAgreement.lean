import GridGooseSV.Apps.SvSampling
import GridGooseSV.Common.Medium
import GridGooseSV.Common.Resolution
import GridGooseSV.Sv.DataBlock

/-!
# The SV applications together

Publishers of samples, and a subscriber to all of them. Frames get lost, arrive more than once or
in another order, and frames of other senders arrive between them. The subscriber takes the samples
of the frames that reach it, each as it was measured.
-/

namespace GridGooseSV.Ns3

open GridGooseSV.SVPublisher (ASDU DataKind Sample replaceAt)
open GOOSEPublisher (budget budget_lt)

/-- A frame of a publisher: the packet, how many it has sent with this one, how many ASDUs it puts
into a message, and what it has measured for them. -/
structure SVTransmission where
  packet : List UInt8
  sent : UInt64
  samplesPerMessage : UInt8
  measurements : List Measurement

/-- A publisher, and what it has measured since its last frame. -/
structure SVStation where
  application : SVPublisher
  taken : List Measurement

/-- Publishers, the frames that they have sent, and a subscriber. -/
structure SVNetwork where
  stations : List SVStation
  sent : List SVTransmission
  subscriber : SVSubscriber

/-- What a run of the applications is made of. -/
inductive SVAction
  /-- an event of a publisher -/
  | measure (station : Nat) (measurement : Measurement)
  /-- a frame that was sent arrives, over what is left in the receive buffer -/
  | deliver (frame : Nat) (stale : Memory) (now : UInt64)
  /-- a packet of another sender arrives -/
  | stray (packet : List UInt8) (stale : Memory) (now : UInt64)

/-- The attributes of a publisher application, and what it finds when it starts. -/
structure SVAttributes where
  maxPackets : UInt64
  samplesPerMessage : UInt8
  srcAddr : Octets 6
  found : Memory

/-- What the subscriber is meant to take of a measurement, with the number of the frame. -/
def Measurement.sample (self : Measurement) (sent now : UInt64) : SVSample where
  sampleTimestamp := self.ts.clearFlags.readBack self.now
  receivedTimestamp := now
  smpCnt := UInt16.ofNat (sent.toNat % 65535)
  ia := doubleOf (self.vals 0).val
  ib := doubleOf (self.vals 1).val
  ic := doubleOf (self.vals 2).val

/-- What the subscriber is meant to take of measurements that are sent in one frame. -/
def samplesOf (measurements : List Measurement) (sent now : UInt64) : List SVSample :=
  measurements.map fun measurement => measurement.sample sent now

/-- What the subscriber is meant to take of a frame. -/
def SVTransmission.samples (self : SVTransmission) (now : UInt64) : List SVSample :=
  samplesOf self.measurements self.sent now

/-- `ns3::SVSubscriber::Receive` of one ASDU after another, and the samples that it takes. -/
def SVSubscriber.receiveAll (self : SVSubscriber) (now : UInt64) (calls : List SVCall) :
    Option (SVSubscriber × List SVSample) :=
  runAll (fun self call => (self.receive now call.memory call.asdu).map fun received =>
    (received.value, received.value.lastSample)) self calls

/-- The subscriber after a packet, and the samples that it takes. -/
def SVSubscriber.deliver (self : SVSubscriber) (packet : List UInt8) (stale : Memory)
    (now : UInt64) : Option (SVSubscriber × List SVSample) :=
  self.receiveAll now
    (parseSVMessage applicationReceiver (Memory.ofOctets packet stale) packet.length).value.2

namespace SVStation

/-- The publisher of a station starts. -/
def start (attributes : SVAttributes) : Option SVStation :=
  (SVPublisher.startApplication attributes.maxPackets attributes.samplesPerMessage
    attributes.srcAddr attributes.found).map fun application => ⟨application, []⟩

/-- An event of the publisher of a station, and the frame that it sends. -/
def measure (self : SVStation) (measurement : Measurement) :
    Option (SVStation × Option SVTransmission) := do
  let (application, packet) ← self.application.measure measurement
  match packet with
  | some packet =>
    pure (⟨application, []⟩, some ⟨packet, application.sent, application.samplesPerMessage,
      self.taken ++ [measurement]⟩)
  | none =>
    let taken := if self.application.count = 0 then self.taken else self.taken ++ [measurement]
    pure (⟨application, taken⟩, none)

end SVStation

/-- What arrives in a step: a frame at a time, and the samples that are taken of it. -/
structure SVArrival where
  frame : Option (SVTransmission × UInt64)
  samples : List SVSample

/-- How many ASDUs arrive. -/
def SVArrival.asdus (self : SVArrival) : Nat :=
  (self.frame.map fun arrived => arrived.1.samplesPerMessage.toNat).getD 0

/-- The samples that are meant to be taken. -/
def SVArrival.meant (self : SVArrival) : List SVSample :=
  (self.frame.map fun arrived => arrived.1.samples arrived.2).getD []

/-- A sample has the time of its measurement, as accurate as it is sent. -/
def TimedAs (measurement : Measurement) (sample : SVSample) : Prop :=
  measurement.now.toNat < 2 ^ 32 * 10 ^ 9 →
    sample.sampleTimestamp ≤ measurement.now ∧
      measurement.now.toNat ≤ sample.sampleTimestamp.toNat + 60

namespace SVNetwork

/-- All applications are started. -/
def start (attributes : List SVAttributes) : Option SVNetwork :=
  (attributes.mapM SVStation.start).map fun stations => ⟨stations, [], ⟨0, {}⟩⟩

/-- A step of the network; there is nothing to be done for a station that does not exist, and
for a frame that was not sent. -/
def step (self : SVNetwork) : SVAction → Option (SVNetwork × SVArrival)
  | .measure station measurement =>
    match self.stations[station]? with
    | none => some (self, ⟨none, []⟩)
    | some found => do
      let (next, frame) ← found.measure measurement
      pure ({ self with
        stations := self.stations.set station next
        sent := self.sent ++ frame.toList }, ⟨none, []⟩)
  | .deliver frame stale now =>
    match self.sent[frame]? with
    | none => some (self, ⟨none, []⟩)
    | some transmission => do
      let (subscriber, samples) ← self.subscriber.deliver transmission.packet stale now
      pure ({ self with subscriber := subscriber }, ⟨some (transmission, now), samples⟩)
  | .stray packet stale now => do
    let (subscriber, samples) ← self.subscriber.deliver packet stale now
    pure ({ self with subscriber := subscriber }, ⟨none, samples⟩)

end SVNetwork

/-- The subscriber has taken what has arrived, and nothing else. -/
structure SVAgrees (subscriber : SVSubscriber) (arrivals : List SVArrival) : Prop where
  samples : ∀ arrival ∈ arrivals, arrival.samples = arrival.meant
  times : ∀ arrival ∈ arrivals, ∀ frame now, arrival.frame = some (frame, now) →
    List.Forall₂ TimedAs frame.measurements arrival.samples
  received : subscriber.received = UInt64.ofNat (arrivals.map SVArrival.asdus).sum
  lastSample : subscriber.lastSample = (arrivals.flatMap SVArrival.samples).getLast?.getD {}

/-! ## The data of a measurement -/

/-- Values one behind the other, with the places where they stand. -/
def consecutive (offset : Nat) : List ASDU.DataValue → List (Nat × ASDU.DataValue)
  | [] => []
  | value :: rest => (offset, value) :: consecutive (offset + value.octets.length) rest

/-- The floats that are measured. -/
def Measurement.floats (self : Measurement) : List ASDU.DataValue :=
  List.ofFn fun index => .float (self.vals index)

/-- The time of a measurement, as it is sent. -/
def Measurement.time (self : Measurement) : Timestamp :=
  self.ts.clearFlags.setTimeInNanoseconds self.now

/-- The values of a measurement, as they stand in the data block. -/
def Measurement.values (self : Measurement) : List ASDU.DataValue :=
  self.floats ++ [.timestamp self.time]

/-- The data block of a measurement. -/
def Measurement.data (self : Measurement) : List UInt8 :=
  self.values.flatMap ASDU.DataValue.octets

theorem mem_consecutive {offset : Nat} {values : List ASDU.DataValue} {entry : Nat × ASDU.DataValue}
    (member : entry ∈ consecutive offset values) :
    ∃ before after, values.flatMap ASDU.DataValue.octets =
        before ++ (entry.2.octets ++ after) ∧ entry.1 = offset + before.length := by
  induction values generalizing offset with
  | nil => contradiction
  | cons value rest ih =>
      rcases List.mem_cons.mp member with rfl | later
      · exact ⟨[], rest.flatMap ASDU.DataValue.octets, rfl, rfl⟩
      · obtain ⟨before, after, split, place⟩ := ih later
        refine ⟨value.octets ++ before, after, ?_, ?_⟩
        · rw [List.flatMap_cons, split, List.append_assoc]
        · rw [place, List.length_append, Nat.add_assoc]

/-- Values that are set one behind the other replace what stood there. -/
theorem performAll_consecutive {sample : Sample} {values : List ASDU.DataValue}
    {front rest : List UInt8} (data : sample.data = front ++ rest)
    (fits : (values.flatMap ASDU.DataValue.octets).length ≤ rest.length) :
    sample.performAll ((consecutive front.length values).map fun entry =>
        .setData entry.1 entry.2) =
      some { sample with data := front ++ (values.flatMap ASDU.DataValue.octets ++
        rest.drop (values.flatMap ASDU.DataValue.octets).length) } := by
  induction values generalizing sample front rest with
  | nil =>
      rw [consecutive, List.map_nil, Sample.performAll, List.flatMap_nil, List.nil_append,
        List.length_nil, List.drop_zero, ← data]
  | cons value others ih =>
      rw [List.flatMap_cons, List.length_append] at fits
      have inside : front.length + value.octets.length ≤ sample.data.length := by
        rw [data, List.length_append]
        omega
      have replaced : replaceAt sample.data front.length value.octets =
          (front ++ value.octets) ++ rest.drop value.octets.length := by
        rw [replaceAt, data, List.take_left, List.drop_append, List.drop_of_length_le (by omega),
          List.nil_append, Nat.add_sub_cancel_left, List.append_assoc]
      have later := @ih { sample with data := replaceAt sample.data front.length value.octets }
        (front ++ value.octets) (rest.drop value.octets.length) replaced
        (by rw [List.length_drop]; omega)
      rw [List.length_append] at later
      have set : sample.perform (.setData front.length value) = some _ := if_pos inside
      rw [consecutive, List.map_cons, Sample.performAll, set]
      refine later.trans ?_
      rw [List.flatMap_cons, List.length_append, List.drop_drop, List.append_assoc,
        List.append_assoc]

theorem length_float (value : Octets 4) : (ASDU.DataValue.float value).octets.length = 4 :=
  ASDU.DataValue.length_octets _

/-- The calls of a measurement, with the floats one behind the other. -/
theorem Measurement.calls_eq (self : Measurement) (j : Nat) :
    self.calls (slotOf j) =
      (consecutive 0 self.floats).map (fun entry => .setData entry.1 entry.2) ++
        [.increaseSmpCnt, .setData 32 (.timestamp self.time)] := by
  simp [Measurement.calls, Measurement.floats, Measurement.time, slotOf, List.ofFn_succ,
    consecutive, length_float]

theorem Measurement.length_floats (self : Measurement) :
    (self.floats.flatMap ASDU.DataValue.octets).length = 32 := by
  simp [Measurement.floats, List.ofFn_succ, length_float]

theorem Measurement.data_eq (self : Measurement) :
    self.data = self.floats.flatMap ASDU.DataValue.octets ++ self.time.val := by
  rw [Measurement.data, Measurement.values, List.flatMap_append, List.flatMap_singleton]
  rfl

/-- A measurement fills the data block of its ASDU. -/
theorem Measurement.data_of_performAll (self : Measurement) {j : Nat} {sample changed : Sample}
    (length : sample.data.length = 40)
    (meant : sample.performAll (self.calls (slotOf j)) = some changed) :
    changed.data = self.data := by
  rw [self.calls_eq, SVPublisher.Sample.performAll_append] at meant
  have floats := @performAll_consecutive sample self.floats [] sample.data rfl
    (by rw [self.length_floats, length]; decide)
  rw [self.length_floats, List.nil_append] at floats
  obtain ⟨first, set, meant⟩ := Option.bind_eq_some_iff.mp meant
  obtain ⟨second, increased, meant⟩ := Option.bind_eq_some_iff.mp meant
  obtain ⟨third, timed, same⟩ := Option.bind_eq_some_iff.mp meant
  obtain rfl := Option.some.inj same
  have block : second.data =
      self.floats.flatMap ASDU.DataValue.octets ++ sample.data.drop 32 := by
    rw [(SVPublisher.Sample.perform_increaseSmpCnt increased).2,
      ← Option.some.inj (floats.symm.trans set)]
  have whole : third.data = replaceAt second.data 32 self.time.val := by
    rw [(SVPublisher.Sample.perform_setData timed).2]
    rfl
  rw [whole, block, replaceAt, List.take_left' self.length_floats, List.drop_of_length_le,
    List.append_nil, self.data_eq]
  rw [List.length_append, self.length_floats, List.length_drop, length, self.time.property]

/-! ## Receiving -/

/-- The getters give the values that stand one behind the other in the data block. -/
theorem Measurement.given (self : Measurement) {call : SVCall}
    (carried : call.data = some self.data) {entry : Nat × ASDU.DataValue}
    (member : entry ∈ consecutive 0 self.values) : entry.2.GivenBy call entry.1 := by
  obtain ⟨before, after, split, place⟩ := mem_consecutive member
  rw [Nat.zero_add] at place
  have data : self.data = before ++ (entry.2.octets ++ after) := split
  rw [place]
  apply entry.2.givenBy carried
  · rw [data, List.length_append, List.length_append]
    omega
  · rw [data, sliceOf, List.drop_left, List.take_left]

/-- The application takes the sample that was measured. -/
theorem Measurement.received (self : Measurement) {call : SVCall} {sample : Sample}
    (carries : call.Carries sample.items) (data : sample.data = self.data)
    (subscriber : SVSubscriber) (now : UInt64) :
    ∃ received, subscriber.receive now call.memory call.asdu = some received ∧
      received.value = ⟨subscriber.received + 1,
        { self.sample 0 now with smpCnt := sample.smpCnt }⟩ := by
  have carried : call.data = some self.data := data ▸ carries.data
  have given : ∀ entry ∈ consecutive 0 self.values, entry.2.GivenBy call entry.1 :=
    fun entry => self.given carried
  have entries : consecutive 0 self.values = [(0, .float (self.vals 0)), (4, .float (self.vals 1)),
      (8, .float (self.vals 2)), (12, .float (self.vals 3)), (16, .float (self.vals 4)),
      (20, .float (self.vals 5)), (24, .float (self.vals 6)), (28, .float (self.vals 7)),
      (32, .timestamp self.time)] := by
    simp [Measurement.values, Measurement.floats, List.ofFn_succ, consecutive, length_float]
  rw [entries] at given
  simp only [List.forall_mem_cons] at given
  obtain ⟨first, second, third, _, _, _, _, _, last, _⟩ := given
  obtain ⟨ia, hasIa, valueIa⟩ := Option.map_eq_some_iff.mp first
  obtain ⟨ib, hasIb, valueIb⟩ := Option.map_eq_some_iff.mp second
  obtain ⟨ic, hasIc, valueIc⟩ := Option.map_eq_some_iff.mp third
  obtain ⟨ts, hasTs, valueTs⟩ := Option.map_eq_some_iff.mp last
  obtain ⟨smpCnt, hasSmpCnt, valueSmpCnt⟩ := Option.map_eq_some_iff.mp carries.shows.smpCnt
  unfold SVSubscriber.receive
  rw [hasIa, hasIb, hasIc, hasTs, hasSmpCnt]
  refine ⟨_, rfl, ?_⟩
  simp only [Traced.value_bind, Traced.value_pure, valueIa, valueIb, valueIc, valueTs,
    valueSmpCnt]
  rfl

/-- The application after samples that it has taken. -/
def SVSubscriber.taking (self : SVSubscriber) (samples : List SVSample) : SVSubscriber where
  received := self.received + UInt64.ofNat samples.length
  lastSample := samples.getLast?.getD self.lastSample

theorem SVSubscriber.taking_nil (self : SVSubscriber) : self.taking [] = self :=
  congrArg (SVSubscriber.mk · _) (UInt64.add_zero _)

theorem SVSubscriber.taking_append (self : SVSubscriber) (first second : List SVSample) :
    (self.taking first).taking second = self.taking (first ++ second) := by
  simp only [SVSubscriber.taking, List.length_append, UInt64.ofNat_add, UInt64.add_assoc,
    List.getLast?_append, SVSubscriber.mk.injEq, true_and]
  cases second.getLast? <;> rfl

/-- A frame carries what was measured for it, and its number. -/
def SVTransmission.Sound (self : SVTransmission) : Prop :=
  self.measurements.length = self.samplesPerMessage.toNat ∧
    ∃ (srcAddr : Octets 6) (publisher : GridGooseSV.SVPublisher) (number : UInt32)
      (samples : List Sample),
      publisher.Ready (applicationHeader srcAddr) number samples ∧ publisher.Fits ∧
        self.packet = publisher.publish ∧
          List.Forall₂ (fun (measurement : Measurement) (sample : Sample) =>
            sample.data = measurement.data ∧
              sample.smpCnt = UInt16.ofNat (self.sent.toNat % 65535)) self.measurements samples

theorem receiveAll_eq {measurements : List Measurement} {calls : List SVCall} {sent now : UInt64}
    (given : List.Forall₂ (fun (measurement : Measurement) (call : SVCall) =>
      ∃ sample : Sample, call.Carries sample.items ∧ sample.data = measurement.data ∧
        sample.smpCnt = UInt16.ofNat (sent.toNat % 65535)) measurements calls)
    (self : SVSubscriber) :
    self.receiveAll now calls =
      some (self.taking (samplesOf measurements sent now), samplesOf measurements sent now) := by
  induction given generalizing self with
  | nil => exact congrArg (fun after => some (after, [])) self.taking_nil.symm
  | @cons measurement call _ _ first _ ih =>
      obtain ⟨sample, carries, data, smpCnt⟩ := first
      obtain ⟨received, receives, value⟩ := measurement.received carries data self now
      have taken : received.value = self.taking [measurement.sample sent now] := by
        rw [value, smpCnt]
        rfl
      have rest := ih received.value
      rw [taken, SVSubscriber.taking_append] at rest
      refine runAll_cons.mpr ⟨received.value, received.value.lastSample, _,
        by rw [receives]; rfl, taken ▸ rest, ?_⟩
      rw [value, smpCnt]
      rfl

/-- The subscriber takes of a frame what was measured for it. -/
theorem SVTransmission.Sound.delivered {transmission : SVTransmission} (sound : transmission.Sound)
    (self : SVSubscriber) (stale : Memory) (now : UInt64) :
    self.deliver transmission.packet stale now =
      some (self.taking (transmission.samples now), transmission.samples now) := by
  obtain ⟨_, srcAddr, publisher, number, samples, ready, fits, packet, measured⟩ := sound
  have received := ready.received fits (Memory.holds_ofOctets publisher.publish stale)
    applicationReceiver
  have heard : ∀ octets, applicationReceiver.heard octets CommParameters.svDefault.appId =
      some 0 := fun octets => SVReceiver.heard_unchecked rfl octets [] _
  rw [heard] at received
  rw [packet]
  apply receiveAll_eq
  refine forall₂_comp (fun measurement sample call carried called => ?_) measured received
  exact ⟨sample, called.2, carried⟩

/-- The subscriber takes nothing of a packet that no SV publisher sends to it. -/
theorem deliver_stray {sender : Sender} {packet : List UInt8} (sends : sender.Sends packet)
    (other : sender ≠ .sv true 0x4000) (self : SVSubscriber) (stale : Memory) (now : UInt64) :
    self.deliver packet stale now = some (self, []) := by
  let arrival : Arrival := ⟨Memory.ofOctets packet stale, packet.length, now⟩
  have brought : BroughtBy sender arrival := ⟨packet, sends, Memory.holds_ofOctets _ _, rfl⟩
  have silent :
      (parseSVMessage applicationReceiver arrival.memory arrival.numbytes).value.2 = [] := by
    apply List.eq_nil_iff_forall_not_mem.mpr
    intro call member
    have heard : call ∈ svHeardAt applicationReceiver call.subscriber arrival :=
      List.mem_filter.mpr ⟨member, decide_eq_true rfl⟩
    obtain ⟨_, _, subscriber, found, _⟩ := appId_of_svHeardAt heard
    have only : subscriber.appId = 0x4000 := by
      obtain rfl := List.mem_singleton.mp (List.mem_of_getElem? found)
      rfl
    rw [brought.unheard found (only ▸ other)] at heard
    exact List.not_mem_nil heard
  exact congrArg (self.receiveAll now) silent

/-! ## Sending -/

/-- A publisher between events, with the samples that it has taken since its last frame. -/
structure Sampling (srcAddr : Octets 6) (number : Nat) (self : SVPublisher)
    (taken : List Measurement) (samples : List Sample) : Prop
    extends Running srcAddr number self.sent.toNat self samples where
  turn : taken.length = self.sampleIndex.toNat
  filled : ∀ (j : Nat) (measurement : Measurement) (sample : Sample),
    taken[j]? = some measurement → samples[j]? = some sample → sample.data = measurement.data
  accounted : self.sent.toNat + self.count.toNat < 2 ^ 64

section Sending

variable {srcAddr : Octets 6} {number frames : Nat} {self : SVPublisher} {samples : List Sample}
variable {taken : List Measurement}

/-- A measurement fills the ASDU whose turn it is. -/
theorem Running.fill (running : Running srcAddr number frames self samples)
    (measurement : Measurement) :
    ∃ changed publisher,
      self.slots[self.sampleIndex.toNat]? = some (slotOf self.sampleIndex.toNat) ∧
      changed.data = measurement.data ∧ Counting (frames + 1) changed ∧
      self.svPublisher.performAll ((measurement.calls (slotOf self.sampleIndex.toNat)).map
        (.onASDU self.sampleIndex.toNat)) = some publisher ∧
      publisher.Ready (applicationHeader srcAddr) (UInt32.ofNat number)
        (samples.set self.sampleIndex.toNat changed) ∧ publisher.Fits := by
  obtain ⟨ready, fits, length, _, slots, sampleIndex, counting⟩ := running
  have present : samples[self.sampleIndex.toNat]? = some _ :=
    List.getElem?_eq_getElem (length ▸ sampleIndex)
  have before := counting _ _ present
  rw [if_neg (Nat.lt_irrefl _), Nat.add_zero] at before
  obtain ⟨changed, meant, counted⟩ := before.measure measurement self.sampleIndex.toNat
  have patched := SVPublisher.patchAll_onASDU present meant
  obtain ⟨publisher, performed, ready'⟩ := ready.performAll patched
  refine ⟨changed, publisher, ?_, measurement.data_of_performAll before.data meant, counted,
    performed, ready', ready.fits_after fits patched ready'⟩
  rw [slots, List.getElem?_map, List.getElem?_range sampleIndex, Option.map_some]

/-- What an event does to a publisher and to what it has taken. -/
inductive Samples (srcAddr : Octets 6) (number : Nat) (self : SVPublisher)
    (taken : List Measurement) (measurement : Measurement) :
    SVPublisher × Option (List UInt8) → Prop
  | exhausted (nothing : self.count = 0) :
      Samples srcAddr number self taken measurement (self, none)
  | kept {after : SVPublisher} {samples : List Sample} (left : self.count ≠ 0)
      (sampling : Sampling srcAddr number after (taken ++ [measurement]) samples) :
      Samples srcAddr number self taken measurement (after, none)
  | sent {after : SVPublisher} {samples : List Sample} {packet : List UInt8}
      (sampling : Sampling srcAddr number after [] samples)
      (sound : SVTransmission.Sound
        ⟨packet, after.sent, after.samplesPerMessage, taken ++ [measurement]⟩) :
      Samples srcAddr number self taken measurement (after, some packet)

theorem Sampling.measure (sampling : Sampling srcAddr number self taken samples)
    (measurement : Measurement) :
    ∃ result, self.measure measurement = some result ∧
      Samples srcAddr number self taken measurement result := by
  obtain ⟨running, turn, filled, accounted⟩ := sampling
  obtain ⟨changed, publisher, slot, data, counted, performed, ready, fits⟩ :=
    running.fill measurement
  obtain ⟨_, _, length, samplesPerMessage, slots, sampleIndex, counting⟩ := running
  have bound := self.samplesPerMessage.toNat_lt
  have unit : (1 : UInt64).toNat = 1 := rfl
  have index : (self.sampleIndex + 1).toNat = self.sampleIndex.toNat + 1 := by
    rw [UInt8.toNat_add, show (1 : UInt8).toNat = 1 from rfl]
    omega
  have length' : (samples.set self.sampleIndex.toNat changed).length = number := by
    rw [List.length_set, length]
  have after := fun j sample => @counting_set _ _ _ _ counting counted j sample
  have filled' : ∀ (j : Nat) (other : Measurement) (sample : Sample),
      (taken ++ [measurement])[j]? = some other →
        (samples.set self.sampleIndex.toNat changed)[j]? = some sample →
          sample.data = other.data := by
    intro j other sample given present
    by_cases here : j = taken.length
    · subst here
      rw [List.getElem?_concat_length, Option.some.injEq] at given
      rw [turn, List.getElem?_set_self (by omega), Option.some.injEq] at present
      rw [← present, data, given]
    · have before : j < taken.length := by
        have inside := (List.getElem?_eq_some_iff.mp given).1
        rw [List.length_append, List.length_singleton] at inside
        omega
      rw [List.getElem?_append_left before] at given
      rw [List.getElem?_set_ne (by omega)] at present
      exact filled j other sample given present
  rw [SVPublisher.measure]
  by_cases spent : self.count = 0
  · rw [if_pos spent]
    exact ⟨_, rfl, .exhausted spent⟩
  have positive : self.count.toNat ≠ 0 := fun zero => spent (UInt64.toNat_inj.mp zero)
  rw [if_neg spent]
  simp only [slot, Option.bind_eq_bind, Option.bind_some]
  by_cases full : self.sampleIndex + 1 = self.samplesPerMessage
  · have last : self.sampleIndex.toNat + 1 = number := by rw [← index, full, samplesPerMessage]
    have another : (self.sent + 1).toNat = self.sent.toNat + 1 := by
      rw [UInt64.toNat_add, unit]
      omega
    have fewer : (self.count - 1).toNat = self.count.toNat - 1 := by
      rw [UInt64.toNat_sub_of_le _ _ (by rw [UInt64.le_iff_toNat_le, unit]; omega), unit]
    have equal : ∀ (j : Nat) sample, (samples.set self.sampleIndex.toNat changed)[j]? =
        some sample → Counting (self.sent + 1).toNat sample := by
      intro j sample present
      obtain ⟨inside, _⟩ := List.getElem?_eq_some_iff.mp present
      have counting := after j sample present
      rwa [if_pos (by omega), ← another] at counting
    refine ⟨_, (congrArg (Option.bind · _) performed).trans (if_pos full), ?_⟩
    have whole : (taken ++ [measurement]).length = number := by
      rw [List.length_append, List.length_singleton, turn, last]
    have nothing : ∀ (j : Nat) (other : Measurement) (sample : Sample),
        [][j]? = some other → (samples.set self.sampleIndex.toNat changed)[j]? = some sample →
          sample.data = other.data := by
      intro j other sample given
      contradiction
    refine .sent ⟨⟨ready, fits, length', samplesPerMessage, slots, ?_, equal⟩, rfl, nothing, ?_⟩
      ⟨whole.trans samplesPerMessage.symm, srcAddr, publisher, _, _, ready, fits, rfl, ?_⟩
    · exact Nat.lt_of_le_of_lt (Nat.zero_le _) sampleIndex
    · change (self.sent + 1).toNat + (self.count - 1).toNat < 2 ^ 64
      omega
    · apply List.forall₂_iff_get.mpr
      refine ⟨whole.trans length'.symm, ?_⟩
      intro j inside within
      have present := List.getElem?_eq_getElem within
      refine ⟨filled' j _ _ (List.getElem?_eq_getElem inside) present, ?_⟩
      exact UInt16.ofNat_toNat.symm.trans (congrArg UInt16.ofNat (equal j _ present).smpCnt)
  · have more : self.sampleIndex.toNat + 1 ≠ number := by
      rw [← index, ← samplesPerMessage]
      exact fun same => full (UInt8.toNat_inj.mp same)
    refine ⟨_, (congrArg (Option.bind · _) performed).trans (if_neg full), ?_⟩
    refine .kept spent ⟨⟨ready, fits, length', samplesPerMessage, slots, ?_, ?_⟩, ?_, filled',
      accounted⟩
    · dsimp only
      omega
    · dsimp only
      rw [index]
      exact after
    · dsimp only
      rw [List.length_append, List.length_singleton, turn, index]

/-- A publisher starts with nothing taken. -/
theorem sampling_start {attributes : SVAttributes}
    (positive : 1 ≤ attributes.samplesPerMessage.toNat)
    (few : attributes.samplesPerMessage.toNat ≤ 8) :
    ∃ station samples, SVStation.start attributes = some station ∧
      Sampling attributes.srcAddr attributes.samplesPerMessage.toNat station.application
        station.taken samples := by
  obtain ⟨started, samples, starts, running, _, first⟩ :=
    @startApplication_running attributes.srcAddr attributes.found attributes.maxPackets _
      positive few
  have same := Option.some.inj ((startApplication_eq few).symm.trans starts)
  have sent : started.sent = 0 := by rw [← same]
  have none : started.sent.toNat = 0 := by rw [sent]; rfl
  refine ⟨⟨started, []⟩, samples, ?_, ⟨none ▸ running, ?_, nofun, ?_⟩⟩
  · rw [SVStation.start, starts, Option.map_some]
  · rw [first]
    rfl
  · rw [none, Nat.zero_add]
    exact started.count.toNat_lt

end Sending

/-! ## Runs -/

/-- What holds between steps. -/
structure Networked (network : SVNetwork) (arrivals : List SVArrival) : Prop where
  stations : ∀ station ∈ network.stations, ∃ srcAddr number samples,
    Sampling srcAddr number station.application station.taken samples
  sent : ∀ transmission ∈ network.sent, transmission.Sound
  arrived : ∀ arrival ∈ arrivals, arrival.samples = arrival.meant ∧
    ∀ frame now, arrival.frame = some (frame, now) → frame.Sound
  subscriber : network.subscriber =
    SVSubscriber.taking ⟨0, {}⟩ (arrivals.flatMap SVArrival.samples)

section Runs

variable {network : SVNetwork} {arrivals : List SVArrival}

/-- A packet that is not one of the publishers' is of another sender. -/
def SVAction.Foreign : SVAction → Prop
  | .stray packet _ _ => ∃ sender : Sender, sender ≠ .sv true 0x4000 ∧ sender.Sends packet
  | _ => True

/-- The subscriber takes what is meant of an arrival. -/
theorem Networked.arrives (networked : Networked network arrivals) {arrival : SVArrival}
    (meant : arrival.samples = arrival.meant)
    (sound : ∀ frame now, arrival.frame = some (frame, now) → frame.Sound) :
    Networked { network with subscriber := network.subscriber.taking arrival.samples }
      (arrivals ++ [arrival]) where
  stations := networked.stations
  sent := networked.sent
  arrived := by
    intro other member
    rcases List.mem_append.mp member with before | now
    · exact networked.arrived other before
    · obtain rfl := List.mem_singleton.mp now
      exact ⟨meant, sound⟩
  subscriber := by
    rw [networked.subscriber, SVSubscriber.taking_append, List.flatMap_append,
      List.flatMap_singleton]

/-- A step without an arrival. -/
theorem Networked.silent (networked : Networked network arrivals) :
    Networked network (arrivals ++ [⟨none, []⟩]) := by
  have arrives := networked.arrives (show (⟨none, []⟩ : SVArrival).samples = _ from rfl) nofun
  rwa [SVSubscriber.taking_nil] at arrives

/-- A publisher measures, and sends a frame if it is full. -/
theorem Networked.measured (networked : Networked network arrivals) {place : Nat}
    {station : SVStation} (found : network.stations[place]? = some station)
    (measurement : Measurement) :
    ∃ next frame, station.measure measurement = some (next, frame) ∧
      Networked { network with
        stations := network.stations.set place next
        sent := network.sent ++ frame.toList } arrivals := by
  obtain ⟨srcAddr, number, samples, sampling⟩ :=
    networked.stations station (List.mem_of_getElem? found)
  obtain ⟨⟨application, packet⟩, measured, does⟩ := sampling.measure measurement
  have others : ∀ next : SVStation,
      (∃ srcAddr number samples, Sampling srcAddr number next.application next.taken samples) →
        ∀ other ∈ network.stations.set place next, ∃ srcAddr number samples,
          Sampling srcAddr number other.application other.taken samples := by
    intro next still other member
    rcases List.mem_or_eq_of_mem_set member with before | rfl
    · exact networked.stations other before
    · exact still
  rw [SVStation.measure, measured]
  cases does with
  | exhausted nothing =>
      refine ⟨_, none, rfl, others _ ?_, ?_, networked.arrived, networked.subscriber⟩
      · rw [if_pos nothing]
        exact ⟨_, _, _, sampling⟩
      · rw [Option.toList_none, List.append_nil]
        exact networked.sent
  | kept left still =>
      refine ⟨_, none, rfl, others _ ?_, ?_, networked.arrived, networked.subscriber⟩
      · rw [if_neg left]
        exact ⟨_, _, _, still⟩
      · rw [Option.toList_none, List.append_nil]
        exact networked.sent
  | sent still sound =>
      refine ⟨_, some _, rfl, others _ ⟨_, _, _, still⟩, ?_, networked.arrived,
        networked.subscriber⟩
      intro frame member
      rcases List.mem_append.mp member with before | now
      · exact networked.sent frame before
      · rw [List.mem_singleton.mp now]
        exact sound

/-- Every step is possible, and the subscriber takes what is meant of what arrives. -/
theorem Networked.step (networked : Networked network arrivals) {action : SVAction}
    (foreign : action.Foreign) :
    ∃ after arrival, network.step action = some (after, arrival) ∧
      Networked after (arrivals ++ [arrival]) := by
  cases action with
  | measure place measurement =>
      rw [SVNetwork.step]
      cases found : network.stations[place]? with
      | none => exact ⟨_, _, rfl, networked.silent⟩
      | some station =>
          obtain ⟨next, frame, measured, still⟩ := networked.measured found measurement
          exact ⟨_, _, congrArg (Option.bind · _) measured, still.silent⟩
  | deliver place stale now =>
      rw [SVNetwork.step]
      cases found : network.sent[place]? with
      | none => exact ⟨_, _, rfl, networked.silent⟩
      | some frame =>
          have sound := networked.sent frame (List.mem_of_getElem? found)
          refine ⟨_, _, congrArg (Option.bind · _) (sound.delivered network.subscriber stale now),
            @Networked.arrives _ _ networked ⟨some (frame, now), frame.samples now⟩ rfl ?_⟩
          intro _ _ same
          obtain ⟨rfl, rfl⟩ := Prod.mk.inj (Option.some.inj same)
          exact sound
  | stray packet stale now =>
      obtain ⟨sender, other, sends⟩ := foreign
      rw [SVNetwork.step]
      exact ⟨_, _, congrArg (Option.bind · _) (deliver_stray sends other _ stale now),
        networked.silent⟩

theorem networked_start {attributes : List SVAttributes}
    (proper : ∀ own ∈ attributes,
      1 ≤ own.samplesPerMessage.toNat ∧ own.samplesPerMessage.toNat ≤ 8) :
    ∃ started, SVNetwork.start attributes = some started ∧ Networked started [] := by
  have stations : ∃ stations, attributes.mapM SVStation.start = some stations ∧
      ∀ station ∈ stations, ∃ srcAddr number samples,
        Sampling srcAddr number station.application station.taken samples := by
    induction attributes with
    | nil => exact ⟨[], rfl, nofun⟩
    | cons own rest ih =>
        obtain ⟨⟨positive, few⟩, others⟩ := List.forall_mem_cons.mp proper
        obtain ⟨station, samples, starts, sampling⟩ := sampling_start positive few
        obtain ⟨stations, start, all⟩ := ih others
        refine ⟨station :: stations, ?_, List.forall_mem_cons.mpr ⟨⟨_, _, _, sampling⟩, all⟩⟩
        rw [List.mapM_cons, starts, start]
        rfl
  obtain ⟨stations, start, all⟩ := stations
  refine ⟨⟨stations, [], ⟨0, {}⟩⟩, by rw [SVNetwork.start, start]; rfl, all, nofun, nofun, ?_⟩
  exact (SVSubscriber.taking_nil _).symm

theorem times_samplesOf (measurements : List Measurement) (sent now : UInt64) :
    List.Forall₂ TimedAs measurements (samplesOf measurements sent now) := by
  induction measurements with
  | nil => exact .nil
  | cons measurement rest ih =>
      refine .cons (fun small => ?_) ih
      have accurate := measurement.ts.clearFlags.accurate small
      exact ⟨accurate.notLater, accurate.near⟩

theorem Networked.agrees (networked : Networked network arrivals) :
    SVAgrees network.subscriber arrivals where
  samples arrival member := (networked.arrived arrival member).1
  times := by
    intro arrival member frame now given
    rw [(networked.arrived arrival member).1, SVArrival.meant, given]
    exact times_samplesOf _ _ _
  received := by
    have lengths : (arrivals.flatMap SVArrival.samples).length =
        (arrivals.map SVArrival.asdus).sum := by
      rw [List.length_flatMap]
      congr 1
      apply List.map_congr_left
      intro arrival member
      obtain ⟨meant, sound⟩ := networked.arrived arrival member
      rw [meant, SVArrival.meant, SVArrival.asdus]
      cases given : arrival.frame with
      | none => rfl
      | some arrived => exact (List.length_map _).trans (sound _ _ given).1
    rw [networked.subscriber, ← lengths]
    exact UInt64.zero_add _
  lastSample := by rw [networked.subscriber, SVSubscriber.taking]

/-- Whatever gets lost, is repeated or overtakes other frames, and whatever else is sent: the
subscriber takes the samples of each frame that arrives, as they were measured and with the
number of the frame, and counts them. -/
theorem samples_agree {attributes : List SVAttributes}
    (proper : ∀ own ∈ attributes,
      1 ≤ own.samplesPerMessage.toNat ∧ own.samplesPerMessage.toNat ≤ 8)
    {actions : List SVAction} (foreign : ∀ action ∈ actions, action.Foreign) :
    ∃ started network arrivals, SVNetwork.start attributes = some started ∧
      runAll SVNetwork.step started actions = some (network, arrivals) ∧
        SVAgrees network.subscriber arrivals := by
  obtain ⟨started, starts, networked⟩ := networked_start proper
  obtain ⟨network, arrivals, ran, kept⟩ :=
    @runAll_total_of_admitted _ _ _ SVNetwork.step started Networked SVAction.Foreign
      (fun _ _ _ foreign networked => networked.step foreign) [] networked actions foreign
  exact ⟨started, network, arrivals, starts, ran, kept.agrees⟩

end Runs

/-- Two events fill a message of two ASDUs; a GOOSE frame arrives in front of it, and it arrives
twice. -/
theorem samples_agree_twice : ∃ (packet : List UInt8) (started network : SVNetwork)
    (arrivals : List SVArrival),
    SVNetwork.start [⟨0, 2, Octets.zero, fun _ => 0⟩] = some started ∧
      runAll SVNetwork.step started [.measure 0 zeroMeasurement, .measure 0 zeroMeasurement,
        .stray packet (fun _ => 0) 1, .deliver 0 (fun _ => 0) 2, .deliver 0 (fun _ => 0) 3] =
          some (network, arrivals) ∧
        SVAgrees network.subscriber arrivals := by
  have sent : ((referredPublisher.publish []).bind Publication.sent).isSome = true := by
    decide +kernel
  obtain ⟨packet, sent⟩ := Option.isSome_iff_exists.mp sent
  obtain ⟨publication, published, sent⟩ := Option.bind_eq_some_iff.mp sent
  have goose : Sender.Sends (.goose true [0x41]) packet :=
    .goose run_referredPublisher rfl published sent
  refine ⟨packet, samples_agree ?_ ?_⟩
  · intro own member
    obtain rfl := List.mem_singleton.mp member
    exact ⟨by decide, by decide⟩
  · intro action member
    simp only [List.mem_cons, List.not_mem_nil, or_false] at member
    rcases member with rfl | rfl | rfl | rfl | rfl
    · trivial
    · trivial
    · exact ⟨.goose true [0x41], by simp, goose⟩
    · trivial
    · trivial

end GridGooseSV.Ns3
