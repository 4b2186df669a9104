import GridGooseSV.Apps.SvSubscriber
import GridGooseSV.Sv.Publishing
import Mathlib.Data.List.Chain

/-!
# The SV publisher application

After `sv-publisher-app.cc`. The application hands its samples to the ASDUs of a message in
turn, and sends the message when each of them has got one. What belongs to the simulator is
left out: an event is what it measures.
-/

namespace GridGooseSV.Ns3

open BerEncoder BerDecoder GridGooseSV.SVPublisher

/-- `asdus[j]`, `offsets[j]` and `tss[j]`; an ASDU is its place in the publisher's list. -/
structure SVSlot where
  asdu : Nat
  offsets : List Nat
  ts : Nat
  deriving DecidableEq, Repr

/-- `ns3::SVPublisher`, with the slots that were filled. -/
structure SVPublisher where
  svPublisher : GridGooseSV.SVPublisher
  slots : List SVSlot
  count : UInt64
  samplesPerMessage : UInt8
  sampleIndex : UInt8
  sent : UInt64

theorem zero_not_mem_digits (number : Nat) :
    (0 : UInt8) ∉ (Nat.toDigits 10 number).map fun digit => UInt8.ofNat digit.toNat := by
  intro member
  obtain ⟨digit, digits, zero⟩ := List.mem_map.mp member
  have bounds := Nat.isDigit_of_mem_toDigits (by decide) (by decide) digits
  simp only [Char.isDigit, Bool.and_eq_true, decide_eq_true_eq, UInt32.le_iff_toNat_le] at bounds
  have same := congrArg UInt8.toNat zero
  rw [UInt8.toNat_ofNat'] at same
  have small : digit.toNat ≤ 57 := bounds.2
  have large : 48 ≤ digit.toNat := bounds.1
  change digit.toNat % 256 = 0 at same
  omega

/-- `"sv" + std::to_string(j)`. What is passed is a pointer into a string of the loop, which
is gone when `SVPublisher_setupComplete` reads it; here the text is kept, and that read is left
out. -/
def svIDOf (j : Nat) : CString :=
  ⟨[0x73, 0x76] ++ (Nat.toDigits 10 j).map fun digit => UInt8.ofNat digit.toNat, by
    simp [zero_not_mem_digits]⟩

/-- A data element is added to an ASDU: its offset, and the publisher after the call. -/
def addData (publisher : GridGooseSV.SVPublisher) (place : Nat) (add : ASDU → Nat × ASDU) :
    Option (Nat × GridGooseSV.SVPublisher) := do
  let asdu ← publisher.asduList[place]?
  let (offset, asdu) := add asdu
  pure (offset, { publisher with asduList := publisher.asduList.set place asdu })

/-- Floats are added to an ASDU. -/
def addFLOATs (publisher : GridGooseSV.SVPublisher) (place : Nat) :
    Nat → Option (List Nat × GridGooseSV.SVPublisher)
  | 0 => some ([], publisher)
  | floats + 1 => do
    let (offset, publisher) ← addData publisher place ASDU.addFLOAT
    let (offsets, publisher) ← addFLOATs publisher place floats
    pure (offset :: offsets, publisher)

/-- The loop of `ns3::SVPublisher::StartApplication`, with the rounds that are left; `none`
when the arrays have no slot any more. -/
def addASDUs (publisher : GridGooseSV.SVPublisher) (slots : List SVSlot) :
    Nat → Option (GridGooseSV.SVPublisher × List SVSlot)
  | 0 => some (publisher, slots)
  | rounds + 1 =>
    let j := slots.length
    if j < 8 then do
      let place := publisher.asduList.length
      let publisher := publisher.addASDU (svIDOf j) none 1
      let (offsets, publisher) ← addFLOATs publisher place 8
      let (ts, publisher) ← addData publisher place ASDU.addTimestamp
      addASDUs publisher (slots ++ [⟨place, offsets, ts⟩]) rounds
    else none

/-- What an event finds: the time, what `UpdateValues` computes for the slot, and what the
local variable `ts` held. -/
structure Measurement where
  now : UInt64
  vals : Fin 8 → Octets 4
  ts : Timestamp

/-- The calls that `ns3::SVPublisher::Measure` makes on the ASDU of a slot. -/
def Measurement.calls (self : Measurement) (slot : SVSlot) : List ASDU.Operation :=
  let ts := self.ts.clearFlags.setTimeInNanoseconds self.now
  ((slot.offsets.zip (List.ofFn self.vals)).map fun (offset, value) =>
    .setData offset (.float value)) ++ [.increaseSmpCnt, .setData slot.ts (.timestamp ts)]

namespace SVPublisher

/-- `ns3::SVPublisher::StartApplication`, of an application with the attributes `MaxPackets`
and `SamplesPerMessage`, with the texts of `svIDOf`: `none` if a slot or an offset is missing. -/
def startApplication (maxPackets : UInt64) (samplesPerMessage : UInt8) (srcAddr : Octets 6)
    (found : Memory) : Option SVPublisher := do
  let svPublisher := create .svDefault srcAddr found
  let (svPublisher, slots) ← addASDUs svPublisher [] samplesPerMessage.toNat
  pure {
    svPublisher := svPublisher.setupComplete.value
    slots := slots
    count := if maxPackets = 0 then 0 - 1 else maxPackets
    samplesPerMessage := samplesPerMessage
    sampleIndex := 0
    sent := 0 }

/-- `ns3::SVPublisher::Send`: the application after it, and the packet. -/
def send (self : SVPublisher) : SVPublisher × List UInt8 :=
  ({ self with count := self.count - 1, sent := self.sent + 1 }, self.svPublisher.publish)

/-- `ns3::SVPublisher::Measure`: the application after the event, and the packet that was sent;
`none` for a slot that was not filled. -/
def measure (self : SVPublisher) (measurement : Measurement) :
    Option (SVPublisher × Option (List UInt8)) :=
  if self.count = 0 then some (self, none)
  else do
    let slot ← self.slots[self.sampleIndex.toNat]?
    let svPublisher ← self.svPublisher.performAll
      ((measurement.calls slot).map (.onASDU slot.asdu))
    let self := { self with svPublisher := svPublisher, sampleIndex := self.sampleIndex + 1 }
    if self.sampleIndex = self.samplesPerMessage then
      let (self, packet) := { self with sampleIndex := 0 }.send
      some (self, some packet)
    else some (self, none)

/-- The application after events, and the packets that were sent. -/
def run (self : SVPublisher) : List Measurement → Option (SVPublisher × List (List UInt8))
  | [] => some (self, [])
  | measurement :: rest => do
    let (self, packet) ← self.measure measurement
    let (self, packets) ← self.run rest
    pure (self, packet.toList ++ packets)

end SVPublisher

/-! ## Starting -/

/-- An ASDU as the application configures it. -/
def measuredASDU (j : Nat) : ASDU := { ASDU.new (svIDOf j) none 1 with dataSize := 40 }

/-- A slot as the application fills it. -/
def slotOf (j : Nat) : SVSlot := ⟨j, [0, 4, 8, 12, 16, 20, 24, 28], 32⟩

theorem addData_last (publisher : GridGooseSV.SVPublisher) (asdus : List ASDU) (asdu : ASDU)
    (add : ASDU → Nat × ASDU) :
    addData { publisher with asduList := asdus ++ [asdu] } asdus.length add =
      some ((add asdu).1, { publisher with asduList := asdus ++ [(add asdu).2] }) := by
  simp [addData]

theorem addFLOATs_last (publisher : GridGooseSV.SVPublisher) (asdus : List ASDU) (asdu : ASDU)
    (floats : Nat) :
    addFLOATs { publisher with asduList := asdus ++ [asdu] } asdus.length floats =
      some ((List.range floats).map fun index => asdu.dataSize + 4 * index,
        { publisher with
          asduList := asdus ++ [{ asdu with dataSize := asdu.dataSize + 4 * floats }] }) := by
  induction floats generalizing asdu with
  | zero => rfl
  | succ floats ih =>
      rw [addFLOATs, addData_last]
      simp only [Option.bind_eq_bind, Option.bind_some, ih, ASDU.addFLOAT, ASDU.reserve,
        Option.pure_def, Option.some.injEq, Prod.mk.injEq]
      refine ⟨?_, ?_⟩
      · rw [List.range_succ_eq_map, List.map_cons, List.map_map, Nat.mul_zero, Nat.add_zero]
        refine congrArg _ (List.map_congr_left fun index _ => ?_)
        simp only [Function.comp_apply]
        omega
      · rw [Nat.mul_succ, Nat.add_assoc, Nat.add_comm 4]

/-- The loop fills one slot after another, each with an ASDU. -/
theorem addASDUs_eq (publisher : GridGooseSV.SVPublisher) {done rounds : Nat}
    (few : done + rounds ≤ 8) :
    addASDUs { publisher with asduList := (List.range done).map measuredASDU }
        ((List.range done).map slotOf) rounds =
      some ({ publisher with asduList := (List.range (done + rounds)).map measuredASDU },
        (List.range (done + rounds)).map slotOf) := by
  induction rounds generalizing done with
  | zero => rfl
  | succ rounds ih =>
      have place : done = ((List.range done).map measuredASDU).length := by
        rw [List.length_map, List.length_range]
      have floats := addFLOATs_last publisher ((List.range done).map measuredASDU)
        (ASDU.new (svIDOf done) none 1) 8
      have timestamp := addData_last publisher ((List.range done).map measuredASDU)
        { ASDU.new (svIDOf done) none 1 with dataSize := 32 } ASDU.addTimestamp
      rw [← place] at floats timestamp
      have next := @ih (done + 1) (by omega)
      rw [List.range_succ, List.map_append, List.map_append, Nat.add_right_comm] at next
      rw [addASDUs, List.length_map, List.length_range, if_pos (by omega),
        GridGooseSV.SVPublisher.addASDU, ← place]
      simp only [floats, Option.bind_eq_bind, Option.bind_some]
      refine (congrArg (Option.bind · _) timestamp).trans ?_
      exact next

theorem length_svIDOf {j : Nat} (digit : j < 8) : (svIDOf j).val.length = 3 := by
  have digits : Nat.toDigits 10 j = [Nat.digitChar j] := Nat.toDigits_of_lt_base (by omega)
  simp only [svIDOf, digits]
  rfl

/-- Each ASDU of the application takes as many octets. -/
theorem length_measured {j : Nat} (digit : j < 8) {sample : Sample}
    (encodedAs : (measuredASDU j).EncodedAs sample) : sample.octets.length = 62 := by
  obtain ⟨refrTm, data, dataSize, rfl⟩ := encodedAs
  have size : ((measuredASDU j).sample refrTm data).size = 60 := by
    rw [ASDU.size_sample dataSize]
    simp [ASDU.getEncodedSize, measuredASDU, ASDU.new, length_svIDOf digit,
      determineLengthSize]
  have name := length_svIDOf digit
  have block : data.length = 40 := dataSize
  rw [Sample.octets, Sample.front, size]
  simp [Sample.number, Sample.time, Sample.block, Sample.last, ASDU.sample, measuredASDU,
    ASDU.new, encodeTL, encodeStringWithTag, encodeLength, name,
    block]

theorem length_sampleOctets {asdus : List ASDU} {samples : List Sample} {size : Nat}
    (sized : ∀ asdu ∈ asdus, ∀ sample, asdu.EncodedAs sample → sample.octets.length = size)
    (encodedAs : List.Forall₂ ASDU.EncodedAs asdus samples) :
    (sampleOctets samples).length = asdus.length * size := by
  induction encodedAs with
  | nil => simp [sampleOctets]
  | cons first _ ih =>
      obtain ⟨here, others⟩ := List.forall_mem_cons.mp sized
      have rest := ih others
      simp only [sampleOctets] at rest ⊢
      rw [List.flatMap_cons, List.length_append, here _ first, rest, List.length_cons,
        Nat.succ_mul, Nat.add_comm]

/-- The publisher as the application configures it for so many ASDUs. -/
def configuredPublisher (srcAddr : Octets 6) (found : Memory) (asdus : Nat) :
    GridGooseSV.SVPublisher :=
  { create .svDefault srcAddr found with asduList := (List.range asdus).map measuredASDU }

section Starting

variable {srcAddr : Octets 6} {found : Memory} {asdus : Nat}

/-- The header of the frames of the application. -/
def applicationHeader (srcAddr : Octets 6) : List UInt8 :=
  frameHeader [0x88, 0xba] .svDefault srcAddr true

theorem configured_application :
    (configuredPublisher srcAddr found asdus).Configured (applicationHeader srcAddr) where
  held := (configured_createEx .svDefault srcAddr true found).held
  lengthField := rfl
  payloadStart := rfl
  unplaced := by
    intro asdu member
    obtain ⟨j, _, rfl⟩ := List.mem_map.mp member
    exact ⟨rfl, rfl, rfl, rfl⟩

theorem length_pduFront_le (numberOfAsdu : UInt32) (totalASDULength : Nat) :
    (pduFront numberOfAsdu totalASDULength).length ≤ 20 := by
  have few := uInt32determineEncodedSize_le numberOfAsdu
  simp only [pduFront, encodeUInt32WithTL_eq, encodeTL, List.length_append,
    List.length_cons, length_tlv, length_encodeUInt32]
  generalize 2 + _ + _ = size
  have outer := length_encodeLength_le size
  have number := length_encodeLength_le (uInt32determineEncodedSize numberOfAsdu)
  have sequence := length_encodeLength_le totalASDULength
  omega

/-- The frame of eight ASDUs fits. -/
theorem fits_application (few : asdus ≤ 8) :
    (configuredPublisher srcAddr found asdus).setupComplete.value.Fits := by
  have header : (applicationHeader srcAddr).length = 20 := by
    simp [applicationHeader, frameHeader, vlanTag, CommParameters.svDefault,
      CommParameters.default, srcAddr.property]
  have start : (configuredPublisher srcAddr found asdus).payloadStart = 26 := by
    rw [configured_application.payloadStart, header]
  rw [Fits, value_setupComplete]
  generalize pduEq : pduFront _ _ = pdu
  have front : pdu.length ≤ 20 := pduEq ▸ length_pduFront_le _ _
  obtain ⟨samples, encodedAs, _, _, stop, _⟩ := @encodeAllToBuffer_spec
    (configuredPublisher srcAddr found asdus).asduList
    ((configuredPublisher srcAddr found asdus).buffer.put
      (configuredPublisher srcAddr found asdus).payloadStart pdu)
    ((configuredPublisher srcAddr found asdus).payloadStart + pdu.length)
    fun asdu member _ => (configured_application.unplaced asdu member).refrTm
  have octets : (sampleOctets samples).length = asdus * 62 := by
    rw [@length_sampleOctets _ _ 62 _ encodedAs, configuredPublisher, List.length_map,
      List.length_range]
    intro asdu member sample
    obtain ⟨j, inside, rfl⟩ := List.mem_map.mp member
    exact length_measured (by have := List.mem_range.mp inside; omega)
  rw [octets] at stop
  rw [svMaxMessageSize]
  dsimp only
  omega

/-- An application that starts has a slot and an ASDU for each sample of a message. -/
theorem startApplication_eq {maxPackets : UInt64} {samplesPerMessage : UInt8}
    (few : samplesPerMessage.toNat ≤ 8) :
    SVPublisher.startApplication maxPackets samplesPerMessage srcAddr found = some {
      svPublisher :=
        (configuredPublisher srcAddr found samplesPerMessage.toNat).setupComplete.value
      slots := (List.range samplesPerMessage.toNat).map slotOf
      count := if maxPackets = 0 then 0 - 1 else maxPackets
      samplesPerMessage := samplesPerMessage
      sampleIndex := 0
      sent := 0 } := by
  have filled := @addASDUs_eq (create .svDefault srcAddr found) 0 samplesPerMessage.toNat
    (by omega)
  rw [Nat.zero_add] at filled
  exact congrArg (Option.bind · _) filled

end Starting

/-! ## Measuring -/

/-- A sample of the application after so many measurements. -/
structure Counting (measured : Nat) (sample : Sample) : Prop where
  smpCnt : sample.smpCnt.toNat = measured % 65535
  smpCntLimit : sample.smpCntLimit = 65535
  data : sample.data.length = 40

section Measuring

variable {sample changed : Sample} {measured : Nat}

theorem Counting.setData (counting : Counting measured sample) {index : Nat}
    {value : ASDU.DataValue} (inside : index + value.octets.length ≤ 40) :
    ∃ changed, sample.perform (.setData index value) = some changed ∧
      Counting measured changed := by
  obtain ⟨smpCnt, smpCntLimit, data⟩ := counting
  rw [← data] at inside
  refine ⟨_, if_pos inside, smpCnt, smpCntLimit, ?_⟩
  exact (length_replaceAt inside).trans data

theorem Counting.increaseSmpCnt (counting : Counting measured sample) :
    ∃ changed, sample.perform .increaseSmpCnt = some changed ∧
      Counting (measured + 1) changed := by
  obtain ⟨smpCnt, smpCntLimit, data⟩ := counting
  refine ⟨_, if_neg (by rw [smpCntLimit]; decide), ?_, smpCntLimit, data⟩
  have bound := Nat.mod_lt (measured + 1) (show 65535 > 0 by decide)
  rw [smpCntLimit, smpCnt, show (65535 : UInt16).toNat = 65535 from rfl, Nat.mod_add_mod,
    UInt16.toNat_ofNat_of_lt' (by rw [UInt16.size]; omega)]

/-- Values are set within the data. -/
theorem Counting.setAll (counting : Counting measured sample)
    {values : List (Nat × ASDU.DataValue)}
    (inside : ∀ value ∈ values, value.1 + value.2.octets.length ≤ 40) :
    ∃ changed, sample.performAll (values.map fun value => .setData value.1 value.2) =
      some changed ∧ Counting measured changed := by
  induction values generalizing sample with
  | nil => exact ⟨sample, rfl, counting⟩
  | cons value rest ih =>
      obtain ⟨here, others⟩ := List.forall_mem_cons.mp inside
      obtain ⟨next, set, still⟩ := counting.setData here
      obtain ⟨changed, later, ended⟩ := ih still others
      refine ⟨changed, ?_, ended⟩
      rw [List.map_cons, Sample.performAll, set]
      exact later

/-- A measurement changes the counter by one. -/
theorem Counting.measure (counting : Counting measured sample) (measurement : Measurement)
    (j : Nat) :
    ∃ changed, sample.performAll (measurement.calls (slotOf j)) = some changed ∧
      Counting (measured + 1) changed := by
  let floats := ((slotOf j).offsets.zip (List.ofFn measurement.vals)).map fun pair =>
    (pair.1, ASDU.DataValue.float pair.2)
  have inside : ∀ value ∈ floats, value.1 + value.2.octets.length ≤ 40 := by
    intro value member
    obtain ⟨⟨offset, float⟩, paired, rfl⟩ := List.mem_map.mp member
    have bound : ∀ offset ∈ (slotOf j).offsets, offset ≤ 28 := by
      simp [slotOf]
    have place := bound offset (List.of_mem_zip paired).1
    have width : (ASDU.DataValue.float float).octets.length = 4 := by
      rw [ASDU.DataValue.octets, revertByteOrder, List.length_reverse, float.property]
    dsimp only
    omega
  have eight : ∀ ts : Timestamp, (ASDU.DataValue.timestamp ts).octets.length = 8 :=
    fun ts => ts.property
  obtain ⟨first, set, counting⟩ := counting.setAll inside
  obtain ⟨second, increased, counting⟩ := counting.increaseSmpCnt
  obtain ⟨changed, timed, counting⟩ := @Counting.setData _ _ counting (slotOf j).ts
    (.timestamp (measurement.ts.clearFlags.setTimeInNanoseconds measurement.now))
    (by rw [eight]; exact Nat.le_refl 40)
  refine ⟨changed, ?_, counting⟩
  rw [List.map_map] at set
  rw [Measurement.calls, Sample.performAll_append]
  refine (congrArg (Option.bind · _) set).trans ?_
  rw [Option.bind_some, Sample.performAll, increased]
  exact (congrArg (Option.bind · _) timed).trans rfl

end Measuring

/-! ## Running -/

/-- The sample counters that a subscriber of the application finds in a packet, an ASDU after
another. -/
def counters (packet : List UInt8) : List (Option UInt16) :=
  (parseSVMessage applicationReceiver (Memory.ofOctets packet fun _ => 0)
    packet.length).value.2.map SVCall.smpCnt

/-- A counter is the one after another, modulo the wrap limit. -/
def Follows (previous next : Option UInt16) : Prop :=
  ∃ before after : UInt16, previous = some before ∧ next = some after ∧
    after.toNat = (before.toNat + 1) % 65535

/-- The application between events, with the number of frames that were sent. -/
structure Running (srcAddr : Octets 6) (number frames : Nat) (application : SVPublisher)
    (samples : List Sample) : Prop where
  ready : application.svPublisher.Ready (applicationHeader srcAddr) (UInt32.ofNat number) samples
  fits : application.svPublisher.Fits
  length : samples.length = number
  samplesPerMessage : application.samplesPerMessage.toNat = number
  slots : application.slots = (List.range number).map slotOf
  sampleIndex : application.sampleIndex.toNat < number
  counting : ∀ j sample, samples[j]? = some sample →
    Counting (frames + if j < application.sampleIndex.toNat then 1 else 0) sample

/-- The counters of a frame. -/
def countersOf (number frames : Nat) : List (Option UInt16) :=
  List.replicate number (some (UInt16.ofNat (frames % 65535)))

section Running

variable {srcAddr : Octets 6} {number frames : Nat} {self : SVPublisher}

/-- A subscriber finds the counters that the frame says. -/
theorem counters_publish {publisher : GridGooseSV.SVPublisher} {samples : List Sample}
    (ready : publisher.Ready (applicationHeader srcAddr) (UInt32.ofNat number) samples)
    (fits : publisher.Fits) :
    counters publisher.publish = samples.map fun sample => some sample.smpCnt := by
  have received := ready.received fits (Memory.holds_ofOctets publisher.publish fun _ => 0)
    applicationReceiver
  clear ready fits
  have heard : ∀ octets, applicationReceiver.heard octets CommParameters.svDefault.appId =
      some 0 := fun octets => SVReceiver.heard_unchecked rfl octets [] _
  rw [heard] at received
  rw [counters]
  generalize (parseSVMessage applicationReceiver _ _).value.2 = calls at received
  induction received with
  | nil => rfl
  | cons first _ ih => rw [List.map_cons, List.map_cons, first.2.shows.smpCnt, ih]

/-- An application starts with no sample taken. -/
theorem startApplication_running {found : Memory} {maxPackets : UInt64}
    {samplesPerMessage : UInt8} (positive : 0 < samplesPerMessage.toNat)
    (few : samplesPerMessage.toNat ≤ 8) :
    ∃ started samples,
      SVPublisher.startApplication maxPackets samplesPerMessage srcAddr found = some started ∧
        Running srcAddr samplesPerMessage.toNat 0 started samples ∧ started.count ≠ 0 ∧
        started.sampleIndex = 0 := by
  obtain ⟨encodedAs, ready⟩ := (@configured_application srcAddr found _).setupComplete
    (fits_application few)
  have asdus : (configuredPublisher srcAddr found samplesPerMessage.toNat).asduList.length =
      samplesPerMessage.toNat := by
    rw [configuredPublisher, List.length_map, List.length_range]
  rw [asdus] at ready
  refine ⟨_, _, startApplication_eq few, ⟨ready, fits_application few, ?_, rfl, rfl, positive, ?_⟩,
    ?_, rfl⟩
  · rw [← encodedAs.length_eq, asdus]
  · intro j sample present
    obtain ⟨asdu, member, refrTm, data, dataSize, rfl⟩ :=
      forall₂_mem encodedAs.flip (List.mem_of_getElem? present)
    obtain ⟨_, _, rfl⟩ := List.mem_map.mp member
    exact ⟨rfl, rfl, dataSize⟩
  · dsimp only
    split
    · decide
    · assumption

/-- What an event does to an application. -/
inductive Measured (srcAddr : Octets 6) (number frames : Nat) (self : SVPublisher) :
    SVPublisher × Option (List UInt8) → Prop
  | stopped (spent : self.count = 0) : Measured srcAddr number frames self (self, none)
  | kept {after : SVPublisher} {samples : List Sample} (more : self.count ≠ 0)
      (running : Running srcAddr number frames after samples) (count : after.count = self.count)
      (sampleIndex : after.sampleIndex.toNat = self.sampleIndex.toNat + 1) :
      Measured srcAddr number frames self (after, none)
  | sent {after : SVPublisher} {samples : List Sample} {packet : List UInt8}
      (more : self.count ≠ 0) (running : Running srcAddr number (frames + 1) after samples)
      (full : self.sampleIndex.toNat + 1 = number)
      (counted : counters packet = countersOf number (frames + 1)) :
      Measured srcAddr number frames self (after, some packet)

/-- After a measurement the ASDU that got it counts one more. -/
theorem counting_set {samples : List Sample} {place : Nat} {changed : Sample}
    (counting : ∀ j sample, samples[j]? = some sample →
      Counting (frames + if j < place then 1 else 0) sample)
    (counted : Counting (frames + 1) changed) {j : Nat} {sample : Sample}
    (present : (samples.set place changed)[j]? = some sample) :
    Counting (frames + if j < place + 1 then 1 else 0) sample := by
  by_cases here : j = place
  · rw [here, List.getElem?_set_self'] at present
    obtain ⟨_, _, same⟩ := Option.map_eq_some_iff.mp present
    rw [if_pos (by omega), ← same]
    exact counted
  · rw [List.getElem?_set_ne (Ne.symm here)] at present
    have still := counting j sample present
    have order : j < place + 1 ↔ j < place := by omega
    simpa only [order] using still

/-- A frame is full when all of its ASDUs count one more. -/
theorem countersOf_eq {samples : List Sample} (length : samples.length = number)
    (counting : ∀ (j : Nat) sample, samples[j]? = some sample → Counting frames sample) :
    (samples.map fun sample => some sample.smpCnt) = countersOf number frames := by
  apply List.eq_replicate_iff.mpr
  refine ⟨by rw [List.length_map, length], fun counter member => ?_⟩
  obtain ⟨sample, among, rfl⟩ := List.mem_map.mp member
  obtain ⟨j, present⟩ := List.getElem?_of_mem among
  rw [← (counting j sample present).smpCnt, UInt16.ofNat_toNat]

theorem Running.measure {samples : List Sample}
    (running : Running srcAddr number frames self samples) (measurement : Measurement) :
    ∃ result, self.measure measurement = some result ∧
      Measured srcAddr number frames self result := by
  obtain ⟨ready, fits, length, samplesPerMessage, slots, sampleIndex, counting⟩ := running
  rw [SVPublisher.measure]
  by_cases spent : self.count = 0
  · rw [if_pos spent]
    exact ⟨_, rfl, .stopped spent⟩
  have slot : self.slots[self.sampleIndex.toNat]? = some (slotOf self.sampleIndex.toNat) := by
    rw [slots, List.getElem?_map, List.getElem?_range sampleIndex, Option.map_some]
  obtain ⟨sample, present⟩ : ∃ sample, samples[self.sampleIndex.toNat]? = some sample :=
    ⟨_, List.getElem?_eq_getElem (length ▸ sampleIndex)⟩
  have before := counting _ _ present
  rw [if_neg (Nat.lt_irrefl _), Nat.add_zero] at before
  obtain ⟨changed, meant, counted⟩ := before.measure measurement self.sampleIndex.toNat
  have patched := patchAll_onASDU present meant
  obtain ⟨publisher, performed, ready'⟩ := ready.performAll patched
  have after := fun j sample => @counting_set _ _ _ _ counting counted j sample
  have length' : (samples.set self.sampleIndex.toNat changed).length = number := by
    rw [List.length_set, length]
  have fits' := ready.fits_after fits patched ready'
  have bound := self.samplesPerMessage.toNat_lt
  have index : (self.sampleIndex + 1).toNat = self.sampleIndex.toNat + 1 := by
    rw [UInt8.toNat_add, show (1 : UInt8).toNat = 1 from rfl]
    omega
  rw [if_neg spent]
  simp only [slot, Option.bind_eq_bind, Option.bind_some]
  by_cases full : self.sampleIndex + 1 = self.samplesPerMessage
  · have last : self.sampleIndex.toNat + 1 = number := by rw [← index, full, samplesPerMessage]
    have equal : ∀ (j : Nat) sample, (samples.set self.sampleIndex.toNat changed)[j]? =
        some sample → Counting (frames + 1) sample := by
      intro j sample present
      obtain ⟨inside, _⟩ := List.getElem?_eq_some_iff.mp present
      have counting := after j sample present
      rwa [if_pos (by omega)] at counting
    refine ⟨_, (congrArg (Option.bind · _) performed).trans (if_pos full), ?_⟩
    refine .sent spent ⟨ready', fits', length', samplesPerMessage, slots, ?_, equal⟩ last ?_
    · exact Nat.lt_of_le_of_lt (Nat.zero_le _) sampleIndex
    · exact (counters_publish ready' fits').trans (countersOf_eq length' equal)
  · have more : self.sampleIndex.toNat + 1 ≠ number := by
      rw [← index, ← samplesPerMessage]
      exact fun same => full (UInt8.toNat_inj.mp same)
    refine ⟨_, (congrArg (Option.bind · _) performed).trans (if_neg full), ?_⟩
    refine .kept spent ⟨ready', fits', length', samplesPerMessage, slots, ?_, ?_⟩ rfl index
    · dsimp only
      omega
    · dsimp only
      rw [index]
      exact after

/-- What a run sends: frame after frame, each with counters one higher. -/
theorem Running.run {samples : List Sample}
    (running : Running srcAddr number frames self samples) (measurements : List Measurement) :
    ∃ after packets, self.run measurements = some (after, packets) ∧
      packets.map counters =
        (List.range' (frames + 1) packets.length).map (countersOf number) := by
  induction measurements generalizing self frames samples with
  | nil => exact ⟨self, [], rfl, rfl⟩
  | cons measurement rest ih =>
      obtain ⟨⟨next, packet⟩, measured, does⟩ := running.measure measurement
      rw [SVPublisher.run, measured]
      cases does with
      | stopped spent =>
          obtain ⟨after, packets, ran, counted⟩ := ih running
          exact ⟨after, packets, (congrArg (Option.bind · _) ran).trans rfl, counted⟩
      | kept more still count sampleIndex =>
          obtain ⟨after, packets, ran, counted⟩ := ih still
          exact ⟨after, packets, (congrArg (Option.bind · _) ran).trans rfl, counted⟩
      | @sent _ _ packet more still full first =>
          obtain ⟨after, packets, ran, counted⟩ := ih still
          refine ⟨after, packet :: packets, (congrArg (Option.bind · _) ran).trans rfl, ?_⟩
          rw [List.map_cons, List.length_cons, List.range'_succ, List.map_cons, first, counted]

/-- A run sends a frame once every ASDU has got a sample. -/
theorem Running.silent_iff {samples : List Sample}
    (running : Running srcAddr number frames self samples) (more : self.count ≠ 0)
    {measurements : List Measurement} {after : SVPublisher} {packets : List (List UInt8)}
    (ran : self.run measurements = some (after, packets)) :
    packets = [] ↔ self.sampleIndex.toNat + measurements.length < number := by
  induction measurements generalizing self frames samples packets with
  | nil =>
      obtain ⟨_, rfl⟩ := Prod.mk.inj (Option.some.inj ran)
      exact iff_of_true rfl running.sampleIndex
  | cons measurement rest ih =>
      obtain ⟨⟨next, packet⟩, measured, does⟩ := running.measure measurement
      simp only [SVPublisher.run, measured, Option.bind_eq_bind, Option.bind_some,
        Option.bind_eq_some_iff, Option.pure_def, Option.some.injEq, Prod.mk.injEq] at ran
      obtain ⟨⟨_, others⟩, later, rfl, rfl⟩ := ran
      rw [List.length_cons]
      cases does with
      | stopped spent => contradiction
      | kept _ still count sampleIndex =>
          have silent := ih still (count ▸ more) later
          rw [sampleIndex] at silent
          refine silent.trans ?_
          omega
      | sent _ _ full _ =>
          refine iff_of_false (List.cons_ne_nil _ _) ?_
          omega

theorem toNat_counter (frames : Nat) : (UInt16.ofNat (frames % 65535)).toNat = frames % 65535 := by
  have bound := Nat.mod_lt frames (show 65535 > 0 by decide)
  rw [UInt16.toNat_ofNat_of_lt' (by rw [UInt16.size]; omega)]

theorem follows_succ (frames : Nat) :
    Follows (some (UInt16.ofNat (frames % 65535)))
      (some (UInt16.ofNat ((frames + 1) % 65535))) := by
  refine ⟨_, _, rfl, rfl, ?_⟩
  rw [toNat_counter, toNat_counter, Nat.mod_add_mod]

theorem not_follows_self (counter : UInt16) : ¬ Follows (some counter) (some counter) := by
  rintro ⟨before, after, same, again, next⟩
  rw [← Option.some.inj same, ← Option.some.inj again] at next
  omega

/-- Counters that are the same in each frame and one higher in the next are consecutive only if
there is no frame, or one counter in each. -/
theorem isChain_countersOf (frames sent : Nat) (positive : 0 < number) :
    ((List.range' (frames + 1) sent).flatMap (countersOf number)).IsChain Follows ↔
      number = 1 ∨ sent = 0 := by
  obtain rfl | ⟨rest, rfl⟩ : number = 1 ∨ ∃ rest, number = rest + 2 := by
    rcases number with _ | _ | rest
    · contradiction
    · exact .inl rfl
    · exact .inr ⟨rest, rfl⟩
  · refine iff_of_true ?_ (.inl rfl)
    have single : (List.range' (frames + 1) sent).flatMap (countersOf 1) =
        (List.range' (frames + 1) sent).map fun frames => some (UInt16.ofNat (frames % 65535)) :=
      List.map_eq_flatMap.symm
    rw [single, List.isChain_map]
    apply (List.isChain_range' (frames + 1) sent 1).imp
    rintro first _ rfl
    exact follows_succ first
  · cases sent with
    | zero => exact iff_of_true .nil (.inr rfl)
    | succ sent =>
        refine iff_of_false (fun chain => ?_) (by omega)
        rw [List.range'_succ, List.flatMap_cons, countersOf, List.replicate_succ,
          List.replicate_succ, List.cons_append, List.cons_append, List.isChain_cons_cons] at chain
        exact not_follows_self _ chain.1

end Running

/-- The sample counters of consecutive ASDUs are consecutive exactly if there is one sample in a
message, or there were too few events for a message. -/
theorem counters_consecutive_iff {samplesPerMessage : UInt8}
    (positive : 1 ≤ samplesPerMessage.toNat) (few : samplesPerMessage.toNat ≤ 8)
    (maxPackets : UInt64) (srcAddr : Octets 6) (found : Memory)
    (measurements : List Measurement) :
    ∃ started after packets,
      SVPublisher.startApplication maxPackets samplesPerMessage srcAddr found = some started ∧
        started.run measurements = some (after, packets) ∧
          ((packets.flatMap counters).IsChain Follows ↔
            samplesPerMessage = 1 ∨ measurements.length < samplesPerMessage.toNat) := by
  obtain ⟨started, samples, starts, running, more, first⟩ :=
    @startApplication_running srcAddr found maxPackets _ positive few
  obtain ⟨after, packets, ran, counted⟩ := running.run measurements
  refine ⟨started, after, packets, starts, ran, ?_⟩
  have silent := running.silent_iff more ran
  rw [first, show (0 : UInt8).toNat = 0 from rfl, Nat.zero_add] at silent
  rw [List.flatMap_def, counted, ← List.flatMap_def, isChain_countersOf _ _ positive, ← silent,
    List.length_eq_zero_iff, ← UInt8.toNat_inj]
  rfl

/-- An event that measures nothing but zeros. -/
def zeroMeasurement : Measurement := ⟨0, fun _ => Octets.zero, Octets.zero⟩

/-- Two messages of two samples each. -/
theorem counters_consecutive_iff_two : ∃ started after packets,
    SVPublisher.startApplication 0 2 Octets.zero (fun _ => 0) = some started ∧
      started.run (List.replicate 4 zeroMeasurement) = some (after, packets) ∧
        ((packets.flatMap counters).IsChain Follows ↔
          (2 : UInt8) = 1 ∨ (List.replicate 4 zeroMeasurement).length < (2 : UInt8).toNat) :=
  counters_consecutive_iff (by decide) (by decide) 0 Octets.zero (fun _ => 0)
    (List.replicate 4 zeroMeasurement)

/-- Both samples of a message have the same counter. -/
theorem counter_repeated :
    (SVPublisher.startApplication 0 2 Octets.zero fun _ => 0).bind (fun started =>
        (started.run [zeroMeasurement, zeroMeasurement]).map fun ran => ran.2.flatMap counters) =
      some [some 1, some 1] ∧ ¬ [some 1, some 1].IsChain Follows := by
  refine ⟨by decide +kernel, fun chain => ?_⟩
  exact not_follows_self 1 (List.isChain_cons_cons.mp chain).1

end GridGooseSV.Ns3
