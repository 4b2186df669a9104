import GridGooseSV.Sv.Frame
import GridGooseSV.Sv.Patching

/-!
# The frame of a publisher over a run

Until a publisher is set up, calls only configure it. Setting up encodes the frame; from
then on the frame says a list of samples, and every call on an ASDU changes the sample of
that ASDU.
-/

namespace GridGooseSV.SVPublisher

open BerEncoder BerDecoder

/-! ## Configuration -/

/-- An ASDU that is not encoded yet has no positions. -/
structure ASDU.Unplaced (asdu : ASDU) : Prop where
  smpCntBuf : asdu.smpCntBuf = none
  refrTm : asdu.refrTm = none
  smpSynchBuf : asdu.smpSynchBuf = none
  dataBuffer : asdu.dataBuffer = none

/-- A call on an ASDU that is not encoded yet leaves the buffer. -/
theorem ASDU.Unplaced.perform {asdu : ASDU} (unplaced : asdu.Unplaced) {memory : Memory}
    {operation : Operation} {result : ASDU × Memory}
    (performed : asdu.perform memory operation = some result) :
    result.1.Unplaced ∧ result.2 = memory := by
  obtain ⟨smpCntBuf, refrTm, smpSynchBuf, dataBuffer⟩ := unplaced
  have counted : ∀ value, (asdu.setSmpCnt memory value).1.Unplaced ∧
      (asdu.setSmpCnt memory value).2 = memory := by
    intro value
    refine ⟨⟨smpCntBuf, refrTm, smpSynchBuf, dataBuffer⟩, ?_⟩
    rw [setSmpCnt, smpCntBuf]
    rfl
  have timed : ∀ change, (asdu.changeRefrTm memory change).1.Unplaced ∧
      (asdu.changeRefrTm memory change).2 = memory := by
    intro change
    refine ⟨⟨smpCntBuf, refrTm, smpSynchBuf, dataBuffer⟩, ?_⟩
    rw [changeRefrTm, refrTm]
  cases operation with
  | setData index value => simp [ASDU.perform, setData, dataBuffer] at performed
  | setSmpSynch smpSynch => simp [ASDU.perform, setSmpSynch, smpSynchBuf] at performed
  | increaseSmpCnt =>
      simp only [ASDU.perform, increaseSmpCnt] at performed
      split at performed
      · contradiction
      · exact Option.some.inj performed ▸ counted _
  | setSmpCnt value => exact Option.some.inj performed ▸ counted value
  | setRefrTmNs refrTmNs => exact Option.some.inj performed ▸ timed _
  | setRefrTm refrTm => exact Option.some.inj performed ▸ timed _
  | setRefrTmByTimestamp refrTm => exact Option.some.inj performed ▸ timed _
  | _ =>
      rw [← Option.some.inj performed]
      exact ⟨⟨smpCntBuf, refrTm, smpSynchBuf, dataBuffer⟩, rfl⟩

/-- A publisher that is not set up yet: its buffer starts with a header. -/
structure Configured (publisher : SVPublisher) (header : List UInt8) : Prop where
  held : publisher.buffer.Holds 0 (header ++ lengthAndReserved)
  lengthField : publisher.lengthField = header.length
  payloadStart : publisher.payloadStart = header.length + 6
  unplaced : ∀ asdu ∈ publisher.asduList, asdu.Unplaced

theorem configured_createEx (parameters : CommParameters) (srcAddr : Octets 6) (useVlanTag : Bool)
    (found : Memory) :
    (createEx parameters srcAddr useVlanTag found).Configured
      (frameHeader [0x88, 0xba] parameters srcAddr useVlanTag) where
  held := Memory.holds_put found 0 _
  lengthField := rfl
  payloadStart := rfl
  unplaced := fun _ absent => absurd absent List.not_mem_nil

theorem performAll_append (self : SVPublisher) (first second : List Operation) :
    self.performAll (first ++ second) =
      (self.performAll first).bind fun middle => middle.performAll second := by
  induction first generalizing self with
  | nil => rfl
  | cons operation rest ih =>
      rw [List.cons_append, performAll, performAll]
      simp only [Option.bind_eq_bind, ih, Option.bind_assoc]

/-- A call on an ASDU changes the buffer and this ASDU. -/
theorem perform_onASDU {self : SVPublisher} {index : Nat} {asdu : ASDU}
    (found : self.asduList[index]? = some asdu) {operation : ASDU.Operation} :
    self.perform (.onASDU index operation) =
      (asdu.perform self.buffer operation).map fun result =>
        { self with buffer := result.2, asduList := self.asduList.set index result.1 } := by
  simp only [SVPublisher.perform, found, Option.bind_eq_bind, Option.bind_some]
  cases asdu.perform self.buffer operation with
  | none => rfl
  | some result => rfl

/-- A call on an ASDU that is performed finds the ASDU. -/
theorem of_perform_onASDU {self after : SVPublisher} {index : Nat} {operation : ASDU.Operation}
    (performed : self.perform (.onASDU index operation) = some after) :
    ∃ asdu result, self.asduList[index]? = some asdu ∧
      asdu.perform self.buffer operation = some result ∧
      after = { self with buffer := result.2, asduList := self.asduList.set index result.1 } := by
  obtain ⟨asdu, found, _⟩ := Option.bind_eq_some_iff.mp performed
  rw [perform_onASDU found] at performed
  obtain ⟨result, own, rfl⟩ := Option.map_eq_some_iff.mp performed
  exact ⟨asdu, result, found, own, rfl⟩

section Configuration

variable {self after : SVPublisher} {header : List UInt8}

theorem Configured.perform (configured : self.Configured header) {operation : Operation}
    (other : operation ≠ .setupComplete) (performed : self.perform operation = some after) :
    after.Configured header := by
  obtain ⟨held, lengthField, payloadStart, unplaced⟩ := configured
  cases operation with
  | setupComplete => contradiction
  | addASDU svID datset confRev =>
      obtain rfl := Option.some.inj performed
      refine ⟨held, lengthField, payloadStart, fun asdu member => ?_⟩
      rcases List.mem_append.mp member with member | new
      · exact unplaced asdu member
      · obtain rfl := List.mem_singleton.mp new
        exact ⟨rfl, rfl, rfl, rfl⟩
  | onASDU index operation =>
      obtain ⟨asdu, result, found, changed, rfl⟩ := of_perform_onASDU performed
      obtain ⟨still, same⟩ := (unplaced asdu (List.mem_of_getElem? found)).perform changed
      refine ⟨?_, lengthField, payloadStart, fun other member => ?_⟩
      · simpa only [same] using held
      · rcases List.mem_or_eq_of_mem_set member with member | rfl
        · exact unplaced other member
        · exact still

theorem Configured.performAll (configured : self.Configured header)
    {operations : List Operation} (others : .setupComplete ∉ operations)
    (performed : self.performAll operations = some after) : after.Configured header := by
  induction operations generalizing self with
  | nil =>
      obtain rfl := Option.some.inj performed
      exact configured
  | cons operation rest ih =>
      obtain ⟨next, first, later⟩ := Option.bind_eq_some_iff.mp performed
      obtain ⟨other, others⟩ := not_or.mp (mt List.mem_cons.mpr others)
      exact ih (configured.perform (Ne.symm other) first) others later

end Configuration

/-! ## Setting up -/

/-- What is encoded in front of the ASDUs. -/
def pduFront (numberOfAsdu : UInt32) (totalASDULength : Nat) : List UInt8 :=
  let sequenceSize := 1 + determineLengthSize totalASDULength + totalASDULength
  encodeTL 0x60 (2 + uInt32determineEncodedSize numberOfAsdu + sequenceSize) ++
    encodeUInt32WithTL 0x80 numberOfAsdu ++ encodeTL 0xa2 totalASDULength

/-- What stands in front of the ASDUs in the buffer. -/
def frameFront (header : List UInt8) (numberOfAsdu : UInt32) (totalASDULength : Nat) : List UInt8 :=
  let pdu := pduFront numberOfAsdu totalASDULength
  let msgLength := pdu.length + totalASDULength + 8
  header ++ ([UInt8.ofNat (msgLength / 256), UInt8.ofNat (msgLength % 256)] ++
    ([0x00, 0x00, 0x00, 0x00] ++ pdu))

/-- A publisher whose frame is encoded and says the given samples. -/
structure Ready (publisher : SVPublisher) (header : List UInt8) (numberOfAsdu : UInt32)
    (samples : List Sample) : Prop where
  held : publisher.buffer.Holds 0
    (frameFront header numberOfAsdu (sampleOctets samples).length ++ sampleOctets samples)
  ends : publisher.payloadStart + publisher.payloadLength =
    (frameFront header numberOfAsdu (sampleOctets samples).length).length +
      (sampleOctets samples).length
  placed : PlacedAll (frameFront header numberOfAsdu (sampleOctets samples).length).length
    publisher.asduList samples

theorem value_setupComplete (self : SVPublisher) :
    self.setupComplete.value =
      let pdu := pduFront (UInt32.ofNat self.asduList.length) self.totalASDULength
      let encoded := (ASDU.encodeAllToBuffer (self.buffer.put self.payloadStart pdu)
        (self.payloadStart + pdu.length) self.asduList).value
      let payloadLength := encoded.2.2 - self.payloadStart
      let msgLength := payloadLength + 8
      { self with
        buffer := encoded.2.1.put self.lengthField
          [UInt8.ofNat (msgLength / 256), UInt8.ofNat (msgLength % 256)]
        payloadLength := payloadLength
        asduList := encoded.1 } := rfl

/-- The length of an ASDU is counted right. -/
theorem ASDU.EncodedAs.length {asdu : ASDU} {sample : Sample} (encodedAs : asdu.EncodedAs sample)
    (small : sample.octets.length < 65535) :
    asdu.getEncodedSize + determineLengthSize asdu.getEncodedSize + 1 = sample.octets.length := by
  obtain ⟨refrTm, data, dataSize, rfl⟩ := encodedAs
  have split := congrArg List.length (asdu.sample refrTm data).octets_split
  rw [List.length_append, encodeTL, List.length_cons] at split
  have counted := @Sample.length_items (asdu.sample refrTm data) (by omega)
  rw [ASDU.size_sample dataSize] at counted split
  rw [determineLengthSize_eq (by omega)]
  omega

theorem length_encodedAs {asdus : List ASDU} {samples : List Sample}
    (encodedAs : List.Forall₂ ASDU.EncodedAs asdus samples)
    (small : (sampleOctets samples).length < 65535) :
    (asdus.map fun asdu =>
      let asduLength := asdu.getEncodedSize
      asduLength + determineLengthSize asduLength + 1).sum = (sampleOctets samples).length := by
  induction encodedAs with
  | nil => rfl
  | cons first rest ih =>
      simp only [sampleOctets, List.flatMap_cons, List.length_append] at small ih ⊢
      rw [List.map_cons, List.sum_cons, first.length (by omega), ih (by omega)]

/-- The frame of a publisher fits in its buffer. -/
def Fits (self : SVPublisher) : Prop :=
  self.payloadStart + self.payloadLength ≤ svMaxMessageSize

/-- What an ASDU says that is encoded in a buffer. -/
def ASDU.sampleIn (self : ASDU) (buffer : Memory) : Sample :=
  self.sample (timestampAt buffer (self.refrTm.getD 0))
    (buffer.octets (self.dataBuffer.getD 0) self.dataSize)

/-- What the ASDUs of a publisher say in its buffer. -/
def samples (self : SVPublisher) : List Sample :=
  self.asduList.map fun asdu => asdu.sampleIn self.buffer

theorem Stands.sampleIn {buffer : Memory} {before after : List UInt8} {asdu : ASDU}
    {sample : Sample} (stands : Stands buffer before after asdu sample)
    (encodedAs : asdu.EncodedAs sample) : asdu.sampleIn buffer = sample := by
  obtain ⟨refrTm, data, dataSize, rfl⟩ := encodedAs
  have here := stands.part (asdu.sample refrTm data).octets_data
  have place := stands.placed.dataBuffer
  have time := stands.placed.refrTm
  rw [Sample.length_beforeData, Memory.Holds, show (asdu.sample refrTm data).data = data from rfl,
    dataSize] at here
  rw [ASDU.sampleIn, place, Option.getD_some, here]
  cases has : asdu.hasRefrTm with
  | false => simp [ASDU.sample, has]
  | true =>
      have present : (asdu.sample refrTm data).refrTm = some refrTm := by simp [ASDU.sample, has]
      rw [present, Option.map_some] at time
      rw [time, Option.getD_some, stands.timestampAt present]

theorem PlacedAll.samples {position : Nat} {asdus : List ASDU} {samples : List Sample}
    (placed : PlacedAll position asdus samples)
    (encodedAs : List.Forall₂ ASDU.EncodedAs asdus samples) {buffer : Memory}
    {before : List UInt8} (held : buffer.Holds 0 (before ++ sampleOctets samples))
    (there : position = before.length) :
    asdus.map (fun asdu => asdu.sampleIn buffer) = samples := by
  induction placed generalizing before with
  | nil => rfl
  | cons first rest ih =>
      subst there
      simp only [sampleOctets, List.flatMap_cons] at held ih
      cases encodedAs with
      | cons asdu others =>
          rw [List.map_cons, Stands.sampleIn ⟨held, first⟩ asdu]
          rw [← List.append_assoc] at held
          rw [ih others held (by rw [List.length_append])]

/-- A publisher that is set up sends what its ASDUs say. -/
theorem Configured.setupComplete {self : SVPublisher} {header : List UInt8}
    (configured : self.Configured header) (fits : self.setupComplete.value.Fits) :
    let after := self.setupComplete.value
    List.Forall₂ ASDU.EncodedAs self.asduList after.samples ∧
      after.Ready header (UInt32.ofNat self.asduList.length) after.samples := by
  intro after
  obtain ⟨held, lengthField, payloadStart, unplaced⟩ := configured
  simp only [after, Fits, value_setupComplete, SVPublisher.samples] at fits ⊢
  generalize numberEq : UInt32.ofNat self.asduList.length = number at *
  obtain ⟨samples, encodedAs, stillAs, octets, stop, placed, before⟩ :=
    @encodeAllToBuffer_spec self.asduList
      (self.buffer.put self.payloadStart (pduFront number self.totalASDULength))
      (self.payloadStart + (pduFront number self.totalASDULength).length)
      fun asdu member _ => (unplaced asdu member).refrTm
  have total : self.totalASDULength = (sampleOctets samples).length :=
    length_encodedAs encodedAs (by rw [stop, svMaxMessageSize] at fits; omega)
  rw [total] at stillAs octets stop placed before ⊢
  clear fits
  generalize pduEq : pduFront number (sampleOctets samples).length = pdu at *
  generalize (ASDU.encodeAllToBuffer (self.buffer.put self.payloadStart pdu)
    (self.payloadStart + pdu.length) self.asduList).value = encoded at *
  have room : self.payloadStart = 0 + (header ++ lengthAndReserved).length := by
    rw [payloadStart, List.length_append, Nat.zero_add]
    rfl
  have front := held.append_put pdu
  rw [← room] at front
  have ending : 0 + (header ++ lengthAndReserved ++ pdu).length =
      self.payloadStart + pdu.length := by
    rw [List.length_append, room, Nat.add_assoc]
  have whole : encoded.2.1.Holds 0
      (header ++ lengthAndReserved ++ pdu ++ sampleOctets samples) := by
    refine Memory.holds_append.mpr ⟨?_, ending ▸ octets⟩
    rw [Memory.Holds, ← front.octets, Memory.length_octets]
    apply Memory.octets_congr
    intro position _ below
    exact before position (by omega)
  have sent : encoded.2.2 - self.payloadStart = pdu.length + (sampleOctets samples).length := by
    omega
  have sized : (frameFront header number (sampleOctets samples).length).length =
      self.payloadStart + pdu.length := by
    simp only [frameFront, pduEq, List.length_append, List.length_cons, List.length_nil]
    omega
  have written : (encoded.2.1.put self.lengthField
      [UInt8.ofNat ((pdu.length + (sampleOctets samples).length + 8) / 256),
        UInt8.ofNat ((pdu.length + (sampleOctets samples).length + 8) % 256)]).Holds 0
      (frameFront header number (sampleOctets samples).length ++ sampleOctets samples) := by
    have replaced := @Memory.Holds.replace encoded.2.1 0 header [0x00, 0x08]
      ([0x00, 0x00, 0x00, 0x00] ++ (pdu ++ sampleOctets samples))
      (by simpa [lengthAndReserved] using whole)
      [UInt8.ofNat ((pdu.length + (sampleOctets samples).length + 8) / 256),
        UInt8.ofNat ((pdu.length + (sampleOctets samples).length + 8) % 256)] rfl
    rw [Nat.zero_add, ← lengthField] at replaced
    simpa only [frameFront, pduEq, List.append_assoc] using replaced
  rw [sent, placed.samples stillAs written sized.symm]
  refine ⟨encodedAs, written, ?_, ?_⟩
  · simp only [sized, Nat.add_assoc]
  · rw [sized]
    exact placed

/-! ## Calls on the ASDUs of a frame -/

/-- What a frame says after a call on an ASDU; other calls are not about the frame. -/
def patch (samples : List Sample) : Operation → Option (List Sample)
  | .onASDU index operation => do
    let sample ← samples[index]?
    let changed ← sample.perform operation
    pure (samples.set index changed)
  | _ => none

/-- A call that is about a frame is about the sample of one ASDU. -/
theorem patch_eq_some {samples changed : List Sample} {operation : Operation}
    (meant : patch samples operation = some changed) :
    ∃ index own sample next, operation = .onASDU index own ∧ samples[index]? = some sample ∧
      sample.perform own = some next ∧ changed = samples.set index next := by
  cases operation with
  | onASDU index own =>
      simp only [patch, Option.bind_eq_bind, Option.pure_def, Option.bind_eq_some_iff,
        Option.some.injEq] at meant
      obtain ⟨sample, present, next, performed, rfl⟩ := meant
      exact ⟨index, own, sample, next, rfl, present, performed, rfl⟩
  | _ => contradiction

/-- What a frame says after calls. -/
def patchAll (samples : List Sample) : List Operation → Option (List Sample)
  | [] => some samples
  | operation :: rest => do
    let samples ← patch samples operation
    patchAll samples rest

/-- What a sample is after calls on its ASDU. -/
def Sample.performAll (self : Sample) : List ASDU.Operation → Option Sample
  | [] => some self
  | operation :: rest => do
    let self ← self.perform operation
    self.performAll rest

theorem Sample.performAll_append (self : Sample) (first second : List ASDU.Operation) :
    self.performAll (first ++ second) =
      (self.performAll first).bind fun middle => middle.performAll second := by
  induction first generalizing self with
  | nil => rfl
  | cons operation rest ih =>
      rw [List.cons_append, Sample.performAll, Sample.performAll]
      simp only [Option.bind_eq_bind, ih, Option.bind_assoc]

/-- Calls on one ASDU change the sample of this ASDU. -/
theorem patchAll_onASDU {samples : List Sample} {place : Nat} {sample changed : Sample}
    (present : samples[place]? = some sample) {operations : List ASDU.Operation}
    (meant : sample.performAll operations = some changed) :
    patchAll samples (operations.map (.onASDU place)) = some (samples.set place changed) := by
  obtain ⟨bound, here⟩ := List.getElem?_eq_some_iff.mp present
  induction operations generalizing samples sample with
  | nil =>
      obtain rfl := Option.some.inj meant
      rw [← here, List.set_getElem_self]
      rfl
  | cons operation rest ih =>
      obtain ⟨next, spoken, later⟩ := Option.bind_eq_some_iff.mp meant
      have patched : patch samples (.onASDU place operation) = some (samples.set place next) := by
        simp only [patch, present, spoken, Option.bind_eq_bind, Option.bind_some, Option.pure_def]
      have inside : place < (samples.set place next).length := by rwa [List.length_set]
      rw [List.map_cons, patchAll, patched]
      refine (ih (List.getElem?_set_self bound) later inside (List.getElem_set_self _)).trans ?_
      rw [List.set_set]

/-- A call on one of the ASDUs patches the encodings of all. -/
theorem PlacedAll.perform {position : Nat} {asdus : List ASDU} {samples : List Sample}
    (placed : PlacedAll position asdus samples) {buffer : Memory} {before after : List UInt8}
    (held : buffer.Holds 0 (before ++ (sampleOctets samples ++ after)))
    (there : position = before.length) {index : Nat} {asdu : ASDU} {sample changed : Sample}
    (found : asdus[index]? = some asdu) (present : samples[index]? = some sample)
    {operation : ASDU.Operation} {result : ASDU × Memory}
    (performed : asdu.perform buffer operation = some result)
    (meant : sample.perform operation = some changed) :
    result.2.Holds 0 (before ++ (sampleOctets (samples.set index changed) ++ after)) ∧
      PlacedAll position (asdus.set index result.1) (samples.set index changed) := by
  induction placed generalizing before index with
  | nil => simp at found
  | cons first rest ih =>
      subst there
      simp only [sampleOctets, List.flatMap_cons, List.append_assoc] at held ih ⊢
      cases index with
      | zero =>
          obtain rfl := Option.some.inj found
          obtain rfl := Option.some.inj present
          obtain ⟨patched, still⟩ := Stands.perform ⟨held, first⟩ performed meant
          rw [List.set_cons_zero, List.set_cons_zero, List.flatMap_cons]
          refine ⟨by simpa only [List.append_assoc] using patched, .cons still ?_⟩
          rwa [Sample.length_perform meant]
      | succ index =>
          rw [← List.append_assoc] at held
          obtain ⟨patched, still⟩ := ih held (by rw [List.length_append]) found present
          rw [List.set_cons_succ, List.set_cons_succ, List.flatMap_cons]
          exact ⟨by simpa only [List.append_assoc] using patched, .cons first still⟩

theorem length_patch {samples changed : List Sample} {operation : Operation}
    (meant : patch samples operation = some changed) :
    (sampleOctets changed).length = (sampleOctets samples).length := by
  obtain ⟨index, own, sample, patched, rfl, present, spoken, rfl⟩ := patch_eq_some meant
  obtain ⟨bound, rfl⟩ := List.getElem?_eq_some_iff.mp present
  rw [sampleOctets, sampleOctets, List.length_flatMap, List.length_flatMap, List.map_set,
    Sample.length_perform spoken, ← @List.map_set _ _ fun sample : Sample =>
      sample.octets.length, List.set_getElem_self]

/-- A call that is about a sample does not fail. -/
theorem ASDU.Placed.performs {asdu : ASDU} {position : Nat} {sample changed : Sample}
    (placed : asdu.Placed position sample) {operation : ASDU.Operation}
    (meant : sample.perform operation = some changed) (buffer : Memory) :
    ∃ result, asdu.perform buffer operation = some result := by
  cases operation with
  | setData index value =>
      rw [ASDU.perform, setData, placed.dataBuffer]
      exact ⟨_, rfl⟩
  | setSmpSynch smpSynch =>
      rw [ASDU.perform, setSmpSynch, placed.smpSynchBuf]
      exact ⟨_, rfl⟩
  | increaseSmpCnt =>
      obtain ⟨limited, _⟩ := Sample.perform_increaseSmpCnt meant
      rw [ASDU.perform, increaseSmpCnt, placed.smpCntLimit, if_neg limited]
      exact ⟨_, rfl⟩
  | _ => exact ⟨_, rfl⟩

/-- What an ASDU does when it is called is meant for its sample. -/
theorem ASDU.Placed.meant {asdu : ASDU} {position : Nat} {sample : Sample}
    (placed : asdu.Placed position sample) {operation : ASDU.Operation}
    (fits : ∀ index value, operation = .setData index value →
      index + value.octets.length ≤ sample.data.length) {buffer : Memory}
    {result : ASDU × Memory} (performed : asdu.perform buffer operation = some result) :
    ∃ changed, sample.perform operation = some changed := by
  cases operation with
  | setData index value => exact ⟨_, if_pos (fits index value rfl)⟩
  | increaseSmpCnt =>
      rw [ASDU.perform, increaseSmpCnt, Option.ite_none_left_eq_some, placed.smpCntLimit]
        at performed
      exact ⟨_, if_neg performed.1⟩
  | _ => exact ⟨_, rfl⟩

theorem PlacedAll.get {position : Nat} {asdus : List ASDU} {samples : List Sample}
    (placed : PlacedAll position asdus samples) {index : Nat} {sample : Sample}
    (present : samples[index]? = some sample) :
    ∃ asdu place, asdus[index]? = some asdu ∧ asdu.Placed place sample ∧
      place + sample.octets.length ≤ position + (sampleOctets samples).length := by
  induction placed generalizing index with
  | nil => simp at present
  | cons first rest ih =>
      rw [sampleOctets, List.flatMap_cons, List.length_append]
      cases index with
      | zero =>
          obtain rfl := Option.some.inj present
          exact ⟨_, _, rfl, first, by omega⟩
      | succ index =>
          obtain ⟨asdu, place, found, stands, below⟩ := ih present
          rw [sampleOctets] at below
          exact ⟨asdu, place, found, stands, by omega⟩

section Calls

variable {self : SVPublisher} {header : List UInt8} {number : UInt32}
variable {samples changed : List Sample}

theorem Ready.perform (ready : self.Ready header number samples) {operation : Operation}
    (meant : patch samples operation = some changed) :
    ∃ after, self.perform operation = some after ∧ after.Ready header number changed := by
  obtain ⟨held, ends, placed⟩ := ready
  have same := length_patch meant
  obtain ⟨index, own, sample, patched, rfl, present, spoken, rfl⟩ := patch_eq_some meant
  obtain ⟨asdu, _, found, stands, _⟩ := placed.get present
  obtain ⟨result, performed⟩ := stands.performs spoken self.buffer
  obtain ⟨octets, places⟩ := @PlacedAll.perform _ _ _ placed self.buffer _ []
    (by simpa using held) rfl _ _ _ _ found present _ _ performed spoken
  rw [List.append_nil] at octets
  refine ⟨_, by rw [SVPublisher.perform, found, Option.bind_eq_bind, Option.bind_some,
    performed]; rfl, ?_⟩
  exact ⟨by rw [same]; exact octets, by rw [same]; exact ends, by rw [same]; exact places⟩

/-- Calls on ASDUs change what the frame says, and nothing else. -/
theorem Ready.performAll (ready : self.Ready header number samples) {operations : List Operation}
    (meant : patchAll samples operations = some changed) :
    ∃ after, self.performAll operations = some after ∧ after.Ready header number changed := by
  induction operations generalizing self samples with
  | nil =>
      obtain rfl := Option.some.inj meant
      exact ⟨self, rfl, ready⟩
  | cons operation rest ih =>
      obtain ⟨next, spoken, others⟩ := Option.bind_eq_some_iff.mp meant
      obtain ⟨middle, performed, still⟩ := ready.perform spoken
      obtain ⟨after, later, ended⟩ := ih still others
      refine ⟨after, ?_, ended⟩
      rw [SVPublisher.performAll, performed]
      exact later

theorem length_patchAll {operations : List Operation}
    (meant : patchAll samples operations = some changed) :
    changed.length = samples.length ∧
      (sampleOctets changed).length = (sampleOctets samples).length := by
  induction operations generalizing samples with
  | nil =>
      obtain rfl := Option.some.inj meant
      exact ⟨rfl, rfl⟩
  | cons operation rest ih =>
      obtain ⟨next, spoken, others⟩ := Option.bind_eq_some_iff.mp meant
      obtain ⟨count, octets⟩ := ih others
      refine ⟨count.trans ?_, octets.trans (length_patch spoken)⟩
      obtain ⟨_, _, _, _, _, _, _, rfl⟩ := patch_eq_some spoken
      exact List.length_set

/-- Calls on ASDUs keep the length of the frame. -/
theorem Ready.fits_after (ready : self.Ready header number samples) (fits : self.Fits)
    {operations : List Operation} (meant : patchAll samples operations = some changed)
    {after : SVPublisher} (ended : after.Ready header number changed) : after.Fits := by
  rwa [Fits, ready.ends, ← (length_patchAll meant).2, ← ended.ends] at fits

end Calls

/-! ## Runs -/

/-- A publisher that was created and configured and can be set up: its frame fits. -/
structure SetUp (parameters : CommParameters) (srcAddr : Octets 6) (useVlanTag : Bool)
    (publisher : SVPublisher) : Prop where
  created : ∃ found configuration, .setupComplete ∉ configuration ∧
    (createEx parameters srcAddr useVlanTag found).performAll configuration = some publisher
  fits : publisher.setupComplete.value.Fits

section Runs

variable {parameters : CommParameters} {srcAddr : Octets 6} {useVlanTag : Bool}
variable {publisher : SVPublisher}

theorem SetUp.configured (setUp : SetUp parameters srcAddr useVlanTag publisher) :
    publisher.Configured (frameHeader [0x88, 0xba] parameters srcAddr useVlanTag) := by
  obtain ⟨found, configuration, others, performed⟩ := setUp.created
  exact (configured_createEx parameters srcAddr useVlanTag found).performAll others performed

/-- The frame says what was configured. -/
theorem SetUp.encodedAs (setUp : SetUp parameters srcAddr useVlanTag publisher) :
    List.Forall₂ ASDU.EncodedAs publisher.asduList publisher.setupComplete.value.samples :=
  (setUp.configured.setupComplete setUp.fits).1

/-- After any calls on the ASDUs the frame says what was set. -/
theorem SetUp.performAll (setUp : SetUp parameters srcAddr useVlanTag publisher)
    {patches : List Operation} {ended : List Sample}
    (meant : patchAll publisher.setupComplete.value.samples patches = some ended) :
    ∃ after, publisher.setupComplete.value.performAll patches = some after ∧
      after.Ready (frameHeader [0x88, 0xba] parameters srcAddr useVlanTag)
        (UInt32.ofNat publisher.asduList.length) ended ∧ after.Fits := by
  obtain ⟨_, ready⟩ := setUp.configured.setupComplete setUp.fits
  obtain ⟨after, performed, ended⟩ := ready.performAll meant
  exact ⟨after, performed, ended, ready.fits_after setUp.fits meant ended⟩

theorem SetUp.reached (setUp : SetUp parameters srcAddr useVlanTag publisher)
    {patches : List Operation} {ended : List Sample}
    (meant : patchAll publisher.setupComplete.value.samples patches = some ended)
    {after : SVPublisher}
    (performed : publisher.setupComplete.value.performAll patches = some after) :
    after.Ready (frameHeader [0x88, 0xba] parameters srcAddr useVlanTag)
      (UInt32.ofNat publisher.asduList.length) ended ∧ after.Fits := by
  obtain ⟨_, same, reached⟩ := setUp.performAll meant
  obtain rfl := Option.some.inj (performed.symm.trans same)
  exact reached

/-- The number of samples is the number of ASDUs. -/
theorem SetUp.length_eq (setUp : SetUp parameters srcAddr useVlanTag publisher)
    {patches : List Operation} {ended : List Sample}
    (meant : patchAll publisher.setupComplete.value.samples patches = some ended) :
    publisher.asduList.length = ended.length :=
  setUp.encodedAs.length_eq.trans (length_patchAll meant).1.symm

end Runs

end GridGooseSV.SVPublisher
