import GridGooseSV.Mms.LengthPass
import GridGooseSV.Sv.Setup

/-!
# The limits of an encoded frame

`SVPublisher_setupComplete` encodes whatever ASDUs there are and compares nothing with the size
of the buffer. It stays inside the buffer if and only if the frame does, whose length is known
from the ASDUs.
-/

namespace GridGooseSV.SVPublisher

open BerEncoder BerDecoder

/-- The octets of an element with so many content octets. -/
def elementLength (content : Nat) : Nat := 1 + lengthOctets content + content

/-- The content octets of an encoded ASDU. -/
def ASDU.contentLength (self : ASDU) : Nat :=
  elementLength self.svID.val.length +
  (match self.datset with
    | some datset => elementLength datset.val.length
    | none => 0) +
  4 + 6 + (if self.hasRefrTm then 10 else 0) + 3 + (if self.hasSmpRate then 4 else 0) +
  elementLength self.dataSize + (if self.hasSmpMod then 4 else 0)

/-- The octets of encoded ASDUs. -/
def asdusLength (asdus : List ASDU) : Nat :=
  (asdus.map fun asdu => elementLength asdu.contentLength).sum

/-- The octets of the message of a publisher. -/
def messageLength (self : SVPublisher) : Nat :=
  elementLength (elementLength (unsignedOctets self.asduList.length) +
    elementLength (asdusLength self.asduList))

/-- The positions that are recorded in an ASDU lie below a limit, with the octets there. -/
structure ASDU.PlacedBelow (limit : Nat) (asdu : ASDU) : Prop where
  smpCntBuf : ∃ position, asdu.smpCntBuf = some position ∧ position + 2 ≤ limit
  refrTm : asdu.hasRefrTm = true →
    ∃ position, asdu.refrTm = some position ∧ position + 8 ≤ limit
  smpSynchBuf : ∃ position, asdu.smpSynchBuf = some position ∧ position + 1 ≤ limit
  dataBuffer : ∃ position, asdu.dataBuffer = some position ∧ position + asdu.dataSize ≤ limit

/-- Setting up stays inside the buffer. -/
structure StaysInside (publisher : SVPublisher) : Prop where
  writes : publisher.setupComplete.Always (Access.WritesWithin 0 svMaxMessageSize)
  positions : ∀ asdu ∈ publisher.setupComplete.value.asduList, asdu.PlacedBelow svMaxMessageSize
  payload : publisher.setupComplete.value.payloadStart +
    publisher.setupComplete.value.payloadLength ≤ svMaxMessageSize

/-! ## Positions -/

/-- The octets that encoding an ASDU goes over. -/
def ASDU.writtenLength (self : ASDU) : Nat :=
  self.frontOctets.length + self.numberOctets.length + self.timeOctets.length + self.timeSize +
    2 + self.middleOctets.length + self.dataSize + self.lastOctets.length

theorem ASDU.stop_encodeToBuffer (self : ASDU) (memory : Memory) (bufPos : Nat) :
    (self.encodeToBuffer memory bufPos).value.2.2 = bufPos + self.writtenLength := by
  rw [value_encodeToBuffer, writtenLength]
  dsimp only
  omega

theorem ASDU.always_encodeToBuffer (self : ASDU) (memory : Memory) {bufPos top : Nat}
    (within : bufPos + self.writtenLength ≤ top) :
    (self.encodeToBuffer memory bufPos).Always (Access.WritesWithin 0 top) := by
  have octets : ∀ (memory : Memory) {position : Nat} {given : List UInt8},
      position + given.length ≤ top →
      (memory.store position given).Always (Access.WritesWithin 0 top) := by
    intro memory position given fits
    exact Memory.always_store.mpr fun place _ below => ⟨Nat.zero_le _, by omega⟩
  have synch : (encodeTL 0x85 1).length = 2 := rfl
  have time : (encodeTL 0x84 8).length = 2 := rfl
  unfold writtenLength timeOctets timeSize at within
  unfold encodeToBuffer
  dsimp only
  refine (octets _ (show bufPos + self.frontOctets.length ≤ top by omega)).bind
    ((octets _ (show bufPos + self.frontOctets.length + self.numberOctets.length ≤ top by
      omega)).bind ?_)
  -- The fields behind the time are written alike, wherever it ends.
  have behind : ∀ (memory : Memory) (refrTm : Option Nat) (behindTime : Nat),
      behindTime + 2 + self.middleOctets.length + self.dataSize + self.lastOctets.length ≤ top →
      (do
        let memory ← memory.store behindTime (encodeTL 0x85 1)
        let memory ← memory.store (behindTime + 2) self.middleOctets
        let memory ← memory.store (behindTime + 2 + self.middleOctets.length + self.dataSize)
          self.lastOctets
        pure ({ self with
          smpCntBuf := some (bufPos + self.frontOctets.length)
          refrTm := refrTm
          smpSynchBuf := some (behindTime + 2)
          dataBuffer := some (behindTime + 2 + self.middleOctets.length) }, memory,
          behindTime + 2 + self.middleOctets.length + self.dataSize +
            self.lastOctets.length)).Always (Access.WritesWithin 0 top) := by
    intro memory refrTm behindTime fits
    exact (octets _ (by omega)).bind ((octets _ (by omega)).bind
      ((octets _ (by omega)).bind (Traced.always_pure _)))
  cases has : self.hasRefrTm with
  | true =>
      simp only [has, if_true, time] at within
      have fits : bufPos + self.frontOctets.length + self.numberOctets.length +
          (encodeTL 0x84 8).length ≤ top := by omega
      exact (octets _ fits).bind ((Traced.always_pure _).bind (behind _
        (some (bufPos + self.frontOctets.length + self.numberOctets.length + 2))
        (bufPos + self.frontOctets.length + self.numberOctets.length + 2 + 8) (by omega)))
  | false =>
      simp only [has, Bool.false_eq_true, if_false, List.length_nil] at within
      exact (Traced.always_pure _).bind (behind _ self.refrTm
        (bufPos + self.frontOctets.length + self.numberOctets.length) (by omega))

theorem ASDU.placedBelow_encodeToBuffer (self : ASDU) (memory : Memory) {bufPos limit : Nat}
    (within : bufPos + self.writtenLength ≤ limit) :
    (self.encodeToBuffer memory bufPos).value.1.PlacedBelow limit := by
  rw [value_encodeToBuffer]
  unfold writtenLength at within
  have numbers : self.numberOctets.length = 8 := by
    simp [numberOctets, encodeTL, encodeLength]
  have synch : 1 ≤ self.middleOctets.length := by
    rw [middleOctets, List.length_cons]
    omega
  refine ⟨⟨_, rfl, by omega⟩, fun has => ?_, ⟨_, rfl, by omega⟩, ⟨_, rfl, ?_⟩⟩
  · rw [timeSize, if_pos has] at within
    exact ⟨_, if_pos has, by omega⟩
  · dsimp only
    omega

theorem inside_encodeAllToBuffer {asdus : List ASDU} {memory : Memory} {bufPos limit : Nat}
    (within : bufPos + (asdus.map ASDU.writtenLength).sum ≤ limit) :
    (ASDU.encodeAllToBuffer memory bufPos asdus).Always (Access.WritesWithin 0 limit) ∧
      ∀ asdu ∈ (ASDU.encodeAllToBuffer memory bufPos asdus).value.1,
        asdu.PlacedBelow limit := by
  induction asdus generalizing memory bufPos with
  | nil => exact ⟨Traced.always_pure _, fun _ absent => absurd absent List.not_mem_nil⟩
  | cons asdu rest ih =>
      rw [List.map_cons, List.sum_cons] at within
      have stop := asdu.stop_encodeToBuffer memory bufPos
      obtain ⟨writes, positions⟩ := @ih (asdu.encodeToBuffer memory bufPos).value.2.1
        (asdu.encodeToBuffer memory bufPos).value.2.2 (by omega)
      refine ⟨(asdu.always_encodeToBuffer memory (by omega)).bind
        (writes.bind (Traced.always_pure _)), ?_⟩
      simp only [ASDU.encodeAllToBuffer, Traced.value_bind, Traced.value_pure]
      rw [List.forall_mem_cons]
      exact ⟨asdu.placedBelow_encodeToBuffer memory (by omega), positions⟩

theorem stop_encodeAllToBuffer {asdus : List ASDU} {memory : Memory} {bufPos : Nat} :
    (ASDU.encodeAllToBuffer memory bufPos asdus).value.2.2 =
      bufPos + (asdus.map ASDU.writtenLength).sum := by
  induction asdus generalizing memory bufPos with
  | nil => rfl
  | cons asdu rest ih =>
      simp only [ASDU.encodeAllToBuffer, Traced.value_bind, Traced.value_pure]
      rw [ih, asdu.stop_encodeToBuffer, List.map_cons, List.sum_cons, Nat.add_assoc]

/-! ## Lengths -/

/-- The length octets of a length that is not too long. -/
theorem lengthOctets_small {length : Nat} (small : length < 65535) :
    determineLengthSize length = lengthOctets length ∧
      (encodeLength length).length = lengthOctets length := by
  have written := length_encodeLength_eq (show length < 2 ^ 24 by omega) (by omega)
  exact ⟨(determineLengthSize_eq small).trans written, written⟩

/-- What is gone over, field by field. -/
theorem ASDU.writtenLength_eq (self : ASDU) : self.writtenLength =
    1 + (encodeLength self.getEncodedSize).length +
      (1 + (encodeLength self.svID.val.length).length + self.svID.val.length) +
      (match self.datset with
        | some datset => 1 + (encodeLength datset.val.length).length + datset.val.length
        | none => 0) +
      4 + 6 + (if self.hasRefrTm then 10 else 0) + 3 + (if self.hasSmpRate then 4 else 0) +
      (1 + (encodeLength self.dataSize).length) + self.dataSize +
      (if self.hasSmpMod then 4 else 0) := by
  have short : ∀ length < 128, (encodeLength length).length = 1 := by
    intro length small
    rw [encodeLength, if_pos small]
    rfl
  unfold writtenLength frontOctets numberOctets timeOctets timeSize middleOctets lastOctets
  cases self.datset <;> cases self.hasRefrTm <;> cases self.hasSmpRate <;>
    cases self.hasSmpMod <;>
    simp [encodeTL, encodeStringWithTag, short] <;> omega

/-- A short ASDU has the length that is known from what it says. -/
theorem ASDU.lengths {asdu : ASDU}
    (small : asdu.contentLength < 65535 ∨ asdu.writtenLength < 65535) :
    asdu.getEncodedSize = asdu.contentLength ∧
      asdu.writtenLength = elementLength asdu.contentLength ∧ asdu.contentLength < 65535 := by
  have written := asdu.writtenLength_eq
  have exact : asdu.getEncodedSize = asdu.contentLength ∧ asdu.writtenLength =
      1 + (encodeLength asdu.getEncodedSize).length + asdu.contentLength := by
    generalize (encodeLength asdu.getEncodedSize).length = field at written ⊢
    unfold contentLength elementLength at small ⊢
    have identifier := @lengthOctets_small asdu.svID.val.length (by omega)
    have data := @lengthOctets_small asdu.dataSize (by omega)
    rw [getEncodedSize]
    cases given : asdu.datset with
    | none =>
        simp only [given] at written ⊢
        omega
    | some datset =>
        simp only [given] at small written ⊢
        have name := @lengthOctets_small datset.val.length (by omega)
        omega
  obtain ⟨counted, written⟩ := exact
  rw [counted] at written
  have short : asdu.contentLength < 65535 := by omega
  rw [(lengthOctets_small short).2] at written
  exact ⟨counted, written, short⟩

theorem lengths_asdus {asdus : List ASDU}
    (small : asdusLength asdus < 65535 ∨ (asdus.map ASDU.writtenLength).sum < 65535) :
    (asdus.map fun asdu =>
        let asduLength := asdu.getEncodedSize
        asduLength + determineLengthSize asduLength + 1).sum = asdusLength asdus ∧
      (asdus.map ASDU.writtenLength).sum = asdusLength asdus ∧
      asdus.length ≤ asdusLength asdus := by
  induction asdus with
  | nil => exact ⟨rfl, rfl, Nat.le_refl 0⟩
  | cons asdu rest ih =>
      simp only [asdusLength, List.map_cons, List.sum_cons] at small ih ⊢
      have here : asdu.contentLength ≤ elementLength asdu.contentLength :=
        Nat.le_add_left _ _
      obtain ⟨counted, written, short⟩ := @ASDU.lengths asdu (by omega)
      obtain ⟨countedRest, writtenRest, number⟩ := ih (by omega)
      have size := (lengthOctets_small short).1
      refine ⟨?_, by rw [written, writtenRest], ?_⟩
      · rw [counted, countedRest, size, elementLength]
        omega
      · rw [List.length_cons, elementLength]
        omega

/-! ## Setting up -/

/-- Where the length field and the payload stand in the buffer. -/
structure Framed (publisher : SVPublisher) : Prop where
  lengthField : publisher.lengthField + 6 = publisher.payloadStart
  header : 14 ≤ publisher.payloadStart
  payloadStart : publisher.payloadStart ≤ 26

section Framed

variable {self after : SVPublisher}

theorem framed_createEx (parameters : CommParameters) (srcAddr : Octets 6) (useVlanTag : Bool)
    (found : Memory) : (createEx parameters srcAddr useVlanTag found).Framed := by
  have length : 16 ≤ (frameHeader [0x88, 0xba] parameters srcAddr useVlanTag).length ∧
      (frameHeader [0x88, 0xba] parameters srcAddr useVlanTag).length ≤ 20 := by
    cases useVlanTag <;>
      simp [frameHeader, vlanTag, parameters.dstAddress.property, srcAddr.property]
  have start : (createEx parameters srcAddr useVlanTag found).payloadStart =
      (frameHeader [0x88, 0xba] parameters srcAddr useVlanTag).length + 6 := rfl
  exact ⟨rfl, by omega, by omega⟩

theorem Framed.perform (framed : self.Framed) {operation : Operation}
    (performed : self.perform operation = some after) : after.Framed := by
  cases operation with
  | onASDU index operation =>
      obtain ⟨_, _, _, _, rfl⟩ := of_perform_onASDU performed
      exact ⟨framed.lengthField, framed.header, framed.payloadStart⟩
  | _ =>
      obtain rfl := Option.some.inj performed
      exact ⟨framed.lengthField, framed.header, framed.payloadStart⟩

theorem Framed.performAll (framed : self.Framed) {operations : List Operation}
    (performed : self.performAll operations = some after) : after.Framed := by
  induction operations generalizing self with
  | nil =>
      obtain rfl := Option.some.inj performed
      exact framed
  | cons operation rest ih =>
      obtain ⟨next, first, others⟩ := Option.bind_eq_some_iff.mp performed
      exact ih (framed.perform first) others

/-- The octets that setting up goes over. -/
def writtenLength (self : SVPublisher) : Nat :=
  (pduFront (UInt32.ofNat self.asduList.length) self.totalASDULength).length +
    (self.asduList.map ASDU.writtenLength).sum

theorem payloadLength_setupComplete (self : SVPublisher) :
    self.setupComplete.value.payloadLength = self.writtenLength := by
  rw [value_setupComplete, writtenLength]
  dsimp only
  rw [stop_encodeAllToBuffer]
  omega

/-- Setting up stays inside the buffer if its payload does. -/
theorem Framed.staysInside_iff_payload (framed : self.Framed) :
    self.StaysInside ↔ self.payloadStart + self.writtenLength ≤ svMaxMessageSize := by
  have length := self.payloadLength_setupComplete
  have start : self.setupComplete.value.payloadStart = self.payloadStart := rfl
  constructor
  · intro inside
    rw [← length, ← start]
    exact inside.payload
  · intro fits
    have within := fits
    rw [writtenLength, ← Nat.add_assoc] at within
    obtain ⟨lengthField, _, payloadStart⟩ := framed
    have limit : svMaxMessageSize = 1518 := rfl
    have octets : ∀ (memory : Memory) {position : Nat} {given : List UInt8},
        position + given.length ≤ svMaxMessageSize →
        (memory.store position given).Always (Access.WritesWithin 0 svMaxMessageSize) := by
      intro memory position given fits
      exact Memory.always_store.mpr fun place _ below => ⟨Nat.zero_le _, by omega⟩
    obtain ⟨writes, positions⟩ := @inside_encodeAllToBuffer self.asduList
      (self.buffer.put self.payloadStart
        (pduFront (UInt32.ofNat self.asduList.length) self.totalASDULength)) _ _ within
    refine ⟨?_, positions, by rw [length, start]; exact fits⟩
    refine (octets _ (Nat.le_of_add_right_le within)).bind (writes.bind
      ((octets _ ?_).bind (Traced.always_pure _)))
    simp only [List.length_cons, List.length_nil]
    omega

/-- A short message has the length that is known from the ASDUs. -/
theorem writtenLength_eq_messageLength
    (small : self.messageLength < 65535 ∨ self.writtenLength < 65535) :
    self.writtenLength = self.messageLength := by
  have sequence : asdusLength self.asduList < 65535 ∨
      (self.asduList.map ASDU.writtenLength).sum < 65535 := by
    unfold messageLength elementLength writtenLength at small
    omega
  obtain ⟨total, written, number⟩ := lengths_asdus sequence
  have counted : self.totalASDULength = asdusLength self.asduList := total
  have entries : uInt32determineEncodedSize (UInt32.ofNat self.asduList.length) =
      unsignedOctets self.asduList.length := by
    rw [uInt32determineEncodedSize_eq, UInt32.toNat_ofNat', Nat.mod_eq_of_lt (by omega)]
  have few : unsignedOctets self.asduList.length ≤ 5 := by
    rw [← entries]
    exact uInt32determineEncodedSize_le _
  have one : lengthOctets (unsignedOctets self.asduList.length) = 1 := if_pos (by omega)
  have field : ∀ tag length, (encodeTL tag length).length = 1 + (encodeLength length).length := by
    intro tag length
    rw [encodeTL, List.length_cons, Nat.add_comm]
  obtain ⟨countedSequence, writtenSequence⟩ :=
    @lengthOctets_small (asdusLength self.asduList) (by omega)
  unfold messageLength writtenLength pduFront elementLength at *
  simp only [List.length_append, field, length_encodeUInt32WithTL, entries,
    counted, written, countedSequence, writtenSequence, one] at small ⊢
  have inner : 2 + unsignedOctets self.asduList.length +
      (1 + lengthOctets (asdusLength self.asduList) + asdusLength self.asduList) =
        1 + 1 + unsignedOctets self.asduList.length +
          (1 + lengthOctets (asdusLength self.asduList) + asdusLength self.asduList) := rfl
  rw [inner] at small ⊢
  rw [(lengthOctets_small (by omega)).2]
  omega

/-- Setting up stays inside the buffer if the frame does. -/
theorem Framed.staysInside_iff_message (framed : self.Framed) :
    self.StaysInside ↔ self.payloadStart + self.messageLength ≤ svMaxMessageSize := by
  have start := framed.payloadStart
  have limit : svMaxMessageSize = 1518 := rfl
  rw [framed.staysInside_iff_payload]
  constructor
  · intro fits
    rwa [← writtenLength_eq_messageLength (.inr (by omega))]
  · intro fits
    rwa [writtenLength_eq_messageLength (.inl (by omega))]

/-- Setting up stays inside the buffer, whatever calls led to the ASDUs, if and only if the whole
frame has at most 1518 octets. -/
theorem staysInside_iff {parameters : CommParameters} {srcAddr : Octets 6} {useVlanTag : Bool}
    {found : Memory} {operations : List Operation}
    (run : (createEx parameters srcAddr useVlanTag found).performAll operations = some self) :
    self.StaysInside ↔ self.payloadStart + self.messageLength ≤ svMaxMessageSize :=
  ((framed_createEx parameters srcAddr useVlanTag found).performAll run).staysInside_iff_message

end Framed

/-- One ASDU with a data block of numbers of 8 octets. -/
def numbers (count : Nat) : List Operation :=
  .addASDU ⟨[0x41], zero_notMem_a⟩ none 1 :: List.replicate count (.onASDU 0 .addINT64)

theorem staysInside_numbers :
    ∃ self, (createEx .svDefault Octets.zero true fun _ => 0).performAll (numbers 2) =
        some self ∧
      (self.StaysInside ↔ self.payloadStart + self.messageLength ≤ svMaxMessageSize) := by
  obtain ⟨self, run⟩ : ∃ self,
      (createEx .svDefault Octets.zero true fun _ => 0).performAll (numbers 2) = some self :=
    ⟨_, rfl⟩
  exact ⟨self, run, staysInside_iff run⟩

/-- A data block of 190 numbers is longer than the buffer. -/
theorem setupComplete_overruns :
    ∃ self, (createEx .svDefault Octets.zero true fun _ => 0).performAll (numbers 190) =
        some self ∧ ¬ self.StaysInside := by
  have long : ((createEx .svDefault Octets.zero true fun _ => 0).performAll (numbers 190)).map
      (fun self => decide (self.setupComplete.value.payloadStart +
        self.setupComplete.value.payloadLength ≤ svMaxMessageSize)) = some false := by
    decide +kernel
  obtain ⟨self, run, exceeds⟩ := Option.map_eq_some_iff.mp long
  exact ⟨self, run, fun inside => of_decide_eq_false exceeds inside.payload⟩

end GridGooseSV.SVPublisher
