import GridGooseSV.Goose.Publishing
import GridGooseSV.Sv.Bounds
import GridGooseSV.Sv.Delivery
import GridGooseSV.Sv.Isolation
import GridGooseSV.Sv.Selection

/-!
# Frames from a publisher to a listener

A frame with a VLAN tag is what the receiver expects: the samples that it says are handed
over one by one, in their order. A frame without a tag is passed over.
-/

namespace GridGooseSV

open BerDecoder BerEncoder
open GoosePublisher (tagControl)

/-- What stands behind a front of the octets that are held. -/
theorem Memory.Holds.drop {memory : Memory} {given : List UInt8} (held : memory.Holds 0 given)
    {count : Nat} (inside : count ≤ given.length) :
    memory.octets count (given.length - count) = given.drop count := by
  rw [← List.take_append_drop count given, Memory.holds_append, List.length_take,
    Nat.min_eq_left inside, Nat.zero_add] at held
  have rest := held.2.octets
  rwa [List.length_drop] at rest

/-! ## Sequences -/

section Sequence

variable {memory : Memory} {encode : Nat → List UInt8}

/-- An ASDU that ends with something else than a string does not spill. -/
theorem not_spills_writtenASDU (reads : ReadsBack encode) {address : Nat}
    {front : List (UInt8 × List UInt8)} {tag : UInt8} {content : List UInt8}
    (held : memory.Holds address (tlv encode 0x30 (tlvs encode (front ++ [(tag, content)]))))
    (small : (tlvs encode (front ++ [(tag, content)])).length < 2 ^ 16)
    (svId : tag ≠ 0x80) (datSet : tag ≠ 0x81) :
    ¬ Spills memory (writtenASDU encode address (front ++ [(tag, content)])) := by
  rintro ⟨string, last, ends⟩
  have parts := (scan_writtenASDU reads held small).2
  have within := @asduParts_within memory
    (writtenASDU encode address (front ++ [(tag, content)]))
  have apart : (asduParts memory (writtenASDU encode address (front ++ [(tag, content)]))).Pairwise
      fun first second => first.address + first.length < second.address := elements_pairwise
  have member : string ∈ asduParts memory (writtenASDU encode address (front ++ [(tag, content)])) ∧
      string.tag ≠ tag := by
    rcases last with last | last
    · exact ⟨(mem_of_lastOf last).1, (mem_of_lastOf last).2 ▸ svId.symm⟩
    · exact ⟨(mem_of_lastOf last).1, (mem_of_lastOf last).2 ▸ datSet.symm⟩
  generalize writtenASDU encode address (front ++ [(tag, content)]) = asdu at *
  rw [parts, writtenElements_append] at member apart within
  obtain ⟨member, other⟩ := member
  have final := within _ (List.mem_append_right _ List.mem_cons_self)
  rcases List.mem_append.mp member with member | member
  · have before := (List.pairwise_append.mp apart).2.2 string member _ List.mem_cons_self
    omega
  · rw [writtenElements, writtenElements, List.mem_singleton] at member
    exact other (by rw [member])

/-- The ASDUs of a sequence that was encoded stand within it. -/
theorem forall_written {address : Nat} {asdus : List (List (UInt8 × List UInt8))}
    (held : memory.Holds address (tlvs encode (asduItems encode asdus))) :
    ∀ element ∈ writtenElements encode address (asduItems encode asdus),
      ∃ items ∈ asdus, ∃ place, element = writtenASDU encode place items ∧
        memory.Holds place (tlv encode 0x30 (tlvs encode items)) ∧
        element.address + element.length ≤
          address + (tlvs encode (asduItems encode asdus)).length := by
  induction asdus generalizing address with
  | nil => simp [asduItems, writtenElements]
  | cons items rest ih =>
      obtain ⟨first, others⟩ := Memory.holds_append.mp held
      have size : (tlvs encode (asduItems encode (items :: rest))).length =
          (tlv encode 0x30 (tlvs encode items)).length +
            (tlvs encode (asduItems encode rest)).length := by
        rw [asduItems, List.map_cons, tlvs, List.length_append]
        rfl
      intro element member
      rcases List.mem_cons.mp member with rfl | member
      · refine ⟨items, List.mem_cons_self, address, rfl, first, ?_⟩
        rw [size, length_tlv]
        simp only
        omega
      · obtain ⟨later, present, place, same, stands, within⟩ := ih others element member
        refine ⟨later, List.mem_cons_of_mem _ present, place, same, stands, ?_⟩
        change _ ≤ address + (tlv encode 0x30 (tlvs encode items)).length + _ at within
        omega

/-- An ASDU is shorter than its sequence. -/
theorem length_le_of_mem (encode : Nat → List UInt8) {asdus : List (List (UInt8 × List UInt8))}
    {items : List (UInt8 × List UInt8)} (member : items ∈ asdus) :
    (tlvs encode items).length ≤ (tlvs encode (asduItems encode asdus)).length := by
  induction asdus with
  | nil => contradiction
  | cons first rest ih =>
      rw [asduItems, List.map_cons, tlvs, List.length_append, length_tlv]
      rcases List.mem_cons.mp member with rfl | member
      · omega
      · have shorter := ih member
        rw [asduItems] at shorter
        omega

/-- All ASDUs of a sequence that was encoded are handed over if none of them spills. -/
theorem sequenceASDUs_written (reads : ReadsBack encode) {address : Nat}
    {asdus : List (List (UInt8 × List UInt8))}
    (held : memory.Holds address (tlvs encode (asduItems encode asdus)))
    (small : ∀ items ∈ asdus, (tlvs encode items).length < 2 ^ 16)
    (ends : ∀ items ∈ asdus, ∃ front tag content, items = front ++ [(tag, content)] ∧
      tag ≠ 0x80 ∧ tag ≠ 0x81) :
    (sequenceASDUs memory false (writtenElements encode address (asduItems encode asdus))).1 =
      writtenElements encode address (asduItems encode asdus) := by
  have written := forall_written held
  rw [sequenceASDUs_contained]
  · apply List.filter_eq_self.mpr
    intro element member
    obtain ⟨items, present, place, rfl, stands, _⟩ := written element member
    exact decide_eq_true (scan_writtenASDU reads stands (small items present)).1
  · intro element member _
    obtain ⟨items, present, place, rfl, stands, _⟩ := written element member
    have short := small items present
    obtain ⟨front, tag, content, rfl, svId, datSet⟩ := ends items present
    exact not_spills_writtenASDU reads stands short svId datSet

/-- The calls about a sequence that was encoded carry the items, in their order. -/
theorem carries_of_reports (reads : ReadsBack encode) {address index : Nat}
    {asdus : List (List (UInt8 × List UInt8))}
    (held : memory.Holds address (tlvs encode (asduItems encode asdus)))
    (small : ∀ items ∈ asdus, (tlvs encode items).length < 2 ^ 16) {calls : List SVCall}
    (reports : List.Forall₂ (SVCall.Reports memory index)
      (writtenElements encode address (asduItems encode asdus)) calls) :
    List.Forall₂ (fun items call => call.subscriber = index ∧ call.Carries items) asdus calls := by
  induction asdus generalizing address calls with
  | nil =>
      cases reports
      exact .nil
  | cons items rest ih =>
      obtain ⟨first, others⟩ := Memory.holds_append.mp held
      rw [asduItems, List.map_cons, writtenElements] at reports
      cases reports with
      | cons report later =>
          refine .cons ⟨report.subscriber, report.carries reads first ?_⟩ (ih others ?_ later)
          · exact small items List.mem_cons_self
          · exact fun items member => small items (List.mem_cons_of_mem _ member)

end Sequence

namespace SVPublisher

/-- A sample ends with its data or with its mode. -/
theorem Sample.items_last (self : Sample) :
    ∃ front tag content, self.items = front ++ [(tag, content)] ∧ tag ≠ 0x80 ∧ tag ≠ 0x81 := by
  cases has : self.smpMod with
  | none =>
      obtain ⟨front, split⟩ := List.getLast?_eq_some_iff.mp
        (show self.items.getLast? = some (0x87, self.data) by
          simp [items, has, List.getLast?_append, List.getLast?_cons])
      exact ⟨front, _, _, split, by decide, by decide⟩
  | some smpMod =>
      obtain ⟨front, split⟩ := List.getLast?_eq_some_iff.mp
        (show self.items.getLast? = some (0x88, encodeUInt16FixedSize smpMod.toUInt16) by
          simp [items, has, List.getLast?_append, List.getLast?_cons])
      exact ⟨front, _, _, split, by decide, by decide⟩

/-- Samples that are encoded are the elements of a sequence. -/
theorem sampleOctets_eq {samples : List Sample} (small : (sampleOctets samples).length < 65535) :
    sampleOctets samples =
      tlvs encodeLength (asduItems encodeLength (samples.map Sample.items)) := by
  induction samples with
  | nil => rfl
  | cons sample rest ih =>
      simp only [sampleOctets, List.flatMap_cons, List.length_append] at small ih ⊢
      rw [Sample.octets_eq (by omega), ih (by omega)]
      rfl

/-- What is encoded is a PDU. -/
theorem pduFront_append (number : UInt32) {samples : List Sample}
    (small : (sampleOctets samples).length < 65535) :
    pduFront number (sampleOctets samples).length ++ sampleOctets samples =
      svPayload encodeLength [(0x80, encodeUInt32 number)] (samples.map Sample.items) := by
  have octets := sampleOctets_eq small
  rw [pduFront, svPayload, encodeUInt32WithTL_eq, determineLengthSize_eq small, ← octets]
  have size : (tlvs encodeLength ([(0x80, encodeUInt32 number)] ++
      [(0xa2, sampleOctets samples)])).length =
      2 + uInt32determineEncodedSize number +
        (1 + (encodeLength (sampleOctets samples).length).length +
          (sampleOctets samples).length) := by
    have short := uInt32determineEncodedSize_le number
    have one : (encodeLength (uInt32determineEncodedSize number)).length = 1 := by
      rw [encodeLength, if_pos (by omega)]
      rfl
    simp only [List.cons_append, List.nil_append, tlvs, List.append_nil, List.length_append,
      length_tlv, length_encodeUInt32, one]
  simp only [tlv]
  rw [size]
  simp only [encodeTL, List.cons_append, List.nil_append, tlvs, tlv, List.append_nil,
    List.append_assoc]

section Ready

variable {self : SVPublisher} {header : List UInt8} {number : UInt32} {samples : List Sample}

/-- The PDU of a frame. -/
def framePdu (number : UInt32) (samples : List Sample) : List UInt8 :=
  svPayload encodeLength [(0x80, encodeUInt32 number)] (samples.map Sample.items)

/-- A PDU without room for an ASDU has none. -/
theorem eq_nil_of_short (short : (framePdu number samples).length < 10) : samples = [] := by
  cases samples with
  | nil => rfl
  | cons sample rest =>
      obtain ⟨front, tag, content, items, _⟩ := sample.items_last
      have several : 0 < sample.items.length := by
        rw [items, List.length_append]
        exact Nat.succ_pos _
      have asdu := length_tlvs_ge sample.items
      have first := length_tlv_ge 0x30 (tlvs encodeLength sample.items)
      have inside : (tlv encodeLength 0x30 (tlvs encodeLength sample.items)).length ≤
          (tlvs encodeLength (asduItems encodeLength
            ((sample :: rest).map Sample.items))).length := by
        rw [List.map_cons, asduItems, List.map_cons, tlvs, List.length_append]
        exact Nat.le_add_right _ _
      rw [framePdu, svPayload] at short
      generalize tlvs encodeLength (asduItems encodeLength _) = sequence at *
      have count := length_tlv_ge 0x80 (encodeUInt32 number)
      have last := length_tlv_ge 0xa2 sequence
      have whole := length_tlv_ge 0x60
        (tlvs encodeLength ([(0x80, encodeUInt32 number)] ++ [(0xa2, sequence)]))
      have parts :
          (tlvs encodeLength ([(0x80, encodeUInt32 number)] ++ [(0xa2, sequence)])).length =
          (tlv encodeLength 0x80 (encodeUInt32 number)).length +
            (tlv encodeLength 0xa2 sequence).length := by
        rw [tlvs_append, tlvs, tlvs, List.append_nil, tlvs, tlvs, List.append_nil,
          List.length_append]
      omega

/-- The frame of a publisher that is set up: its header, the length and the PDU. -/
theorem Ready.frame (ready : self.Ready header number samples) (fits : self.Fits) :
    let pdu := framePdu number samples
    self.buffer.Holds 0 (header ++ ([UInt8.ofNat ((pdu.length + 8) / 256),
      UInt8.ofNat ((pdu.length + 8) % 256)] ++ ([0x00, 0x00, 0x00, 0x00] ++ pdu))) ∧
      self.payloadStart + self.payloadLength = header.length + 6 + pdu.length := by
  obtain ⟨held, ends, _⟩ := ready
  rw [Fits, ends] at fits
  have pdu := @pduFront_append number samples (by rw [svMaxMessageSize] at fits; omega)
  have size := congrArg List.length pdu
  rw [List.length_append] at size
  have octets : frameFront header number (sampleOctets samples).length ++ sampleOctets samples =
      header ++ ([UInt8.ofNat (((framePdu number samples).length + 8) / 256),
        UInt8.ofNat (((framePdu number samples).length + 8) % 256)] ++
          ([0x00, 0x00, 0x00, 0x00] ++ framePdu number samples)) := by
    rw [frameFront, framePdu, ← size, ← pdu]
    simp only [List.append_assoc]
  have length := congrArg List.length octets
  rw [List.length_append] at length
  simp only [List.length_append, List.length_cons, List.length_nil] at length
  rw [octets] at held
  exact ⟨held, by omega⟩

/-- What a publisher sends: its frame, but for the octets that the socket keeps. -/
theorem Ready.publish (ready : self.Ready header number samples) (fits : self.Fits)
    (long : 14 ≤ header.length) :
    let pdu := framePdu number samples
    self.publish = (header ++ ([UInt8.ofNat ((pdu.length + 8) / 256),
      UInt8.ofNat ((pdu.length + 8) % 256)] ++ ([0x00, 0x00, 0x00, 0x00] ++ pdu))).drop 14 ∧
      header.length + 6 + pdu.length ≤ svMaxMessageSize := by
  obtain ⟨held, ends⟩ := ready.frame fits
  rw [Fits, ends] at fits
  refine ⟨?_, fits⟩
  have sent := @Memory.Holds.drop _ _ held 14 (by rw [List.length_append]; omega)
  have length : (header ++ ([UInt8.ofNat (((framePdu number samples).length + 8) / 256),
      UInt8.ofNat (((framePdu number samples).length + 8) % 256)] ++ ([0x00, 0x00, 0x00, 0x00] ++
        framePdu number samples))).length = self.payloadStart + self.payloadLength := by
    rw [ends]
    simp only [List.length_append, List.length_cons, List.length_nil]
    omega
  rw [← sent, length]
  rfl

variable {parameters : CommParameters} {srcAddr : Octets 6}

theorem drop_frameHeader (parameters : CommParameters) (srcAddr : Octets 6) (useVlanTag : Bool)
    (rest : List UInt8) :
    (frameHeader [0x88, 0xba] parameters srcAddr useVlanTag ++ rest).drop 12 =
      (if useVlanTag then vlanTag parameters else []) ++
        ([0x88, 0xba, highOctet parameters.appId, lowOctet parameters.appId] ++ rest) := by
  have addresses : (parameters.dstAddress.val ++ srcAddr.val).length = 12 := by
    simp [parameters.dstAddress.property, srcAddr.property]
  rw [frameHeader, List.append_assoc, List.append_assoc, List.append_assoc]
  rw [List.drop_left' addresses]
  rfl

/-- What a publisher sends if it uses a VLAN tag. -/
theorem Ready.publish_tagged
    (ready : self.Ready (frameHeader [0x88, 0xba] parameters srcAddr true) number samples)
    (fits : self.Fits) :
    let pdu := framePdu number samples
    self.publish = svFrame (tagControl parameters) parameters.appId
        (UInt16.ofNat (pdu.length + 8)) pdu ∧
      pdu.length + 26 ≤ svMaxMessageSize := by
  have length : (frameHeader [0x88, 0xba] parameters srcAddr true).length = 20 := by
    simp [frameHeader, vlanTag, parameters.dstAddress.property, srcAddr.property]
  obtain ⟨sent, size⟩ := ready.publish fits (by omega)
  simp only at sent ⊢
  generalize framePdu number samples = pdu at *
  refine ⟨?_, by omega⟩
  have number : (UInt16.ofNat (pdu.length + 8)).toNat = pdu.length + 8 := by
    rw [UInt16.toNat_ofNat', Nat.mod_eq_of_lt]
    rw [svMaxMessageSize] at size
    omega
  rw [sent, ← @List.drop_drop _ 2 12, drop_frameHeader]
  simp only [svFrame, tagControl, vlanTag, highOctet, lowOctet, number, if_pos]
  rfl

/-- The ASDUs that are handed over of a PDU are its samples, and none spills. -/
theorem svASDUs_framePdu {memory : Memory} {buffer : Nat}
    (held : memory.Holds buffer (framePdu number samples))
    (small : (framePdu number samples).length < 2 ^ 16) {apduLength : Int}
    (apdu : apduLength = (framePdu number samples).length) :
    ∃ address, memory.Holds address
        (tlvs encodeLength (asduItems encodeLength (samples.map Sample.items))) ∧
      address + (tlvs encodeLength (asduItems encodeLength (samples.map Sample.items))).length =
        buffer + (framePdu number samples).length ∧
      (∀ items ∈ samples.map Sample.items, (tlvs encodeLength items).length < 2 ^ 16) ∧
      svASDUs memory buffer apduLength = writtenElements encodeLength address
        (asduItems encodeLength (samples.map Sample.items)) := by
  rw [framePdu] at held small apdu
  obtain ⟨address, _, sequence, ends, handed⟩ := @svASDUs_encoded memory encodeLength
    readsBack_encodeLength buffer [(0x80, encodeUInt32 number)] (by simp) _ held apduLength
    small (by rw [apdu])
  have each : ∀ items ∈ samples.map Sample.items,
      (tlvs encodeLength items).length < 2 ^ 16 := by
    intro items member
    have part := length_le_of_mem encodeLength member
    omega
  refine ⟨address, sequence, ends, each, handed.trans ?_⟩
  apply sequenceASDUs_written readsBack_encodeLength sequence each
  intro items member
  obtain ⟨sample, _, rfl⟩ := List.mem_map.mp member
  exact sample.items_last

/-- The listener of a PDU is handed the samples that it says. -/
theorem carries_of_framePdu {memory : Memory} {buffer : Nat}
    (held : memory.Holds buffer (framePdu number samples))
    (small : (framePdu number samples).length < 2 ^ 16) {apduLength : Int}
    (apdu : apduLength = (framePdu number samples).length) {index : Nat}
    {calls : List SVCall}
    (reports : List.Forall₂ (SVCall.Reports memory index)
      (svASDUs memory buffer apduLength) calls) :
    List.Forall₂ (fun sample call => call.subscriber = index ∧ call.Carries sample.items)
      samples calls := by
  obtain ⟨address, sequence, _, each, handed⟩ := svASDUs_framePdu held small apdu
  rw [handed] at reports
  have carries := carries_of_reports readsBack_encodeLength sequence each reports
  rwa [List.forall₂_map_left_iff] at carries

/-- A PDU that a publisher says is parsed within its octets. -/
theorem svPayloadBelow_framePdu {memory : Memory} {buffer : Nat}
    (held : memory.Holds buffer (framePdu number samples))
    (small : (framePdu number samples).length < 2 ^ 16) {apduLength : Int}
    (apdu : apduLength = (framePdu number samples).length) :
    SVPayloadBelow memory (buffer + (framePdu number samples).length) buffer apduLength := by
  have some : 0 < (framePdu number samples).length := by
    rw [framePdu, svPayload, length_tlv]
    omega
  rw [svPayloadBelow_iff_of_whole (by omega) (by omega)]
  obtain ⟨address, sequence, ends, each, handed⟩ := svASDUs_framePdu held small apdu
  rw [handed]
  intro asdu member position terminator
  obtain ⟨items, present, place, rfl, stands, within⟩ := forall_written sequence asdu member
  have unspilled : ¬ Spills memory (writtenASDU encodeLength place items) := by
    obtain ⟨sample, _, rfl⟩ := List.mem_map.mp present
    obtain ⟨front, tag, content, split, svId, datSet⟩ := sample.items_last
    have short := each _ present
    rw [split] at stands short ⊢
    exact not_spills_writtenASDU readsBack_encodeLength stands short svId datSet
  obtain ⟨string, member, rfl⟩ := ParsedASDU.mem_of_isTerminator terminator
  have inside := (asduParts_within string member).2
  by_contra past
  -- Only a string that ends with the last ASDU ends with the PDU.
  have same : string.address + string.length =
      (writtenASDU encodeLength place items).address +
        (writtenASDU encodeLength place items).length := by omega
  rw [same] at terminator
  exact unspilled terminator

/-- What is received of a frame that has a VLAN tag: the PDU, and what tells where it ends and
whom it is for. -/
theorem Ready.held_pdu
    (ready : self.Ready (frameHeader [0x88, 0xba] parameters srcAddr true) number samples)
    (fits : self.Fits) {memory : Memory} (held : memory.Holds 0 self.publish) :
    (framePdu number samples).length < 2 ^ 16 ∧
      self.publish.length = 12 + (framePdu number samples).length ∧
      apduLengthOf memory = (framePdu number samples).length ∧
      memory.Holds 12 (framePdu number samples) ∧
      ∀ (receiver : SVReceiver) (numbytes : Nat), receiver.selected memory numbytes =
        if numbytes < 22 then none
        else (findSubscriber receiver.checkDestAddr memory parameters.appId
          receiver.subscriberList).value := by
  obtain ⟨sent, size⟩ := ready.publish_tagged fits
  rw [svMaxMessageSize] at size
  have apdu := apduLengthOf_svFrame (sent ▸ held)
  rw [UInt16.toNat_ofNat', Nat.mod_eq_of_lt (by omega)] at apdu
  exact ⟨by omega, by rw [sent, length_svFrame], by rw [apdu]; omega,
    svPayload_held (sent ▸ held), selected_svFrame (sent ▸ held)⟩

/-- What a receiver does with a frame that has a VLAN tag: it takes the first six octets that
it was given for the destination. -/
theorem Ready.received
    (ready : self.Ready (frameHeader [0x88, 0xba] parameters srcAddr true) number samples)
    (fits : self.Fits) {memory : Memory} (held : memory.Holds 0 self.publish)
    (receiver : SVReceiver) :
    let calls := (parseSVMessage receiver memory self.publish.length).value.2
    match receiver.heard (memory.octets 0 6) parameters.appId with
    | some index =>
      List.Forall₂ (fun sample call => call.subscriber = index ∧ call.Carries sample.items)
        samples calls
    | none => calls = [] := by
  intro calls
  obtain ⟨small, numbytes, apdu, body, selected⟩ := ready.held_pdu fits held
  replace selected := selected receiver self.publish.length
  rw [heard_octets]
  cases found : (findSubscriber receiver.checkDestAddr memory parameters.appId
      receiver.subscriberList).value with
  | none =>
      rw [found, ite_self] at selected
      simp only [Option.bind_none, calls, value_parseSVMessage, selected]
  | some result =>
      obtain ⟨index, subscriber⟩ := result
      rw [found, numbytes] at selected
      by_cases short : 12 + (framePdu number samples).length < 22
      · -- the frame has no room for an ASDU, and is not parsed
        rw [if_pos short] at selected
        obtain rfl := @eq_nil_of_short number samples (by omega)
        simp only [Option.bind_some, calls, numbytes, value_parseSVMessage, selected]
        cases subscriber.listener with
        | true => exact .nil
        | false => exact trivial
      · rw [if_neg short] at selected
        have reports := parseSVMessage_spec selected
        rw [← numbytes] at reports
        rw [Option.bind_some]
        cases listens : subscriber.listener with
        | false =>
            rw [listens, if_neg Bool.false_ne_true, List.forall₂_nil_left_iff] at reports
            exact reports
        | true =>
            rw [listens, if_pos rfl] at reports
            exact carries_of_framePdu body small apdu reports

/-- Any receiver stays within a message that a publisher sends. -/
theorem Ready.touchesBelow
    (ready : self.Ready (frameHeader [0x88, 0xba] parameters srcAddr true) number samples)
    (fits : self.Fits) {memory : Memory} (held : memory.Holds 0 self.publish)
    (receiver : SVReceiver) :
    (parseSVMessage receiver memory self.publish.length).Always
      (Access.TouchesBelow self.publish.length) := by
  obtain ⟨small, numbytes, apdu, body, _⟩ := ready.held_pdu fits held
  rw [touchesBelow_message_iff]
  intro index subscriber _
  rw [touchesBelow_parseSVPayload_iff, numbytes]
  exact svPayloadBelow_framePdu body small apdu

end Ready

end SVPublisher

end GridGooseSV
