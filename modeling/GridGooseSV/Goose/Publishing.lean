import GridGooseSV.Goose.Encoded
import GridGooseSV.Goose.Frame
import GridGooseSV.Goose.Publisher

/-!
# What a published frame carries

A frame that is published is the header that the publisher was created with and a
PDU of twelve elements. Where the encoder counts fewer octets for the data set than
it writes, the last element is cut short and the rest of the data set follows the
PDU.
-/

namespace GridGooseSV

open BerDecoder BerEncoder

namespace GoosePublisher

/-- The elements of a message, but for the data set. -/
def headerItems (self : GoosePublisher) (dataSet : Components) : List (UInt8 × List UInt8) :=
  [(0x80, (self.goCBRef.map Subtype.val).getD []),
    (0x81, encodeUInt32 self.timeAllowedToLive),
    (0x82, (self.dataSetRef.map Subtype.val).getD []),
    (0x83, (self.encodedGoID.map Subtype.val).getD []),
    (0x84, self.timestamp.val),
    (0x85, encodeUInt32 self.stNum),
    (0x86, encodeUInt32 self.sqNum),
    (0x87, [if self.simulation then 0x01 else 0x00]),
    (0x88, encodeUInt32 self.confRev),
    (0x89, [if self.needsCommission then 0x01 else 0x00]),
    (0x8a, encodeUInt32 (numberOfDataSetEntries dataSet))]

/-- The elements of a message with the given content of its data set. -/
def items (self : GoosePublisher) (dataSet : Components) (content : List UInt8) :
    List (UInt8 × List UInt8) :=
  self.headerItems dataSet ++ [(0xab, content)]

end GoosePublisher

theorem length_tlv_ge (tag : UInt8) (content : List UInt8) :
    content.length + 2 ≤ (tlv encodeLength tag content).length := by
  have positive := length_encodeLength_pos content.length
  rw [length_tlv]
  omega

/-- Every element takes at least two octets. -/
theorem length_tlvs_ge (items : List (UInt8 × List UInt8)) :
    2 * items.length ≤ (tlvs encodeLength items).length := by
  induction items with
  | nil => exact Nat.le_refl 0
  | cons item items ih =>
      obtain ⟨tag, content⟩ := item
      have first := length_tlv_ge tag content
      rw [tlvs, List.length_append, List.length_cons]
      omega

namespace GoosePublisher

theorem encodeHeader_eq (self : GoosePublisher) (dataSet : Components) :
    self.encodeHeader dataSet = tlvs encodeLength (self.headerItems dataSet) := by
  unfold encodeHeader headerItems
  simp only [encodeStringWithTag_eq, encodeUInt32WithTL_eq, tlvs, List.append_nil]
  rfl

/-- The size of the header is counted right. -/
theorem headerSize_eq (self : GoosePublisher) (dataSet : Components)
    (short : (self.encodeHeader dataSet).length < 65535) :
    self.headerSize dataSet = (self.encodeHeader dataSet).length := by
  have string : ∀ tag (string : Option (List UInt8)),
      (encodeStringWithTag tag string).length < 65535 →
      determineEncodedStringSize string = (encodeStringWithTag tag string).length := by
    intro tag string short
    cases string with
    | none => rfl
    | some string =>
        rw [encodeStringWithTag_eq, Option.getD_some, length_tlv] at short ⊢
        rw [determineEncodedStringSize, determineLengthSize_eq (by omega)]
  have time : (encodeOctetString 0x84 self.timestamp.val).length = 10 := by
    rw [length_encodeOctetString, self.timestamp.property]
    rfl
  have flag : ∀ tag value, (encodeBoolean tag value).length = 3 := fun _ _ => rfl
  unfold encodeHeader at short ⊢
  simp only [List.length_append, length_encodeUInt32WithTL, time, flag] at short ⊢
  rw [headerSize, string 0x80 _ (by omega), string 0x82 _ (by omega), string 0x83 _ (by omega)]
  omega

/-- A payload is a PDU and the octets of the data set that were not counted. -/
theorem createGoosePayload_eq {self : GoosePublisher} {dataSet : Components}
    {maxPayloadSize : Nat} {payload : List UInt8}
    (created : self.createGoosePayload dataSet maxPayloadSize = some (some payload))
    (short : payload.length < 65535) :
    ∃ size entries, componentsSize (presentEntries dataSet) = some size ∧
      encodeComponents (presentEntries dataSet) = some entries ∧ size ≤ entries.length ∧
      entries.length < payload.length ∧
      payload = tlv encodeLength 0x61
        (tlvs encodeLength (self.items dataSet (entries.take size))) ++ entries.drop size := by
  simp only [createGoosePayload, Option.bind_eq_bind, Option.pure_def,
    Option.bind_eq_some_iff] at created
  obtain ⟨size, counted, created⟩ := created
  split at created
  · simp at created
  · simp only [Option.bind_eq_some_iff, Option.some.injEq] at created
    obtain ⟨entries, written, rfl⟩ := created
    have least := componentsSize_le _ counted written
    simp only [List.length_append, encodeTL, List.length_cons] at short
    have small : size % 2 ^ 32 = size := Nat.mod_eq_of_lt (by omega)
    have header := self.headerSize_eq dataSet (by omega)
    have taken : (entries.take size).length = size := by
      rw [List.length_take]
      exact Nat.min_eq_left least
    have octets : tlvs encodeLength (self.items dataSet (entries.take size)) =
        self.encodeHeader dataSet ++ (encodeTL 0xab size ++ entries.take size) := by
      rw [items, tlvs_append, ← encodeHeader_eq, tlvs, tlvs, List.append_nil, tlv, taken]
      rfl
    have few := length_encodeLength_le size
    have total : (self.headerSize dataSet + (size + determineLengthSize size + 1)) % 2 ^ 32 =
        (tlvs encodeLength (self.items dataSet (entries.take size))).length := by
      rw [octets, header, determineLengthSize_eq (by omega)]
      simp only [List.length_append, encodeTL, List.length_cons, taken]
      rw [Nat.mod_eq_of_lt (by omega)]
      omega
    refine ⟨size, entries, counted, written, least, ?_, ?_⟩
    · simp only [List.length_append, encodeTL, List.length_cons]
      omega
    · rw [small, total, tlv, octets]
      simp only [encodeTL, List.cons_append, List.append_assoc, List.take_append_drop]

/-- The tag control information of a publisher's frames. -/
def tagControl (parameters : CommParameters) : Octets 2 :=
  ⟨[(parameters.vlanPriority <<< 5) + highOctet parameters.vlanId, lowOctet parameters.vlanId], rfl⟩

/-- The buffer of a publisher starts with the header of its frames. -/
structure Prepared (publisher : GoosePublisher) (parameters : CommParameters)
    (srcAddr : Octets 6) : Prop where
  lengthField : publisher.lengthField = 20
  payloadStart : publisher.payloadStart = 26
  header : publisher.buffer.Holds 0 (frameHeader [0x88, 0xb8] parameters srcAddr true)
  reserved : publisher.buffer.Holds 22 [0x00, 0x00, 0x00, 0x00]

section Prepared

variable {parameters : CommParameters} {srcAddr : Octets 6} {self : GoosePublisher}

theorem length_frameHeader (parameters : CommParameters) (srcAddr : Octets 6) :
    (frameHeader [0x88, 0xb8] parameters srcAddr true).length = 20 := by
  simp [frameHeader, vlanTag, parameters.dstAddress.property, srcAddr.property]

theorem prepared_create (parameters : CommParameters) (srcAddr : Octets 6) (now : UInt64)
    (found : Memory) : (create parameters srcAddr now found).Prepared parameters srcAddr := by
  have length := length_frameHeader parameters srcAddr
  obtain ⟨header, rest⟩ := Memory.holds_append.mp
    (Memory.holds_put found 0
      (frameHeader [0x88, 0xb8] parameters srcAddr true ++ lengthAndReserved))
  refine ⟨length, congrArg (· + 6) length, header, ?_⟩
  rw [length] at rest
  exact (Memory.holds_cons.mp (Memory.holds_cons.mp rest).2).2

/-- What is written when a frame is published. -/
theorem Prepared.put (prepared : self.Prepared parameters srcAddr) (payload : List UInt8)
    (high low : UInt8) :
    let buffer := (self.buffer.put 26 payload).put 20 [high, low]
    buffer.Holds 0 (frameHeader [0x88, 0xb8] parameters srcAddr true) ∧
      buffer.Holds 20 [high, low] ∧ buffer.Holds 22 [0x00, 0x00, 0x00, 0x00] ∧
      buffer.Holds 26 payload := by
  have length := length_frameHeader parameters srcAddr
  refine ⟨?_, Memory.holds_put _ _ _, ?_, ?_⟩
  · exact (prepared.header.put (.inl (by rw [length]; decide))).put (.inl (by rw [length]))
  · exact (prepared.reserved.put (.inl (Nat.le_refl 26))).put (.inr (Nat.le_refl 22))
  · exact (Memory.holds_put _ _ _).put (.inr (by simp))

/-- The octets after the two addresses and the tag protocol identifier are what the
receiver gets. -/
theorem holds_receivedFrame {buffer : Memory} {payload : List UInt8}
    (short : payload.length + 8 < 2 ^ 16)
    (header : buffer.Holds 0 (frameHeader [0x88, 0xb8] parameters srcAddr true))
    (length : buffer.Holds 20 [UInt8.ofNat ((payload.length + 8) / 256),
      UInt8.ofNat ((payload.length + 8) % 256)])
    (reserved : buffer.Holds 22 [0x00, 0x00, 0x00, 0x00]) (body : buffer.Holds 26 payload) :
    buffer.Holds 14 (receivedFrame (tagControl parameters) parameters.appId
      (UInt16.ofNat (payload.length + 8)) payload) := by
  have number : (UInt16.ofNat (payload.length + 8)).toNat = payload.length + 8 := by
    rw [UInt16.toNat_ofNat', Nat.mod_eq_of_lt short]
  have addresses : (parameters.dstAddress.val ++ srcAddr.val).length = 12 := by
    simp [parameters.dstAddress.property, srcAddr.property]
  simp only [frameHeader, if_pos, List.append_assoc] at header
  rw [← List.append_assoc] at header
  have tagged := (Memory.holds_append.mp header).2
  rw [addresses] at tagged
  simp only [vlanTag, List.cons_append, List.nil_append, Memory.holds_cons] at tagged
  simp only [Memory.holds_cons] at length reserved
  simp only [receivedFrame, tagControl, highOctet, lowOctet, number, List.cons_append,
    List.nil_append, Memory.holds_cons]
  tauto

/-- A frame with an encoded PDU is long enough to be recognised. -/
theorem isGooseFrame_of_encoded {dataSet : Components} {content rest payload : List UInt8}
    (encoded : payload = tlv encodeLength 0x61 (tlvs encodeLength (self.items dataSet content)) ++
      rest)
    {memory : Memory} {tagControl : Octets 2} {appId length : UInt16}
    (held : memory.Holds 0 (receivedFrame tagControl appId length payload)) :
    IsGooseFrame memory (receivedFrame tagControl appId length payload).length := by
  have long := length_tlvs_ge (self.items dataSet content)
  have twelve : (self.items dataSet content).length = 12 := rfl
  rw [isGooseFrame_of_received held, length_receivedFrame, encoded, List.length_append, length_tlv]
  omega

/-- Publishing fails and sends nothing, or sends a payload that fits. -/
theorem publish_cases {dataSet : Components} {publication : Publication}
    (published : self.publish dataSet = some publication) :
    publication = ⟨-1, { self with payloadLength := -1 }, none⟩ ∨
      ∃ payload,
        self.createGoosePayload dataSet (gooseMaxMessageSize - self.payloadStart) =
          some (some payload) ∧
        payload.length ≤ gooseMaxMessageSize - self.payloadStart ∧
        let buffer := (self.buffer.put self.payloadStart payload).put self.lengthField
          [UInt8.ofNat ((payload.length + 8) / 256), UInt8.ofNat ((payload.length + 8) % 256)]
        publication = ⟨0, { self with
          buffer := buffer
          payloadLength := payload.length
          sqNum := if self.sqNum + 1 = 0 then 1 else self.sqNum + 1 },
          some (ethernetSendPacket buffer (self.payloadStart + payload.length))⟩ := by
  simp only [publish, Option.bind_eq_bind, Option.pure_def, Option.bind_eq_some_iff] at published
  obtain ⟨result, created, published⟩ := published
  cases result with
  | none => exact .inl (Option.some.inj published).symm
  | some payload =>
      simp only at published
      split at published
      · simp at published
      · rename_i fits
        exact .inr ⟨payload, created, Nat.not_lt.mp fits, (Option.some.inj published).symm⟩

/-- No call moves the length field or the payload. -/
theorem layout_perform {operation : Operation} {after : GoosePublisher}
    (performed : self.perform operation = some after) :
    after.lengthField = self.lengthField ∧ after.payloadStart = self.payloadStart := by
  cases operation with
  | publish dataSet =>
      obtain ⟨publication, published, rfl⟩ := Option.map_eq_some_iff.mp performed
      rcases publish_cases published with rfl | ⟨_, _, _, rfl⟩
      · exact ⟨rfl, rfl⟩
      · exact ⟨rfl, rfl⟩
  | _ =>
      obtain rfl := Option.some.inj performed
      exact ⟨rfl, rfl⟩

theorem sent_of_success {dataSet : Components} {publication : Publication}
    (published : self.publish dataSet = some publication) (success : publication.returned = 0) :
    ∃ packet, publication.sent = some packet := by
  rcases publish_cases published with rfl | ⟨_, _, _, rfl⟩
  · contradiction
  · exact ⟨_, rfl⟩

/-- What a successful publication sends and leaves. -/
theorem publish_eq (prepared : self.Prepared parameters srcAddr) {dataSet : Components}
    {publication : Publication} (published : self.publish dataSet = some publication)
    (success : publication.returned = 0) :
    ∃ payload buffer, self.createGoosePayload dataSet 1492 = some (some payload) ∧
      payload.length ≤ 1492 ∧
      publication.sent = some (receivedFrame (tagControl parameters) parameters.appId
        (UInt16.ofNat (payload.length + 8)) payload) ∧
      publication.publisher = { self with
        buffer := buffer
        payloadLength := payload.length
        sqNum := if self.sqNum + 1 = 0 then 1 else self.sqNum + 1 } ∧
      publication.publisher.Prepared parameters srcAddr := by
  rcases publish_cases published with rfl | ⟨payload, created, fits, rfl⟩
  · simp at success
  · rw [prepared.payloadStart] at created fits
    simp only [gooseMaxMessageSize, Nat.reduceSub] at created fits
    obtain ⟨header, length, reserved, body⟩ := prepared.put payload
      (UInt8.ofNat ((payload.length + 8) / 256)) (UInt8.ofNat ((payload.length + 8) % 256))
    refine ⟨payload, _, created, fits, ?_, rfl, prepared.lengthField, prepared.payloadStart, ?_, ?_⟩
    · have octets := (holds_receivedFrame (by omega) header length reserved body).octets
      have size : 26 + payload.length - 14 = 12 + payload.length := by omega
      rw [length_receivedFrame] at octets
      simp only [ethernetSendPacket, prepared.payloadStart, prepared.lengthField, size, octets]
    · simpa only [prepared.payloadStart, prepared.lengthField] using header
    · simpa only [prepared.payloadStart, prepared.lengthField] using reserved

/-- A payload that fits is sent. -/
theorem publish_of_created (prepared : self.Prepared parameters srcAddr) {dataSet : Components}
    {payload : List UInt8}
    (created : self.createGoosePayload dataSet 1492 = some (some payload))
    (fits : payload.length ≤ 1492) :
    ∃ publication, self.publish dataSet = some publication ∧ publication.returned = 0 ∧
      publication.sent = some (receivedFrame (tagControl parameters) parameters.appId
        (UInt16.ofNat (payload.length + 8)) payload) := by
  obtain ⟨publication, published, success⟩ : ∃ publication,
      self.publish dataSet = some publication ∧ publication.returned = 0 := by
    have room : gooseMaxMessageSize - self.payloadStart = 1492 := by
      rw [prepared.payloadStart]
      rfl
    unfold publish
    simp only [room, created, Option.bind_eq_bind, Option.bind_some, if_neg (Nat.not_lt.mpr fits)]
    exact ⟨_, rfl, rfl⟩
  obtain ⟨_, _, same, _, sent, _, _⟩ := publish_eq prepared published success
  obtain rfl := Option.some.inj (Option.some.inj (same.symm.trans created))
  exact ⟨publication, published, success, sent⟩

theorem Prepared.perform (prepared : self.Prepared parameters srcAddr) {operation : Operation}
    {after : GoosePublisher} (performed : self.perform operation = some after) :
    after.Prepared parameters srcAddr := by
  cases operation with
  | publish dataSet =>
      obtain ⟨publication, published, rfl⟩ := Option.map_eq_some_iff.mp performed
      by_cases success : publication.returned = 0
      · obtain ⟨_, _, _, _, _, _, kept⟩ := publish_eq prepared published success
        exact kept
      · rcases publish_cases published with rfl | ⟨_, _, _, rfl⟩
        · exact ⟨prepared.lengthField, prepared.payloadStart, prepared.header, prepared.reserved⟩
        · exact absurd rfl success
  | _ =>
      obtain rfl := Option.some.inj performed
      exact ⟨prepared.lengthField, prepared.payloadStart, prepared.header, prepared.reserved⟩

/-- The header of the frames is kept by every call. -/
theorem Prepared.performAll (prepared : self.Prepared parameters srcAddr)
    {operations : List Operation} {after : GoosePublisher}
    (performed : self.performAll operations = some after) :
    after.Prepared parameters srcAddr := by
  induction operations generalizing self with
  | nil =>
      obtain rfl := Option.some.inj performed
      exact prepared
  | cons operation rest ih =>
      obtain ⟨next, first, others⟩ := Option.bind_eq_some_iff.mp performed
      exact ih (prepared.perform first) others

end Prepared

/-! ## The elements of a published frame -/

/-- The elements of a message carry what the publisher was told. -/
structure Carries (publisher : GoosePublisher) (content : List UInt8) (memory : Memory)
    (pdu : GoosePdu) : Prop where
  timeAllowedToLive : pdu.timeAllowedToLive = publisher.timeAllowedToLive
  stNum : pdu.stNum = publisher.stNum
  sqNum : pdu.sqNum = publisher.sqNum
  confRev : pdu.confRev = publisher.confRev
  simulation : pdu.simulation = publisher.simulation
  ndsCom : pdu.ndsCom = publisher.needsCommission
  timestamp : ∃ address, pdu.timestampBufPos = some address ∧
    memory.Holds address publisher.timestamp.val
  dataSet : ∃ address, pdu.dataSetBufferAddress = some address ∧
    pdu.dataSetBufferLength = content.length ∧ memory.Holds address content

end GoosePublisher

theorem decodeUint32_of_content {memory : Memory} {element : Element} {value : UInt32}
    (content : element.content memory = encodeUInt32 value) :
    (decodeUint32 memory 0 element.length element.address).value = value := by
  rw [value_decodeUint32, Nat.zero_add]
  unfold Element.content at content
  rw [content, bigEndian_encodeUInt32, UInt32.ofNat_toNat]

theorem decodeBoolean_of_content {memory : Memory} {element : Element} {value : Bool}
    (content : element.content memory = [if value then 0x01 else 0x00]) :
    (decodeBoolean memory 0 element.address).value = value := by
  have one := congrArg List.length content
  rw [Element.content, Memory.length_octets] at one
  rw [Element.content, one] at content
  have octet := (List.cons.inj content).1
  unfold decodeBoolean
  simp only [↓Memory.value_bind_read, Traced.value_pure, Nat.zero_add, octet]
  cases value <;> rfl

/-- The twelve elements of a message. -/
theorem elements_of_items {publisher : GoosePublisher} {dataSet : Components}
    {content : List UInt8} {memory : Memory} {elements : List Element}
    (written : elements.map (fun element => (element.tag, element.content memory)) =
      publisher.items dataSet content) :
    let carries := fun (element : Element) tag octets =>
      element.tag = tag ∧ element.content memory = octets
    ∃ reference live datSet goId time state sequence simulation revision commission entries
      allData, elements = [reference, live, datSet, goId, time, state, sequence, simulation,
        revision, commission, entries, allData] ∧
      carries reference 0x80 ((publisher.goCBRef.map Subtype.val).getD []) ∧
      carries live 0x81 (encodeUInt32 publisher.timeAllowedToLive) ∧
      carries datSet 0x82 ((publisher.dataSetRef.map Subtype.val).getD []) ∧
      carries goId 0x83 ((publisher.encodedGoID.map Subtype.val).getD []) ∧
      carries time 0x84 publisher.timestamp.val ∧
      carries state 0x85 (encodeUInt32 publisher.stNum) ∧
      carries sequence 0x86 (encodeUInt32 publisher.sqNum) ∧
      carries simulation 0x87 [if publisher.simulation then 0x01 else 0x00] ∧
      carries revision 0x88 (encodeUInt32 publisher.confRev) ∧
      carries commission 0x89 [if publisher.needsCommission then 0x01 else 0x00] ∧
      carries entries 0x8a (encodeUInt32 (GoosePublisher.numberOfDataSetEntries dataSet)) ∧
      carries allData 0xab content := by
  simp only [GoosePublisher.items, GoosePublisher.headerItems, List.cons_append, List.nil_append,
    List.map_eq_cons_iff, List.map_eq_nil_iff, Prod.mk.injEq] at written
  obtain ⟨reference, _, listed0, item0, live, _, listed1, item1, datSet, _, listed2, item2,
    goId, _, listed3, item3, time, _, listed4, item4, state, _, listed5, item5,
    sequence, _, listed6, item6, simulation, _, listed7, item7, revision, _, listed8, item8,
    commission, _, listed9, item9, entries, _, listed10, item10, allData, _, listed11, item11,
    ended⟩ := written
  refine ⟨reference, live, datSet, goId, time, state, sequence, simulation, revision, commission,
    entries, allData, ?_, item0, item1, item2, item3, item4, item5, item6, item7, item8, item9,
    item10, item11⟩
  rw [listed0, listed1, listed2, listed3, listed4, listed5, listed6, listed7, listed8, listed9,
    listed10, listed11, ended]

theorem carries_items {publisher : GoosePublisher} {dataSet : Components} {content : List UInt8}
    {memory : Memory} {elements : List Element}
    (written : elements.map (fun element => (element.tag, element.content memory)) =
      publisher.items dataSet content) :
    publisher.Carries content memory (GoosePdu.ofElements memory elements) := by
  obtain ⟨reference, live, datSet, goId, time, state, sequence, simulation, revision, commission,
    entries, allData, rfl, ⟨tag0, _⟩, ⟨tag1, live32⟩, ⟨tag2, _⟩, ⟨tag3, _⟩, ⟨tag4, octets⟩,
    ⟨tag5, state32⟩, ⟨tag6, sequence32⟩, ⟨tag7, simulationFlag⟩, ⟨tag8, revision32⟩,
    ⟨tag9, commissionFlag⟩, ⟨tag10, _⟩, tag11, data⟩ := elements_of_items written
  have holds : ∀ (element : Element) (given : List UInt8), element.content memory = given →
      element.length = given.length ∧ memory.Holds element.address given := by
    rintro element _ rfl
    have length : element.length = (element.content memory).length := by simp [Element.content]
    refine ⟨length, ?_⟩
    rw [Memory.Holds, ← length]
    rfl
  have fields : GoosePdu.ofElements memory [reference, live, datSet, goId, time, state, sequence,
      simulation, revision, commission, entries, allData] = {
        timeAllowedToLive := (decodeUint32 memory 0 live.length live.address).value
        stNum := (decodeUint32 memory 0 state.length state.address).value
        sqNum := (decodeUint32 memory 0 sequence.length sequence.address).value
        confRev := (decodeUint32 memory 0 revision.length revision.address).value
        simulation := (decodeBoolean memory 0 simulation.address).value
        ndsCom := (decodeBoolean memory 0 commission.address).value
        timestampBufPos := some time.address
        dataSetBufferAddress := some allData.address
        dataSetBufferLength := allData.length
        numberOfDatSetEntries :=
          (decodeUint32 memory 0 entries.length entries.address).value } := by
    simp [GoosePdu.ofElements, GoosePdu.after, Element.pduTag, tag0, tag1, tag2, tag3, tag4, tag5,
      tag6, tag7, tag8, tag9, tag10, tag11, PduTag.ofOctet?]
  rw [fields]
  exact {
    timeAllowedToLive := decodeUint32_of_content live32
    stNum := decodeUint32_of_content state32
    sqNum := decodeUint32_of_content sequence32
    confRev := decodeUint32_of_content revision32
    simulation := decodeBoolean_of_content simulationFlag
    ndsCom := decodeBoolean_of_content commissionFlag
    timestamp := ⟨_, rfl, (holds _ _ octets).2⟩
    dataSet := ⟨_, rfl, holds _ _ data⟩ }

end GridGooseSV
