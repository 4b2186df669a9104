import GridGooseSV.Goose.Delivery

/-!
# Frames as they are received

The socket keeps the first 14 octets of a frame. What the receiver gets starts
with the tag control information, and it takes these octets and the next four for
the destination address.
-/

namespace GridGooseSV

open BerDecoder BerEncoder

/-- The octets of a frame that the receiver gets. -/
def receivedFrame (tagControl : Octets 2) (appId length : UInt16) (payload : List UInt8) :
    List UInt8 :=
  tagControl.val ++ ([0x88, 0xb8, highOctet appId, lowOctet appId, highOctet length,
    lowOctet length, 0x00, 0x00, 0x00, 0x00] ++ payload)

theorem length_receivedFrame (tagControl : Octets 2) (appId length : UInt16)
    (payload : List UInt8) :
    (receivedFrame tagControl appId length payload).length = 12 + payload.length := by
  simp [receivedFrame, tagControl.property]
  omega

/-- A received frame with the given elements of its PDU. -/
def pduFrame (tagControl : Octets 2) (appId : UInt16) (items : List (UInt8 × List UInt8)) :
    List UInt8 :=
  let payload := tlv encodeLength 0x61 (tlvs encodeLength items)
  receivedFrame tagControl appId (UInt16.ofNat (payload.length + 8)) payload

/-- The elements of a PDU that was encoded are found where it is held, whatever follows the PDU. -/
theorem pduElements_of_encoded {encode : Nat → List UInt8} (reads : ReadsBack encode)
    {memory : Memory} {buffer : Nat} {apduLength : Int} {items : List (UInt8 × List UInt8)}
    (pdu : memory.Holds buffer (tlv encode 0x61 (tlvs encode items)))
    (fits : ((tlv encode 0x61 (tlvs encode items)).length : Int) ≤ apduLength)
    (short : (tlv encode 0x61 (tlvs encode items)).length < 2 ^ 16) :
    pduElements memory buffer apduLength =
      ⟨writtenElements encode (buffer + (1 + (encode (tlvs encode items).length).length)) items,
        true⟩ := by
  obtain ⟨tag, lengthOctets, content⟩ := holds_tlv.mp pdu
  rw [length_tlv] at fits short
  unfold pduElements
  rw [if_pos tag, @reads memory buffer _ _ _ lengthOctets (by omega) (by omega)]
  simp only
  rw [@elements_tlvs memory buffer _ _ _ encode reads items (by rwa [← Nat.add_assoc]) rfl
    (by omega) (by omega)]

section Received

variable {memory : Memory} {tagControl : Octets 2} {appId length : UInt16} {payload : List UInt8}
variable (held : memory.Holds 0 (receivedFrame tagControl appId length payload))
include held

/-- The octets after the tag control information. -/
theorem holds_afterTagControl :
    memory.Holds 2 ([0x88, 0xb8, highOctet appId, lowOctet appId, highOctet length,
      lowOctet length, 0x00, 0x00, 0x00, 0x00] ++ payload) := by
  have rest := (Memory.holds_append.mp held).2
  rwa [tagControl.property] at rest

theorem isGooseFrame_of_received {numbytes : Nat} :
    IsGooseFrame memory numbytes ↔ 22 ≤ numbytes := by
  have octets := holds_afterTagControl held
  simp only [List.cons_append, Memory.holds_cons] at octets
  unfold IsGooseFrame
  rw [octets.1, octets.2.1]
  simp

theorem frameAppId_of_received : frameAppId memory = appId := by
  have octets := holds_afterTagControl held
  simp only [List.cons_append, Memory.holds_cons] at octets
  rw [frameAppId, octets.2.2.1, octets.2.2.2.1, uint16Of_octets]

theorem frameApduLength_of_received : frameApduLength memory = length.toNat - 8 := by
  have octets := holds_afterTagControl held
  simp only [List.cons_append, Memory.holds_cons] at octets
  rw [frameApduLength, octets.2.2.2.2.1, octets.2.2.2.2.2.1, uint16Of_octets]

theorem holds_payload : memory.Holds 12 payload := by
  have octets := holds_afterTagControl held
  exact (Memory.holds_append.mp octets).2

/-- The elements of a PDU that was encoded are found in the frame, whatever follows the
PDU. -/
theorem frameElements_of_encoded {encode : Nat → List UInt8} (reads : ReadsBack encode)
    {items : List (UInt8 × List UInt8)} {rest : List UInt8}
    (encoded : payload = tlv encode 0x61 (tlvs encode items) ++ rest)
    (fits : payload.length + 8 = length.toNat) :
    frameElements memory =
      ⟨writtenElements encode (13 + (encode (tlvs encode items).length).length) items, true⟩ := by
  have small := length.toNat_lt
  have pdu := holds_payload held
  rw [encoded] at pdu
  rw [encoded, List.length_append] at fits
  unfold frameElements
  rw [frameApduLength_of_received held,
    @pduElements_of_encoded encode reads _ _ _ _ (Memory.holds_append.mp pdu).1 (by omega)
      (by omega), ← Nat.add_assoc]

/-- The elements of a PDU that was encoded, by their tags and contents. -/
theorem elements_of_encoded {encode : Nat → List UInt8} (reads : ReadsBack encode)
    {items : List (UInt8 × List UInt8)} {rest : List UInt8}
    (encoded : payload = tlv encode 0x61 (tlvs encode items) ++ rest)
    (fits : payload.length + 8 = length.toNat) :
    ∃ elements, frameElements memory = ⟨elements, true⟩ ∧
      elements.map (fun element => (element.tag, element.content memory)) = items := by
  refine ⟨_, frameElements_of_encoded held reads encoded fits, ?_⟩
  have pdu := holds_payload held
  rw [encoded] at pdu
  apply content_writtenElements
  exact (holds_tlv.mp (Memory.holds_append.mp pdu).1).2.2

end Received

/-- A frame with a VLAN tag as it is sent. -/
def taggedFrame (destination source : Octets 6) (tagControl : Octets 2) (appId : UInt16)
    (items : List (UInt8 × List UInt8)) : List UInt8 :=
  destination.val ++ (source.val ++ ([0x81, 0x00] ++ pduFrame tagControl appId items))

/-- The APPID of a frame with a VLAN tag. -/
def sentAppId (frame : List UInt8) : UInt16 := uint16Of (frame.getD 18 0) (frame.getD 19 0)

end GridGooseSV
