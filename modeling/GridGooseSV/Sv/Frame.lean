import GridGooseSV.Sv.Handover

/-!
# SV frames as they are received

The socket keeps the first 14 octets of a frame; what the receiver gets starts with the
tag control information. The ASDUs of a PDU that was encoded are all handed over if their
strings do not end them.
-/

namespace GridGooseSV

open BerDecoder BerEncoder

/-- The octets of an SV frame that the receiver gets. -/
def svFrame (tagControl : Octets 2) (appId length : UInt16) (payload : List UInt8) : List UInt8 :=
  tagControl.val ++ ([0x88, 0xba, highOctet appId, lowOctet appId, highOctet length,
    lowOctet length, 0x00, 0x00, 0x00, 0x00] ++ payload)

@[simp] theorem length_svFrame (tagControl : Octets 2) (appId length : UInt16)
    (payload : List UInt8) :
    (svFrame tagControl appId length payload).length = 12 + payload.length := by
  simp [svFrame, tagControl.property]
  omega

/-- The sequence of ASDUs of a PDU. -/
def asduItems (encode : Nat → List UInt8) (asdus : List (List (UInt8 × List UInt8))) :
    List (UInt8 × List UInt8) :=
  asdus.map fun items => (0x30, tlvs encode items)

/-- A PDU: elements in front of the sequence of ASDUs, and the sequence. -/
def svPayload (encode : Nat → List UInt8) (front : List (UInt8 × List UInt8))
    (asdus : List (List (UInt8 × List UInt8))) : List UInt8 :=
  tlv encode 0x60 (tlvs encode (front ++ [(0xa2, tlvs encode (asduItems encode asdus))]))

/-! ## The header -/

section Header

variable {memory : Memory} {tagControl : Octets 2} {appId length : UInt16} {payload : List UInt8}
variable (held : memory.Holds 0 (svFrame tagControl appId length payload))
include held

theorem holds_svFrame : memory.Holds 2 ([0x88, 0xba, highOctet appId, lowOctet appId,
    highOctet length, lowOctet length, 0x00, 0x00, 0x00, 0x00] ++ payload) := by
  have rest := (Memory.holds_append.mp held).2
  rwa [tagControl.property] at rest

theorem svPayload_held : memory.Holds 12 payload :=
  (Memory.holds_append.mp (holds_svFrame held)).2

theorem apduLengthOf_svFrame : apduLengthOf memory = length.toNat - 8 := by
  have octets := holds_svFrame held
  simp only [List.cons_append, Memory.holds_cons] at octets
  rw [apduLengthOf, octets.2.2.2.2.1, octets.2.2.2.2.2.1, uint16Of_octets]

theorem selected_svFrame (self : SVReceiver) (numbytes : Nat) :
    self.selected memory numbytes =
      if numbytes < 22 then none
      else (findSubscriber self.checkDestAddr memory appId self.subscriberList).value := by
  have octets := holds_svFrame held
  simp only [List.cons_append, Memory.holds_cons] at octets
  have number : uint16Of (memory 4) (memory 5) = appId := by
    rw [octets.2.2.1, octets.2.2.2.1, uint16Of_octets]
  unfold SVReceiver.selected
  rw [octets.1, octets.2.1, number]
  simp

end Header

/-! ## The ASDUs -/

section Encoded

variable {memory : Memory} {encode : Nat → List UInt8}

/-- The elements of a content that was encoded. -/
theorem contentScan_encoded (reads : ReadsBack encode) {address : Nat}
    {items : List (UInt8 × List UInt8)} (held : memory.Holds address (tlvs encode items))
    (small : (tlvs encode items).length < 2 ^ 16) :
    contentScan memory address (tlvs encode items).length =
      ⟨writtenElements encode address items, true⟩ :=
  elements_tlvs reads (by simpa using held) (Nat.zero_add _).symm small (by omega)

theorem payloadASDUs_front {front : List Element} (other : ∀ element ∈ front, element.tag ≠ 0xa2)
    (rest : List Element) :
    payloadASDUs memory false (front ++ rest) = payloadASDUs memory false rest := by
  induction front with
  | nil => rfl
  | cons element front ih =>
      rw [List.cons_append, payloadASDUs,
        if_neg fun both => other element List.mem_cons_self both.2]
      exact ih fun later member => other later (List.mem_cons_of_mem _ member)

variable (encode) in
/-- An ASDU whose elements were written at an address. -/
def writtenASDU (address : Nat) (items : List (UInt8 × List UInt8)) : Element :=
  ⟨0x30, address + 1 + (encode (tlvs encode items).length).length, (tlvs encode items).length⟩

/-- An ASDU that was encoded is well-formed. -/
theorem scan_writtenASDU (reads : ReadsBack encode) {address : Nat}
    {items : List (UInt8 × List UInt8)}
    (held : memory.Holds address (tlv encode 0x30 (tlvs encode items)))
    (small : (tlvs encode items).length < 2 ^ 16) :
    IsASDU memory (writtenASDU encode address items) ∧
      asduParts memory (writtenASDU encode address items) =
        writtenElements encode (writtenASDU encode address items).address items := by
  have scan := @contentScan_encoded memory encode reads _ _ (holds_tlv.mp held).2.2 small
  exact ⟨⟨rfl, congrArg Scan.complete scan⟩, congrArg Scan.elements scan⟩

/-- The ASDUs that are handed over are those of the sequence. -/
theorem svASDUs_encoded (reads : ReadsBack encode) {buffer : Nat}
    {front : List (UInt8 × List UInt8)} (other : ∀ item ∈ front, item.1 ≠ 0xa2)
    {asdus : List (List (UInt8 × List UInt8))}
    (held : memory.Holds buffer (svPayload encode front asdus)) {apduLength : Int}
    (small : (svPayload encode front asdus).length < 2 ^ 16)
    (whole : ((svPayload encode front asdus).length : Int) ≤ apduLength) :
    ∃ address, buffer ≤ address ∧ memory.Holds address (tlvs encode (asduItems encode asdus)) ∧
      address + (tlvs encode (asduItems encode asdus)).length =
        buffer + (svPayload encode front asdus).length ∧
      svASDUs memory buffer apduLength =
        (sequenceASDUs memory false
          (writtenElements encode address (asduItems encode asdus))).1 := by
  unfold svPayload at held small whole ⊢
  generalize sequenceEq : tlvs encode (asduItems encode asdus) = sequence at held small whole ⊢
  generalize itemsEq : front ++ [(0xa2, sequence)] = items at held small whole
  rw [length_tlv] at small whole
  obtain ⟨tag, lengthOctets, content⟩ := holds_tlv.mp held
  have decoded := @reads memory buffer apduLength 1 _ lengthOctets (by omega) (by omega)
  have scanned := @elements_tlvs memory buffer _ _ _ encode reads items
    (by rwa [← Nat.add_assoc]) rfl (by omega) (Int.le_refl _)
  rw [length_tlv]
  generalize (encode (tlvs encode items).length).length = size at *
  have octets : tlvs encode items = tlvs encode front ++ tlv encode 0xa2 sequence := by
    rw [← itemsEq, tlvs_append, tlvs, tlvs, List.append_nil]
  rw [octets] at content
  obtain ⟨_, last⟩ := Memory.holds_append.mp content
  obtain ⟨_, _, inner⟩ := holds_tlv.mp last
  have sizes : (tlvs encode items).length =
      (tlvs encode front).length + (1 + (encode sequence.length).length + sequence.length) := by
    rw [octets, List.length_append, length_tlv]
  refine ⟨_, by omega, inner, ?_, ?_⟩
  · omega
  · subst sequenceEq
    have scan := @contentScan_encoded memory encode reads _ _ inner (by omega)
    unfold svASDUs
    rw [if_pos tag, decoded]
    simp only
    rw [scanned, ← itemsEq, writtenElements_append, payloadASDUs_front]
    · simp only [writtenElements, payloadASDUs, true_and, ↓reduceIte, List.append_nil]
      rw [← Nat.add_assoc buffer 1 size, scan]
    · intro element member
      have tagged := @List.mem_map_of_mem _ _ _ _ Element.tag member
      rw [tag_of_writtenElements] at tagged
      obtain ⟨item, present, same⟩ := List.mem_map.mp tagged
      rw [← same]
      exact other item present

end Encoded

end GridGooseSV
