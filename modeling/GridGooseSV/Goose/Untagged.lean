import GridGooseSV.Goose.RoundTrip

/-!
# Frames without a VLAN tag

The socket keeps the same 14 octets of every frame. Without a tag the Ethertype is
among them, and what the receiver takes for the Ethertype is the length of the frame.
-/

namespace GridGooseSV

namespace GoosePublisher

/-- A publisher that sends frames without a VLAN tag. -/
structure Untagged (publisher : GoosePublisher) : Prop where
  lengthField : publisher.lengthField = 16
  payloadStart : publisher.payloadStart = 22

theorem untagged_createEx (parameters : CommParameters) (srcAddr : Octets 6) (now : UInt64)
    (found : Memory) : (createEx parameters srcAddr false now found).Untagged := by
  have length : (frameHeader [0x88, 0xb8] parameters srcAddr false).length = 16 := by
    simp [frameHeader, parameters.dstAddress.property, srcAddr.property]
  exact ⟨length, congrArg (· + 6) length⟩

section Untagged

variable {self : GoosePublisher}

theorem Untagged.perform (untagged : self.Untagged) {operation : Operation}
    {after : GoosePublisher} (performed : self.perform operation = some after) :
    after.Untagged := by
  obtain ⟨lengthField, payloadStart⟩ := layout_perform performed
  exact ⟨lengthField.trans untagged.lengthField, payloadStart.trans untagged.payloadStart⟩

theorem Untagged.performAll (untagged : self.Untagged) {operations : List Operation}
    {after : GoosePublisher} (performed : self.performAll operations = some after) :
    after.Untagged := by
  induction operations generalizing self with
  | nil =>
      obtain rfl := Option.some.inj performed
      exact untagged
  | cons operation rest ih =>
      obtain ⟨next, first, others⟩ := Option.bind_eq_some_iff.mp performed
      exact ih (untagged.perform first) others

/-- The octets where the Ethertype is expected are the length of the frame. -/
theorem unrecognised_of_untagged (untagged : self.Untagged) {dataSet : Components}
    {publication : Publication} (published : self.publish dataSet = some publication)
    {packet : List UInt8} (sent : publication.sent = some packet) {memory : Memory}
    (held : memory.Holds 0 packet) (numbytes : Nat) : ¬ IsGooseFrame memory numbytes := by
  rcases publish_cases published with rfl | ⟨payload, _, fits, rfl⟩
  · contradiction
  · obtain rfl := Option.some.inj sent
    rw [untagged.payloadStart, gooseMaxMessageSize] at fits
    rintro ⟨_, etherType, _⟩
    have written := @Memory.Holds.get memory 0 _ held 2
      (by rw [ethernetSendPacket, Memory.length_octets, untagged.payloadStart]; omega)
    simp only [ethernetSendPacket, Memory.getElem_octets, untagged.lengthField] at written
    have octet := Memory.put_inside (self.buffer.put self.payloadStart payload) 16
      [UInt8.ofNat ((payload.length + 8) / 256), UInt8.ofNat ((payload.length + 8) % 256)] 0
      Nat.two_pos
    have small := congrArg UInt8.toNat (etherType.symm.trans (written.trans octet))
    simp only [List.getElem_cons_zero, UInt8.toNat_ofNat'] at small
    have bound : (0x88 : UInt8).toNat = 136 := rfl
    omega

/-- Frames without a tag are passed over. -/
theorem passed_of_untagged (untagged : self.Untagged) {dataSet : Components}
    {publication : Publication} (published : self.publish dataSet = some publication)
    {packet : List UInt8} (sent : publication.sent = some packet) {memory : Memory}
    (held : memory.Holds 0 packet) (subscribers : List GooseSubscriber) (numbytes : Nat)
    (now : UInt64) :
    (parseGooseMessage subscribers memory numbytes now).value =
      { subscriberList := subscribers } :=
  value_parseGooseMessage_of_not (unrecognised_of_untagged untagged published sent held numbytes)
    subscribers now

end Untagged

end GoosePublisher

end GridGooseSV
