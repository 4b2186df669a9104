import GridGooseSV.Sv.RoundTrip

/-!
# For which subscriber a frame is taken

The receiver compares the address of a subscriber with the first six octets that it was
given. These are the tag control information, the Ethertype and the APPID; without a VLAN
tag the frame is not recognised at all.
-/

namespace GridGooseSV.SVPublisher

open BerEncoder
open GoosePublisher (tagControl)

/-- The first six octets of a frame with a VLAN tag, as the receiver gets it. -/
def firstOctets (parameters : CommParameters) : List UInt8 :=
  (tagControl parameters).val ++
    [0x88, 0xba, highOctet parameters.appId, lowOctet parameters.appId]

section Ready

variable {self : SVPublisher} {parameters : CommParameters} {srcAddr : Octets 6}
variable {number : UInt32} {samples : List Sample} {memory : Memory}

theorem Ready.firstOctets
    (ready : self.Ready (frameHeader [0x88, 0xba] parameters srcAddr true) number samples)
    (fits : self.Fits) (held : memory.Holds 0 self.publish) :
    memory.octets 0 6 = firstOctets parameters := by
  obtain ⟨sent, _⟩ := ready.publish_tagged fits
  have split : self.publish = SVPublisher.firstOctets parameters ++ _ := sent.trans
    (List.append_assoc (tagControl parameters).val
      [0x88, 0xba, highOctet parameters.appId, lowOctet parameters.appId] _).symm
  rw [split] at held
  exact (Memory.holds_append.mp held).1.octets

/-- The octets where the Ethertype is expected are the length of a frame without a tag. -/
theorem Ready.passed
    (ready : self.Ready (frameHeader [0x88, 0xba] parameters srcAddr false) number samples)
    (fits : self.Fits) (held : memory.Holds 0 self.publish) (receiver : SVReceiver)
    (numbytes : Nat) : (parseSVMessage receiver memory numbytes).value = (memory, []) := by
  have length : (frameHeader [0x88, 0xba] parameters srcAddr false).length = 16 := by
    simp [frameHeader, parameters.dstAddress.property, srcAddr.property]
  obtain ⟨sent, size⟩ := ready.publish fits (by omega)
  rw [svMaxMessageSize] at size
  generalize framePdu number samples = pdu at *
  have octet : memory 2 = UInt8.ofNat ((pdu.length + 8) / 256) := by
    rw [sent, ← @List.drop_drop _ 2 12, drop_frameHeader] at held
    exact (Memory.holds_cons.mp (Memory.holds_cons.mp (Memory.holds_cons.mp held).2).2).1
  have other : memory 2 ≠ 0x88 := by
    intro same
    have number := congrArg UInt8.toNat (octet.symm.trans same)
    rw [UInt8.toNat_ofNat', show (0x88 : UInt8).toNat = 136 from rfl] at number
    omega
  rw [value_parseSVMessage, SVReceiver.selected, if_pos (.inr (.inl other))]

end Ready

/-- The calls of a listener, one for every ASDU. -/
def callsOf (count : Nat) : Option Nat → List Nat
  | some index => List.replicate count index
  | none => []

theorem callsOf_inj {count : Nat} {first second : Option Nat} :
    callsOf count first = callsOf count second ↔ count = 0 ∨ first = second := by
  cases count with
  | zero => cases first <;> cases second <;> simp [callsOf]
  | succ count => cases first <;> cases second <;> simp +contextual [callsOf, List.replicate_succ]

/-- The listener that a destination and an APPID are for is called once for every ASDU, and
no other. -/
def SelectedExactly (receiver : SVReceiver) (destination : Octets 6) (appId : UInt16)
    (count : Nat) (calls : List SVCall) : Prop :=
  calls.map SVCall.subscriber = callsOf count (receiver.heard destination.val appId)

/-- Calls that carry samples are calls of one listener. -/
theorem subscriber_of_carries {index : Nat} {samples : List Sample} {calls : List SVCall}
    (received : List.Forall₂
      (fun sample call => call.subscriber = index ∧ call.Carries sample.items) samples calls) :
    calls.map SVCall.subscriber = List.replicate samples.length index := by
  induction received with
  | nil => rfl
  | cons first _ ih => rw [List.map_cons, first.1, ih, List.length_cons, List.replicate_succ]

/-- The right listener is called if and only if the frame has no ASDU, or the first six octets that
are received single out the listener that the destination singles out, or, without a VLAN
tag, there is none. -/
theorem selected_exactly_iff {parameters : CommParameters} {srcAddr : Octets 6}
    {useVlanTag : Bool} {publisher : SVPublisher}
    (setUp : SetUp parameters srcAddr useVlanTag publisher) {patches : List Operation}
    {ended : List Sample}
    (meant : patchAll publisher.setupComplete.value.samples patches = some ended) :
    ∃ after, publisher.setupComplete.value.performAll patches = some after ∧
      ∀ {memory : Memory}, memory.Holds 0 after.publish → ∀ receiver : SVReceiver,
        (SelectedExactly receiver parameters.dstAddress parameters.appId
            publisher.asduList.length
            (parseSVMessage receiver memory after.publish.length).value.2 ↔
          publisher.asduList = [] ∨
            receiver.heard parameters.dstAddress.val parameters.appId =
              if useVlanTag then receiver.heard (firstOctets parameters) parameters.appId
              else none) := by
  obtain ⟨after, performed, ready, fits⟩ := setUp.performAll meant
  refine ⟨after, performed, fun {memory} held receiver => ?_⟩
  have count := setUp.length_eq meant
  have seen : (parseSVMessage receiver memory after.publish.length).value.2.map
      SVCall.subscriber = callsOf publisher.asduList.length
        (if useVlanTag then receiver.heard (firstOctets parameters) parameters.appId
        else none) := by
    cases useVlanTag with
    | false =>
        rw [ready.passed fits held]
        rfl
    | true =>
        have received := ready.received fits held receiver
        rw [ready.firstOctets fits held] at received
        rw [if_pos rfl, count]
        cases taken : receiver.heard (firstOctets parameters) parameters.appId with
        | none =>
            rw [taken] at received
            rw [show (parseSVMessage receiver memory after.publish.length).value.2 = [] from
              received]
            rfl
        | some index =>
            rw [taken] at received
            exact subscriber_of_carries received
  rw [SelectedExactly, seen, callsOf_inj, List.length_eq_zero_iff]
  exact or_congr_right eq_comm

/-- A receiver that checks addresses, with one subscriber, which listens. -/
def checkingReceiver : SVReceiver :=
  plainReceiver.enableDestAddrCheck.addSubscriber
    (SVSubscriber.create (some CommParameters.svDefault.dstAddress) 0x4000).setListener

theorem selected_exactly_iff_checking :
    ∃ after, plainPublisher.setupComplete.value.performAll [] = some after ∧
      (SelectedExactly checkingReceiver CommParameters.svDefault.dstAddress 0x4000 1
          (parseSVMessage checkingReceiver (Memory.ofOctets after.publish fun _ => 0)
            after.publish.length).value.2 ↔
        plainPublisher.asduList = [] ∨
          checkingReceiver.heard CommParameters.svDefault.dstAddress.val 0x4000 =
            checkingReceiver.heard (firstOctets .svDefault) 0x4000) := by
  obtain ⟨after, performed, selected⟩ := selected_exactly_iff setUp_plainPublisher
    (show patchAll plainPublisher.setupComplete.value.samples [] = some _ from rfl)
  exact ⟨after, performed, selected (Memory.holds_ofOctets _ _) checkingReceiver⟩

/-- The subscriber whose address is the destination is not found. -/
theorem destination_not_selected :
    let packet := plainPublisher.setupComplete.value.publish
    checkingReceiver.due CommParameters.svDefault.dstAddress.val 0x4000 = some 1 ∧
      checkingReceiver.listens 1 = true ∧
      (parseSVMessage checkingReceiver (Memory.ofOctets packet fun _ => 0)
        packet.length).value.2.map SVCall.subscriber = [] := by
  decide +kernel

end GridGooseSV.SVPublisher
