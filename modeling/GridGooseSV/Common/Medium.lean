import GridGooseSV.Common.Tagging
import GridGooseSV.Goose.Separation

/-!
# Publishers on one medium

The sockets of the receivers take every frame that reaches the device, of either protocol and
with or without a VLAN tag. Frames of any number of publishers arrive in any order, some of them
not at all and some more than once; what a subscriber sees of them is what it would see of the
frames that are meant for it alone.
-/

namespace GridGooseSV

open BerDecoder BerEncoder

/-- Who sends a frame: a GOOSE publisher with a reference, or an SV publisher with an APPID. -/
inductive Sender
  | goose (useVlanTag : Bool) (reference : List UInt8)
  | sv (useVlanTag : Bool) (appId : UInt16)
  deriving DecidableEq

/-- What a publisher sends in the course of a run. -/
inductive Sender.Sends : Sender → List UInt8 → Prop
  | goose {parameters : CommParameters} {srcAddr : Octets 6} {useVlanTag : Bool}
      {created : UInt64} {found : Memory} {operations : List GoosePublisher.Operation}
      {publisher : GoosePublisher} {reference : CString} {dataSet : Components}
      {publication : Publication} {packet : List UInt8}
      (run : (GoosePublisher.createEx parameters srcAddr useVlanTag created found).performAll
        operations = some publisher)
      (referring : publisher.goCBRef = some reference)
      (published : publisher.publish dataSet = some publication)
      (sent : publication.sent = some packet) :
      Sends (.goose useVlanTag reference.val) packet
  | sv {parameters : CommParameters} {srcAddr : Octets 6} {useVlanTag : Bool}
      {publisher after : SVPublisher} {patches : List SVPublisher.Operation}
      {ended : List SVPublisher.Sample}
      (setUp : SVPublisher.SetUp parameters srcAddr useVlanTag publisher)
      (meant : SVPublisher.patchAll publisher.setupComplete.value.samples patches = some ended)
      (performed : publisher.setupComplete.value.performAll patches = some after) :
      Sends (.sv useVlanTag parameters.appId) after.publish

/-- A frame of a sender arrives, over what is left in the receive buffer. -/
def BroughtBy (sender : Sender) (arrival : Arrival) : Prop :=
  ∃ packet, sender.Sends packet ∧ arrival.memory.Holds 0 packet ∧
    arrival.numbytes = packet.length

section Goose

variable {arrival : Arrival} {reference : List UInt8}

/-- A GOOSE frame with a VLAN tag refers to the reference of its publisher alone. -/
theorem BroughtBy.referring (brought : BroughtBy (.goose true reference) arrival) :
    IsGooseFrame arrival.memory arrival.numbytes ∧
      ∃ element ∈ (frameElements arrival.memory).elements,
        element.pduTag = some .gocbRef ∧ element.content arrival.memory = reference ∧
        ∀ other ∈ (frameElements arrival.memory).elements, other.pduTag = some .gocbRef →
          other = element := by
  obtain ⟨packet, sends, held, numbytes⟩ := brought
  cases sends with
  | @goose parameters srcAddr _ created found _ publisher goCBRef _ publication _ run referring
      published sent =>
      have prepared := (GoosePublisher.prepared_create parameters srcAddr created found).performAll
        run
      have goose := GoosePublisher.recognised_of_sent prepared published sent held
      rw [← numbytes] at goose
      refine ⟨goose, ?_⟩
      have success : publication.returned = 0 := by
        rcases GoosePublisher.publish_cases published with rfl | ⟨_, _, _, rfl⟩
        · contradiction
        · rfl
      obtain ⟨payload, _, payloadCreated, fits, frame, _, _⟩ :=
        GoosePublisher.publish_eq prepared published success
      obtain ⟨_, _, _, _, _, _, encoded⟩ :=
        GoosePublisher.createGoosePayload_eq payloadCreated (by omega)
      obtain rfl := Option.some.inj (sent.symm.trans frame)
      have number : payload.length + 8 = (UInt16.ofNat (payload.length + 8)).toNat := by
        rw [UInt16.toNat_ofNat', Nat.mod_eq_of_lt (by omega)]
      obtain ⟨elements, scanned, written⟩ :=
        elements_of_encoded held readsBack_encodeLength encoded number
      obtain ⟨first, live, datSet, goId, time, state, sequence, simulation, revision, commission,
        entries, allData, rfl, ⟨tag, content⟩, ⟨tag1, _⟩, ⟨tag2, _⟩, ⟨tag3, _⟩, ⟨tag4, _⟩,
        ⟨tag5, _⟩, ⟨tag6, _⟩, ⟨tag7, _⟩, ⟨tag8, _⟩, ⟨tag9, _⟩, ⟨tag10, _⟩, tag11, _⟩ :=
        elements_of_items written
      rw [scanned]
      refine ⟨first, List.mem_cons_self, by rw [Element.pduTag, tag]; rfl, ?_, ?_⟩
      · rw [content, referring]
        rfl
      · intro other member kind
        rcases List.mem_cons.mp member with rfl | member
        · rfl
        · -- No other element of a message has the tag of a reference.
          simp only [List.mem_cons, List.not_mem_nil, or_false] at member
          rcases member with rfl | rfl | rfl | rfl | rfl | rfl | rfl | rfl | rfl | rfl | rfl <;>
            simp_all [Element.pduTag, PduTag.ofOctet?]

theorem BroughtBy.refersTo_tagged (brought : BroughtBy (.goose true reference) arrival)
    (other : List UInt8) :
    refersTo other arrival = decide (reference = other) ∧
      RefersOnlyTo other arrival := by
  obtain ⟨goose, element, member, kind, content, sole⟩ := brought.referring
  have refers : refersTo other arrival = true ↔ reference = other := by
    simp only [refersTo, goose, decide_true, Bool.true_and, List.any_eq_true,
      decide_eq_true_eq]
    constructor
    · rintro ⟨_, present, refers, same⟩
      rw [← content, ← sole _ present refers, same]
    · rintro rfl
      exact ⟨element, member, kind, content⟩
  refine ⟨?_, ?_⟩
  · rw [Bool.eq_iff_iff, refers, decide_eq_true_iff]
  · intro given another present refersAlso
    rw [sole another present refersAlso, content]
    exact refers.mp given

/-- Where the Ethertype is expected, a frame without a VLAN tag has its length. -/
theorem BroughtBy.untagged (brought : BroughtBy (.goose false reference) arrival) :
    arrival.memory 2 ≠ 0x88 := by
  obtain ⟨_, sends, held, _⟩ := brought
  cases sends with
  | @goose parameters srcAddr _ created found _ publisher _ _ publication packet run _ published
      sent =>
      obtain ⟨lengthField, payloadStart⟩ := (GoosePublisher.untagged_createEx parameters srcAddr
        created found).performAll run
      rcases GoosePublisher.publish_cases published with rfl | ⟨payload, _, fits, rfl⟩
      · contradiction
      · obtain rfl := Option.some.inj sent
        rw [payloadStart, gooseMaxMessageSize] at fits
        intro etherType
        have written := @Memory.Holds.get arrival.memory 0 _ held 2
          (by rw [ethernetSendPacket, Memory.length_octets, payloadStart]; omega)
        simp only [ethernetSendPacket, Memory.getElem_octets, lengthField] at written
        have octet := Memory.put_inside (publisher.buffer.put publisher.payloadStart payload) 16
          [UInt8.ofNat ((payload.length + 8) / 256), UInt8.ofNat ((payload.length + 8) % 256)] 0
          Nat.two_pos
        have small := congrArg UInt8.toNat (etherType.symm.trans (written.trans octet))
        simp only [List.getElem_cons_zero, UInt8.toNat_ofNat'] at small
        have bound : (0x88 : UInt8).toNat = 136 := rfl
        omega

end Goose

section Sv

variable {arrival : Arrival} {appId : UInt16}

theorem BroughtBy.ready {useVlanTag : Bool} (brought : BroughtBy (.sv useVlanTag appId) arrival) :
    ∃ (parameters : CommParameters) (srcAddr : Octets 6) (publisher : SVPublisher)
      (number : UInt32) (samples : List SVPublisher.Sample), appId = parameters.appId ∧
      publisher.Ready (frameHeader [0x88, 0xba] parameters srcAddr useVlanTag) number
        samples ∧ publisher.Fits ∧ arrival.memory.Holds 0 publisher.publish ∧
      arrival.numbytes = publisher.publish.length := by
  obtain ⟨_, sends, held, numbytes⟩ := brought
  cases sends with
  | @sv parameters srcAddr _ _ after _ _ setUp meant performed =>
      obtain ⟨ready, fits⟩ := setUp.reached meant performed
      exact ⟨parameters, srcAddr, after, _, _, rfl, ready, fits, held, numbytes⟩

theorem BroughtBy.svTagged (brought : BroughtBy (.sv true appId) arrival) :
    arrival.memory 2 = 0x88 ∧ arrival.memory 3 = 0xba ∧
      uint16Of (arrival.memory 4) (arrival.memory 5) = appId := by
  obtain ⟨parameters, _, _, _, _, rfl, ready, fits, held, _⟩ := brought.ready
  obtain ⟨sent, _⟩ := ready.publish_tagged fits
  have octets := holds_svFrame (sent ▸ held)
  simp only [List.cons_append, Memory.holds_cons] at octets
  exact ⟨octets.1, octets.2.1, by rw [octets.2.2.1, octets.2.2.2.1, uint16Of_octets]⟩

theorem BroughtBy.svUntagged (brought : BroughtBy (.sv false appId) arrival) :
    arrival.memory 2 ≠ 0x88 := by
  obtain ⟨parameters, srcAddr, _, _, _, rfl, ready, fits, held, _⟩ := brought.ready
  have length : (frameHeader [0x88, 0xba] parameters srcAddr false).length = 16 := by
    simp [frameHeader, parameters.dstAddress.property, srcAddr.property]
  obtain ⟨sent, size⟩ := ready.publish fits (by omega)
  rw [svMaxMessageSize] at size
  generalize SVPublisher.framePdu _ _ = pdu at *
  rw [sent, ← @List.drop_drop _ 2 12, SVPublisher.drop_frameHeader] at held
  have octet := (Memory.holds_cons.mp (Memory.holds_cons.mp (Memory.holds_cons.mp held).2).2).1
  intro same
  have number := congrArg UInt8.toNat (octet.symm.trans same)
  rw [UInt8.toNat_ofNat', show (0x88 : UInt8).toNat = 136 from rfl] at number
  omega

end Sv

/-! ## Receivers -/

/-- The sender of a frame is meant for subscribers with a reference. -/
def Sender.isFor (reference : List UInt8) (sender : Sender) : Bool :=
  decide (sender = .goose true reference)

/-- A GOOSE receiver recognises the frames that refer to a subscriber, and no others. -/
theorem BroughtBy.refersTo_eq {sender : Sender} {arrival : Arrival}
    (brought : BroughtBy sender arrival) (reference : List UInt8) :
    refersTo reference arrival = sender.isFor reference ∧ RefersOnlyTo reference arrival := by
  have unrecognised : (arrival.memory 2 ≠ 0x88 ∨ arrival.memory 3 ≠ 0xb8) →
      refersTo reference arrival = false := by
    intro other
    have unlike : ¬ IsGooseFrame arrival.memory arrival.numbytes := by
      rintro ⟨_, high, low⟩
      exact other.elim (fun differs => differs high) fun differs => differs low
    rw [refersTo, decide_eq_false unlike, Bool.false_and]
  have passed : refersTo reference arrival = false → ∀ differs : sender ≠ .goose true reference,
      refersTo reference arrival = sender.isFor reference ∧
        RefersOnlyTo reference arrival := by
    intro none differs
    rw [none, Sender.isFor, decide_eq_false differs]
    exact ⟨rfl, fun refers => by rw [none] at refers; contradiction⟩
  match sender, brought with
  | .goose true own, brought =>
      obtain ⟨refers, only⟩ := brought.refersTo_tagged reference
      refine ⟨?_, only⟩
      rw [refers, Sender.isFor]
      simp
  | .goose false _, brought => exact passed (unrecognised (.inl brought.untagged)) (by simp)
  | .sv true _, brought =>
      refine passed (unrecognised (.inr ?_)) (by simp)
      rw [brought.svTagged.2.1]
      decide
  | .sv false _, brought => exact passed (unrecognised (.inl brought.svUntagged)) (by simp)

/-- The calls of the listener of one subscriber of an SV receiver. -/
def svHeardAt (receiver : SVReceiver) (index : Nat) (arrival : Arrival) : List SVCall :=
  (parseSVMessage receiver arrival.memory arrival.numbytes).value.2.filter fun call =>
    decide (call.subscriber = index)

/-- A subscriber whose listener is called has the APPID of the frame. -/
theorem appId_of_svHeardAt {receiver : SVReceiver} {index : Nat} {arrival : Arrival}
    {call : SVCall} (heard : call ∈ svHeardAt receiver index arrival) :
    arrival.memory 2 = 0x88 ∧ arrival.memory 3 = 0xba ∧
      ∃ subscriber, receiver.subscriberList[index]? = some subscriber ∧
        subscriber.appId = uint16Of (arrival.memory 4) (arrival.memory 5) := by
  obtain ⟨member, called⟩ := List.mem_filter.mp heard
  obtain rfl := of_decide_eq_true called
  cases selected : receiver.selected arrival.memory arrival.numbytes with
  | none =>
      rw [value_parseSVMessage, selected] at member
      contradiction
  | some found =>
      obtain ⟨place, subscriber⟩ := found
      have same : call.subscriber = place := by
        obtain ⟨_, _, reports⟩ := forall₂_mem (parseSVMessage_spec selected).flip member
        exact reports.subscriber
      unfold SVReceiver.selected at selected
      split at selected
      · contradiction
      · rename_i recognised
        obtain ⟨due, there⟩ := findSubscriber_spec receiver.checkDestAddr arrival.memory
          (uint16Of (arrival.memory 4) (arrival.memory 5)) receiver.subscriberList
        rw [selected, Option.map_some] at due
        obtain ⟨inside, matching, _⟩ := List.findIdx?_eq_some_iff_getElem.mp due
        have present := there place subscriber selected
        obtain ⟨_, here⟩ := List.getElem?_eq_some_iff.mp present
        rw [here] at matching
        push Not at recognised
        exact ⟨recognised.2.1, recognised.2.2, subscriber, same ▸ present,
          (of_decide_eq_true matching).1⟩

/-- A subscriber does not hear of frames of other senders than those with its APPID. -/
theorem BroughtBy.unheard {sender : Sender} {arrival : Arrival}
    (brought : BroughtBy sender arrival) {receiver : SVReceiver} {index : Nat}
    {subscriber : SVSubscriber} (found : receiver.subscriberList[index]? = some subscriber)
    (other : sender ≠ .sv true subscriber.appId) : svHeardAt receiver index arrival = [] := by
  by_contra heard
  obtain ⟨call, member⟩ := List.exists_mem_of_ne_nil _ heard
  obtain ⟨high, low, _, present, appId⟩ := appId_of_svHeardAt member
  obtain rfl := Option.some.inj (found.symm.trans present)
  match sender, brought with
  | .goose true _, brought =>
      have goose := brought.referring.1.2.2
      rw [low] at goose
      contradiction
  | .goose false _, brought => exact brought.untagged high
  | .sv true own, brought => exact other (by rw [appId, brought.svTagged.2.2])
  | .sv false _, brought => exact brought.svUntagged high

/-- Whatever publishers of both protocols put on a medium, in whichever order it arrives and
however often: a GOOSE subscriber that is not shadowed hears of the frames with a VLAN tag and its
reference, as if they were all that arrives, and an SV subscriber of those with a VLAN tag and its
APPID. -/
theorem heard_on_medium {traffic : List (Sender × Arrival)}
    (brought : ∀ entry ∈ traffic, BroughtBy entry.1 entry.2) :
    (∀ {subscribers : List GooseSubscriber} {index : Nat} {self : GooseSubscriber},
      Unshadowed subscribers index self →
        let together := collect (heardAt index) subscribers (traffic.map Prod.snd)
        let alone := collect (heardAt 0) [self]
          ((traffic.filter fun entry => entry.1.isFor self.goCBRef.val).map Prod.snd)
        together.1[index]? = alone.1[0]? ∧ together.2 = alone.2) ∧
    (∀ {receiver : SVReceiver} {index : Nat} {subscriber : SVSubscriber},
      receiver.subscriberList[index]? = some subscriber →
        (traffic.map Prod.snd).flatMap (svHeardAt receiver index) =
          ((traffic.filter fun entry =>
            decide (entry.1 = .sv true subscriber.appId)).map Prod.snd).flatMap
              (svHeardAt receiver index)) := by
  constructor
  · intro subscribers index self unshadowed
    have refers : (traffic.map Prod.snd).filter (refersTo self.goCBRef.val) =
        (traffic.filter fun entry => entry.1.isFor self.goCBRef.val).map Prod.snd := by
      rw [List.filter_map]
      congr 1
      apply List.filter_congr
      intro entry member
      exact ((brought entry member).refersTo_eq _).1
    have only : ∀ arrival ∈ traffic.map Prod.snd, RefersOnlyTo self.goCBRef.val arrival := by
      intro arrival member
      obtain ⟨entry, present, rfl⟩ := List.mem_map.mp member
      exact ((brought entry present).refersTo_eq _).2
    obtain ⟨⟨after, ended, same, _⟩, heard⟩ :=
      (follows_alone index self.goCBRef.val).run ⟨self, unshadowed, rfl, rfl⟩ only
    rw [refers] at same heard
    exact ⟨by rw [ended.found, same]; rfl, heard⟩
  · intro receiver index subscriber found
    induction traffic with
    | nil => rfl
    | cons entry rest ih =>
        obtain ⟨first, others⟩ := List.forall_mem_cons.mp brought
        rw [List.map_cons, List.flatMap_cons, ih others, List.filter_cons]
        split
        · rfl
        · rename_i other
          have silent := first.unheard found fun same => other (decide_eq_true same)
          rw [silent, List.nil_append]

/-- What a sender sends arrives in a buffer of zeros. -/
def arrivalOf (packet : List UInt8) : Arrival :=
  ⟨Memory.ofOctets packet fun _ => 0, packet.length, 0⟩

theorem Sender.Sends.brought {sender : Sender} {packet : List UInt8}
    (sends : sender.Sends packet) : BroughtBy sender (arrivalOf packet) :=
  ⟨packet, sends, Memory.holds_ofOctets _ _, rfl⟩

theorem heard_on_medium_both :
    let subscriber := GooseSubscriber.create ⟨[0x41], zero_notMem_a⟩ none
    ∃ first second : Arrival,
      let traffic := [(Sender.goose true [0x41], first), (Sender.sv true 0x4000, second)]
      (collect (heardAt 0) [subscriber] (traffic.map Prod.snd)).1[0]? =
          (collect (heardAt 0) [subscriber] [first]).1[0]? ∧
        (traffic.map Prod.snd).flatMap (svHeardAt SVPublisher.plainReceiver 0) =
          svHeardAt SVPublisher.plainReceiver 0 second := by
  intro subscriber
  have sent : ((referredPublisher.publish []).bind Publication.sent).isSome = true := by
    decide +kernel
  obtain ⟨packet, sent⟩ := Option.isSome_iff_exists.mp sent
  obtain ⟨publication, published, sent⟩ := Option.bind_eq_some_iff.mp sent
  have goose : Sender.Sends (.goose true [0x41]) packet :=
    .goose run_referredPublisher rfl published sent
  have sv : Sender.Sends (.sv true 0x4000) SVPublisher.plainPublisher.setupComplete.value.publish :=
    .sv SVPublisher.setUp_plainPublisher
      (show SVPublisher.patchAll SVPublisher.plainPublisher.setupComplete.value.samples [] = some _
        from rfl) rfl
  have heard := @heard_on_medium [(.goose true [0x41], arrivalOf packet),
    (.sv true 0x4000, arrivalOf SVPublisher.plainPublisher.setupComplete.value.publish)]
    (by
      intro entry member
      rcases List.mem_cons.mp member with rfl | member
      · exact goose.brought
      · rw [List.mem_singleton.mp member]
        exact sv.brought)
  have plain : subscriber.Plain := ⟨by decide, by decide⟩
  exact ⟨_, _, (heard.1 (Unshadowed.alone plain)).1, (heard.2 rfl).trans (List.append_nil _)⟩

end GridGooseSV
