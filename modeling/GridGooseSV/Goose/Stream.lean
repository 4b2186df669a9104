import GridGooseSV.Goose.Header
import GridGooseSV.Goose.Publishing

/-!
# Streams of frames

A run of a publisher sends frames; the receiver is given some of them, each with
whatever octets the receive buffer holds behind it. What a delivered frame does to
the numbers of a subscriber depends on the numbers of that frame and of the frame
before alone.
-/

namespace GridGooseSV

open BerDecoder BerEncoder

/-- A frame as it was published. -/
structure SentFrame where
  stNum : UInt32
  sqNum : UInt32
  /-- what `Ethernet_sendPacket` hands to the socket -/
  packet : List UInt8
  deriving DecidableEq

namespace GoosePublisher

/-- A call that leaves the numbering to the publisher. -/
def Operation.LeavesNumbers : Operation → Prop
  | .setStNum _ | .setSqNum _ | .reset => False
  | _ => True

/-- A run in which every publication is successful, and the frames it sends. -/
inductive Sends : GoosePublisher → List Operation → List SentFrame → Prop
  | nil (self : GoosePublisher) : Sends self [] []
  | publish {self : GoosePublisher} {dataSet : Components} {publication : Publication}
      {packet : List UInt8} {rest : List Operation} {frames : List SentFrame}
      (published : self.publish dataSet = some publication)
      (success : publication.returned = 0) (sent : publication.sent = some packet)
      (others : Sends publication.publisher rest frames) :
      Sends self (.publish dataSet :: rest) (⟨self.stNum, self.sqNum, packet⟩ :: frames)
  | call {self after : GoosePublisher} {operation : Operation} {rest : List Operation}
      {frames : List SentFrame} (silent : ∀ dataSet, operation ≠ .publish dataSet)
      (performed : self.perform operation = some after) (others : Sends after rest frames) :
      Sends self (operation :: rest) frames

/-- The frames that a run sends, if every publication is successful. -/
def sendAll (self : GoosePublisher) : List Operation → Option (List SentFrame)
  | [] => some []
  | .publish dataSet :: rest => do
    let publication ← self.publish dataSet
    let packet ← publication.sent
    let frames ← publication.publisher.sendAll rest
    pure (⟨self.stNum, self.sqNum, packet⟩ :: frames)
  | operation :: rest => do
    let after ← self.perform operation
    after.sendAll rest

theorem sends_of_sendAll {self : GoosePublisher} {operations : List Operation}
    {frames : List SentFrame} (sent : self.sendAll operations = some frames) :
    self.Sends operations frames := by
  induction operations generalizing self frames with
  | nil =>
      obtain rfl := Option.some.inj sent
      exact .nil self
  | cons operation rest ih =>
      cases operation with
      | publish dataSet =>
          simp only [sendAll, Option.bind_eq_bind, Option.pure_def, Option.bind_eq_some_iff,
            Option.some.injEq] at sent
          obtain ⟨publication, published, packet, octets, frames, others, rfl⟩ := sent
          refine .publish published ?_ octets (ih others)
          rcases publish_cases published with rfl | ⟨_, _, _, rfl⟩
          · contradiction
          · rfl
      | _ =>
          simp only [sendAll, Option.bind_eq_bind, Option.bind_eq_some_iff] at sent
          obtain ⟨after, performed, others⟩ := sent
          exact .call (by simp) performed (ih others)

section Sending

variable {parameters : CommParameters} {srcAddr : Octets 6} {self : GoosePublisher}

/-- The numbers of a frame are the ones the publisher had. -/
theorem numbers_of_published (prepared : self.Prepared parameters srcAddr) {dataSet : Components}
    {publication : Publication} (published : self.publish dataSet = some publication)
    (success : publication.returned = 0) {packet : List UInt8}
    (sent : publication.sent = some packet) {memory : Memory} (held : memory.Holds 0 packet) :
    (framePdu memory).stNum = self.stNum ∧ (framePdu memory).sqNum = self.sqNum := by
  obtain ⟨payload, _, created, fits, octets, _, _⟩ := publish_eq prepared published success
  obtain ⟨size, entries, _, _, _, _, encoded⟩ := createGoosePayload_eq created (by omega)
  obtain rfl := Option.some.inj (octets.symm.trans sent)
  have number : payload.length + 8 = (UInt16.ofNat (payload.length + 8)).toNat := by
    rw [UInt16.toNat_ofNat', Nat.mod_eq_of_lt (by omega)]
  obtain ⟨elements, scanned, written⟩ :=
    elements_of_encoded held readsBack_encodeLength encoded number
  have carries := carries_items written
  rw [framePdu, scanned]
  exact ⟨carries.stNum, carries.sqNum⟩

/-- A received frame of a run has the numbers it was published with. -/
theorem Sends.numbers {operations : List Operation} {frames : List SentFrame}
    (sends : self.Sends operations frames) (prepared : self.Prepared parameters srcAddr)
    {frame : SentFrame} (member : frame ∈ frames) {memory : Memory}
    (held : memory.Holds 0 frame.packet) :
    (framePdu memory).stNum = frame.stNum ∧ (framePdu memory).sqNum = frame.sqNum := by
  induction sends with
  | nil => exact absurd member List.not_mem_nil
  | publish published success sent _ ih =>
      rcases List.mem_cons.mp member with rfl | member
      · exact numbers_of_published prepared published success sent held
      · obtain ⟨_, _, _, _, _, _, kept⟩ := publish_eq prepared published success
        exact ih kept member
  | call _ performed _ ih => exact ih (prepared.perform performed) member

end Sending

end GoosePublisher

/-! ## Receiving -/

/-- A frame in the receive buffer. -/
structure Arrival where
  memory : Memory
  numbytes : Nat
  now : UInt64

/-- A frame that was sent is received. -/
def Arrival.Brings (arrival : Arrival) (frame : SentFrame) : Prop :=
  arrival.memory.Holds 0 frame.packet ∧ arrival.numbytes = frame.packet.length

/-- A frame that arrives in a buffer of zeros. -/
def Arrival.ofFrame (frame : SentFrame) : Arrival :=
  ⟨Memory.ofOctets frame.packet fun _ => 0, frame.packet.length, 0⟩

theorem Arrival.brings_ofFrame (frame : SentFrame) : (ofFrame frame).Brings frame :=
  ⟨Memory.holds_ofOctets frame.packet _, rfl⟩

theorem brought_ofFrame (frames : List SentFrame) :
    List.Forall₂ Arrival.Brings (frames.map Arrival.ofFrame) frames := by
  induction frames with
  | nil => exact .nil
  | cons frame frames ih => exact .cons (Arrival.brings_ofFrame frame) ih

/-- The subscribers of a receiver once a frame is received. -/
def receive (subscribers : List GooseSubscriber) (arrival : Arrival) : List GooseSubscriber :=
  (parseGooseMessage subscribers arrival.memory arrival.numbytes arrival.now).value.subscriberList

/-- The subscribers once frames are received one after another. -/
def receiveAll (subscribers : List GooseSubscriber) (arrivals : List Arrival) :
    List GooseSubscriber :=
  arrivals.foldl receive subscribers

/-- The subscriber at an index is valid. -/
def IsValidAt (subscribers : List GooseSubscriber) (index : Nat) : Prop :=
  ∃ subscriber ∈ subscribers[index]?, subscriber.stateValid = true

instance (subscribers : List GooseSubscriber) (index : Nat) :
    Decidable (IsValidAt subscribers index) :=
  inferInstanceAs (Decidable (∃ subscriber ∈ subscribers[index]?, _))

/-- The data set of a frame is decoded for the subscriber at an index, and no error is
reported. -/
def DecodesAt (subscribers : List GooseSubscriber) (index : Nat) (arrival : Arrival) : Prop :=
  ∀ subscriber ∈ subscribers[index]?,
    (subscriber.decode arrival.memory (framePdu arrival.memory)).isValid = true

instance (subscribers : List GooseSubscriber) (index : Nat) (arrival : Arrival) :
    Decidable (DecodesAt subscribers index arrival) :=
  inferInstanceAs (Decidable (∀ subscriber ∈ subscribers[index]?, _))

/-- A frame is for the subscriber at an index. -/
def Matches (subscribers : List GooseSubscriber) (index : Nat) (arrival : Arrival) : Prop :=
  deliveredTo arrival.memory arrival.numbytes subscribers = some index

instance (subscribers : List GooseSubscriber) (index : Nat) (arrival : Arrival) :
    Decidable (Matches subscribers index arrival) :=
  inferInstanceAs (Decidable (_ = _))

/-- What a received frame leaves in the subscriber at an index. -/
theorem getElem?_receive (subscribers : List GooseSubscriber) (arrival : Arrival) (index : Nat) :
    (receive subscribers arrival)[index]? = subscribers[index]?.map fun subscriber =>
      let before := parsed arrival.memory arrival.numbytes subscribers index subscriber
      if Matches subscribers index arrival then
        (before.deliver arrival.memory (framePdu arrival.memory) arrival.now).value
      else before :=
  (received_parseGooseMessage subscribers arrival.memory arrival.numbytes arrival.now).state index

/-- Whom a reference selects does not depend on the frames that were received. -/
theorem selectAlike_receive (subscribers : List GooseSubscriber) (arrival : Arrival) :
    SelectAlike subscribers (receive subscribers arrival) := by
  intro octets
  apply List.ext_getElem?
  intro index
  rw [List.getElem?_map, List.getElem?_map, getElem?_receive, Option.map_map]
  congr 1
  funext subscriber
  have read : (parsed arrival.memory arrival.numbytes subscribers index subscriber).selects
      octets = subscriber.selects octets := by
    unfold parsed readBy
    split
    · rw [GooseSubscriber.selects_withStrings]
      split
      · unfold GooseSubscriber.withAddresses
        split <;> rfl
      · rfl
    · rfl
  rw [Function.comp_apply, ← read]
  dsimp only
  split
  · rw [GooseSubscriber.value_deliver]
    rfl
  · rfl

theorem matches_congr {first second : List GooseSubscriber} (alike : SelectAlike first second)
    (index : Nat) (arrival : Arrival) :
    Matches first index arrival ↔ Matches second index arrival := by
  rw [Matches, Matches, deliveredTo, deliveredTo, target_congr alike]

/-- What is written before delivery does not matter to the data set. -/
theorem decode_parsed (memory : Memory) (numbytes : Nat) (subscribers : List GooseSubscriber)
    (index : Nat) (subscriber : GooseSubscriber) (pdu : GoosePdu) :
    (parsed memory numbytes subscribers index subscriber).decode memory pdu =
      subscriber.decode memory pdu := by
  rw [parsed_eq memory numbytes subscribers index subscriber]
  rfl

/-- The numbers and the validity after a frame. -/
theorem receive_matching {subscribers : List GooseSubscriber} {index : Nat} {arrival : Arrival}
    {subscriber : GooseSubscriber} (found : subscribers[index]? = some subscriber)
    (matching : Matches subscribers index arrival) {stNum sqNum : UInt32}
    (numbers : (framePdu arrival.memory).stNum = stNum ∧
      (framePdu arrival.memory).sqNum = sqNum) :
    ∃ after, (receive subscribers arrival)[index]? = some after ∧ after.stNum = stNum ∧
      after.sqNum = sqNum ∧
      (after.stateValid = true ↔ DecodesAt subscribers index arrival ∧
        ¬ (subscriber.stNum = stNum ∧ subscriber.sqNum ≥ sqNum)) := by
  obtain ⟨_, state, _⟩ := received_parseGooseMessage subscribers arrival.memory arrival.numbytes
    arrival.now
  unfold Matches at matching
  refine ⟨_, by rw [receive, state, found, Option.map_some, if_pos matching], ?_⟩
  rw [GooseSubscriber.value_deliver, decode_parsed]
  refine ⟨numbers.1, numbers.2, ?_⟩
  have repeats : (parsed arrival.memory arrival.numbytes subscribers index subscriber).Repeated
      (framePdu arrival.memory) ↔
        subscriber.stNum = stNum ∧ subscriber.sqNum ≥ sqNum := by
    rw [parsed_eq, GooseSubscriber.Repeated, numbers.1, numbers.2]
  have decodes : DecodesAt subscribers index arrival ↔
      (subscriber.decode arrival.memory (framePdu arrival.memory)).isValid = true := by
    constructor
    · exact fun decodes => decodes subscriber found
    · intro valid other same
      rwa [← Option.some.inj (found.symm.trans same)]
  simp only [Bool.and_eq_true, Bool.not_eq_true', decide_eq_false_iff_not, repeats, decodes]

end GridGooseSV
