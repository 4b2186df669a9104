import GridGooseSV.Apps.GooseFrames
import GridGooseSV.Common.UtcTime

/-!
# The GOOSE receiver application

After `goose-receiver-app.cc`. The application has one subscriber, and keeps the timestamp and
the state number of the last message and the number of messages.
-/

namespace GridGooseSV.Ns3

/-- `ns3::GOOSEReceiver`, with the subscribers of its receiver. The times are in nanoseconds. -/
structure GOOSEReceiver where
  subscribers : List GooseSubscriber
  lastReceivedTime : Nat
  lastStNum : UInt16
  received : UInt64

/-- The subscriber of the application. -/
def gooseSubscriber : GooseSubscriber :=
  ((GooseSubscriber.create gcbAnalogValues none).setDstMac
    ⟨[0x01, 0x0c, 0xcd, 0x01, 0x00, 0x01], length_gooseAddress⟩ |>.setAppId 1000).setListener

namespace GOOSEReceiver

/-- `ns3::GOOSEReceiver::StartApplication`; two members are left as they were. -/
def startApplication (lastReceivedTime : Nat) (lastStNum : UInt16) : GOOSEReceiver where
  subscribers := [gooseSubscriber]
  lastReceivedTime := lastReceivedTime
  lastStNum := lastStNum
  received := 0

/-- `ns3::GOOSEReceiver::Receive`. -/
def receive (self : GOOSEReceiver) (subscriber : GooseSubscriber) : GOOSEReceiver :=
  { self with
    lastReceivedTime := subscriber.getTimestamp * 1000000
    lastStNum := subscriber.getStNum.toUInt16
    received := self.received + 1 }

/-- A frame arrives: the listener is called with the subscriber as the frame has left it. -/
def deliver (self : GOOSEReceiver) (arrival : Arrival) : GOOSEReceiver :=
  let reception :=
    (parseGooseMessage self.subscribers arrival.memory arrival.numbytes arrival.now).value
  reception.calls.foldl
    (fun self index => (reception.subscriberList[index]?.map self.receive).getD self)
    { self with subscribers := reception.subscriberList }

end GOOSEReceiver

/-- The subscriber of the application, whatever it has received. -/
structure Listening (subscriber : GooseSubscriber) : Prop where
  plain : subscriber.Plain
  goCBRef : subscriber.goCBRef.val = gcbAnalogValues.val
  listener : subscriber.listener = true

theorem listening_gooseSubscriber : Listening gooseSubscriber where
  plain := ⟨by decide, by decide⟩
  goCBRef := by decide
  listener := rfl

theorem Listening.selects {subscriber : GooseSubscriber} (listening : Listening subscriber) :
    subscriber.selects gcbAnalogValues.val :=
  (selects_iff_of_plain listening.plain _).mpr listening.goCBRef.symm

/-- A subscriber that is no observer keeps its reference while a frame is parsed. -/
theorem Listening.parsed {subscriber : GooseSubscriber} (listening : Listening subscriber)
    (memory : Memory) (numbytes : Nat) (subscribers : List GooseSubscriber) (index : Nat) :
    Listening (GridGooseSV.parsed memory numbytes subscribers index subscriber) := by
  obtain ⟨⟨unobserving, whole⟩, goCBRef, listener⟩ := listening
  have kept : subscriber.withAddresses memory = subscriber := if_neg unobserving
  unfold GridGooseSV.parsed
  split
  · rw [kept, ite_self, readBy, GooseSubscriber.withStrings, if_neg unobserving]
    exact ⟨⟨unobserving, whole⟩, goCBRef, listener⟩
  · exact ⟨⟨unobserving, whole⟩, goCBRef, listener⟩

/-- What a frame of the publisher application does to the receiver application. -/
theorem deliver_readable {receiver : GOOSEReceiver} {subscriber : GooseSubscriber}
    (only : receiver.subscribers = [subscriber]) (listening : Listening subscriber)
    {transmission : Transmission} (readable : transmission.Readable)
    (soon : transmission.assignedAt < 2 ^ 32 * 10 ^ 9) {arrival : Arrival}
    (brings : arrival.Brings transmission.frame) :
    ∃ after, Listening after ∧ receiver.deliver arrival = {
      subscribers := [after]
      lastReceivedTime := transmission.assignedAt / 1000000 * 1000000
      lastStNum := transmission.frame.stNum.toUInt16
      received := receiver.received + 1 } := by
  obtain ⟨held, numbytes⟩ := brings
  obtain ⟨goose, matching, stNum, position, stamp, given, stamped⟩ :=
    readable.read arrival.memory held
  obtain ⟨elements, scanned, matched⟩ := matching subscriber listening.selects
  obtain ⟨calls, list⟩ := received_sole goose scanned matched arrival.now
  have called : notified [subscriber] (some 0) = [0] := by
    simp [notified, listening.listener]
  have fields : framePdu arrival.memory = GoosePdu.ofElements arrival.memory elements := by
    rw [framePdu, scanned]
  have small : (milliSeconds transmission.assignedAt).toNat =
      transmission.assignedAt / 1000000 := by
    rw [milliSeconds, UInt64.toNat_ofNat', Nat.mod_eq_of_lt (by omega)]
  rw [← numbytes, ← fields] at list
  rw [← numbytes, called] at calls
  have time := timestampAfter_of_holds given stamped
    (parsed arrival.memory arrival.numbytes [subscriber] 0 subscriber)
  refine ⟨((parsed arrival.memory arrival.numbytes [subscriber] 0 subscriber).deliver
      arrival.memory (framePdu arrival.memory) arrival.now).value, ?_, ?_⟩
  · have read := listening.parsed arrival.memory arrival.numbytes [subscriber] 0
    rw [GooseSubscriber.value_deliver]
    exact ⟨⟨read.plain.unobserving, read.plain.whole⟩, read.goCBRef, read.listener⟩
  · rw [GOOSEReceiver.deliver, only]
    simp only [calls, list, List.foldl_cons, List.foldl_nil, List.getElem?_cons_zero,
      Option.map_some, Option.getD_some, GOOSEReceiver.receive, GooseSubscriber.value_deliver,
      GooseSubscriber.getStNum, GooseSubscriber.getTimestamp, stNum, time]
    rw [MmsValue.getUtcTimeInMs_setUtcTimeMs stamp (by rw [small]; omega), small]

end GridGooseSV.Ns3
