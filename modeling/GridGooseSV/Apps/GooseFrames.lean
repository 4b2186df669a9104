import GridGooseSV.Apps.GooseSchedule
import GridGooseSV.Goose.RoundTrip

/-!
# The frames of the GOOSE publisher application

The data set of the application is small, so that every message is sent. Each frame can be read
back: it has the numbers and the timestamp that it was published with.
-/

namespace GridGooseSV.Ns3

open BerDecoder BerEncoder

/-- A publisher as the application configures it. -/
structure Configured (appId : UInt16) (srcAddr : Octets 6)
    (publisher : GridGooseSV.GoosePublisher) : Prop where
  prepared : publisher.Prepared (gooseCommParameters appId) srcAddr
  goCBRef : publisher.goCBRef = some gcbAnalogValues
  dataSetRef : publisher.dataSetRef = some analogValues
  goID : publisher.goID = none

/-- A frame of the application that can be read back. -/
structure Transmission.Readable (transmission : Transmission) : Prop where
  read : ∀ memory, memory.Holds 0 transmission.frame.packet →
    IsGooseFrame memory transmission.frame.packet.length ∧
    (∀ subscriber : GooseSubscriber, subscriber.selects gcbAnalogValues.val →
      ∃ elements, frameElements memory = ⟨elements, true⟩ ∧
        matchAll memory [subscriber] elements none = (some 0, true)) ∧
    (framePdu memory).stNum = transmission.frame.stNum ∧
    ∃ position stamp, (framePdu memory).timestampBufPos = some position ∧
      memory.Holds position
        (MmsValue.setUtcTimeMs stamp (milliSeconds transmission.assignedAt)).val

section Publishing

variable {appId : UInt16} {srcAddr : Octets 6} {publisher : GridGooseSV.GoosePublisher}

theorem Configured.increaseStNum (configured : Configured appId srcAddr publisher)
    (currentTime : UInt64) : Configured appId srcAddr (publisher.increaseStNum currentTime) :=
  ⟨⟨configured.prepared.lengthField, configured.prepared.payloadStart,
    configured.prepared.header, configured.prepared.reserved⟩, configured.goCBRef,
    configured.dataSetRef, configured.goID⟩

/-- The octets of the data set. -/
def analogOctets : List UInt8 :=
  [0x85, 2, 0x04, 0xd2, 0x8c, 6, 0, 0, 0, 0, 0, 0, 0x85, 2, 0x16, 0x2e]

theorem length_encodeHeader_le (configured : Configured appId srcAddr publisher) :
    (publisher.encodeHeader analogDataSet).length ≤ 170 := by
  have reference : (encodeStringWithTag 0x80 (some gcbAnalogValues.val)).length = 43 := by decide
  have name : (encodeStringWithTag 0x82 (some analogValues.val)).length = 37 := by decide
  have identifier : (encodeStringWithTag 0x83 (some gcbAnalogValues.val)).length = 43 := by decide
  have time : (encodeOctetString 0x84 publisher.timestamp.val).length = 10 := by
    rw [length_encodeOctetString, publisher.timestamp.property]
    rfl
  have flag : ∀ tag value, (encodeBoolean tag value).length = 3 := fun _ _ => rfl
  have encodedGoID : publisher.encodedGoID = some gcbAnalogValues := by
    rw [GoosePublisher.encodedGoID, configured.goID, configured.goCBRef]
    rfl
  have live := uInt32determineEncodedSize_le publisher.timeAllowedToLive
  have state := uInt32determineEncodedSize_le publisher.stNum
  have sequence := uInt32determineEncodedSize_le publisher.sqNum
  have revision := uInt32determineEncodedSize_le publisher.confRev
  have entries : uInt32determineEncodedSize
      (GoosePublisher.numberOfDataSetEntries analogDataSet) = 1 := by decide
  simp only [GoosePublisher.encodeHeader, configured.goCBRef, configured.dataSetRef, encodedGoID,
    Option.map_some, List.length_append, reference, name, identifier, time, flag, entries,
    length_encodeUInt32WithTL]
  omega

/-- A message of the application is sent. -/
theorem Configured.published (configured : Configured appId srcAddr publisher) :
    ∃ publication packet, publisher.publish analogDataSet = some publication ∧
      publication.returned = 0 ∧ publication.sent = some packet := by
  have short := length_encodeHeader_le configured
  have header := publisher.headerSize_eq analogDataSet (by omega)
  have counted : componentsSize (presentEntries analogDataSet) = some 16 := by decide
  have encoded : encodeComponents (presentEntries analogDataSet) = some analogOctets := by decide
  have one : determineLengthSize 16 = 1 := rfl
  have tag : (encodeTL 0xab 16).length = 2 := rfl
  have octets : analogOctets.length = 16 := rfl
  have lengths := length_encodeLength_le (publisher.headerSize analogDataSet + (16 + 1 + 1))
  have few : determineLengthSize (publisher.headerSize analogDataSet + (16 + 1 + 1)) ≤ 4 := by
    unfold determineLengthSize
    split_ifs <;> omega
  obtain ⟨payload, created, fits⟩ : ∃ payload,
      publisher.createGoosePayload analogDataSet 1492 = some (some payload) ∧
        payload.length ≤ 1492 := by
    simp only [GoosePublisher.createGoosePayload, counted, encoded, Option.bind_eq_bind,
      Option.bind_some, Option.pure_def, Nat.reduceMod, Nat.reducePow, one]
    rw [@Nat.mod_eq_of_lt (publisher.headerSize analogDataSet + (16 + 1 + 1)) _ (by omega),
      Nat.mod_eq_of_lt (by omega), if_neg (by omega)]
    refine ⟨_, rfl, ?_⟩
    simp only [List.length_append, octets, tag]
    rw [encodeTL, List.length_cons]
    omega
  obtain ⟨publication, published, success, sent⟩ :=
    GoosePublisher.publish_of_created configured.prepared created fits
  exact ⟨publication, _, published, success, sent⟩

/-- What a publisher does with a message leaves it configured. -/
theorem Configured.publication (configured : Configured appId srcAddr publisher)
    {publication : Publication} (published : publisher.publish analogDataSet = some publication) :
    Configured appId srcAddr publication.publisher ∧
      publication.publisher.stNum = publisher.stNum := by
  obtain ⟨_, _, same, success, _⟩ := configured.published
  obtain rfl := Option.some.inj (published.symm.trans same)
  obtain ⟨_, _, _, _, _, after, prepared⟩ :=
    GoosePublisher.publish_eq configured.prepared published success
  refine ⟨⟨prepared, ?_, ?_, ?_⟩, ?_⟩
  all_goals rw [after]
  · exact configured.goCBRef
  · exact configured.dataSetRef
  · exact configured.goID

/-- A frame of the application can be read back. -/
theorem Configured.readable {now : Nat} (configured : Configured appId srcAddr publisher)
    {publication : Publication}
    (published : (publisher.increaseStNum (milliSeconds now)).publish analogDataSet =
      some publication) {packet : List UInt8} (sent : publication.sent = some packet)
    (startsEvent : Bool) (sqNum : UInt32) :
    Transmission.Readable ⟨startsEvent, now,
      ⟨(publisher.increaseStNum (milliSeconds now)).stNum, sqNum, packet⟩⟩ := by
  have increased := configured.increaseStNum (milliSeconds now)
  obtain ⟨_, _, same, success, _⟩ := increased.published
  obtain rfl := Option.some.inj (published.symm.trans same)
  obtain ⟨payload, _, created, fits, octets, _, _⟩ :=
    GoosePublisher.publish_eq increased.prepared published success
  obtain rfl := Option.some.inj (octets.symm.trans sent)
  obtain ⟨_, _, _, _, _, _, payloadEq⟩ :=
    GoosePublisher.createGoosePayload_eq created (by omega)
  constructor
  intro memory held
  have number : payload.length + 8 = (UInt16.ofNat (payload.length + 8)).toNat := by
    rw [UInt16.toNat_ofNat', Nat.mod_eq_of_lt (by omega)]
  obtain ⟨elements, scanned, written⟩ :=
    elements_of_encoded held readsBack_encodeLength payloadEq number
  have carries := carries_items written
  obtain ⟨position, given, stamped⟩ := carries.timestamp
  have fields : framePdu memory = GoosePdu.ofElements memory elements := by
    rw [framePdu, scanned]
  refine ⟨GoosePublisher.isGooseFrame_of_encoded payloadEq held, ?_, ?_, ?_⟩
  · intro subscriber selects
    have referenceFits : gcbAnalogValues.val.length ≤ stringLimit := by decide
    have dataSetFits : analogValues.val.length ≤ stringLimit := by decide
    have goId : ((publisher.increaseStNum (milliSeconds now)).encodedGoID.map Subtype.val).getD [] =
        gcbAnalogValues.val := by
      rw [GoosePublisher.encodedGoID, increased.goID, increased.goCBRef]
      rfl
    obtain ⟨matched, _⟩ := @handed_items _ _ _ _ _ written subscriber
      (by rw [increased.goCBRef]; exact selects) ⟨analogValues.val, dataSetFits⟩
      ⟨gcbAnalogValues.val, referenceFits⟩ (by rw [increased.dataSetRef]; rfl) goId
    exact ⟨elements, scanned, matched⟩
  · rw [fields]
    exact carries.stNum
  · rw [fields]
    exact ⟨position, publisher.timestamp, given, stamped⟩

end Publishing

end GridGooseSV.Ns3
