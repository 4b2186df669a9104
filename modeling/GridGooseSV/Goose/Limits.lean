import GridGooseSV.Goose.Publishing
import GridGooseSV.Mms.LengthPass

/-!
# The limits of a published frame

`GoosePublisher_publish` compares the size that is counted for a message with the room in the
buffer, and then writes the message. Octets that are not counted are written as well, so that a
message may be taken to fit that does not.
-/

namespace GridGooseSV

open BerDecoder BerEncoder

/-- The entries that are encoded have nothing missing. -/
theorem encodable_presentEntries {dataSet : Components}
    (complete : ComponentsEvery MmsValue.Encodable dataSet) :
    none ∉ presentEntries dataSet ∧
      ComponentsEvery MmsValue.Encodable (presentEntries dataSet) := by
  refine ⟨by simp [presentEntries], ?_⟩
  induction dataSet with
  | nil => trivial
  | cons entry rest ih =>
      obtain ⟨here, others⟩ := complete
      cases entry with
      | none => exact ih others
      | some value => exact ⟨here, ih others⟩

namespace GoosePublisher

/-- The message that is written if there is room for it. -/
def completeMessage (self : GoosePublisher) (dataSetValues : Components) : List UInt8 :=
  ((self.createGoosePayload dataSetValues (2 ^ 32)).join).getD []

/-- The octets before the message, and the message. -/
def frameLength (self : GoosePublisher) (dataSetValues : Components) : Nat :=
  self.payloadStart + (self.completeMessage dataSetValues).length

/-- The octets of the strings that are not counted. -/
def stringsUncounted (self : GoosePublisher) : Nat :=
  lengthUncounted ((self.goCBRef.map Subtype.val).getD []).length +
    lengthUncounted ((self.dataSetRef.map Subtype.val).getD []).length +
    lengthUncounted ((self.encodedGoID.map Subtype.val).getD []).length

/-- The octets of a message that are not counted: of its strings, of its data set, and of the
length fields around them, which state in 32 bits what is counted. -/
def uncounted (self : GoosePublisher) (dataSetValues : Components) : Nat :=
  let entries := presentEntries dataSetValues
  let octets := (encodeComponents entries).getD []
  let dataSetLength := (octets.length - componentsUncounted entries) % 2 ^ 32
  let allData := encodeTL 0xab dataSetLength ++ octets
  let inside := self.stringsUncounted + componentsUncounted entries + lengthUncounted dataSetLength
  let pduLength := ((self.encodeHeader dataSetValues ++ allData).length - inside) % 2 ^ 32
  inside + lengthUncounted pduLength

/-- What is promised of a publication, given the message that is written if there is room. -/
structure Bounded (publisher : GoosePublisher) (message : List UInt8) (publication : Publication) :
    Prop where
  inside : ∀ position, gooseMaxMessageSize ≤ position →
    publication.publisher.buffer position = publisher.buffer position
  returned : publication.returned = 0 ∨ publication.returned = -1
  failure : publication.returned = -1 ↔
    gooseMaxMessageSize < publisher.payloadStart + message.length
  unchanged : publication.returned = -1 → publication.sent = none ∧
    publication.publisher = { publisher with payloadLength := -1 }
  written : publication.returned = 0 →
    publication.publisher.buffer.Holds publisher.payloadStart message ∧
      bigEndian (publication.publisher.buffer.octets publisher.lengthField 2) = message.length + 8

/-- Publishing is bounded, and atomic if it fails. -/
def PublishesBounded (self : GoosePublisher) (dataSet : Components) : Prop :=
  ∃ publication, self.publish dataSet = some publication ∧
    self.Bounded (self.completeMessage dataSet) publication

/-! ## Sizes -/

theorem headerSize_add (self : GoosePublisher) (dataSet : Components) :
    self.headerSize dataSet + self.stringsUncounted = (self.encodeHeader dataSet).length := by
  have time : (encodeOctetString 0x84 self.timestamp.val).length = 10 := by
    rw [length_encodeOctetString, self.timestamp.property]
    rfl
  have flag : ∀ tag value, (encodeBoolean tag value).length = 3 := fun _ _ => rfl
  unfold encodeHeader
  simp only [List.length_append, length_encodeUInt32WithTL, time, flag,
    ← determineEncodedStringSize_uncounted, headerSize, stringsUncounted]
  omega

/-- The size that is compared with the room, and the message. -/
theorem createGoosePayload_of_encodable (self : GoosePublisher) {dataSet : Components}
    (complete : ComponentsEvery MmsValue.Encodable dataSet) (maxPayloadSize : Nat) :
    self.createGoosePayload dataSet maxPayloadSize =
      some (if ((self.completeMessage dataSet).length - self.uncounted dataSet) % 2 ^ 32 >
        maxPayloadSize then none else some (self.completeMessage dataSet)) := by
  obtain ⟨present, entries⟩ := encodable_presentEntries complete
  obtain ⟨size, octets, counted, encoded⟩ := components_exists_encoded _ present entries
  have all := componentsSize_add _ present entries counted encoded
  have header := self.headerSize_add dataSet
  obtain ⟨dataSetLength, isDataSetLength⟩ : ∃ number, number = size % 2 ^ 32 := ⟨_, rfl⟩
  obtain ⟨pduLength, isPduLength⟩ : ∃ number, number = (self.headerSize dataSet +
    (dataSetLength + determineLengthSize dataSetLength + 1)) % 2 ^ 32 := ⟨_, rfl⟩
  obtain ⟨message, isMessage⟩ : ∃ message, message = encodeTL 0x61 pduLength ++
    (self.encodeHeader dataSet ++ (encodeTL 0xab dataSetLength ++ octets)) := ⟨_, rfl⟩
  -- The sizes are compared in 32 bits.
  have created : ∀ maxPayloadSize, self.createGoosePayload dataSet maxPayloadSize =
      some (if (1 + determineLengthSize pduLength + pduLength) % 2 ^ 32 > maxPayloadSize then none
        else some message) := by
    intro maxPayloadSize
    simp only [createGoosePayload, counted, encoded, Option.bind_eq_bind, Option.bind_some,
      Option.pure_def, ← isDataSetLength, ← isPduLength, ← isMessage]
    split <;> rfl
  have complete : self.completeMessage dataSet = message := by
    rw [completeMessage, created, if_neg (by omega)]
    rfl
  have length : ∀ tag number, (encodeTL tag number).length =
      1 + determineLengthSize number + lengthUncounted number := by
    intro tag number
    rw [encodeTL, List.length_cons, length_encodeLength_uncounted]
    omega
  have data : (octets.length - componentsUncounted (presentEntries dataSet)) % 2 ^ 32 =
      dataSetLength := by
    rw [isDataSetLength, ← all, Nat.add_sub_cancel]
  have uncounted : self.uncounted dataSet = self.stringsUncounted +
      componentsUncounted (presentEntries dataSet) + lengthUncounted dataSetLength +
        lengthUncounted pduLength := by
    simp only [GoosePublisher.uncounted, encoded, Option.getD_some, data]
    congr 2
    rw [isPduLength, List.length_append, List.length_append, length, ← header, ← all]
    omega
  have compared : (message.length - self.uncounted dataSet) % 2 ^ 32 =
      (1 + determineLengthSize pduLength + pduLength) % 2 ^ 32 := by
    rw [isMessage, uncounted, List.length_append, List.length_append, List.length_append, length,
      length, ← header, ← all]
    omega
  rw [created, complete, compared]

/-! ## Publishers -/

/-- Where the length field and the payload stand in the buffer. -/
structure Framed (publisher : GoosePublisher) : Prop where
  lengthField : publisher.lengthField + 6 = publisher.payloadStart
  payloadStart : publisher.payloadStart ≤ 26

section Framed

variable {self after : GoosePublisher}

theorem framed_createEx (parameters : CommParameters) (srcAddr : Octets 6) (useVlanTag : Bool)
    (now : UInt64) (found : Memory) :
    (createEx parameters srcAddr useVlanTag now found).Framed := by
  refine ⟨rfl, ?_⟩
  have length : (frameHeader [0x88, 0xb8] parameters srcAddr useVlanTag).length ≤ 20 := by
    cases useVlanTag <;>
      simp [frameHeader, vlanTag, parameters.dstAddress.property, srcAddr.property]
  exact Nat.add_le_add_right length 6

theorem Framed.perform (framed : self.Framed) {operation : Operation}
    (performed : self.perform operation = some after) : after.Framed := by
  obtain ⟨lengthField, payloadStart⟩ := layout_perform performed
  exact ⟨by rw [lengthField, payloadStart, framed.lengthField],
    payloadStart.trans_le framed.payloadStart⟩

theorem Framed.performAll (framed : self.Framed) {operations : List Operation}
    (performed : self.performAll operations = some after) : after.Framed := by
  induction operations generalizing self with
  | nil =>
      obtain rfl := Option.some.inj performed
      exact framed
  | cons operation rest ih =>
      obtain ⟨next, first, others⟩ := Option.bind_eq_some_iff.mp performed
      exact ih (framed.perform first) others

/-- Publishing fails if the message is counted as too long. -/
theorem publish_long {dataSet : Components}
    (created : self.createGoosePayload dataSet (gooseMaxMessageSize - self.payloadStart) =
      some none) :
    self.publish dataSet = some ⟨-1, { self with payloadLength := -1 }, none⟩ := by
  simp only [publish, created, Option.bind_eq_bind, Option.bind_some, Option.pure_def]

/-- What is promised of a message that fits. -/
theorem Framed.bounded_of_fits (framed : self.Framed) {dataSet : Components}
    {message : List UInt8}
    (created : self.createGoosePayload dataSet (gooseMaxMessageSize - self.payloadStart) =
      some (some message)) (fits : self.payloadStart + message.length ≤ gooseMaxMessageSize) :
    ∃ publication, self.publish dataSet = some publication ∧
      self.Bounded message publication := by
  obtain ⟨publication, published, success⟩ : ∃ publication,
      self.publish dataSet = some publication ∧ publication.returned = 0 := by
    have room : ¬ message.length > gooseMaxMessageSize - self.payloadStart := by omega
    simp only [publish, created, Option.bind_eq_bind, Option.bind_some, Option.pure_def,
      if_neg room]
    exact ⟨_, rfl, rfl⟩
  refine ⟨publication, published, ?_⟩
  rcases publish_cases published with rfl | ⟨payload, same, _, rfl⟩
  · contradiction
  obtain rfl := Option.some.inj (Option.some.inj (same.symm.trans created))
  obtain ⟨lengthField, payloadStart⟩ := framed
  have limit : gooseMaxMessageSize = 1518 := rfl
  refine ⟨?_, .inl rfl, ?_, ?_, ?_⟩
  · intro position outside
    dsimp only
    rw [Memory.put_outside _ _ _ _ (.inr (by simp only [List.length_cons, List.length_nil]; omega)),
      Memory.put_outside _ _ _ _ (.inr (by omega))]
  · constructor
    · intro failed
      contradiction
    · intro long
      omega
  · intro failed
    contradiction
  · intro _
    constructor
    · exact (Memory.holds_put _ _ _).put
        (.inr (by simp only [List.length_cons, List.length_nil]; omega))
    · have field := (Memory.holds_put (self.buffer.put self.payloadStart payload) self.lengthField
        [UInt8.ofNat ((payload.length + 8) / 256), UInt8.ofNat ((payload.length + 8) % 256)]).octets
      simp only [List.length_cons, List.length_nil, Nat.zero_add, Nat.reduceAdd] at field
      simp only [field, bigEndian, List.foldl_cons, List.foldl_nil, UInt8.toNat_ofNat']
      omega

/-- Publishing is bounded in every state that a publisher reaches if and only if the frame fits,
or is too long even without the octets that are not counted. -/
theorem publishesBounded_iff {parameters : CommParameters} {srcAddr : Octets 6}
    {useVlanTag : Bool} {now : UInt64} {found : Memory} {operations : List Operation}
    (run : (createEx parameters srcAddr useVlanTag now found).performAll operations = some self)
    {dataSet : Components} (complete : ComponentsEvery MmsValue.Encodable dataSet) :
    self.PublishesBounded dataSet ↔ self.frameLength dataSet ≤ gooseMaxMessageSize ∨
      gooseMaxMessageSize < self.payloadStart +
        ((self.completeMessage dataSet).length - self.uncounted dataSet) % 2 ^ 32 := by
  have framed := (framed_createEx parameters srcAddr useVlanTag now found).performAll run
  have created := self.createGoosePayload_of_encodable complete
    (gooseMaxMessageSize - self.payloadStart)
  have start := framed.payloadStart
  have limit : gooseMaxMessageSize = 1518 := rfl
  rw [PublishesBounded, frameLength]
  generalize self.completeMessage dataSet = message at *
  by_cases long : (message.length - self.uncounted dataSet) % 2 ^ 32 >
      gooseMaxMessageSize - self.payloadStart
  · rw [if_pos long] at created
    refine ⟨fun _ => .inr (by omega), fun _ => ⟨_, publish_long created, ?_⟩⟩
    have exceeds : gooseMaxMessageSize < self.payloadStart + message.length := by omega
    exact ⟨fun _ _ => rfl, .inr rfl, ⟨fun _ => exceeds, fun _ => rfl⟩,
      fun _ => ⟨rfl, rfl⟩, fun success => by contradiction⟩
  · rw [if_neg long] at created
    constructor
    · rintro ⟨publication, published, bounded⟩
      rcases publish_cases published with rfl | ⟨payload, same, fits, rfl⟩
      · simp only [publish, created, Option.bind_eq_bind, Option.bind_some,
          Option.pure_def] at published
        split at published
        · contradiction
        · simp at published
      · obtain rfl := Option.some.inj (Option.some.inj (same.symm.trans created))
        exact .inl (by omega)
    · rintro (fits | exceeds)
      · exact framed.bounded_of_fits created fits
      · omega

end Framed

/-- An octet string and a bit string of 127 octets that together are counted to fill a frame. -/
def fullDataSet : Components :=
  [some (.octetString (MmsValue.newOctetString 1313 1313 (by decide))),
    some (.bitString (MmsValue.newBitString 1016))]

/-- A publisher of the default parameters. -/
def plainPublisher : GoosePublisher := create .default Octets.zero 0 fun _ => 0

/-- The message of 1493 octets is counted as 1492, and written past the end of the buffer. -/
theorem publish_overruns :
    ComponentsEvery MmsValue.Encodable fullDataSet ∧
      ¬ plainPublisher.PublishesBounded fullDataSet := by
  have overrun : (plainPublisher.publish fullDataSet).isNone := by decide +kernel
  refine ⟨⟨trivial, trivial, trivial⟩, fun bounded => ?_⟩
  obtain ⟨publication, published, _⟩ := bounded
  rw [published] at overrun
  contradiction

theorem publishesBounded_plainPublisher :
    ∃ self, plainPublisher.performAll [.setConfRev 1, .increaseStNum 1000] = some self ∧
      (self.PublishesBounded fullDataSet ↔
        self.frameLength fullDataSet ≤ gooseMaxMessageSize ∨
          gooseMaxMessageSize < self.payloadStart +
            ((self.completeMessage fullDataSet).length - self.uncounted fullDataSet) %
              2 ^ 32) := by
  have complete : ComponentsEvery MmsValue.Encodable fullDataSet := ⟨trivial, trivial, trivial⟩
  obtain ⟨self, run⟩ : ∃ self,
      plainPublisher.performAll [.setConfRev 1, .increaseStNum 1000] = some self := ⟨_, rfl⟩
  exact ⟨self, run, publishesBounded_iff run complete⟩

end GoosePublisher

end GridGooseSV
