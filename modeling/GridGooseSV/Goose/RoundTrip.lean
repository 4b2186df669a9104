import GridGooseSV.Goose.Creation
import GridGooseSV.Goose.Publishing

/-!
# Publishing and receiving

A fresh subscriber with the reference of a publisher takes over what the publisher
publishes: the header of the message and the values of its data set.
-/

namespace GridGooseSV

open BerDecoder BerEncoder

/-! ## The only subscriber -/

/-- The string of an element that fits in a `char[130]` field. -/
theorem string?_of_content {memory : Memory} {element : Element} {octets : List UInt8}
    (content : element.content memory = octets) (fits : octets.length ≤ stringLimit) :
    element.string? memory = some ⟨octets, fits⟩ := by
  subst content
  have length : (element.content memory).length = element.length := by simp [Element.content]
  unfold Element.string?
  rw [dif_pos (length ▸ fits)]

/-- The elements of a message are for the subscriber that its reference selects. -/
theorem handed_items {publisher : GoosePublisher} {dataSet : Components} {content : List UInt8}
    {memory : Memory} {elements : List Element}
    (written : elements.map (fun element => (element.tag, element.content memory)) =
      publisher.items dataSet content)
    {subscriber : GooseSubscriber}
    (selects : subscriber.selects ((publisher.goCBRef.map Subtype.val).getD []))
    {datSet goId : StringField}
    (datSetGiven : (publisher.dataSetRef.map Subtype.val).getD [] = datSet)
    (goIdGiven : (publisher.encodedGoID.map Subtype.val).getD [] = goId) :
    matchAll memory [subscriber] elements none = (some 0, true) ∧
      handed memory [subscriber] .datSet 0 elements none = some datSet ∧
      handed memory [subscriber] .goId 0 elements none = some goId ∧
      ∀ reference : StringField, (publisher.goCBRef.map Subtype.val).getD [] = reference →
        handed memory [subscriber] .gocbRef 0 elements none = some reference := by
  obtain ⟨first, live, second, third, time, state, sequence, simulation, revision, commission,
    entries, allData, rfl, ⟨tag0, octets0⟩, ⟨tag1, _⟩, ⟨tag2, octets2⟩, ⟨tag3, octets3⟩,
    ⟨tag4, _⟩, ⟨tag5, _⟩, ⟨tag6, _⟩, ⟨tag7, _⟩, ⟨tag8, _⟩, ⟨tag9, _⟩, ⟨tag10, _⟩, tag11, _⟩ :=
    elements_of_items written
  have found : selected memory first [subscriber] = some 0 := by
    rw [selected, List.findIdx?_cons, octets0, selects]
    rfl
  have second := string?_of_content (octets2.trans datSetGiven) datSet.property
  have third := string?_of_content (octets3.trans goIdGiven) goId.property
  have reads : ∀ reference : StringField, (publisher.goCBRef.map Subtype.val).getD [] = reference →
      first.string? memory = some reference :=
    fun reference given => string?_of_content (octets0.trans given) reference.property
  simpa [matchAll, handed, matchAfter, goesOn, handedBy, Element.pduTag, PduTag.ofOctet?, tag0,
    tag1, tag2, tag3, tag4, tag5, tag6, tag7, tag8, tag9, tag10, tag11, found, second, third]
    using reads

/-- A message is delivered to the only subscriber of a receiver. -/
theorem received_sole {memory : Memory} {numbytes : Nat} {elements : List Element}
    {subscriber : GooseSubscriber} (goose : IsGooseFrame memory numbytes)
    (scanned : frameElements memory = ⟨elements, true⟩)
    (matched : matchAll memory [subscriber] elements none = (some 0, true)) (now : UInt64) :
    let reception := (parseGooseMessage [subscriber] memory numbytes now).value
    reception.calls = notified [subscriber] (some 0) ∧
      reception.subscriberList = [((parsed memory numbytes [subscriber] 0 subscriber).deliver
        memory (GoosePdu.ofElements memory elements) now).value] := by
  obtain ⟨_, state, calls⟩ := received_parseGooseMessage [subscriber] memory numbytes now
  have here : deliveredTo memory numbytes [subscriber] = some 0 := by
    rw [deliveredTo, if_pos goose, target, scanned, matched]
    rfl
  rw [here] at state calls
  refine ⟨calls, ?_⟩
  apply List.ext_getElem?
  intro index
  rw [state]
  cases index with
  | zero => simp [framePdu, scanned]
  | succ index => simp

/-- What a message does to the only subscriber of a receiver. -/
theorem received_alone {memory : Memory} {numbytes : Nat} {elements : List Element}
    {subscriber : GooseSubscriber} (plain : ¬ subscriber.isObserver)
    (goose : IsGooseFrame memory numbytes) (scanned : frameElements memory = ⟨elements, true⟩)
    (matched : matchAll memory [subscriber] elements none = (some 0, true))
    {datSet goId : StringField}
    (datSetHanded : handed memory [subscriber] .datSet 0 elements none = some datSet)
    (goIdHanded : handed memory [subscriber] .goId 0 elements none = some goId) (now : UInt64) :
    let reception := (parseGooseMessage [subscriber] memory numbytes now).value
    reception.calls = notified [subscriber] (some 0) ∧
      reception.subscriberList = [(({ subscriber with datSet := datSet, goId := goId } :
        GooseSubscriber).deliver memory (GoosePdu.ofElements memory elements) now).value] := by
  have read : parsed memory numbytes [subscriber] 0 subscriber =
      { subscriber with datSet := datSet, goId := goId } := by
    have kept : subscriber.withAddresses memory = subscriber := if_neg plain
    rw [parsed, if_pos goose, kept, ite_self, readBy, scanned, datSetHanded, goIdHanded]
    unfold GooseSubscriber.withStrings
    rw [if_neg plain]
    rfl
  rw [← read]
  exact received_sole goose scanned matched now

/-! ## What is received -/

/-- A subscriber has taken over what was published. -/
structure Mirrors (publisher : GoosePublisher) (reference dataSetRef : CString)
    (values : List MmsValue) (subscriber : GooseSubscriber) : Prop where
  goCbRef : subscriber.getGoCbRef = reference.val
  dataSet : subscriber.getDataSet = dataSetRef.val
  goId : subscriber.getGoId = (publisher.goID.getD reference).val
  confRev : subscriber.getConfRev = publisher.confRev
  timeAllowedToLive : subscriber.getTimeAllowedToLive = publisher.timeAllowedToLive
  stNum : subscriber.getStNum = publisher.stNum
  sqNum : subscriber.getSqNum = publisher.sqNum
  simulation : subscriber.isTest = publisher.simulation
  needsCommission : subscriber.needsCommission = publisher.needsCommission
  timestamp : subscriber.timestamp = publisher.timestamp
  dataSetValues : ∃ components, subscriber.getDataSetValues = some components ∧
    componentsData components = componentsData (values.map some)
  parseError : subscriber.getParseError = .noError
  stateValid : subscriber.stateValid = true

theorem componentsWellFormed_map {values : List MmsValue}
    (wellFormed : ∀ value ∈ values, value.WellFormed) :
    ComponentsWellFormed (values.map some) := by
  induction values with
  | nil => trivial
  | cons value values ih =>
      obtain ⟨first, rest⟩ := List.forall_mem_cons.mp wellFormed
      exact ⟨first, ih rest⟩

theorem presentEntries_map (values : List MmsValue) :
    presentEntries (values.map some) = values.map some :=
  List.filter_eq_self.mpr (by simp)

/-- The elements of a data set that is encoded. -/
theorem elements_of_encodesAll {size : Option Nat} {octets : List UInt8} {data : List Data}
    (all : EncodesAll size octets data) (short : octets.length < 2 ^ 16) {memory : Memory}
    {address : Nat} (held : memory.Holds address octets) :
    ∃ parts, elements memory address octets.length octets.length 0 = ⟨parts, true⟩ ∧
      Data.AllCarried memory data parts ∧ ∀ part ∈ parts, part.Supplies memory := by
  obtain ⟨_, items, rfl, carried⟩ := all
  refine ⟨_, ?_, carried memory address held⟩
  exact @elements_tlvs memory address ((tlvs encodeLength items).length : Nat)
    (tlvs encodeLength items).length 0 encodeLength readsBack_encodeLength items held
    (Nat.zero_add _).symm short (Int.le_refl _)

/-- A data set that is encoded is carried by its element. -/
theorem carriedAt_of_encodesAll {size : Option Nat} {octets : List UInt8} {data : List Data}
    (all : EncodesAll size octets data) (short : octets.length < 2 ^ 16) {memory : Memory}
    {address : Nat} (held : memory.Holds address octets) :
    Data.CarriedAt memory address octets.length data := by
  obtain ⟨parts, scanned, carried, _⟩ := elements_of_encodesAll all short held
  exact ⟨parts, scanned, carried⟩

/-- A timestamp that a message carries is taken over. -/
theorem timestampAfter_of_holds {memory : Memory} {pdu : GoosePdu} {position : Nat}
    {timestamp : Octets 8} (given : pdu.timestampBufPos = some position)
    (held : memory.Holds position timestamp.val) (subscriber : GooseSubscriber) :
    subscriber.timestampAfter memory pdu = timestamp := by
  have eight := held.octets
  rw [timestamp.property] at eight
  unfold GooseSubscriber.timestampAfter MmsValue.setUtcTimeByBuffer
  simp only [given, eight]
  apply Subtype.ext
  rw [List.take_of_length_le (Nat.le_of_eq timestamp.property)]
  exact Octets.overwrite_all _ timestamp.property

/-- The only subscriber of a receiver, once a message for it has arrived. -/
theorem mirrors_delivered {publisher : GoosePublisher} {reference dataSetRef : CString}
    {values : List MmsValue} {content : List UInt8} {memory : Memory} {pdu : GoosePdu}
    (carries : publisher.Carries content memory pdu)
    (carried : ∀ address, memory.Holds address content →
      Data.CarriedAt memory address content.length (componentsData (values.map some)))
    (state : publisher.stNum ≠ 0) {subscriber : GooseSubscriber}
    (fresh : subscriber.dataSetValues = none ∧ subscriber.stNum = 0 ∧
      subscriber.parseError = .noError)
    (goCbRef : subscriber.getGoCbRef = reference.val)
    (dataSet : subscriber.getDataSet = dataSetRef.val)
    (goId : subscriber.getGoId = (publisher.goID.getD reference).val) (now : UInt64) :
    Mirrors publisher reference dataSetRef values (subscriber.deliver memory pdu now).value := by
  obtain ⟨nothing, zero, noError⟩ := fresh
  obtain ⟨position, givenTime, octets⟩ := carries.timestamp
  obtain ⟨address, givenData, length, held⟩ := carries.dataSet
  obtain ⟨components, built, data, _⟩ := parseAllDataUnknownValue_of_carried (carried address held)
    subscriber.dataSetValuesSelfAllocated
  have kept : subscriber.keptDataSet pdu.confRev = none := by
    unfold GooseSubscriber.keptDataSet
    rw [nothing, ite_self]
  have decoded : subscriber.decode memory pdu = ⟨some components, true, .noError, true⟩ := by
    unfold GooseSubscriber.decode
    simp only [kept, givenData, Option.getD_some, length, built, noError]
  have time := timestampAfter_of_holds givenTime octets subscriber
  rw [GooseSubscriber.value_deliver, decoded, time]
  exact {
    goCbRef := goCbRef
    dataSet := dataSet
    goId := goId
    confRev := carries.confRev
    timeAllowedToLive := carries.timeAllowedToLive
    stNum := carries.stNum
    sqNum := carries.sqNum
    simulation := carries.simulation
    needsCommission := carries.ndsCom
    timestamp := rfl
    dataSetValues := ⟨components, rfl, data⟩
    parseError := rfl
    stateValid := by
      have newer : ¬ subscriber.Repeated pdu := by
        rintro ⟨same, _⟩
        exact state (carries.stNum.symm.trans (same.symm.trans zero))
      simp [newer] }

/-- A message that is sent arrives at a fresh subscriber with its reference. -/
theorem mirrors_received {parameters : CommParameters} {srcAddr : Octets 6}
    {publisher : GoosePublisher} (prepared : publisher.Prepared parameters srcAddr)
    {reference dataSetRef : CString} (goCBRef : publisher.goCBRef = some reference)
    (referenceFits : reference.val.length ≤ stringLimit)
    (dataSet : publisher.dataSetRef = some dataSetRef)
    (dataSetFits : dataSetRef.val.length ≤ stringLimit)
    (goIDFits : ∀ goID ∈ publisher.goID, goID.val.length ≤ stringLimit)
    (state : publisher.stNum ≠ 0) {values : List MmsValue}
    (wellFormed : ∀ value ∈ values, value.WellFormed) {publication : Publication}
    (published : publisher.publish (values.map some) = some publication)
    (success : publication.returned = 0) :
    ∃ packet, publication.sent = some packet ∧ ∀ (memory : Memory) (now : UInt64),
      memory.Holds 0 packet →
      let reception := (parseGooseMessage [(GooseSubscriber.create reference none).setListener]
        memory packet.length now).value
      reception.calls = [0] ∧ ∃ subscriber, reception.subscriberList = [subscriber] ∧
        Mirrors publisher reference dataSetRef values subscriber := by
  obtain ⟨payload, _, created, fits, sent, _, _⟩ :=
    GoosePublisher.publish_eq prepared published success
  obtain ⟨size, entries, counted, written, _, shorter, payloadEq⟩ :=
    GoosePublisher.createGoosePayload_eq created (by omega)
  rw [presentEntries_map] at counted written
  have all := encodesAll _ (componentsWellFormed_map wellFormed) written (by omega)
  obtain rfl := Option.some.inj (counted.symm.trans all.counted)
  rw [List.take_length] at payloadEq
  refine ⟨_, sent, ?_⟩
  intro memory now held
  have number : payload.length + 8 = (UInt16.ofNat (payload.length + 8)).toNat := by
    rw [UInt16.toNat_ofNat', Nat.mod_eq_of_lt (by omega)]
  obtain ⟨elements, scanned, written⟩ :=
    elements_of_encoded held readsBack_encodeLength payloadEq number
  have carries := carries_items written
  obtain ⟨unobserving, uncut⟩ := plain_create referenceFits none
  have plain : (GooseSubscriber.create reference none).setListener.Plain := ⟨unobserving, uncut⟩
  have whole : (GooseSubscriber.create reference none).goCBRef.val = reference.val :=
    List.take_of_length_le referenceFits
  have selects : (GooseSubscriber.create reference none).setListener.selects
      ((publisher.goCBRef.map Subtype.val).getD []) := by
    rw [goCBRef]
    exact (selects_iff_of_plain plain _).mpr whole.symm
  have goId : (publisher.encodedGoID.map Subtype.val).getD [] =
      (publisher.goID.getD reference).val := by
    unfold GoosePublisher.encodedGoID
    rw [goCBRef]
    cases publisher.goID <;> rfl
  have goIdFits : (publisher.goID.getD reference).val.length ≤ stringLimit := by
    cases given : publisher.goID with
    | none => exact referenceFits
    | some goID => exact goIDFits goID given
  obtain ⟨matched, datSetHanded, goIdHanded, _⟩ := @handed_items _ _ _ _ _ written _ selects
    ⟨dataSetRef.val, dataSetFits⟩ ⟨_, goIdFits⟩ (by rw [dataSet]; rfl) goId
  have goose := GoosePublisher.isGooseFrame_of_encoded payloadEq held
  obtain ⟨calls, list⟩ :=
    received_alone plain.unobserving goose scanned matched datSetHanded goIdHanded now
  refine ⟨calls, _, list, ?_⟩
  apply mirrors_delivered carries
  · intro address held
    exact carriedAt_of_encodesAll all (by omega) held
  · exact state
  · exact ⟨rfl, rfl, rfl⟩
  · exact (congrArg cString whole).trans (cString_eq_self reference.property)
  · exact cString_eq_self dataSetRef.property
  · exact cString_eq_self (publisher.goID.getD reference).property

/-- Whatever a publisher did before, a message that it sends arrives at a fresh
subscriber with its reference: the listener is called once and the subscriber has the
header and the values that were published. -/
theorem mirrors_published {parameters : CommParameters} {srcAddr : Octets 6} {created : UInt64}
    {found : Memory} {operations : List GoosePublisher.Operation} {publisher : GoosePublisher}
    (run : (GoosePublisher.create parameters srcAddr created found).performAll operations =
      some publisher) (timestamp : Octets 8)
    {reference dataSetRef : CString} (goCBRef : publisher.goCBRef = some reference)
    (referenceFits : reference.val.length ≤ 129)
    (dataSet : publisher.dataSetRef = some dataSetRef) (dataSetFits : dataSetRef.val.length ≤ 129)
    (goIDFits : ∀ goID ∈ publisher.goID, goID.val.length ≤ 129) (state : 1 ≤ publisher.stNum)
    {values : List MmsValue} (wellFormed : ∀ value ∈ values, value.WellFormed)
    {publication : Publication}
    (published : ({ publisher with timestamp := timestamp } : GoosePublisher).publish
      (values.map some) = some publication)
    (success : publication.returned = 0) :
    ∃ packet, publication.sent = some packet ∧ ∀ (memory : Memory) (now : UInt64),
      memory.Holds 0 packet →
      let reception := (parseGooseMessage [(GooseSubscriber.create reference none).setListener]
        memory packet.length now).value
      reception.calls = [0] ∧ ∃ subscriber, reception.subscriberList = [subscriber] ∧
        Mirrors { publisher with timestamp := timestamp } reference dataSetRef values
          subscriber := by
  obtain ⟨lengthField, payloadStart, header, reserved⟩ :=
    (GoosePublisher.prepared_create parameters srcAddr created found).performAll run
  have prepared : ({ publisher with timestamp := timestamp } : GoosePublisher).Prepared parameters
      srcAddr := ⟨lengthField, payloadStart, header, reserved⟩
  have positive : publisher.stNum ≠ 0 := by
    rintro zero
    rw [zero] at state
    exact absurd state (by decide)
  exact mirrors_received prepared goCBRef referenceFits dataSet dataSetFits goIDFits positive
    wellFormed published success

/-- A publisher that is prepared by calls of its setters. -/
def publisherA : GoosePublisher :=
  { GoosePublisher.create .default Octets.zero 0 fun _ => 0 with
    goCBRef := some ⟨[0x41], zero_notMem_a⟩
    dataSetRef := some ⟨[0x42], zero_notMem_b⟩
    confRev := 300
    stNum := 200
    sqNum := 70000 }

/-- A structure of a bit string and an integer, and a double. -/
def nestedValues : List MmsValue :=
  [.complex .structure [some (.bitString ⟨10, [0xff, 0xc0], by decide⟩),
      some (.integer (BerInteger.createInt32.setOctets [0x01, 0x02] (by decide)))],
    .float (MmsValue.newDouble ⟨[0, 0, 0, 0, 0, 0, 0xf0, 0x3f], rfl⟩)]

theorem mirrors_nestedValues :
    let publisher := { publisherA with timestamp := ⟨[1, 2, 3, 4, 5, 6, 7, 8], rfl⟩ }
    ∃ publication packet, publisher.publish (nestedValues.map some) = some publication ∧
      publication.sent = some packet ∧ ∀ (memory : Memory) (now : UInt64),
        memory.Holds 0 packet →
        let reception := (parseGooseMessage
          [(GooseSubscriber.create ⟨[0x41], by decide⟩ none).setListener]
          memory packet.length now).value
        reception.calls = [0] ∧ ∃ subscriber, reception.subscriberList = [subscriber] ∧
          Mirrors publisher ⟨[0x41], by decide⟩ ⟨[0x42], by decide⟩ nestedValues subscriber := by
  have run : (GoosePublisher.create .default Octets.zero 0 fun _ => 0).performAll
      [.setGoCbRef ⟨[0x41], by decide⟩, .setDataSetRef ⟨[0x42], by decide⟩, .setConfRev 300,
        .setStNum 200, .setSqNum 70000] = some publisherA := rfl
  have returned : ((({ publisherA with timestamp := ⟨[1, 2, 3, 4, 5, 6, 7, 8], rfl⟩ } :
      GoosePublisher).publish (nestedValues.map some)).map Publication.returned) = some 0 := by
    decide +kernel
  obtain ⟨publication, published, success⟩ := Option.map_eq_some_iff.mp returned
  have wellFormed : ∀ value ∈ nestedValues, value.WellFormed := by
    simp [nestedValues, MmsValue.WellFormed, ComponentsWellFormed, ComponentWellFormed]
    decide
  obtain ⟨packet, sent, received⟩ := mirrors_published run ⟨[1, 2, 3, 4, 5, 6, 7, 8], rfl⟩ rfl
    (by decide) rfl (by decide)
    (by simp [publisherA, GoosePublisher.create, GoosePublisher.createEx]) (by decide) wellFormed
    published success
  exact ⟨publication, packet, published, sent, received⟩

end GridGooseSV
