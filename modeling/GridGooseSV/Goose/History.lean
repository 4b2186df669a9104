import GridGooseSV.Goose.Stream
import GridGooseSV.Goose.Updating
import GridGooseSV.Goose.Creation

/-!
# The data set and the frames before

The first frame fixes the storage of a data set that is built; the frames that follow
are decoded into it. The value after a frame is what a fresh subscriber would have got
from that frame, as long as its integers fit in what was fixed by the first one.
-/

namespace GridGooseSV

/-- A frame carries a data set. -/
def Arrival.Carries (arrival : Arrival) (data : List Data) : Prop :=
  let pdu := framePdu arrival.memory
  ∃ address, pdu.dataSetBufferAddress = some address ∧
    Data.CarriedAt arrival.memory address pdu.dataSetBufferLength data

/-- A well-formed frame for the subscriber at an index, of a configuration revision and
a shape of data sets, with the data set it carries. -/
structure IsMessage (subscribers : List GooseSubscriber) (index : Nat) (confRev : UInt32)
    (shape : List Data) (message : Arrival × List Data) : Prop where
  matching : Matches subscribers index message.1
  revision : (framePdu message.1.memory).confRev = confRev
  carries : message.1.Carries message.2
  alike : Data.shapes message.2 = shape

namespace GooseSubscriber

/-- A subscriber that is no observer, was created without a data set and has not
received a frame. -/
structure Unused (subscriber : GooseSubscriber) : Prop where
  unobserving : subscriber.isObserver = false
  empty : subscriber.dataSetValues = none
  allocating : subscriber.dataSetValuesSelfAllocated = true
  noError : subscriber.parseError = .noError

theorem unused_create (goCbRef : CString) : (create goCbRef none).Unused := ⟨rfl, rfl, rfl, rfl⟩

/-- A subscriber with a data set that was built for data. -/
structure Holding (subscriber : GooseSubscriber) (confRev : UInt32) (data : List Data) :
    Prop where
  unobserving : subscriber.isObserver = false
  revision : subscriber.confRev = confRev
  storage : ∃ components, subscriber.dataSetValues = some components ∧
    ComponentsBuiltFor components data

/-- A subscriber has decoded data without an error. -/
def HasDecoded (subscriber : GooseSubscriber) (data : List Data) : Prop :=
  subscriber.getParseError = .noError ∧
    subscriber.getDataSetValues.map componentsData = some data

end GooseSubscriber

section Messages

variable {subscribers : List GooseSubscriber} {index : Nat} {confRev : UInt32}
variable {shape : List Data} {message : Arrival × List Data}

/-- A message is delivered to its subscriber. -/
theorem receive_message {current : List GooseSubscriber} (alike : SelectAlike subscribers current)
    (isMessage : IsMessage subscribers index confRev shape message) {subscriber : GooseSubscriber}
    (found : current[index]? = some subscriber) :
    ∃ before : GooseSubscriber, (receive current message.1)[index]? =
        some (before.deliver message.1.memory (framePdu message.1.memory) message.1.now).value ∧
      before.isObserver = subscriber.isObserver ∧ before.confRev = subscriber.confRev ∧
      before.dataSetValues = subscriber.dataSetValues ∧
      before.dataSetValuesSelfAllocated = subscriber.dataSetValuesSelfAllocated ∧
      before.parseError = subscriber.parseError := by
  have matching := (matches_congr alike index message.1).mp isMessage.matching
  refine ⟨parsed message.1.memory message.1.numbytes current index subscriber, ?_, ?_⟩
  · rw [getElem?_receive, found, Option.map_some, if_pos matching]
  · rw [parsed_eq]
    exact ⟨rfl, rfl, rfl, rfl, rfl⟩

/-- The first message is decoded, and fixes the storage. -/
theorem decoded_first {current : List GooseSubscriber} (alike : SelectAlike subscribers current)
    (isMessage : IsMessage subscribers index confRev shape message) {subscriber : GooseSubscriber}
    (found : current[index]? = some subscriber) (unused : subscriber.Unused) :
    ∃ after, (receive current message.1)[index]? = some after ∧
      after.Holding confRev message.2 ∧ after.HasDecoded message.2 := by
  obtain ⟨before, reached, observer, _, values, _, error⟩ := receive_message alike isMessage found
  obtain ⟨address, given, carried⟩ := isMessage.carries
  obtain ⟨components, built, data, storage⟩ :=
    parseAllDataUnknownValue_of_carried carried before.dataSetValuesSelfAllocated
  have kept : before.keptDataSet (framePdu message.1.memory).confRev = none := by
    rw [GooseSubscriber.keptDataSet, values, unused.empty, ite_self]
  have decoded : before.decode message.1.memory (framePdu message.1.memory) =
      ⟨some components, true, .noError, true⟩ := by
    unfold GooseSubscriber.decode
    simp only [kept, given, Option.getD_some, built, error, unused.noError]
  refine ⟨_, reached, ?_⟩
  rw [GooseSubscriber.value_deliver, decoded]
  exact ⟨⟨observer.trans unused.unobserving, isMessage.revision, components, rfl, storage⟩,
    rfl, congrArg some data⟩

/-- Whatever a message carries, the storage is kept; the message is decoded exactly if
its integers fit. -/
theorem decoded_next {current : List GooseSubscriber} (alike : SelectAlike subscribers current)
    {data : List Data} (isMessage : IsMessage subscribers index confRev (Data.shapes data) message)
    {subscriber : GooseSubscriber} (found : current[index]? = some subscriber)
    (holding : subscriber.Holding confRev data) :
    ∃ after, (receive current message.1)[index]? = some after ∧ after.Holding confRev data ∧
      (after.HasDecoded message.2 ↔ Data.AllIntegersFit data message.2) := by
  obtain ⟨before, reached, observer, revision, values, _, _⟩ :=
    receive_message alike isMessage found
  obtain ⟨unobserving, same, components, present, storage⟩ := holding
  obtain ⟨address, given, carried⟩ := isMessage.carries
  have kept : before.keptDataSet (framePdu message.1.memory).confRev = some components := by
    rw [GooseSubscriber.keptDataSet, observer, unobserving, revision, same, isMessage.revision,
      values, present]
    simp
  have decoded : before.decode message.1.memory (framePdu message.1.memory) =
      let updated := (parseAllData message.1.memory address
        (framePdu message.1.memory).dataSetBufferLength components).value
      ⟨some updated.2, before.dataSetValuesSelfAllocated, updated.1, updated.1 = .noError⟩ := by
    unfold GooseSubscriber.decode
    simp only [kept, given, Option.getD_some]
  refine ⟨_, reached, ?_⟩
  rw [GooseSubscriber.value_deliver, decoded]
  refine ⟨⟨observer.trans unobserving, isMessage.revision, _, rfl, ?_⟩, ?_⟩
  · intro other
    rw [componentsCanTake_parseAllData]
    exact storage other
  · have takes := (parseAllData_carries_iff carried).trans (storage message.2)
    simp only [isMessage.alike, true_and] at takes
    simpa [GooseSubscriber.HasDecoded, GooseSubscriber.getParseError,
      GooseSubscriber.getDataSetValues] using takes

/-- Whatever the messages carry, the storage is kept. -/
theorem holding_receiveAll {messages : List (Arrival × List Data)} {data : List Data}
    (each : ∀ message ∈ messages,
      IsMessage subscribers index confRev (Data.shapes data) message)
    {current : List GooseSubscriber} (alike : SelectAlike subscribers current)
    {subscriber : GooseSubscriber} (found : current[index]? = some subscriber)
    (holding : subscriber.Holding confRev data) :
    let after := receiveAll current (messages.map Prod.fst)
    SelectAlike subscribers after ∧ ∃ subscriber, after[index]? = some subscriber ∧
      subscriber.Holding confRev data := by
  induction messages generalizing current subscriber with
  | nil => exact ⟨alike, subscriber, found, holding⟩
  | cons message rest ih =>
      obtain ⟨isMessage, others⟩ := List.forall_mem_cons.mp each
      obtain ⟨after, reached, kept, _⟩ := decoded_next alike isMessage found holding
      exact ih others
        (fun octets => (alike octets).trans (selectAlike_receive current message.1 octets))
        reached kept

/-- When the last of some messages is decoded into a data set that is kept. -/
theorem decoded_last_iff {messages : List (Arrival × List Data)} (nonempty : messages ≠ [])
    {data : List Data} (each : ∀ message ∈ messages,
      IsMessage subscribers index confRev (Data.shapes data) message)
    {current : List GooseSubscriber} (alike : SelectAlike subscribers current)
    {subscriber : GooseSubscriber} (found : current[index]? = some subscriber)
    (holding : subscriber.Holding confRev data) :
    (∃ after, (receiveAll current (messages.map Prod.fst))[index]? = some after ∧
        after.HasDecoded (messages.getLast nonempty).2) ↔
      Data.AllIntegersFit data (messages.getLast nonempty).2 := by
  obtain ⟨before, last, rfl⟩ : ∃ before last, messages = before ++ [last] :=
    ⟨_, _, (List.dropLast_append_getLast nonempty).symm⟩
  obtain ⟨earlier, isLast⟩ := List.forall_mem_append.mp each
  obtain ⟨alikeBefore, state, present, held⟩ := holding_receiveAll earlier alike found holding
  obtain ⟨after, reached, _, fit⟩ :=
    decoded_next alikeBefore (isLast last List.mem_cons_self) present held
  have all : receiveAll current ((before ++ [last]).map Prod.fst) =
      receive (receiveAll current (before.map Prod.fst)) last.1 := by
    simp [receiveAll, List.foldl_append]
  rw [all, reached, List.getLast_append_singleton, ← fit]
  simp

/-- After messages in a row the subscriber has no parse error, and the value that it would
have got from the last one alone. -/
def DecodedAsAlone (subscribers : List GooseSubscriber) (index : Nat) (arrivals : List Arrival)
    (last : Arrival) : Prop :=
  ∃ after alone, (receiveAll subscribers arrivals)[index]? = some after ∧
    (receive subscribers last)[index]? = some alone ∧ after.getParseError = .noError ∧
      after.getDataSetValues.map componentsData = alone.getDataSetValues.map componentsData

/-- The data set of the last message is decoded as it would have been alone exactly if its
integers fit in the storage that the first message fixed. -/
theorem decoded_as_alone_iff {subscriber : GooseSubscriber}
    (found : subscribers[index]? = some subscriber) (unused : subscriber.Unused)
    {messages : List (Arrival × List Data)} (nonempty : messages ≠ [])
    (each : ∀ message ∈ messages, IsMessage subscribers index confRev shape message) :
    DecodedAsAlone subscribers index (messages.map Prod.fst) (messages.getLast nonempty).1 ↔
      Data.AllIntegersFit (messages.head nonempty).2 (messages.getLast nonempty).2 := by
  have final := each _ (List.getLast_mem nonempty)
  -- The last message alone is always decoded.
  obtain ⟨alone, reachedAlone, _, _, single⟩ :=
    decoded_first (fun _ => rfl) final found unused
  have asAlone : DecodedAsAlone subscribers index (messages.map Prod.fst)
      (messages.getLast nonempty).1 ↔ ∃ after,
        (receiveAll subscribers (messages.map Prod.fst))[index]? = some after ∧
          after.HasDecoded (messages.getLast nonempty).2 := by
    simp only [DecodedAsAlone, reachedAlone, Option.some.injEq, exists_and_left,
      exists_eq_left', single]
    rfl
  rw [asAlone]
  obtain ⟨first, rest, rfl⟩ := List.exists_cons_of_ne_nil nonempty
  obtain ⟨isFirst, others⟩ := List.forall_mem_cons.mp each
  obtain ⟨after, reached, holding, decoded⟩ :=
    decoded_first (fun _ => rfl) isFirst found unused
  cases rest with
  | nil =>
      -- The integers of the only message fit in the storage that is built for them.
      obtain ⟨_, _, components, present, storage⟩ := holding
      obtain ⟨_, _, _, _, all⟩ := isFirst.carries
      have data : some (componentsData components) = some first.2 := by
        rw [← decoded.2, GooseSubscriber.getDataSetValues, present, Option.map_some]
      have fits := (storage first.2).mp
        (componentsCanTake_of_data first.2 all (Option.some.inj data))
      exact ⟨fun _ => fits.2, fun _ => ⟨after, reached, decoded⟩⟩
  | cons second rest =>
      exact decoded_last_iff (List.cons_ne_nil second rest)
        (fun message member => isFirst.alike.symm ▸ others message member)
        (selectAlike_receive subscribers first.1) reached holding

end Messages

/-- A frame for a reference of one character that carries one integer. -/
def integerMessage (octets : List UInt8) : Arrival × List Data :=
  let packet := pduFrame Octets.zero 0x1000
    [(0x80, [0x41]), (0xab, 0x85 :: UInt8.ofNat octets.length :: octets)]
  (⟨Memory.ofOctets packet fun _ => 0, packet.length, 0⟩, [.integer octets])

/-- A receiver with a fresh subscriber for that reference. -/
def receiverA : List GooseSubscriber := [.create ⟨[0x41], zero_notMem_a⟩ none]

theorem isMessage_integerMessage {octets : List UInt8} :
    let arrival := (integerMessage octets).1
    let memory := arrival.memory
    Matches receiverA 0 arrival →
    (framePdu memory).confRev = 0 →
    (framePdu memory).dataSetBufferAddress = some 19 →
    BerDecoder.elements memory 19 (framePdu memory).dataSetBufferLength
      (framePdu memory).dataSetBufferLength 0 = ⟨[⟨0x85, 21, octets.length⟩], true⟩ →
    octets.length ≤ 8 → octets = memory.octets 21 octets.length →
    IsMessage receiverA 0 0 [.integer []] (integerMessage octets) := by
  intro arrival memory matching revision address scanned short content
  exact ⟨matching, revision, ⟨19, address, _, scanned, ⟨rfl, short, content⟩, trivial⟩, rfl⟩

theorem decoded_as_alone_of_fitting :
    let messages := [integerMessage [1], integerMessage [1, 2, 3, 4, 5]]
    DecodedAsAlone receiverA 0 (messages.map Prod.fst) (integerMessage [1, 2, 3, 4, 5]).1 ↔
      Data.AllIntegersFit [.integer [1]] [.integer [1, 2, 3, 4, 5]] := by
  have first : IsMessage receiverA 0 0 [.integer []] (integerMessage [1]) := by
    apply isMessage_integerMessage <;> decide +kernel
  have second : IsMessage receiverA 0 0 [.integer []] (integerMessage [1, 2, 3, 4, 5]) := by
    apply isMessage_integerMessage <;> decide +kernel
  exact @decoded_as_alone_iff receiverA 0 0 [.integer []] _ rfl (GooseSubscriber.unused_create _)
    _ (List.cons_ne_nil _ _) (by simp [first, second])

/-- An integer of six octets is not decoded once the first one had a single octet. -/
theorem not_decoded_as_alone :
    ¬ ∀ (subscribers : List GooseSubscriber) (index : Nat) (subscriber : GooseSubscriber)
      (confRev : UInt32) (shape : List Data), subscribers[index]? = some subscriber →
      subscriber.Unused → ∀ (messages : List (Arrival × List Data)) (nonempty : messages ≠ []),
        (∀ message ∈ messages, IsMessage subscribers index confRev shape message) →
        DecodedAsAlone subscribers index (messages.map Prod.fst)
          (messages.getLast nonempty).1 := by
  intro claim
  have first : IsMessage receiverA 0 0 [.integer []] (integerMessage [1]) := by
    apply isMessage_integerMessage <;> decide +kernel
  have second : IsMessage receiverA 0 0 [.integer []] (integerMessage [1, 0, 0, 0, 0, 0]) := by
    apply isMessage_integerMessage <;> decide +kernel
  have error : (receiveAll receiverA [(integerMessage [1]).1,
      (integerMessage [1, 0, 0, 0, 0, 0]).1])[0]?.map GooseSubscriber.getParseError =
        some .underflow := by
    decide +kernel
  obtain ⟨after, _, reached, _, noError, _⟩ := claim receiverA 0 _ 0
    [.integer []] rfl
    (GooseSubscriber.unused_create _) [integerMessage [1], integerMessage [1, 0, 0, 0, 0, 0]]
    (List.cons_ne_nil _ _) (by simp [first, second])
  have same := congrArg (Option.map GooseSubscriber.getParseError) reached
  rw [Option.map_some, noError] at same
  exact absurd (error.symm.trans same) (by decide)

end GridGooseSV
