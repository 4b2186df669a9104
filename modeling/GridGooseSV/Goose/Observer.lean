import GridGooseSV.Goose.Untagged

/-!
# What an observer learns of the sender

An observer takes over the strings of a message and, from the header of the frame, its
APPID and its addresses. The receiver looks for the addresses in front of the octets it
gets, where the tag control information and the length field stand: it has the addresses
of the sender only if these octets happen to be the same.
-/

namespace GridGooseSV

open BerDecoder BerEncoder

/-- An observer tells what the sender was given. -/
structure MirrorsSender (parameters : CommParameters) (srcAddr : Octets 6)
    (publisher : GoosePublisher) (reference dataSetRef : CString) (observer : GooseSubscriber) :
    Prop where
  appId : observer.getAppId = parameters.appId.toNat
  dstMac : observer.getDstMac = parameters.dstAddress
  srcMac : observer.getSrcMac = srcAddr
  goCbRef : observer.getGoCbRef = reference.val
  goId : observer.getGoId = (publisher.goID.getD reference).val
  dataSet : observer.getDataSet = dataSetRef.val

/-- What the receiver takes for the destination address of a frame with a VLAN tag. -/
def seenDestination (parameters : CommParameters) : Octets 6 :=
  ⟨(GoosePublisher.tagControl parameters).val ++
    [0x88, 0xb8, highOctet parameters.appId, lowOctet parameters.appId], rfl⟩

/-- What the receiver takes for the source address of a frame with a VLAN tag and the
given PDU. -/
def seenSource (payload : List UInt8) : Octets 6 :=
  let length := UInt16.ofNat (payload.length + 8)
  ⟨[highOctet length, lowOctet length, 0x00, 0x00, 0x00, 0x00], rfl⟩

/-- The addresses of a publisher's next frame happen to be what the receiver takes for
them. -/
def SeenAsSent (parameters : CommParameters) (srcAddr : Octets 6) (publisher : GoosePublisher)
    (dataSet : Components) : Prop :=
  parameters.dstAddress = seenDestination parameters ∧
    ∃ payload, publisher.createGoosePayload dataSet 1492 = some (some payload) ∧
      srcAddr = seenSource payload

section Observing

variable {parameters : CommParameters} {srcAddr : Octets 6} {publisher : GoosePublisher}
variable {reference dataSetRef : CString}

/-- The octets that are taken for the addresses. -/
theorem addresses_of_received {memory : Memory} {tagControl : Octets 2} {appId length : UInt16}
    {payload : List UInt8} (held : memory.Holds 0 (receivedFrame tagControl appId length payload)) :
    (frameDstMac memory).val =
        tagControl.val ++ [0x88, 0xb8, highOctet appId, lowOctet appId] ∧
      (frameSrcMac memory).val =
        [highOctet length, lowOctet length, 0x00, 0x00, 0x00, 0x00] := by
  have split : receivedFrame tagControl appId length payload =
      (tagControl.val ++ [0x88, 0xb8, highOctet appId, lowOctet appId]) ++
        ([highOctet length, lowOctet length, 0x00, 0x00, 0x00, 0x00] ++ payload) := by
    simp [receivedFrame]
  have six : (tagControl.val ++ [0x88, 0xb8, highOctet appId, lowOctet appId]).length = 6 := by
    rw [List.length_append, tagControl.property]
    rfl
  rw [split] at held
  obtain ⟨destination, rest⟩ := Memory.holds_append.mp held
  rw [six] at rest
  have source := (Memory.holds_append.mp rest).1
  have octets := destination.octets
  rw [six] at octets
  exact ⟨octets, source.octets⟩

/-- An observer that is the only subscriber takes over strings and addresses. -/
theorem strings_of_observed {observer : GooseSubscriber} (observing : observer.isObserver = true)
    {memory : Memory} {numbytes : Nat} (goose : IsGooseFrame memory numbytes)
    {elements : List Element} (scanned : frameElements memory = ⟨elements, true⟩)
    {goCbRef datSet goId : StringField}
    (goCbRefHanded : handed memory [observer] .gocbRef 0 elements none = some goCbRef)
    (datSetHanded : handed memory [observer] .datSet 0 elements none = some datSet)
    (goIdHanded : handed memory [observer] .goId 0 elements none = some goId) :
    parsed memory numbytes [observer] 0 observer = { observer with
      goCBRef := goCbRef
      datSet := datSet
      goId := goId
      appId := (frameAppId memory).toNat
      srcMac := frameSrcMac memory
      dstMac := frameDstMac memory } := by
  have here : interested memory [observer] = some 0 := by
    rw [interested, List.findIdx?_cons, observing]
    rfl
  rw [parsed, if_pos goose, if_pos here, readBy, scanned, goCbRefHanded, datSetHanded, goIdHanded,
    GooseSubscriber.withAddresses, if_pos observing, GooseSubscriber.withStrings]
  simp only [observing, ↓reduceIte, Option.getD_some]

/-- What an observer has after a message with a VLAN tag. -/
theorem observed_tagged (prepared : publisher.Prepared parameters srcAddr)
    (goCBRef : publisher.goCBRef = some reference)
    (referenceFits : reference.val.length ≤ stringLimit)
    (dataSet : publisher.dataSetRef = some dataSetRef)
    (dataSetFits : dataSetRef.val.length ≤ stringLimit)
    (goIDFits : ∀ goID ∈ publisher.goID, goID.val.length ≤ stringLimit)
    {values : Components} {publication : Publication}
    (published : publisher.publish values = some publication) (success : publication.returned = 0)
    {observer : GooseSubscriber} (observing : observer.isObserver = true) :
    ∃ packet payload, publication.sent = some packet ∧
      publisher.createGoosePayload values 1492 = some (some payload) ∧
      ∀ (memory : Memory) (now : UInt64), memory.Holds 0 packet →
        ∃ after, (parseGooseMessage [observer] memory packet.length now).value.subscriberList =
            [after] ∧
          (MirrorsSender parameters srcAddr publisher reference dataSetRef after ↔
            parameters.dstAddress = seenDestination parameters ∧ srcAddr = seenSource payload) := by
  obtain ⟨payload, _, created, fits, sent, _, _⟩ :=
    GoosePublisher.publish_eq prepared published success
  obtain ⟨size, entries, _, _, _, _, encoded⟩ :=
    GoosePublisher.createGoosePayload_eq created (by omega)
  refine ⟨_, payload, sent, created, ?_⟩
  intro memory now held
  have number : payload.length + 8 = (UInt16.ofNat (payload.length + 8)).toNat := by
    rw [UInt16.toNat_ofNat', Nat.mod_eq_of_lt (by omega)]
  obtain ⟨elements, scanned, written⟩ :=
    elements_of_encoded held readsBack_encodeLength encoded number
  have goId : (publisher.encodedGoID.map Subtype.val).getD [] =
      (publisher.goID.getD reference).val := by
    unfold GoosePublisher.encodedGoID
    rw [goCBRef]
    cases publisher.goID <;> rfl
  have goIdFits : (publisher.goID.getD reference).val.length ≤ stringLimit := by
    cases given : publisher.goID with
    | none => exact referenceFits
    | some goID => exact goIDFits goID given
  obtain ⟨matched, datSetHanded, goIdHanded, referenceHanded⟩ := @handed_items _ _ _ _ _ written
    observer (by simp [GooseSubscriber.selects, observing]) ⟨dataSetRef.val, dataSetFits⟩
    ⟨_, goIdFits⟩ (by rw [dataSet]; rfl) goId
  have goose := GoosePublisher.isGooseFrame_of_encoded encoded held
  have strings := strings_of_observed observing goose scanned
    (referenceHanded ⟨reference.val, referenceFits⟩ (by rw [goCBRef]; rfl)) datSetHanded goIdHanded
  obtain ⟨_, list⟩ := received_sole goose scanned matched now
  refine ⟨_, list, ?_⟩
  obtain ⟨destination, source⟩ := addresses_of_received held
  rw [strings, GooseSubscriber.value_deliver]
  constructor
  · rintro ⟨_, dstMac, srcMac, _, _, _⟩
    exact ⟨dstMac.symm.trans (Subtype.ext destination), srcMac.symm.trans (Subtype.ext source)⟩
  · rintro ⟨dstMac, srcMac⟩
    exact {
      appId := congrArg (fun appId : UInt16 => (appId.toNat : Int)) (frameAppId_of_received held)
      dstMac := (Subtype.ext destination).trans dstMac.symm
      srcMac := (Subtype.ext source).trans srcMac.symm
      goCbRef := cString_eq_self reference.property
      goId := cString_eq_self (publisher.goID.getD reference).property
      dataSet := cString_eq_self dataSetRef.property }

/-- Whatever a publisher did before: an observer that is the only subscriber tells what the
sender was given exactly if the frame has a VLAN tag and its addresses happen to be what
the receiver takes for them, or it has none and the observer told so before. -/
theorem observer_mirrors_iff {useVlanTag : Bool} {created : UInt64} {found : Memory}
    {operations : List GoosePublisher.Operation}
    (run : (GoosePublisher.createEx parameters srcAddr useVlanTag created found).performAll
      operations = some publisher)
    (goCBRef : publisher.goCBRef = some reference) (referenceFits : reference.val.length ≤ 129)
    (dataSet : publisher.dataSetRef = some dataSetRef) (dataSetFits : dataSetRef.val.length ≤ 129)
    (goIDFits : ∀ goID ∈ publisher.goID, goID.val.length ≤ 129) {values : Components}
    {publication : Publication} (published : publisher.publish values = some publication)
    (success : publication.returned = 0) {observer : GooseSubscriber}
    (observing : observer.isObserver = true) :
    (∀ (packet : List UInt8) (memory : Memory) (now : UInt64) (after : GooseSubscriber),
        publication.sent = some packet → memory.Holds 0 packet →
        (parseGooseMessage [observer] memory packet.length now).value.subscriberList = [after] →
        MirrorsSender parameters srcAddr publisher reference dataSetRef after) ↔
      if useVlanTag then SeenAsSent parameters srcAddr publisher values
      else MirrorsSender parameters srcAddr publisher reference dataSetRef observer := by
  cases useVlanTag with
  | true =>
      have prepared := (GoosePublisher.prepared_create parameters srcAddr created found).performAll
        run
      obtain ⟨packet, payload, sent, encoded, received⟩ := observed_tagged prepared goCBRef
        referenceFits dataSet dataSetFits goIDFits published success observing
      rw [if_pos rfl]
      constructor
      · intro mirrors
        have held := Memory.holds_ofOctets packet fun _ => 0
        obtain ⟨after, list, seen⟩ := received _ 0 held
        obtain ⟨destination, source⟩ := seen.mp (mirrors packet _ 0 after sent held list)
        exact ⟨destination, payload, encoded, source⟩
      · rintro ⟨destination, other, same, source⟩ octets memory now after given held list
        obtain rfl := Option.some.inj (sent.symm.trans given)
        obtain rfl := Option.some.inj (Option.some.inj (encoded.symm.trans same))
        obtain ⟨only, equation, seen⟩ := received memory now held
        obtain rfl := List.singleton_inj.mp (equation.symm.trans list)
        exact seen.mpr ⟨destination, source⟩
  | false =>
      have untagged :=
        (GoosePublisher.untagged_createEx parameters srcAddr created found).performAll run
      have passed : ∀ (packet : List UInt8) (memory : Memory) (now : UInt64),
          publication.sent = some packet → memory.Holds 0 packet →
          (parseGooseMessage [observer] memory packet.length now).value.subscriberList =
            [observer] := by
        intro packet memory now sent held
        rw [GoosePublisher.passed_of_untagged untagged published sent held]
      rw [if_neg Bool.false_ne_true]
      constructor
      · intro mirrors
        obtain ⟨packet, sent⟩ := GoosePublisher.sent_of_success published success
        have held := Memory.holds_ofOctets packet fun _ => 0
        exact mirrors packet _ 0 observer sent held (passed packet _ 0 sent held)
      · intro mirrors packet memory now after sent held list
        obtain rfl := List.singleton_inj.mp ((passed packet memory now sent held).symm.trans list)
        exact mirrors

end Observing

/-- An observer as it is created. -/
def plainObserver : GooseSubscriber :=
  (GooseSubscriber.create ⟨[], zero_notMem_nil⟩ none).setObserver

/-- A publisher that has got a reference and a data set. -/
def referredPublisher : GoosePublisher :=
  { GoosePublisher.create .default Octets.zero 0 fun _ => 0 with
    goCBRef := some ⟨[0x41], zero_notMem_a⟩
    dataSetRef := some ⟨[0x42], zero_notMem_b⟩ }

theorem run_referredPublisher :
    (GoosePublisher.create .default Octets.zero 0 fun _ => 0).performAll
      [.setGoCbRef ⟨[0x41], by decide⟩, .setDataSetRef ⟨[0x42], by decide⟩] =
        some referredPublisher := rfl

theorem observer_mirrors_of_referred :
    ∃ publication, referredPublisher.publish [] = some publication ∧
      ((∀ (packet : List UInt8) (memory : Memory) (now : UInt64) (after : GooseSubscriber),
          publication.sent = some packet → memory.Holds 0 packet →
          (parseGooseMessage [plainObserver] memory packet.length now).value.subscriberList =
            [after] →
          MirrorsSender .default Octets.zero referredPublisher ⟨[0x41], by decide⟩
            ⟨[0x42], by decide⟩ after) ↔
        if true then SeenAsSent .default Octets.zero referredPublisher []
        else MirrorsSender .default Octets.zero referredPublisher ⟨[0x41], by decide⟩
          ⟨[0x42], by decide⟩ plainObserver) := by
  have returned : (referredPublisher.publish []).map Publication.returned = some 0 := by
    decide +kernel
  obtain ⟨publication, published, success⟩ := Option.map_eq_some_iff.mp returned
  exact ⟨publication, published, observer_mirrors_iff run_referredPublisher rfl (by decide) rfl
    (by decide) (by simp [referredPublisher, GoosePublisher.create, GoosePublisher.createEx])
    published success rfl⟩

/-- The destination that an observer is told is not the one the frame was sent to. -/
theorem observer_misled :
    ¬ ∀ (parameters : CommParameters) (srcAddr : Octets 6) (created : UInt64) (found : Memory)
      (operations : List GoosePublisher.Operation) (publisher : GoosePublisher)
      (reference dataSetRef : CString),
      (GoosePublisher.create parameters srcAddr created found).performAll operations =
        some publisher →
      publisher.goCBRef = some reference → reference.val.length ≤ 129 →
      publisher.dataSetRef = some dataSetRef → dataSetRef.val.length ≤ 129 →
      (∀ goID ∈ publisher.goID, goID.val.length ≤ 129) →
      ∀ (values : Components) (publication : Publication),
        publisher.publish values = some publication → publication.returned = 0 →
        ∀ observer : GooseSubscriber, observer.isObserver = true →
        ∀ (packet : List UInt8) (memory : Memory) (now : UInt64) (after : GooseSubscriber),
          publication.sent = some packet → memory.Holds 0 packet →
          (parseGooseMessage [observer] memory packet.length now).value.subscriberList = [after] →
          MirrorsSender parameters srcAddr publisher reference dataSetRef after := by
  intro claim
  have received : (referredPublisher.publish []).any fun publication =>
      decide (publication.returned = 0) && publication.sent.any fun packet =>
        let subscribers := (parseGooseMessage [plainObserver] (Memory.ofOctets packet fun _ => 0)
          packet.length 0).value.subscriberList
        decide (subscribers.length = 1) && subscribers.all fun after =>
          decide (after.getDstMac ≠ CommParameters.default.dstAddress) := by
    decide +kernel
  obtain ⟨publication, published, received⟩ := (Option.any_eq_true _ _).mp received
  obtain ⟨success, received⟩ := Bool.and_eq_true_iff.mp received
  obtain ⟨packet, sent, received⟩ := (Option.any_eq_true _ _).mp received
  obtain ⟨alone, told⟩ := Bool.and_eq_true_iff.mp received
  obtain ⟨after, list⟩ := List.length_eq_one_iff.mp (of_decide_eq_true alone)
  have misled := List.all_eq_true.mp told after (list ▸ List.mem_singleton.mpr rfl)
  refine of_decide_eq_true misled (claim _ _ _ _ _ _ _ _ run_referredPublisher rfl (by decide)
    rfl (by decide) ?_ [] publication published (of_decide_eq_true success) plainObserver rfl
    packet _ 0 after sent (Memory.holds_ofOctets _ _) list).dstMac
  simp [referredPublisher, GoosePublisher.create, GoosePublisher.createEx]

end GridGooseSV
