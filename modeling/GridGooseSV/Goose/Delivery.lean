import GridGooseSV.Goose.Pdu

/-!
# What a received frame does

The state of every subscriber after `parseGooseMessage`, in terms of the elements
of the frame: what is written while the frame is parsed, which subscriber it is
delivered to, and what delivery changes there.
-/

namespace GridGooseSV

open BerDecoder

/-! ## Delivery -/

/-- What decoding `allData` leaves in a subscriber, and the initial `isValid`. -/
structure Decoding where
  dataSetValues : Option Components
  selfAllocated : Bool
  parseError : GooseParseError
  isValid : Bool

namespace GooseSubscriber

/-- The data set that is left to be updated when a frame is delivered. -/
def keptDataSet (self : GooseSubscriber) (confRev : UInt32) : Option Components :=
  if (self.dataSetValuesSelfAllocated ∧ self.confRev ≠ confRev) ∨ self.isObserver then none
  else self.dataSetValues

/-- A data set is kept by what delivery drops first and what it drops of an observer. -/
theorem keptDataSet_eq (self : GooseSubscriber) (confRev : UInt32) :
    self.keptDataSet confRev = if self.isObserver then none else
      if self.dataSetValuesSelfAllocated ∧ self.confRev ≠ confRev then none
      else self.dataSetValues := by
  unfold keptDataSet
  cases observer : self.isObserver <;> simp

/-- The data set is built if none is kept, else updated. -/
def decode (self : GooseSubscriber) (memory : Memory) (pdu : GoosePdu) : Decoding :=
  let address := pdu.dataSetBufferAddress.getD 0
  match self.keptDataSet pdu.confRev with
  | none =>
    let built := (parseAllDataUnknownValue memory address pdu.dataSetBufferLength
      self.dataSetValuesSelfAllocated).value
    ⟨built.1, built.2, self.parseError, true⟩
  | some dataSetValues =>
    let updated := (parseAllData memory address pdu.dataSetBufferLength dataSetValues).value
    ⟨some updated.2, self.dataSetValuesSelfAllocated, updated.1, updated.1 = .noError⟩

/-- The timestamp after a frame. -/
def timestampAfter (self : GooseSubscriber) (memory : Memory) (pdu : GoosePdu) : Octets 8 :=
  match pdu.timestampBufPos with
  | some address => MmsValue.setUtcTimeByBuffer self.timestamp (memory.octets address 8)
  | none => MmsValue.setUtcTime self.timestamp 0

/-- The numbers of a frame are not newer than those of the last frame. -/
def Repeated (self : GooseSubscriber) (pdu : GoosePdu) : Prop :=
  self.stNum = pdu.stNum ∧ self.sqNum ≥ pdu.sqNum

instance (self : GooseSubscriber) (pdu : GoosePdu) : Decidable (self.Repeated pdu) :=
  inferInstanceAs (Decidable (_ ∧ _))

theorem value_dropDataSet (self : GooseSubscriber) (confRev : UInt32) :
    (self.dropDataSet confRev).value = { self with
      dataSetValues := if self.dataSetValuesSelfAllocated ∧ self.confRev ≠ confRev then none
        else self.dataSetValues } := by
  unfold dropDataSet
  simp only [Traced.value_ite, Traced.value_bind, Traced.value_pure]
  cases present : self.dataSetValues with
  | none =>
      rw [if_neg (by simp), ite_self, ← present]
  | some dataSetValues =>
      simp only [Option.isSome_some, true_and]
      split
      · rfl
      · rw [← present]

theorem value_dropObserved (self : GooseSubscriber) :
    self.dropObserved.value = { self with
      dataSetValues := if self.isObserver then none else self.dataSetValues } := by
  unfold dropObserved
  simp only [Traced.value_ite, Traced.value_bind, Traced.value_pure]
  cases present : self.dataSetValues with
  | none =>
      rw [if_neg (by simp), ite_self, ← present]
  | some dataSetValues =>
      simp only [Option.isSome_some, and_true]
      split
      · rfl
      · rw [← present]

theorem value_takeTimestamp (self : GooseSubscriber) (memory : Memory)
    (timestampBufPos : Option Nat) :
    (self.takeTimestamp memory timestampBufPos).value = { self with
      timestamp := match timestampBufPos with
        | some address => MmsValue.setUtcTimeByBuffer self.timestamp (memory.octets address 8)
        | none => MmsValue.setUtcTime self.timestamp 0 } := by
  cases timestampBufPos <;> rfl

theorem value_takeDataSet (self : GooseSubscriber) (memory : Memory) (address : Option Nat)
    (length : Nat) :
    (self.takeDataSet memory address length).value =
      match self.dataSetValues with
      | none =>
        let built := (parseAllDataUnknownValue memory (address.getD 0) length
          self.dataSetValuesSelfAllocated).value
        ({ self with dataSetValues := built.1, dataSetValuesSelfAllocated := built.2 }, true)
      | some dataSetValues =>
        let updated := (parseAllData memory (address.getD 0) length dataSetValues).value
        ({ self with dataSetValues := some updated.2, parseError := updated.1 },
          decide (updated.1 = .noError)) := by
  unfold takeDataSet
  cases self.dataSetValues <;> rfl

/-- What delivery changes. -/
theorem value_deliver (self : GooseSubscriber) (memory : Memory) (pdu : GoosePdu)
    (now : UInt64) :
    (self.deliver memory pdu now).value = { self with
      timeAllowedToLive := pdu.timeAllowedToLive
      ndsCom := pdu.ndsCom
      simulation := pdu.simulation
      confRev := pdu.confRev
      timestamp := self.timestampAfter memory pdu
      dataSetValues := (self.decode memory pdu).dataSetValues
      dataSetValuesSelfAllocated := (self.decode memory pdu).selfAllocated
      parseError := (self.decode memory pdu).parseError
      stateValid := (self.decode memory pdu).isValid && !decide (self.Repeated pdu)
      stNum := pdu.stNum
      sqNum := pdu.sqNum
      invalidityTime := now + pdu.timeAllowedToLive.toUInt64 } := by
  unfold deliver
  simp only [Traced.value_bind, value_dropDataSet, value_takeTimestamp, value_dropObserved,
    value_takeDataSet, ← keptDataSet_eq, Traced.value_pure, decode]
  cases self.keptDataSet pdu.confRev <;> rfl

end GooseSubscriber

/-! ## Matching -/

/-- A reference is taken to be for a subscriber of the list. -/
theorem selected_lt {memory : Memory} {element : Element} {subscribers : List GooseSubscriber}
    {index : Nat} (found : selected memory element subscribers = some index) :
    index < subscribers.length :=
  (List.findIdx?_eq_some_iff_getElem.mp found).1

theorem matchAfter_lt {memory : Memory} {subscribers : List GooseSubscriber} {element : Element}
    {matching : Option Nat} (bound : ∀ index, matching = some index → index < subscribers.length)
    {index : Nat} (found : matchAfter memory subscribers element matching = some index) :
    index < subscribers.length := by
  unfold matchAfter at found
  split at found
  · cases search : selected memory element subscribers with
    | none => exact bound index (by simpa [search] using found)
    | some position =>
        rw [search] at found
        cases found
        exact selected_lt search
  · exact bound index found

theorem matchAll_lt {memory : Memory} {subscribers : List GooseSubscriber}
    {elements : List Element} {matching : Option Nat}
    (bound : ∀ index, matching = some index → index < subscribers.length) {index : Nat}
    (found : (matchAll memory subscribers elements matching).1 = some index) :
    index < subscribers.length := by
  induction elements generalizing matching with
  | nil => exact bound index found
  | cons element rest ih =>
      rw [matchAll] at found
      split at found
      · exact ih (fun _ => matchAfter_lt bound) found
      · exact matchAfter_lt bound found

/-! ## The frame -/

/-- The elements of the PDU in an APDU. -/
def pduElements (memory : Memory) (buffer : Nat) (apduLength : Int) : Scan :=
  if memory buffer = 0x61 then
    match (decodeLength memory buffer apduLength 1).value with
    | none => ⟨[], false⟩
    | some (start, length) => elements memory buffer apduLength (start + length) start
  else ⟨[], false⟩

/-- The APPID of a frame. -/
def frameAppId (memory : Memory) : UInt16 := uint16Of (memory 4) (memory 5)

/-- The APDU length of a frame: its own length field, less the header. -/
def frameApduLength (memory : Memory) : Int := (uint16Of (memory 6) (memory 7)).toNat - 8

theorem length_srcMac (memory : Memory) : (memory.octets 6 6).length = 6 := memory.length_octets 6 6

theorem length_dstMac (memory : Memory) : (memory.octets 0 6).length = 6 := memory.length_octets 0 6

/-- The octets that `parseGooseMessage` takes for the source address. -/
def frameSrcMac (memory : Memory) : Octets 6 := ⟨memory.octets 6 6, length_srcMac memory⟩

/-- The octets that `parseGooseMessage` takes for the destination address. -/
def frameDstMac (memory : Memory) : Octets 6 := ⟨memory.octets 0 6, length_dstMac memory⟩

/-- A received frame is long enough and has the GOOSE Ethertype. -/
def IsGooseFrame (memory : Memory) (numbytes : Nat) : Prop :=
  22 ≤ numbytes ∧ memory 2 = 0x88 ∧ memory 3 = 0xb8

instance (memory : Memory) (numbytes : Nat) : Decidable (IsGooseFrame memory numbytes) :=
  inferInstanceAs (Decidable (_ ∧ _))

/-- The elements of the PDU of a frame. -/
def frameElements (memory : Memory) : Scan := pduElements memory 12 (frameApduLength memory)

/-- The fields of the PDU of a frame. -/
def framePdu (memory : Memory) : GoosePdu :=
  GoosePdu.ofElements memory (frameElements memory).elements

/-- The subscriber that the elements of a PDU are delivered to. -/
def target (memory : Memory) (scan : Scan) (subscribers : List GooseSubscriber) : Option Nat :=
  let final := matchAll memory subscribers scan.elements none
  if final.2 && scan.complete then final.1 else none

/-- A subscriber with the strings that the elements of a PDU hand to it. -/
def readBy (memory : Memory) (scan : Scan) (subscribers : List GooseSubscriber) (index : Nat)
    (subscriber : GooseSubscriber) : GooseSubscriber :=
  subscriber.withStrings
    (handed memory subscribers .gocbRef index scan.elements none)
    (handed memory subscribers .datSet index scan.elements none)
    (handed memory subscribers .goId index scan.elements none)

/-- The subscriber that a received frame is delivered to. -/
def deliveredTo (memory : Memory) (numbytes : Nat) (subscribers : List GooseSubscriber) :
    Option Nat :=
  if IsGooseFrame memory numbytes then target memory (frameElements memory) subscribers else none

/-- Whether a frame is of interest to a subscriber by its addresses. -/
def GooseSubscriber.accepts (self : GooseSubscriber) (appId : UInt16) (dstMac : Octets 6) : Bool :=
  decide (self.appId = -1 ∨ self.appId = appId.toNat) &&
    decide (¬ self.dstMacSet ∨ self.dstMac = dstMac)

/-- The first subscriber that is an observer or that the addresses of a frame are of
interest to. -/
def interested (memory : Memory) (subscribers : List GooseSubscriber) : Option Nat :=
  subscribers.findIdx? fun subscriber =>
    subscriber.isObserver || subscriber.accepts (frameAppId memory) (frameDstMac memory)

/-- An observer takes the addresses of a frame over. -/
def GooseSubscriber.withAddresses (self : GooseSubscriber) (memory : Memory) : GooseSubscriber :=
  if self.isObserver then
    { self with
      appId := (frameAppId memory).toNat
      srcMac := frameSrcMac memory
      dstMac := frameDstMac memory }
  else self

/-- A subscriber once a received frame is parsed and before it is delivered. -/
def parsed (memory : Memory) (numbytes : Nat) (subscribers : List GooseSubscriber) (index : Nat)
    (subscriber : GooseSubscriber) : GooseSubscriber :=
  if IsGooseFrame memory numbytes then
    readBy memory (frameElements memory) subscribers index
      (if interested memory subscribers = some index then subscriber.withAddresses memory
        else subscriber)
  else subscriber

/-- What is written before delivery. -/
theorem parsed_eq (memory : Memory) (numbytes : Nat) (subscribers : List GooseSubscriber)
    (index : Nat) (subscriber : GooseSubscriber) :
    let after := parsed memory numbytes subscribers index subscriber
    after = { subscriber with
      goCBRef := after.goCBRef
      datSet := after.datSet
      goId := after.goId
      appId := after.appId
      srcMac := after.srcMac
      dstMac := after.dstMac } := by
  unfold parsed readBy GooseSubscriber.withAddresses
  split
  · split
    · split <;> rfl
    · rfl
  · rfl

/-- The search for an interested subscriber changes only an observer it ends at. -/
theorem findInterestedSubscriber_eq (memory : Memory) (subscribers : List GooseSubscriber)
    (index : Nat) :
    (findInterestedSubscriber (frameAppId memory) (frameSrcMac memory) (frameDstMac memory)
        subscribers).1[index]? =
      subscribers[index]?.map fun subscriber =>
        if interested memory subscribers = some index then subscriber.withAddresses memory
        else subscriber := by
  induction subscribers generalizing index with
  | nil => rfl
  | cons subscriber rest ih =>
      unfold interested at ih ⊢
      rw [List.findIdx?_cons, findInterestedSubscriber]
      by_cases observer : subscriber.isObserver
      · rw [if_pos observer, if_pos (by simp [observer])]
        cases index with
        | zero => simp [GooseSubscriber.withAddresses, observer]
        | succ index => simp
      · rw [if_neg observer]
        by_cases accepted : subscriber.accepts (frameAppId memory) (frameDstMac memory)
        · rw [if_pos (by simpa [GooseSubscriber.accepts] using accepted),
            if_pos (by simp [accepted])]
          cases index with
          | zero => simp [GooseSubscriber.withAddresses, observer]
          | succ index => simp
        · rw [if_neg (by simpa [GooseSubscriber.accepts] using accepted),
            if_neg (by simp [accepted, observer])]
          cases index with
          | zero => simp
          | succ index => simp [ih]

/-- Addresses do not change whom a reference selects. -/
theorem selectAlike_findInterested (memory : Memory) (subscribers : List GooseSubscriber) :
    SelectAlike subscribers (findInterestedSubscriber (frameAppId memory) (frameSrcMac memory)
      (frameDstMac memory) subscribers).1 := by
  intro octets
  apply List.ext_getElem?
  intro index
  rw [List.getElem?_map, List.getElem?_map, findInterestedSubscriber_eq]
  cases subscribers[index]? with
  | none => rfl
  | some subscriber =>
      simp only [Option.map_some, Option.some.injEq]
      split
      · unfold GooseSubscriber.withAddresses
        split <;> rfl
      · rfl

/-- The listeners that are called once a frame is delivered. -/
def notified (subscribers : List GooseSubscriber) (delivered : Option Nat) : List Nat :=
  (delivered.filter fun index => (subscribers[index]?.map (·.listener)).getD false).toList

theorem eq_some_of_mem_notified {subscribers : List GooseSubscriber} {delivered : Option Nat}
    {index : Nat} (called : index ∈ notified subscribers delivered) : delivered = some index := by
  rw [notified, Option.mem_toList] at called
  exact (Option.filter_eq_some_iff.mp called).1

theorem notified_congr {first second : List GooseSubscriber}
    (same : ∀ index : Nat, first[index]?.map (·.listener) = second[index]?.map (·.listener))
    (delivered : Option Nat) : notified first delivered = notified second delivered := by
  simp only [notified, same]

/-- The end of a payload: delivery to the matching subscriber and nothing else. -/
theorem value_finish (state : PayloadState) (memory : Memory) (now : UInt64)
    (bound : ∀ index, state.matchingSubscriber = some index →
      index < state.subscriberList.length) :
    let result := (state.finish memory now).value
    result.delivered = state.matchingSubscriber ∧
      (∀ index : Nat, result.subscriberList[index]? =
        state.subscriberList[index]?.map fun subscriber =>
          if state.matchingSubscriber = some index then
            (subscriber.deliver memory state.pdu now).value
          else subscriber) ∧
      result.calls = notified state.subscriberList state.matchingSubscriber := by
  obtain ⟨subscribers, matching, pdu⟩ := state
  cases matching with
  | none => exact ⟨rfl, fun index => by simp [PayloadState.finish], rfl⟩
  | some position =>
      obtain ⟨subscriber, found⟩ : ∃ subscriber, subscribers[position]? = some subscriber :=
        ⟨_, List.getElem?_eq_getElem (bound position rfl)⟩
      simp only [PayloadState.finish, found, Traced.value_bind, Traced.value_pure]
      refine ⟨trivial, fun index => ?_, ?_⟩
      · rw [List.getElem?_set]
        by_cases here : position = index
        · subst here
          have inside := bound position rfl
          rw [if_pos rfl, if_pos inside, found, Option.map_some, if_pos rfl]
        · simp [here]
      · simp only [notified, found, Option.map_some, Option.getD_some, Option.filter_some,
          GooseSubscriber.value_deliver]
        split <;> rfl

/-- What a frame that is not a GOOSE frame does: nothing. -/
theorem value_parseGooseMessage_of_not {memory : Memory} {numbytes : Nat}
    (other : ¬ IsGooseFrame memory numbytes) (subscribers : List GooseSubscriber) (now : UInt64) :
    (parseGooseMessage subscribers memory numbytes now).value =
      { subscriberList := subscribers } := by
  unfold parseGooseMessage
  by_cases short : numbytes < 22
  · rw [if_pos short]
    rfl
  · rw [if_neg short]
    simp only [↓Memory.value_bind_read, Traced.value_ite, Traced.value_pure]
    by_cases high : memory 2 ≠ 0x88
    · rw [if_pos high]
    · rw [if_neg high]
      by_cases low : memory 3 ≠ 0xb8
      · rw [if_pos low]
      · exact absurd ⟨by omega, not_not.mp high, not_not.mp low⟩ other

theorem value_parseGooseMessage_of_goose {memory : Memory} {numbytes : Nat}
    (goose : IsGooseFrame memory numbytes) (subscribers : List GooseSubscriber) (now : UInt64) :
    (parseGooseMessage subscribers memory numbytes now).value =
      (parseGoosePayload (findInterestedSubscriber (frameAppId memory) (frameSrcMac memory)
        (frameDstMac memory) subscribers).1 memory 12 (frameApduLength memory) now).value := by
  obtain ⟨long, high, low⟩ := goose
  unfold parseGooseMessage
  rw [if_neg (by omega)]
  simp only [↓Memory.value_bind_read, Traced.value_ite, ↓Memory.value_bind_readOctets,
    Traced.value_pure]
  rw [if_neg (not_not.mpr high), if_neg (not_not.mpr low)]
  rfl

/-- What the elements of a PDU lead to. -/
structure Leads (memory : Memory) (scan : Scan) (now : UInt64)
    (subscribers : List GooseSubscriber) (result : Reception) : Prop where
  delivered : result.delivered = target memory scan subscribers
  state : ∀ index : Nat, result.subscriberList[index]? =
    subscribers[index]?.map fun subscriber =>
      if target memory scan subscribers = some index then
        ((readBy memory scan subscribers index subscriber).deliver memory
          (GoosePdu.ofElements memory scan.elements) now).value
      else readBy memory scan subscribers index subscriber
  calls : result.calls = notified subscribers (target memory scan subscribers)

/-- Without elements nothing happens. -/
theorem leads_nothing (memory : Memory) (now : UInt64) (subscribers : List GooseSubscriber) :
    Leads memory ⟨[], false⟩ now subscribers { subscriberList := subscribers } where
  delivered := rfl
  state index := by simp [target, readBy, handed]
  calls := rfl

/-- A PDU is delivered when it is complete and a subscriber has matched it. -/
theorem leads_parseGoosePayload (subscribers : List GooseSubscriber) (memory : Memory)
    (buffer : Nat) (apduLength : Int) (now : UInt64) :
    Leads memory (pduElements memory buffer apduLength) now subscribers
      (parseGoosePayload subscribers memory buffer apduLength now).value := by
  unfold parseGoosePayload pduElements
  simp only [↓Memory.value_bind_read, Traced.value_ite, Traced.value_bind, Traced.value_pure]
  by_cases tag : memory buffer = 0x61
  · simp only [if_pos tag]
    rcases (decodeLength memory buffer apduLength 1).value with _ | ⟨start, length⟩
    · exact leads_nothing memory now subscribers
    · obtain ⟨goesOn, matching, pdu, strings⟩ := @value_elementLoop memory buffer apduLength
        (start + length) length start (by omega) { subscriberList := subscribers }
      simp only [Traced.value_bind, Traced.value_ite, Traced.value_pure]
      rcases loop : (elementLoop memory buffer apduLength (start + length) length start
        { subscriberList := subscribers }).value with ⟨state, complete⟩
      simp only [loop] at goesOn matching pdu strings
      generalize elements memory buffer apduLength (start + length) start = scan
        at goesOn matching pdu strings ⊢
      have bound : ∀ index, state.matchingSubscriber = some index →
          index < state.subscriberList.length := by
        intro index found
        have inside := matchAll_lt (by simp) (matching.symm.trans found)
        by_contra outside
        have absent := strings index
        rw [List.getElem?_eq_none (by omega), List.getElem?_eq_getElem inside] at absent
        simp at absent
      by_cases ended : complete = true
      · obtain ⟨read, _⟩ := Bool.and_eq_true_iff.mp (goesOn.symm.trans ended)
        have reached : target memory scan subscribers = state.matchingSubscriber := by
          rw [matching]
          unfold target
          rw [if_pos (goesOn.symm.trans ended)]
        obtain ⟨delivered, each, calls⟩ := value_finish state memory now bound
        rw [if_pos ended]
        refine ⟨by rw [delivered, reached], fun index => ?_, ?_⟩
        · rw [each, strings, Option.map_map, reached, pdu read]
          rfl
        · rw [calls, reached]
          apply notified_congr
          intro index
          rw [strings, Option.map_map]
          rfl
      · have nowhere : target memory scan subscribers = none := by
          unfold target
          rw [if_neg (fun read => ended (goesOn.trans read))]
        rw [if_neg ended]
        refine ⟨nowhere.symm, fun index => ?_, by rw [nowhere]; rfl⟩
        simp only [strings, nowhere, reduceCtorEq, ↓reduceIte]
        rfl
  · simp only [if_neg tag]
    exact leads_nothing memory now subscribers

theorem target_congr {memory : Memory} {scan : Scan} {first second : List GooseSubscriber}
    (alike : SelectAlike first second) : target memory scan first = target memory scan second := by
  rw [target, target, matchAll_congr alike]

theorem readBy_congr {memory : Memory} {scan : Scan} {first second : List GooseSubscriber}
    (alike : SelectAlike first second) (index : Nat) (subscriber : GooseSubscriber) :
    readBy memory scan first index subscriber = readBy memory scan second index subscriber := by
  simp only [readBy, handed_congr alike]

/-- What a received frame does to the subscribers of a receiver. -/
structure Received (memory : Memory) (numbytes : Nat) (now : UInt64)
    (subscribers : List GooseSubscriber) (result : Reception) : Prop where
  delivered : result.delivered = deliveredTo memory numbytes subscribers
  state : ∀ index : Nat, result.subscriberList[index]? =
    subscribers[index]?.map fun subscriber =>
      if deliveredTo memory numbytes subscribers = some index then
        ((parsed memory numbytes subscribers index subscriber).deliver memory (framePdu memory)
          now).value
      else parsed memory numbytes subscribers index subscriber
  calls : result.calls = notified subscribers (deliveredTo memory numbytes subscribers)

/-- The receiver does with every frame what its elements say. -/
theorem received_parseGooseMessage (subscribers : List GooseSubscriber) (memory : Memory)
    (numbytes : Nat) (now : UInt64) :
    Received memory numbytes now subscribers
      (parseGooseMessage subscribers memory numbytes now).value := by
  by_cases goose : IsGooseFrame memory numbytes
  · have alike := selectAlike_findInterested memory subscribers
    rw [value_parseGooseMessage_of_goose goose]
    obtain ⟨delivered, state, calls⟩ := leads_parseGoosePayload (findInterestedSubscriber
      (frameAppId memory) (frameSrcMac memory) (frameDstMac memory) subscribers).1 memory 12
      (frameApduLength memory) now
    simp only [← target_congr alike, ← readBy_congr alike] at delivered state calls
    have reached : deliveredTo memory numbytes subscribers =
        target memory (pduElements memory 12 (frameApduLength memory)) subscribers := if_pos goose
    refine ⟨by rw [delivered, reached], fun index => ?_, ?_⟩
    · rw [state, findInterestedSubscriber_eq, Option.map_map, reached]
      simp only [Function.comp_def, parsed, if_pos goose]
      rfl
    · rw [calls, reached]
      apply notified_congr
      intro index
      rw [findInterestedSubscriber_eq, Option.map_map]
      congr 1
      funext subscriber
      simp only [Function.comp_def, GooseSubscriber.withAddresses]
      split
      · split <;> rfl
      · rfl
  · have nowhere : deliveredTo memory numbytes subscribers = none := if_neg goose
    rw [value_parseGooseMessage_of_not goose]
    refine ⟨nowhere.symm, fun index => ?_, by rw [nowhere]; rfl⟩
    simp [nowhere, parsed, goose]

end GridGooseSV
