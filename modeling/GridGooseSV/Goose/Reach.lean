import GridGooseSV.Goose.Bounds
import GridGooseSV.Goose.DataReach
import GridGooseSV.Goose.RoundTrip

/-!
# What the receiver reads

The octets of a frame decide how far it is read: up to which element its PDU is gone over, how many
octets are taken of each, and which data set the last subscriber that a reference selects has kept.
Neither the length field of the header nor a length inside the APDU is compared with the number of
octets that were received, and a timestamp of any length is taken for eight octets.
-/

namespace GridGooseSV

open BerDecoder

/-! ## What is taken of the elements -/

/-- How many octets of a `gocbRef` of the given length are read: an observer copies those of one
that fits, and another subscriber compares those of one that is as long as its own. -/
def referenceOctets (elementLength : Nat) : List GooseSubscriber → Nat
  | [] => 0
  | subscriber :: rest =>
    if subscriber.isObserver then if elementLength ≤ stringLimit then elementLength else 0
    else if subscriber.goCBRefLen = elementLength then elementLength
    else referenceOctets elementLength rest

/-- How many octets are read from where the content of an element of the PDU starts. -/
def Element.octetsTaken (element : Element) (subscribers : List GooseSubscriber)
    (matching : Option Nat) : Nat :=
  match element.pduTag with
  | some .gocbRef => referenceOctets element.length subscribers
  | some .datSet | some .goId =>
    if matching.isSome ∧ element.length ≤ stringLimit then element.length else 0
  | some .timeAllowedToLive | some .stNum | some .sqNum | some .confRev
  | some .numDatSetEntries => element.length
  | some .simulation | some .ndsCom => 1
  | some .t | some .allData | none => 0

/-- How the elements of a PDU are gone over, with the subscriber that is matched. -/
def pduWalk (memory : Memory) (limit : Nat) (subscribers : List GooseSubscriber) :
    Walk (Option Nat) where
  asks matching element :=
    OctetsBelow limit element.address (element.octetsTaken subscribers matching)
  next matching element :=
    let matching := matchAfter memory subscribers element matching
    if goesOn element matching then some matching else none

/-- Lists of subscribers for which references are read and select alike. -/
structure ReadAlike (first second : List GooseSubscriber) : Prop where
  selects : SelectAlike first second
  compares : (first.map fun subscriber => (subscriber.isObserver, subscriber.goCBRefLen)) =
    second.map fun subscriber => (subscriber.isObserver, subscriber.goCBRefLen)

theorem referenceOctets_le (elementLength : Nat) (subscribers : List GooseSubscriber) :
    referenceOctets elementLength subscribers ≤ elementLength := by
  induction subscribers with
  | nil => exact Nat.zero_le _
  | cons subscriber rest ih =>
      unfold referenceOctets
      split_ifs <;> omega

namespace ReadAlike

variable {first second third : List GooseSubscriber}

theorem length_eq (alike : ReadAlike first second) : first.length = second.length := by
  simpa using congrArg List.length alike.compares

theorem trans (alike : ReadAlike first second) (other : ReadAlike second third) :
    ReadAlike first third :=
  ⟨fun octets => (alike.selects octets).trans (other.selects octets),
    alike.compares.trans other.compares⟩

theorem symm (alike : ReadAlike first second) : ReadAlike second first :=
  ⟨fun octets => (alike.selects octets).symm, alike.compares.symm⟩

theorem refl (subscribers : List GooseSubscriber) : ReadAlike subscribers subscribers :=
  ⟨fun _ => rfl, rfl⟩

/-- Subscribers that are changed otherwise read alike. -/
theorem of_each {change : Nat → GooseSubscriber → GooseSubscriber}
    (selects : SelectAlike first second)
    (each : ∀ index : Nat, second[index]? = first[index]?.map (change index))
    (keeps : ∀ index subscriber, (change index subscriber).isObserver = subscriber.isObserver ∧
      (change index subscriber).goCBRefLen = subscriber.goCBRefLen) : ReadAlike first second := by
  refine ⟨selects, List.ext_getElem? fun index => ?_⟩
  rw [List.getElem?_map, List.getElem?_map, each]
  cases first[index]? with
  | none => rfl
  | some subscriber =>
      obtain ⟨observer, length⟩ := keeps index subscriber
      simp only [Option.map_some, observer, length]

theorem referenceOctets_eq (alike : ReadAlike first second) (elementLength : Nat) :
    referenceOctets elementLength first = referenceOctets elementLength second := by
  have compares := alike.compares
  clear alike
  induction first generalizing second with
  | nil =>
      rw [List.map_nil, eq_comm, List.map_eq_nil_iff] at compares
      rw [compares]
  | cons subscriber rest ih =>
      cases second with
      | nil => simp at compares
      | cons other others =>
          simp only [List.map_cons, List.cons.injEq, Prod.mk.injEq] at compares
          obtain ⟨⟨observer, length⟩, later⟩ := compares
          rw [referenceOctets, referenceOctets, observer, length, ih later]

theorem octetsTaken_eq (alike : ReadAlike first second) (element : Element)
    (matching : Option Nat) :
    element.octetsTaken first matching = element.octetsTaken second matching := by
  unfold Element.octetsTaken
  rw [alike.referenceOctets_eq]

theorem pduWalk_eq (alike : ReadAlike first second) (memory : Memory) (limit : Nat) :
    pduWalk memory limit first = pduWalk memory limit second := by
  unfold pduWalk
  simp only [alike.octetsTaken_eq, matchAfter_congr alike.selects]

end ReadAlike

section Taking

variable {memory : Memory} {limit address elementLength : Nat}

theorem readsBelow_absorb_iff (field : StringField) :
    (field.absorb memory address elementLength).Always (Access.ReadsBelow limit) ↔
      OctetsBelow limit address (if elementLength ≤ stringLimit then elementLength else 0) := by
  unfold StringField.absorb
  split
  · rw [Traced.always_bind, readsBelow_memcpy_iff, and_iff_left (Traced.always_pure _)]
  · exact iff_of_true (Traced.always_pure _) octetsBelow_zero

theorem octetsBelow_of_le {count less : Nat} (below : OctetsBelow limit address count)
    (fewer : less ≤ count) : OctetsBelow limit address less :=
  fun position above before => below position above (by omega)

theorem readsBelow_matchGocbRef_iff (subscribers : List GooseSubscriber) :
    (matchGocbRef memory address elementLength subscribers).Always (Access.ReadsBelow limit) ↔
      OctetsBelow limit address (referenceOctets elementLength subscribers) := by
  induction subscribers with
  | nil => exact iff_of_true (Traced.always_pure _) octetsBelow_zero
  | cons subscriber rest ih =>
      have fewer := referenceOctets_le elementLength rest
      unfold matchGocbRef referenceOctets
      by_cases observer : subscriber.isObserver
      · rw [if_pos observer, if_pos observer, Traced.always_bind, readsBelow_absorb_iff,
          and_iff_left (Traced.always_pure _)]
      · rw [if_neg observer, if_neg observer]
        by_cases length : subscriber.goCBRefLen = elementLength
        · rw [if_pos length, if_pos length, Traced.always_bind, readsBelow_readOctets_iff]
          refine and_iff_left_of_imp fun below => .ite (fun _ => Traced.always_pure _) fun _ => ?_
          exact .bind (ih.mpr (octetsBelow_of_le below fewer)) (Traced.always_pure _)
        · rw [if_neg length, if_neg length, Traced.always_bind, ih,
            and_iff_left (Traced.always_pure _)]

theorem readsBelow_decodeUint32_iff :
    (decodeUint32 memory 0 elementLength address).Always (Access.ReadsBelow limit) ↔
      OctetsBelow limit address elementLength := by
  unfold decodeUint32
  rw [Traced.always_bind, readsBelow_readOctets_iff, Nat.zero_add,
    and_iff_left (Traced.always_pure _)]

theorem readsBelow_flag_iff :
    (decodeBoolean memory 0 address).Always (Access.ReadsBelow limit) ↔
      OctetsBelow limit address 1 := by
  unfold decodeBoolean
  rw [Traced.always_bind, Memory.always_read, Nat.zero_add, octetsBelow_iff,
    and_iff_left (Traced.always_pure _)]
  exact ⟨fun below _ => below, fun below => below Nat.one_pos⟩

/-- A string is read for the matched subscriber. -/
theorem readsBelow_updateMatching_iff {state : PayloadState} {count : Nat}
    {change : GooseSubscriber → Traced Access GooseSubscriber}
    (valid : ∀ index, state.matchingSubscriber = some index → index < state.subscriberList.length)
    (each : ∀ subscriber, (change subscriber).Always (Access.ReadsBelow limit) ↔
      OctetsBelow limit address count) :
    (state.updateMatching change).Always (Access.ReadsBelow limit) ↔
      OctetsBelow limit address (if state.matchingSubscriber.isSome then count else 0) := by
  unfold PayloadState.updateMatching
  cases found : state.matchingSubscriber with
  | none => exact iff_of_true (Traced.always_pure _) octetsBelow_zero
  | some index =>
      simp only [List.getElem?_eq_getElem (valid index found)]
      rw [Traced.always_bind, each, and_iff_left (Traced.always_pure _)]
      rfl

/-- An element is read below the limit exactly if the octets that are taken of it lie there. -/
theorem readsBelow_element_iff (element : Element) {state : PayloadState}
    (valid : ∀ index, state.matchingSubscriber = some index →
      index < state.subscriberList.length) :
    (state.element memory element.tag element.address element.length).Always
        (Access.ReadsBelow limit) ↔
      OctetsBelow limit element.address
        (element.octetsTaken state.subscriberList state.matchingSubscriber) := by
  have string : ∀ change : GooseSubscriber → Traced Access GooseSubscriber,
      (∀ subscriber, (change subscriber).Always (Access.ReadsBelow limit) ↔
        OctetsBelow limit element.address
          (if element.length ≤ stringLimit then element.length else 0)) →
      ((state.updateMatching change).Always (Access.ReadsBelow limit) ↔
        OctetsBelow limit element.address
          (if state.matchingSubscriber.isSome ∧ element.length ≤ stringLimit then element.length
            else 0)) := by
    intro change each
    rw [readsBelow_updateMatching_iff valid each, ite_and]
  unfold PayloadState.element Element.octetsTaken Element.pduTag
  cases PduTag.ofOctet? element.tag with
  | none => exact iff_of_true (Traced.always_pure _) octetsBelow_zero
  | some tag =>
      cases tag with
      | gocbRef =>
          dsimp only
          rw [Traced.always_bind, readsBelow_matchGocbRef_iff,
            and_iff_left (Traced.always_pure _)]
      | datSet =>
          dsimp only [PayloadState.absorb]
          rw [Traced.always_bind, and_iff_left (Traced.always_pure _)]
          refine string _ fun subscriber => ?_
          rw [Traced.always_bind, readsBelow_absorb_iff, and_iff_left (Traced.always_pure _)]
      | goId =>
          dsimp only [PayloadState.absorb]
          rw [Traced.always_bind, and_iff_left (Traced.always_pure _)]
          refine string _ fun subscriber => ?_
          rw [Traced.always_bind, readsBelow_absorb_iff, and_iff_left (Traced.always_pure _)]
      | t =>
          exact iff_of_true (.bind (Traced.always_pure _) (Traced.always_pure _)) octetsBelow_zero
      | allData =>
          exact iff_of_true (.bind (Traced.always_pure _) (Traced.always_pure _)) octetsBelow_zero
      | simulation =>
          dsimp only [PayloadState.absorb]
          rw [Traced.always_bind, Traced.always_bind, readsBelow_flag_iff]
          simp only [Traced.always_pure, and_true]
      | ndsCom =>
          dsimp only [PayloadState.absorb]
          rw [Traced.always_bind, Traced.always_bind, readsBelow_flag_iff]
          simp only [Traced.always_pure, and_true]
      | _ =>
          dsimp only [PayloadState.absorb]
          rw [Traced.always_bind, Traced.always_bind, readsBelow_decodeUint32_iff]
          simp only [Traced.always_pure, and_true]

end Taking

/-! ## What lies below a limit -/

namespace GooseSubscriber

/-- What is read for the data set of a frame lies below a limit. -/
def DataSetBelow (self : GooseSubscriber) (memory : Memory) (limit : Nat) (pdu : GoosePdu) :
    Prop :=
  let address := pdu.dataSetBufferAddress.getD 0
  let length := pdu.dataSetBufferLength
  match self.keptDataSet pdu.confRev with
  | none => BuildBelow memory limit address length
  | some dataSetValues => ComponentsBelow memory limit address length 0
    (elements memory address length length 0).elements dataSetValues

/-- Eight octets from where the last timestamp starts, and the data set, lie below a limit. -/
structure DeliveryBelow (subscriber : GooseSubscriber) (memory : Memory) (limit : Nat)
    (elements : List Element) : Prop where
  timestamp : ∀ element ∈ timestampElement elements, element.address + 8 ≤ limit
  dataSet : subscriber.DataSetBelow memory limit (GoosePdu.ofElements memory elements)

end GooseSubscriber

/-- A PDU is parsed below a limit. -/
@[mk_iff]
structure PayloadBelow (subscribers : List GooseSubscriber) (memory : Memory) (limit buffer : Nat)
    (apduLength : Int) : Prop where
  tag : buffer < limit
  framing : memory buffer = 0x61 → LengthBelow memory buffer apduLength limit 1
  elements : memory buffer = 0x61 → ∀ start size,
    (decodeLength memory buffer apduLength 1).value = some (start, size) →
      (pduWalk memory limit subscribers).Below memory buffer apduLength (start + size) limit none
        start (elements memory buffer apduLength (start + size) start).elements
  delivery : ∀ index subscriber,
    target memory (pduElements memory buffer apduLength) subscribers = some index →
    subscribers[index]? = some subscriber →
    subscriber.DeliveryBelow memory limit (pduElements memory buffer apduLength).elements

section Parsing

variable {memory : Memory} {limit : Nat} {subscribers : List GooseSubscriber}

/-- What the loop reads lies below the limit exactly if what it asks of the elements does. -/
theorem below_elementLoopReads_iff {buffer : Nat} {apduLength : Int} {gooseEnd fuel bufPos : Nat}
    {state : PayloadState} {matching : Option Nat} (enough : gooseEnd - bufPos ≤ fuel)
    (alike : ReadAlike state.subscriberList subscribers)
    (matched : state.matchingSubscriber = matching)
    (valid : ∀ index, matching = some index → index < subscribers.length) :
    (∀ read ∈ elementLoopReads memory buffer apduLength gooseEnd fuel bufPos state,
        read.address < limit) ↔
      (pduWalk memory limit subscribers).Below memory buffer apduLength gooseEnd limit matching
        bufPos (elements memory buffer apduLength gooseEnd bufPos).elements := by
  refine Walk.below_iff
    (fun fuel (state : PayloadState) bufPos =>
      ∀ read ∈ elementLoopReads memory buffer apduLength gooseEnd fuel bufPos state,
        read.address < limit)
    (fun state matching _ => ReadAlike state.subscriberList subscribers ∧
      state.matchingSubscriber = matching ∧
        ∀ index, matching = some index → index < subscribers.length)
    (fun state _ element =>
      (state.element memory element.tag element.address element.length).value.1)
    ?_ ?_ ?_ enough ⟨alike, matched, valid⟩
  · intro fuel state bufPos ended
    cases fuel with
    | zero => simp [elementLoopReads]
    | succ fuel => simp [elementLoopReads, Nat.not_lt.mpr ended]
  · rintro fuel state matching bufPos ⟨alike, rfl, valid⟩ inside
    rw [elementLoopReads, if_pos inside]
    dsimp only
    rw [below_behindFraming]
    refine and_congr_right' ?_
    rcases (decodeLength memory buffer apduLength (bufPos + 1)).value with _ | ⟨start, length⟩
    · simp
    · simp only [Option.some.injEq, Prod.mk.injEq, and_imp, forall_eq', forall_apply_eq_imp_iff]
      have taken := @readsBelow_element_iff memory limit
        ⟨memory (buffer + bufPos), buffer + start, length⟩ state (by rwa [alike.length_eq])
      obtain ⟨goes, _⟩ := value_element memory
        ⟨memory (buffer + bufPos), buffer + start, length⟩ state
      rw [matchAfter_congr alike.selects] at goes
      rw [alike.octetsTaken_eq] at taken
      rw [List.forall_mem_append, below_forming_iff]
      refine and_congr taken ?_
      simp only [pduWalk, goes]
      split
      · simp
      · simp
  · rintro state matching after bufPos start length ⟨alike, rfl, valid⟩ inside decoded element goes
    obtain ⟨_, matched, _, each⟩ := value_element memory element state
    rw [matchAfter_congr alike.selects] at matched each
    simp only [pduWalk, Option.ite_none_right_eq_some, Option.some.injEq] at goes
    obtain ⟨_, rfl⟩ := goes
    refine ⟨.trans (.symm (.of_each ?_ each ?_)) alike, matched, fun _ => matchAfter_lt valid⟩
    · exact selectAlike_of_withStrings (fun index => (_, _, _)) each
    · exact fun _ _ => ⟨rfl, rfl⟩

theorem below_dataSetReads_iff (self : GooseSubscriber) (pdu : GoosePdu) :
    (∀ read ∈ self.dataSetReads memory pdu, read.address < limit) ↔
      self.DataSetBelow memory limit pdu := by
  unfold GooseSubscriber.dataSetReads GooseSubscriber.DataSetBelow
  cases self.keptDataSet pdu.confRev with
  | none => exact below_parseAllDataUnknownValueReads_iff
  | some dataSetValues => exact below_parseAllDataReads_iff

theorem below_deliverReads_iff (self : GooseSubscriber) (elements : List Element) :
    (∀ read ∈ self.deliverReads memory elements, read.address < limit) ↔
      self.DeliveryBelow memory limit elements := by
  have eight : ∀ address, OctetsBelow limit address 8 ↔ address + 8 ≤ limit := by
    intro address
    rw [octetsBelow_iff]
    omega
  unfold GooseSubscriber.deliverReads
  rw [List.forall_mem_append, below_dataSetReads_iff]
  constructor
  · rintro ⟨timestamp, dataSet⟩
    refine ⟨fun element given => ?_, dataSet⟩
    rw [Option.mem_def.mp given] at timestamp
    simpa only [below_forming_iff, readsBelow_readOctets_iff, eight] using timestamp
  · rintro ⟨timestamp, dataSet⟩
    refine ⟨?_, dataSet⟩
    cases given : timestampElement elements with
    | none => simp
    | some element =>
        simp only [below_forming_iff, readsBelow_readOctets_iff, eight]
        exact timestamp element given

/-- A PDU is parsed below the limit exactly if what its octets tell lies below it. -/
theorem below_parseGoosePayloadReads_iff {buffer : Nat} {apduLength : Int} :
    (∀ read ∈ parseGoosePayloadReads subscribers memory buffer apduLength,
        read.address < limit) ↔ PayloadBelow subscribers memory limit buffer apduLength := by
  have undelivered : pduElements memory buffer apduLength = ⟨[], false⟩ →
      target memory (pduElements memory buffer apduLength) subscribers = none := by
    intro nothing
    simp [nothing, target]
  rw [parseGoosePayloadReads, List.forall_mem_cons, payloadBelow_iff]
  refine and_congr_right' ?_
  by_cases tag : memory buffer = 0x61
  · rw [if_pos tag, forall_prop_of_true tag, forall_prop_of_true tag]
    dsimp only
    rw [List.forall_mem_append, below_framing_iff,
      always_decodeLength_iff readsBelow_int readsBelow_read_iff]
    refine and_congr_right' ?_
    rcases decoded : (decodeLength memory buffer apduLength 1).value with _ | ⟨start, length⟩
    · rw [undelivered (by simp [pduElements, tag, decoded])]
      simp
    · have scan : pduElements memory buffer apduLength =
          elements memory buffer apduLength (start + length) start := by
        simp [pduElements, tag, decoded]
      rw [scan]
      simp only [Option.some.injEq, Prod.mk.injEq, and_imp, forall_eq', forall_apply_eq_imp_iff]
      rw [List.forall_mem_append,
        below_elementLoopReads_iff (by omega) (.refl subscribers) rfl (by simp)]
      refine and_congr_right' ?_
      cases target memory (elements memory buffer apduLength (start + length) start)
        subscribers with
      | none => simp
      | some index =>
          simp only [Option.some.injEq]
          cases present : subscribers[index]? with
          | none =>
              refine iff_of_true (by simp) fun _ subscriber same given => ?_
              rw [← same, present] at given
              contradiction
          | some subscriber =>
              simp only [below_deliverReads_iff]
              constructor
              · intro below _ other same given
                rw [← same, present] at given
                obtain rfl := Option.some.inj given
                exact below
              · exact fun delivery => delivery index subscriber rfl present
  · rw [if_neg tag, undelivered (by simp [pduElements, tag])]
    simp [tag]

theorem readsBelow_parseGoosePayload_iff {buffer : Nat} {apduLength : Int} {now : UInt64} :
    (parseGoosePayload subscribers memory buffer apduLength now).Always (Access.ReadsBelow limit) ↔
      PayloadBelow subscribers memory limit buffer apduLength :=
  (below_iff_of_accounted (reads_parseGoosePayload ..)).symm.trans below_parseGoosePayloadReads_iff

end Parsing

/-! ## PDUs that were received whole -/

section Whole

variable {memory : Memory} {limit : Nat} {subscribers : List GooseSubscriber} {buffer : Nat}
  {apduLength : Int}

/-- Of an element that was received whole only an empty flag counts. -/
theorem octetsBelow_taken_iff {element : Element} {matching : Option Nat}
    (whole : element.address + element.length ≤ limit) :
    OctetsBelow limit element.address (element.octetsTaken subscribers matching) ↔
      (element.pduTag = some .simulation ∨ element.pduTag = some .ndsCom →
        element.address < limit) := by
  have fewer := referenceOctets_le element.length subscribers
  have content : ∀ count ≤ element.length, OctetsBelow limit element.address count :=
    fun count fewer => octetsBelow_iff.mpr fun _ => by omega
  unfold Element.octetsTaken
  cases element.pduTag with
  | none => exact iff_of_true octetsBelow_zero (by simp)
  | some tag =>
      cases tag with
      | gocbRef => exact iff_of_true (content _ fewer) (by simp)
      | datSet => exact iff_of_true (content _ (by dsimp only; split <;> omega)) (by simp)
      | goId => exact iff_of_true (content _ (by dsimp only; split <;> omega)) (by simp)
      | t => exact iff_of_true octetsBelow_zero (by simp)
      | allData => exact iff_of_true octetsBelow_zero (by simp)
      | simulation =>
          rw [octetsBelow_iff, forall_prop_of_true Nat.one_pos, forall_prop_of_true (.inl rfl)]
          exact Nat.succ_le_iff
      | ndsCom =>
          rw [octetsBelow_iff, forall_prop_of_true Nat.one_pos, forall_prop_of_true (.inr rfl)]
          exact Nat.succ_le_iff
      | _ => exact iff_of_true (content _ (Nat.le_refl _)) (by simp)

theorem asked_pduWalk_iff {matching : Option Nat} {parts : List Element}
    (whole : ∀ part ∈ parts, part.address + part.length ≤ limit) :
    (pduWalk memory limit subscribers).Asked matching parts ↔
      ∀ element ∈ readElements memory subscribers parts matching,
        element.pduTag = some .simulation ∨ element.pduTag = some .ndsCom →
          element.address < limit := by
  induction parts generalizing matching with
  | nil => exact iff_of_true trivial (by simp [readElements])
  | cons element rest ih =>
      obtain ⟨first, others⟩ := List.forall_mem_cons.mp whole
      rw [Walk.Asked, readElements, List.forall_mem_cons]
      refine and_congr (octetsBelow_taken_iff first) ?_
      simp only [pduWalk]
      split
      · simpa [pduWalk] using ih others
      · simp

/-- A PDU whose octets were all received is read within them exactly if no empty flag is read
behind them and its delivery stays within them. -/
theorem payloadBelow_iff_of_whole (received : buffer < limit)
    (whole : (buffer : Int) + apduLength ≤ limit) :
    PayloadBelow subscribers memory limit buffer apduLength ↔
      (∀ element ∈ readElements memory subscribers
          (pduElements memory buffer apduLength).elements none,
        element.pduTag = some .simulation ∨ element.pduTag = some .ndsCom →
          element.address < limit) ∧
      ∀ index subscriber,
        target memory (pduElements memory buffer apduLength) subscribers = some index →
        subscribers[index]? = some subscriber →
        subscriber.DeliveryBelow memory limit (pduElements memory buffer apduLength).elements := by
  rw [payloadBelow_iff, and_iff_right received,
    and_iff_right fun _ => lengthBelow_of_within whole 1]
  refine and_congr_left' ?_
  unfold pduElements
  by_cases pdu : memory buffer = 0x61
  · rw [forall_prop_of_true pdu, if_pos pdu]
    rcases decoded : (decodeLength memory buffer apduLength 1).value with _ | ⟨start, size⟩
    · simp [readElements]
    · obtain ⟨_, ends⟩ := decodeLength_spec decoded
      have inside : ∀ part ∈ (elements memory buffer apduLength (start + size) start).elements,
          part.address + part.length ≤ limit := by
        intro part member
        have within := (elements_within part member).2
        omega
      simp only [Option.some.injEq, Prod.mk.injEq, and_imp, forall_eq', forall_apply_eq_imp_iff]
      rw [Walk.below_iff_asked whole (by omega), asked_pduWalk_iff inside]
  · rw [if_neg pdu]
    exact iff_of_true (fun given => absurd given pdu) (by simp [readElements])

/-- The elements of a PDU lie in its APDU. -/
theorem pduElements_within : ∀ element ∈ (pduElements memory buffer apduLength).elements,
    (element.address + element.length : Int) ≤ buffer + apduLength := by
  unfold pduElements
  split
  · split
    · simp
    · exact fun element member => (elements_within element member).2
  · simp

theorem mem_of_readElements {element : Element} {parts : List Element} {matching : Option Nat}
    (member : element ∈ readElements memory subscribers parts matching) : element ∈ parts := by
  induction parts generalizing matching with
  | nil => exact member
  | cons first rest ih =>
      rcases List.mem_cons.mp member with rfl | later
      · exact List.mem_cons_self
      · split at later
        · exact List.mem_cons_of_mem _ (ih later)
        · contradiction

theorem of_timestampElement {elements : List Element} {element : Element}
    (given : timestampElement elements = some element) :
    element ∈ elements ∧ element.pduTag = some .t := by
  rw [timestampElement, List.findRev?_eq_find?_reverse] at given
  exact ⟨List.mem_reverse.mp (List.mem_of_find?_eq_some given),
    by simpa using List.find?_some given⟩

theorem target_lt {scan : Scan} {index : Nat}
    (found : target memory scan subscribers = some index) : index < subscribers.length := by
  unfold target at found
  dsimp only at found
  split at found
  · exact matchAll_lt (by simp) found
  · contradiction

/-- The data set of a frame ends where an element does, if there is one. -/
theorem dataSetBuffer_within {bound : Nat} {elements : List Element}
    (within : ∀ element ∈ elements, element.address + element.length ≤ bound) :
    (GoosePdu.ofElements memory elements).dataSetBufferAddress.getD 0 +
      (GoosePdu.ofElements memory elements).dataSetBufferLength ≤ bound := by
  rcases dataSetBuffer_eq memory elements with ⟨address, length⟩ | ⟨element, member, _, address,
    length⟩
  · rw [address, length]
    exact Nat.zero_le _
  · rw [address, length]
    exact within element member

/-- A PDU whose octets were all received, and of whose values none lacks the octets that are read
for it, is read within what was received. -/
theorem payloadBelow_of_supplied (received : buffer < limit)
    (whole : (buffer : Int) + apduLength ≤ limit)
    (supplied : PayloadSupplied subscribers memory buffer apduLength) :
    PayloadBelow subscribers memory limit buffer apduLength := by
  have within : ∀ element ∈ (pduElements memory buffer apduLength).elements,
      element.address + element.length ≤ limit := by
    intro element member
    have ends := pduElements_within element member
    omega
  obtain ⟨flags, delivery⟩ := supplied
  refine (payloadBelow_iff_of_whole received whole).mpr ⟨fun element member flag => ?_, ?_⟩
  · have ends := within element (mem_of_readElements member)
    have given := flags element member flag
    omega
  · intro index subscriber found present
    obtain ⟨timestamp, dataSet⟩ := delivery index subscriber found present
    refine ⟨fun element given => ?_, ?_⟩
    · have ends := within element (of_timestampElement given).1
      have eight := timestamp element given
      omega
    · have ends := @dataSetBuffer_within memory limit _ within
      revert dataSet
      unfold GooseSubscriber.DataSetSupplied GooseSubscriber.DataSetBelow
      cases subscriber.keptDataSet _ with
      | none => exact buildBelow_of_nonempty ends
      | some dataSetValues =>
          exact fun dataSet => componentsBelow_of_supplied dataSetValues dataSet ends

/-- If an octet was received behind a PDU, only the last timestamp can be read behind what was
received. -/
theorem payloadBelow_iff_of_beyond (beyond : (buffer : Int) + apduLength < limit)
    (received : buffer < limit) :
    PayloadBelow subscribers memory limit buffer apduLength ↔
      (target memory (pduElements memory buffer apduLength) subscribers).isSome →
        ∀ element ∈ timestampElement (pduElements memory buffer apduLength).elements,
          element.address + 8 ≤ limit := by
  have within : ∀ element ∈ (pduElements memory buffer apduLength).elements,
      element.address + element.length ≤ limit - 1 := by
    intro element member
    have ends := pduElements_within element member
    omega
  have ends := @dataSetBuffer_within memory (limit - 1) _ within
  rw [payloadBelow_iff_of_whole received (by omega), and_iff_right]
  · constructor
    · rintro delivery found
      obtain ⟨index, found⟩ := Option.isSome_iff_exists.mp found
      obtain ⟨subscriber, present⟩ : ∃ subscriber, subscribers[index]? = some subscriber :=
        ⟨_, List.getElem?_eq_getElem (target_lt found)⟩
      exact (delivery index subscriber found present).timestamp
    · intro timestamp index subscriber found _
      refine ⟨timestamp (by simp [found]), ?_⟩
      unfold GooseSubscriber.DataSetBelow
      cases subscriber.keptDataSet _ with
      | none =>
          exact readsBelow_parseAllDataUnknownValue_iff.mp ((decodesBelow_createLoop _
            subscriber.dataSetValuesSelfAllocated (by omega)).mono
              fun _ => Access.DecodesBelow.readsBelow)
      | some dataSetValues =>
          exact readsBelow_parseAllData_iff.mp ((decodesBelow_parseAllData dataSetValues
            (by omega)).mono fun _ => Access.DecodesBelow.readsBelow)
  · intro element member _
    have inside := within element (mem_of_readElements member)
    omega

end Whole

/-! ## The message -/

section Message

variable {memory : Memory} {limit : Nat} {first second : List GooseSubscriber}

/-- Subscribers that read alike and keep the same data sets are handed the same PDUs below a
limit. -/
theorem payloadBelow_congr (alike : ReadAlike first second)
    {change : Nat → GooseSubscriber → GooseSubscriber}
    (each : ∀ index : Nat, second[index]? = first[index]?.map (change index))
    (keeps : ∀ index subscriber confRev,
      (change index subscriber).keptDataSet confRev = subscriber.keptDataSet confRev)
    {buffer : Nat} {apduLength : Int} :
    PayloadBelow second memory limit buffer apduLength ↔
      PayloadBelow first memory limit buffer apduLength := by
  have delivered : ∀ index subscriber (elements : List Element),
      (change index subscriber).DeliveryBelow memory limit elements ↔
        subscriber.DeliveryBelow memory limit elements := by
    intro index subscriber elements
    have same : (change index subscriber).DataSetBelow memory limit
        (GoosePdu.ofElements memory elements) ↔
        subscriber.DataSetBelow memory limit (GoosePdu.ofElements memory elements) := by
      unfold GooseSubscriber.DataSetBelow
      rw [keeps]
    exact ⟨fun below => ⟨below.timestamp, same.mp below.dataSet⟩,
      fun below => ⟨below.timestamp, same.mpr below.dataSet⟩⟩
  rw [payloadBelow_iff, payloadBelow_iff, alike.pduWalk_eq, target_congr alike.selects]
  refine and_congr_right' (and_congr_right' (and_congr_right' (forall_congr' fun index => ?_)))
  rw [each]
  cases first[index]? with
  | none => simp
  | some subscriber => simp [delivered]

/-- The search for an interested subscriber leaves what is read of a PDU as it is. -/
theorem payloadBelow_findInterested (memory : Memory) (subscribers : List GooseSubscriber)
    {buffer : Nat} {apduLength : Int} :
    PayloadBelow (findInterestedSubscriber (frameAppId memory) (frameSrcMac memory)
        (frameDstMac memory) subscribers).1 memory limit buffer apduLength ↔
      PayloadBelow subscribers memory limit buffer apduLength := by
  have observer : ∀ (index : Nat) (subscriber : GooseSubscriber),
      let after := if interested memory subscribers = some index then
        subscriber.withAddresses memory else subscriber
      after.isObserver = subscriber.isObserver ∧ after.goCBRefLen = subscriber.goCBRefLen ∧
        ∀ confRev, after.keptDataSet confRev = subscriber.keptDataSet confRev := by
    intro index subscriber
    unfold GooseSubscriber.withAddresses
    split_ifs
    · exact ⟨rfl, rfl, fun _ => rfl⟩
    · exact ⟨rfl, rfl, fun _ => rfl⟩
    · exact ⟨rfl, rfl, fun _ => rfl⟩
  have each := findInterestedSubscriber_eq memory subscribers
  refine payloadBelow_congr (.of_each (selectAlike_findInterested memory subscribers) each ?_)
    each fun index subscriber => (observer index subscriber).2.2
  exact fun index subscriber =>
    ⟨(observer index subscriber).1, (observer index subscriber).2.1⟩

/-- Besides its header a message is read for its payload. -/
theorem readsBelow_message_iff {subscribers : List GooseSubscriber} {now : UInt64}
    {numbytes : Nat} :
    (parseGooseMessage subscribers memory numbytes now).Always (Access.ReadsBelow numbytes) ↔
      (IsGooseFrame memory numbytes →
        (parseGoosePayload (findInterestedSubscriber (frameAppId memory) (frameSrcMac memory)
          (frameDstMac memory) subscribers).1 memory 12 (frameApduLength memory) now).Always
            (Access.ReadsBelow numbytes)) := by
  unfold parseGooseMessage
  by_cases short : numbytes < 22
  · rw [if_pos short]
    exact iff_of_true (Traced.always_pure _) fun goose => absurd goose.1 (by omega)
  · have octet : ∀ address < 22, (memory.read address).Always (Access.ReadsBelow numbytes) :=
      fun address below => Memory.always_read.mpr (show address < numbytes by omega)
    have header : ∀ first count, first + count ≤ 22 →
        (memory.readOctets first count).Always (Access.ReadsBelow numbytes) :=
      fun first count within => readsBelow_readOctets (by omega)
    rw [if_neg short, Traced.always_bind, and_iff_right (octet 2 (by decide)), Traced.always_ite,
      and_iff_right fun _ => Traced.always_pure _, Traced.always_bind,
      and_iff_right (octet 3 (by decide)), Traced.always_ite,
      and_iff_right fun _ => Traced.always_pure _, Traced.always_bind,
      and_iff_right (header 6 6 (by decide)), Traced.always_bind,
      and_iff_right (header 0 6 (by decide)), Traced.always_bind,
      and_iff_right (header 4 4 (by decide))]
    simp only [Memory.value_read, not_not]
    exact ⟨fun below goose => below goose.2.1 goose.2.2,
      fun below high low => below ⟨by omega, high, low⟩⟩

end Message

/-- The receiver reads only octets that it received, whatever came before them, exactly if the
frame is no GOOSE frame or what its octets tell of the PDU lies below their number. -/
theorem readsBelow_parseGooseMessage_iff (memory : Memory) (subscribers : List GooseSubscriber)
    (numbytes : Nat) (now : UInt64) :
    (parseGooseMessage subscribers memory numbytes now).Always (Access.ReadsBelow numbytes) ↔
      (IsGooseFrame memory numbytes → PayloadBelow subscribers memory numbytes 12
        (frameApduLength memory)) := by
  rw [readsBelow_message_iff, readsBelow_parseGoosePayload_iff, payloadBelow_findInterested]

/-- An observer of any reference. -/
def observerA : GooseSubscriber := (GooseSubscriber.create ⟨[0x41], by decide⟩ none).setObserver

/-- The elements of a PDU that ends with a timestamp without content. -/
def emptyTimestamp (reference : List UInt8) : List (UInt8 × List UInt8) :=
  [(0x80, reference), (0x84, [])]

/-- A frame of 22 octets whose timestamp is empty is read up to octet 25. -/
theorem reads_past_frame :
    ¬ ∀ (memory : Memory) (subscribers : List GooseSubscriber) (numbytes : Nat) (now : UInt64),
      (parseGooseMessage subscribers memory numbytes now).Always (Access.ReadsBelow numbytes) := by
  intro bounded
  let memory := Memory.ofOctets
    (pduFrame Octets.zero 0x1000 (emptyTimestamp [])) (fun _ => 0)
  have read : Access.read 25 ∈ (parseGooseMessage [observerA] memory 22 0).trace := by
    decide +kernel
  have below : 25 < 22 := bounded memory [observerA] 22 0 _ read
  exact absurd below (by decide)

/-! ## What a publisher sends -/

section Publishing

variable {memory : Memory}

theorem not_reachesEmptyBoolean_of_supplies {address length : Nat}
    (supplies : ∀ part ∈ (elements memory address length length 0).elements,
      part.Supplies memory) : ¬ ReachesEmptyBoolean memory address length := by
  have mem_of_reached : ∀ {address length element}, Reached memory address length element →
      element ∈ (elements memory address length length 0).elements := by
    rintro address length element ⟨first, rest, scanned, _⟩
    simp [scanned]
  intro reaches
  induction reaches with
  | here reached kind empty =>
      obtain ⟨content, _⟩ := supplies _ (mem_of_reached reached)
      have some := content (.inl kind)
      omega
  | inside reached kind _ ih =>
      obtain ⟨_, components⟩ := supplies _ (mem_of_reached reached)
      exact ih (components _ kind)

mutual

/-- An element that has the octets that are always read of it supplies any value. -/
theorem MmsValue.supplied_of_supplies : (value : MmsValue) → {element : Element} →
    element.Supplies memory → ComponentSupplied memory element (some value)
  | .complex type components, element, .intro _ inner => by
      intro kind known same
      rw [same] at known
      exact componentsSupplied_of_supplies components (inner type known)
  | .boolean _, element, .intro content _ => by
      rintro kind known rfl
      exact content (.inl known)
  | .bitString _, element, .intro content _ => by
      rintro kind known rfl
      exact content (.inr known)
  | .dataAccessError _, _, _ => fun _ _ => trivial
  | .integer _, _, _ => fun _ _ => trivial
  | .unsigned _, _, _ => fun _ _ => trivial
  | .float _, _, _ => fun _ _ => trivial
  | .octetString _, _, _ => fun _ _ => trivial
  | .visibleString _, _, _ => fun _ _ => trivial
  | .string _, _, _ => fun _ _ => trivial
  | .binaryTime _, _, _ => fun _ _ => trivial
  | .utcTime _, _, _ => fun _ _ => trivial
  | .unsupported _, _, _ => fun _ _ => trivial

theorem componentsSupplied_of_supplies : (components : Components) → {parts : List Element} →
    (∀ part ∈ parts, part.Supplies memory) → ComponentsSupplied memory parts components
  | [], _, _ => trivial
  | component :: rest, _, supplies => by
      rintro element others rfl
      obtain ⟨first, later⟩ := List.forall_mem_cons.mp supplies
      refine ⟨?_, fun _ => componentsSupplied_of_supplies rest later⟩
      cases component with
      | none => trivial
      | some value => exact MmsValue.supplied_of_supplies value first

end

/-- The data set of a message whose elements have the octets that are always read of them. -/
theorem dataSetSupplied_of_supplies (subscriber : GooseSubscriber) {pdu : GoosePdu}
    (supplies : ∀ part ∈ (elements memory (pdu.dataSetBufferAddress.getD 0)
      pdu.dataSetBufferLength pdu.dataSetBufferLength 0).elements, part.Supplies memory) :
    subscriber.DataSetSupplied memory pdu := by
  unfold GooseSubscriber.DataSetSupplied
  cases subscriber.keptDataSet pdu.confRev with
  | none => exact not_reachesEmptyBoolean_of_supplies supplies
  | some dataSetValues => exact componentsSupplied_of_supplies dataSetValues supplies

/-- Flags and the timestamp of a message have the octets that are read of them. -/
theorem length_items {publisher : GoosePublisher} {dataSet : Components} {content : List UInt8} :
    ∀ item ∈ publisher.items dataSet content,
      (PduTag.ofOctet? item.1 = some .simulation ∨ PduTag.ofOctet? item.1 = some .ndsCom →
        0 < item.2.length) ∧ (PduTag.ofOctet? item.1 = some .t → 8 ≤ item.2.length) := by
  simp [GoosePublisher.items, GoosePublisher.headerItems, PduTag.ofOctet?,
    publisher.timestamp.property]

/-- Whatever a publisher sends, every receiver reads only what it received of it. -/
theorem GoosePublisher.readsBelow_published {publisher : GoosePublisher}
    {parameters : CommParameters} {srcAddr : Octets 6}
    (prepared : publisher.Prepared parameters srcAddr) {values : List MmsValue}
    (wellFormed : ∀ value ∈ values, value.WellFormed) {publication : Publication}
    (published : publisher.publish (values.map some) = some publication)
    (success : publication.returned = 0) :
    ∃ packet, publication.sent = some packet ∧
      ∀ (memory : Memory) (subscribers : List GooseSubscriber) (now : UInt64),
        memory.Holds 0 packet → (parseGooseMessage subscribers memory packet.length now).Always
          (Access.ReadsBelow packet.length) := by
  obtain ⟨payload, _, created, fits, sent, _, _⟩ := publish_eq prepared published success
  obtain ⟨size, entries, counted, written, _, shorter, payloadEq⟩ :=
    createGoosePayload_eq created (by omega)
  rw [presentEntries_map] at counted written
  have all := encodesAll _ (componentsWellFormed_map wellFormed) written (by omega)
  obtain rfl := Option.some.inj (counted.symm.trans all.counted)
  rw [List.take_length] at payloadEq
  refine ⟨_, sent, ?_⟩
  intro memory subscribers now held
  have number : payload.length + 8 = (UInt16.ofNat (payload.length + 8)).toNat := by
    rw [UInt16.toNat_ofNat', Nat.mod_eq_of_lt (by omega)]
  obtain ⟨elements, scanned, written⟩ :=
    elements_of_encoded held readsBack_encodeLength payloadEq number
  obtain ⟨address, givenData, length, octets⟩ := (carries_items written).dataSet
  have whole : 12 + frameApduLength memory = (12 + payload.length : Nat) := by
    rw [frameApduLength_of_received held, ← number]
    omega
  have lengths : ∀ element ∈ elements,
      (element.pduTag = some .simulation ∨ element.pduTag = some .ndsCom →
        0 < element.length) ∧ (element.pduTag = some .t → 8 ≤ element.length) := by
    intro element member
    have item : (element.tag, element.content memory) ∈ publisher.items _ entries :=
      written ▸ List.mem_map_of_mem member
    simpa [Element.content, Element.pduTag] using length_items _ item
  rw [readsBelow_message_iff, readsBelow_parseGoosePayload_iff, payloadBelow_findInterested,
    length_receivedFrame]
  intro _
  apply payloadBelow_of_supplied (by omega) (by omega)
  unfold frameElements at scanned
  refine ⟨fun element member => ?_, fun index subscriber _ _ => ⟨fun element given => ?_, ?_⟩⟩
  · rw [scanned] at member
    exact (lengths element (mem_of_readElements member)).1
  · rw [scanned] at given
    obtain ⟨member, kind⟩ := of_timestampElement given
    exact (lengths element member).2 kind
  · rw [scanned]
    apply dataSetSupplied_of_supplies
    obtain ⟨parts, tiles, _, supplies⟩ := elements_of_encodesAll all (by omega) octets
    rw [givenData, Option.getD_some, length, tiles]
    exact supplies

end Publishing

end GridGooseSV
