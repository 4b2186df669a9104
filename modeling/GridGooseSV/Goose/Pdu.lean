import GridGooseSV.Ber.Length
import GridGooseSV.Goose.Receiver

/-!
# The elements of a GOOSE PDU

What a frame does to the subscribers of a receiver is told by the list of its
elements: which subscriber each of them is for, the strings that each subscriber
takes over while the elements are read, and the fields that are delivered in the
end. The loop of the receiver computes exactly this.
-/

namespace GridGooseSV

open BerDecoder

/-- What a PDU takes an element for. -/
def Element.pduTag (element : Element) : Option PduTag := PduTag.ofOctet? element.tag

/-- The content of an element, unless it is too long for a `char[130]` field. -/
def Element.string? (element : Element) (memory : Memory) : Option StringField :=
  if fits : element.length ≤ stringLimit then
    some ⟨element.content memory, by rw [Element.content, Memory.length_octets]; exact fits⟩
  else none

theorem value_absorb (field : StringField) (memory : Memory) (element : Element) :
    (field.absorb memory element.address element.length).value =
      (element.string? memory).getD field := by
  unfold StringField.absorb Element.string?
  split
  · rfl
  · rfl

/-- Whether a `gocbRef` of the given octets is taken to be for a subscriber. -/
def GooseSubscriber.selects (self : GooseSubscriber) (octets : List UInt8) : Bool :=
  self.isObserver || (decide (self.goCBRefLen = octets.length) && self.refersTo octets)

/-- The first subscriber that a `gocbRef` element is taken to be for. -/
def selected (memory : Memory) (element : Element) (subscribers : List GooseSubscriber) :
    Option Nat :=
  subscribers.findIdx? (·.selects (element.content memory))

/-- A subscriber after a `gocbRef` that is taken to be for it. -/
def GooseSubscriber.takeReference (self : GooseSubscriber) (memory : Memory)
    (element : Element) : GooseSubscriber :=
  if self.isObserver then { self with goCBRef := (element.string? memory).getD self.goCBRef }
  else self

theorem value_matchGocbRef_cons (memory : Memory) (element : Element)
    (subscriber : GooseSubscriber) (rest : List GooseSubscriber) :
    (matchGocbRef memory element.address element.length (subscriber :: rest)).value =
      if subscriber.selects (element.content memory) then
        (some 0, subscriber.takeReference memory element :: rest)
      else
        ((matchGocbRef memory element.address element.length rest).value.1.map (· + 1),
          subscriber :: (matchGocbRef memory element.address element.length rest).value.2) := by
  have size : (element.content memory).length = element.length := by simp [Element.content]
  simp only [matchGocbRef, ↓Memory.value_bind_readOctets, Traced.value_ite, Traced.value_bind,
    Traced.value_pure, GooseSubscriber.selects, size]
  by_cases observer : subscriber.isObserver
  · simp [observer, GooseSubscriber.takeReference, value_absorb]
  · by_cases length : subscriber.goCBRefLen = element.length
    · simp only [observer, length, ↓reduceIte, Bool.false_or, decide_true, Bool.true_and,
        Bool.false_eq_true, GooseSubscriber.takeReference]
      rfl
    · simp [observer, length]

/-- The search of a `gocbRef` finds the first subscriber that it is taken to be
for and changes no other. -/
theorem value_matchGocbRef (memory : Memory) (element : Element)
    (subscribers : List GooseSubscriber) :
    (matchGocbRef memory element.address element.length subscribers).value =
      (selected memory element subscribers,
        match selected memory element subscribers with
        | none => subscribers
        | some index => subscribers.modify index (·.takeReference memory element)) := by
  induction subscribers with
  | nil => rfl
  | cons subscriber rest ih =>
      rw [value_matchGocbRef_cons, ih]
      unfold selected
      rw [List.findIdx?_cons]
      split
      · rfl
      · cases List.findIdx? _ rest <;> rfl

/-- A subscriber that is no observer and whose reference was not cut. -/
structure GooseSubscriber.Plain (subscriber : GooseSubscriber) : Prop where
  unobserving : ¬ subscriber.isObserver
  whole : subscriber.goCBRefLen = subscriber.goCBRef.val.length

theorem selects_iff_of_plain {subscriber : GooseSubscriber} (plain : subscriber.Plain)
    (octets : List UInt8) : subscriber.selects octets ↔ octets = subscriber.goCBRef.val := by
  unfold GooseSubscriber.selects GooseSubscriber.refersTo
  simp only [plain.unobserving, plain.whole, Bool.false_or, Bool.and_eq_true, decide_eq_true_eq]
  constructor
  · rintro ⟨length, equal⟩
    rw [← length, List.take_left] at equal
    exact equal.symm
  · rintro rfl
    exact ⟨rfl, List.take_left⟩

theorem plain_create {goCbRef : CString} (fits : goCbRef.val.length ≤ stringLimit)
    (dataSetValues : Option Components) : (GooseSubscriber.create goCbRef dataSetValues).Plain where
  unobserving := by simp [GooseSubscriber.create]
  whole := by simp [GooseSubscriber.create, fits]

/-! ## Whom the elements are for -/

/-- The subscriber that is matched once an element is read. -/
def matchAfter (memory : Memory) (subscribers : List GooseSubscriber) (element : Element)
    (matching : Option Nat) : Option Nat :=
  if element.pduTag = some .gocbRef then selected memory element subscribers <|> matching
  else matching

/-- Whether parsing goes on once an element is read. -/
def goesOn (element : Element) (matching : Option Nat) : Bool :=
  decide (element.pduTag ≠ some .gocbRef) || matching.isSome

/-- The subscriber that is matched in the end, and whether all elements are read. -/
def matchAll (memory : Memory) (subscribers : List GooseSubscriber) :
    (elements : List Element) → (matching : Option Nat) → Option Nat × Bool
  | [], matching => (matching, true)
  | element :: rest, matching =>
    let matching := matchAfter memory subscribers element matching
    if goesOn element matching then matchAll memory subscribers rest matching
    else (matching, false)

/-- The string that an element of the given kind hands to the matched subscriber. -/
def handedBy (memory : Memory) (tag : PduTag) (index : Nat) (element : Element)
    (matching : Option Nat) : Option StringField :=
  if element.pduTag = some tag ∧ matching = some index then element.string? memory else none

/-- The last string of the given kind that the elements hand to a subscriber. -/
def handed (memory : Memory) (subscribers : List GooseSubscriber) (tag : PduTag)
    (index : Nat) : (elements : List Element) → (matching : Option Nat) → Option StringField
  | [], _ => none
  | element :: rest, matching =>
    let matching := matchAfter memory subscribers element matching
    let first := handedBy memory tag index element matching
    if goesOn element matching then handed memory subscribers tag index rest matching <|> first
    else first

/-- An element of the given kind that fits in a `char[130]` field is read while the
subscriber is the matched one. -/
def Hands (memory : Memory) (subscribers : List GooseSubscriber) (tag : PduTag) (index : Nat)
    (elements : List Element) (matching : Option Nat) : Prop :=
  ∃ first element rest, elements = first ++ element :: rest ∧ element.pduTag = some tag ∧
    element.length ≤ stringLimit ∧
    (matchAll memory subscribers (first ++ [element]) matching).1 = some index

theorem handedBy_isSome {memory : Memory} {tag : PduTag} {index : Nat} {element : Element}
    {matching : Option Nat} :
    (handedBy memory tag index element matching).isSome ↔
      element.pduTag = some tag ∧ element.length ≤ stringLimit ∧ matching = some index := by
  unfold handedBy Element.string?
  by_cases kind : element.pduTag = some tag <;> by_cases here : matching = some index <;>
    by_cases fits : element.length ≤ stringLimit <;> simp [kind, here, fits]

theorem hands_cons {memory : Memory} {subscribers : List GooseSubscriber} {tag : PduTag}
    {index : Nat} {element : Element} {rest : List Element} {matching : Option Nat}
    (goes : goesOn element (matchAfter memory subscribers element matching)) :
    Hands memory subscribers tag index (element :: rest) matching ↔
      (handedBy memory tag index element
        (matchAfter memory subscribers element matching)).isSome ∨
      Hands memory subscribers tag index rest
        (matchAfter memory subscribers element matching) := by
  rw [handedBy_isSome]
  constructor
  · rintro ⟨first, other, others, equation, kind, fits, matched⟩
    cases first with
    | nil =>
        obtain ⟨rfl, _⟩ := List.cons.inj equation
        exact .inl ⟨kind, fits, by simpa [matchAll, goes] using matched⟩
    | cons head first =>
        obtain ⟨rfl, rfl⟩ := List.cons.inj equation
        refine .inr ⟨first, other, others, rfl, kind, fits, ?_⟩
        simpa [matchAll, goes] using matched
  · rintro (⟨kind, fits, matched⟩ | ⟨first, other, others, rfl, kind, fits, matched⟩)
    · exact ⟨[], element, rest, rfl, kind, fits, by simpa [matchAll, goes] using matched⟩
    · exact ⟨element :: first, other, others, rfl, kind, fits,
        by simpa [matchAll, goes] using matched⟩

/-- A string is handed to a subscriber exactly by an element that fits. -/
theorem handed_isSome_iff {memory : Memory} {subscribers : List GooseSubscriber} {tag : PduTag}
    {index : Nat} {elements : List Element} {matching : Option Nat}
    (all : (matchAll memory subscribers elements matching).2) :
    (handed memory subscribers tag index elements matching).isSome ↔
      Hands memory subscribers tag index elements matching := by
  induction elements generalizing matching with
  | nil => simp [handed, Hands]
  | cons element rest ih =>
      rw [matchAll] at all
      by_cases goes : goesOn element (matchAfter memory subscribers element matching)
      · simp only [goes, ↓reduceIte] at all
        rw [hands_cons goes, ← ih all, handed]
        simp only [goes, ↓reduceIte]
        cases handed memory subscribers tag index rest
          (matchAfter memory subscribers element matching) <;> simp
      · simp [goes] at all

/-- The fields of a PDU once an element is read. -/
def GoosePdu.after (pdu : GoosePdu) (memory : Memory) (element : Element) : GoosePdu :=
  let number := (decodeUint32 memory 0 element.length element.address).value
  let flag := (decodeBoolean memory 0 element.address).value
  match element.pduTag with
  | some .timeAllowedToLive => { pdu with timeAllowedToLive := number }
  | some .t => { pdu with timestampBufPos := some element.address }
  | some .stNum => { pdu with stNum := number }
  | some .sqNum => { pdu with sqNum := number }
  | some .simulation => { pdu with simulation := flag }
  | some .confRev => { pdu with confRev := number }
  | some .ndsCom => { pdu with ndsCom := flag }
  | some .numDatSetEntries => { pdu with numberOfDatSetEntries := number }
  | some .allData =>
    { pdu with dataSetBufferAddress := some element.address, dataSetBufferLength := element.length }
  | some .gocbRef | some .datSet | some .goId | none => pdu

/-- The fields that the elements decode to. -/
def GoosePdu.ofElements (memory : Memory) (elements : List Element) : GoosePdu :=
  elements.foldl (fun pdu element => pdu.after memory element) {}

/-- A frame has a timestamp exactly if one of its elements is one. -/
theorem timestampBufPos_isSome {memory : Memory} {elements : List Element} :
    (GoosePdu.ofElements memory elements).timestampBufPos.isSome ↔
      ∃ element ∈ elements, element.pduTag = some .t := by
  suffices all : ∀ pdu : GoosePdu,
      (elements.foldl (fun pdu element => pdu.after memory element) pdu).timestampBufPos.isSome ↔
        pdu.timestampBufPos.isSome ∨ ∃ element ∈ elements, element.pduTag = some .t by
    simpa [GoosePdu.ofElements] using all {}
  induction elements with
  | nil => simp
  | cons element rest ih =>
      intro pdu
      rw [List.foldl_cons, ih]
      cases kind : element.pduTag with
      | none => simp [GoosePdu.after, kind]
      | some tag => cases tag <;> simp [GoosePdu.after, kind]

/-- The data set of a frame is one of its elements. -/
theorem dataSetBuffer_eq (memory : Memory) (elements : List Element) :
    let pdu := GoosePdu.ofElements memory elements
    (pdu.dataSetBufferAddress = none ∧ pdu.dataSetBufferLength = 0) ∨
      ∃ element ∈ elements, element.pduTag = some .allData ∧
        pdu.dataSetBufferAddress = some element.address ∧
        pdu.dataSetBufferLength = element.length := by
  suffices all : ∀ pdu : GoosePdu,
      let after := elements.foldl (fun pdu element => pdu.after memory element) pdu
      (after.dataSetBufferAddress = pdu.dataSetBufferAddress ∧
          after.dataSetBufferLength = pdu.dataSetBufferLength) ∨
        ∃ element ∈ elements, element.pduTag = some .allData ∧
          after.dataSetBufferAddress = some element.address ∧
          after.dataSetBufferLength = element.length from all {}
  induction elements with
  | nil => exact fun pdu => .inl ⟨rfl, rfl⟩
  | cons element rest ih =>
      intro pdu
      rcases ih (pdu.after memory element) with ⟨address, length⟩ | ⟨other, member, found⟩
      · simp only [List.foldl_cons, address, length]
        cases kind : element.pduTag with
        | none => exact .inl ⟨by simp [GoosePdu.after, kind], by simp [GoosePdu.after, kind]⟩
        | some tag => cases tag <;> simp [GoosePdu.after, kind]
      · exact .inr ⟨other, List.mem_cons_of_mem _ member, found⟩

/-! ## The loop -/

namespace GooseSubscriber

/-- A subscriber with the strings that it takes over: only an observer takes a
reference. -/
def withStrings (self : GooseSubscriber) (goCBRef datSet goId : Option StringField) :
    GooseSubscriber :=
  { self with
    goCBRef := if self.isObserver then goCBRef.getD self.goCBRef else self.goCBRef
    datSet := datSet.getD self.datSet
    goId := goId.getD self.goId }

@[simp] theorem withStrings_none (self : GooseSubscriber) :
    self.withStrings none none none = self := by
  simp [withStrings]

theorem withStrings_of_plain {self : GooseSubscriber} (plain : ¬ self.isObserver)
    (goCBRef : Option StringField) : self.withStrings goCBRef none none = self := by
  unfold withStrings
  rw [if_neg plain]
  rfl

theorem takeReference_eq (self : GooseSubscriber) (memory : Memory) (element : Element) :
    self.takeReference memory element = self.withStrings (element.string? memory) none none := by
  unfold takeReference
  split
  · rename_i observer
    unfold withStrings
    rw [if_pos observer]
    rfl
  · rename_i plain
    rw [withStrings_of_plain plain]

@[simp] theorem withStrings_withStrings (self : GooseSubscriber)
    (goCBRef datSet goId goCBRef' datSet' goId' : Option StringField) :
    (self.withStrings goCBRef datSet goId).withStrings goCBRef' datSet' goId' =
      self.withStrings (goCBRef' <|> goCBRef) (datSet' <|> datSet) (goId' <|> goId) := by
  unfold withStrings
  congr 1
  · cases self.isObserver <;> cases goCBRef' <;> rfl
  · cases datSet' <;> rfl
  · cases goId' <;> rfl

/-- Strings that are taken over do not change whom a reference selects. -/
@[simp] theorem selects_withStrings (self : GooseSubscriber)
    (goCBRef datSet goId : Option StringField) (octets : List UInt8) :
    (self.withStrings goCBRef datSet goId).selects octets = self.selects octets := by
  unfold selects withStrings
  cases observer : self.isObserver with
  | true => rfl
  | false => rfl

end GooseSubscriber

/-- Two lists in which every reference selects alike. -/
def SelectAlike (first second : List GooseSubscriber) : Prop :=
  ∀ octets, first.map (·.selects octets) = second.map (·.selects octets)

theorem selected_congr {memory : Memory} {element : Element} {first second : List GooseSubscriber}
    (alike : SelectAlike first second) :
    selected memory element first = selected memory element second := by
  have same := congrArg (List.findIdx? id) (alike (element.content memory))
  simpa [selected, List.findIdx?_map, Function.comp_def] using same

theorem matchAfter_congr {memory : Memory} {first second : List GooseSubscriber}
    (alike : SelectAlike first second) (element : Element) (matching : Option Nat) :
    matchAfter memory first element matching = matchAfter memory second element matching := by
  rw [matchAfter, matchAfter, selected_congr alike]

theorem matchAll_congr {memory : Memory} {first second : List GooseSubscriber}
    (alike : SelectAlike first second) (elements : List Element) (matching : Option Nat) :
    matchAll memory first elements matching = matchAll memory second elements matching := by
  induction elements generalizing matching with
  | nil => rfl
  | cons element rest ih =>
      rw [matchAll, matchAll, matchAfter_congr alike]
      simp only [ih]

theorem handed_congr {memory : Memory} {first second : List GooseSubscriber}
    (alike : SelectAlike first second) (tag : PduTag) (index : Nat) (elements : List Element)
    (matching : Option Nat) :
    handed memory first tag index elements matching =
      handed memory second tag index elements matching := by
  induction elements generalizing matching with
  | nil => rfl
  | cons element rest ih =>
      rw [handed, handed, matchAfter_congr alike]
      simp only [ih]

/-- Subscribers that differ in the strings they took over select alike. -/
theorem selectAlike_of_withStrings {first second : List GooseSubscriber}
    (strings : Nat → Option StringField × Option StringField × Option StringField)
    (each : ∀ index : Nat, second[index]? = first[index]?.map fun subscriber : GooseSubscriber =>
      subscriber.withStrings (strings index).1 (strings index).2.1 (strings index).2.2) :
    SelectAlike first second := by
  intro octets
  apply List.ext_getElem?
  intro index
  rw [List.getElem?_map, List.getElem?_map, each]
  cases first[index]? with
  | none => rfl
  | some subscriber => simp

/-- Only the matched subscriber changes. -/
theorem value_updateMatching (state : PayloadState)
    (change : GooseSubscriber → Traced Access GooseSubscriber) :
    let result := (state.updateMatching change).value
    result.matchingSubscriber = state.matchingSubscriber ∧ result.pdu = state.pdu ∧
      ∀ index : Nat, result.subscriberList[index]? =
        if state.matchingSubscriber = some index then
          state.subscriberList[index]?.map fun subscriber => (change subscriber).value
        else state.subscriberList[index]? := by
  obtain ⟨subscribers, matching, pdu⟩ := state
  unfold PayloadState.updateMatching
  cases matching with
  | none => exact ⟨rfl, rfl, fun index => rfl⟩
  | some position =>
      simp only [Option.some.injEq]
      cases found : subscribers[position]? with
      | none =>
          refine ⟨rfl, rfl, fun index => ?_⟩
          by_cases here : position = index
          · subst here
            simp [found]
          · simp [here]
      | some subscriber =>
          refine ⟨rfl, rfl, fun index => ?_⟩
          obtain ⟨bound, _⟩ := List.getElem?_eq_some_iff.mp found
          simp only [Traced.value_bind, Traced.value_pure, List.getElem?_set]
          by_cases here : position = index
          · rw [if_pos here, if_pos bound, if_pos here, ← here, found, Option.map_some]
          · rw [if_neg here, if_neg here]

/-- An observer is selected, unless a subscriber in front of it is. -/
theorem selected_of_observer {memory : Memory} {element : Element}
    {subscribers : List GooseSubscriber} {index : Nat} {subscriber : GooseSubscriber}
    (found : subscribers[index]? = some subscriber) (observer : subscriber.isObserver) :
    (selected memory element subscribers).isSome := by
  rw [selected, List.findIdx?_isSome, List.any_eq_true]
  exact ⟨subscriber, List.mem_of_getElem? found, by simp [GooseSubscriber.selects, observer]⟩

/-- What a `gocbRef` does. -/
theorem value_element_gocbRef {memory : Memory} {element : Element} {state : PayloadState}
    (kind : element.pduTag = some .gocbRef) :
    let matching := selected memory element state.subscriberList <|> state.matchingSubscriber
    let result := (state.element memory element.tag element.address element.length).value
    result.2 = matching.isSome ∧ result.1.matchingSubscriber = matching ∧
      result.1.pdu = state.pdu ∧
      ∀ index : Nat, result.1.subscriberList[index]? =
        state.subscriberList[index]?.map fun subscriber : GooseSubscriber =>
          subscriber.withStrings
            (if matching = some index then element.string? memory else none) none none := by
  unfold Element.pduTag at kind
  simp only [PayloadState.element, kind, Traced.value_bind, value_matchGocbRef, Traced.value_pure]
  refine ⟨trivial, trivial, trivial, fun index => ?_⟩
  cases search : selected memory element state.subscriberList with
  | none =>
      -- There is no observer, and only observers take a reference over.
      simp only
      cases found : state.subscriberList[index]? with
      | none => rfl
      | some subscriber =>
          have plain : ¬ subscriber.isObserver := by
            intro observer
            have found := @selected_of_observer memory element _ _ _ found observer
            simp [search] at found
          rw [Option.map_some, GooseSubscriber.withStrings_of_plain plain]
  | some position =>
      simp only [List.getElem?_modify]
      by_cases here : position = index
      · simp [here, GooseSubscriber.takeReference_eq]
      · simp [here]

/-- What one element does. -/
theorem value_element (memory : Memory) (element : Element) (state : PayloadState) :
    let matching := matchAfter memory state.subscriberList element state.matchingSubscriber
    let result := (state.element memory element.tag element.address element.length).value
    result.2 = goesOn element matching ∧ result.1.matchingSubscriber = matching ∧
      result.1.pdu = state.pdu.after memory element ∧
      ∀ index : Nat, result.1.subscriberList[index]? =
        state.subscriberList[index]?.map fun subscriber : GooseSubscriber => subscriber.withStrings
          (handedBy memory .gocbRef index element matching)
          (handedBy memory .datSet index element matching)
          (handedBy memory .goId index element matching) := by
  cases kind : element.pduTag with
  | none =>
      have known := kind
      unfold Element.pduTag at kind
      simp [PayloadState.element, kind, goesOn, known, matchAfter, GoosePdu.after, handedBy]
  | some tag =>
      have known := kind
      unfold Element.pduTag at kind
      cases tag with
      | gocbRef =>
          have each := @value_element_gocbRef memory element state known
          simpa [goesOn, known, matchAfter, GoosePdu.after, handedBy] using each
      | datSet =>
          obtain ⟨matching, pdu, each⟩ := value_updateMatching state fun subscriber => do
            let datSet ← subscriber.datSet.absorb memory element.address element.length
            pure { subscriber with datSet := datSet }
          simp only [PayloadState.element, PayloadState.absorb, kind, Traced.value_bind,
            Traced.value_pure, goesOn, known, matchAfter, GoosePdu.after, handedBy] at each ⊢
          refine ⟨rfl, by simpa using matching, pdu, fun index => ?_⟩
          rw [each]
          simp only [value_absorb]
          by_cases here : state.matchingSubscriber = some index <;>
            simp [here, GooseSubscriber.withStrings]
      | goId =>
          obtain ⟨matching, pdu, each⟩ := value_updateMatching state fun subscriber => do
            let goId ← subscriber.goId.absorb memory element.address element.length
            pure { subscriber with goId := goId }
          simp only [PayloadState.element, PayloadState.absorb, kind, Traced.value_bind,
            Traced.value_pure, goesOn, known, matchAfter, GoosePdu.after, handedBy] at each ⊢
          refine ⟨rfl, by simpa using matching, pdu, fun index => ?_⟩
          rw [each]
          simp only [value_absorb]
          by_cases here : state.matchingSubscriber = some index <;>
            simp [here, GooseSubscriber.withStrings]
      | _ =>
          simp [PayloadState.element, PayloadState.absorb, kind, goesOn, known, matchAfter,
            GoosePdu.after, handedBy]

theorem value_elementLoop_succ (memory : Memory) (buffer : Nat) (apduLength : Int)
    (gooseEnd fuel bufPos : Nat) (state : PayloadState) :
    (elementLoop memory buffer apduLength gooseEnd (fuel + 1) bufPos state).value =
      if bufPos < gooseEnd then
        match (decodeLength memory buffer apduLength (bufPos + 1)).value with
        | none => (state, false)
        | some (start, length) =>
          let after :=
            (state.element memory (memory (buffer + bufPos)) (buffer + start) length).value
          if after.2 then
            (elementLoop memory buffer apduLength gooseEnd fuel (start + length) after.1).value
          else (after.1, false)
      else (state, true) := by
  simp only [elementLoop, ↓Memory.value_bind_read, Traced.value_ite, Traced.value_bind,
    Traced.value_pure]
  rcases (decodeLength memory buffer apduLength (bufPos + 1)).value with _ | ⟨start, length⟩
  · rfl
  · simp only [Traced.value_bind, Traced.value_ite, Traced.value_pure]

/-- The loop reads the elements of the PDU. -/
theorem value_elementLoop {memory : Memory} {buffer : Nat} {apduLength : Int}
    {gooseEnd fuel bufPos : Nat} (enough : gooseEnd - bufPos ≤ fuel) (state : PayloadState) :
    let scan := elements memory buffer apduLength gooseEnd bufPos
    let result := (elementLoop memory buffer apduLength gooseEnd fuel bufPos state).value
    let final := matchAll memory state.subscriberList scan.elements state.matchingSubscriber
    result.2 = (final.2 && scan.complete) ∧ result.1.matchingSubscriber = final.1 ∧
      (final.2 → result.1.pdu =
        scan.elements.foldl (fun pdu element => pdu.after memory element) state.pdu) ∧
      ∀ index : Nat, result.1.subscriberList[index]? =
        state.subscriberList[index]?.map fun subscriber : GooseSubscriber => subscriber.withStrings
          (handed memory state.subscriberList .gocbRef index scan.elements
            state.matchingSubscriber)
          (handed memory state.subscriberList .datSet index scan.elements state.matchingSubscriber)
          (handed memory state.subscriberList .goId index scan.elements
            state.matchingSubscriber) := by
  induction fuel generalizing bufPos state with
  | zero =>
      rw [elements_end (by omega)]
      refine ⟨rfl, rfl, fun _ => rfl, fun index => ?_⟩
      simp [elementLoop, handed]
  | succ fuel ih =>
      by_cases inside : bufPos < gooseEnd
      · rcases decoded : (decodeLength memory buffer apduLength (bufPos + 1)).value with
          _ | ⟨start, length⟩
        · rw [elements_malformed inside decoded, value_elementLoop_succ, if_pos inside]
          simp [decoded, matchAll, handed]
        · have later := decodeLength_advances decoded
          rw [elements_next inside decoded, value_elementLoop_succ, if_pos inside]
          simp only [decoded]
          obtain ⟨first, matching, pdu, each⟩ := value_element memory
            ⟨memory (buffer + bufPos), buffer + start, length⟩ state
          rcases step : (state.element memory (memory (buffer + bufPos)) (buffer + start)
            length).value with ⟨after, continues⟩
          simp only [step] at first matching pdu each
          have alike : SelectAlike state.subscriberList after.subscriberList :=
            selectAlike_of_withStrings (fun index => (_, _, _)) each
          simp only [Scan.cons, matchAll, handed, ← first]
          by_cases goes : continues = true
          · obtain ⟨complete, matched, fields, strings⟩ :=
              @ih (start + length) (by omega) after
            simp only [goes, ↓reduceIte, matching, pdu] at complete matched fields strings ⊢
            rw [matchAll_congr alike]
            refine ⟨complete, matched, fields, fun index => ?_⟩
            rw [strings, each, Option.map_map]
            simp only [Function.comp_def, GooseSubscriber.withStrings_withStrings,
              handed_congr alike]
          · simp only [goes, Bool.false_eq_true, ↓reduceIte]
            exact ⟨rfl, matching, fun impossible => impossible.elim, each⟩
      · rw [elements_end (by omega), value_elementLoop_succ, if_neg inside]
        simp [matchAll, handed]

end GridGooseSV
