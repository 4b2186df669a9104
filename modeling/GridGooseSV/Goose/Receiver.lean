import GridGooseSV.Goose.DataSet

/-!
# GOOSE receiver

After `parseGoosePayload` and `parseGooseMessage` of `goose_receiver.cc`. The
receive buffer is a memory, so an index past the received frame reads whatever
earlier frames left there.

`if (1)` in `parseGooseMessage` makes the search for an interested subscriber
matter only for what it writes into an observer.
-/

namespace GridGooseSV

open BerDecoder

/-- The tags of the elements of a GOOSE PDU. -/
inductive PduTag
  | gocbRef
  | timeAllowedToLive
  | datSet
  | goId
  | t
  | stNum
  | sqNum
  | simulation
  | confRev
  | ndsCom
  | numDatSetEntries
  | allData
  deriving DecidableEq, Repr

/-- The cases of `switch (tag)`; an element with another tag is passed over. -/
def PduTag.ofOctet? (tag : UInt8) : Option PduTag :=
  if tag = 0x80 then some .gocbRef
  else if tag = 0x81 then some .timeAllowedToLive
  else if tag = 0x82 then some .datSet
  else if tag = 0x83 then some .goId
  else if tag = 0x84 then some .t
  else if tag = 0x85 then some .stNum
  else if tag = 0x86 then some .sqNum
  else if tag = 0x87 then some .simulation
  else if tag = 0x88 then some .confRev
  else if tag = 0x89 then some .ndsCom
  else if tag = 0x8a then some .numDatSetEntries
  else if tag = 0xab then some .allData
  else none

/-- Copy an element into a `char[130]` field and terminate it, unless it is too
long. -/
def StringField.absorb (field : StringField) (memory : Memory) (address elementLength : Nat) :
    Traced Access StringField :=
  if fits : elementLength ≤ stringLimit then do
    let _ ← memcpy memory address elementLength (stringLimit + 1)
    pure ⟨memory.octets address elementLength, by rw [Memory.length_octets]; exact fits⟩
  else pure field

/-- Whether `memcmp` finds a reference equal to the octets. For a reference that
was cut, the comparison meets the terminator. More than 130 octets never match:
the source hands them to `memcmp` too, and what that may find behind the array is
left out. It is decided before, unless a zero octet stands in the terminator's place. -/
def GooseSubscriber.refersTo (self : GooseSubscriber) (octets : List UInt8) : Bool :=
  (self.goCBRef.val ++ [0]).take octets.length = octets

/-- The search for the subscriber that a `gocbRef` element is for: its index and
the list, in which an observer has taken the reference over. -/
def matchGocbRef (memory : Memory) (address elementLength : Nat) :
    List GooseSubscriber → Traced Access (Option Nat × List GooseSubscriber)
  | [] => pure (none, [])
  | subscriber :: rest =>
    let next := do
      let (index, rest) ← matchGocbRef memory address elementLength rest
      pure (index.map (· + 1), subscriber :: rest)
    if subscriber.isObserver then do
      let goCBRef ← subscriber.goCBRef.absorb memory address elementLength
      pure (some 0, { subscriber with goCBRef := goCBRef } :: rest)
    else if subscriber.goCBRefLen = elementLength then do
      let octets ← memory.readOctets address elementLength
      if subscriber.refersTo octets then pure (some 0, subscriber :: rest) else next
    else next

/-- The local variables of `parseGoosePayload` that elements are decoded into. -/
structure GoosePdu where
  timeAllowedToLive : UInt32 := 0
  stNum : UInt32 := 0
  sqNum : UInt32 := 0
  confRev : UInt32 := 0
  simulation : Bool := false
  ndsCom : Bool := false
  timestampBufPos : Option Nat := none
  dataSetBufferAddress : Option Nat := none
  dataSetBufferLength : Nat := 0
  numberOfDatSetEntries : UInt32 := 0
  deriving DecidableEq, Repr

/-- What `parseGoosePayload` has found and changed so far. -/
structure PayloadState where
  subscriberList : List GooseSubscriber
  matchingSubscriber : Option Nat := none
  pdu : GoosePdu := {}

namespace PayloadState

/-- Change the matching subscriber, if there is one. -/
def updateMatching (state : PayloadState)
    (change : GooseSubscriber → Traced Access GooseSubscriber) : Traced Access PayloadState :=
  match state.matchingSubscriber with
  | none => pure state
  | some index =>
    match state.subscriberList[index]? with
    | none => pure state
    | some subscriber => do
      let subscriber ← change subscriber
      pure { state with subscriberList := state.subscriberList.set index subscriber }

/-- The `switch (tag)` of `parseGoosePayload` for an element other than `gocbRef`
whose content starts at `address`. -/
def absorb (state : PayloadState) (memory : Memory) (tag : PduTag)
    (address elementLength : Nat) : Traced Access PayloadState :=
  let pdu := state.pdu
  match tag with
  | .gocbRef => pure state
  | .timeAllowedToLive => do
    let value ← decodeUint32 memory 0 elementLength address
    pure { state with pdu := { pdu with timeAllowedToLive := value } }
  | .datSet =>
    state.updateMatching fun subscriber => do
      let datSet ← subscriber.datSet.absorb memory address elementLength
      pure { subscriber with datSet := datSet }
  | .goId =>
    state.updateMatching fun subscriber => do
      let goId ← subscriber.goId.absorb memory address elementLength
      pure { subscriber with goId := goId }
  | .t => pure { state with pdu := { pdu with timestampBufPos := some address } }
  | .stNum => do
    let value ← decodeUint32 memory 0 elementLength address
    pure { state with pdu := { pdu with stNum := value } }
  | .sqNum => do
    let value ← decodeUint32 memory 0 elementLength address
    pure { state with pdu := { pdu with sqNum := value } }
  | .simulation => do
    let value ← decodeBoolean memory 0 address
    pure { state with pdu := { pdu with simulation := value } }
  | .confRev => do
    let value ← decodeUint32 memory 0 elementLength address
    pure { state with pdu := { pdu with confRev := value } }
  | .ndsCom => do
    let value ← decodeBoolean memory 0 address
    pure { state with pdu := { pdu with ndsCom := value } }
  | .numDatSetEntries => do
    let value ← decodeUint32 memory 0 elementLength address
    pure { state with pdu := { pdu with numberOfDatSetEntries := value } }
  | .allData =>
    pure { state with pdu := { pdu with
      dataSetBufferAddress := some address
      dataSetBufferLength := elementLength } }

/-- One element: the state after it, and whether parsing goes on. It ends with a
`gocbRef` when no subscriber has matched this one or an earlier one. -/
def element (state : PayloadState) (memory : Memory) (tag : UInt8)
    (address elementLength : Nat) : Traced Access (PayloadState × Bool) :=
  match PduTag.ofOctet? tag with
  | none => pure (state, true)
  | some .gocbRef => do
    let (index, subscriberList) ←
      matchGocbRef memory address elementLength state.subscriberList
    let matchingSubscriber := index <|> state.matchingSubscriber
    pure ({ state with
      subscriberList := subscriberList
      matchingSubscriber := matchingSubscriber }, matchingSubscriber.isSome)
  | some tag => do
    let state ← state.absorb memory tag address elementLength
    pure (state, true)

end PayloadState

/-- The loop over the elements of the PDU, which end at `gooseEnd`. Their lengths
are checked against `apduLength`. `fuel` bounds the octets left. -/
def elementLoop (memory : Memory) (buffer : Nat) (apduLength : Int) (gooseEnd : Nat) :
    (fuel bufPos : Nat) → PayloadState → Traced Access (PayloadState × Bool)
  | 0, _, state => pure (state, true)
  | fuel + 1, bufPos, state =>
    if bufPos < gooseEnd then do
      let tag ← memory.read (buffer + bufPos)
      let decoded ← decodeLength memory buffer apduLength (bufPos + 1)
      match decoded with
      | none => pure (state, false)
      | some (bufPos, elementLength) => do
        let (state, goesOn) ← state.element memory tag (buffer + bufPos) elementLength
        if goesOn then
          elementLoop memory buffer apduLength gooseEnd fuel (bufPos + elementLength) state
        else pure (state, false)
    else pure (state, true)

namespace GooseSubscriber

/-- A data set that the receiver built is dropped when `confRev` changes. -/
def dropDataSet (self : GooseSubscriber) (confRev : UInt32) : Traced Access GooseSubscriber :=
  if self.dataSetValuesSelfAllocated ∧ self.dataSetValues.isSome ∧ self.confRev ≠ confRev then do
    Traced.emit .delete
    pure { self with dataSetValues := none }
  else pure self

/-- An observer drops any data set. -/
def dropObserved (self : GooseSubscriber) : Traced Access GooseSubscriber :=
  if self.isObserver ∧ self.dataSetValues.isSome then do
    Traced.emit .delete
    pure { self with dataSetValues := none }
  else pure self

/-- The timestamp takes the eight octets at `timestampBufPos`. -/
def takeTimestamp (self : GooseSubscriber) (memory : Memory) (timestampBufPos : Option Nat) :
    Traced Access GooseSubscriber :=
  match timestampBufPos with
  | some address => do
    let octets ← memory.readOctets address 8
    pure { self with timestamp := MmsValue.setUtcTimeByBuffer self.timestamp octets }
  | none => pure { self with timestamp := MmsValue.setUtcTime self.timestamp 0 }

/-- The data set is built if there is none, else updated: the subscriber after it
and the initial `isValid`. Only an update reports its error. -/
def takeDataSet (self : GooseSubscriber) (memory : Memory) (address : Option Nat)
    (length : Nat) : Traced Access (GooseSubscriber × Bool) :=
  match self.dataSetValues with
  | none => do
    let (dataSetValues, selfAllocated) ←
      parseAllDataUnknownValue memory (address.getD 0) length self.dataSetValuesSelfAllocated
    Traced.emitAll (if dataSetValues.isSome then [.store] else [])
    pure ({ self with
      dataSetValues := dataSetValues
      dataSetValuesSelfAllocated := selfAllocated }, true)
  | some dataSetValues => do
    let (parseError, dataSetValues) ←
      parseAllData memory (address.getD 0) length dataSetValues
    pure ({ self with
      dataSetValues := some dataSetValues
      parseError := parseError }, parseError = .noError)

/-- What `parseGoosePayload` does to the matching subscriber once all elements
are read, up to the call of its listener. -/
def deliver (self : GooseSubscriber) (memory : Memory) (pdu : GoosePdu) (now : UInt64) :
    Traced Access GooseSubscriber := do
  let self := { self with
    timeAllowedToLive := pdu.timeAllowedToLive
    ndsCom := pdu.ndsCom
    simulation := pdu.simulation }
  let self ← self.dropDataSet pdu.confRev
  let self := { self with confRev := pdu.confRev }
  let self ← self.takeTimestamp memory pdu.timestampBufPos
  let self ← self.dropObserved
  let (self, isValid) ← self.takeDataSet memory pdu.dataSetBufferAddress pdu.dataSetBufferLength
  let repeated := decide (self.stNum = pdu.stNum ∧ self.sqNum ≥ pdu.sqNum)
  pure { self with
    stateValid := isValid && !repeated
    stNum := pdu.stNum
    sqNum := pdu.sqNum
    invalidityTime := now + pdu.timeAllowedToLive.toUInt64 }

end GooseSubscriber

/-- What a received frame leads to. -/
structure Reception where
  subscriberList : List GooseSubscriber
  /-- the subscriber that the frame is delivered to -/
  delivered : Option Nat := none
  /-- the subscribers whose listeners are called -/
  calls : List Nat := []

/-- The end of `parseGoosePayload`: the matching subscriber, if there is one, is
updated and its listener is called. -/
def PayloadState.finish (state : PayloadState) (memory : Memory) (now : UInt64) :
    Traced Access Reception :=
  match state.matchingSubscriber with
  | none => pure { subscriberList := state.subscriberList }
  | some index =>
    match state.subscriberList[index]? with
    | none => pure { subscriberList := state.subscriberList }
    | some subscriber => do
      let subscriber ← subscriber.deliver memory state.pdu now
      pure {
        subscriberList := state.subscriberList.set index subscriber
        delivered := some index
        calls := if subscriber.listener then [index] else [] }

/-- `parseGoosePayload`, at the time `now`. -/
def parseGoosePayload (subscriberList : List GooseSubscriber) (memory : Memory) (buffer : Nat)
    (apduLength : Int) (now : UInt64) : Traced Access Reception := do
  let tag ← memory.read buffer
  if tag = 0x61 then do
    let decoded ← decodeLength memory buffer apduLength 1
    match decoded with
    | none => pure { subscriberList := subscriberList }
    | some (bufPos, gooseLength) => do
      let (state, complete) ← elementLoop memory buffer apduLength (bufPos + gooseLength)
        gooseLength bufPos { subscriberList := subscriberList }
      if complete then state.finish memory now
      else pure { subscriberList := state.subscriberList }
  else pure { subscriberList := subscriberList }

/-- The search for an interested subscriber: an observer that it reaches takes
over the addresses. -/
def findInterestedSubscriber (appId : UInt16) (srcMac dstMac : Octets 6) :
    List GooseSubscriber → List GooseSubscriber × Bool
  | [] => ([], false)
  | subscriber :: rest =>
    if subscriber.isObserver then
      ({ subscriber with appId := appId.toNat, srcMac := srcMac, dstMac := dstMac } :: rest, true)
    else if (subscriber.appId = -1 ∨ subscriber.appId = appId.toNat) ∧
        (¬ subscriber.dstMacSet ∨ subscriber.dstMac = dstMac) then
      (subscriber :: rest, true)
    else
      let (rest, subscriberFound) := findInterestedSubscriber appId srcMac dstMac rest
      (subscriber :: rest, subscriberFound)

/-- `parseGooseMessage`, at the time `now`. -/
def parseGooseMessage (subscriberList : List GooseSubscriber) (buffer : Memory)
    (numbytes : Nat) (now : UInt64) : Traced Access Reception :=
  if numbytes < 22 then pure { subscriberList := subscriberList }
  else do
    let high ← buffer.read 2
    if high ≠ 0x88 then pure { subscriberList := subscriberList }
    else do
      let low ← buffer.read 3
      if low ≠ 0xb8 then pure { subscriberList := subscriberList }
      else do
        let _ ← buffer.readOctets 6 6
        let _ ← buffer.readOctets 0 6
        let srcMac : Octets 6 := ⟨buffer.octets 6 6, Memory.length_octets ..⟩
        let dstMac : Octets 6 := ⟨buffer.octets 0 6, Memory.length_octets ..⟩
        let _ ← buffer.readOctets 4 4
        let appId := uint16Of (buffer 4) (buffer 5)
        let length := uint16Of (buffer 6) (buffer 7)
        let apduLength : Int := length.toNat - 8
        -- Whether a subscriber was found is not looked at.
        let (subscriberList, _) := findInterestedSubscriber appId srcMac dstMac subscriberList
        parseGoosePayload subscriberList buffer 12 apduLength now

end GridGooseSV
