import GridGooseSV.Mms.Value

/-!
# GOOSE subscriber

After `goose_subscriber.cc` and `goose_receiver_internal.h`. A `char[130]` field
is the string that was copied into it and terminated; at most 129 octets fit, and
a getter returns the string up to the first NUL.
-/

namespace GridGooseSV

/-- The number of characters that fit in a `char[130]` field. -/
def stringLimit : Nat := 129

/-- A `char[130]` field: the octets before the terminator. -/
abbrev StringField := { octets : List UInt8 // octets.length ≤ stringLimit }

/-- A field of a zeroed record. -/
def StringField.empty : StringField := ⟨[], Nat.zero_le _⟩

/-- What a getter returns. -/
def StringField.get (field : StringField) : List UInt8 := cString field.val

/-- `GooseParseError`. -/
inductive GooseParseError
  | noError
  | unknownTag
  | tagDecode
  | sublevel
  | overflow
  | underflow
  | typeMismatch
  | lengthMismatch
  deriving DecidableEq, Repr

/-- `sGooseSubscriber`. The data set is an array, given by its components. -/
structure GooseSubscriber where
  goCBRef : StringField
  datSet : StringField
  goId : StringField
  goCBRefLen : Nat
  timeAllowedToLive : UInt32
  stNum : UInt32
  sqNum : UInt32
  confRev : UInt32
  timestamp : Octets 8
  simulation : Bool
  ndsCom : Bool
  invalidityTime : UInt64
  stateValid : Bool
  parseError : GooseParseError
  srcMac : Octets 6
  dstMac : Octets 6
  /-- APPID or -1 if APPID should be ignored -/
  appId : Int
  dataSetValues : Option Components
  dataSetValuesSelfAllocated : Bool
  dstMacSet : Bool
  isObserver : Bool
  /-- whether a listener is set -/
  listener : Bool

namespace GooseSubscriber

/-- `GooseSubscriber_create`: the reference is cut to the size of its field. -/
def create (goCbRef : CString) (dataSetValues : Option Components) : GooseSubscriber where
  goCBRef := ⟨goCbRef.val.take stringLimit, List.length_take_le _ _⟩
  datSet := .empty
  goId := .empty
  goCBRefLen := goCbRef.val.length
  timeAllowedToLive := 0
  stNum := 0
  sqNum := 0
  confRev := 0
  timestamp := MmsValue.newUtcTime 0
  simulation := false
  ndsCom := false
  invalidityTime := 0
  stateValid := false
  parseError := .noError
  srcMac := Octets.zero
  dstMac := ⟨List.replicate 6 0xff, List.length_replicate⟩
  appId := -1
  dataSetValues := dataSetValues
  dataSetValuesSelfAllocated := dataSetValues.isNone
  dstMacSet := false
  isObserver := false
  listener := false

/-- `GooseSubscriber_setDstMac`. -/
def setDstMac (self : GooseSubscriber) (dstMac : Octets 6) : GooseSubscriber :=
  { self with dstMac := dstMac, dstMacSet := true }

/-- `GooseSubscriber_setAppId`. -/
def setAppId (self : GooseSubscriber) (appId : UInt16) : GooseSubscriber :=
  { self with appId := appId.toNat }

/-- `GooseSubscriber_setListener`, with a listener that is not NULL. -/
def setListener (self : GooseSubscriber) : GooseSubscriber := { self with listener := true }

/-- `GooseSubscriber_setObserver`. -/
def setObserver (self : GooseSubscriber) : GooseSubscriber := { self with isObserver := true }

/-- `GooseSubscriber_isValid`. -/
def isValid (self : GooseSubscriber) (currentTime : UInt64) : Bool :=
  self.stateValid && !(currentTime > self.invalidityTime)

/-! ## Getters -/

/-- `GooseSubscriber_getParseError`. -/
def getParseError (self : GooseSubscriber) : GooseParseError := self.parseError

/-- `GooseSubscriber_getAppId`. -/
def getAppId (self : GooseSubscriber) : Int := self.appId

/-- `GooseSubscriber_getGoId`. -/
def getGoId (self : GooseSubscriber) : List UInt8 := self.goId.get

/-- `GooseSubscriber_getGoCbRef`. -/
def getGoCbRef (self : GooseSubscriber) : List UInt8 := self.goCBRef.get

/-- `GooseSubscriber_getDataSet`. -/
def getDataSet (self : GooseSubscriber) : List UInt8 := self.datSet.get

/-- `GooseSubscriber_getSrcMac`. -/
def getSrcMac (self : GooseSubscriber) : Octets 6 := self.srcMac

/-- `GooseSubscriber_getDstMac`. -/
def getDstMac (self : GooseSubscriber) : Octets 6 := self.dstMac

/-- `GooseSubscriber_getStNum`. -/
def getStNum (self : GooseSubscriber) : UInt32 := self.stNum

/-- `GooseSubscriber_getSqNum`. -/
def getSqNum (self : GooseSubscriber) : UInt32 := self.sqNum

/-- `GooseSubscriber_isTest`. -/
def isTest (self : GooseSubscriber) : Bool := self.simulation

/-- `GooseSubscriber_getConfRev`. -/
def getConfRev (self : GooseSubscriber) : UInt32 := self.confRev

/-- `GooseSubscriber_needsCommission`. -/
def needsCommission (self : GooseSubscriber) : Bool := self.ndsCom

/-- `GooseSubscriber_getTimeAllowedToLive`. -/
def getTimeAllowedToLive (self : GooseSubscriber) : UInt32 := self.timeAllowedToLive

/-- `GooseSubscriber_getTimestamp`. -/
def getTimestamp (self : GooseSubscriber) : Nat := MmsValue.getUtcTimeInMs self.timestamp

/-- `GooseSubscriber_getDataSetValues`. -/
def getDataSetValues (self : GooseSubscriber) : Option Components := self.dataSetValues

end GooseSubscriber

/-- What the getters return that tell the header of a message. -/
structure HeaderView where
  dataSet : List UInt8
  goId : List UInt8
  goCbRef : List UInt8
  timestamp : Nat
  stNum : UInt32
  sqNum : UInt32
  confRev : UInt32
  timeAllowedToLive : UInt32
  isTest : Bool
  needsCommission : Bool
  deriving DecidableEq, Repr

/-- What all getters return. The validity is a function of the time. -/
structure SubscriberView where
  header : HeaderView
  appId : Int
  srcMac : Octets 6
  dstMac : Octets 6
  parseError : GooseParseError
  isValid : UInt64 → Bool
  dataSetValues : Option Components

namespace GooseSubscriber

def headerView (self : GooseSubscriber) : HeaderView where
  dataSet := self.getDataSet
  goId := self.getGoId
  goCbRef := self.getGoCbRef
  timestamp := self.getTimestamp
  stNum := self.getStNum
  sqNum := self.getSqNum
  confRev := self.getConfRev
  timeAllowedToLive := self.getTimeAllowedToLive
  isTest := self.isTest
  needsCommission := self.needsCommission

def view (self : GooseSubscriber) : SubscriberView where
  header := self.headerView
  appId := self.getAppId
  srcMac := self.getSrcMac
  dstMac := self.getDstMac
  parseError := self.getParseError
  isValid := self.isValid
  dataSetValues := self.getDataSetValues

end GooseSubscriber

end GridGooseSV
