import GridGooseSV.Foundation.EventQueue
import GridGooseSV.Foundation.Runs
import GridGooseSV.Goose.Stream
import Mathlib.Data.Nat.NthRoot.Defs

/-!
# The GOOSE publisher application

After `goose-publisher-app.cc`. The application sends in the handlers of two kinds of events: a
message every `T0`, and a burst of messages when an event occurs. The simulator is an event queue
that holds the events of the application; times are in nanoseconds. A step is undefined, `none`,
where the simulator refuses a delay, an integer is divided by zero, or the library is given a
publisher that was destroyed.
-/

namespace GridGooseSV.Ns3

/-- The characters of a string. -/
def charactersOf (string : String) : List UInt8 :=
  string.toList.map fun character => UInt8.ofNat character.toNat

/-- `goCbRef`. -/
def gcbAnalogValues : CString :=
  ⟨charactersOf "simpleIOGenericIO/LLN0$GO$gcbAnalogValues", by decide⟩

/-- `datSetRef`. -/
def analogValues : CString := ⟨charactersOf "simpleIOGenericIO/LLN0$AnalogValues", by decide⟩

/-- `Hal_getTimeInMs` at a simulated time. -/
def milliSeconds (now : Nat) : UInt64 := UInt64.ofNat (now / 1000000)

/-- The handlers that the application schedules. -/
inductive GOOSEHandler
  | send
  | sendEvent
  deriving DecidableEq, Repr

/-- The attributes of the application. -/
structure GOOSEAttributes where
  maxPackets : UInt64
  appId : UInt16
  t0 : Int
  t1 : Int
  eventInterval : Int
  eventMessages : UInt8
  /-- what the expression of `T` with `pow` gives, which is computed in floating point -/
  stretched : UInt8 → Int

/-- What the expression of `T` with `pow` gives, but for what is lost to rounding. -/
def powered (t0 t1 : Nat) (eventMessages n : UInt8) : Int :=
  Nat.nthRoot eventMessages.toNat (t1 ^ eventMessages.toNat * (t0 / t1) ^ (n.toNat - 1))

/-- `ns3::GOOSEPublisher`, with the simulator. The publisher is absent once it is destroyed. -/
structure GOOSEPublisher where
  simulator : EventQueue GOOSEHandler
  attributes : GOOSEAttributes
  dataSetValues : Components
  publisher : Option GridGooseSV.GoosePublisher
  count : UInt64
  eventCount : UInt8
  sendEvents : Bool
  eventId : Option Nat
  gooseEventId : Option Nat
  sent : UInt64

/-- A frame that the application sent. -/
structure Transmission where
  /-- whether it was sent in the handler that `gooseEventId` stood for, with which an event
  starts -/
  startsEvent : Bool
  /-- when its `stNum` was assigned -/
  assignedAt : Nat
  frame : SentFrame
  deriving DecidableEq

/-- What the run of an application is made of. -/
inductive GOOSEAction
  /-- the simulator runs the next event of the application -/
  | event
  /-- the application is stopped -/
  | stop
  deriving DecidableEq, Repr

/-- The communication parameters of the application. -/
def gooseCommParameters (appId : UInt16) : CommParameters where
  vlanPriority := 4
  vlanId := 0
  appId := appId
  dstAddress := ⟨[0x01, 0x0c, 0xcd, 0x01, 0x00, 0x01], length_gooseAddress⟩

/-- The data set of the application. -/
def analogDataSet : Components :=
  [some (.newIntegerFromInt32 1234), some (.binaryTime (MmsValue.newBinaryTime false)),
    some (.newIntegerFromInt32 5678)]

namespace GOOSEPublisher

/-- `eventId` is assigned a new event. -/
def scheduleEvent (self : GOOSEPublisher) (delay : Int) (handler : GOOSEHandler) :
    Option GOOSEPublisher := do
  let (eventId, simulator) ← self.simulator.schedule delay handler
  pure { self with simulator := simulator, eventId := some eventId }

/-- `gooseEventId` is assigned a new event. -/
def scheduleGooseEvent (self : GOOSEPublisher) (delay : Int) (handler : GOOSEHandler) :
    Option GOOSEPublisher := do
  let (gooseEventId, simulator) ← self.simulator.schedule delay handler
  pure { self with simulator := simulator, gooseEventId := some gooseEventId }

/-- `ns3::GOOSEPublisher::StartApplication` with what `malloc` finds. -/
def startApplication (attributes : GOOSEAttributes) (srcAddr : Octets 6) (found : Memory)
    (simulator : EventQueue GOOSEHandler) : Option GOOSEPublisher := do
  let publisher := GoosePublisher.create (gooseCommParameters attributes.appId) srcAddr
    (milliSeconds simulator.now) found
  let publisher ← publisher.performAll [.setGoCbRef gcbAnalogValues, .setConfRev 1,
    .setDataSetRef analogValues, .setTimeAllowedToLive 500]
  let self : GOOSEPublisher := {
    simulator := simulator
    attributes := attributes
    dataSetValues := analogDataSet
    publisher := some publisher
    count := if attributes.maxPackets ≤ 0 then -1 else attributes.maxPackets
    eventCount := 1
    sendEvents := attributes.eventInterval ≠ 0
    eventId := none
    gooseEventId := none
    sent := 0 }
  let self ← if self.sendEvents then self.scheduleGooseEvent attributes.eventInterval .sendEvent
    else pure self
  self.scheduleEvent 0 .send

/-- What `Send` and `SendEvent` do to send a message: the state number is increased, and what is
published is counted. -/
def transmit (self : GOOSEPublisher) : Option (GOOSEPublisher × Option SentFrame) := do
  let publisher ← self.publisher
  let publisher := publisher.increaseStNum (milliSeconds self.simulator.now)
  let publication ← publisher.publish self.dataSetValues
  pure ({ self with
      publisher := some publication.publisher
      sent := self.sent + 1
      count := self.count - 1 },
    publication.sent.map fun packet => ⟨publisher.stNum, publisher.sqNum, packet⟩)

/-- `ns3::GOOSEPublisher::Send`. -/
def send (self : GOOSEPublisher) : Option (GOOSEPublisher × Option SentFrame) :=
  if self.count = 0 then some (self, none)
  else do
    let (self, frame) ← self.transmit
    let self ← self.scheduleEvent self.attributes.t0 .send
    pure (self, frame)

/-- `ns3::GOOSEPublisher::T`. -/
def T (self : GOOSEPublisher) (n : UInt8) : Option Int :=
  -- The rate is an integer quotient, whichever time is returned.
  if self.attributes.t1 = 0 then none
  else if n = 0 then some self.attributes.t0
  else if n = 1 then some self.attributes.t1
  else some (self.attributes.stretched n)

/-- `ns3::GOOSEPublisher::SendEvent`. -/
def sendEvent (self : GOOSEPublisher) : Option (GOOSEPublisher × Option SentFrame) :=
  if self.count = 0 then some (self, none)
  else
    let self := { self with simulator := self.simulator.cancel self.eventId }
    if self.eventCount > self.attributes.eventMessages then do
      let self := { self with eventCount := 1 }
      let self ← self.scheduleGooseEvent self.attributes.eventInterval .sendEvent
      self.send
    else do
      let (self, frame) ← self.transmit
      let delay ← self.T self.eventCount
      let self ← self.scheduleEvent delay .sendEvent
      pure ({ self with eventCount := self.eventCount + 1 }, frame)

/-- The handler of an event. -/
def handle (self : GOOSEPublisher) :
    GOOSEHandler → Option (GOOSEPublisher × Option SentFrame)
  | .send => self.send
  | .sendEvent => self.sendEvent

/-- The simulator runs the next event. -/
def event (self : GOOSEPublisher) : Option (GOOSEPublisher × Option Transmission) := do
  let (first, simulator) ← self.simulator.next
  let (after, frame) ← { self with simulator := simulator }.handle first.event
  pure (after, frame.map fun frame =>
    ⟨decide (self.gooseEventId = some first.uid), simulator.now, frame⟩)

/-- `ns3::GOOSEPublisher::StopApplication`. -/
def stopApplication (self : GOOSEPublisher) : GOOSEPublisher :=
  let simulator := self.simulator.cancel self.eventId
  { self with
    simulator := if self.sendEvents then simulator.cancel self.gooseEventId else simulator
    publisher := none }

/-- A step of the application, and the frame that is sent. -/
def step (self : GOOSEPublisher) :
    GOOSEAction → Option (GOOSEPublisher × Option Transmission)
  | .event => self.event
  | .stop => some (self.stopApplication, none)

/-- The application after actions, and what was sent. -/
def run (self : GOOSEPublisher) (actions : List GOOSEAction) :
    Option (GOOSEPublisher × List Transmission) :=
  (runAll step self actions).map fun (final, sent) => (final, sent.reduceOption)

/-- The application is started while nothing of it is pending, and then goes on. -/
def startAndRun (attributes : GOOSEAttributes) (srcAddr : Octets 6) (found : Memory)
    (now nextUid : Nat) (actions : List GOOSEAction) :
    Option (GOOSEPublisher × List Transmission) := do
  let self ← startApplication attributes srcAddr found (.empty now nextUid)
  self.run actions

end GOOSEPublisher

end GridGooseSV.Ns3
