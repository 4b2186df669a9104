import GridGooseSV.Ber.Length
import GridGooseSV.Common.Timestamp

/-!
# SV subscriber

After `sv_subscriber.cc`. A pointer into the receive buffer is an index. The parser
writes terminators into the buffer while it reads it; a call of a listener is recorded
with the ASDU it is given and the buffer it finds.
-/

namespace GridGooseSV

open BerDecoder

/-- `sSVSubscriber`; `listener` tells whether there is one. -/
structure SVSubscriber where
  ethAddr : Octets 6
  appId : UInt16
  listener : Bool
  deriving DecidableEq

namespace SVSubscriber

/-- `SVSubscriber_create`; the address may be NULL. -/
def create (ethAddr : Option (Octets 6)) (appID : UInt16) : SVSubscriber where
  ethAddr := ethAddr.getD Octets.zero
  appId := appID
  listener := false

/-- `SVSubscriber_setListener`, with a listener that is not NULL. -/
def setListener (self : SVSubscriber) : SVSubscriber := { self with listener := true }

/-- `sSVSubscriber_ASDU`. -/
structure ASDU where
  svId : Option Nat := none
  datSet : Option Nat := none
  smpCnt : Option Nat := none
  confRev : Option Nat := none
  refrTm : Option Nat := none
  smpSynch : Option Nat := none
  smpMod : Option Nat := none
  smpRate : Option Nat := none
  dataBufferLength : Nat := 0
  dataBuffer : Option Nat := none
  deriving DecidableEq, Repr

/-! ## Getters

`none` stands for a NULL pointer that is dereferenced. -/

namespace ASDU

variable (self : ASDU) (memory : Memory)

/-- `SVSubscriber_ASDU_getSmpSynch`. -/
def getSmpSynch : Option (Traced Access UInt8) := self.smpSynch.map memory.read

/-- `SVSubscriber_ASDU_getSmpCnt`. -/
def getSmpCnt : Option (Traced Access UInt16) :=
  self.smpCnt.map fun smpCnt => do
    let low ← memory.read (smpCnt + 1)
    let high ← memory.read smpCnt
    pure (uint16Of high low)

/-- `decodeUtcTimeToNsTime`, without a place for the time quality. -/
def decodeUtcTimeToNsTime (buffer : Nat) : Traced Access UInt64 := do
  let octets ← memory.readOctets buffer 7
  let octet (index : Nat) : UInt32 := (octets.getD index 0).toUInt32
  let timeval32 := octet 3 + octet 2 * 0x100 + octet 1 * 0x10000 + octet 0 * 0x1000000
  let fractionOfSecond := octet 6 + octet 5 * 0x100 + octet 4 * 0x10000
  let nsVal := (fractionOfSecond.toUInt64 * 1000000000) >>> 24
  pure (timeval32.toUInt64 * 1000000000 + nsVal)

/-- `SVSubscriber_ASDU_getRefrTmAsNs`. -/
def getRefrTmAsNs : Traced Access UInt64 :=
  match self.refrTm with
  | some refrTm => decodeUtcTimeToNsTime memory refrTm
  | none => pure 0

/-- `SVSubscriber_ASDU_getRefrTmAsMs`. -/
def getRefrTmAsMs : Traced Access UInt64 := do
  let msTime ← self.getRefrTmAsNs memory
  pure (msTime / 1000000)

/-- `SVSubscriber_ASDU_hasRefrTm`. -/
def hasRefrTm : Bool := self.refrTm.isSome

/-- `SVSubscriber_ASDU_hasDatSet`. -/
def hasDatSet : Bool := self.datSet.isSome

/-- `SVSubscriber_ASDU_hasSmpRate`. -/
def hasSmpRate : Bool := self.smpRate.isSome

/-- `SVSubscriber_ASDU_hasSmpMod`. -/
def hasSmpMod : Bool := self.smpMod.isSome

/-- `SVSubscriber_ASDU_getSvId`. -/
def getSvId : Option Nat := self.svId

/-- `SVSubscriber_ASDU_getDatSet`. -/
def getDatSet : Option Nat := self.datSet

/-- `SVSubscriber_ASDU_getConfRev`. -/
def getConfRev : Option (Traced Access UInt32) :=
  self.confRev.map fun confRev => do
    let octets ← memory.readOctets confRev 4
    pure (UInt32.ofNat (bigEndian octets))

/-- `SVSubscriber_ASDU_getSmpMod`. -/
def getSmpMod : Option (Traced Access UInt8) := self.smpMod.map memory.read

/-- `SVSubscriber_ASDU_getSmpRate`. -/
def getSmpRate : Option (Traced Access UInt16) :=
  self.smpRate.map fun smpRate => do
    let high ← memory.read smpRate
    let low ← memory.read (smpRate + 1)
    pure (uint16Of high low)

/-- `SVSubscriber_ASDU_getINT8`. -/
def getINT8 (index : Nat) : Option (Traced Access Int8) :=
  self.dataBuffer.map fun dataBuffer => do
    let octet ← memory.read (dataBuffer + index)
    pure octet.toInt8

/-- `SVSubscriber_ASDU_getINT32`. -/
def getINT32 (index : Nat) : Option (Traced Access Int32) :=
  self.dataBuffer.map fun dataBuffer => do
    let octets ← memory.readOctets (dataBuffer + index) 4
    pure (UInt32.ofNat (bigEndian octets)).toInt32

/-- `SVSubscriber_ASDU_getINT64`. -/
def getINT64 (index : Nat) : Option (Traced Access Int64) :=
  self.dataBuffer.map fun dataBuffer => do
    let octets ← memory.readOctets (dataBuffer + index) 8
    pure (UInt64.ofNat (bigEndian octets)).toInt64

/-- `SVSubscriber_ASDU_getFLOAT32`: the host representation of the value. -/
def getFLOAT32 (index : Nat) : Option (Traced Access (List UInt8)) :=
  self.dataBuffer.map fun dataBuffer => do
    let octets ← memory.readOctets (dataBuffer + index) 4
    pure octets.reverse

/-- `SVSubscriber_ASDU_getFLOAT64`: the host representation of the value. -/
def getFLOAT64 (index : Nat) : Option (Traced Access (List UInt8)) :=
  self.dataBuffer.map fun dataBuffer => do
    let octets ← memory.readOctets (dataBuffer + index) 8
    pure octets.reverse

/-- `SVSubscriber_ASDU_getTimestamp`. -/
def getTimestamp (index : Nat) : Option (Traced Access (List UInt8)) :=
  self.dataBuffer.map fun dataBuffer => memory.readOctets (dataBuffer + index) 8

/-- `SVSubscriber_ASDU_getQuality`. -/
def getQuality (index : Nat) : Option (Traced Access UInt16) :=
  self.dataBuffer.map fun dataBuffer => do
    let low ← memory.read (dataBuffer + index + 3)
    let high ← memory.read (dataBuffer + index + 2)
    pure (low.toUInt16 + high.toUInt16 * 0x100)

/-- `SVSubscriber_ASDU_getDataSize`. -/
def getDataSize : Nat := self.dataBufferLength

end ASDU

end SVSubscriber

/-- A call of the listener of a subscriber. -/
structure SVCall where
  subscriber : Nat
  asdu : SVSubscriber.ASDU
  memory : Memory
  /-- the elements that the ASDU was parsed from, which the source does not keep -/
  elements : List Element

/-! ## ASDUs -/

/-- The local variables of `parseASDU`. -/
structure ParsedASDU where
  asdu : SVSubscriber.ASDU := {}
  svIdLength : Nat := 0
  datSetLength : Nat := 0
  deriving DecidableEq, Repr

namespace ParsedASDU

/-- The `switch (tag)` of `parseASDU`, for the content at `address`. -/
def element (self : ParsedASDU) (tag : UInt8) (address elementLength : Nat) : ParsedASDU :=
  let asdu := self.asdu
  if tag = 0x80 then
    { self with asdu := { asdu with svId := some address }, svIdLength := elementLength }
  else if tag = 0x81 then
    { self with asdu := { asdu with datSet := some address }, datSetLength := elementLength }
  else if tag = 0x82 then { self with asdu := { asdu with smpCnt := some address } }
  else if tag = 0x83 then { self with asdu := { asdu with confRev := some address } }
  else if tag = 0x84 then { self with asdu := { asdu with refrTm := some address } }
  else if tag = 0x85 then { self with asdu := { asdu with smpSynch := some address } }
  else if tag = 0x86 then { self with asdu := { asdu with smpRate := some address } }
  else if tag = 0x87 then
    { self with asdu := { asdu with
      dataBuffer := some address
      dataBufferLength := elementLength } }
  else if tag = 0x88 then { self with asdu := { asdu with smpMod := some address } }
  else self

/-- A string gets its terminator, if it is there. -/
def terminate (memory : Memory) (string : Option Nat) (length : Nat) : Traced Access Memory :=
  match string with
  | some address => memory.store (address + length) [0]
  | none => pure memory

end ParsedASDU

section Parsing

variable (subscriber : Nat) (listener : Bool)

/-- The loop of `parseASDU`: the elements and the local variables after it, or `none`
when a length cannot be decoded. `fuel` bounds the octets left. -/
def asduLoop (memory : Memory) (buffer length : Nat) :
    (fuel bufPos : Nat) → ParsedASDU → Traced Access (Option (List Element × ParsedASDU))
  | 0, _, state => pure (some ([], state))
  | fuel + 1, bufPos, state =>
    if bufPos < length then do
      let tag ← memory.read (buffer + bufPos)
      let decoded ← decodeLength memory buffer length (bufPos + 1)
      match decoded with
      | none => pure none
      | some (bufPos, elementLength) => do
        let rest ← asduLoop memory buffer length fuel (bufPos + elementLength)
          (state.element tag (buffer + bufPos) elementLength)
        pure (rest.map fun (elements, state) =>
          (⟨tag, buffer + bufPos, elementLength⟩ :: elements, state))
    else pure (some ([], state))

/-- `parseASDU`: the buffer after it and the calls of the listener. -/
def parseASDU (memory : Memory) (buffer length : Nat) : Traced Access (Memory × List SVCall) := do
  let parsed ← asduLoop memory buffer length length 0 {}
  match parsed with
  | none => pure (memory, [])
  | some (elements, state) => do
    let memory ← ParsedASDU.terminate memory state.asdu.svId state.svIdLength
    let memory ← ParsedASDU.terminate memory state.asdu.datSet state.datSetLength
    pure (memory, if listener then [⟨subscriber, state.asdu, memory, elements⟩] else [])

/-- The loop of `parseSequenceOfASDU`. -/
def sequenceLoop (buffer length : Nat) :
    (fuel bufPos : Nat) → Memory → Traced Access (Memory × List SVCall)
  | 0, _, memory => pure (memory, [])
  | fuel + 1, bufPos, memory =>
    if bufPos < length then do
      let tag ← memory.read (buffer + bufPos)
      let decoded ← decodeLength memory buffer length (bufPos + 1)
      match decoded with
      | none => pure (memory, [])
      | some (bufPos, elementLength) => do
        let (memory, calls) ←
          if tag = 0x30 then parseASDU subscriber listener memory (buffer + bufPos) elementLength
          else pure (memory, [])
        let (memory, others) ← sequenceLoop buffer length fuel (bufPos + elementLength) memory
        pure (memory, calls ++ others)
    else pure (memory, [])

/-- `parseSequenceOfASDU`. -/
def parseSequenceOfASDU (memory : Memory) (buffer length : Nat) :
    Traced Access (Memory × List SVCall) :=
  sequenceLoop subscriber listener buffer length length 0 memory

/-- The loop of `parseSVPayload` over the elements of the PDU, which end at `svEnd`. -/
def payloadLoop (buffer svEnd : Nat) :
    (fuel bufPos : Nat) → Memory → Traced Access (Memory × List SVCall)
  | 0, _, memory => pure (memory, [])
  | fuel + 1, bufPos, memory =>
    if bufPos < svEnd then do
      let tag ← memory.read (buffer + bufPos)
      let decoded ← decodeLength memory buffer svEnd (bufPos + 1)
      match decoded with
      | none => pure (memory, [])
      | some (bufPos, elementLength) => do
        let (memory, calls) ←
          if tag = 0xa2 then
            parseSequenceOfASDU subscriber listener memory (buffer + bufPos) elementLength
          else pure (memory, [])
        let (memory, others) ← payloadLoop buffer svEnd fuel (bufPos + elementLength) memory
        pure (memory, calls ++ others)
    else pure (memory, [])

/-- `parseSVPayload`. -/
def parseSVPayload (memory : Memory) (buffer : Nat) (apduLength : Int) :
    Traced Access (Memory × List SVCall) := do
  let tag ← memory.read buffer
  if tag = 0x60 then do
    let decoded ← decodeLength memory buffer apduLength 1
    match decoded with
    | none => pure (memory, [])
    | some (bufPos, elementLength) =>
      payloadLoop subscriber listener buffer (bufPos + elementLength) elementLength bufPos memory
  else pure (memory, [])

end Parsing

/-! ## Messages -/

/-- `sSVReceiver`, without what belongs to its socket. -/
structure SVReceiver where
  checkDestAddr : Bool
  subscriberList : List SVSubscriber
  deriving DecidableEq

namespace SVReceiver

/-- `SVReceiver_create`. -/
def create : SVReceiver := ⟨false, []⟩

/-- `SVReceiver_disableDestAddrCheck`. -/
def disableDestAddrCheck (self : SVReceiver) : SVReceiver := { self with checkDestAddr := false }

/-- `SVReceiver_enableDestAddrCheck`. -/
def enableDestAddrCheck (self : SVReceiver) : SVReceiver := { self with checkDestAddr := true }

/-- `SVReceiver_addSubscriber`. -/
def addSubscriber (self : SVReceiver) (subscriber : SVSubscriber) : SVReceiver :=
  { self with subscriberList := self.subscriberList ++ [subscriber] }

end SVReceiver

/-- The search for a matching subscriber: its index and the subscriber. -/
def findSubscriber (checkDestAddr : Bool) (memory : Memory) (appId : UInt16) :
    List SVSubscriber → Traced Access (Option (Nat × SVSubscriber))
  | [] => pure none
  | subscriber :: rest =>
    let next := do
      let found ← findSubscriber checkDestAddr memory appId rest
      pure (found.map fun (index, subscriber) => (index + 1, subscriber))
    if subscriber.appId = appId then
      if checkDestAddr then do
        let dstAddr ← memory.readOctets 0 6
        if dstAddr = subscriber.ethAddr.val then pure (some (0, subscriber)) else next
      else pure (some (0, subscriber))
    else next

/-- `parseSVMessage`: the buffer after it and the calls of listeners. -/
def parseSVMessage (self : SVReceiver) (buffer : Memory) (numbytes : Nat) :
    Traced Access (Memory × List SVCall) :=
  if numbytes < 22 then pure (buffer, [])
  else do
    let high ← buffer.read 2
    if high ≠ 0x88 then pure (buffer, [])
    else do
      let low ← buffer.read 3
      if low ≠ 0xba then pure (buffer, [])
      else do
        let _ ← buffer.readOctets 4 4
        let appId := uint16Of (buffer 4) (buffer 5)
        let length := uint16Of (buffer 6) (buffer 7)
        let apduLength : Int := length.toNat - 8
        let found ← findSubscriber self.checkDestAddr buffer appId self.subscriberList
        match found with
        | some (index, subscriber) =>
          parseSVPayload index subscriber.listener buffer 12 apduLength
        | none => pure (buffer, [])

end GridGooseSV
