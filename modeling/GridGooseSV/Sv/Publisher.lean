import GridGooseSV.Common.Timestamp
import GridGooseSV.Goose.Publisher

/-!
# SV publisher

After `sv_publisher.cc`. The frame buffer is a memory whose first 1518 octets belong
to the publisher; what `malloc` leaves in it is arbitrary. A pointer into the buffer is
an index. `SVPublisher_setupComplete` encodes the frame once and records where the
fields stand that setters patch later.
-/

namespace GridGooseSV

open BerEncoder

/-- `SV_MAX_MESSAGE_SIZE`. -/
def svMaxMessageSize : Nat := 1518

/-- The parameters an SV publisher uses in place of NULL. -/
def CommParameters.svDefault : CommParameters where
  vlanPriority := 4
  vlanId := 0
  appId := 0x4000
  dstAddress := CommParameters.default.dstAddress

/-- `encodeUInt16FixedSize`. -/
def encodeUInt16FixedSize (value : UInt16) : List UInt8 :=
  revertByteOrder (littleEndianOctets 2 value.toNat)

/-- `encodeUInt32FixedSize`. -/
def encodeUInt32FixedSize (value : UInt32) : List UInt8 :=
  revertByteOrder (littleEndianOctets 4 value.toNat)

/-- `encodeInt32FixedSize`. -/
def encodeInt32FixedSize (value : Int32) : List UInt8 :=
  revertByteOrder (littleEndianOctets 4 value.toUInt32.toNat)

/-- `encodeInt64FixedSize`. -/
def encodeInt64FixedSize (value : Int64) : List UInt8 :=
  revertByteOrder (littleEndianOctets 8 value.toUInt64.toNat)

namespace SVPublisher

/-- `sSVPublisher_ASDU`. -/
structure ASDU where
  svID : CString
  datset : Option CString
  dataSize : Nat
  hasRefrTm : Bool
  hasSmpRate : Bool
  hasSmpMod : Bool
  dataBuffer : Option Nat
  smpSynch : UInt8
  smpCnt : UInt16
  smpCntLimit : UInt16
  confRev : UInt32
  refrTm : Option Nat
  smpMod : UInt8
  smpRate : UInt16
  smpCntBuf : Option Nat
  smpSynchBuf : Option Nat
  deriving DecidableEq

namespace ASDU

/-- An ASDU as `SVPublisher_addASDU` adds it. -/
def new (svID : CString) (datset : Option CString) (confRev : UInt32) : ASDU where
  svID := svID
  datset := datset
  dataSize := 0
  hasRefrTm := false
  hasSmpRate := false
  hasSmpMod := false
  dataBuffer := none
  smpSynch := 0
  smpCnt := 0
  smpCntLimit := 65535
  confRev := confRev
  refrTm := none
  smpMod := 0
  smpRate := 0
  smpCntBuf := none
  smpSynchBuf := none

/-! ## Encoding -/

/-- `SVPublisher_ASDU_getEncodedSize`. -/
def getEncodedSize (self : ASDU) : Nat :=
  (1 + determineLengthSize self.svID.val.length + self.svID.val.length) +
  (match self.datset with
    | some datset => 1 + determineLengthSize datset.val.length + datset.val.length
    | none => 0) +
  4 + -- smpCnt
  6 + -- confRev
  (if self.hasRefrTm then 10 else 0) +
  3 + -- smpSynch
  (if self.hasSmpRate then 4 else 0) +
  (1 + determineLengthSize self.dataSize) + self.dataSize +
  (if self.hasSmpMod then 4 else 0)

/-- `SVPublisher_ASDU_encodeToBuffer` from `bufPos` on: the ASDU with the positions of
its fields, the buffer and the position after the ASDU. The octets of `RefrTm` and of
the data are passed over. -/
def encodeToBuffer (self : ASDU) (memory : Memory) (bufPos : Nat) :
    Traced Access (ASDU × Memory × Nat) := do
  let front := encodeTL 0x30 self.getEncodedSize ++
    encodeStringWithTag 0x80 (some self.svID.val) ++
    (match self.datset with
      | some datset => encodeStringWithTag 0x81 (some datset.val)
      | none => []) ++
    encodeTL 0x82 2
  let memory ← memory.store bufPos front
  -- SmpCnt and ConfRev
  let smpCntBuf := bufPos + front.length
  let numbers := encodeUInt16FixedSize self.smpCnt ++
    (encodeTL 0x83 4 ++ encodeUInt32FixedSize self.confRev)
  let memory ← memory.store smpCntBuf numbers
  let bufPos := smpCntBuf + numbers.length
  -- RefrTm
  let (refrTm, memory, bufPos) ← if self.hasRefrTm then do
      let memory ← memory.store bufPos (encodeTL 0x84 8)
      pure (some (bufPos + 2), memory, bufPos + 2 + 8)
    else pure (self.refrTm, memory, bufPos)
  -- SmpSynch, SmpRate and the tag and length of the data
  let memory ← memory.store bufPos (encodeTL 0x85 1)
  let smpSynchBuf := bufPos + 2
  let middle := self.smpSynch ::
    ((if self.hasSmpRate then encodeTL 0x86 2 ++ encodeUInt16FixedSize self.smpRate else []) ++
      encodeTL 0x87 self.dataSize)
  let memory ← memory.store smpSynchBuf middle
  let dataBuffer := smpSynchBuf + middle.length
  let bufPos := dataBuffer + self.dataSize
  -- SmpMod
  let last := if self.hasSmpMod then
    encodeTL 0x88 2 ++ encodeUInt16FixedSize self.smpMod.toUInt16 else []
  let memory ← memory.store bufPos last
  pure ({ self with
    smpCntBuf := some smpCntBuf
    refrTm := refrTm
    smpSynchBuf := some smpSynchBuf
    dataBuffer := some dataBuffer }, memory, bufPos + last.length)

/-- The ASDUs of a list, one after another. -/
def encodeAllToBuffer (memory : Memory) :
    (bufPos : Nat) → List ASDU → Traced Access (List ASDU × Memory × Nat)
  | bufPos, [] => pure ([], memory, bufPos)
  | bufPos, asdu :: rest => do
    let (asdu, memory, bufPos) ← asdu.encodeToBuffer memory bufPos
    let (rest, memory, bufPos) ← encodeAllToBuffer memory bufPos rest
    pure (asdu :: rest, memory, bufPos)

/-! ## Data -/

/-- `SVPublisher_ASDU_resetBuffer`. -/
def resetBuffer (self : ASDU) : ASDU := { self with dataSize := 0 }

/-- Room for a data element: its offset, and the ASDU after it. -/
def reserve (self : ASDU) (size : Nat) : Nat × ASDU :=
  (self.dataSize, { self with dataSize := self.dataSize + size })

/-- `SVPublisher_ASDU_addINT8`. -/
def addINT8 (self : ASDU) : Nat × ASDU := self.reserve 1

/-- `SVPublisher_ASDU_addINT32`. -/
def addINT32 (self : ASDU) : Nat × ASDU := self.reserve 4

/-- `SVPublisher_ASDU_addINT64`. -/
def addINT64 (self : ASDU) : Nat × ASDU := self.reserve 8

/-- `SVPublisher_ASDU_addFLOAT`. -/
def addFLOAT (self : ASDU) : Nat × ASDU := self.reserve 4

/-- `SVPublisher_ASDU_addFLOAT64`. -/
def addFLOAT64 (self : ASDU) : Nat × ASDU := self.reserve 8

/-- `SVPublisher_ASDU_addTimestamp`. -/
def addTimestamp (self : ASDU) : Nat × ASDU := self.reserve 8

/-- `SVPublisher_ASDU_addQuality`. -/
def addQuality (self : ASDU) : Nat × ASDU := self.reserve 4

/-- A value for the data block, with the octets that its setter writes. Floats are given
by their host representation. -/
inductive DataValue
  | int8 (value : Int8)
  | int32 (value : Int32)
  | int64 (value : Int64)
  | float (value : Octets 4)
  | float64 (value : Octets 8)
  | timestamp (value : Timestamp)
  | quality (value : UInt16)
  deriving DecidableEq

/-- What `SVPublisher_ASDU_setINT8`, `setINT32`, `setINT64`, `setFLOAT`, `setFLOAT64`,
`setTimestamp` and `setQuality` write. -/
def DataValue.octets : DataValue → List UInt8
  | .int8 value => [value.toUInt8]
  | .int32 value => encodeInt32FixedSize value
  | .int64 value => encodeInt64FixedSize value
  | .float value => revertByteOrder value.val
  | .float64 value => revertByteOrder value.val
  | .timestamp value => value.val
  | .quality value => [0, 0, highOctet value, lowOctet value]

/-- A data setter; `none` when the position of the data is NULL. -/
def setData (self : ASDU) (memory : Memory) (index : Nat) (value : DataValue) : Option Memory :=
  self.dataBuffer.map fun dataBuffer => memory.put (dataBuffer + index) value.octets

/-! ## Attributes -/

/-- Octets are written at a position that is recorded. -/
def patch (memory : Memory) (position : Option Nat) (octets : List UInt8) : Memory :=
  match position with
  | some position => memory.put position octets
  | none => memory

/-- `SVPublisher_ASDU_setSmpCnt`. -/
def setSmpCnt (self : ASDU) (memory : Memory) (value : UInt16) : ASDU × Memory :=
  ({ self with smpCnt := value }, patch memory self.smpCntBuf (encodeUInt16FixedSize value))

/-- `SVPublisher_ASDU_setSmpCntWrap`. -/
def setSmpCntWrap (self : ASDU) (value : UInt16) : ASDU := { self with smpCntLimit := value }

/-- `SVPublisher_ASDU_increaseSmpCnt`; `none` for a division by zero. -/
def increaseSmpCnt (self : ASDU) (memory : Memory) : Option (ASDU × Memory) :=
  if self.smpCntLimit = 0 then none
  else some (self.setSmpCnt memory
    (UInt16.ofNat ((self.smpCnt.toNat + 1) % self.smpCntLimit.toNat)))

/-- `SVPublisher_ASDU_enableRefrTm`. -/
def enableRefrTm (self : ASDU) : ASDU := { self with hasRefrTm := true }

/-- The timestamp at the position of `RefrTm`. -/
def timestampAt (memory : Memory) (position : Nat) : Timestamp :=
  ⟨memory.octets position 8, Memory.length_octets ..⟩

/-- The timestamp at the position of `RefrTm` is changed, if there is a position. -/
def changeRefrTm (self : ASDU) (memory : Memory) (change : Timestamp → Timestamp) :
    ASDU × Memory :=
  ({ self with hasRefrTm := true },
    match self.refrTm with
    | some position => memory.put position (change (timestampAt memory position)).val
    | none => memory)

/-- `SVPublisher_ASDU_setRefrTmNs`. -/
def setRefrTmNs (self : ASDU) (memory : Memory) (refrTmNs : UInt64) : ASDU × Memory :=
  self.changeRefrTm memory fun refrTm =>
    (refrTm.setTimeInNanoseconds refrTmNs).setSubsecondPrecision 20

/-- `SVPublisher_ASDU_setRefrTm`. -/
def setRefrTm (self : ASDU) (memory : Memory) (refrTm : UInt64) : ASDU × Memory :=
  self.changeRefrTm memory fun timestamp =>
    (timestamp.setTimeInMilliseconds refrTm).setSubsecondPrecision 10

/-- `SVPublisher_ASDU_setRefrTmByTimestamp`. -/
def setRefrTmByTimestamp (self : ASDU) (memory : Memory) (refrTm : Timestamp) : ASDU × Memory :=
  self.changeRefrTm memory fun _ => refrTm

/-- `SVPublisher_ASDU_setSmpMod`. -/
def setSmpMod (self : ASDU) (smpMod : UInt8) : ASDU :=
  { self with hasSmpMod := true, smpMod := smpMod }

/-- `SVPublisher_ASDU_setSmpRate`. -/
def setSmpRate (self : ASDU) (smpRate : UInt16) : ASDU :=
  { self with hasSmpRate := true, smpRate := smpRate }

/-- `SVPublisher_ASDU_setSmpSynch`; `none` when the position is NULL. -/
def setSmpSynch (self : ASDU) (memory : Memory) (smpSynch : UInt16) : Option (ASDU × Memory) :=
  self.smpSynchBuf.map fun position =>
    ({ self with smpSynch := smpSynch.toUInt8 }, memory.put position [smpSynch.toUInt8])

/-- A call that an application makes on an ASDU. -/
inductive Operation
  | resetBuffer
  | addINT8
  | addINT32
  | addINT64
  | addFLOAT
  | addFLOAT64
  | addTimestamp
  | addQuality
  | setData (index : Nat) (value : DataValue)
  | setSmpCnt (value : UInt16)
  | setSmpCntWrap (value : UInt16)
  | increaseSmpCnt
  | enableRefrTm
  | setRefrTmNs (refrTmNs : UInt64)
  | setRefrTm (refrTm : UInt64)
  | setRefrTmByTimestamp (refrTm : Timestamp)
  | setSmpMod (smpMod : UInt8)
  | setSmpRate (smpRate : UInt16)
  | setSmpSynch (smpSynch : UInt16)
  deriving DecidableEq

/-- The ASDU and the buffer after a call. -/
def perform (self : ASDU) (memory : Memory) : Operation → Option (ASDU × Memory)
  | .resetBuffer => some (self.resetBuffer, memory)
  | .addINT8 => some (self.addINT8.2, memory)
  | .addINT32 => some (self.addINT32.2, memory)
  | .addINT64 => some (self.addINT64.2, memory)
  | .addFLOAT => some (self.addFLOAT.2, memory)
  | .addFLOAT64 => some (self.addFLOAT64.2, memory)
  | .addTimestamp => some (self.addTimestamp.2, memory)
  | .addQuality => some (self.addQuality.2, memory)
  | .setData index value => (self.setData memory index value).map fun memory => (self, memory)
  | .setSmpCnt value => some (self.setSmpCnt memory value)
  | .setSmpCntWrap value => some (self.setSmpCntWrap value, memory)
  | .increaseSmpCnt => self.increaseSmpCnt memory
  | .enableRefrTm => some (self.enableRefrTm, memory)
  | .setRefrTmNs refrTmNs => some (self.setRefrTmNs memory refrTmNs)
  | .setRefrTm refrTm => some (self.setRefrTm memory refrTm)
  | .setRefrTmByTimestamp refrTm => some (self.setRefrTmByTimestamp memory refrTm)
  | .setSmpMod smpMod => some (self.setSmpMod smpMod, memory)
  | .setSmpRate smpRate => some (self.setSmpRate smpRate, memory)
  | .setSmpSynch smpSynch => self.setSmpSynch memory smpSynch

end ASDU

end SVPublisher

/-! ## The publisher -/

/-- `sSVPublisher`. -/
structure SVPublisher where
  buffer : Memory
  lengthField : Nat
  payloadStart : Nat
  payloadLength : Nat
  asduList : List SVPublisher.ASDU

namespace SVPublisher

/-- `SVPublisher_createEx`, over the octets `malloc` found. -/
def createEx (parameters : CommParameters) (srcAddr : Octets 6) (useVlanTag : Bool)
    (found : Memory) : SVPublisher :=
  let header := frameHeader [0x88, 0xba] parameters srcAddr useVlanTag
  { buffer := found.put 0 (header ++ lengthAndReserved)
    lengthField := header.length
    payloadStart := header.length + 6
    payloadLength := 0
    asduList := [] }

/-- `SVPublisher_create`. -/
def create (parameters : CommParameters) (srcAddr : Octets 6) (found : Memory) : SVPublisher :=
  createEx parameters srcAddr true found

/-- `SVPublisher_addASDU`. -/
def addASDU (self : SVPublisher) (svID : CString) (datset : Option CString) (confRev : UInt32) :
    SVPublisher :=
  { self with asduList := self.asduList ++ [ASDU.new svID datset confRev] }

/-- The length of all ASDUs. -/
def totalASDULength (self : SVPublisher) : Nat :=
  (self.asduList.map fun asdu =>
    let asduLength := asdu.getEncodedSize
    asduLength + determineLengthSize asduLength + 1).sum

/-- `SVPublisher_setupComplete`. -/
def setupComplete (self : SVPublisher) : Traced Access SVPublisher := do
  let numberOfAsdu := UInt32.ofNat self.asduList.length
  let totalASDULength := self.totalASDULength
  -- encode frame to buffer
  let sequenceSize := 1 + determineLengthSize totalASDULength + totalASDULength
  let innerSize := 2 + uInt32determineEncodedSize numberOfAsdu + sequenceSize
  let front := encodeTL 0x60 innerSize ++ encodeUInt32WithTL 0x80 numberOfAsdu ++
    encodeTL 0xa2 totalASDULength
  let buffer ← self.buffer.store self.payloadStart front
  let (asduList, buffer, bufPos) ←
    ASDU.encodeAllToBuffer buffer (self.payloadStart + front.length) self.asduList
  -- Update length field
  let payloadLength := bufPos - self.payloadStart
  let msgLength := payloadLength + 8
  let buffer ← buffer.store self.lengthField
    [UInt8.ofNat (msgLength / 256), UInt8.ofNat (msgLength % 256)]
  pure { self with
    buffer := buffer
    payloadLength := payloadLength
    asduList := asduList }

/-- `SVPublisher_publish`: the packet that `Ethernet_sendPacket` hands to the socket. -/
def publish (self : SVPublisher) : List UInt8 :=
  ethernetSendPacket self.buffer (self.payloadStart + self.payloadLength)

/-- A call that an application makes on a publisher or on one of its ASDUs. -/
inductive Operation
  | addASDU (svID : CString) (datset : Option CString) (confRev : UInt32)
  | setupComplete
  | onASDU (index : Nat) (operation : ASDU.Operation)
  deriving DecidableEq

/-- The publisher after a call; `none` for a NULL pointer or a division by zero. -/
def perform (self : SVPublisher) : Operation → Option SVPublisher
  | .addASDU svID datset confRev => some (self.addASDU svID datset confRev)
  | .setupComplete => some self.setupComplete.value
  | .onASDU index operation => do
    let asdu ← self.asduList[index]?
    let (asdu, buffer) ← asdu.perform self.buffer operation
    pure { self with buffer := buffer, asduList := self.asduList.set index asdu }

/-- The publisher after a sequence of calls. -/
def performAll (self : SVPublisher) : List Operation → Option SVPublisher
  | [] => some self
  | operation :: rest => do
    let self ← self.perform operation
    self.performAll rest

end SVPublisher

end GridGooseSV
