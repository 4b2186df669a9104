import GridGooseSV.Mms.Encoder

/-!
# GOOSE publisher

After `goose_publisher.cc`. The frame buffer is a memory whose first 1518 octets
belong to the publisher; what `malloc` leaves in it is arbitrary. Publishing is
undefined, `none`, when a missing component is dereferenced or an octet is
written past the buffer.
-/

namespace GridGooseSV

open BerEncoder

/-- `GOOSE_MAX_MESSAGE_SIZE`. -/
def gooseMaxMessageSize : Nat := 1518

/-- `CommParameters`. -/
structure CommParameters where
  vlanPriority : UInt8
  vlanId : UInt16
  appId : UInt16
  dstAddress : Octets 6
  deriving DecidableEq, Repr

theorem length_gooseAddress :
    ([0x01, 0x0c, 0xcd, 0x01, 0x00, 0x01] : List UInt8).length = 6 := rfl

/-- The parameters used in place of NULL. -/
def CommParameters.default : CommParameters where
  vlanPriority := 4
  vlanId := 0
  appId := 0x1000
  dstAddress := ⟨[0x01, 0x0c, 0xcd, 0x01, 0x00, 0x01], length_gooseAddress⟩

/-- The VLAN tag of a frame. -/
def vlanTag (parameters : CommParameters) : List UInt8 :=
  [0x81, 0x00, (parameters.vlanPriority <<< 5) + highOctet parameters.vlanId,
    lowOctet parameters.vlanId]

/-- What a prepared buffer starts with, up to the length field. -/
def frameHeader (etherType : List UInt8) (parameters : CommParameters) (srcAddr : Octets 6)
    (useVlanTags : Bool) : List UInt8 :=
  parameters.dstAddress.val ++ srcAddr.val ++ (if useVlanTags then vlanTag parameters else []) ++
    etherType ++ [highOctet parameters.appId, lowOctet parameters.appId]

/-- The length field and the reserved fields of a prepared buffer. -/
def lengthAndReserved : List UInt8 := [0x00, 0x08, 0x00, 0x00, 0x00, 0x00]

/-- `sGoosePublisher`. -/
structure GoosePublisher where
  buffer : Memory
  lengthField : Nat
  payloadStart : Nat
  payloadLength : Int
  goID : Option CString
  goCBRef : Option CString
  dataSetRef : Option CString
  confRev : UInt32
  stNum : UInt32
  sqNum : UInt32
  timeAllowedToLive : UInt32
  needsCommission : Bool
  simulation : Bool
  timestamp : Octets 8

/-- What publishing leads to. -/
structure Publication where
  returned : Int
  publisher : GoosePublisher
  /-- the packet that `Ethernet_sendPacket` hands to the socket -/
  sent : Option (List UInt8)

/-- `Ethernet_sendPacket` leaves the first 14 octets to the socket. -/
def ethernetSendPacket (buffer : Memory) (packetSize : Nat) : List UInt8 :=
  buffer.octets 14 (packetSize - 14)

/-- The entries of the data set that are encoded. -/
def presentEntries (dataSetValues : Components) : Components := dataSetValues.filter Option.isSome

namespace GoosePublisher

/-- `GoosePublisher_createEx` at the time `now`, over the octets `malloc` found. -/
def createEx (parameters : CommParameters) (srcAddr : Octets 6) (useVlanTag : Bool)
    (now : UInt64) (found : Memory) : GoosePublisher :=
  let header := frameHeader [0x88, 0xb8] parameters srcAddr useVlanTag
  { buffer := found.put 0 (header ++ lengthAndReserved)
    lengthField := header.length
    payloadStart := header.length + 6
    payloadLength := 0
    goID := none
    goCBRef := none
    dataSetRef := none
    confRev := 0
    stNum := 1
    sqNum := 0
    timeAllowedToLive := 0
    needsCommission := false
    simulation := false
    timestamp := MmsValue.setUtcTimeMs Octets.zero now }

/-- `GoosePublisher_create`. -/
def create (parameters : CommParameters) (srcAddr : Octets 6) (now : UInt64) (found : Memory) :
    GoosePublisher :=
  createEx parameters srcAddr true now found

/-- `GoosePublisher_increaseStNum` at the time `currentTime`. -/
def increaseStNum (self : GoosePublisher) (currentTime : UInt64) : GoosePublisher :=
  { self with
    timestamp := MmsValue.setUtcTimeMs self.timestamp currentTime
    stNum := if self.stNum + 1 = 0 then 1 else self.stNum + 1
    sqNum := 0 }

/-- `GoosePublisher_reset`. -/
def reset (self : GoosePublisher) : GoosePublisher := { self with sqNum := 0, stNum := 1 }

/-- The string that is encoded as `goID`. -/
def encodedGoID (self : GoosePublisher) : Option CString := self.goID <|> self.goCBRef

/-- The number of list entries, NULL entries included. -/
def numberOfDataSetEntries (dataSetValues : Components) : UInt32 :=
  UInt32.ofNat dataSetValues.length

/-- The length of the elements before `allData`, with their tags and lengths. -/
def headerSize (self : GoosePublisher) (dataSetValues : Components) : Nat :=
  determineEncodedStringSize (self.goCBRef.map Subtype.val) +
  (2 + uInt32determineEncodedSize self.timeAllowedToLive) +
  determineEncodedStringSize (self.dataSetRef.map Subtype.val) +
  determineEncodedStringSize (self.encodedGoID.map Subtype.val) +
  (2 + 8) + -- for T (UTCTIME)
  (2 + uInt32determineEncodedSize self.sqNum) +
  (2 + uInt32determineEncodedSize self.stNum) +
  (2 + uInt32determineEncodedSize self.confRev) +
  6 + -- for ndsCom and simulation
  (2 + uInt32determineEncodedSize (numberOfDataSetEntries dataSetValues))

/-- The elements before `allData`. -/
def encodeHeader (self : GoosePublisher) (dataSetValues : Components) : List UInt8 :=
  encodeStringWithTag 0x80 (self.goCBRef.map Subtype.val) ++
  (encodeUInt32WithTL 0x81 self.timeAllowedToLive ++
  (encodeStringWithTag 0x82 (self.dataSetRef.map Subtype.val) ++
  (encodeStringWithTag 0x83 (self.encodedGoID.map Subtype.val) ++
  (encodeOctetString 0x84 self.timestamp.val ++
  (encodeUInt32WithTL 0x85 self.stNum ++
  (encodeUInt32WithTL 0x86 self.sqNum ++
  (encodeBoolean 0x87 self.simulation ++
  (encodeUInt32WithTL 0x88 self.confRev ++
  (encodeBoolean 0x89 self.needsCommission ++
  encodeUInt32WithTL 0x8a (numberOfDataSetEntries dataSetValues))))))))))

/-- `createGoosePayload`: the octets written, or `none` for a result of -1. Sizes
are `uint32_t` numbers. -/
def createGoosePayload (self : GoosePublisher) (dataSetValues : Components)
    (maxPayloadSize : Nat) : Option (Option (List UInt8)) := do
  -- Step 1: calculate length fields
  let elementsSize ← componentsSize (presentEntries dataSetValues)
  let dataSetSize := elementsSize % 2 ^ 32
  let allDataSize := dataSetSize + determineLengthSize dataSetSize + 1
  let goosePduLength := (self.headerSize dataSetValues + allDataSize) % 2 ^ 32
  let payloadSize := (1 + determineLengthSize goosePduLength + goosePduLength) % 2 ^ 32
  if payloadSize > maxPayloadSize then pure none
  else do
    -- Step 2: encode to buffer
    let entries ← encodeComponents (presentEntries dataSetValues)
    pure (some (encodeTL 0x61 goosePduLength ++
      (self.encodeHeader dataSetValues ++ (encodeTL 0xab dataSetSize ++ entries))))

/-- `GoosePublisher_publish`. -/
def publish (self : GoosePublisher) (dataSet : Components) : Option Publication := do
  let maxPayloadSize := gooseMaxMessageSize - self.payloadStart
  let payload ← self.createGoosePayload dataSet maxPayloadSize
  match payload with
  | none =>
    pure { returned := -1, publisher := { self with payloadLength := -1 }, sent := none }
  | some payload =>
    if payload.length > maxPayloadSize then none
    else
      let gooseLength := payload.length + 8
      let buffer := (self.buffer.put self.payloadStart payload).put self.lengthField
        [UInt8.ofNat (gooseLength / 256), UInt8.ofNat (gooseLength % 256)]
      pure {
        returned := 0
        publisher := { self with
          buffer := buffer
          payloadLength := payload.length
          sqNum := if self.sqNum + 1 = 0 then 1 else self.sqNum + 1 }
        sent := some (ethernetSendPacket buffer (self.payloadStart + payload.length)) }

/-- A call that an application makes on a publisher. -/
inductive Operation
  | setGoID (goID : CString)
  | setGoCbRef (goCbRef : CString)
  | setDataSetRef (dataSetRef : CString)
  | setConfRev (confRev : UInt32)
  | setSimulation (simulation : Bool)
  | setStNum (stNum : UInt32)
  | setSqNum (sqNum : UInt32)
  | setNeedsCommission (ndsCom : Bool)
  | setTimeAllowedToLive (timeAllowedToLive : UInt32)
  | increaseStNum (currentTime : UInt64)
  | reset
  | publish (dataSet : Components)

/-- The publisher after a call. -/
def perform (self : GoosePublisher) : Operation → Option GoosePublisher
  | .setGoID goID => some { self with goID := some goID }
  | .setGoCbRef goCbRef => some { self with goCBRef := some goCbRef }
  | .setDataSetRef dataSetRef => some { self with dataSetRef := some dataSetRef }
  | .setConfRev confRev => some { self with confRev := confRev }
  | .setSimulation simulation => some { self with simulation := simulation }
  | .setStNum stNum => some { self with stNum := stNum }
  | .setSqNum sqNum => some { self with sqNum := sqNum }
  | .setNeedsCommission ndsCom => some { self with needsCommission := ndsCom }
  | .setTimeAllowedToLive timeAllowedToLive =>
    some { self with timeAllowedToLive := timeAllowedToLive }
  | .increaseStNum currentTime => some (self.increaseStNum currentTime)
  | .reset => some self.reset
  | .publish dataSet => (self.publish dataSet).map Publication.publisher

/-- The publisher after a sequence of calls. -/
def performAll (self : GoosePublisher) : List Operation → Option GoosePublisher
  | [] => some self
  | operation :: rest => do
    let self ← self.perform operation
    self.performAll rest

end GoosePublisher

end GridGooseSV
