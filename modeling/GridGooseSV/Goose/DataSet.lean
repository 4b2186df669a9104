import GridGooseSV.Ber.Decoder
import GridGooseSV.Goose.Subscriber

/-!
# GOOSE data set decoders

After `parseAllData` and `parseAllDataUnknownValue` of `goose_receiver.cc`. The
first updates a data set in place, the second builds one from the octets.
-/

namespace GridGooseSV

open BerDecoder

/-- The tags of the elements of a data set. -/
inductive DataTag
  /-- reserved for access result -/
  | accessResult
  | complex (type : ComplexType)
  | boolean
  | bitString
  | integer
  | unsigned
  | float
  | octetString
  | visibleString
  | binaryTime
  | utcTime
  deriving DecidableEq, Repr

/-- The cases of `switch (tag)`. -/
def DataTag.ofOctet? (tag : UInt8) : Option DataTag :=
  if tag = 0x80 then some .accessResult
  else if tag = 0xa1 then some (.complex .array)
  else if tag = 0xa2 then some (.complex .structure)
  else if tag = 0x83 then some .boolean
  else if tag = 0x84 then some .bitString
  else if tag = 0x85 then some .integer
  else if tag = 0x86 then some .unsigned
  else if tag = 0x87 then some .float
  else if tag = 0x89 then some .octetString
  else if tag = 0x8a then some .visibleString
  else if tag = 0x8c then some .binaryTime
  else if tag = 0x91 then some .utcTime
  else none

/-- Copy octets into storage of the given capacity. -/
def memcpy (memory : Memory) (source count capacity : Nat) : Traced Access (List UInt8) := do
  let octets ← memory.readOctets source count
  Traced.emit (.copy count capacity)
  pure octets

@[simp] theorem value_memcpy (memory : Memory) (source count capacity : Nat) :
    (memcpy memory source count capacity).value = memory.octets source count := rfl

@[simp 1100] theorem value_bind_memcpy {β : Type} (memory : Memory) (source count capacity : Nat)
    (next : List UInt8 → Traced Access β) :
    (memcpy memory source count capacity >>= next).value =
      (next (memory.octets source count)).value := rfl

/-! ## Updating a data set -/

/-- Copy the content of an integer or unsigned element if it fits. -/
def updatePrimitive (memory : Memory) (address elementLength : Nat)
    (value : Asn1PrimitiveValue) : Traced Access (GooseParseError × Asn1PrimitiveValue) :=
  if fits : elementLength ≤ value.maxSize then do
    let _ ← memcpy memory address elementLength value.maxSize
    pure (.noError, value.setOctets (memory.octets address elementLength)
      (by rw [Memory.length_octets]; exact fits))
  else pure (.lengthMismatch, value)

/-- Copy the content of an octet string, into new storage if it does not fit. -/
def updateOctetString (memory : Memory) (address elementLength : Nat)
    (value : OctetString) : Traced Access OctetString :=
  if fits : elementLength ≤ value.maxSize.natAbs then do
    let octets ← memcpy memory address elementLength value.maxSize.natAbs
    pure { value with
      size := elementLength
      buf := overwrite value.buf octets
      stored := by rw [length_overwrite, value.stored]
      fits := fits }
  else do
    let _ ← memcpy memory address elementLength elementLength
    pure {
      size := elementLength
      maxSize := -elementLength
      buf := memory.octets address elementLength
      stored := by rw [Memory.length_octets, Int.natAbs_neg, Int.natAbs_natCast]
      fits := by rw [Int.natAbs_neg, Int.natAbs_natCast] }

/-- `createNewStringFromBufferElement`. -/
def createNewStringFromBufferElement (memory : Memory) (bufferSrc elementLength : Nat) :
    Traced Access VisibleString := do
  let octets ← memcpy memory bufferSrc elementLength (elementLength + 1)
  pure (MmsValue.newVisibleStringFromByteArray octets)

/-- Copy the content of a visible string, into new storage if it does not fit. -/
def updateVisibleString (memory : Memory) (address elementLength : Nat)
    (value : VisibleString) : Traced Access VisibleString :=
  match present : value.buf with
  | none => createNewStringFromBufferElement memory address elementLength
  | some buf =>
    if fits : value.size ≥ elementLength then do
      let _ ← memcpy memory address elementLength buf.length
      pure {
        value with
        buf := some (overwrite buf (memory.octets address elementLength ++ [0]))
        stored := by
          rintro octets ⟨⟩
          have bound := (value.stored buf present).1
          refine ⟨by rw [length_overwrite]; exact bound, ?_⟩
          unfold overwrite
          rw [List.take_of_length_le (by simp; omega)]
          simp }
    else createNewStringFromBufferElement memory address elementLength

/-- The `switch` of `parseAllData` for one element whose content starts at
`address`. Components are updated by `nested`. -/
def updateElement (memory : Memory)
    (nested : (buffer allDataLength : Nat) → Components →
      Traced Access (GooseParseError × Components))
    (tag : UInt8) (address elementLength : Nat) (value : MmsValue) :
    Traced Access (GooseParseError × MmsValue) :=
  match DataTag.ofOctet? tag with
  | none => pure (.unknownTag, value)
  | some .accessResult => pure (.noError, value)
  | some (.complex expected) =>
    match value with
    | .complex type components =>
      if type = expected then do
        let (error, components) ← nested address elementLength components
        pure (if error ≠ .noError then .sublevel else .noError, .complex type components)
      else pure (.typeMismatch, value)
    | _ => pure (.typeMismatch, value)
  | some .boolean =>
    match value with
    | .boolean _ => do
      let decoded ← decodeBoolean memory address 0
      pure (.noError, .boolean decoded)
    | _ => pure (.typeMismatch, value)
  | some .bitString =>
    match value with
    | .bitString bits => do
      let padding ← memory.read address
      let bitStringLength : Int := 8 * ((elementLength : Int) - 1) - padding.toNat
      if bitStringLength = bits.size then do
        let octets ← memcpy memory (address + 1) (elementLength - 1) bits.buf.length
        pure (.noError, .bitString { bits with
          buf := overwrite bits.buf octets
          stored := by rw [length_overwrite, bits.stored] })
      else pure (.lengthMismatch, value)
    | _ => pure (.typeMismatch, value)
  | some .integer =>
    match value with
    | .integer number => do
      let (error, number) ← updatePrimitive memory address elementLength number
      pure (error, .integer number)
    | _ => pure (.typeMismatch, value)
  | some .unsigned =>
    match value with
    | .unsigned number => do
      let (error, number) ← updatePrimitive memory address elementLength number
      pure (error, .unsigned number)
    | _ => pure (.typeMismatch, value)
  | some .float =>
    match value with
    | .float number =>
      if elementLength = 9 then do
        let decoded ← decodeDouble memory address 0
        pure (.noError, .float (MmsValue.setDouble number decoded))
      else if elementLength = 5 then do
        let decoded ← decodeFloat memory address 0
        pure (.noError, .float (MmsValue.setFloat number decoded))
      else pure (.lengthMismatch, value)
    | _ => pure (.typeMismatch, value)
  | some .octetString =>
    match value with
    | .octetString octets => do
      let octets ← updateOctetString memory address elementLength octets
      pure (.noError, .octetString octets)
    | _ => pure (.typeMismatch, value)
  | some .visibleString =>
    match value with
    | .visibleString string => do
      let string ← updateVisibleString memory address elementLength string
      pure (.noError, .visibleString string)
    | _ => pure (.typeMismatch, value)
  | some .binaryTime =>
    match value with
    | .binaryTime time =>
      -- An element of another length is passed over without an error.
      if elementLength = 4 ∨ elementLength = 6 then do
        let octets ← memcpy memory address elementLength 6
        pure (.noError, .binaryTime { time with buf := time.buf.overwrite octets })
      else pure (.noError, value)
    | _ => pure (.typeMismatch, value)
  | some .utcTime =>
    if elementLength = 8 then
      match value with
      | .utcTime time => do
        let octets ← memory.readOctets address 8
        pure (.noError, .utcTime (MmsValue.setUtcTimeByBuffer time octets))
      | _ => pure (.typeMismatch, value)
    else pure (.lengthMismatch, value)

/-- What follows the loop of `parseAllData`: elements that were not reached are
reported whatever ended the loop. -/
def finishUpdate (error : GooseParseError) (elementIndex : Nat) (dataSetValues : Components) :
    GooseParseError × Components :=
  (if elementIndex < dataSetValues.length then .underflow else error, dataSetValues)

/-- The loop of `parseAllData`. `fuel` bounds the octets left. -/
def updateLoop (memory : Memory) : (fuel buffer allDataLength bufPos elementIndex : Nat) →
    Components → Traced Access (GooseParseError × Components)
  | 0, _, _, _, elementIndex, dataSetValues =>
    pure (finishUpdate .noError elementIndex dataSetValues)
  | fuel + 1, buffer, allDataLength, bufPos, elementIndex, dataSetValues =>
    if bufPos < allDataLength then do
      let tag ← memory.read (buffer + bufPos)
      if elementIndex ≥ dataSetValues.length then
        pure (finishUpdate .overflow elementIndex dataSetValues)
      else
        match MmsValue.getElement dataSetValues elementIndex with
        | none => pure (.typeMismatch, dataSetValues)
        | some value => do
          let decoded ← decodeLength memory buffer allDataLength (bufPos + 1)
          match decoded with
          | none => pure (finishUpdate .tagDecode elementIndex dataSetValues)
          | some (bufPos, elementLength) => do
            let (error, value) ← updateElement memory
              (fun buffer allDataLength => updateLoop memory fuel buffer allDataLength 0 0)
              tag (buffer + bufPos) elementLength value
            let dataSetValues := dataSetValues.set elementIndex (some value)
            if error ≠ .noError then
              pure (finishUpdate error elementIndex dataSetValues)
            else
              updateLoop memory fuel buffer allDataLength (bufPos + elementLength)
                (elementIndex + 1) dataSetValues
    else pure (finishUpdate .noError elementIndex dataSetValues)

/-- `parseAllData`. -/
def parseAllData (memory : Memory) (buffer allDataLength : Nat) (dataSetValues : Components) :
    Traced Access (GooseParseError × Components) :=
  updateLoop memory allDataLength buffer allDataLength 0 0 dataSetValues

/-! ## Building a data set -/

/-- The first loop of `parseAllDataUnknownValue` counts the elements; an element
that cannot be delimited or has no known tag ends it. -/
def countElements (memory : Memory) (buffer allDataLength : Nat) :
    (fuel bufPos elementIndex : Nat) → Traced Access (Option Nat)
  | 0, _, elementIndex => pure (some elementIndex)
  | fuel + 1, bufPos, elementIndex =>
    if bufPos < allDataLength then do
      let tag ← memory.read (buffer + bufPos)
      let decoded ← decodeLength memory buffer allDataLength (bufPos + 1)
      match decoded with
      | none => pure none
      | some (bufPos, elementLength) =>
        match DataTag.ofOctet? tag with
        | none => pure none
        | some _ =>
          countElements memory buffer allDataLength fuel (bufPos + elementLength)
            (elementIndex + 1)
    else pure (some elementIndex)

/-- What an element of an unknown data set turns into. -/
inductive Created
  /-- the whole data set is given up -/
  | error
  /-- no value is created and no component is set -/
  | skipped
  | value (value : MmsValue)

/-- Fill a new integer or unsigned value from at most eight octets. -/
def createPrimitive (memory : Memory) (address elementLength : Nat) (value : Asn1PrimitiveValue)
    (wrap : Asn1PrimitiveValue → MmsValue) : Traced Access Created := do
  let octets ← memcpy memory address elementLength value.maxSize
  if fits : octets.length ≤ value.maxSize then
    pure (.value (wrap (value.setOctets octets fits)))
  else pure .error

/-- The `switch` of the second loop of `parseAllDataUnknownValue` for one element
whose content starts at `address`. Components are built by `nested`, which also
tracks the flag that it sets. -/
def createElement (memory : Memory)
    (nested : (buffer allDataLength : Nat) → (selfAllocated : Bool) →
      Traced Access (Option Components × Bool))
    (tag : UInt8) (address elementLength : Nat) (selfAllocated : Bool) :
    Traced Access (Created × Bool) :=
  match DataTag.ofOctet? tag with
  | none => pure (.error, selfAllocated)
  | some .accessResult => pure (.error, selfAllocated)
  | some (.complex type) => do
    let (components, selfAllocated) ← nested address elementLength selfAllocated
    match components with
    | none => pure (.error, selfAllocated)
    | some components => pure (.value (.complex type components), selfAllocated)
  | some .boolean => do
    let decoded ← decodeBoolean memory address 0
    pure (.value (.boolean decoded), selfAllocated)
  | some .bitString =>
    if elementLength > 1 then do
      let padding ← memory.read address
      let rawBitLength := (elementLength - 1) * 8
      if padding.toNat > 7 then pure (.error, selfAllocated)
      else do
        let bits := MmsValue.newBitString (rawBitLength - padding.toNat)
        let octets ← memcpy memory (address + 1) (elementLength - 1) bits.buf.length
        pure (.value (.bitString { bits with
          buf := overwrite bits.buf octets
          stored := by rw [length_overwrite, bits.stored] }), selfAllocated)
    else pure (.error, selfAllocated)
  | some .integer =>
    if elementLength > 8 then pure (.error, selfAllocated)
    else do
      let value := MmsValue.newInteger (elementLength * 8)
      let created ← createPrimitive memory address elementLength value .integer
      pure (created, selfAllocated)
  | some .unsigned =>
    if elementLength > 8 then pure (.error, selfAllocated)
    else do
      let value := MmsValue.newUnsigned (elementLength * 8)
      let created ← createPrimitive memory address elementLength value .unsigned
      pure (created, selfAllocated)
  | some .float =>
    if elementLength = 9 then do
      let decoded ← decodeDouble memory address 0
      pure (.value (.float (MmsValue.newDouble decoded)), selfAllocated)
    else if elementLength = 5 then do
      let decoded ← decodeFloat memory address 0
      pure (.value (.float (MmsValue.newFloat decoded)), selfAllocated)
    else pure (.skipped, selfAllocated)
  | some .octetString => do
    let string := MmsValue.newOctetString elementLength elementLength (Nat.le_refl _)
    let octets ← memcpy memory address elementLength string.buf.length
    pure (.value (.octetString { string with
      buf := overwrite string.buf octets
      stored := by rw [length_overwrite, string.stored] }), selfAllocated)
  | some .visibleString => do
    let octets ← memory.readOctets address elementLength
    pure (.value (.visibleString (MmsValue.newVisibleStringFromByteArray octets)), selfAllocated)
  | some .binaryTime =>
    if elementLength = 4 ∨ elementLength = 6 then do
      let time := MmsValue.newBinaryTime (elementLength = 4)
      let octets ← memcpy memory address elementLength 6
      pure (.value (.binaryTime { time with buf := time.buf.overwrite octets }), selfAllocated)
    else pure (.skipped, selfAllocated)
  | some .utcTime =>
    if elementLength = 8 then do
      let octets ← memory.readOctets address 8
      let time := MmsValue.setUtcTimeByBuffer (MmsValue.newUtcTime 0) octets
      pure (.value (.utcTime time), selfAllocated)
    else pure (.skipped, selfAllocated)

/-- The second loop of `parseAllDataUnknownValue` fills the components. `build` is
the function itself, for nested elements. -/
def fillElements (memory : Memory)
    (build : (buffer allDataLength : Nat) → (selfAllocated : Bool) →
      Traced Access (Option Components × Bool)) (buffer allDataLength : Nat) :
    (fuel bufPos elementIndex : Nat) → Components → Bool →
      Traced Access (Option Components × Bool)
  | 0, _, _, dataSetValues, _ => pure (some dataSetValues, true)
  | fuel + 1, bufPos, elementIndex, dataSetValues, selfAllocated =>
    if bufPos < allDataLength then do
      let tag ← memory.read (buffer + bufPos)
      let decoded ← decodeLength memory buffer allDataLength (bufPos + 1)
      match decoded with
      | none => pure (none, selfAllocated)
      | some (bufPos, elementLength) => do
        let (created, selfAllocated) ←
          createElement memory build tag (buffer + bufPos) elementLength selfAllocated
        match created with
        | .error => pure (none, selfAllocated)
        | .skipped =>
          fillElements memory build buffer allDataLength fuel (bufPos + elementLength)
            elementIndex dataSetValues selfAllocated
        | .value value =>
          fillElements memory build buffer allDataLength fuel (bufPos + elementLength)
            (elementIndex + 1) (MmsValue.setElement dataSetValues elementIndex value)
            selfAllocated
    -- The data set is complete: `dataSetValuesSelfAllocated` is set.
    else pure (some dataSetValues, true)

/-- `parseAllDataUnknownValue`, to a bounded nesting depth. -/
def createLoop (memory : Memory) : (fuel buffer allDataLength : Nat) → (selfAllocated : Bool) →
    Traced Access (Option Components × Bool)
  | 0, _, _, selfAllocated => pure (none, selfAllocated)
  | fuel + 1, buffer, allDataLength, selfAllocated => do
    let count ← countElements memory buffer allDataLength allDataLength 0 0
    match count with
    | none => pure (none, selfAllocated)
    | some elementIndex =>
      fillElements memory (createLoop memory fuel) buffer allDataLength allDataLength 0 0
        (List.replicate elementIndex none) selfAllocated

/-- `parseAllDataUnknownValue`: the components, unless the data set was given up,
and the flag `dataSetValuesSelfAllocated`. An element is shorter than what holds
it, so the length bounds the depth. -/
def parseAllDataUnknownValue (memory : Memory) (buffer allDataLength : Nat)
    (selfAllocated : Bool) : Traced Access (Option Components × Bool) :=
  createLoop memory (allDataLength + 1) buffer allDataLength selfAllocated

end GridGooseSV
