import GridGooseSV.Common.Text
import GridGooseSV.Mms.Integer

/-!
# Printing values

After `MmsValue_printToBuffer` of `mms_value.cc`. The buffer is the octets from the pointer
`buffer` on, as many as `bufferSize` says: a component is printed to `buffer + bufPos` with
`bufferSize - bufPos` octets, which is what is left of the buffer there. An access that leaves
the buffer is `none`, and so is the reading of a string that is NULL.
-/

namespace GridGooseSV.MmsValue

/-- `MmsValue_toFloat`: the bits of the number. -/
def toFloat (self : FloatingPoint) : Nat :=
  match self.width with
  | .single => littleEndian (self.buf.val.take 4)
  | .double => Ieee754.narrow (littleEndian self.buf.val)

/-- `MmsValue_getBinaryTimeAsUtcMs`. -/
def getBinaryTimeAsUtcMs (self : BinaryTime) : Nat :=
  let timestamp :=
    if self.size = 6 then bigEndian (self.buf.val.drop 4) * 86400000 + 441763200000 else 0
  timestamp + bigEndian (self.buf.val.take 4)

/-- The characters of a bit string. -/
def bitChars (self : BitString) : List UInt8 :=
  (List.range self.size).map fun bitPos => if getBitStringBit self bitPos then 0x31 else 0x30

/-- The octets of an octet string, two characters each. -/
def hexChars (octets : List UInt8) : List UInt8 :=
  octets.flatMap fun octet => (CString.ofChars (Format.hexOctet octet)).val

/-- The string that the format of a value's type makes of the value. -/
def formatted : MmsValue → CString
  | .boolean value => .ofString (if value then "true" else "false")
  | .dataAccessError code => .ofChars ("error ".toList ++ Format.signed code.toInt32.toInt)
  | .float value => .ofChars (Format.fixed (toFloat value))
  | .integer value => .ofChars (Format.signed (BerInteger.toInt64 value).toInt)
  | .unsigned value => .ofChars (Format.unsigned (BerInteger.toUint32 value).toNat)
  | .binaryTime value =>
    .ofStorage (Conversions.msTimeToGeneralizedTime (getBinaryTimeAsUtcMs value))
  | .utcTime value => .ofStorage (Conversions.msTimeToGeneralizedTime (getUtcTimeInMs value))
  | .visibleString value | .string value => .ofStorage (value.buf.getD [])
  | .unsupported .generalizedTime => .ofString "generalized time"
  | .unsupported .bcd | .unsupported .objId => .ofString "unknown type"
  | .complex _ _ | .bitString _ | .octetString _ => .ofString ""

/-- The loop over the octets of an octet string. -/
def printOctets : (octets : List UInt8) → (bufPos : Nat) → (buffer : List UInt8) → List UInt8
  | [], _, buffer => buffer
  | octet :: rest, bufPos, buffer =>
    let buffer := buffer.take bufPos ++
      snprintf (buffer.drop bufPos) (.ofChars (Format.hexOctet octet))
    if bufPos + 2 ≥ buffer.length then buffer else printOctets rest (bufPos + 2) buffer

mutual

/-- `MmsValue_printToBuffer`, for a value. -/
def printToBuffer (self : MmsValue) (storage : List UInt8) : Option (List UInt8) :=
  -- A buffer of size zero has no first octet to clear.
  let buffer := storage.set 0 0
  match self with
  | .complex _ components =>
    if buffer.length = 0 then some buffer
    else do
      let buffer ← writeAt buffer 0 0x7b
      let printed ← printComponents components buffer 1
      if printed.2 < printed.1.length - 1 then do
        let buffer ← writeAt printed.1 printed.2 0x7d
        writeAt buffer (printed.2 + 1) 0
      else writeAt printed.1 (printed.1.length - 1) 0
  | .bitString value =>
    if value.size > buffer.length then some (List.replicate buffer.length 0)
    else do
      let buffer ← writeAll buffer 0 (bitChars value)
      writeAt buffer value.size 0
  | .octetString value => some (printOctets (value.buf.take value.size) 0 buffer)
  | .visibleString value | .string value =>
    if value.buf.isSome then StringUtils.copyStringMax buffer self.formatted else none
  | .boolean _ | .unsupported _ => StringUtils.copyStringMax buffer self.formatted
  | .binaryTime _ | .dataAccessError _ | .float _ | .integer _ | .unsigned _ | .utcTime _ =>
    some (snprintf buffer self.formatted)

/-- The loop over the components: the buffer and the position behind what was printed. -/
def printComponents : Components → (buffer : List UInt8) → (bufPos : Nat) →
    Option (List UInt8 × Nat)
  | [], buffer, bufPos => some (buffer, bufPos)
  | component :: rest, buffer, bufPos => do
    let buffer ← writeFrom buffer bufPos (printComponent component)
    let currentStr ← strlen (buffer.drop bufPos)
    let bufPos := bufPos + currentStr
    if bufPos ≥ buffer.length then some (buffer, bufPos)
    else if rest.isEmpty then some (buffer, bufPos)
    else do
      let buffer ← writeAt buffer bufPos 0x2c
      printComponents rest buffer (bufPos + 1)

/-- `MmsValue_printToBuffer`, for a value that may be NULL. -/
def printComponent : Option MmsValue → List UInt8 → Option (List UInt8)
  | none, buffer => StringUtils.copyStringMax buffer (.ofString "(null)")
  | some value, buffer => value.printToBuffer buffer

end

end GridGooseSV.MmsValue
