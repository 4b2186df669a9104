import GridGooseSV.Mms.Value

/-!
# BER encoder

After `ber_encoder.cc`. Every encoder of the source writes consecutive octets
from `bufPos` on and returns the position after the last; here it is the list of
the octets it writes, so that `bufPos = f(..., buffer, bufPos)` is an append.
`ber_encoder.cc` includes the platform headers, so its little-endian branches
are the compiled ones.
-/

namespace GridGooseSV.BerEncoder

/-- `BerEncoder_encodeLength`. -/
def encodeLength (length : Nat) : List UInt8 :=
  if length < 128 then [UInt8.ofNat length]
  else if length < 256 then [0x81, UInt8.ofNat length]
  else if length < 65535 then [0x82, UInt8.ofNat (length / 256), UInt8.ofNat (length % 256)]
  else [0x83, UInt8.ofNat (length / 0x10000), UInt8.ofNat (length % 0x10000 / 0x100),
    UInt8.ofNat (length % 256)]

/-- `BerEncoder_encodeTL`. -/
def encodeTL (tag : UInt8) (length : Nat) : List UInt8 := tag :: encodeLength length

/-- `BerEncoder_encodeBoolean`. -/
def encodeBoolean (tag : UInt8) (value : Bool) : List UInt8 :=
  [tag, 1, if value then 0x01 else 0x00]

/-- `BerEncoder_encodeOctetString`, for a string of the given octets. -/
def encodeOctetString (tag : UInt8) (octetString : List UInt8) : List UInt8 :=
  tag :: (encodeLength octetString.length ++ octetString)

/-- `BerEncoder_encodeStringWithTag`; the string may be NULL. -/
def encodeStringWithTag (tag : UInt8) (string : Option (List UInt8)) : List UInt8 :=
  match string with
  | some string => tag :: (encodeLength string.length ++ string)
  | none => [tag, 0]

/-- `BerEncoder_encodeAsn1PrimitiveValue`. -/
def encodeAsn1PrimitiveValue (tag : UInt8) (value : Asn1PrimitiveValue) : List UInt8 :=
  tag :: (encodeLength value.size ++ value.octets.take value.size)

/-- The mask that clears the given number of low bits. -/
def paddingMask (padding : Nat) : UInt8 := ~~~ UInt8.ofNat (2 ^ padding - 1)

/-- Apply a mask to the last octet written. -/
def maskLast (mask : UInt8) : List UInt8 → List UInt8
  | [] => []
  | [octet] => [octet &&& mask]
  | octet :: rest => octet :: maskLast mask rest

/-- `BerEncoder_encodeBitString`. The mask reaches the padding octet when there
are no bits; there is no padding then either. -/
def encodeBitString (tag : UInt8) (bitStringSize : Nat) (bitString : List UInt8) : List UInt8 :=
  let byteSize := bitStringByteSize bitStringSize
  let padding := byteSize * 8 - bitStringSize
  tag :: (encodeLength (byteSize + 1) ++
    maskLast (paddingMask padding) (UInt8.ofNat padding :: bitString.take byteSize))

/-- `BerEncoder_determineLengthSize`. -/
def determineLengthSize (length : Nat) : Nat :=
  if length < 128 then 1
  else if length < 256 then 2
  else if length < 65536 then 3
  else 4

/-- `BerEncoder_determineEncodedBitStringSize`. -/
def determineEncodedBitStringSize (bitStringSize : Nat) : Nat :=
  2 + determineLengthSize (bitStringByteSize bitStringSize) + bitStringByteSize bitStringSize

/-- `BerEncoder_determineEncodedStringSize`; the string may be NULL. -/
def determineEncodedStringSize (string : Option (List UInt8)) : Nat :=
  match string with
  | some string => 1 + determineLengthSize string.length + string.length
  | none => 2

/-- `BerEncoder_revertByteOrder`. -/
def revertByteOrder (octets : List UInt8) : List UInt8 := octets.reverse

/-- The leading octets that `compressInteger` deletes: those that only repeat the
sign bit of the octet after them. -/
def bytesToDelete : List UInt8 → Nat
  | first :: second :: rest =>
    if (first = 0x00 ∧ second &&& 0x80 = 0) ∨ (first = 0xff ∧ second &&& 0x80 = 0x80) then
      bytesToDelete (second :: rest) + 1
    else 0
  | _ => 0

/-- `BerEncoder_compressInteger`: the array after the call and the new size. -/
def compressInteger (integer : List UInt8) : List UInt8 × Nat :=
  let deleted := bytesToDelete integer
  let newSize := integer.length - deleted
  (integer.drop deleted ++ integer.drop newSize, newSize)

/-- The octets of a 32-bit value, most significant first, after a zero octet. -/
def valueBuffer (value : UInt32) : List UInt8 :=
  0 :: revertByteOrder (littleEndianOctets 4 value.toNat)

/-- `BerEncoder_encodeUInt32`. -/
def encodeUInt32 (value : UInt32) : List UInt8 :=
  let (octets, size) := compressInteger (valueBuffer value)
  octets.take size

/-- `BerEncoder_encodeInt32`. -/
def encodeInt32 (value : Int32) : List UInt8 :=
  let (octets, size) := compressInteger
    (revertByteOrder (littleEndianOctets 4 value.toUInt32.toNat))
  octets.take size

/-- `BerEncoder_UInt32determineEncodedSize`. -/
def uInt32determineEncodedSize (value : UInt32) : Nat :=
  (compressInteger (valueBuffer value)).2

/-- `BerEncoder_encodeUInt32WithTL`. -/
def encodeUInt32WithTL (tag : UInt8) (value : UInt32) : List UInt8 :=
  let (octets, size) := compressInteger (valueBuffer value)
  tag :: UInt8.ofNat size :: octets.take size

/-- `BerEncoder_encodeFloat`. -/
def encodeFloat (value : FloatingPoint) : List UInt8 :=
  value.width.exponentWidth ::
    revertByteOrder (value.buf.val.take (value.width.formatWidth / 8))

end GridGooseSV.BerEncoder

namespace GridGooseSV

open BerEncoder

namespace BerInteger

/-- `setIntegerValue`: whether the number fits, and the value after the call. A number that does
not fit is not stored. -/
def setIntegerValue (self : Asn1PrimitiveValue) (valueBuffer : List UInt8) :
    Bool × Asn1PrimitiveValue :=
  let (octets, size) := compressInteger (revertByteOrder valueBuffer)
  if fits : (octets.take size).length ≤ self.maxSize then
    (true, self.setOctets (octets.take size) fits)
  else (false, self)

/-- `BerInteger_setInt32`. -/
def setInt32 (self : Asn1PrimitiveValue) (value : Int32) : Bool × Asn1PrimitiveValue :=
  setIntegerValue self (littleEndianOctets 4 value.toUInt32.toNat)

/-- `BerInteger_createFromInt32`. -/
def createFromInt32 (value : Int32) : Asn1PrimitiveValue := (setInt32 createInt32 value).2

/-- `BerInteger_setUint16`. -/
def setUint16 (self : Asn1PrimitiveValue) (value : UInt16) : Bool × Asn1PrimitiveValue :=
  setIntegerValue self (littleEndianOctets 2 value.toNat ++ [0])

/-- `BerInteger_setUint8`: no zero octet is put behind the value. -/
def setUint8 (self : Asn1PrimitiveValue) (value : UInt8) : Bool × Asn1PrimitiveValue :=
  setIntegerValue self (littleEndianOctets 1 value.toNat)

/-- `BerInteger_setUint32`. -/
def setUint32 (self : Asn1PrimitiveValue) (value : UInt32) : Bool × Asn1PrimitiveValue :=
  setIntegerValue self (littleEndianOctets 4 value.toNat ++ [0])

/-- `BerInteger_createFromUint32`. -/
def createFromUint32 (value : UInt32) : Asn1PrimitiveValue := (setUint32 createInt32 value).2

/-- `BerInteger_setInt64`. -/
def setInt64 (self : Asn1PrimitiveValue) (value : Int64) : Bool × Asn1PrimitiveValue :=
  setIntegerValue self (littleEndianOctets 8 value.toUInt64.toNat)

/-- `BerInteger_createFromInt64`. -/
def createFromInt64 (value : Int64) : Asn1PrimitiveValue := (setInt64 createInt64 value).2

end BerInteger

/-- `MmsValue_newIntegerFromInt32`. -/
def MmsValue.newIntegerFromInt32 (integer : Int32) : MmsValue :=
  .integer (BerInteger.createFromInt32 integer)

end GridGooseSV
