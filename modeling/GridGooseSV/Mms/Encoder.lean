import GridGooseSV.Ber.Encoder

/-!
# Encoding of MMS data

After `mms_access_result.cc`. `MmsValue_encodeMmsData` runs in two modes: it
either counts octets or writes them. A missing component is dereferenced by
both, for which nothing is promised: the result is `none`.
-/

namespace GridGooseSV

open BerEncoder

mutual

/-- `MmsValue_encodeMmsData` without `encode`: the number of octets. -/
def MmsValue.encodedSize : MmsValue → Option Nat
  | .boolean _ => some 3
  | .complex _ components => do
      let componentsSize ← componentsSize components
      pure (1 + componentsSize + determineLengthSize componentsSize)
  | .dataAccessError code => some (2 + uInt32determineEncodedSize code)
  | .visibleString value => some (determineEncodedStringSize (value.buf.map cString))
  | .unsigned value => some (2 + value.size)
  | .integer value => some (2 + value.size)
  | .utcTime _ => some 10
  | .bitString value => some (determineEncodedBitStringSize value.size)
  | .binaryTime value => some (2 + value.size)
  | .octetString value => some (1 + determineLengthSize value.size + value.size)
  | .float value => some (value.width.formatWidth / 8 + 1 + 2)
  | .string value => some (determineEncodedStringSize (value.buf.map cString))
  | .unsupported _ => some 0

/-- The first loop of `encodeArrayAccessResult` and `encodeStructuredAccessResult`. -/
def componentsSize : Components → Option Nat
  | [] => some 0
  | component :: rest => do
      let size ← componentSize component
      let others ← componentsSize rest
      pure (size + others)

def componentSize : Option MmsValue → Option Nat
  | none => none
  | some value => value.encodedSize

end

/-- `encodeArrayAccessResult` and `encodeStructuredAccessResult` differ in the tag. -/
def ComplexType.tag : ComplexType → UInt8
  | .array => 0xa1
  | .structure => 0xa2

mutual

/-- `MmsValue_encodeMmsData` with `encode`: the octets written. -/
def MmsValue.encodeMmsData : MmsValue → Option (List UInt8)
  | .boolean value => some (encodeBoolean 0x83 value)
  | .complex type components => do
      let elementsSize ← componentsSize components
      let elements ← encodeComponents components
      pure (type.tag :: (encodeLength elementsSize ++ elements))
  | .dataAccessError code =>
      some (encodeTL 0x80 (uInt32determineEncodedSize code) ++ encodeUInt32 code)
  | .visibleString value => some (encodeStringWithTag 0x8a (value.buf.map cString))
  | .unsigned value => some (encodeAsn1PrimitiveValue 0x86 value)
  | .integer value => some (encodeAsn1PrimitiveValue 0x85 value)
  | .utcTime value => some (encodeOctetString 0x91 value.val)
  | .bitString value => some (encodeBitString 0x84 value.size value.buf)
  | .binaryTime value => some (encodeOctetString 0x8c (value.buf.val.take value.size))
  | .octetString value => some (encodeOctetString 0x89 (value.buf.take value.size))
  | .float value =>
      some (encodeTL 0x87 (value.width.formatWidth / 8 + 1) ++ encodeFloat value)
  | .string value => some (encodeStringWithTag 0x90 (value.buf.map cString))
  | .unsupported _ => some []

/-- The second loop of `encodeArrayAccessResult` and `encodeStructuredAccessResult`. -/
def encodeComponents : Components → Option (List UInt8)
  | [] => some []
  | component :: rest => do
      let octets ← encodeComponent component
      let others ← encodeComponents rest
      pure (octets ++ others)

def encodeComponent : Option MmsValue → Option (List UInt8)
  | none => none
  | some value => value.encodeMmsData

end

end GridGooseSV
