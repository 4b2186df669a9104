import GridGooseSV.Foundation.Memory
import GridGooseSV.Foundation.Numeral

/-!
# MMS values

The value trees a data set is made of, after `mms_value.cc` and
`asn1_ber_primitive_value.cc`. A record whose C counterpart pairs storage with a
size carries the fact that the storage has that size.

`mms_value.cc` includes no header that defines `ORDER_LITTLE_ENDIAN`, so its
`#if (ORDER_LITTLE_ENDIAN == 1)` branches are not compiled and the seconds of a
UTC time are stored in host order, least significant octet first.
-/

namespace GridGooseSV

/-- `Asn1PrimitiveValue`: an integer of `size` octets in storage for `maxSize`. -/
structure Asn1PrimitiveValue where
  size : Nat
  maxSize : Nat
  octets : List UInt8
  stored : octets.length = maxSize
  fits : size ≤ maxSize
  deriving DecidableEq, Repr

namespace Asn1PrimitiveValue

/-- `Asn1PrimitiveValue_create`: one octet, zero. -/
def create (size : Nat) (positive : 1 ≤ size) : Asn1PrimitiveValue where
  size := 1
  maxSize := size
  octets := List.replicate size 0
  stored := List.length_replicate
  fits := positive

/-- Set the size and copy the content octets to the front of the storage. -/
def setOctets (value : Asn1PrimitiveValue) (given : List UInt8)
    (fits : given.length ≤ value.maxSize) : Asn1PrimitiveValue :=
  { value with
    size := given.length
    octets := overwrite value.octets given
    stored := by rw [length_overwrite, value.stored]
    fits := fits }

/-- The octets that make up the number. -/
def content (value : Asn1PrimitiveValue) : List UInt8 := value.octets.take value.size

@[simp] theorem content_setOctets (value : Asn1PrimitiveValue) (given : List UInt8)
    (fits : given.length ≤ value.maxSize) : (value.setOctets given fits).content = given :=
  take_overwrite _ _ (by rw [value.stored]; exact fits)

@[simp] theorem maxSize_setOctets (value : Asn1PrimitiveValue) (given : List UInt8)
    (fits : given.length ≤ value.maxSize) :
    (value.setOctets given fits).maxSize = value.maxSize := rfl

@[simp] theorem length_content (value : Asn1PrimitiveValue) :
    value.content.length = value.size := by
  simp [content, value.stored, value.fits]

end Asn1PrimitiveValue

/-- `BerInteger_createInt32`. -/
def BerInteger.createInt32 : Asn1PrimitiveValue := .create 5 (by decide)

/-- `BerInteger_createInt64`. -/
def BerInteger.createInt64 : Asn1PrimitiveValue := .create 9 (by decide)

/-- `bitStringByteSize`. -/
def bitStringByteSize (size : Nat) : Nat := size / 8 + if size % 8 > 0 then 1 else 0

theorem bitStringByteSize_eq {size bytes : Nat} (fits : size ≤ 8 * bytes)
    (needed : 8 * bytes < size + 8) : bitStringByteSize size = bytes := by
  unfold bitStringByteSize
  split <;> omega

structure BitString where
  /-- number of bits -/
  size : Nat
  buf : List UInt8
  stored : buf.length = bitStringByteSize size
  deriving DecidableEq, Repr

structure OctetString where
  /-- a `uint16_t`, which holds the length of every element of an APDU -/
  size : Nat
  /-- negative when the size of the storage is not fixed by the data model -/
  maxSize : Int
  buf : List UInt8
  stored : buf.length = maxSize.natAbs
  fits : size ≤ maxSize.natAbs
  deriving DecidableEq, Repr

/-- The value of an `int16_t` that a number is stored into. -/
def toInt16 (number : Nat) : Int :=
  if number % 65536 < 32768 then (number % 65536 : Nat) else (number % 65536 : Nat) - 65536

theorem toInt16_le (number : Nat) : toInt16 number ≤ number := by
  unfold toInt16
  split <;> omega

structure VisibleString where
  buf : Option (List UInt8)
  /-- the octets of storage, less one -/
  size : Int
  stored : ∀ octets ∈ buf, size + 1 ≤ octets.length ∧ 0 ∈ octets
  deriving DecidableEq, Repr

/-- The two floating point formats: `formatWidth` 32 or 64. -/
inductive FloatWidth
  | single
  | double
  deriving DecidableEq, Repr

namespace FloatWidth

def formatWidth : FloatWidth → Nat
  | single => 32
  | double => 64

def exponentWidth : FloatWidth → UInt8
  | single => 8
  | double => 11

end FloatWidth

structure FloatingPoint where
  width : FloatWidth
  /-- the host representation, in the first `formatWidth / 8` octets -/
  buf : Octets 8
  deriving DecidableEq, Repr

structure BinaryTime where
  size : Nat
  buf : Octets 6
  fits : size ≤ 6
  deriving DecidableEq, Repr

/-- The two types that are made of components. -/
inductive ComplexType
  | array : ComplexType
  | structure : ComplexType
  deriving DecidableEq, Repr

/-- The types that no value of this library is created with. -/
inductive UnsupportedType
  | generalizedTime
  | bcd
  | objId
  deriving DecidableEq, Repr

/-- `MmsValue`. A component may be missing (a NULL pointer). -/
inductive MmsValue
  | complex (type : ComplexType) (components : List (Option MmsValue))
  | dataAccessError (code : UInt32)
  | boolean (value : Bool)
  | bitString (value : BitString)
  | integer (value : Asn1PrimitiveValue)
  | unsigned (value : Asn1PrimitiveValue)
  | float (value : FloatingPoint)
  | octetString (value : OctetString)
  | visibleString (value : VisibleString)
  | string (value : VisibleString)
  | binaryTime (value : BinaryTime)
  | utcTime (value : Octets 8)
  /-- a type that the encoder does not support -/
  | unsupported (type : UnsupportedType)

/-- The components of an array, as a data set is one. -/
abbrev Components := List (Option MmsValue)

namespace Octets

variable {count : Nat}

/-- Copy octets over the front of the storage. -/
def overwrite (storage : Octets count) (given : List UInt8) : Octets count :=
  ⟨GridGooseSV.overwrite storage.val given, by rw [length_overwrite, storage.property]⟩

/-- All octets zero. -/
def zero : Octets count := ⟨List.replicate count 0, List.length_replicate⟩

theorem take_overwrite (storage : Octets count) (given : List UInt8)
    (fits : given.length ≤ count) : (storage.overwrite given).val.take given.length = given :=
  GridGooseSV.take_overwrite _ _ (by rw [storage.property]; exact fits)

theorem overwrite_all (storage : Octets count) {given : List UInt8}
    (length : given.length = count) : (storage.overwrite given).val = given := by
  have kept := storage.take_overwrite given (Nat.le_of_eq length)
  rwa [List.take_of_length_le (by rw [(storage.overwrite given).property, length])] at kept

end Octets

namespace MmsValue

/-- `MmsValue_newBitString`: all bits clear. -/
def newBitString (bitSize : Int) : BitString where
  size := bitSize.natAbs
  buf := List.replicate (bitStringByteSize bitSize.natAbs) 0
  stored := List.length_replicate

/-- `MmsValue_newInteger` and `MmsValue_newUnsigned` choose the storage alike. -/
def newPrimitive (size : Nat) : Asn1PrimitiveValue :=
  if size ≤ 32 then BerInteger.createInt32 else BerInteger.createInt64

/-- `MmsValue_newInteger`; the size is in bits. -/
def newInteger (size : Nat) : Asn1PrimitiveValue := newPrimitive size

/-- `MmsValue_newUnsigned`; the size is in bits. -/
def newUnsigned (size : Nat) : Asn1PrimitiveValue := newPrimitive size

/-- `MmsValue_newFloat`; the argument in host representation. -/
def newFloat (value : Octets 4) : FloatingPoint := ⟨.single, Octets.zero.overwrite value.val⟩

/-- `MmsValue_newDouble`; the argument in host representation. -/
def newDouble (value : Octets 8) : FloatingPoint := ⟨.double, Octets.zero.overwrite value.val⟩

/-- `MmsValue_newOctetString`, for a size that a `uint16_t` holds. -/
def newOctetString (size : Nat) (maxSize : Int) (fits : size ≤ maxSize.natAbs) : OctetString where
  size := size
  maxSize := maxSize
  buf := List.replicate maxSize.natAbs 0
  stored := List.length_replicate
  fits := fits

/-- `MmsValue_newVisibleStringFromByteArray`. -/
def newVisibleStringFromByteArray (byteArray : List UInt8) : VisibleString where
  buf := some (byteArray ++ [0])
  size := toInt16 byteArray.length
  stored := by
    rintro octets ⟨⟩
    have bound := toInt16_le byteArray.length
    exact ⟨by simp; omega, by simp⟩

/-- `MmsValue_newBinaryTime`. -/
def newBinaryTime (timeOfDay : Bool) : BinaryTime where
  size := if timeOfDay then 4 else 6
  buf := Octets.zero
  fits := by split <;> decide

/-- `MmsValue_setFloat`; the argument in host representation. -/
def setFloat (self : FloatingPoint) (newFloatValue : Octets 4) : FloatingPoint :=
  match self.width with
  | .single => { self with buf := self.buf.overwrite newFloatValue.val }
  | .double =>
      let bits := Ieee754.widen (littleEndian newFloatValue.val)
      { self with buf := self.buf.overwrite (littleEndianOctets 8 bits) }

/-- `MmsValue_setDouble`; the argument in host representation. -/
def setDouble (self : FloatingPoint) (newDoubleValue : Octets 8) : FloatingPoint :=
  match self.width with
  | .single =>
      let bits := Ieee754.narrow (littleEndian newDoubleValue.val)
      { self with buf := self.buf.overwrite (littleEndianOctets 4 bits) }
  | .double => { self with buf := self.buf.overwrite newDoubleValue.val }

/-- `MmsValue_newUtcTime`. -/
def newUtcTime (timeval : UInt32) : Octets 8 :=
  Octets.zero.overwrite (littleEndianOctets 4 timeval.toNat)

/-- `MmsValue_setUtcTime`: only the seconds are written. -/
def setUtcTime (self : Octets 8) (timeval : UInt32) : Octets 8 :=
  self.overwrite (littleEndianOctets 4 timeval.toNat)

/-- `MmsValue_setUtcTimeByBuffer`, for a buffer that is not NULL. -/
def setUtcTimeByBuffer (self : Octets 8) (buffer : List UInt8) : Octets 8 :=
  self.overwrite (buffer.take 8)

/-- `MmsValue_setUtcTimeMs`; the quality is 10 bits of sub-second accuracy. -/
def setUtcTimeMs (self : Octets 8) (timeval : UInt64) : Octets 8 :=
  let remainder := timeval.toNat % 1000
  let fractionOfSecond := remainder * 16777 + remainder * 216 / 1000
  self.overwrite (littleEndianOctets 4 (timeval.toNat / 1000) ++
    [UInt8.ofNat (fractionOfSecond >>> 16), UInt8.ofNat (fractionOfSecond >>> 8),
      UInt8.ofNat fractionOfSecond, 0x0a])

/-- `MmsValue_getUtcTimeInMs`. -/
def getUtcTimeInMs (self : Octets 8) : Nat :=
  let timeval32 := littleEndian (self.val.take 4)
  let fractionOfSecond := bigEndian ((self.val.drop 4).take 3)
  timeval32 * 1000 + fractionOfSecond / 16777

/-- `MmsValue_getBitStringBit`. -/
def getBitStringBit (self : BitString) (bitPos : Nat) : Bool :=
  if bitPos < self.size then
    (self.buf.getD (bitPos / 8) 0).toNat.testBit (7 - bitPos % 8)
  else false

/-- `MmsValue_toString`. -/
def toString (self : VisibleString) : Option (List UInt8) := self.buf.map cString

/-- `MmsValue_setElement`. -/
def setElement (components : Components) (index : Nat) (elementValue : MmsValue) : Components :=
  components.set index (some elementValue)

/-- `MmsValue_getElement`. -/
def getElement (components : Components) (index : Nat) : Option MmsValue :=
  (components[index]?).join

end MmsValue

end GridGooseSV
