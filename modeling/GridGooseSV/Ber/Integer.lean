import GridGooseSV.Ber.Decoder
import GridGooseSV.Ber.Encoder

/-!
# Encoded numbers

A 32-bit number is encoded without the leading zero octets that its sign does not
need, in one to five octets, and is decoded again from them.
-/

namespace GridGooseSV

namespace BerDecoder

theorem foldl_decodeUint32 (octets : List UInt8) (value : UInt32) :
    octets.foldl (fun (value : UInt32) octet => (value <<< 8) + octet.toUInt32) value =
      UInt32.ofNat (value.toNat * 256 ^ octets.length + bigEndian octets) := by
  induction octets generalizing value with
  | nil => simp
  | cons octet rest ih =>
      have shifted : ((value <<< 8) + octet.toUInt32).toNat =
          (value.toNat * 256 + octet.toNat) % 2 ^ 32 := by
        rw [UInt32.toNat_add, UInt32.toNat_shiftLeft, UInt8.toNat_toUInt32, Nat.shiftLeft_eq]
        simp only [UInt32.reduceToNat, Nat.reduceMod, Nat.reducePow]
        omega
      rw [List.foldl_cons, ih, shifted, bigEndian_cons, List.length_cons]
      apply UInt32.toNat_inj.mp
      rw [UInt32.toNat_ofNat', UInt32.toNat_ofNat', Nat.add_mod, Nat.mod_mul_mod, ← Nat.add_mod]
      congr 1
      ring

/-- A number is decoded big-endian, to its low 32 bits. -/
theorem value_decodeUint32 (memory : Memory) (buffer intLen bufPos : Nat) :
    (decodeUint32 memory buffer intLen bufPos).value =
      UInt32.ofNat (bigEndian (memory.octets (buffer + bufPos) intLen)) := by
  unfold decodeUint32
  rw [Traced.value_bind, Memory.value_readOctets, Traced.value_pure, foldl_decodeUint32]
  simp

end BerDecoder

namespace BerEncoder

open BerDecoder

/-- Only zero octets are deleted in front of a number that is not negative. -/
theorem bigEndian_drop_bytesToDelete (first : UInt8) (rest : List UInt8)
    (positive : first &&& 0x80 = 0) :
    bigEndian ((first :: rest).drop (bytesToDelete (first :: rest))) =
      bigEndian (first :: rest) := by
  induction rest generalizing first with
  | nil => rfl
  | cons second rest ih =>
      rw [bytesToDelete]
      split
      · rename_i redundant
        rcases redundant with ⟨rfl, clear⟩ | ⟨rfl, _⟩
        · rw [List.drop_succ_cons, ih second clear, bigEndian_cons 0]
          simp
        · exact absurd positive (by decide)
      · rfl

/-- The octets of an encoded number. -/
theorem encodeUInt32_eq (value : UInt32) :
    encodeUInt32 value = (valueBuffer value).drop (bytesToDelete (valueBuffer value)) := by
  unfold encodeUInt32 compressInteger
  simp only
  rw [← List.length_drop, List.take_left]

theorem length_valueBuffer (value : UInt32) : (valueBuffer value).length = 5 := by
  simp [valueBuffer, revertByteOrder]

theorem length_encodeUInt32 (value : UInt32) :
    (encodeUInt32 value).length = uInt32determineEncodedSize value := by
  rw [encodeUInt32_eq, List.length_drop]
  rfl

theorem uInt32determineEncodedSize_le (value : UInt32) : uInt32determineEncodedSize value ≤ 5 := by
  rw [← length_encodeUInt32, encodeUInt32_eq, List.length_drop, length_valueBuffer]
  omega

theorem length_encodeUInt32WithTL (tag : UInt8) (value : UInt32) :
    (encodeUInt32WithTL tag value).length = 2 + uInt32determineEncodedSize value := by
  rw [← length_encodeUInt32, Nat.add_comm]
  rfl

/-- The octets of an encoded number are its base-256 digits. -/
theorem bigEndian_encodeUInt32 (value : UInt32) :
    bigEndian (encodeUInt32 value) = value.toNat := by
  rw [encodeUInt32_eq, valueBuffer, bigEndian_drop_bytesToDelete _ _ (by decide), bigEndian_cons,
    revertByteOrder, bigEndian_reverse, littleEndian_littleEndianOctets]
  have small := value.toNat_lt
  simp only [UInt8.toNat_zero, Nat.zero_mul, Nat.zero_add]
  omega

/-- A number that was encoded is decoded again. -/
theorem decodeUint32_encodeUInt32 {memory : Memory} {address : Nat} {value : UInt32}
    (held : memory.Holds address (encodeUInt32 value)) :
    (decodeUint32 memory 0 (encodeUInt32 value).length address).value = value := by
  rw [value_decodeUint32, Nat.zero_add, held.octets, bigEndian_encodeUInt32, UInt32.ofNat_toNat]

end BerEncoder

end GridGooseSV
