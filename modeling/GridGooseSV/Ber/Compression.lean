import GridGooseSV.Ber.Integer
import GridGooseSV.Foundation.TwosComplement

/-!
# Compressed integers

What is deleted in front of an integer repeats its sign, so what is left is the shortest encoding
of the same number, and a number of 32 bits that was encoded is decoded again.
-/

namespace GridGooseSV

namespace BerEncoder

/-! ## Compressing -/

/-- What is deleted repeats the sign. -/
theorem redundant_iff {first second : UInt8} {rest : List UInt8} :
    Redundant (first :: second :: rest) ↔
      (first = 0x00 ∧ second &&& 0x80 = 0) ∨ (first = 0xff ∧ second &&& 0x80 = 0x80) := by
  rw [topBit_clear, topBit_set, ← UInt8.toNat_inj, ← UInt8.toNat_inj]
  rfl

theorem bytesToDelete_redundant {first : UInt8} {rest : List UInt8}
    (redundant : Redundant (first :: rest)) :
    bytesToDelete (first :: rest) = bytesToDelete rest + 1 := by
  cases rest with
  | nil => exact redundant.elim
  | cons second rest => rw [bytesToDelete, if_pos (redundant_iff.mp redundant)]

theorem bytesToDelete_needed {octets : List UInt8} (needed : ¬ Redundant octets) :
    bytesToDelete octets = 0 := by
  match octets with
  | [] => rfl
  | [_] => rfl
  | first :: second :: rest => rw [bytesToDelete, if_neg (mt redundant_iff.mpr needed)]

/-- What is left without the deleted octets is the shortest encoding. -/
theorem shortest_drop {integer : List UInt8} (nonempty : integer ≠ []) :
    Shortest (integer.drop (bytesToDelete integer)) (twosComplement integer) := by
  induction integer with
  | nil => contradiction
  | cons first rest ih =>
      by_cases redundant : Redundant (first :: rest)
      · have more : rest ≠ [] := by
          rintro rfl
          exact redundant
        rw [bytesToDelete_redundant redundant, List.drop_succ_cons,
          twosComplement_redundant redundant]
        exact ih more
      · rw [bytesToDelete_needed redundant, List.drop_zero]
        exact shortest_of_needed nonempty redundant

/-- The loop that moves what is left to the front of the array. -/
def moveLoop : (count newBytePosition bytePosition : Nat) → List UInt8 → List UInt8
  | 0, _, _, integer => integer
  | count + 1, newBytePosition, bytePosition, integer =>
    moveLoop count (newBytePosition + 1) (bytePosition + 1)
      (integer.set newBytePosition (integer.getD bytePosition 0))

/-- No octet is moved after its place was taken. -/
theorem moveLoop_eq {integer : List UInt8} {deleted : Nat} (count moved : Nat)
    (fits : moved + count + deleted ≤ integer.length) :
    moveLoop count moved (moved + deleted)
        ((integer.drop deleted).take moved ++ integer.drop moved) =
      (integer.drop deleted).take (moved + count) ++ integer.drop (moved + count) := by
  induction count generalizing moved with
  | zero => rfl
  | succ count ih =>
      have front : ((integer.drop deleted).take moved).length = moved := by
        rw [List.length_take, List.length_drop]
        omega
      have bound : moved + deleted < integer.length := by omega
      have taken : ((integer.drop deleted).take moved ++ integer.drop moved).getD
          (moved + deleted) 0 = integer[moved + deleted] := by
        rw [List.getD_eq_getElem?_getD, List.getElem?_append_right (by omega), front,
          Nat.add_sub_cancel_left, List.getElem?_drop, List.getElem?_eq_getElem bound,
          Option.getD_some]
      have written : ((integer.drop deleted).take moved ++ integer.drop moved).set moved
          integer[moved + deleted] =
          (integer.drop deleted).take (moved + 1) ++ integer.drop (moved + 1) := by
        have inside : moved < (integer.drop deleted).length := by
          rw [List.length_drop]
          omega
        have next : (integer.drop deleted)[moved] = integer[moved + deleted] := by
          rw [List.getElem_drop]
          congr 1
          omega
        rw [List.set_append_right _ _ (by omega), front, Nat.sub_self,
          List.drop_eq_getElem_cons (by omega : moved < integer.length), List.set_cons_zero,
          List.take_succ_eq_append_getElem inside, next, List.append_assoc, List.singleton_append]
      have continued := ih (moved + 1) (by omega)
      rw [moveLoop, taken, written, Nat.add_right_comm, continued, Nat.add_assoc moved 1,
        Nat.add_comm 1]

/-- `BerEncoder_compressInteger` with its loop: the array after the call. -/
def compressedInPlace (integer : List UInt8) : List UInt8 :=
  if bytesToDelete integer = 0 then integer
  else moveLoop (compressInteger integer).2 0 (bytesToDelete integer) integer

theorem compressedInPlace_eq {integer : List UInt8} (nonempty : integer ≠ []) :
    compressedInPlace integer = (compressInteger integer).1 := by
  have left := List.length_pos_iff.mpr (shortest_drop nonempty).nonempty
  rw [List.length_drop] at left
  unfold compressedInPlace compressInteger
  simp only
  split
  · rename_i none
    rw [none, Nat.sub_zero, List.drop_zero, List.drop_length, List.append_nil]
  · have moved := @moveLoop_eq integer (bytesToDelete integer)
      (integer.length - bytesToDelete integer) 0 (by omega)
    rw [Nat.zero_add, Nat.zero_add, List.take_zero, List.nil_append, List.drop_zero,
      ← List.length_drop, List.take_length] at moved
    rwa [← List.length_drop]

/-- The front of the array is what is left. -/
theorem take_compressInteger (integer : List UInt8) :
    (compressInteger integer).1.take (compressInteger integer).2 =
      integer.drop (bytesToDelete integer) := by
  unfold compressInteger
  simp only
  rw [← List.length_drop, List.take_left]

/-- Compressing leaves the shortest encoding of a number at the front, and returns its length. -/
structure Compresses (integer : List UInt8) : Prop where
  inPlace : compressedInPlace integer = (compressInteger integer).1
  shortest : Shortest ((compressInteger integer).1.take (compressInteger integer).2)
    (twosComplement integer)
  size : ((compressInteger integer).1.take (compressInteger integer).2).length =
    (compressInteger integer).2

theorem compresses {integer : List UInt8} (nonempty : integer ≠ []) : Compresses integer where
  inPlace := compressedInPlace_eq nonempty
  shortest := by
    rw [take_compressInteger]
    exact shortest_drop nonempty
  size := by
    rw [take_compressInteger, List.length_drop]
    rfl

/-! ## Numbers of 32 bits -/

open BerDecoder

/-- A number without sign is decoded where it was encoded. -/
structure ReadsBackUnsigned (value : UInt32) : Prop where
  encoded : ∀ {memory : Memory} {buffer bufPos : Nat},
    memory.Holds (buffer + bufPos) (encodeUInt32 value) →
      (decodeUint32 memory buffer (encodeUInt32 value).length bufPos).value = value
  encodedWithTL : ∀ {memory : Memory} {buffer bufPos : Nat} {tag : UInt8},
    memory.Holds (buffer + bufPos) (encodeUInt32WithTL tag value) →
      memory (buffer + bufPos) = tag ∧
      (decodeUint32 memory buffer (memory (buffer + (bufPos + 1))).toNat (bufPos + 2)).value =
        value
  size : uInt32determineEncodedSize value = (encodeUInt32 value).length

theorem encodeUInt32WithTL_cons (tag : UInt8) (value : UInt32) :
    encodeUInt32WithTL tag value =
      tag :: UInt8.ofNat (encodeUInt32 value).length :: encodeUInt32 value := by
  rw [length_encodeUInt32]
  rfl

theorem readsBackUnsigned (value : UInt32) : ReadsBackUnsigned value := by
  have read : ∀ {memory : Memory} {buffer bufPos : Nat},
      memory.Holds (buffer + bufPos) (encodeUInt32 value) →
        (decodeUint32 memory buffer (encodeUInt32 value).length bufPos).value = value := by
    intro memory buffer bufPos held
    rw [value_decodeUint32, held.octets, bigEndian_encodeUInt32, UInt32.ofNat_toNat]
  refine ⟨read, fun {memory buffer bufPos tag} held => ?_, (length_encodeUInt32 value).symm⟩
  rw [encodeUInt32WithTL_cons] at held
  obtain ⟨first, others⟩ := Memory.holds_cons.mp held
  obtain ⟨size, octets⟩ := Memory.holds_cons.mp others
  have small := uInt32determineEncodedSize_le value
  have length : (UInt8.ofNat (encodeUInt32 value).length).toNat = (encodeUInt32 value).length := by
    rw [UInt8.toNat_ofNat', length_encodeUInt32]
    omega
  rw [← Nat.add_assoc buffer, size, length]
  exact ⟨first, read octets⟩

end BerEncoder

namespace BerDecoder

theorem foldl_decodeInt32 (octets : List UInt8) (number : Int) :
    octets.foldl (fun (value : Int32) octet => (value <<< 8) + octet.toUInt32.toInt32)
        (Int32.ofInt number) =
      Int32.ofInt (number * 256 ^ octets.length + bigEndian octets) := by
  apply Int32.toBitVec_inj.mp
  rw [Int32.toBitVec_ofInt, ← foldl_shiftIn, ← Int32.toBitVec_ofInt]
  symm
  apply List.foldl_hom Int32.toBitVec
  intro value octet
  rw [Int32.toBitVec_add, Int32.toBitVec_shiftLeft, ofNat_octet]
  rfl

/-- Octets are decoded to the number that they are in two's complement. -/
theorem value_decodeInt32 (memory : Memory) (buffer bufPos : Nat) {intlen : Nat}
    (positive : 0 < intlen) :
    (decodeInt32 memory buffer intlen bufPos).value =
      Int32.ofInt (twosComplement (memory.octets (buffer + bufPos) intlen)) := by
  obtain ⟨count, rfl⟩ := Nat.exists_eq_add_one_of_ne_zero (Nat.ne_of_gt positive)
  have start : (if 128 ≤ (memory (buffer + bufPos)).toNat then (-1 : Int32) else 0) =
      Int32.ofInt (if 128 ≤ (memory (buffer + bufPos)).toNat then -1 else 0) := by
    split <;> rfl
  change (memory.octets (buffer + bufPos) (count + 1)).foldl _
    (if memory (buffer + bufPos) &&& 0x80 = 0x80 then (-1 : Int32) else 0) = _
  simp only [topBit_set]
  rw [start, foldl_decodeInt32, Memory.octets_succ, signed_eq]

end BerDecoder

namespace BerEncoder

open BerDecoder

/-- A number with sign is decoded where it was encoded. -/
def ReadsBackSigned (value : Int32) : Prop :=
  ∀ {memory : Memory} {buffer bufPos : Nat},
    memory.Holds (buffer + bufPos) (encodeInt32 value) →
      (decodeInt32 memory buffer (encodeInt32 value).length bufPos).value = value

/-- The octets of a machine integer are the integer in two's complement. -/
theorem twosComplement_littleEndian {width count : Nat} (bits : BitVec width)
    (positive : 0 < count) (size : width = 8 * count) :
    twosComplement (revertByteOrder (littleEndianOctets count bits.toNat)) = bits.toInt := by
  have capacity : 2 ^ width = 256 ^ count := by
    rw [size, pow_mul]
    rfl
  have length : (revertByteOrder (littleEndianOctets count bits.toNat)).length = count := by
    simp [revertByteOrder]
  apply twosComplement_eq_toInt bits
  · rwa [← List.length_pos_iff, length]
  · rw [length, size]
  · rw [revertByteOrder, bigEndian_reverse, littleEndian_littleEndianOctets, ← capacity]
    exact Nat.mod_eq_of_lt bits.isLt

theorem readsBackSigned (value : Int32) : ReadsBackSigned value := by
  intro memory buffer bufPos held
  have octets : revertByteOrder (littleEndianOctets 4 value.toUInt32.toNat) ≠ [] :=
    List.ne_nil_of_length_pos (by simp [revertByteOrder])
  have shortest : Shortest (encodeInt32 value) value.toInt := by
    have number := twosComplement_littleEndian value.toBitVec (by decide : 0 < 4) rfl
    rw [Int32.toInt, ← number]
    exact (compresses octets).shortest
  rw [value_decodeInt32 _ _ _ (List.length_pos_iff.mpr shortest.nonempty), held.octets,
    shortest.value, Int32.ofInt_toInt]

/-- Integers are compressed to the shortest encoding of the same number, and numbers of 32 bits
are read back. -/
theorem integers_compressed {integer : List UInt8} (nonempty : integer ≠ []) :
    Compresses integer ∧ (∀ value, ReadsBackUnsigned value) ∧ ∀ value, ReadsBackSigned value :=
  ⟨compresses nonempty, readsBackUnsigned, readsBackSigned⟩

/-- Zeros in front of a number that needs one of them. -/
theorem integers_compressed_zeros : Compresses [0, 0, 0x80, 0xff] :=
  (integers_compressed (by decide)).1

example : (compressInteger [0, 0, 0x80, 0xff]).1.take 3 = [0, 0x80, 0xff] := by decide

end BerEncoder

end GridGooseSV
