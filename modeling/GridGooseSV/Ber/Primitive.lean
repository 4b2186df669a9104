import GridGooseSV.Ber.Compression
import GridGooseSV.Mms.Integer

/-!
# Primitive integers

The setters of `ber_integer.cc` store the shortest encoding of what they are given, if it fits.
An unsigned number needs a zero in front of its octets when their top bit is set; the one setter
that does not add it stores a negative number then.
-/

namespace GridGooseSV

namespace BerInteger

open BerEncoder

/-! ## Reading -/

section Reading

variable {self : Asn1PrimitiveValue}

/-- A number is read big-endian, to its low 32 bits. -/
theorem toUint32_eq : toUint32 self = UInt32.ofNat (bigEndian self.content) := by
  have folded := @foldl_shiftOr 32 self.content 0
  apply UInt32.toBitVec_inj.mp
  rw [Int.zero_mul, Int.zero_add, BitVec.ofInt_natCast] at folded
  rw [toUint32, UInt32.toBitVec_ofNat', ← folded]
  symm
  apply List.foldl_hom UInt32.toBitVec
  intro value octet
  rw [UInt32.toBitVec_or, UInt32.toBitVec_shiftLeft, ofNat_octet]
  rfl

/-- The sign in front of the stored octets makes them a number in two's complement. -/
theorem sign_content (present : self.size ≠ 0) :
    (if signBit self then -1 else 0) * 256 ^ self.content.length + (bigEndian self.content : Int) =
      twosComplement self.content := by
  have nonempty : self.content ≠ [] := by
    rwa [← List.length_pos_iff, Asn1PrimitiveValue.length_content, Nat.pos_iff_ne_zero]
  rw [signBit_eq present]
  obtain ⟨first, rest, octets⟩ := List.exists_cons_of_ne_nil nonempty
  have negative : (first &&& 0x80 != 0) = true ↔ 128 ≤ first.toNat := by
    rw [bne_iff_ne, topBit_not_clear]
  rw [octets, List.headD_cons, ← signed_eq]
  simp only [negative]

theorem toInt64_eq (present : self.size ≠ 0) :
    toInt64 self = Int64.ofInt (twosComplement self.content) := by
  have start : (if signBit self then (-1 : Int64) else 0) =
      Int64.ofInt (if signBit self then -1 else 0) := by
    split <;> rfl
  apply Int64.toBitVec_inj.mp
  rw [toInt64, start, Int64.toBitVec_ofInt, ← sign_content present, ← foldl_shiftOr,
    ← Int64.toBitVec_ofInt]
  symm
  apply List.foldl_hom Int64.toBitVec
  intro value octet
  rw [Int64.toBitVec_or, Int64.toBitVec_shiftLeft, ofNat_octet]
  rfl

theorem toInt32_eq (present : self.size ≠ 0) :
    toInt32 self = Int32.ofInt (twosComplement self.content) := by
  have start : (if signBit self then (-1 : Int32) else 0) =
      Int32.ofInt (if signBit self then -1 else 0) := by
    split <;> rfl
  apply Int32.toBitVec_inj.mp
  rw [toInt32, start, Int32.toBitVec_ofInt, ← sign_content present, ← foldl_shiftOr,
    ← Int32.toBitVec_ofInt]
  symm
  apply List.foldl_hom Int32.toBitVec
  intro value octet
  rw [Int32.toBitVec_or, Int32.toBitVec_shiftLeft, ofNat_octet]
  rfl

end Reading

/-! ## Storing -/

/-- A setter keeps the number that it is given, or the value as it was. -/
structure KeepsNumber (number : Int) (before : Asn1PrimitiveValue)
    (result : Bool × Asn1PrimitiveValue) : Prop where
  minimal : result.1 = true → Shortest result.2.content number
  asInt64 : result.1 = true → (toInt64 result.2).toInt = number
  asInt32 : result.1 = true → -2 ^ 31 ≤ number → number < 2 ^ 31 →
    (toInt32 result.2).toInt = number
  asUint32 : result.1 = true → 0 ≤ number → number < 2 ^ 32 →
    ((toUint32 result.2).toNat : Int) = number
  unchanged : result.1 = false → result.2 = before
  rejects : result.1 = false ↔ ∃ octets, Shortest octets number ∧ before.maxSize < octets.length

section Storing

variable {self : Asn1PrimitiveValue} {number : Int} {octets : List UInt8}

/-- The shortest encoding of a number, when it fits, is read as the number. -/
theorem keepsNumber_stored (shortest : Shortest octets number)
    (fits : octets.length ≤ self.maxSize) (lower : -2 ^ 63 ≤ number) (upper : number < 2 ^ 63) :
    KeepsNumber number self (true, self.setOctets octets fits) := by
  have present : (self.setOctets octets fits).size ≠ 0 :=
    Nat.ne_of_gt (List.length_pos_iff.mpr shortest.nonempty)
  have content : (self.setOctets octets fits).content = octets :=
    Asn1PrimitiveValue.content_setOctets self octets fits
  refine ⟨fun _ => ?_, fun _ => ?_, fun _ lower32 upper32 => ?_, fun _ natural upper32 => ?_,
    fun rejected => ?_, fun rejected => ?_, fun exceeding => ?_⟩
  · rw [content]
    exact shortest
  · rw [toInt64_eq present, content, shortest.value, Int64.toInt_ofInt_of_le lower upper]
  · rw [toInt32_eq present, content, shortest.value, Int32.toInt_ofInt_of_le lower32 upper32]
  · have plain := bigEndian_eq shortest.nonempty (by rwa [shortest.value])
    rw [shortest.value] at plain
    rw [toUint32_eq, content, UInt32.toNat_ofNat', Nat.mod_eq_of_lt (by omega)]
    exact plain
  · contradiction
  · contradiction
  · obtain ⟨other, shortestOther, exceeds⟩ := exceeding
    have least := shortestOther.least octets shortest.nonempty shortest.value
    omega

/-- A number whose shortest encoding does not fit is not stored. -/
theorem keepsNumber_rejected (shortest : Shortest octets number)
    (exceeds : self.maxSize < octets.length) : KeepsNumber number self (false, self) := by
  refine ⟨?_, ?_, ?_, ?_, fun _ => rfl, fun _ => ⟨octets, shortest, exceeds⟩, fun _ => rfl⟩ <;>
    exact fun returned => absurd returned Bool.false_ne_true

/-- A setter keeps the number that its buffer is in two's complement. -/
theorem keepsNumber_setIntegerValue {valueBuffer : List UInt8} (nonempty : valueBuffer ≠ [])
    (value : twosComplement (revertByteOrder valueBuffer) = number)
    (lower : -2 ^ 63 ≤ number) (upper : number < 2 ^ 63) :
    KeepsNumber number self (setIntegerValue self valueBuffer) := by
  have shortest := (compresses (mt List.reverse_eq_nil_iff.mp nonempty)).shortest
  rw [← revertByteOrder, value] at shortest
  unfold setIntegerValue
  simp only
  split
  · exact keepsNumber_stored shortest _ lower upper
  · exact keepsNumber_rejected shortest (by omega)

end Storing

/-! ## The setters -/

/-- A number in the type of one of the setters. -/
inductive NativeValue where
  | int32 (value : Int32)
  | int64 (value : Int64)
  | uint8 (value : UInt8)
  | uint16 (value : UInt16)
  | uint32 (value : UInt32)

namespace NativeValue

/-- The number itself. -/
def number : NativeValue → Int
  | int32 value => value.toInt
  | int64 value => value.toInt
  | uint8 value => value.toNat
  | uint16 value => value.toNat
  | uint32 value => value.toNat

/-- Call the setter for the type of the number. -/
def set (self : Asn1PrimitiveValue) : NativeValue → Bool × Asn1PrimitiveValue
  | int32 value => setInt32 self value
  | int64 value => setInt64 self value
  | uint8 value => setUint8 self value
  | uint16 value => setUint16 self value
  | uint32 value => setUint32 self value

/-- The octets of the number begin with its sign, or nothing can be stored. -/
def Signed (capacity : Nat) : NativeValue → Prop
  | uint8 value => value.toNat < 0x80 ∨ capacity = 0
  | _ => True

end NativeValue

section Setters

variable {self : Asn1PrimitiveValue}

/-- The octets of an unsigned number are the number when a zero is put behind them. -/
theorem twosComplement_padded {count number : Nat} (small : number < 256 ^ count) :
    twosComplement (revertByteOrder (littleEndianOctets count number ++ [0])) = number := by
  rw [revertByteOrder, List.reverse_append, List.reverse_singleton, List.singleton_append,
    twosComplement_zero, bigEndian_reverse, littleEndian_littleEndianOctets,
    Nat.mod_eq_of_lt small]

theorem keepsNumber_setInt32 (value : Int32) :
    KeepsNumber value.toInt self (setInt32 self value) := by
  have lower := value.le_toInt
  have upper := value.toInt_lt
  apply keepsNumber_setIntegerValue
  · exact List.ne_nil_of_length_pos (by simp)
  · exact twosComplement_littleEndian value.toBitVec (by decide : 0 < 4) rfl
  · omega
  · omega

theorem keepsNumber_setInt64 (value : Int64) :
    KeepsNumber value.toInt self (setInt64 self value) := by
  apply keepsNumber_setIntegerValue
  · exact List.ne_nil_of_length_pos (by simp)
  · exact twosComplement_littleEndian value.toBitVec (by decide : 0 < 8) rfl
  · exact value.le_toInt
  · exact value.toInt_lt

theorem keepsNumber_setUint16 (value : UInt16) :
    KeepsNumber value.toNat self (setUint16 self value) := by
  have small := value.toNat_lt
  apply keepsNumber_setIntegerValue
  · exact List.append_ne_nil_of_right_ne_nil _ (List.cons_ne_nil _ _)
  · exact twosComplement_padded small
  · omega
  · omega

theorem keepsNumber_setUint32 (value : UInt32) :
    KeepsNumber value.toNat self (setUint32 self value) := by
  have small := value.toNat_lt
  apply keepsNumber_setIntegerValue
  · exact List.append_ne_nil_of_right_ne_nil _ (List.cons_ne_nil _ _)
  · exact twosComplement_padded small
  · omega
  · omega

/-- A lone octet is stored as a signed number. -/
theorem keepsNumber_signedOctet (value : UInt8) :
    KeepsNumber (signedOctet value) self (setUint8 self value) := by
  obtain ⟨lower, upper⟩ := signedOctet_bounds value
  apply keepsNumber_setIntegerValue
  · exact List.cons_ne_nil _ _
  · change twosComplement [UInt8.ofNat value.toNat] = signedOctet value
    rw [UInt8.ofNat_toNat]
    simp [twosComplement]
  · omega
  · omega

/-- A lone octet fits wherever an octet does. -/
theorem returns_setUint8 (value : UInt8) :
    (setUint8 self value).1 = decide (0 < self.maxSize) := by
  change (if fits : 1 ≤ self.maxSize then (true, self.setOctets [UInt8.ofNat value.toNat] fits)
    else (false, self)).1 = _
  split
  · rename_i fits
    exact (decide_eq_true fits).symm
  · rename_i full
    exact (decide_eq_false full).symm

/-- A number in the range of an octet is kept by its setter when its top bit is clear, and any is
if nothing can be stored. -/
theorem keepsNumber_setUint8_iff (value : UInt8) :
    KeepsNumber value.toNat self (setUint8 self value) ↔
      value.toNat < 0x80 ∨ self.maxSize = 0 := by
  constructor
  · intro kept
    by_contra failing
    obtain ⟨large, capacity⟩ := not_or.mp failing
    have returned : (setUint8 self value).1 = true := by
      rw [returns_setUint8]
      exact decide_eq_true (Nat.pos_of_ne_zero capacity)
    have same := (kept.asInt64 returned).symm.trans
      ((keepsNumber_signedOctet value).asInt64 returned)
    rw [signedOctet, if_pos (Nat.not_lt.mp large)] at same
    omega
  · rintro (clear | capacity)
    · have kept := @keepsNumber_signedOctet self value
      rwa [signedOctet, if_neg (Nat.not_le.mpr clear)] at kept
    · have rejected : (setUint8 self value).1 = false := by
        rw [returns_setUint8, capacity]
        rfl
      have result : setUint8 self value = (false, self) :=
        Prod.ext rejected ((keepsNumber_signedOctet value).unchanged rejected)
      have padded : revertByteOrder (littleEndianOctets 1 value.toNat ++ [0]) ≠ [] :=
        List.cons_ne_nil _ _
      have shortest := (compresses padded).shortest
      rw [twosComplement_padded value.toNat_lt] at shortest
      rw [result]
      apply keepsNumber_rejected shortest
      rw [capacity]
      exact List.length_pos_iff.mpr shortest.nonempty

/-- A setter keeps every number that begins with its sign, and no other if it can store one. -/
theorem keepsNumber_set_iff (value : NativeValue) :
    KeepsNumber value.number self (value.set self) ↔ value.Signed self.maxSize := by
  cases value with
  | int32 value => exact iff_of_true (keepsNumber_setInt32 value) trivial
  | int64 value => exact iff_of_true (keepsNumber_setInt64 value) trivial
  | uint8 value => exact keepsNumber_setUint8_iff value
  | uint16 value => exact iff_of_true (keepsNumber_setUint16 value) trivial
  | uint32 value => exact iff_of_true (keepsNumber_setUint32 value) trivial

/-- The octet 200 is stored as -56. -/
theorem setUint8_negative : ¬ KeepsNumber 200 createInt32 (setUint8 createInt32 200) := by
  intro kept
  have same := kept.asInt64 (by decide)
  revert same
  decide

example : (toInt64 (setUint16 createInt32 200).2).toInt = 200 := by decide

end Setters

/-! ## Creating -/

/-- A number is stored if one of its encodings fits. -/
theorem KeepsNumber.returned {number : Int} {before : Asn1PrimitiveValue}
    {result : Bool × Asn1PrimitiveValue} (kept : KeepsNumber number before result)
    (octets : List UInt8) (nonempty : octets ≠ []) (value : twosComplement octets = number)
    (fits : octets.length ≤ before.maxSize) : result.1 = true := by
  by_contra returned
  rw [Bool.not_eq_true, kept.rejects] at returned
  obtain ⟨shorter, shortest, exceeds⟩ := returned
  have least := shortest.least octets nonempty value
  omega

/-- The capacity of a new integer is enough for the number that it is created from. -/
theorem toInt64_createFromInt32 (value : Int32) :
    (toInt64 (createFromInt32 value)).toInt = value.toInt := by
  apply (keepsNumber_setInt32 value).asInt64
  apply (keepsNumber_setInt32 value).returned
    (revertByteOrder (littleEndianOctets 4 value.toBitVec.toNat))
  · exact List.ne_nil_of_length_pos (by simp [revertByteOrder])
  · exact twosComplement_littleEndian value.toBitVec (by decide : 0 < 4) rfl
  · simp [revertByteOrder, createInt32, Asn1PrimitiveValue.create]

theorem toInt64_createFromUint32 (value : UInt32) :
    (toInt64 (createFromUint32 value)).toInt = value.toNat := by
  apply (keepsNumber_setUint32 value).asInt64
  apply (keepsNumber_setUint32 value).returned
    (revertByteOrder (littleEndianOctets 4 value.toNat ++ [0]))
  · exact List.ne_nil_of_length_pos (by simp [revertByteOrder])
  · exact twosComplement_padded value.toNat_lt
  · simp [revertByteOrder, createInt32, Asn1PrimitiveValue.create]

theorem toInt64_createFromInt64 (value : Int64) : toInt64 (createFromInt64 value) = value := by
  apply Int64.toInt_inj.mp
  apply (keepsNumber_setInt64 value).asInt64
  apply (keepsNumber_setInt64 value).returned
    (revertByteOrder (littleEndianOctets 8 value.toBitVec.toNat))
  · exact List.ne_nil_of_length_pos (by simp [revertByteOrder])
  · exact twosComplement_littleEndian value.toBitVec (by decide : 0 < 8) rfl
  · simp [revertByteOrder, createInt64, Asn1PrimitiveValue.create]

end BerInteger

end GridGooseSV
