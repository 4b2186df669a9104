import GridGooseSV.Mms.Value

/-!
# Reading integers

After the readers of `ber_integer.cc`. The signed ones take the sign from the first stored octet,
also when none of the stored octets belongs to the number.
-/

namespace GridGooseSV.BerInteger

/-- `buf[0] & 0x80`. -/
def signBit (self : Asn1PrimitiveValue) : Bool := self.octets.headD 0 &&& 0x80 != 0

/-- `BerInteger_toInt32`. -/
def toInt32 (self : Asn1PrimitiveValue) : Int32 :=
  self.content.foldl (fun nativeValue octet => (nativeValue <<< 8) ||| octet.toUInt32.toInt32)
    (if signBit self then -1 else 0)

/-- `BerInteger_toUint32`. -/
def toUint32 (self : Asn1PrimitiveValue) : UInt32 :=
  self.content.foldl (fun nativeValue octet => (nativeValue <<< 8) ||| octet.toUInt32) 0

/-- `BerInteger_toInt64`. -/
def toInt64 (self : Asn1PrimitiveValue) : Int64 :=
  self.content.foldl (fun nativeValue octet => (nativeValue <<< 8) ||| octet.toUInt64.toInt64)
    (if signBit self then -1 else 0)

section Content

variable {first second : Asn1PrimitiveValue}

theorem toUint32_congr (same : first.content = second.content) :
    toUint32 first = toUint32 second := by
  rw [toUint32, toUint32, same]

/-- Numbers of the same octets, with the same sign if there are none. -/
theorem toInt64_congr (same : first.content = second.content)
    (sign : signBit first = signBit second) : toInt64 first = toInt64 second := by
  rw [toInt64, toInt64, same, sign]

/-- The sign of a number with octets is the sign of its first octet. -/
theorem signBit_eq {self : Asn1PrimitiveValue} (present : self.size ≠ 0) :
    signBit self = (self.content.headD 0 &&& 0x80 != 0) := by
  unfold signBit Asn1PrimitiveValue.content
  cases self.octets with
  | nil => rw [List.take_nil]
  | cons octet rest =>
      obtain ⟨size, positive⟩ := Nat.exists_eq_succ_of_ne_zero present
      rw [positive, List.take_succ_cons, List.headD_cons, List.headD_cons]

/-- Without octets, a number is its sign alone. -/
theorem toInt64_of_empty {self : Asn1PrimitiveValue} (empty : self.size = 0) :
    toInt64 self = if signBit self then -1 else 0 := by
  rw [toInt64, Asn1PrimitiveValue.content, empty, List.take_zero, List.foldl_nil]

end Content

end GridGooseSV.BerInteger
