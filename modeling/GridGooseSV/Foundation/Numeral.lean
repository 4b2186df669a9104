import Mathlib.Data.List.Basic
import Mathlib.Tactic.Ring

/-!
# Octet strings as numbers

Base-256 numerals in both byte orders, and the two conversions between the
binary interchange formats of 32 and 64 bits.
-/

namespace GridGooseSV

/-- A string of exactly `count` octets. -/
abbrev Octets (count : Nat) := { octets : List UInt8 // octets.length = count }

/-- The number whose base-256 digits are the octets, most significant first. -/
def bigEndian (octets : List UInt8) : Nat :=
  octets.foldl (fun number octet => number * 256 + octet.toNat) 0

/-- The number whose base-256 digits are the octets, least significant first. -/
def littleEndian : List UInt8 → Nat
  | [] => 0
  | octet :: rest => octet.toNat + 256 * littleEndian rest

/-- The low `count` base-256 digits, least significant first. -/
def littleEndianOctets : Nat → Nat → List UInt8
  | 0, _ => []
  | count + 1, number => UInt8.ofNat number :: littleEndianOctets count (number / 256)

@[simp] theorem length_littleEndianOctets (count number : Nat) :
    (littleEndianOctets count number).length = count := by
  induction count generalizing number with
  | zero => rfl
  | succ count ih => simp [littleEndianOctets, ih]

theorem littleEndian_littleEndianOctets (count number : Nat) :
    littleEndian (littleEndianOctets count number) = number % 256 ^ count := by
  induction count generalizing number with
  | zero => simp [littleEndianOctets, littleEndian, Nat.mod_one]
  | succ count ih =>
      have digits : number % 256 ^ (count + 1) =
          number % 256 + 256 * (number / 256 % 256 ^ count) := by
        rw [Nat.pow_succ', Nat.mod_mul]
      rw [littleEndianOctets, littleEndian, ih, digits, UInt8.toNat_ofNat']

theorem foldl_bigEndian (octets : List UInt8) (number : Nat) :
    octets.foldl (fun number octet => number * 256 + octet.toNat) number =
      number * 256 ^ octets.length + bigEndian octets := by
  induction octets generalizing number with
  | nil => simp [bigEndian]
  | cons octet rest ih =>
      have tail := ih (0 * 256 + octet.toNat)
      rw [bigEndian, List.foldl_cons, List.foldl_cons, ih, tail, List.length_cons]
      ring

@[simp] theorem bigEndian_nil : bigEndian [] = 0 := rfl

theorem bigEndian_cons (octet : UInt8) (rest : List UInt8) :
    bigEndian (octet :: rest) = octet.toNat * 256 ^ rest.length + bigEndian rest := by
  rw [bigEndian, List.foldl_cons, foldl_bigEndian, Nat.zero_mul, Nat.zero_add]

theorem bigEndian_append (first second : List UInt8) :
    bigEndian (first ++ second) = bigEndian first * 256 ^ second.length + bigEndian second := by
  rw [bigEndian, List.foldl_append, foldl_bigEndian, ← bigEndian]

/-- Reversing the digits changes the byte order. -/
theorem bigEndian_reverse (octets : List UInt8) :
    bigEndian octets.reverse = littleEndian octets := by
  induction octets with
  | nil => rfl
  | cons octet rest ih =>
      rw [List.reverse_cons, bigEndian_append, ih, littleEndian, bigEndian_cons]
      simp
      ring

theorem bigEndian_lt (octets : List UInt8) : bigEndian octets < 256 ^ octets.length := by
  induction octets with
  | nil => exact Nat.one_pos
  | cons octet rest ih =>
      rw [bigEndian_cons, List.length_cons, Nat.pow_succ']
      have small := octet.toNat_lt
      have scaled : octet.toNat * 256 ^ rest.length ≤ 255 * 256 ^ rest.length :=
        Nat.mul_le_mul_right _ (by omega)
      omega

/-- Strings of one length are told apart by their numbers. -/
theorem bigEndian_inj {first second : List UInt8} (lengths : first.length = second.length)
    (numbers : bigEndian first = bigEndian second) : first = second := by
  induction first generalizing second with
  | nil => exact (List.length_eq_zero_iff.mp lengths.symm).symm
  | cons octet rest ih =>
      obtain ⟨other, others, rfl⟩ := List.exists_cons_of_length_eq_add_one lengths.symm
      rw [List.length_cons, List.length_cons, Nat.add_right_cancel_iff] at lengths
      rw [bigEndian_cons, bigEndian_cons, ← lengths] at numbers
      have low := bigEndian_lt rest
      have lowOther := bigEndian_lt others
      rw [← lengths] at lowOther
      have positive : 0 < 256 ^ rest.length := Nat.pow_pos (by decide)
      have high : octet.toNat = other.toNat := by
        have divided := congrArg (· / 256 ^ rest.length) numbers
        simpa only [Nat.mul_comm _ (256 ^ rest.length), Nat.mul_add_div positive,
          Nat.div_eq_of_lt low, Nat.div_eq_of_lt lowOther, Nat.add_zero] using divided
      rw [high, Nat.add_left_cancel_iff] at numbers
      rw [UInt8.toNat_inj.mp high, ih lengths numbers]

/-! ## The top bit of an octet -/

theorem forall_octet {property : UInt8 → Prop}
    (each : ∀ number < 256, property (UInt8.ofNat number)) (octet : UInt8) : property octet := by
  have found := each octet.toNat octet.toNat_lt
  rwa [UInt8.ofNat_toNat] at found

theorem topBit_set (octet : UInt8) : octet &&& 0x80 = 0x80 ↔ 128 ≤ octet.toNat := by
  revert octet
  exact forall_octet (by decide +kernel)

theorem topBit_clear (octet : UInt8) : octet &&& 0x80 = 0 ↔ octet.toNat < 128 := by
  revert octet
  exact forall_octet (by decide +kernel)

theorem topBit_not_clear (octet : UInt8) : octet &&& 0x80 ≠ 0 ↔ 128 ≤ octet.toNat := by
  rw [ne_eq, topBit_clear, Nat.not_lt]

/-- The bits below the top bit. -/
theorem toNat_lowBits (octet : UInt8) : (octet &&& 0x7f).toNat = octet.toNat % 128 := by
  revert octet
  exact forall_octet (by decide +kernel)

/-! ## Numbers of a header -/

/-- Two octets of a header as a `uint16_t`. -/
def uint16Of (high low : UInt8) : UInt16 := high.toUInt16 * 0x100 + low.toUInt16

/-- The high octet of a `uint16_t`. -/
def highOctet (value : UInt16) : UInt8 := UInt8.ofNat (value.toNat / 256)

/-- The low octet of a `uint16_t`. -/
def lowOctet (value : UInt16) : UInt8 := UInt8.ofNat (value.toNat % 256)

theorem toNat_uint16Of (high low : UInt8) :
    (uint16Of high low).toNat = high.toNat * 256 + low.toNat := by
  have small := high.toNat_lt
  have smallLow := low.toNat_lt
  simp only [uint16Of, UInt16.toNat_add, UInt16.toNat_mul, UInt8.toNat_toUInt16,
    UInt16.reduceToNat]
  omega

theorem uint16Of_eq (high low : UInt8) :
    uint16Of high low = UInt16.ofNat (bigEndian [high, low]) := by
  apply UInt16.toNat_inj.mp
  have small := high.toNat_lt
  have smallLow := low.toNat_lt
  rw [toNat_uint16Of, UInt16.toNat_ofNat', bigEndian, List.foldl_cons, List.foldl_cons,
    List.foldl_nil]
  omega

theorem uint16Of_octets (value : UInt16) :
    uint16Of (highOctet value) (lowOctet value) = value := by
  apply UInt16.toNat_inj.mp
  have small := value.toNat_lt
  rw [toNat_uint16Of, highOctet, lowOctet, UInt8.toNat_ofNat', UInt8.toNat_ofNat']
  omega

namespace Ieee754

/-- The quotient by a power of two, rounded to nearest with ties to even. -/
def roundShift (number shift : Nat) : Nat :=
  let quotient := number / 2 ^ shift
  let twice := 2 * (number % 2 ^ shift)
  if 2 ^ shift < twice ∨ (twice = 2 ^ shift ∧ quotient % 2 = 1) then quotient + 1 else quotient

/-- Convert the bits of a binary64 to the bits of the nearest binary32. -/
def narrow (bits : Nat) : Nat :=
  let sign := bits / 2 ^ 63 % 2 * 2 ^ 31
  let exponent := bits / 2 ^ 52 % 2 ^ 11
  let fraction := bits % 2 ^ 52
  if exponent = 2047 then
    if fraction = 0 then sign + 255 * 2 ^ 23
    else sign + 255 * 2 ^ 23 + 2 ^ 22 + fraction / 2 ^ 29 % 2 ^ 22
  else if 897 ≤ exponent then
    sign + min (255 * 2 ^ 23) ((exponent - 897) * 2 ^ 23 + roundShift (2 ^ 52 + fraction) 29)
  else if exponent = 0 then sign
  else sign + roundShift (2 ^ 52 + fraction) (926 - exponent)

/-- Convert the bits of a binary32 to the bits of the equal binary64. -/
def widen (bits : Nat) : Nat :=
  let sign := bits / 2 ^ 31 % 2 * 2 ^ 63
  let exponent := bits / 2 ^ 23 % 2 ^ 8
  let fraction := bits % 2 ^ 23
  if exponent = 255 then
    if fraction = 0 then sign + 2047 * 2 ^ 52
    else sign + 2047 * 2 ^ 52 + 2 ^ 51 + fraction % 2 ^ 22 * 2 ^ 29
  else if exponent = 0 then
    if fraction = 0 then sign
    else
      let top := Nat.log2 fraction
      sign + (top + 874) * 2 ^ 52 + (fraction - 2 ^ top) * 2 ^ (52 - top)
  else sign + (exponent + 896) * 2 ^ 52 + fraction * 2 ^ 29

end Ieee754

end GridGooseSV
