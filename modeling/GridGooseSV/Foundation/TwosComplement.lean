import GridGooseSV.Foundation.Numeral
import Mathlib.Tactic.Linarith

/-!
# Octet strings as signed numbers

Numbers in two's complement, most significant octet first. An encoding whose first octet only
repeats the sign of the second can do without it; any other is as short as can be.
-/

namespace GridGooseSV

/-- An octet as a signed number. -/
def signedOctet (octet : UInt8) : Int :=
  if 128 ≤ octet.toNat then (octet.toNat : Int) - 256 else octet.toNat

/-- The number that octets are in two's complement; without octets it is zero. -/
def twosComplement : List UInt8 → Int
  | [] => 0
  | first :: rest => signedOctet first * 256 ^ rest.length + bigEndian rest

theorem signedOctet_bounds (octet : UInt8) :
    -128 ≤ signedOctet octet ∧ signedOctet octet ≤ 127 := by
  have small := octet.toNat_lt
  unfold signedOctet
  split <;> omega

/-- A nonempty string of octets counts from minus half of its capacity up to half of it. -/
theorem twosComplement_bounds {octets : List UInt8} (nonempty : octets ≠ []) :
    -(256 ^ octets.length : Int) ≤ 2 * twosComplement octets ∧
      2 * twosComplement octets < 256 ^ octets.length := by
  obtain ⟨first, rest, rfl⟩ := List.exists_cons_of_ne_nil nonempty
  obtain ⟨lower, upper⟩ := signedOctet_bounds first
  have small : (bigEndian rest : Int) < 256 ^ rest.length := by
    exact_mod_cast bigEndian_lt rest
  have least : (0 : Int) ≤ bigEndian rest := Int.natCast_nonneg _
  have positive : (0 : Int) < 256 ^ rest.length := by positivity
  rw [twosComplement, List.length_cons, pow_succ]
  constructor <;> nlinarith

/-- The first octet repeats the sign of the second. -/
def Redundant : List UInt8 → Prop
  | first :: second :: _ =>
    (first.toNat = 0 ∧ second.toNat < 128) ∨ (first.toNat = 255 ∧ 128 ≤ second.toNat)
  | _ => False

instance : (octets : List UInt8) → Decidable (Redundant octets)
  | [] => inferInstanceAs (Decidable False)
  | [_] => inferInstanceAs (Decidable False)
  | _ :: _ :: _ => inferInstanceAs (Decidable (_ ∨ _))

/-- A repeated sign does not count. -/
theorem twosComplement_redundant {first : UInt8} {rest : List UInt8}
    (redundant : Redundant (first :: rest)) :
    twosComplement (first :: rest) = twosComplement rest := by
  cases rest with
  | nil => exact redundant.elim
  | cons second rest =>
      have small := second.toNat_lt
      rw [twosComplement, twosComplement, bigEndian_cons, List.length_cons, pow_succ]
      push_cast
      rcases redundant with ⟨zero, clear⟩ | ⟨ones, set⟩
      · rw [signedOctet, signedOctet, if_neg (by omega), if_neg (by omega), zero]
        ring
      · rw [signedOctet, signedOctet, if_pos (by omega), if_pos set, ones]
        ring

/-- Octets without a repeated sign are out of the range of fewer octets. -/
theorem twosComplement_outside {first second : UInt8} {rest : List UInt8}
    (needed : ¬ Redundant (first :: second :: rest)) :
    2 * twosComplement (first :: second :: rest) < -(256 ^ (rest.length + 1) : Int) ∨
      (256 ^ (rest.length + 1) : Int) ≤ 2 * twosComplement (first :: second :: rest) := by
  have smallFirst := first.toNat_lt
  have smallSecond := second.toNat_lt
  have small : (bigEndian rest : Int) < 256 ^ rest.length := by
    exact_mod_cast bigEndian_lt rest
  have least : (0 : Int) ≤ bigEndian rest := Int.natCast_nonneg _
  have positive : (0 : Int) < 256 ^ rest.length := by positivity
  have number : twosComplement (first :: second :: rest) =
      (signedOctet first * 256 + second.toNat) * 256 ^ rest.length + bigEndian rest := by
    rw [twosComplement, bigEndian_cons, List.length_cons, pow_succ]
    push_cast
    ring
  rw [number, pow_succ]
  simp only [Redundant, not_or, not_and] at needed
  by_cases negative : 128 ≤ first.toNat
  · left
    have leading : signedOctet first * 256 + second.toNat ≤ -129 := by
      rw [signedOctet, if_pos negative]
      omega
    nlinarith
  · right
    have leading : 128 ≤ signedOctet first * 256 + second.toNat := by
      rw [signedOctet, if_neg negative]
      omega
    nlinarith

/-- Octets are the shortest encoding of a number. -/
structure Shortest (octets : List UInt8) (number : Int) : Prop where
  nonempty : octets ≠ []
  value : twosComplement octets = number
  least : ∀ other, other ≠ [] → twosComplement other = number → octets.length ≤ other.length

/-- An encoding without a repeated sign is the shortest. -/
theorem shortest_of_needed {octets : List UInt8} (nonempty : octets ≠ [])
    (needed : ¬ Redundant octets) : Shortest octets (twosComplement octets) := by
  refine ⟨nonempty, rfl, fun other nonemptyOther same => ?_⟩
  obtain ⟨first, rest, rfl⟩ := List.exists_cons_of_ne_nil nonempty
  have positive := List.length_pos_iff.mpr nonemptyOther
  cases rest with
  | nil => exact positive
  | cons second rest =>
      by_contra shorter
      obtain ⟨lower, upper⟩ := twosComplement_bounds nonemptyOther
      have outside := twosComplement_outside needed
      have fewer : (256 ^ other.length : Int) ≤ 256 ^ (rest.length + 1) := by
        apply pow_le_pow_right₀ (by norm_num)
        rw [List.length_cons, List.length_cons] at shorter
        omega
      rw [same] at lower upper
      omega

/-! ## Machine integers -/

/-- The top bit of the octets decides between the two readings of their number. -/
theorem twosComplement_eq {octets : List UInt8} (nonempty : octets ≠ []) :
    twosComplement octets =
      if 2 * bigEndian octets < 256 ^ octets.length then (bigEndian octets : Int)
      else bigEndian octets - 256 ^ octets.length := by
  obtain ⟨first, rest, rfl⟩ := List.exists_cons_of_ne_nil nonempty
  have small := bigEndian_lt rest
  rw [twosComplement, bigEndian_cons, List.length_cons, pow_succ, pow_succ, signedOctet]
  by_cases negative : 128 ≤ first.toNat
  · have reached : 128 * 256 ^ rest.length ≤ first.toNat * 256 ^ rest.length :=
      Nat.mul_le_mul_right _ negative
    rw [if_pos negative, if_neg (by omega)]
    push_cast
    ring
  · have below : (first.toNat + 1) * 256 ^ rest.length ≤ 128 * 256 ^ rest.length :=
      Nat.mul_le_mul_right _ (by omega)
    rw [Nat.succ_mul] at below
    rw [if_neg negative, if_pos (by omega)]
    push_cast
    ring

/-- A number in two's complement is the signed value of its bits. -/
theorem twosComplement_eq_toInt {octets : List UInt8} {width : Nat} (bits : BitVec width)
    (nonempty : octets ≠ []) (size : width = 8 * octets.length)
    (number : bigEndian octets = bits.toNat) : twosComplement octets = bits.toInt := by
  have capacity : 2 ^ width = 256 ^ octets.length := by
    rw [size, pow_mul]
    rfl
  rw [twosComplement_eq nonempty, BitVec.toInt_eq_toNat_cond, number, capacity]
  push_cast
  rfl

/-- A number that is not negative is the plain number of its octets. -/
theorem bigEndian_eq {octets : List UInt8} (nonempty : octets ≠ [])
    (natural : 0 ≤ twosComplement octets) : (bigEndian octets : Int) = twosComplement octets := by
  have small : (bigEndian octets : Int) < 256 ^ octets.length := by
    exact_mod_cast bigEndian_lt octets
  rw [twosComplement_eq nonempty] at natural ⊢
  split
  · rfl
  · rename_i large
    rw [if_neg large] at natural
    omega

/-- A zero in front keeps a number from being negative. -/
theorem twosComplement_zero (rest : List UInt8) : twosComplement (0 :: rest) = bigEndian rest := by
  rw [twosComplement, signedOctet, if_neg (by decide)]
  simp

section Reading

variable {width : Nat}

/-- Octets are shifted in from the right. -/
theorem foldl_shiftIn (octets : List UInt8) (number : Int) :
    octets.foldl (fun (value : BitVec width) (octet : UInt8) =>
        (value <<< 8) + BitVec.ofNat width octet.toNat) (BitVec.ofInt width number) =
      BitVec.ofInt width (number * 256 ^ octets.length + bigEndian octets) := by
  induction octets generalizing number with
  | nil => simp
  | cons octet rest ih =>
      have shifted : (BitVec.ofInt width number <<< 8) + BitVec.ofNat width octet.toNat =
          BitVec.ofInt width (number * 256 + octet.toNat) := by
        rw [BitVec.ofInt_add, BitVec.ofInt_mul, BitVec.ofInt_natCast]
        congr 1
        apply BitVec.eq_of_toNat_eq
        simp [Nat.shiftLeft_eq]
      rw [List.foldl_cons, shifted, ih, bigEndian_cons, List.length_cons, pow_succ]
      congr 1
      push_cast
      ring

/-- An octet fills the bits that a shift has cleared. -/
theorem shiftLeft_or (value : BitVec width) (octet : UInt8) :
    (value <<< 8) ||| BitVec.ofNat width octet.toNat =
      (value <<< 8) + BitVec.ofNat width octet.toNat := by
  have apart : (value <<< 8) &&& BitVec.ofNat width octet.toNat = (0 : BitVec width) := by
    ext index bound
    by_cases low : index < 8
    · simp [low]
    · have high : octet.toNat < 2 ^ index :=
        Nat.lt_of_lt_of_le octet.toNat_lt (Nat.pow_le_pow_right (by decide) (by omega))
      have clear : (BitVec.ofNat width octet.toNat)[index] = false := by
        rw [BitVec.getElem_eq_testBit_toNat, BitVec.toNat_ofNat, Nat.testBit_mod_two_pow,
          Nat.testBit_lt_two_pow high, Bool.and_false]
      simp [clear]
  exact (BitVec.add_eq_or_of_and_eq_zero _ _ apart).symm

theorem ofNat_octet (octet : UInt8) :
    BitVec.ofNat width octet.toNat = octet.toBitVec.setWidth width := by
  apply BitVec.eq_of_toNat_eq
  simp

/-- Octets that fill the cleared bits are shifted in as well. -/
theorem foldl_shiftOr (octets : List UInt8) (number : Int) :
    octets.foldl (fun (value : BitVec width) (octet : UInt8) =>
        (value <<< 8) ||| BitVec.ofNat width octet.toNat) (BitVec.ofInt width number) =
      BitVec.ofInt width (number * 256 ^ octets.length + bigEndian octets) := by
  simp only [shiftLeft_or]
  exact foldl_shiftIn octets number

/-- The sign in front makes octets the number that they are in two's complement. -/
theorem signed_eq {first : UInt8} (rest : List UInt8) :
    (if 128 ≤ first.toNat then -1 else 0) * 256 ^ (first :: rest).length +
      (bigEndian (first :: rest) : Int) = twosComplement (first :: rest) := by
  rw [twosComplement, bigEndian_cons, List.length_cons, signedOctet, pow_succ]
  split <;> push_cast <;> ring

end Reading

end GridGooseSV
