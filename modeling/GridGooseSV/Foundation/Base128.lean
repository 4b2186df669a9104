import Mathlib.Data.List.Basic
import Mathlib.Tactic.Ring

/-!
# Groups of seven bits

A number as octets with seven bits each, the highest first. The top bit of an octet marks that
another one follows.
-/

namespace GridGooseSV

/-- The group at a place, marked unless it is the last. -/
def septet (number place : Nat) : UInt8 :=
  UInt8.ofNat (number / 128 ^ place % 128 + if place = 0 then 0 else 128)

/-- So many groups of a number. -/
def septets (number : Nat) : Nat → List UInt8
  | 0 => []
  | place + 1 => septet number place :: septets number place

/-- How many groups a number needs. -/
def septetCount (number : Nat) : Nat :=
  if number = 0 then 0 else septetCount (number / 128) + 1
termination_by number
decreasing_by exact Nat.div_lt_self (Nat.pos_of_ne_zero ‹_›) (by decide)

theorem length_septets (number count : Nat) : (septets number count).length = count := by
  induction count with
  | zero => rfl
  | succ count ih => rw [septets, List.length_cons, ih]

theorem toNat_septet (number place : Nat) :
    (septet number place).toNat = number / 128 ^ place % 128 + if place = 0 then 0 else 128 := by
  have small := Nat.mod_lt (number / 128 ^ place) (show 128 > 0 by decide)
  rw [septet, UInt8.toNat_ofNat', Nat.mod_eq_of_lt]
  split <;> omega

/-- The last group is told by its top bit. -/
theorem septet_lt_iff (number place : Nat) : (septet number place).toNat < 128 ↔ place = 0 := by
  have small := Nat.mod_lt (number / 128 ^ place) (show 128 > 0 by decide)
  rw [toNat_septet]
  split <;> omega

theorem septet_mod (number place : Nat) :
    (septet number place).toNat % 128 = number / 128 ^ place % 128 := by
  rw [toNat_septet]
  split <;> omega

/-- Groups are enough for a number. -/
theorem lt_pow_septetCount (number : Nat) : number < 128 ^ septetCount number := by
  induction number using septetCount.induct with
  | case1 => exact Nat.pow_pos (by decide)
  | case2 number some ih =>
      rw [septetCount, if_neg some, Nat.pow_succ]
      omega

theorem septetCount_pos {number : Nat} (some : number ≠ 0) : 0 < septetCount number := by
  rw [septetCount, if_neg some]
  exact Nat.succ_pos _

/-- A number is read from groups, behind what was read before; `none` when they do not end. -/
def readSeptets (number : Nat) : List UInt8 → Option (Nat × List UInt8)
  | [] => none
  | octet :: rest =>
    let number := number * 128 + octet.toNat % 128
    if octet.toNat < 128 then some (number, rest) else readSeptets number rest

/-- What the groups of a number are read as. -/
theorem readSeptets_septets (before number : Nat) {count : Nat} (positive : 0 < count)
    (rest : List UInt8) :
    readSeptets before (septets number count ++ rest) =
      some (before * 128 ^ count + number % 128 ^ count, rest) := by
  induction count generalizing before with
  | zero => contradiction
  | succ place ih =>
      rw [septets, List.cons_append, readSeptets, septet_mod]
      by_cases last : place = 0
      · subst last
        rw [if_pos ((septet_lt_iff number 0).mpr rfl)]
        simp [septets]
      · rw [if_neg fun small => last ((septet_lt_iff number place).mp small),
          ih _ (Nat.pos_of_ne_zero last)]
        have split : number % 128 ^ (place + 1) =
            number / 128 ^ place % 128 * 128 ^ place + number % 128 ^ place := by
          rw [Nat.pow_succ, Nat.mod_mul, Nat.add_comm, Nat.mul_comm]
        rw [split, Nat.add_mul, Nat.pow_succ, Nat.add_assoc, Nat.mul_assoc, Nat.mul_comm 128]

end GridGooseSV
