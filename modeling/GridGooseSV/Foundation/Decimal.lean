import Mathlib.Data.List.Basic
import Mathlib.Data.List.TakeWhile
import Mathlib.Tactic.Ring

/-!
# Decimal numbers in strings

A number as its decimal digits, and the reading of a number at the front of a string, as the
library of the language reads it.
-/

namespace GridGooseSV

/-- The characters of the decimal digits of a number. -/
def decimal (number : Nat) : List UInt8 :=
  (Nat.toDigits 10 number).map fun digit => UInt8.ofNat digit.toNat

/-- `isdigit`. -/
def isDigit (character : UInt8) : Bool := decide (0x30 ≤ character ∧ character ≤ 0x39)

/-- `isspace`. -/
def isSpace (character : UInt8) : Bool :=
  decide (character = 0x20 ∨ 0x09 ≤ character ∧ character ≤ 0x0d)

/-- The number that digits stand for. -/
def readDecimal (digits : List UInt8) : Nat :=
  digits.foldl (fun number digit => 10 * number + (digit.toNat - 0x30)) 0

/-- A value, if an `int` can have it. -/
def checkedInt (value : Int) : Option Int :=
  if -2147483648 ≤ value ∧ value ≤ 2147483647 then some value else none

theorem checkedInt_natCast {number : Nat} (small : number < 2 ^ 31) :
    checkedInt number = some (number : Int) := if_pos (by omega)

/-- `atoi`; `none` for a number that no `int` can have, where it is not defined. -/
def atoi (string : List UInt8) : Option Int :=
  match string.dropWhile isSpace with
  | 0x2d :: rest => checkedInt (-(readDecimal (rest.takeWhile isDigit) : Int))
  | 0x2b :: rest => checkedInt (readDecimal (rest.takeWhile isDigit))
  | rest => checkedInt (readDecimal (rest.takeWhile isDigit))

theorem toNat_ofDigit {digit : Char} (digits : digit.isDigit) :
    (UInt8.ofNat digit.toNat).toNat = digit.toNat ∧ 48 ≤ digit.toNat ∧ digit.toNat ≤ 57 := by
  simp only [Char.isDigit, Bool.and_eq_true, decide_eq_true_eq, UInt32.le_iff_toNat_le] at digits
  have small : digit.toNat ≤ 57 := digits.2
  have large : 48 ≤ digit.toNat := digits.1
  refine ⟨?_, large, small⟩
  rw [UInt8.toNat_ofNat']
  omega

theorem isDigit_of_mem_decimal {number : Nat} {character : UInt8}
    (member : character ∈ decimal number) : isDigit character = true := by
  obtain ⟨digit, among, rfl⟩ := List.mem_map.mp member
  obtain ⟨same, large, small⟩ :=
    toNat_ofDigit (Nat.isDigit_of_mem_toDigits (by decide) (by decide) among)
  rw [isDigit, decide_eq_true_eq, UInt8.le_iff_toNat_le, UInt8.le_iff_toNat_le, same]
  exact ⟨large, small⟩

theorem decimal_ne_nil (number : Nat) : decimal number ≠ [] :=
  fun none => Nat.toDigits_ne_nil (List.map_eq_nil_iff.mp none)

/-- The digits of a number stand for it. -/
theorem readDecimal_decimal (number : Nat) : readDecimal (decimal number) = number := by
  have digits : ∀ digit ∈ Nat.toDigits 10 number, digit.isDigit :=
    fun digit member => Nat.isDigit_of_mem_toDigits (by decide) (by decide) member
  have read := @Nat.ofDigitChars_ten_toDigits number
  rw [Nat.ofDigitChars_eq_foldl] at read
  rw [readDecimal, decimal, List.foldl_map]
  refine Eq.trans ?_ read
  apply List.foldl_ext
  intro sofar digit member
  rw [(toNat_ofDigit (digits digit member)).1]
  rfl

theorem isSpace_of_isDigit {character : UInt8} (digit : isDigit character = true) :
    isSpace character = false ∧ character ≠ 0x2d ∧ character ≠ 0x2b := by
  simp only [isDigit, decide_eq_true_eq, UInt8.le_iff_toNat_le] at digit
  simp only [isSpace, decide_eq_false_iff_not, ← UInt8.toNat_inj, UInt8.le_iff_toNat_le, ne_eq]
  simp only [UInt8.reduceToNat] at digit ⊢
  omega

/-- A number is read up to the first character that is no digit. -/
theorem atoi_decimal {number : Nat} (small : number < 2 ^ 31) {rest : List UInt8}
    (ends : ∀ character ∈ rest.head?, isDigit character = false) :
    atoi (decimal number ++ rest) = some (number : Int) := by
  have taken : (decimal number ++ rest).takeWhile isDigit = decimal number := by
    rw [List.takeWhile_append_of_pos fun character member => isDigit_of_mem_decimal member]
    cases rest with
    | nil => rw [List.takeWhile_nil, List.append_nil]
    | cons character rest =>
        have other : ¬ isDigit character = true := by
          rw [ends character rfl]
          exact Bool.false_ne_true
        rw [List.takeWhile_cons_of_neg other, List.append_nil]
  cases split : decimal number with
  | nil => exact absurd split (decimal_ne_nil number)
  | cons first others =>
      have digit : isDigit first = true :=
        @isDigit_of_mem_decimal number first (split ▸ List.mem_cons_self)
      obtain ⟨space, minus, plus⟩ := isSpace_of_isDigit digit
      rw [split] at taken
      have stays : (first :: others ++ rest).dropWhile isSpace = first :: others ++ rest := by
        rw [List.cons_append, List.dropWhile_cons_of_neg (by rw [space]; exact Bool.false_ne_true)]
      have read : readDecimal (first :: others) = number := split ▸ readDecimal_decimal number
      unfold atoi
      rw [stays]
      simp only [List.cons_append] at taken ⊢
      split
      · simp_all
      · simp_all
      · rw [taken, read, checkedInt_natCast small]

end GridGooseSV
