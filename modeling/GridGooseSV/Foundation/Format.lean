import GridGooseSV.Foundation.Memory
import GridGooseSV.Foundation.Numeral

/-!
# The conversions of formatted output

What the `printf` family writes for a number: decimal and hexadecimal digits, and six decimals
of a binary32 rounded to nearest with ties to even.
-/

namespace GridGooseSV

namespace CString

/-- The octets of characters, up to a NUL. -/
def ofChars (chars : List Char) : CString :=
  ⟨cString (chars.map fun char => UInt8.ofNat char.toNat), zero_notMem_cString _⟩

/-- A string literal. -/
def ofString (literal : String) : CString := ofChars literal.toList

/-- The string that storage holds. -/
def ofStorage (storage : List UInt8) : CString := ⟨cString storage, zero_notMem_cString storage⟩

theorem zero_notMem_append {first second : List UInt8} (absent : 0 ∉ first)
    (absentSecond : 0 ∉ second) : 0 ∉ first ++ second := by
  intro member
  rcases List.mem_append.mp member with inside | inside
  · exact absent inside
  · exact absentSecond inside

theorem zero_notMem_take (string : CString) (count : Nat) : 0 ∉ string.val.take count :=
  fun member => string.property (List.mem_of_mem_take member)

end CString

namespace Format

/-- `%u`. -/
def unsigned (number : Nat) : List Char := Nat.toDigits 10 number

/-- `%i` and `%lld`. -/
def signed (number : Int) : List Char :=
  if number < 0 then '-' :: Nat.toDigits 10 number.natAbs else Nat.toDigits 10 number.natAbs

/-- `%02x` of an octet. -/
def hexOctet (octet : UInt8) : List Char :=
  [Nat.digitChar (octet.toNat / 16), Nat.digitChar (octet.toNat % 16)]

/-- The last `count` decimal digits, with leading zeros. -/
def padded : (count number : Nat) → List Char
  | 0, _ => []
  | count + 1, number => padded count (number / 10) ++ [Nat.digitChar (number % 10)]

/-- `%f` of the bits of a binary32. -/
def fixed (bits : Nat) : List Char :=
  let sign := if bits / 2 ^ 31 % 2 = 1 then ['-'] else []
  let exponent := bits / 2 ^ 23 % 2 ^ 8
  let fraction := bits % 2 ^ 23
  if exponent = 255 then sign ++ if fraction = 0 then ['i', 'n', 'f'] else ['n', 'a', 'n']
  else
    -- The value is the significand times two to the power of `scale - 150`.
    let significand := if exponent = 0 then fraction else 2 ^ 23 + fraction
    let scale := max 1 exponent
    let millionths :=
      if 150 ≤ scale then significand * 10 ^ 6 * 2 ^ (scale - 150)
      else Ieee754.roundShift (significand * 10 ^ 6) (150 - scale)
    sign ++ unsigned (millionths / 10 ^ 6) ++ '.' :: padded 6 millionths

end Format

/-- An octet is written as two characters. -/
theorem length_hexOctet : ∀ octet < 256,
    (CString.ofChars (Format.hexOctet (UInt8.ofNat octet))).val.length = 2 := by
  decide +kernel

end GridGooseSV
