import GridGooseSV.Ber.Bounds
import GridGooseSV.Ber.Termination

/-!
# Elements of indefinite length

The content of an element of indefinite length is a sequence of elements that ends with two zero
octets. What the decoder measures for such an element is its content with these octets, whatever
is nested in it.
-/

namespace GridGooseSV.BerDecoder

/-! ## Encodings -/

/-- An identifier is one octet, or two if the low five bits of the first are set. -/
def identifierLength (tag : UInt8) : Nat := if tag &&& 0x1f = 0x1f then 2 else 1

/-- The length octets of a definite length: how many they are and the length. -/
inductive DefiniteLength (memory : Memory) (address : Nat) : (count length : Nat) → Prop
  | short : (memory address).toNat < 128 → DefiniteLength memory address 1 (memory address).toNat
  | long {count : Nat} : 0 < count → (memory address).toNat = 128 + count →
      DefiniteLength memory address (1 + count) (bigEndian (memory.octets (address + 1) count))

/-- Two zero octets. -/
def EndOfContents (memory : Memory) (address : Nat) : Prop :=
  memory address = 0 ∧ memory (address + 1) = 0

/-- Elements and the end-of-contents octets that match their beginning, up to an address. -/
inductive Enclosed (memory : Memory) : (address stop : Nat) → Prop
  | ended {address : Nat} : EndOfContents memory address → Enclosed memory address (address + 2)
  | definite {address count length stop : Nat} : ¬ EndOfContents memory address →
      DefiniteLength memory (address + identifierLength (memory address)) count length →
      Enclosed memory (address + identifierLength (memory address) + count + length) stop →
      Enclosed memory address stop
  | nested {address inner stop : Nat} : ¬ EndOfContents memory address →
      memory (address + identifierLength (memory address)) = 0x80 →
      Enclosed memory (address + identifierLength (memory address) + 1) inner →
      Enclosed memory inner stop → Enclosed memory address stop

theorem DefiniteLength.unique {memory : Memory} {address count other length size : Nat}
    (first : DefiniteLength memory address count length)
    (second : DefiniteLength memory address other size) : count = other ∧ length = size := by
  cases first with
  | short small =>
      cases second with
      | short _ => exact ⟨rfl, rfl⟩
      | long _ large => omega
  | @long count positive large =>
      cases second with
      | short small => omega
      | @long other _ largeOther =>
          obtain rfl : count = other := by omega
          exact ⟨rfl, rfl⟩

theorem DefiniteLength.not_indefinite {memory : Memory} {address count length : Nat}
    (definite : DefiniteLength memory address count length) : memory address ≠ 0x80 := by
  intro indefinite
  cases definite with
  | short small =>
      rw [indefinite] at small
      contradiction
  | long positive large =>
      rw [indefinite, show (0x80 : UInt8).toNat = 128 from rfl] at large
      omega

/-- The matching end-of-contents octets are determined. -/
theorem Enclosed.unique {memory : Memory} {address stop other : Nat}
    (first : Enclosed memory address stop) (second : Enclosed memory address other) :
    stop = other := by
  induction first generalizing other with
  | ended zeros =>
      cases second with
      | ended _ => rfl
      | definite never _ _ | nested never _ _ _ => exact absurd zeros never
  | definite never octets _ ih =>
      cases second with
      | ended zeros => exact absurd zeros never
      | definite _ others rest =>
          obtain ⟨rfl, rfl⟩ := octets.unique others
          exact ih rest
      | nested _ indefinite _ _ => exact absurd indefinite octets.not_indefinite
  | nested never indefinite _ _ ihInner ih =>
      cases second with
      | ended zeros => exact absurd zeros never
      | definite _ octets _ => exact absurd indefinite octets.not_indefinite
      | nested _ _ inside rest =>
          obtain rfl := ihInner inside
          exact ih rest

/-! ## Decoding -/

variable {memory : Memory} {buffer : Nat} {maxBufPos : Int}

/-- The long form is a big-endian number. -/
theorem longLength_eq_some {lenLength bufPos length start size : Nat}
    (decoded : (longLength memory buffer maxBufPos lenLength bufPos length).value =
      some (start, size)) :
    start = bufPos + lenLength ∧
      size = length * 256 ^ lenLength + bigEndian (memory.octets (buffer + bufPos) lenLength) := by
  induction lenLength generalizing bufPos length with
  | zero =>
      simp only [longLength, Traced.value_pure, Option.some.injEq, Prod.mk.injEq] at decoded
      simp [← decoded.1, ← decoded.2]
  | succ lenLength ih =>
      rw [value_longLength_succ] at decoded
      split at decoded
      · contradiction
      · split at decoded
        · contradiction
        · obtain ⟨position, number⟩ := ih decoded
          refine ⟨by omega, ?_⟩
          rw [number, Memory.octets_succ, bigEndian_cons, Memory.length_octets,
            Nat.add_assoc buffer]
          ring

/-- What length octets are decoded to. -/
theorem lengthOctets_eq_some {indefinite : Nat → Traced Access (Option Nat)}
    {bufPos start length : Nat}
    (decoded : (lengthOctets memory buffer maxBufPos indefinite bufPos).value =
      some (start, length)) :
    (∃ count, start = bufPos + count ∧ DefiniteLength memory (buffer + bufPos) count length) ∨
      (memory (buffer + bufPos) = 0x80 ∧ start = bufPos + 1 ∧
        (indefinite start).value = some length) := by
  have small := (memory (buffer + bufPos)).toNat_lt
  rw [value_lengthOctets] at decoded
  simp only [topBit_not_clear, toNat_lowBits] at decoded
  split at decoded
  · rename_i large
    split at decoded
    · rename_i zero
      obtain ⟨size, measured, pair⟩ := Option.map_eq_some_iff.mp decoded
      obtain ⟨rfl, rfl⟩ := Prod.mk.inj pair
      refine .inr ⟨?_, rfl, measured⟩
      rw [← UInt8.toNat_inj, show (0x80 : UInt8).toNat = 128 from rfl]
      omega
    · obtain ⟨position, number⟩ := longLength_eq_some decoded
      refine .inl ⟨1 + (memory (buffer + bufPos)).toNat % 128, by omega, ?_⟩
      rw [number, Nat.zero_mul, Nat.zero_add, ← Nat.add_assoc]
      exact .long (by omega) (by omega)
  · simp only [Option.some.injEq, Prod.mk.injEq] at decoded
    obtain ⟨rfl, rfl⟩ := decoded
    exact .inl ⟨1, rfl, .short (by omega)⟩

theorem endOfContents_eq_true {bufPos : Nat} :
    (endOfContents memory buffer maxBufPos bufPos).value = true ↔
      EndOfContents memory (buffer + bufPos) ∧ ((bufPos + 1 : Nat) : Int) < maxBufPos := by
  simp only [endOfContents, ↓Memory.value_bind_read, ↓value_bind_int, Traced.value_ite,
    Traced.value_pure, EndOfContents, Nat.add_assoc]
  split
  · split
    · simp_all
    · simp_all
  · simp_all

/-- What is measured ends with the end-of-contents octets that match the beginning: the length
grows by the distance that is walked. -/
theorem enclosed_of_indefiniteLoop {maxDepth fuel bufPos length depth size : Nat}
    (measured : (indefiniteLoop memory buffer maxBufPos maxDepth fuel bufPos length depth).value =
      some size) :
    ∃ walked, size = length + walked ∧
      Enclosed memory (buffer + bufPos) (buffer + bufPos + walked) := by
  induction fuel generalizing bufPos length depth size with
  | zero => contradiction
  | succ fuel ih =>
      by_cases inside : (bufPos : Int) < maxBufPos
      · simp only [indefiniteLoop, if_pos inside, Traced.value_bind, ↓value_bind_int,
          ↓Memory.value_bind_read, Traced.value_ite] at measured
        by_cases ended : (endOfContents memory buffer maxBufPos bufPos).value = true
        · rw [if_pos ended, Traced.value_pure, Option.some.injEq] at measured
          exact ⟨2, measured.symm, .ended (endOfContents_eq_true.mp ended).1⟩
        · rw [if_neg ended] at measured
          have identifier : 1 + (if memory (buffer + bufPos) &&& 0x1f = 0x1f then 1 else 0) =
              identifierLength (memory (buffer + bufPos)) := by
            unfold identifierLength
            split <;> rfl
          generalize (if memory (buffer + bufPos) &&& 0x1f = 0x1f then 1 else 0) = extended
            at measured identifier
          rcases decoded : (decodeLengthRecursive memory buffer maxBufPos
            (fun start =>
              if depth + 1 > maxDepth then pure none
              else indefiniteLoop memory buffer maxBufPos maxDepth fuel start 0 (depth + 1))
            (bufPos + 1 + extended)).value with _ | ⟨start, subLength⟩
          · rw [decoded] at measured
            contradiction
          · rw [decoded] at measured
            simp only [Traced.value_bind, value_int] at measured
            obtain ⟨below, _, octets⟩ := decodeLengthRecursive_eq_some.mp decoded
            have later := lengthOctets_advances octets
            have position : buffer + (bufPos + 1 + extended) =
                buffer + bufPos + identifierLength (memory (buffer + bufPos)) := by omega
            -- Two zero octets at the limit are an element without length octets.
            have other : ¬ EndOfContents memory (buffer + bufPos) := by
              intro zeros
              rw [zeros.1, identifierLength, if_neg (by decide)] at identifier
              exact ended (endOfContents_eq_true.mpr ⟨zeros, by omega⟩)
            obtain ⟨walked, total, rest⟩ := ih measured
            refine ⟨start + subLength - bufPos + walked, by omega, ?_⟩
            have further : buffer + (start + subLength) + walked =
                buffer + bufPos + (start + subLength - bufPos + walked) := by omega
            rw [further] at rest
            rcases lengthOctets_eq_some octets with ⟨count, there, definite⟩ | ⟨form, there, nested⟩
            · rw [position] at definite
              apply Enclosed.definite other definite
              rwa [show buffer + bufPos + identifierLength (memory (buffer + bufPos)) + count +
                subLength = buffer + (start + subLength) by omega]
            · rw [position] at form
              rw [Traced.value_ite] at nested
              split at nested
              · contradiction
              · obtain ⟨inner, size, inside⟩ := ih nested
                rw [show buffer + start = buffer + bufPos +
                    identifierLength (memory (buffer + bufPos)) + 1 by omega] at inside
                apply Enclosed.nested other form inside
                rwa [show buffer + bufPos + identifierLength (memory (buffer + bufPos)) + 1 +
                  inner = buffer + (start + subLength) by omega]
      · rw [indefiniteLoop, if_neg inside] at measured
        contradiction

/-! ## Containment -/

/-- An octet is read below the limit of the buffer, or a signed integer takes a value that it can
take. -/
def Contained (buffer : Nat) (maxBufPos : Int) : Access → Prop
  | .read address => buffer ≤ address ∧ (address : Int) < buffer + maxBufPos
  | .int value => -2 ^ 31 ≤ value ∧ value < 2 ^ 31
  | _ => False

/-- Decoding a length ends, stays below the limit, and finds a length that ends there. -/
structure DecodesContained (memory : Memory) (buffer : Nat) (maxBufPos : Int) (bufPos : Nat) :
    Prop where
  ends : ∀ maxDepth start length depth,
    Settles (fun fuel => indefiniteLoop memory buffer maxBufPos maxDepth fuel start length depth)
      (maxBufPos - start).toNat
  accesses : (decodeLength memory buffer maxBufPos bufPos).Always (Contained buffer maxBufPos)
  within : ∀ start length,
    (decodeLength memory buffer maxBufPos bufPos).value = some (start, length) →
      bufPos < start ∧ (start + length : Int) ≤ maxBufPos
  indefinite : ∀ start length,
    (decodeLength memory buffer maxBufPos bufPos).value = some (start, length) →
      memory (buffer + bufPos) = 0x80 →
        start = bufPos + 1 ∧ Enclosed memory (buffer + start) (buffer + start + length)

/-- The search starts at the content. -/
theorem enclosed_of_getIndefiniteLength {maxDepth depth bufPos size : Nat}
    (measured : (getIndefiniteLength memory buffer maxBufPos maxDepth depth bufPos).value =
      some size) :
    Enclosed memory (buffer + bufPos) (buffer + bufPos + size) := by
  unfold getIndefiniteLength at measured
  rw [Traced.value_ite] at measured
  split at measured
  · contradiction
  · obtain ⟨walked, rfl, enclosed⟩ := enclosed_of_indefiniteLoop measured
    rwa [Nat.zero_add]

/-- Decoding a length is contained, whatever the octets are. -/
theorem decodeLength_contained (memory : Memory) (buffer bufPos : Nat)
    (small : maxBufPos < 2 ^ 22) : DecodesContained memory buffer maxBufPos bufPos where
  ends maxDepth start length depth := settles_indefiniteLoop maxDepth start length depth
  accesses := by
    apply always_decodeLength
    · intro value within
      rw [Contained]
      omega
    · intro position below
      rw [Contained]
      omega
  within start length decoded := decodeLength_spec decoded
  indefinite start length decoded form := by
    obtain ⟨_, _, octets⟩ := decodeLengthRecursive_eq_some.mp decoded
    rcases lengthOctets_eq_some octets with ⟨count, _, definite⟩ | ⟨_, there, measured⟩
    · exact absurd form definite.not_indefinite
    · exact ⟨there, enclosed_of_getIndefiniteLength measured⟩

/-- An element of indefinite length within another. -/
theorem decodeLength_contained_nested :
    DecodesContained (Memory.ofOctets [0x80, 0x30, 0x80, 0, 0, 0, 0] fun _ => 0) 0 7 0 :=
  decodeLength_contained _ _ _ (by decide)

example : (decodeLength (Memory.ofOctets [0x80, 0x30, 0x80, 0, 0, 0, 0] fun _ => 0) 0 7 0).value =
    some (1, 6) := by
  decide +kernel

end GridGooseSV.BerDecoder
