import GridGooseSV.Ber.Indefinite

/-!
# Definite lengths

A definite length is decoded to the number that its octets are if the content ends within the
limit, and refused otherwise. No integer of the decoder overflows unless the limit is so near to
the largest integer that the length could lead past it.
-/

namespace GridGooseSV.BerDecoder

open BerEncoder

variable {memory : Memory} {buffer : Nat} {maxBufPos : Int}

/-- Encoded length octets are a definite length. -/
theorem definiteLength_encodeLength {address length : Nat}
    (held : memory.Holds address (encodeLength length)) (small : length < 2 ^ 24) :
    DefiniteLength memory address (encodeLength length).length length := by
  rcases encodeLength_cases length with ⟨short, form⟩ | ⟨count, octets, form, long⟩
  · rw [form] at held ⊢
    obtain ⟨first, _⟩ := Memory.holds_cons.mp held
    have octet : (memory address).toNat = length := by
      rw [first, UInt8.toNat_ofNat']
      omega
    have definite := @DefiniteLength.short memory address (by omega)
    rwa [octet] at definite
  · rw [form] at held ⊢
    obtain ⟨first, others⟩ := Memory.holds_cons.mp held
    have counts : (memory address).toNat = 128 + octets.length := by rw [first, long.counts]
    have definite := DefiniteLength.long long.positive counts
    rwa [others.octets, long.number, Nat.mod_eq_of_lt small, Nat.add_comm] at definite

/-- A definite length is found where it is, and only there. -/
theorem decodeLength_definite {bufPos count length : Nat}
    (definite : DefiniteLength memory (buffer + bufPos) count length)
    (outside : ¬ ((bufPos + count + length : Nat) : Int) ≤ maxBufPos) :
    (decodeLength memory buffer maxBufPos bufPos).value = none := by
  rcases decoded : (decodeLength memory buffer maxBufPos bufPos).value with _ | ⟨start, size⟩
  · rfl
  · obtain ⟨_, within, octets⟩ := decodeLengthRecursive_eq_some.mp decoded
    rcases lengthOctets_eq_some octets with ⟨other, there, found⟩ | ⟨form, _, _⟩
    · obtain ⟨rfl, rfl⟩ := definite.unique found
      omega
    · exact absurd form definite.not_indefinite

section Events

variable {predicate : Access → Prop}
  (ints : ∀ value : Nat, (value : Int) < maxBufPos + 2 ^ 24 → predicate (.int value))
  (reads : ∀ position : Nat, (position : Int) < maxBufPos → predicate (.read (buffer + position)))
include ints reads

/-- The parts of a length are less than the length. -/
theorem always_longLength_of_lt (lenLength : Nat) {bufPos length : Nat}
    (small : length * 256 ^ lenLength + bigEndian (memory.octets (buffer + bufPos) lenLength) <
      2 ^ 24) :
    (longLength memory buffer maxBufPos lenLength bufPos length).Always predicate := by
  induction lenLength generalizing bufPos length with
  | zero => exact Traced.always_pure _
  | succ lenLength ih =>
      have number : length * 256 ^ (lenLength + 1) +
          bigEndian (memory.octets (buffer + bufPos) (lenLength + 1)) =
          (length * 256 + (memory (buffer + bufPos)).toNat) * 256 ^ lenLength +
            bigEndian (memory.octets (buffer + (bufPos + 1)) lenLength) := by
        rw [Memory.octets_succ, bigEndian_cons, Memory.length_octets, Nat.add_assoc buffer]
        ring
      have part := Nat.le_mul_of_pos_right (length * 256 + (memory (buffer + bufPos)).toNat)
        (Nat.pow_pos (by decide) : 0 < 256 ^ lenLength)
      rw [number] at small
      unfold longLength
      refine .ite (fun _ => Traced.always_pure _) fun inside => ?_
      refine .bind (always_int.mpr (ints _ (by omega)))
        (.ite (fun _ => Traced.always_pure _) fun _ => ?_)
      refine .bind (always_int.mpr (ints _ (by omega)))
        (.bind (Memory.always_read.mpr (reads _ (by omega))) ?_)
      simp only [value_int, Memory.value_read]
      exact .bind (always_int.mpr (ints _ (by omega)))
        (.bind (always_int.mpr (ints _ (by omega))) (ih small))

/-- Decoding a definite length reads below the limit and computes within bounds. -/
theorem always_decodeLength_definite {bufPos count length : Nat}
    (definite : DefiniteLength memory (buffer + bufPos) count length) (small : length < 2 ^ 24) :
    (decodeLength memory buffer maxBufPos bufPos).Always predicate := by
  have octet := (memory (buffer + bufPos)).toNat_lt
  unfold decodeLength decodeLengthRecursive
  refine .ite (fun _ => Traced.always_pure _) fun inside => .bind ?_ ?_
  · unfold lengthOctets
    refine .bind (Memory.always_read.mpr (reads _ (by omega)))
      (.bind (always_int.mpr (ints _ (by omega))) ?_)
    simp only [Memory.value_read, value_int, topBit_not_clear, toNat_lowBits]
    refine .ite (fun large => ?_) fun _ => Traced.always_pure _
    cases definite with
    | short short => omega
    | @long count positive counts =>
        rw [if_neg (by omega), show (memory (buffer + bufPos)).toNat % 128 = count by omega]
        apply always_longLength_of_lt ints reads
        rwa [Nat.zero_mul, Nat.zero_add, ← Nat.add_assoc]
  · split
    · exact Traced.always_pure _
    · rename_i start size decoded
      have within := lengthOctets_within (by omega) decoded
      simp only at within
      refine .ite (fun _ => Traced.always_pure _) fun fits => ?_
      refine .bind (always_int.mpr (ints _ ?_))
        (.ite (fun _ => Traced.always_pure _) fun _ => Traced.always_pure _)
      rcases lengthOctets_eq_some decoded with ⟨other, _, found⟩ | ⟨indefinite, _, _⟩
      · obtain ⟨_, rfl⟩ := definite.unique found
        omega
      · exact absurd indefinite definite.not_indefinite

end Events

/-- An encoded length is decoded if its content ends within the limit, and is refused otherwise,
without an overflow. -/
theorem decodeLength_roundTrip {bufPos length : Nat}
    (held : memory.Holds (buffer + bufPos) (encodeLength length)) (small : length < 2 ^ 24)
    (limited : maxBufPos < 2 ^ 31 - 2 ^ 24) :
    (decodeLength memory buffer maxBufPos bufPos).value =
        (if ((bufPos + (encodeLength length).length + length : Nat) : Int) ≤ maxBufPos then
          some (bufPos + (encodeLength length).length, length)
        else none) ∧
      (decodeLength memory buffer maxBufPos bufPos).Always (Contained buffer maxBufPos) := by
  have definite := definiteLength_encodeLength held small
  refine ⟨?_, ?_⟩
  · split
    · rename_i fits
      exact decodeLength_encodeLength held small fits
    · rename_i outside
      exact decodeLength_definite definite outside
  · refine always_decodeLength_definite ?_ ?_ definite small
    · intro value within
      rw [Contained]
      omega
    · intro position below
      rw [Contained]
      omega

/-- The first length of four octets, with a content that is cut. -/
theorem decodeLength_roundTrip_cut :
    (decodeLength (Memory.ofOctets (encodeLength 65535) fun _ => 0) 0 65538 0).value = none := by
  have decoded := (@decodeLength_roundTrip (Memory.ofOctets (encodeLength 65535) fun _ => 0) 0
    65538 0 65535 (Memory.holds_ofOctets _ _) (by decide) (by decide)).1
  rw [decoded]
  rfl

end GridGooseSV.BerDecoder
