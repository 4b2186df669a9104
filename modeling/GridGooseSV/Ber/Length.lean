import GridGooseSV.Ber.Decoder
import GridGooseSV.Ber.Integer
import GridGooseSV.Foundation.Tlv

/-!
# Length octets

A decoded length is past its length octets and within the limit, decoding reads
only below the limit, and a length that was encoded is decoded again. The strings
of elements that the receivers parse are scanned with the length decoder.
-/

namespace GridGooseSV

open BerEncoder

namespace BerDecoder

variable {memory : Memory} {buffer : Nat} {maxBufPos : Int}

theorem value_longLength_succ (lenLength bufPos length : Nat) :
    (longLength memory buffer maxBufPos (lenLength + 1) bufPos length).value =
      if (bufPos : Int) ≥ maxBufPos then none
      else if ((bufPos + length : Nat) : Int) > maxBufPos then none
      else (longLength memory buffer maxBufPos lenLength (bufPos + 1)
        (length * 256 + (memory (buffer + bufPos)).toNat)).value := by
  simp only [longLength, ↓Memory.value_bind_read, ↓value_bind_int, Traced.value_ite,
    Traced.value_pure]

/-- The long form ends after its length octets. -/
theorem longLength_position {lenLength bufPos length : Nat} {result : Nat × Nat}
    (decoded : (longLength memory buffer maxBufPos lenLength bufPos length).value = some result) :
    result.1 = bufPos + lenLength := by
  induction lenLength generalizing bufPos length with
  | zero =>
      simp only [longLength, Traced.value_pure, Option.some.injEq] at decoded
      rw [← decoded, Nat.add_zero]
  | succ lenLength ih =>
      rw [value_longLength_succ] at decoded
      split at decoded
      · contradiction
      · split at decoded
        · contradiction
        · rw [ih decoded]
          omega

theorem value_lengthOctets (indefinite : Nat → Traced Access (Option Nat)) (bufPos : Nat) :
    (lengthOctets memory buffer maxBufPos indefinite bufPos).value =
      let len1 := memory (buffer + bufPos)
      if len1 &&& 0x80 ≠ 0 then
        if (len1 &&& 0x7f).toNat = 0 then
          (indefinite (bufPos + 1)).value.map fun length => (bufPos + 1, length)
        else (longLength memory buffer maxBufPos (len1 &&& 0x7f).toNat (bufPos + 1) 0).value
      else some (bufPos + 1, len1.toNat) := by
  unfold lengthOctets
  simp only [↓Memory.value_bind_read, ↓value_bind_int, Traced.value_ite, Traced.value_bind,
    Traced.value_pure]

/-- The length octets are at least one. -/
theorem lengthOctets_advances {indefinite : Nat → Traced Access (Option Nat)}
    {bufPos start length : Nat}
    (decoded : (lengthOctets memory buffer maxBufPos indefinite bufPos).value =
      some (start, length)) : bufPos < start := by
  rw [value_lengthOctets] at decoded
  simp only at decoded
  split at decoded
  · split at decoded
    · obtain ⟨_, _, pair⟩ := Option.map_eq_some_iff.mp decoded
      obtain ⟨rfl, _⟩ := Prod.mk.inj pair
      exact Nat.lt_succ_self _
    · have position := longLength_position decoded
      simp only at position
      omega
  · simp only [Option.some.injEq, Prod.mk.injEq] at decoded
    omega

/-- The checks before and after the length octets. -/
theorem decodeLengthRecursive_eq_some {indefinite : Nat → Traced Access (Option Nat)}
    {bufPos start length : Nat} :
    (decodeLengthRecursive memory buffer maxBufPos indefinite bufPos).value =
        some (start, length) ↔
      (bufPos : Int) < maxBufPos ∧ (start + length : Int) ≤ maxBufPos ∧
        (lengthOctets memory buffer maxBufPos indefinite bufPos).value = some (start, length) := by
  simp only [decodeLengthRecursive, Traced.value_ite, Traced.value_bind, Traced.value_pure]
  by_cases inside : (bufPos : Int) ≥ maxBufPos
  · simp only [if_pos inside]
    constructor
    · intro decoded
      contradiction
    · intro decoded
      omega
  · simp only [if_neg inside]
    cases octets : (lengthOctets memory buffer maxBufPos indefinite bufPos).value with
    | none => simp
    | some result =>
        obtain ⟨position, size⟩ := result
        simp only [Traced.value_ite, ↓value_bind_int, Traced.value_pure]
        constructor
        · intro decoded
          split at decoded
          · contradiction
          · split at decoded
            · contradiction
            · simp only [Option.some.injEq, Prod.mk.injEq] at decoded ⊢
              omega
        · rintro ⟨_, within, decoded⟩
          simp only [Option.some.injEq, Prod.mk.injEq] at decoded
          obtain ⟨rfl, rfl⟩ := decoded
          rw [if_neg (by omega), if_neg (by omega)]

/-- A decoded length is past its octets and ends within the limit. -/
theorem decodeLength_spec {bufPos start length : Nat}
    (decoded : (decodeLength memory buffer maxBufPos bufPos).value = some (start, length)) :
    bufPos < start ∧ (start + length : Int) ≤ maxBufPos := by
  obtain ⟨_, within, octets⟩ := decodeLengthRecursive_eq_some.mp decoded
  exact ⟨lengthOctets_advances octets, within⟩

theorem decodeLength_advances {bufPos start length : Nat}
    (decoded : (decodeLength memory buffer maxBufPos bufPos).value = some (start, length)) :
    bufPos < start :=
  (decodeLength_spec decoded).1

/-! ## Encoded lengths -/

/-- The long form of the receiver reads a big-endian number. -/
theorem longLength_eq {octets : List UInt8} {bufPos length : Nat}
    (held : memory.Holds (buffer + bufPos) octets)
    (fits : ((bufPos + octets.length + (length * 256 ^ octets.length + bigEndian octets) : Nat) :
      Int) ≤ maxBufPos) :
    (longLength memory buffer maxBufPos octets.length bufPos length).value =
      some (bufPos + octets.length, length * 256 ^ octets.length + bigEndian octets) := by
  induction octets generalizing bufPos length with
  | nil => simp [longLength]
  | cons octet rest ih =>
      obtain ⟨first, others⟩ := Memory.holds_cons.mp held
      have number : length * 256 ^ (rest.length + 1) + bigEndian (octet :: rest) =
          (length * 256 + octet.toNat) * 256 ^ rest.length + bigEndian rest := by
        rw [bigEndian_cons]
        ring
      have grows : length ≤ length * 256 ^ (rest.length + 1) :=
        Nat.le_mul_of_pos_right _ (Nat.pow_pos (by decide))
      rw [List.length_cons] at fits ⊢
      rw [value_longLength_succ, if_neg (by omega), if_neg (by omega), first,
        ih others (by rw [← number]; omega), number]
      congr 2
      omega

/-- The first octet of the long form. -/
theorem lengthOctets_long {indefinite : Nat → Traced Access (Option Nat)} {bufPos : Nat}
    {count : UInt8} {octets : List UInt8}
    (held : memory.Holds (buffer + bufPos) (count :: octets))
    (counts : count.toNat = 128 + octets.length) (nonempty : 0 < octets.length)
    (fits : ((bufPos + 1 + octets.length + bigEndian octets : Nat) : Int) ≤ maxBufPos) :
    (lengthOctets memory buffer maxBufPos indefinite bufPos).value =
      some (bufPos + 1 + octets.length, bigEndian octets) := by
  obtain ⟨first, others⟩ := Memory.holds_cons.mp held
  have decoded := @longLength_eq memory buffer maxBufPos octets (bufPos + 1) 0 others
    (by rw [Nat.zero_mul, Nat.zero_add]; exact fits)
  have bits : (count &&& 0x7f).toNat = octets.length := by
    have small := count.toNat_lt
    rw [toNat_lowBits]
    omega
  rw [value_lengthOctets]
  simp only [first, topBit_not_clear, bits]
  rw [if_pos (by omega), if_neg (by omega), decoded, Nat.zero_mul, Nat.zero_add]

/-- The long form of length octets: one that counts the octets of the number, and these. -/
structure LongForm (length : Nat) (count : UInt8) (octets : List UInt8) : Prop where
  counts : count.toNat = 128 + octets.length
  positive : 0 < octets.length
  number : bigEndian octets = length % 2 ^ 24

/-- An encoded length has the short form, or a long one. -/
theorem encodeLength_cases (length : Nat) :
    (length < 128 ∧ encodeLength length = [UInt8.ofNat length]) ∨
      ∃ count octets, encodeLength length = count :: octets ∧ LongForm length count octets := by
  unfold encodeLength
  by_cases short : length < 128
  · exact .inl ⟨short, if_pos short⟩
  · right
    rw [if_neg short]
    by_cases one : length < 256
    · rw [if_pos one]
      exact ⟨_, _, rfl, rfl, by simp, by simp [bigEndian]; omega⟩
    · rw [if_neg one]
      by_cases two : length < 65535
      · rw [if_pos two]
        exact ⟨_, _, rfl, rfl, by simp, by simp [bigEndian]; omega⟩
      · rw [if_neg two]
        exact ⟨_, _, rfl, rfl, by simp, by simp [bigEndian]; omega⟩

/-- What the length octets of an encoded length are decoded to. -/
theorem lengthOctets_encodeLength {indefinite : Nat → Traced Access (Option Nat)}
    {bufPos length : Nat} (held : memory.Holds (buffer + bufPos) (encodeLength length))
    (small : length < 2 ^ 24)
    (fits : ((bufPos + (encodeLength length).length + length : Nat) : Int) ≤ maxBufPos) :
    (lengthOctets memory buffer maxBufPos indefinite bufPos).value =
      some (bufPos + (encodeLength length).length, length) := by
  rcases encodeLength_cases length with ⟨short, form⟩ | ⟨count, octets, form, long⟩
  · rw [form] at held ⊢
    obtain ⟨first, _⟩ := Memory.holds_cons.mp held
    have octet : (UInt8.ofNat length).toNat = length := by
      rw [UInt8.toNat_ofNat']
      omega
    rw [value_lengthOctets]
    simp only [first, topBit_not_clear, octet, if_neg (Nat.not_le.mpr short),
      List.length_singleton]
  · have number := long.number
    rw [Nat.mod_eq_of_lt small] at number
    rw [form, List.length_cons] at fits ⊢
    rw [form] at held
    rw [lengthOctets_long held long.counts long.positive (by omega), number]
    congr 2
    omega

theorem length_encodeLength_pos (length : Nat) : 0 < (encodeLength length).length := by
  unfold encodeLength
  split
  · exact Nat.one_pos
  · split
    · exact Nat.two_pos
    · split <;> simp

theorem length_encodeLength_le (length : Nat) : (encodeLength length).length ≤ 4 := by
  unfold encodeLength
  split
  · exact (by decide : 1 ≤ 4)
  · split
    · exact (by decide : 2 ≤ 4)
    · split <;> simp

/-- A length that was encoded is decoded again. -/
theorem decodeLength_encodeLength {bufPos length : Nat}
    (held : memory.Holds (buffer + bufPos) (encodeLength length)) (small : length < 2 ^ 24)
    (fits : ((bufPos + (encodeLength length).length + length : Nat) : Int) ≤ maxBufPos) :
    (decodeLength memory buffer maxBufPos bufPos).value =
      some (bufPos + (encodeLength length).length, length) := by
  have positive := length_encodeLength_pos length
  exact decodeLengthRecursive_eq_some.mpr
    ⟨by omega, by omega, lengthOctets_encodeLength held small fits⟩

/-- The decoder reads back what the length octets of an encoding say. -/
def ReadsBack (encode : Nat → List UInt8) : Prop :=
  ∀ {memory : Memory} {buffer : Nat} {maxBufPos : Int} {bufPos length : Nat},
    memory.Holds (buffer + bufPos) (encode length) → length < 2 ^ 16 →
    ((bufPos + (encode length).length + length : Nat) : Int) ≤ maxBufPos →
    (decodeLength memory buffer maxBufPos bufPos).value =
      some (bufPos + (encode length).length, length)

theorem readsBack_encodeLength : ReadsBack encodeLength :=
  fun held small fits => decodeLength_encodeLength held (by omega) fits

/-! ## Encoded elements -/

/-- The size of the length octets is counted right but for one length. -/
theorem determineLengthSize_eq {length : Nat} (small : length < 65535) :
    determineLengthSize length = (encodeLength length).length := by
  unfold determineLengthSize encodeLength
  by_cases one : length < 128
  · rw [if_pos one, if_pos one, List.length_singleton]
  · rw [if_neg one, if_neg one]
    by_cases two : length < 256
    · rw [if_pos two, if_pos two]
      rfl
    · rw [if_neg two, if_neg two, if_pos (Nat.lt_succ_of_lt small), if_pos small]
      rfl

theorem encodeStringWithTag_eq (tag : UInt8) (string : Option (List UInt8)) :
    encodeStringWithTag tag string = tlv encodeLength tag (string.getD []) := by
  cases string <;> rfl

theorem encodeUInt32WithTL_eq (tag : UInt8) (value : UInt32) :
    encodeUInt32WithTL tag value = tlv encodeLength tag (encodeUInt32 value) := by
  have small := uInt32determineEncodedSize_le value
  rw [tlv, length_encodeUInt32, encodeLength, if_pos (by omega)]
  rfl

/-! ## Scanning -/

section Scanning

/-- The elements from a position to `stop`, their lengths checked against
`maxBufPos`. -/
def elements (memory : Memory) (buffer : Nat) (maxBufPos : Int) (stop position : Nat) : Scan :=
  Scan.run memory buffer (fun bufPos => (decodeLength memory buffer maxBufPos bufPos).value) stop
    position

variable {stop position : Nat}

theorem elements_end (ended : stop ≤ position) :
    elements memory buffer maxBufPos stop position = ⟨[], true⟩ :=
  Scan.run_end ended

theorem elements_malformed (inside : position < stop)
    (malformed : (decodeLength memory buffer maxBufPos (position + 1)).value = none) :
    elements memory buffer maxBufPos stop position = ⟨[], false⟩ :=
  Scan.run_malformed inside malformed

theorem elements_next {start length : Nat} (inside : position < stop)
    (decoded : (decodeLength memory buffer maxBufPos (position + 1)).value =
      some (start, length)) :
    elements memory buffer maxBufPos stop position =
      (elements memory buffer maxBufPos stop (start + length)).cons
        ⟨memory (buffer + position), buffer + start, length⟩ :=
  Scan.run_next decodeLength_advances inside decoded

theorem elements_eq_nil :
    elements memory buffer maxBufPos stop position = ⟨[], true⟩ ↔ stop ≤ position :=
  Scan.run_eq_nil decodeLength_advances

theorem elements_eq_cons {element : Element} {rest : List Element} {complete : Bool} :
    elements memory buffer maxBufPos stop position = ⟨element :: rest, complete⟩ ↔
      position < stop ∧ ∃ start length,
        (decodeLength memory buffer maxBufPos (position + 1)).value = some (start, length) ∧
        element = ⟨memory (buffer + position), buffer + start, length⟩ ∧
        elements memory buffer maxBufPos stop (start + length) = ⟨rest, complete⟩ :=
  Scan.run_eq_cons decodeLength_advances

/-- The content of an element lies in the buffer. -/
theorem elements_within : ∀ element ∈ (elements memory buffer maxBufPos stop position).elements,
    buffer < element.address ∧ (element.address + element.length : Int) ≤ buffer + maxBufPos := by
  apply Scan.forall_run
  intro position start length _ decoded
  obtain ⟨later, within⟩ := decodeLength_spec decoded
  refine ⟨?_, ?_⟩
  · simp only
    omega
  · simp only
    omega

/-- Every content starts behind the position of the scan. -/
theorem elements_behind : ∀ element ∈ (elements memory buffer maxBufPos stop position).elements,
    buffer + position < element.address := by
  rcases scanned : elements memory buffer maxBufPos stop position with ⟨parts, complete⟩
  simp only
  induction parts generalizing position with
  | nil => simp
  | cons element rest ih =>
      obtain ⟨_, start, length, decoded, rfl, following⟩ := elements_eq_cons.mp scanned
      have later := decodeLength_advances decoded
      intro other member
      rcases List.mem_cons.mp member with rfl | member
      · simp only
        omega
      · have behind := ih following other member
        omega

/-- Every content starts behind the ends of the contents before it. -/
theorem elements_pairwise :
    (elements memory buffer maxBufPos stop position).elements.Pairwise
      fun first second => first.address + first.length < second.address := by
  rcases scanned : elements memory buffer maxBufPos stop position with ⟨parts, complete⟩
  simp only
  induction parts generalizing position with
  | nil => exact .nil
  | cons element rest ih =>
      obtain ⟨_, start, length, _, rfl, following⟩ := elements_eq_cons.mp scanned
      refine .cons ?_ (ih following)
      intro other member
      have behind := @elements_behind memory buffer maxBufPos stop (start + length) other
        (by rwa [following])
      simp only
      omega

/-- Elements that were encoded are found again. -/
theorem elements_tlvs {encode : Nat → List UInt8} (reads : ReadsBack encode)
    {items : List (UInt8 × List UInt8)}
    (held : memory.Holds (buffer + position) (tlvs encode items))
    (ends : stop = position + (tlvs encode items).length)
    (small : stop < 2 ^ 16) (within : (stop : Int) ≤ maxBufPos) :
    elements memory buffer maxBufPos stop position =
      ⟨writtenElements encode (buffer + position) items, true⟩ := by
  refine Scan.run_tlvs decodeLength_advances held ?_ ends
  intro position content held fits
  exact reads held (by omega) (by omega)

end Scanning

end BerDecoder

end GridGooseSV
