import GridGooseSV.Goose.Encoded
import Mathlib.Data.Nat.Log

/-!
# The length pass

`MmsValue_encodeMmsData` counts octets in one pass and writes them in another. The two agree for
all contents but those of 65535 octets, those that three length octets cannot tell, and bit
strings whose octets take fewer length octets without the padding octet than with it.
-/

namespace GridGooseSV

open BerEncoder

/-! ## Definite lengths -/

/-- The definite form of length octets: the length, and what stands behind them. -/
def definiteLength : List UInt8 → Option (Nat × List UInt8)
  | [] => none
  | first :: rest =>
    if first < 0x80 then some (first.toNat, rest)
    else
      let count := first.toNat - 0x80
      if count ≤ rest.length then some (bigEndian (rest.take count), rest.drop count) else none

/-- The length field of an element is the number of octets behind it. A value of a type that is
not supported has no octets. -/
def LengthFieldTrue : List UInt8 → Prop
  | [] => True
  | _ :: rest => ∃ content, definiteLength rest = some (content.length, content)

/-- The number of length octets that a length needs. -/
def lengthOctets (length : Nat) : Nat := if length < 128 then 1 else 2 + Nat.log 256 length

/-- The number of octets that a number without sign needs. -/
def unsignedOctets (number : Nat) : Nat :=
  if number < 2 ^ 7 then 1 else if number < 2 ^ 15 then 2 else if number < 2 ^ 23 then 3
  else if number < 2 ^ 31 then 4 else 5

/-- What is read of an encoded length: its low 24 bits. -/
theorem definiteLength_encodeLength (length : Nat) (content : List UInt8) :
    definiteLength (encodeLength length ++ content) = some (length % 2 ^ 24, content) := by
  rcases BerDecoder.encodeLength_cases length with ⟨short, form⟩ | ⟨count, octets, form, long⟩
  · have number : (UInt8.ofNat length).toNat = length := by
      rw [UInt8.toNat_ofNat']
      omega
    have small : UInt8.ofNat length < 0x80 := by
      rw [UInt8.lt_iff_toNat_lt, number]
      exact short
    rw [form, List.singleton_append, definiteLength, if_pos small, number,
      Nat.mod_eq_of_lt (by omega)]
  · have large : ¬ count < 0x80 := by
      rw [UInt8.lt_iff_toNat_lt, long.counts]
      exact Nat.not_lt.mpr (Nat.le_add_right _ _)
    rw [form, List.cons_append, definiteLength, if_neg large]
    dsimp only
    rw [long.counts, show (0x80 : Nat) = 128 from rfl, Nat.add_sub_cancel_left, if_pos (by simp),
      List.take_left, List.drop_left, long.number]

theorem lengthFieldTrue_iff {tag : UInt8} {length : Nat} {content : List UInt8} :
    LengthFieldTrue (tag :: (encodeLength length ++ content)) ↔
      content.length = length % 2 ^ 24 := by
  rw [LengthFieldTrue, definiteLength_encodeLength]
  constructor
  · rintro ⟨_, same⟩
    obtain ⟨number, rfl⟩ := Prod.mk.inj (Option.some.inj same)
    exact number.symm
  · intro number
    exact ⟨content, by rw [number]⟩

/-- The size of the length octets is counted right except for one length. -/
theorem determineLengthSize_eq_iff {length : Nat} :
    determineLengthSize length = (encodeLength length).length ↔ length ≠ 65535 := by
  by_cases small : length < 65535
  · exact ⟨fun _ => Nat.ne_of_lt small, fun _ => BerDecoder.determineLengthSize_eq small⟩
  · have written : (encodeLength length).length = 4 := by
      unfold encodeLength
      rw [if_neg (by omega), if_neg (by omega), if_neg small]
      rfl
    rw [written]
    unfold determineLengthSize
    split_ifs <;> omega

theorem length_encodeLength_eq {length : Nat} (told : length < 2 ^ 24)
    (regular : length ≠ 65535) : (encodeLength length).length = lengthOctets length := by
  have log : ∀ digits, 256 ^ digits ≤ length → length < 256 ^ (digits + 1) →
      Nat.log 256 length = digits := fun digits least most =>
    Nat.log_eq_of_pow_le_of_lt_pow least most
  rw [← determineLengthSize_eq_iff.mpr regular]
  unfold determineLengthSize lengthOctets
  by_cases short : length < 128
  · rw [if_pos short, if_pos short]
  · rw [if_neg short, if_neg short]
    by_cases one : length < 256
    · rw [if_pos one, log 0 (by omega) (by omega)]
    · rw [if_neg one]
      by_cases two : length < 65536
      · rw [if_pos two, log 1 (by omega) (by omega)]
      · rw [if_neg two, log 2 (by omega) (by omega)]

/-! ## Numbers -/

/-- An octet in front of a number without sign is deleted if the next one has a clear sign bit. -/
theorem bytesToDelete_cons {first second : UInt8} {rest : List UInt8}
    (unsigned : first.toNat < 128) :
    bytesToDelete (first :: second :: rest) =
      if first.toNat = 0 ∧ second.toNat < 128 then bytesToDelete (second :: rest) + 1 else 0 := by
  have zero : first = 0 ↔ first.toNat = 0 := UInt8.toNat_inj.symm
  have small : first ≠ 0xff := by
    rintro rfl
    contradiction
  rw [bytesToDelete]
  simp only [topBit_clear, zero, small, false_and, or_false]

theorem uInt32determineEncodedSize_eq (value : UInt32) :
    uInt32determineEncodedSize value = unsignedOctets value.toNat := by
  have small := value.toNat_lt
  have octets : valueBuffer value = [0, UInt8.ofNat (value.toNat / 256 / 256 / 256),
      UInt8.ofNat (value.toNat / 256 / 256), UInt8.ofNat (value.toNat / 256),
      UInt8.ofNat value.toNat] := rfl
  have length := length_valueBuffer value
  unfold uInt32determineEncodedSize compressInteger unsignedOctets
  dsimp only
  rw [length, octets, bytesToDelete_cons (by decide)]
  simp only [UInt8.toNat_zero, true_and, UInt8.toNat_ofNat']
  -- Each octet in turn is not zero, or has its sign bit set, or is deleted.
  by_cases four : value.toNat < 2 ^ 31
  · rw [if_pos (by omega), bytesToDelete_cons (by rw [UInt8.toNat_ofNat']; omega)]
    simp only [UInt8.toNat_ofNat']
    by_cases three : value.toNat < 2 ^ 23
    · rw [if_pos (by omega), bytesToDelete_cons (by rw [UInt8.toNat_ofNat']; omega)]
      simp only [UInt8.toNat_ofNat']
      by_cases two : value.toNat < 2 ^ 15
      · rw [if_pos (by omega), bytesToDelete_cons (by rw [UInt8.toNat_ofNat']; omega)]
        simp only [UInt8.toNat_ofNat', bytesToDelete]
        split_ifs <;> omega
      · rw [if_neg (by omega)]
        split_ifs <;> omega
    · rw [if_neg (by omega)]
      split_ifs <;> omega
  · rw [if_neg (by omega)]
    split_ifs <;> omega

/-! ## Values -/

mutual

/-- A property of a value and of all the values it is made of. -/
def MmsValue.Every (property : MmsValue → Prop) : MmsValue → Prop
  | .complex type components =>
    property (.complex type components) ∧ ComponentsEvery property components
  | value => property value

def ComponentsEvery (property : MmsValue → Prop) : Components → Prop
  | [] => True
  | component :: rest => ComponentEvery property component ∧ ComponentsEvery property rest

def ComponentEvery (property : MmsValue → Prop) : Option MmsValue → Prop
  | none => True
  | some value => value.Every property

end

mutual

/-- The number of content octets of a value. -/
def MmsValue.contentLength : MmsValue → Nat
  | .complex _ components => componentsLength components
  | .dataAccessError code => unsignedOctets code.toNat
  | .boolean _ => 1
  | .bitString value => bitStringByteSize value.size + 1
  | .integer value => value.size
  | .unsigned value => value.size
  | .float value => value.width.formatWidth / 8 + 1
  | .octetString value => value.size
  | .visibleString value => ((value.buf.map cString).getD []).length
  | .string value => ((value.buf.map cString).getD []).length
  | .binaryTime value => value.size
  | .utcTime _ => 8
  | .unsupported _ => 0

/-- The number of octets of components, each with its tag and its length octets. -/
def componentsLength : Components → Nat
  | [] => 0
  | component :: rest => componentLength component + componentsLength rest

def componentLength : Option MmsValue → Nat
  | none => 0
  | some (.unsupported _) => 0
  | some value => 1 + lengthOctets value.contentLength + value.contentLength

end

namespace MmsValue

/-- No component is missing, and an integer has at most 127 octets. -/
def Encodable : MmsValue → Prop
  | .complex _ components => none ∉ components
  | .integer value => value.size ≤ 127
  | .unsigned value => value.size ≤ 127
  | _ => True

/-- The length field of the encoded value is the number of octets behind it. -/
def LengthTrue (self : MmsValue) : Prop := ∀ octets ∈ self.encodeMmsData, LengthFieldTrue octets

/-- The content octets are not 65535 and can be told by three octets; a bit string is not one of
127, 255 or 65535 octets. -/
def Regular (self : MmsValue) : Prop :=
  self.contentLength < 2 ^ 24 ∧ self.contentLength ≠ 65535 ∧
    match self with
    | .bitString value => bitStringByteSize value.size ∉ [127, 255, 65535]
    | _ => True

/-- `MmsValue_encodeMmsData` with `encode`: the buffer after the call, and the position that is
returned. -/
def encodeMmsDataInto (self : MmsValue) (buffer : Memory) (bufPos : Nat) : Option (Memory × Nat) :=
  self.encodeMmsData.map fun octets => (buffer.put bufPos octets, bufPos + octets.length)

/-- The length pass equals the encode pass, and every length field is right. -/
structure LengthPassAgrees (value : MmsValue) : Prop where
  counted : ∀ buffer bufPos, ∃ after stop, value.encodeMmsDataInto buffer bufPos =
    some (after, stop) ∧ value.encodedSize = some (stop - bufPos)
  fields : value.Every LengthTrue

end MmsValue

/-! ## Single values -/

/-- What the two passes make of a value, or of components. -/
structure Passed (size : Nat) (octets : List UInt8) (fields regular : Prop) (length : Nat) :
    Prop where
  agrees : size = octets.length ∧ fields ↔ regular
  length : regular → octets.length = length

theorem MmsValue.lengthTrue_iff {value : MmsValue} {octets : List UInt8}
    (encoded : value.encodeMmsData = some octets) :
    value.LengthTrue ↔ LengthFieldTrue octets := by
  rw [MmsValue.LengthTrue, encoded]
  simp

/-- A value whose octets have a length field. -/
theorem passed_field {value : MmsValue} {tag : UInt8} {content : List UInt8} {size : Nat}
    (encoded : value.encodeMmsData =
      some (tag :: (encodeLength value.contentLength ++ content)))
    (whole : content.length = value.contentLength)
    (regular : value.Regular ↔
      size = 1 + (encodeLength value.contentLength).length + value.contentLength ∧
        value.contentLength < 2 ^ 24) :
    Passed size (tag :: (encodeLength value.contentLength ++ content)) value.LengthTrue
      value.Regular (1 + lengthOctets value.contentLength + value.contentLength) := by
  have total : (tag :: (encodeLength value.contentLength ++ content)).length =
      1 + (encodeLength value.contentLength).length + value.contentLength := by
    rw [List.length_cons, List.length_append, whole]
    omega
  constructor
  · rw [regular, MmsValue.lengthTrue_iff encoded, lengthFieldTrue_iff, total, whole]
    constructor
    · rintro ⟨same, told⟩
      exact ⟨same, by omega⟩
    · rintro ⟨same, told⟩
      exact ⟨same, by omega⟩
  · rintro ⟨told, not65535, _⟩
    rw [total, length_encodeLength_eq told not65535]

/-- A value whose length octets are counted. -/
theorem regular_counted {value : MmsValue} {size : Nat}
    (plain : value.Regular ↔ value.contentLength < 2 ^ 24 ∧ value.contentLength ≠ 65535)
    (counted : size = 1 + determineLengthSize value.contentLength + value.contentLength) :
    value.Regular ↔ size = 1 + (encodeLength value.contentLength).length + value.contentLength ∧
      value.contentLength < 2 ^ 24 := by
  rw [plain, ← determineLengthSize_eq_iff, counted]
  constructor
  · rintro ⟨told, same⟩
    exact ⟨by omega, told⟩
  · rintro ⟨same, told⟩
    exact ⟨told, by omega⟩

/-- A value that is so short that its length takes one octet. -/
theorem regular_short {value : MmsValue} {size : Nat}
    (plain : value.Regular ↔ value.contentLength < 2 ^ 24 ∧ value.contentLength ≠ 65535)
    (short : value.contentLength ≤ 127) (counted : size = 2 + value.contentLength) :
    value.Regular ↔ size = 1 + (encodeLength value.contentLength).length + value.contentLength ∧
      value.contentLength < 2 ^ 24 := by
  apply regular_counted plain
  rw [determineLengthSize_short (by omega), counted]

/-- A bit string has one octet more than is counted for its length octets. -/
theorem regular_bitString (value : BitString) :
    (MmsValue.bitString value).Regular ↔
      determineEncodedBitStringSize value.size =
          1 + (encodeLength (bitStringByteSize value.size + 1)).length +
            (bitStringByteSize value.size + 1) ∧
        bitStringByteSize value.size + 1 < 2 ^ 24 := by
  have written : ∀ length, (encodeLength length).length = if length < 128 then 1
      else if length < 256 then 2 else if length < 65535 then 3 else 4 := by
    intro length
    unfold encodeLength
    split_ifs <;> rfl
  rw [written, MmsValue.Regular, MmsValue.contentLength, determineEncodedBitStringSize]
  generalize bitStringByteSize value.size = bytes
  simp only [List.mem_cons, List.not_mem_nil, or_false, not_or]
  unfold determineLengthSize
  split_ifs <;> omega

/-- A string is an element with its characters, and one that is NULL has none. -/
theorem passed_string {value : MmsValue} {tag : UInt8} {string : Option (List UInt8)}
    (encoded : value.encodeMmsData = some (encodeStringWithTag tag string))
    (length : value.contentLength = (string.getD []).length)
    (plain : value.Regular ↔ value.contentLength < 2 ^ 24 ∧ value.contentLength ≠ 65535) :
    Passed (determineEncodedStringSize string) (encodeStringWithTag tag string) value.LengthTrue
      value.Regular (1 + lengthOctets value.contentLength + value.contentLength) := by
  have octets : encodeStringWithTag tag string =
      tag :: (encodeLength value.contentLength ++ string.getD []) := by
    rw [BerDecoder.encodeStringWithTag_eq, tlv, length]
  rw [octets] at encoded ⊢
  apply passed_field encoded length.symm
  apply regular_counted plain
  rw [length]
  cases string <;> rfl

/-- Octets that are written as they are. -/
theorem passed_octets {value : MmsValue} {tag : UInt8} {string : List UInt8} {size : Nat}
    (encoded : value.encodeMmsData = some (encodeOctetString tag string))
    (length : value.contentLength = string.length)
    (plain : value.Regular ↔ value.contentLength < 2 ^ 24 ∧ value.contentLength ≠ 65535)
    (counted : size = 1 + determineLengthSize value.contentLength + value.contentLength) :
    Passed size (encodeOctetString tag string) value.LengthTrue value.Regular
      (1 + lengthOctets value.contentLength + value.contentLength) := by
  have octets : encodeOctetString tag string =
      tag :: (encodeLength value.contentLength ++ string) := by
    rw [encodeOctetString, length]
  rw [octets] at encoded ⊢
  exact passed_field encoded length.symm (regular_counted plain counted)

/-! ## Value trees -/

mutual

/-- What the two passes make of a value. -/
theorem MmsValue.passed : (value : MmsValue) → {size : Nat} → {octets : List UInt8} →
    value.Every MmsValue.Encodable → value.encodedSize = some size →
    value.encodeMmsData = some octets →
    Passed size octets (value.Every MmsValue.LengthTrue) (value.Every MmsValue.Regular)
      (componentLength (some value))
  | .complex type components, size, octets, ⟨present, complete⟩, counted, encoded => by
      have whole := encoded
      simp only [MmsValue.encodedSize, MmsValue.encodeMmsData, Option.bind_eq_bind,
        Option.pure_def, Option.bind_eq_some_iff, Option.some.injEq] at counted encoded
      obtain ⟨elementsSize, known, rfl⟩ := counted
      obtain ⟨_, same, elements, written, rfl⟩ := encoded
      obtain rfl := Option.some.inj (known.symm.trans same)
      obtain ⟨agrees, length⟩ := components_passed components present complete known written
      have least := componentsSize_le components known written
      have leastField := determineLengthSize_le elementsSize
      have total : (type.tag :: (encodeLength elementsSize ++ elements)).length =
          1 + (encodeLength elementsSize).length + elements.length := by
        rw [List.length_cons, List.length_append]
        omega
      have regular : (MmsValue.complex type components).Regular ↔
          componentsLength components < 2 ^ 24 ∧ componentsLength components ≠ 65535 := by
        simp only [MmsValue.Regular, MmsValue.contentLength, and_true]
      constructor
      · simp only [MmsValue.Every]
        rw [MmsValue.lengthTrue_iff whole, lengthFieldTrue_iff, regular, total]
        constructor
        · rintro ⟨same, field, fields⟩
          -- Nothing is counted too high, so that all of it is counted right.
          have exact : elementsSize = elements.length := by omega
          have size : determineLengthSize elementsSize = (encodeLength elementsSize).length := by
            omega
          have all := agrees.mp ⟨exact, fields⟩
          rw [← length all, ← exact]
          exact ⟨⟨by omega, determineLengthSize_eq_iff.mp size⟩, all⟩
        · rintro ⟨⟨told, not65535⟩, all⟩
          obtain ⟨exact, fields⟩ := agrees.mpr all
          rw [← length all, ← exact] at told not65535
          have size := determineLengthSize_eq_iff.mpr not65535
          exact ⟨by omega, by omega, fields⟩
      · rintro ⟨here, all⟩
        obtain ⟨told, not65535⟩ := regular.mp here
        obtain ⟨exact, _⟩ := agrees.mpr all
        have octets := length all
        rw [total, exact, octets, length_encodeLength_eq told not65535]
        rfl
  | .boolean value, _, _, _, rfl, rfl =>
      @passed_field (.boolean value) _ _ _ rfl rfl
        (regular_short (by simp [MmsValue.Regular]) (show 1 ≤ 127 by decide) rfl)
  | .dataAccessError code, _, _, _, rfl, rfl => by
      have length := length_encodeUInt32 code
      have small := uInt32determineEncodedSize_le code
      rw [uInt32determineEncodedSize_eq] at length small
      rw [encodeTL, uInt32determineEncodedSize_eq]
      refine @passed_field (.dataAccessError code) _ _ _ ?_ length
        (regular_short (by simp [MmsValue.Regular]) ?_ rfl)
      · rw [MmsValue.encodeMmsData, encodeTL, uInt32determineEncodedSize_eq]
        rfl
      · exact small.trans (by decide)
  | .visibleString _, _, _, _, rfl, rfl =>
      passed_string rfl rfl (by simp [MmsValue.Regular])
  | .unsigned value, _, _, short, rfl, rfl =>
      @passed_field (.unsigned value) _ _ _ rfl value.length_content
        (regular_short (by simp [MmsValue.Regular]) short rfl)
  | .integer value, _, _, short, rfl, rfl =>
      @passed_field (.integer value) _ _ _ rfl value.length_content
        (regular_short (by simp [MmsValue.Regular]) short rfl)
  | .utcTime value, _, _, _, rfl, rfl =>
      passed_octets rfl value.property.symm (by simp [MmsValue.Regular]) rfl
  | .bitString value, _, _, _, rfl, rfl => by
      refine @passed_field (.bitString value) _ _ _ rfl ?_ (regular_bitString value)
      rw [length_maskLast, List.length_cons, List.length_take, value.stored, Nat.min_self]
      rfl
  | .binaryTime value, _, _, _, rfl, rfl => by
      have fits := value.fits
      have short : determineLengthSize value.size = 1 := determineLengthSize_short (by omega)
      refine @passed_octets (.binaryTime value) _ _ _ rfl ?_ (by simp [MmsValue.Regular]) ?_
      · rw [List.length_take, value.buf.property, Nat.min_eq_left fits]
        rfl
      · rw [MmsValue.contentLength, short]
  | .octetString value, _, _, _, rfl, rfl => by
      refine @passed_octets (.octetString value) _ _ _ rfl ?_ (by simp [MmsValue.Regular]) rfl
      rw [List.length_take, value.stored, Nat.min_eq_left value.fits]
      rfl
  | .float value, _, _, _, rfl, rfl => by
      have short : value.width.formatWidth / 8 + 1 ≤ 127 := by cases value.width <;> decide
      have fits : value.width.formatWidth / 8 ≤ 8 := by cases value.width <;> decide
      refine @passed_field (.float value) _ _ _ rfl ?_
        (regular_short (by simp [MmsValue.Regular]) short ?_)
      · simp [encodeFloat, revertByteOrder, value.buf.property, fits, MmsValue.contentLength]
      · rw [MmsValue.contentLength]
        omega
  | .string _, _, _, _, rfl, rfl => passed_string rfl rfl (by simp [MmsValue.Regular])
  | .unsupported type, _, _, _, rfl, rfl => by
      have empty : (MmsValue.unsupported type).contentLength = 0 := rfl
      refine ⟨⟨fun _ => ⟨by omega, by omega, trivial⟩, fun _ => ⟨rfl, ?_⟩⟩,
        fun _ => rfl⟩
      rintro _ ⟨⟩
      trivial

theorem components_passed : (components : Components) → {size : Nat} → {octets : List UInt8} →
    none ∉ components → ComponentsEvery MmsValue.Encodable components →
    componentsSize components = some size → encodeComponents components = some octets →
    Passed size octets (ComponentsEvery MmsValue.LengthTrue components)
      (ComponentsEvery MmsValue.Regular components) (componentsLength components)
  | [], _, _, _, _, rfl, rfl => ⟨by simp [ComponentsEvery], fun _ => rfl⟩
  | none :: rest, _, _, present, _, _, _ => absurd List.mem_cons_self present
  | some value :: rest, size, octets, present, ⟨here, complete⟩, counted, encoded => by
      simp only [componentsSize, componentSize, encodeComponents, encodeComponent,
        Option.bind_eq_bind, Option.pure_def, Option.bind_eq_some_iff, Option.some.injEq]
        at counted encoded
      obtain ⟨first, knownFirst, others, knownOthers, rfl⟩ := counted
      obtain ⟨octets, written, remaining, writtenRest, rfl⟩ := encoded
      have first := value.passed here knownFirst written
      have later := components_passed rest (fun member => present (List.mem_cons_of_mem _ member))
        complete knownOthers writtenRest
      have leastFirst := value.encodedSize_le knownFirst written
      have leastLater := componentsSize_le rest knownOthers writtenRest
      simp only [ComponentsEvery, ComponentEvery]
      rw [← first.agrees, ← later.agrees]
      constructor
      · rw [List.length_append]
        constructor
        · rintro ⟨same, fields, rest⟩
          exact ⟨⟨by omega, fields⟩, by omega, rest⟩
        · rintro ⟨⟨same, fields⟩, sameRest, rest⟩
          exact ⟨by omega, fields, rest⟩
      · rintro ⟨regular, all⟩
        rw [List.length_append, first.length (first.agrees.mp regular),
          later.length (later.agrees.mp all)]
        rfl

end

mutual

/-- A value with nothing missing is counted and encoded. -/
theorem MmsValue.exists_encoded : (value : MmsValue) → value.Every MmsValue.Encodable →
    ∃ size octets, value.encodedSize = some size ∧ value.encodeMmsData = some octets
  | .complex type components, ⟨present, complete⟩ => by
      obtain ⟨size, octets, counted, encoded⟩ := components_exists_encoded components present
        complete
      simp only [MmsValue.encodedSize, MmsValue.encodeMmsData, counted, encoded,
        Option.bind_eq_bind, Option.bind_some, Option.pure_def]
      exact ⟨_, _, rfl, rfl⟩
  | .boolean _, _ => ⟨_, _, rfl, rfl⟩
  | .dataAccessError _, _ => ⟨_, _, rfl, rfl⟩
  | .visibleString _, _ => ⟨_, _, rfl, rfl⟩
  | .unsigned _, _ => ⟨_, _, rfl, rfl⟩
  | .integer _, _ => ⟨_, _, rfl, rfl⟩
  | .utcTime _, _ => ⟨_, _, rfl, rfl⟩
  | .bitString _, _ => ⟨_, _, rfl, rfl⟩
  | .binaryTime _, _ => ⟨_, _, rfl, rfl⟩
  | .octetString _, _ => ⟨_, _, rfl, rfl⟩
  | .float _, _ => ⟨_, _, rfl, rfl⟩
  | .string _, _ => ⟨_, _, rfl, rfl⟩
  | .unsupported _, _ => ⟨_, _, rfl, rfl⟩

theorem components_exists_encoded : (components : Components) → none ∉ components →
    ComponentsEvery MmsValue.Encodable components →
    ∃ size octets, componentsSize components = some size ∧
      encodeComponents components = some octets
  | [], _, _ => ⟨0, [], rfl, rfl⟩
  | none :: rest, present, _ => absurd List.mem_cons_self present
  | some value :: rest, present, ⟨here, complete⟩ => by
      obtain ⟨first, octets, knownFirst, written⟩ := value.exists_encoded here
      obtain ⟨others, remaining, knownOthers, writtenRest⟩ := components_exists_encoded rest
        (fun member => present (List.mem_cons_of_mem _ member)) complete
      simp only [componentsSize, componentSize, encodeComponents, encodeComponent, knownFirst,
        written, knownOthers, writtenRest, Option.bind_eq_bind, Option.bind_some, Option.pure_def]
      exact ⟨_, _, rfl, rfl⟩

end

/-- The length pass equals the encode pass, with every length field right, if and only if every
value of the tree is regular. -/
theorem lengthPassAgrees_iff {value : MmsValue} (complete : value.Every MmsValue.Encodable) :
    value.LengthPassAgrees ↔ value.Every MmsValue.Regular := by
  obtain ⟨size, octets, counted, encoded⟩ := value.exists_encoded complete
  rw [← (value.passed complete counted encoded).agrees]
  have into : ∀ buffer bufPos, value.encodeMmsDataInto buffer bufPos =
      some (buffer.put bufPos octets, bufPos + octets.length) := by
    intro buffer bufPos
    rw [MmsValue.encodeMmsDataInto, encoded, Option.map_some]
  constructor
  · intro agrees
    obtain ⟨_, stop, written, same⟩ := agrees.counted (fun _ => 0) 0
    obtain ⟨_, rfl⟩ := Prod.mk.inj (Option.some.inj ((into _ _).symm.trans written))
    obtain rfl := Option.some.inj (counted.symm.trans same)
    exact ⟨by omega, agrees.fields⟩
  · rintro ⟨same, fields⟩
    refine ⟨fun buffer bufPos => ⟨_, _, into buffer bufPos, ?_⟩, fields⟩
    rw [counted, same, Nat.add_sub_cancel_left]

/-- A structure of an integer and a bit string. -/
def regularStructure : MmsValue :=
  .complex .structure
    [some (.newIntegerFromInt32 1234), some (.bitString (MmsValue.newBitString 13))]

theorem lengthPassAgrees_regularStructure :
    regularStructure.Every MmsValue.Encodable ∧
      (regularStructure.LengthPassAgrees ↔ regularStructure.Every MmsValue.Regular) := by
  have small : (BerInteger.createFromInt32 1234).size ≤ 127 := by decide
  have complete : regularStructure.Every MmsValue.Encodable :=
    ⟨by simp [MmsValue.Encodable], small, trivial, trivial⟩
  exact ⟨complete, lengthPassAgrees_iff complete⟩

/-- A bit string of 127 octets is counted as 130 octets, and encoded in 131. -/
theorem lengthPass_differs :
    (MmsValue.bitString (MmsValue.newBitString 1016)).Every MmsValue.Encodable ∧
      ¬ (MmsValue.bitString (MmsValue.newBitString 1016)).LengthPassAgrees := by
  refine ⟨trivial, fun agrees => ?_⟩
  obtain ⟨_, stop, written, same⟩ := agrees.counted (fun _ => 0) 0
  have octets : ((MmsValue.bitString (MmsValue.newBitString 1016)).encodeMmsDataInto
      (fun _ => 0) 0).map Prod.snd = some 131 := by decide +kernel
  have counted : (MmsValue.bitString (MmsValue.newBitString 1016)).encodedSize = some 130 := by
    decide
  rw [written] at octets
  obtain rfl := Option.some.inj octets
  exact absurd (counted.symm.trans same) (by decide)

/-! ## What is not counted -/

/-- The octets of an encoded length that are not counted. -/
def lengthUncounted (length : Nat) : Nat := if length = 65535 then 1 else 0

theorem length_encodeLength_uncounted (length : Nat) :
    (encodeLength length).length = determineLengthSize length + lengthUncounted length := by
  unfold encodeLength determineLengthSize lengthUncounted
  split_ifs <;> first | rfl | omega

mutual

/-- The octets of an encoded value that are not counted. -/
def MmsValue.uncounted : MmsValue → Nat
  | .complex _ components =>
    lengthUncounted ((componentsSize components).getD 0) + componentsUncounted components
  | .bitString value =>
    lengthUncounted (bitStringByteSize value.size + 1) +
      if bitStringByteSize value.size ∈ [127, 255, 65535] then 1 else 0
  | value => lengthUncounted value.contentLength

def componentsUncounted : Components → Nat
  | [] => 0
  | component :: rest => componentUncounted component + componentsUncounted rest

def componentUncounted : Option MmsValue → Nat
  | none => 0
  | some value => value.uncounted

end

theorem determineEncodedStringSize_uncounted (tag : UInt8) (string : Option (List UInt8)) :
    determineEncodedStringSize string + lengthUncounted (string.getD []).length =
      (encodeStringWithTag tag string).length := by
  cases string with
  | none => rfl
  | some string =>
      rw [determineEncodedStringSize, encodeStringWithTag, List.length_cons, List.length_append,
        length_encodeLength_uncounted, Option.getD_some]
      omega

theorem add_lengthUncounted {tag : UInt8} {content : List UInt8} {length : Nat}
    (whole : content.length = length) :
    1 + determineLengthSize length + length + lengthUncounted length =
      (tag :: (encodeLength length ++ content)).length := by
  rw [List.length_cons, List.length_append, length_encodeLength_uncounted, whole]
  omega

/-- A length of one octet is counted without looking at it. -/
theorem add_lengthUncounted_short {tag : UInt8} {content : List UInt8} {length : Nat}
    (whole : content.length = length) (short : length ≤ 127) :
    2 + length + lengthUncounted length = (tag :: (encodeLength length ++ content)).length := by
  rw [← add_lengthUncounted whole, determineLengthSize_short (by omega)]

mutual

/-- What is counted and what is not make up what is written. -/
theorem MmsValue.encodedSize_add : (value : MmsValue) → {size : Nat} → {octets : List UInt8} →
    value.Every MmsValue.Encodable → value.encodedSize = some size →
    value.encodeMmsData = some octets → size + value.uncounted = octets.length
  | .complex type components, size, octets, ⟨present, complete⟩, counted, encoded => by
      simp only [MmsValue.encodedSize, MmsValue.encodeMmsData, Option.bind_eq_bind,
        Option.pure_def, Option.bind_eq_some_iff, Option.some.injEq] at counted encoded
      obtain ⟨elementsSize, known, rfl⟩ := counted
      obtain ⟨_, same, elements, written, rfl⟩ := encoded
      obtain rfl := Option.some.inj (known.symm.trans same)
      have all := componentsSize_add components present complete known written
      rw [MmsValue.uncounted, known, Option.getD_some, List.length_cons, List.length_append,
        length_encodeLength_uncounted, ← all]
      omega
  | .boolean _, _, _, _, rfl, rfl => rfl
  | .dataAccessError code, _, _, _, rfl, rfl => by
      have small := uInt32determineEncodedSize_le code
      change 2 + _ + lengthUncounted (unsignedOctets code.toNat) = _
      rw [← uInt32determineEncodedSize_eq]
      exact add_lengthUncounted_short (length_encodeUInt32 code) (by omega)
  | .visibleString _, _, _, _, rfl, rfl => determineEncodedStringSize_uncounted 0x8a _
  | .unsigned value, _, _, short, rfl, rfl => add_lengthUncounted_short value.length_content short
  | .integer value, _, _, short, rfl, rfl => add_lengthUncounted_short value.length_content short
  | .utcTime value, _, _, _, rfl, rfl => by
      rw [encodeOctetString, value.property]
      exact add_lengthUncounted value.property
  | .bitString value, _, _, _, rfl, rfl => by
      have bytes := length_maskLast
        (paddingMask (bitStringByteSize value.size * 8 - value.size))
        (UInt8.ofNat (bitStringByteSize value.size * 8 - value.size) ::
          value.buf.take (bitStringByteSize value.size))
      rw [List.length_cons, List.length_take, value.stored, Nat.min_self] at bytes
      rw [encodeBitString, ← add_lengthUncounted bytes, determineEncodedBitStringSize,
        MmsValue.uncounted]
      generalize bitStringByteSize value.size = bytes
      simp only [List.mem_cons, List.not_mem_nil, or_false]
      unfold determineLengthSize lengthUncounted
      split_ifs <;> omega
  | .binaryTime value, _, _, _, rfl, rfl => by
      have fits := value.fits
      have whole : (value.buf.val.take value.size).length = value.size := by
        rw [List.length_take, value.buf.property, Nat.min_eq_left fits]
      rw [encodeOctetString, whole]
      exact add_lengthUncounted_short whole (by omega)
  | .octetString value, _, _, _, rfl, rfl => by
      have whole : (value.buf.take value.size).length = value.size := by
        rw [List.length_take, value.stored, Nat.min_eq_left value.fits]
      rw [encodeOctetString, whole]
      exact add_lengthUncounted whole
  | .float value, _, _, _, rfl, rfl => by
      have fits : value.width.formatWidth / 8 ≤ 8 := by cases value.width <;> decide
      have whole : (encodeFloat value).length = value.width.formatWidth / 8 + 1 := by
        simp [encodeFloat, revertByteOrder, value.buf.property, fits]
      rw [Nat.add_comm (value.width.formatWidth / 8 + 1)]
      exact add_lengthUncounted_short whole (by omega)
  | .string _, _, _, _, rfl, rfl => determineEncodedStringSize_uncounted 0x90 _
  | .unsupported _, _, _, _, rfl, rfl => rfl

theorem componentsSize_add :
    (components : Components) → {size : Nat} → {octets : List UInt8} →
    none ∉ components → ComponentsEvery MmsValue.Encodable components →
    componentsSize components = some size → encodeComponents components = some octets →
    size + componentsUncounted components = octets.length
  | [], _, _, _, _, rfl, rfl => rfl
  | none :: rest, _, _, present, _, _, _ => absurd List.mem_cons_self present
  | some value :: rest, size, octets, present, ⟨here, complete⟩, counted, encoded => by
      simp only [componentsSize, componentSize, encodeComponents, encodeComponent,
        Option.bind_eq_bind, Option.pure_def, Option.bind_eq_some_iff, Option.some.injEq]
        at counted encoded
      obtain ⟨first, knownFirst, others, knownOthers, rfl⟩ := counted
      obtain ⟨octets, written, remaining, writtenRest, rfl⟩ := encoded
      have first := value.encodedSize_add here knownFirst written
      have later := componentsSize_add rest (fun member => present (List.mem_cons_of_mem _ member))
        complete knownOthers writtenRest
      rw [List.length_append, ← first, ← later, componentsUncounted, componentUncounted]
      omega

end


end GridGooseSV
