import GridGooseSV.Ber.Integer
import GridGooseSV.Goose.Carried
import GridGooseSV.Mms.Encoder

/-!
# Encoded values

The octets that the encoder writes for a well-formed value are one element that
carries the data of the value, and the encoder counts as many octets as it writes.
-/

namespace GridGooseSV

open BerDecoder BerEncoder

mutual

/-- A value of a type that both the encoder and the receiver support, with nothing
missing. For bit strings of 127 and of 255 octets the encoder counts one octet less
than it writes. -/
def MmsValue.WellFormed : MmsValue → Prop
  | .complex _ components => ComponentsWellFormed components
  | .boolean _ => True
  | .bitString value =>
    0 < value.size ∧ bitStringByteSize value.size ≠ 127 ∧ bitStringByteSize value.size ≠ 255
  | .integer value => 1 ≤ value.size ∧ value.size ≤ 8
  | .unsigned value => 1 ≤ value.size ∧ value.size ≤ 8
  | .float _ => True
  | .octetString _ => True
  | .visibleString value => value.buf.isSome
  | .binaryTime value => value.size = 4 ∨ value.size = 6
  | .utcTime _ => True
  | .dataAccessError _ => False
  | .string _ => False
  | .unsupported _ => False

def ComponentsWellFormed : Components → Prop
  | [] => True
  | component :: rest => ComponentWellFormed component ∧ ComponentsWellFormed rest

def ComponentWellFormed : Option MmsValue → Prop
  | none => False
  | some value => value.WellFormed

end

/-- The octets are one element that carries the data and has the octets that are read of it, and so
many are counted. -/
structure Encodes (size : Option Nat) (octets : List UInt8) (data : Data) : Prop where
  counted : size = some octets.length
  element : ∃ tag content, octets = tlv encodeLength tag content ∧
    ∀ (memory : Memory) (address : Nat), memory.Holds address content →
      data.Carried memory ⟨tag, address, content.length⟩ ∧
        Element.Supplies memory ⟨tag, address, content.length⟩

/-- The octets are elements that carry the data and have the octets that are read of them, and so
many are counted. -/
structure EncodesAll (size : Option Nat) (octets : List UInt8) (data : List Data) : Prop where
  counted : size = some octets.length
  elements : ∃ items, octets = tlvs encodeLength items ∧
    ∀ (memory : Memory) (address : Nat), memory.Holds address octets →
      Data.AllCarried memory data (writtenElements encodeLength address items) ∧
        ∀ part ∈ writtenElements encodeLength address items, part.Supplies memory

/-! ## Counting octets -/

/-- The size of the length octets is never counted too high. -/
theorem determineLengthSize_le (length : Nat) :
    determineLengthSize length ≤ (encodeLength length).length := by
  unfold determineLengthSize encodeLength
  split
  · exact Nat.le_refl _
  · split
    · exact Nat.le_refl _
    · split
      · split <;> simp
      · rw [if_neg (by omega)]
        exact Nat.le_refl _

theorem determineLengthSize_short {length : Nat} (short : length < 128) :
    determineLengthSize length = 1 :=
  if_pos short

/-- An element of the given content is encoded when its octets are counted right. -/
theorem encodes_tlv {size : Nat} {tag : UInt8} {content : List UInt8} {data : Data}
    (short : (tlv encodeLength tag content).length < 65535)
    (counted : size = 1 + determineLengthSize content.length + content.length)
    (carried : ∀ (memory : Memory) (address : Nat), memory.Holds address content →
      data.Carried memory ⟨tag, address, content.length⟩ ∧
        Element.Supplies memory ⟨tag, address, content.length⟩) :
    Encodes (some size) (tlv encodeLength tag content) data := by
  refine ⟨?_, tag, content, rfl, carried⟩
  rw [length_tlv] at short ⊢
  rw [counted, determineLengthSize_eq (by omega)]

/-- The same for data that has no components and is no boolean. -/
theorem encodes_simple {size : Nat} {tag : UInt8} {content : List UInt8} {data : Data}
    (simple : data.simple) (short : (tlv encodeLength tag content).length < 65535)
    (counted : size = 1 + determineLengthSize content.length + content.length)
    (carried : ∀ (memory : Memory) (address : Nat), memory.Holds address content →
      data.Carried memory ⟨tag, address, content.length⟩) :
    Encodes (some size) (tlv encodeLength tag content) data := by
  exact encodes_tlv short counted fun memory address held =>
    ⟨carried memory address held, Data.supplies_of_carried (carried memory address held) simple⟩

theorem determineLengthSize_mono {length longer : Nat} (le : length ≤ longer) :
    determineLengthSize length ≤ determineLengthSize longer := by
  unfold determineLengthSize
  split_ifs <;> omega

theorem determineEncodedStringSize_le (tag : UInt8) (string : Option (List UInt8)) :
    determineEncodedStringSize string ≤ (encodeStringWithTag tag string).length := by
  cases string with
  | none => exact Nat.le_refl 2
  | some string =>
      have counted := determineLengthSize_le string.length
      simp only [determineEncodedStringSize, encodeStringWithTag, List.length_cons,
        List.length_append]
      omega

/-! ## Bit strings -/

theorem maskLast_cons (mask octet second : UInt8) (rest : List UInt8) :
    maskLast mask (octet :: second :: rest) = octet :: maskLast mask (second :: rest) := rfl

theorem length_maskLast (mask : UInt8) (octets : List UInt8) :
    (maskLast mask octets).length = octets.length := by
  induction octets with
  | nil => rfl
  | cons octet rest ih =>
      cases rest with
      | nil => rfl
      | cons second rest => rw [maskLast_cons, List.length_cons, ih, ← List.length_cons]

/-- Only the last octet is masked. -/
theorem getD_maskLast (mask : UInt8) (octets : List UInt8) (index : Nat) :
    (maskLast mask octets).getD index 0 =
      if index + 1 = octets.length then octets.getD index 0 &&& mask else octets.getD index 0 := by
  induction octets generalizing index with
  | nil => simp [maskLast]
  | cons octet rest ih =>
      cases rest with
      | nil => cases index <;> simp [maskLast]
      | cons second rest =>
          cases index with
          | zero => simp [maskLast]
          | succ index => simpa [maskLast] using ih index

/-- The mask keeps the bits in front of the padding. -/
theorem testBit_and_paddingMask {padding bit : Nat} (least : padding ≤ bit) (small : bit < 8)
    (octet : UInt8) :
    (octet &&& paddingMask padding).toNat.testBit bit = octet.toNat.testBit bit := by
  have kept : ∀ padding < 8, ∀ bit < 8, padding ≤ bit →
      (paddingMask padding).toNat.testBit bit = true := by decide
  rw [UInt8.toNat_and, Nat.testBit_and, kept padding (by omega) bit small least, Bool.and_true]

/-- The bits of a bit string are still there once the padding is masked. -/
theorem bitsOf_maskLast (octets : List UInt8) {size : Nat} (fits : size ≤ 8 * octets.length) :
    bitsOf (maskLast (paddingMask (octets.length * 8 - size)) octets) size =
      bitsOf octets size := by
  apply bitsOf_congr
  intro bitPos inside
  rw [getD_maskLast]
  split
  · exact testBit_and_paddingMask (by omega) (by omega) _
  · rfl

theorem bitStringByteSize_bounds (size : Nat) :
    size ≤ 8 * bitStringByteSize size ∧ 8 * bitStringByteSize size < size + 8 := by
  unfold bitStringByteSize
  split <;> omega

/-- An encoded bit string is an element that starts with the padding. -/
theorem encodeBitString_eq (value : BitString) (bits : 0 < value.size) :
    let padding := value.buf.length * 8 - value.size
    encodeBitString 0x84 value.size value.buf =
      tlv encodeLength 0x84 (UInt8.ofNat padding :: maskLast (paddingMask padding) value.buf) := by
  obtain ⟨size, buf, stored⟩ := value
  obtain ⟨least, _⟩ := bitStringByteSize_bounds size
  simp only at bits stored ⊢
  cases buf with
  | nil =>
      rw [List.length_nil] at stored
      omega
  | cons octet rest =>
      unfold encodeBitString tlv
      simp only [← stored, List.take_length, maskLast_cons]
      simp only [List.length_cons, length_maskLast]

/-- An encoded bit string carries its bits. -/
theorem encodes_bitString {value : BitString} (wellFormed : (MmsValue.bitString value).WellFormed)
    (short : (encodeBitString 0x84 value.size value.buf).length < 65535) :
    Encodes (MmsValue.bitString value).encodedSize (encodeBitString 0x84 value.size value.buf)
      (MmsValue.bitString value).data := by
  obtain ⟨bits, not127, not255⟩ := wellFormed
  obtain ⟨least, most⟩ := bitStringByteSize_bounds value.size
  rw [← value.stored] at not127 not255 least most
  rw [encodeBitString_eq value bits] at short ⊢
  have length := short
  rw [length_tlv, List.length_cons, length_maskLast] at length
  unfold MmsValue.encodedSize determineEncodedBitStringSize
  rw [← value.stored]
  apply encodes_simple rfl short
  · rw [List.length_cons, length_maskLast]
    -- One more octet does not change the size of the length octets.
    have same : determineLengthSize (value.buf.length + 1) =
        determineLengthSize value.buf.length := by
      unfold determineLengthSize
      split_ifs <;> omega
    rw [same]
    omega
  · intro memory address held
    obtain ⟨first, rest⟩ := Memory.holds_cons.mp held
    have padding : (memory address).toNat = value.buf.length * 8 - value.size := by
      rw [first, UInt8.toNat_ofNat']
      omega
    rw [MmsValue.data, Data.Carried]
    simp only [List.length_cons, length_maskLast, Element.bitCount, Nat.add_sub_cancel, padding]
    refine ⟨rfl, by omega, by omega, ?_⟩
    have count : 8 * value.buf.length - (value.buf.length * 8 - value.size) = value.size := by
      omega
    have octets := rest.octets
    rw [length_maskLast] at octets
    rw [count, octets, bitsOf_maskLast value.buf least]

/-! ## The other values -/

theorem encodedSize_le_primitive (tag : UInt8) (value : Asn1PrimitiveValue) :
    2 + value.size ≤ (encodeAsn1PrimitiveValue tag value).length := by
  have positive := length_encodeLength_pos value.size
  have length := value.length_content
  unfold Asn1PrimitiveValue.content at length
  unfold encodeAsn1PrimitiveValue
  rw [List.length_cons, List.length_append, length]
  omega

/-- An encoded integer carries its content octets. -/
theorem encodes_primitive {tag : UInt8} {value : Asn1PrimitiveValue} {data : Data}
    (simple : data.simple) (small : value.size ≤ 8)
    (carried : ∀ (memory : Memory) (address : Nat), memory.Holds address value.content →
      data.Carried memory ⟨tag, address, value.size⟩) :
    Encodes (some (2 + value.size)) (encodeAsn1PrimitiveValue tag value) data := by
  have octets : encodeAsn1PrimitiveValue tag value = tlv encodeLength tag value.content := by
    rw [tlv, value.length_content]
    rfl
  have length := value.length_content
  rw [octets]
  apply encodes_simple simple
  · have bound := length_encodeLength_le value.content.length
    rw [length_tlv]
    omega
  · rw [length, determineLengthSize_short (by omega)]
  · rw [length]
    exact carried

theorem encodes_float (value : FloatingPoint) :
    Encodes (MmsValue.float value).encodedSize
      (encodeTL 0x87 (value.width.formatWidth / 8 + 1) ++ encodeFloat value)
      (MmsValue.float value).data := by
  obtain ⟨width, buf⟩ := value
  have size : (encodeFloat ⟨width, buf⟩).length = width.formatWidth / 8 + 1 := by
    have fits : width.formatWidth / 8 ≤ 8 := by cases width <;> decide
    simp [encodeFloat, revertByteOrder, buf.property, fits]
  have short : width.formatWidth / 8 + 1 < 128 := by cases width <;> decide
  have octets : encodeTL 0x87 (width.formatWidth / 8 + 1) ++ encodeFloat ⟨width, buf⟩ =
      tlv encodeLength 0x87 (encodeFloat ⟨width, buf⟩) := by
    rw [tlv, size]
    rfl
  rw [octets]
  apply encodes_simple rfl
  · have bound := length_encodeLength_le (encodeFloat ⟨width, buf⟩).length
    rw [length_tlv, size] at *
    omega
  · rw [size, determineLengthSize_short short]
    simp only
    omega
  · intro memory address held
    rw [MmsValue.data, Data.Carried, size]
    refine ⟨rfl, rfl, ?_⟩
    obtain ⟨_, digits⟩ := Memory.holds_cons.mp held
    have length : (revertByteOrder (buf.val.take (width.formatWidth / 8))).length =
        width.formatWidth / 8 := by
      simpa [encodeFloat] using size
    have found := digits.octets
    rw [length] at found
    simp only
    rw [found, revertByteOrder, List.reverse_reverse]

theorem encodes_visibleString {value : VisibleString}
    (wellFormed : (MmsValue.visibleString value).WellFormed)
    (short : (encodeStringWithTag 0x8a (value.buf.map cString)).length < 65535) :
    Encodes (MmsValue.visibleString value).encodedSize
      (encodeStringWithTag 0x8a (value.buf.map cString)) (MmsValue.visibleString value).data := by
  unfold MmsValue.WellFormed at wellFormed
  obtain ⟨storage, present⟩ := Option.isSome_iff_exists.mp wellFormed
  rw [MmsValue.encodedSize, MmsValue.data]
  rw [present, Option.map_some] at short ⊢
  apply encodes_simple rfl short rfl
  intro memory address held
  rw [Data.Carried]
  refine ⟨rfl, ?_⟩
  rw [Element.content, held.octets, cString_eq_self (zero_notMem_cString storage)]

theorem encodes_octetString {value : OctetString}
    (short : (encodeOctetString 0x89 (value.buf.take value.size)).length < 65535) :
    Encodes (MmsValue.octetString value).encodedSize
      (encodeOctetString 0x89 (value.buf.take value.size)) (MmsValue.octetString value).data := by
  have length : (value.buf.take value.size).length = value.size := by
    rw [List.length_take, value.stored]
    exact Nat.min_eq_left value.fits
  unfold MmsValue.encodedSize
  apply encodes_simple rfl short (by rw [length])
  intro memory address held
  rw [MmsValue.data, Data.Carried]
  exact ⟨rfl, held.octets.symm⟩

/-- A short octet string whose size is counted without its length octets. -/
theorem encodes_shortString {tag : UInt8} {octets : List UInt8} {size : Nat} {data : Data}
    (simple : data.simple) (length : octets.length = size) (small : size ≤ 8)
    (carried : ∀ (memory : Memory) (address : Nat), memory.Holds address octets →
      data.Carried memory ⟨tag, address, size⟩) :
    Encodes (some (2 + size)) (encodeOctetString tag octets) data := by
  apply encodes_simple simple
  · have bound := length_encodeLength_le octets.length
    rw [length_tlv]
    omega
  · rw [length, determineLengthSize_short (by omega)]
  · rw [length]
    exact carried

theorem length_encodeOctetString (tag : UInt8) (octets : List UInt8) :
    (encodeOctetString tag octets).length = 1 + (encodeLength octets.length).length +
      octets.length :=
  length_tlv encodeLength tag octets

/-! ## Value trees -/

mutual

/-- No more octets are counted than are written. -/
theorem MmsValue.encodedSize_le : (value : MmsValue) → {size : Nat} → {octets : List UInt8} →
    value.encodedSize = some size → value.encodeMmsData = some octets → size ≤ octets.length
  | .complex type components, size, octets, counted, encoded => by
      simp only [MmsValue.encodedSize, MmsValue.encodeMmsData, Option.bind_eq_bind,
        Option.pure_def, Option.bind_eq_some_iff, Option.some.injEq] at counted encoded
      obtain ⟨elementsSize, known, rfl⟩ := counted
      obtain ⟨_, same, elements, written, rfl⟩ := encoded
      obtain rfl := Option.some.inj (known.symm.trans same)
      have least := componentsSize_le components known written
      have counted := determineLengthSize_le elementsSize
      rw [List.length_cons, List.length_append]
      omega
  | .boolean _, _, _, rfl, rfl => Nat.le_refl 3
  | .dataAccessError code, _, _, rfl, rfl => by
      have positive := length_encodeLength_pos (uInt32determineEncodedSize code)
      rw [List.length_append, length_encodeUInt32, encodeTL, List.length_cons]
      omega
  | .visibleString value, _, _, rfl, rfl => determineEncodedStringSize_le _ _
  | .unsigned value, _, _, rfl, rfl => encodedSize_le_primitive _ value
  | .integer value, _, _, rfl, rfl => encodedSize_le_primitive _ value
  | .utcTime value, _, _, rfl, rfl => by
      have positive := length_encodeLength_pos value.val.length
      rw [length_encodeOctetString, value.property] at *
      omega
  | .bitString value, _, _, rfl, rfl => by
      have grows := determineLengthSize_mono (Nat.le_add_right (bitStringByteSize value.size) 1)
      have counted := determineLengthSize_le (bitStringByteSize value.size + 1)
      have stored := value.stored
      simp only [determineEncodedBitStringSize, encodeBitString, List.length_cons,
        List.length_append, length_maskLast, List.length_take, stored]
      omega
  | .binaryTime value, _, _, rfl, rfl => by
      have positive := length_encodeLength_pos (value.buf.val.take value.size).length
      have fits := value.fits
      rw [length_encodeOctetString, List.length_take, value.buf.property] at *
      omega
  | .octetString value, _, _, rfl, rfl => by
      have counted := determineLengthSize_le value.size
      rw [length_encodeOctetString, List.length_take, value.stored, Nat.min_eq_left value.fits]
      omega
  | .float value, _, _, rfl, rfl => by
      have counted := encodes_float value
      exact Nat.le_of_eq (Option.some.inj counted.counted)
  | .string value, _, _, rfl, rfl => determineEncodedStringSize_le _ _
  | .unsupported _, _, _, rfl, rfl => Nat.le_refl 0

theorem componentsSize_le : (components : Components) → {size : Nat} → {octets : List UInt8} →
    componentsSize components = some size → encodeComponents components = some octets →
    size ≤ octets.length
  | [], _, _, rfl, rfl => Nat.le_refl 0
  | none :: _, _, _, counted, _ => by simp [componentsSize, componentSize] at counted
  | some value :: rest, size, octets, counted, encoded => by
      simp only [componentsSize, componentSize, encodeComponents, encodeComponent,
        Option.bind_eq_bind, Option.pure_def, Option.bind_eq_some_iff, Option.some.injEq]
        at counted encoded
      obtain ⟨first, knownFirst, others, knownOthers, rfl⟩ := counted
      obtain ⟨octets, written, remaining, writtenRest, rfl⟩ := encoded
      have here := value.encodedSize_le knownFirst written
      have later := componentsSize_le rest knownOthers writtenRest
      rw [List.length_append]
      omega

end

theorem encodesAll_nil : EncodesAll (some 0) [] [] where
  counted := rfl
  elements := ⟨[], rfl, fun _ _ _ => ⟨trivial, by simp [writtenElements]⟩⟩

theorem EncodesAll.cons {size others : Nat} {octets rest : List UInt8} {data : Data}
    {remaining : List Data} (first : Encodes (some size) octets data)
    (all : EncodesAll (some others) rest remaining) :
    EncodesAll (some (size + others)) (octets ++ rest) (data :: remaining) := by
  obtain ⟨counted, tag, content, rfl, carried⟩ := first
  obtain ⟨countedRest, items, rfl, carriedRest⟩ := all
  obtain rfl := Option.some.inj counted
  obtain rfl := Option.some.inj countedRest
  refine ⟨by rw [List.length_append], (tag, content) :: items, rfl, ?_⟩
  intro memory address held
  obtain ⟨here, later⟩ := Memory.holds_append.mp held
  obtain ⟨first, supplies⟩ := carried memory _ (holds_tlv.mp here).2.2
  obtain ⟨others, suppliesRest⟩ := carriedRest memory _ later
  exact ⟨⟨first, others⟩, List.forall_mem_cons.mpr ⟨supplies, suppliesRest⟩⟩

/-- The components of an array or a structure are carried by its content. -/
theorem EncodesAll.complex {type : ComplexType} {size : Nat} {octets : List UInt8}
    {data : List Data} (all : EncodesAll (some size) octets data)
    (short : (tlv encodeLength type.tag octets).length < 65535) :
    Encodes (some (1 + size + determineLengthSize size))
      (type.tag :: (encodeLength size ++ octets)) (.complex type data) := by
  obtain ⟨counted, items, rfl, carried⟩ := all
  obtain rfl := Option.some.inj counted
  apply encodes_tlv short (by omega)
  intro memory address held
  rw [length_tlv] at short
  obtain ⟨all, supplies⟩ := carried memory address held
  have scanned := @elements_tlvs memory address
    ((tlvs encodeLength items).length : Nat) (tlvs encodeLength items).length 0 encodeLength
    readsBack_encodeLength items held (Nat.zero_add _).symm (by omega) (Int.le_refl _)
  have complex : Element.kind ⟨type.tag, address, (tlvs encodeLength items).length⟩ =
      some (.complex type) := by cases type <;> rfl
  rw [Data.Carried]
  refine ⟨⟨complex, _, scanned, all⟩, .intro ?_ fun _ _ => ?_⟩
  · simp [complex]
  · dsimp only
    rw [scanned]
    exact supplies

mutual

/-- What is encoded for a well-formed value carries its data. -/
theorem MmsValue.encodes : (value : MmsValue) → value.WellFormed → {octets : List UInt8} →
    value.encodeMmsData = some octets → octets.length < 65535 →
    Encodes value.encodedSize octets value.data
  | .complex type components, wellFormed, octets, encoded, short => by
      simp only [MmsValue.encodeMmsData, Option.bind_eq_bind, Option.pure_def,
        Option.bind_eq_some_iff, Option.some.injEq] at encoded
      obtain ⟨size, counted, elements, written, rfl⟩ := encoded
      simp only [List.length_cons, List.length_append] at short
      have all := encodesAll components wellFormed written (by omega)
      rw [counted] at all
      have equal := Option.some.inj all.counted
      rw [MmsValue.encodedSize, counted]
      apply all.complex
      rw [length_tlv, ← equal]
      omega
  | .boolean value, _, _, rfl, _ => by
      apply @encodes_tlv 3 0x83 [if value then 0x01 else 0x00]
      · exact (by decide : 3 < 65535)
      · rfl
      · intro memory address held
        refine ⟨⟨rfl, ?_⟩, .intro (fun _ => Nat.one_pos) ?_⟩
        · rw [(Memory.holds_cons.mp held).1]
          cases value <;> rfl
        · simp [Element.kind, DataTag.ofOctet?]
  | .bitString _, wellFormed, _, rfl, short => encodes_bitString wellFormed short
  | .integer value, wellFormed, _, rfl, _ =>
      encodes_primitive rfl wellFormed.2 fun _ _ held =>
        ⟨rfl, wellFormed.2, (value.length_content ▸ held.octets).symm⟩
  | .unsigned value, wellFormed, _, rfl, _ =>
      encodes_primitive rfl wellFormed.2 fun _ _ held =>
        ⟨rfl, wellFormed.2, (value.length_content ▸ held.octets).symm⟩
  | .float value, _, _, rfl, _ => encodes_float value
  | .octetString _, _, _, rfl, short => encodes_octetString short
  | .visibleString _, wellFormed, _, rfl, short => encodes_visibleString wellFormed short
  | .binaryTime value, wellFormed, _, rfl, _ => by
      have length : (value.buf.val.take value.size).length = value.size := by
        simp [value.buf.property, value.fits]
      have small : value.size ≤ 6 := value.fits
      apply encodes_shortString rfl length (by omega)
      exact fun _ _ held => ⟨rfl, wellFormed, (length ▸ held.octets).symm⟩
  | .utcTime value, _, _, rfl, _ =>
      encodes_shortString rfl value.property (Nat.le_refl 8) fun _ _ held =>
        ⟨rfl, rfl, (value.property ▸ held.octets).symm⟩

theorem encodesAll : (components : Components) → ComponentsWellFormed components →
    {octets : List UInt8} → encodeComponents components = some octets →
    octets.length < 65535 →
    EncodesAll (componentsSize components) octets (componentsData components)
  | [], _, _, rfl, _ => encodesAll_nil
  | component :: rest, wellFormed, octets, encoded, short => by
      simp only [encodeComponents, Option.bind_eq_bind, Option.pure_def, Option.bind_eq_some_iff,
        Option.some.injEq] at encoded
      obtain ⟨first, written, others, writtenRest, rfl⟩ := encoded
      rw [List.length_append] at short
      cases component with
      | none => exact wellFormed.1.elim
      | some value =>
          have head := value.encodes wellFormed.1 written (by omega)
          have tail := encodesAll rest wellFormed.2 writtenRest (by omega)
          rw [componentsSize, componentSize, head.counted, tail.counted]
          rw [head.counted] at head
          rw [tail.counted] at tail
          exact EncodesAll.cons head tail

end

end GridGooseSV
