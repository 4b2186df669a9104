import GridGooseSV.Ber.Length
import GridGooseSV.Goose.DataSet
import GridGooseSV.Mms.Data

/-!
# Octets that carry data

When a string of elements carries given data, told without reference to either
decoder, and the decoder for unknown data sets: it builds a value without missing
components exactly from octets that carry data, and then the value is that data.
-/

namespace GridGooseSV

open BerDecoder

/-- What a data set takes an element for. -/
def Element.kind (element : Element) : Option DataTag := DataTag.ofOctet? element.tag

/-- The number of bits in the content of a bit string element: the first content
octet counts the padding bits. -/
def Element.bitCount (element : Element) (memory : Memory) : Nat :=
  8 * (element.length - 1) - (memory element.address).toNat

/-- The content octets fill the storage of a bit string of that many bits. -/
theorem overwrite_bitString {memory : Memory} {element : Element} (long : 1 < element.length)
    (padding : (memory element.address).toNat ≤ 7) (storage : BitString)
    (size : storage.size = element.bitCount memory) :
    overwrite storage.buf (memory.octets (element.address + 1) (element.length - 1)) =
      memory.octets (element.address + 1) (element.length - 1) := by
  have bytes : bitStringByteSize (element.bitCount memory) = element.length - 1 := by
    apply bitStringByteSize_eq <;> unfold Element.bitCount <;> omega
  have kept := take_overwrite storage.buf
    (memory.octets (element.address + 1) (element.length - 1))
    (by rw [storage.stored, size, bytes, Memory.length_octets])
  rwa [List.take_of_length_le
    (by rw [length_overwrite, storage.stored, size, bytes, Memory.length_octets])] at kept

namespace Data

mutual

/-- An element carries data. -/
def Carried (memory : Memory) : Data → Element → Prop
  | .complex type components, element =>
    element.kind = some (.complex type) ∧ ∃ parts,
      elements memory element.address element.length element.length 0 = ⟨parts, true⟩ ∧
        AllCarried memory components parts
  | .boolean value, element =>
    element.kind = some .boolean ∧ value = decide (memory element.address ≠ 0)
  | .bitString bits, element =>
    element.kind = some .bitString ∧ 1 < element.length ∧ (memory element.address).toNat ≤ 7 ∧
      bits = bitsOf (memory.octets (element.address + 1) (element.length - 1))
        (element.bitCount memory)
  | .integer octets, element =>
    element.kind = some .integer ∧ element.length ≤ 8 ∧ octets = element.content memory
  | .unsigned octets, element =>
    element.kind = some .unsigned ∧ element.length ≤ 8 ∧ octets = element.content memory
  | .float width octets, element =>
    element.kind = some .float ∧ element.length = width.formatWidth / 8 + 1 ∧
      octets = (memory.octets (element.address + 1) (width.formatWidth / 8)).reverse
  | .octetString octets, element =>
    element.kind = some .octetString ∧ octets = element.content memory
  | .visibleString text, element =>
    element.kind = some .visibleString ∧ text = some (cString (element.content memory))
  | .binaryTime octets, element =>
    element.kind = some .binaryTime ∧ (element.length = 4 ∨ element.length = 6) ∧
      octets = element.content memory
  | .utcTime octets, element =>
    element.kind = some .utcTime ∧ element.length = 8 ∧ octets = element.content memory
  | .missing, _ => False
  | .dataAccessError _, _ => False
  | .string _, _ => False
  | .unsupported, _ => False

/-- A string of elements carries a list of data. -/
def AllCarried (memory : Memory) : List Data → List Element → Prop
  | [], [] => True
  | data :: others, element :: rest => data.Carried memory element ∧ AllCarried memory others rest
  | _, _ => False

end

/-- The octets of a range carry a list of data. -/
def CarriedAt (memory : Memory) (address length : Nat) (data : List Data) : Prop :=
  ∃ parts, elements memory address length length 0 = ⟨parts, true⟩ ∧
    AllCarried memory data parts

end Data

/-- An element has the octets that are always read of it, and every element in it: no boolean and
no bit string is empty. -/
inductive Element.Supplies (memory : Memory) : Element → Prop
  | intro {element : Element}
      (content : element.kind = some .boolean ∨ element.kind = some .bitString →
        0 < element.length)
      (components : ∀ type, element.kind = some (.complex type) →
        ∀ part ∈ (elements memory element.address element.length element.length 0).elements,
          part.Supplies memory) : element.Supplies memory

namespace Data

/-- Data without components, of which no octet is read unless there is one. -/
def simple : Data → Bool
  | complex .. | boolean _ => false
  | _ => true

/-- An element that carries such data has the octets that are always read of it. -/
theorem supplies_of_carried {memory : Memory} {data : Data} {element : Element}
    (carried : data.Carried memory element) (simple : data.simple) : element.Supplies memory := by
  cases data with
  | complex _ _ => contradiction
  | boolean _ => contradiction
  | bitString bits =>
      exact .intro (fun _ => Nat.lt_trans Nat.zero_lt_one carried.2.1) (by simp [carried.1])
  | missing => exact carried.elim
  | dataAccessError _ => exact carried.elim
  | string _ => exact carried.elim
  | unsupported => exact carried.elim
  | _ => exact .intro (by simp [carried.1]) (by simp [carried.1])

theorem kind_of_carried {memory : Memory} {data : Data} {element : Element}
    (carried : data.Carried memory element) : element.kind.isSome := by
  cases data <;> simp only [Carried] at carried <;> first | contradiction | simp [carried.1]

mutual

/-- What is carried has no missing components. -/
theorem whole_of_carried {memory : Memory} : (data : Data) → {element : Element} →
    data.Carried memory element → data.Whole
  | .complex _ components, _, carried => by
      obtain ⟨_, _, _, all⟩ := carried
      exact allWhole_of_allCarried components all
  | .boolean _, _, _ => trivial
  | .bitString _, _, _ => trivial
  | .integer _, _, _ => trivial
  | .unsigned _, _, _ => trivial
  | .float _ _, _, _ => trivial
  | .octetString _, _, _ => trivial
  | .visibleString _, _, _ => trivial
  | .binaryTime _, _, _ => trivial
  | .utcTime _, _, _ => trivial

theorem allWhole_of_allCarried {memory : Memory} : (data : List Data) → {parts : List Element} →
    AllCarried memory data parts → AllWhole data
  | [], _, _ => trivial
  | data :: others, _ :: _, carried =>
      ⟨whole_of_carried data carried.1, allWhole_of_allCarried others carried.2⟩

end

theorem CarriedAt.whole {memory : Memory} {address length : Nat} {data : List Data}
    (carried : CarriedAt memory address length data) : AllWhole data := by
  obtain ⟨_, _, all⟩ := carried
  exact allWhole_of_allCarried data all

end Data

section Counting

variable {memory : Memory} {buffer allDataLength : Nat}

theorem value_countElements_succ (fuel bufPos elementIndex : Nat) :
    (countElements memory buffer allDataLength (fuel + 1) bufPos elementIndex).value =
      if bufPos < allDataLength then
        match (decodeLength memory buffer allDataLength (bufPos + 1)).value with
        | none => none
        | some (start, length) =>
          match DataTag.ofOctet? (memory (buffer + bufPos)) with
          | none => none
          | some _ =>
            (countElements memory buffer allDataLength fuel (start + length)
              (elementIndex + 1)).value
      else some elementIndex := by
  simp only [countElements, ↓Memory.value_bind_read, Traced.value_ite, Traced.value_bind,
    Traced.value_pure]
  rcases (decodeLength memory buffer allDataLength (bufPos + 1)).value with _ | ⟨start, length⟩
  · rfl
  · cases DataTag.ofOctet? (memory (buffer + bufPos)) <;> rfl

/-- The count of a complete string of known elements. -/
theorem countElements_eq {parts : List Element} {fuel bufPos elementIndex : Nat}
    (enough : allDataLength - bufPos ≤ fuel)
    (scanned : elements memory buffer allDataLength allDataLength bufPos = ⟨parts, true⟩)
    (known : ∀ element ∈ parts, element.kind.isSome) :
    (countElements memory buffer allDataLength fuel bufPos elementIndex).value =
      some (elementIndex + parts.length) := by
  induction fuel generalizing parts bufPos elementIndex with
  | zero =>
      rw [elements_end (by omega)] at scanned
      obtain ⟨rfl, _⟩ := Scan.mk.inj scanned
      rfl
  | succ fuel ih =>
      rw [value_countElements_succ]
      cases parts with
      | nil => rw [if_neg (Nat.not_lt.mpr (elements_eq_nil.mp scanned))]; rfl
      | cons element rest =>
          obtain ⟨inside, start, length, decoded, first, others⟩ := elements_eq_cons.mp scanned
          obtain ⟨tag, kind⟩ := Option.isSome_iff_exists.mp (known element List.mem_cons_self)
          have later := decodeLength_advances decoded
          simp only [first, Element.kind] at kind
          simp only [if_pos inside, decoded, kind]
          rw [ih (by omega) others
            fun element member => known element (List.mem_cons_of_mem _ member), List.length_cons]
          congr 1
          omega

/-- A count is the count of a complete string of known elements. -/
theorem elements_of_countElements {count fuel bufPos elementIndex : Nat}
    (enough : allDataLength - bufPos ≤ fuel)
    (counted : (countElements memory buffer allDataLength fuel bufPos elementIndex).value =
      some count) :
    ∃ parts, elements memory buffer allDataLength allDataLength bufPos = ⟨parts, true⟩ ∧
      count = elementIndex + parts.length ∧ ∀ element ∈ parts, element.kind.isSome := by
  induction fuel generalizing bufPos elementIndex with
  | zero =>
      refine ⟨[], elements_end (by omega), ?_, by simp⟩
      simpa [countElements, eq_comm] using counted
  | succ fuel ih =>
      rw [value_countElements_succ] at counted
      by_cases inside : bufPos < allDataLength
      · rw [if_pos inside] at counted
        cases decoded : (decodeLength memory buffer allDataLength (bufPos + 1)).value with
        | none => simp [decoded] at counted
        | some result =>
            obtain ⟨start, length⟩ := result
            have later := decodeLength_advances decoded
            simp only [decoded] at counted
            cases kind : DataTag.ofOctet? (memory (buffer + bufPos)) with
            | none => simp [kind] at counted
            | some tag =>
                simp only [kind] at counted
                obtain ⟨parts, scanned, total, known⟩ := ih (by omega) counted
                refine ⟨_ :: parts, elements_eq_cons.mpr
                  ⟨inside, start, length, decoded, rfl, scanned⟩, ?_, ?_⟩
                · rw [total, List.length_cons]
                  omega
                · intro element member
                  rcases List.mem_cons.mp member with rfl | member
                  · simp [Element.kind, kind]
                  · exact known element member
      · rw [if_neg inside] at counted
        refine ⟨[], elements_end (by omega), ?_, by simp⟩
        simpa [eq_comm] using counted

end Counting

end GridGooseSV
