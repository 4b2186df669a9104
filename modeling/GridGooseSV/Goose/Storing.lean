import GridGooseSV.Goose.Acceptance
import GridGooseSV.Goose.Events
import GridGooseSV.Mms.LengthPass

/-!
# What an update writes

`parseAllData` writes content octets into storage that a value owns, and every type has a test of
its own for the room there. The test of bit strings compares numbers of bits, from which a padding
octet of eight or more takes whole octets away; these are copied all the same.
-/

namespace GridGooseSV

open BerDecoder

/-! ## Copies -/

/-- A copy is one of the writes. -/
def Access.CopiesAmong (writes : List StorageWrite) : Access → Prop
  | .copy count capacity => ⟨0, count, capacity⟩ ∈ writes
  | _ => True

/-- Whatever `parseAllData` copies is among its writes. -/
theorem copies_parseAllData {memory : Memory} {buffer allDataLength : Nat}
    {dataSetValues : Components} :
    (parseAllData memory buffer allDataLength dataSetValues).Always
      (Access.CopiesAmong (parseAllDataWrites memory buffer allDataLength dataSetValues)) := by
  apply always_updateLoop
  case reads => exact fun _ _ _ => trivial
  case ints => exact fun _ => trivial
  case copies => exact fun _ _ among => among

/-! ## Well-stored values -/

/-- The storage of a value has the size that the value says. -/
def MmsValue.WellStored : MmsValue → Prop
  | .bitString bits => bits.buf.length = (bits.size + 7) / 8
  | .integer number | .unsigned number =>
    number.octets.length = number.maxSize ∧ number.size ≤ number.maxSize
  -- The size is kept in 16 bits, which can but make it smaller.
  | .octetString octets =>
    octets.buf.length = octets.maxSize.natAbs ∧ octets.size ≤ octets.maxSize.natAbs
  | .visibleString text => ∀ buf ∈ text.buf, text.size + 1 ≤ buf.length
  | _ => True

theorem MmsValue.wellStored (value : MmsValue) : value.WellStored := by
  cases value with
  | bitString bits =>
      have stored := bits.stored
      change bits.buf.length = (bits.size + 7) / 8
      rw [stored, bitStringByteSize]
      split <;> omega
  | integer number => exact ⟨number.stored, number.fits⟩
  | unsigned number => exact ⟨number.stored, number.fits⟩
  | octetString octets => exact ⟨octets.stored, octets.fits⟩
  | visibleString text => exact fun buf present => (text.stored buf present).1
  | _ => trivial

mutual

theorem MmsValue.every_wellStored : (value : MmsValue) → value.Every MmsValue.WellStored
  | .complex type components =>
    ⟨(MmsValue.complex type components).wellStored, componentsEvery_wellStored components⟩
  | .dataAccessError _ | .boolean _ | .float _ | .string _ | .binaryTime _ | .utcTime _
  | .unsupported _ => trivial
  | .bitString value => (MmsValue.bitString value).wellStored
  | .integer value => (MmsValue.integer value).wellStored
  | .unsigned value => (MmsValue.unsigned value).wellStored
  | .octetString value => (MmsValue.octetString value).wellStored
  | .visibleString value => (MmsValue.visibleString value).wellStored

theorem componentsEvery_wellStored : (components : Components) →
    ComponentsEvery MmsValue.WellStored components
  | [] => trivial
  | component :: rest => ⟨componentEvery_wellStored component, componentsEvery_wellStored rest⟩

theorem componentEvery_wellStored : (component : Option MmsValue) →
    ComponentEvery MmsValue.WellStored component
  | none => trivial
  | some value => value.every_wellStored

end

/-- An update writes into storage that the values own, and leaves them well stored. -/
structure KeepsStorage (memory : Memory) (address length : Nat) (components : Components) :
    Prop where
  inside : ∀ write ∈ parseAllDataWrites memory address length components, write.Inside
  wellStored : ComponentsEvery MmsValue.WellStored
    (parseAllData memory address length components).value.2

/-! ## Bit strings with too much padding -/

mutual

/-- No bit string that an element is decoded into has eight or more bits of padding. -/
def MmsValue.Unpadded (memory : Memory) (element : Element) (kind : DataTag) : MmsValue → Prop
  | .complex type components => kind = .complex type →
    ComponentsUnpadded memory
      (elements memory element.address element.length element.length 0).elements components
  | .bitString value => kind = .bitString →
    8 * ((element.length : Int) - 1) - (memory element.address).toNat = value.size →
      memory element.address < 8
  | _ => True

/-- The same for the elements of components, up to the first that does not pass. -/
def ComponentsUnpadded (memory : Memory) (parts : List Element) : Components → Prop
  | [] => True
  | component :: rest => ∀ element others, parts = element :: others →
    ComponentUnpadded memory element component ∧
      (ComponentPasses memory element component → ComponentsUnpadded memory others rest)

def ComponentUnpadded (memory : Memory) (element : Element) : Option MmsValue → Prop
  | none => True
  | some value => ∀ kind, element.kind = some kind → value.Unpadded memory element kind

end

theorem componentsUnpadded_cons {memory : Memory} {element : Element} {others : List Element}
    {component : Option MmsValue} {rest : Components} :
    ComponentsUnpadded memory (element :: others) (component :: rest) ↔
      ComponentUnpadded memory element component ∧
        (ComponentPasses memory element component → ComponentsUnpadded memory others rest) := by
  rw [ComponentsUnpadded]
  constructor
  · exact fun unpadded => unpadded element others rfl
  · rintro unpadded _ _ ⟨⟩
    exact unpadded

theorem inside_newStringWrites (elementLength : Nat) :
    ∀ write ∈ newStringWrites elementLength, write.Inside := by
  simp [newStringWrites, StorageWrite.Inside]

/-- A single write that depends on a condition. -/
theorem inside_single_iff {condition : Prop} [Decidable condition] {count capacity : Nat} :
    (∀ write ∈ (if condition then [⟨0, count, capacity⟩] else [] : List StorageWrite),
        write.Inside) ↔ (condition → count ≤ capacity) := by
  split_ifs with holds
  · simp [StorageWrite.Inside, holds]
  · simp [holds]

theorem inside_primitiveWrites (elementLength : Nat) (value : Asn1PrimitiveValue) :
    ∀ write ∈ primitiveWrites elementLength value, write.Inside := by
  rw [primitiveWrites, inside_single_iff, value.stored]
  exact id

theorem inside_octetStringWrites (elementLength : Nat) (value : OctetString) :
    ∀ write ∈ octetStringWrites elementLength value, write.Inside := by
  unfold octetStringWrites
  split
  · simpa [StorageWrite.Inside, value.stored]
  · simp [StorageWrite.Inside]

theorem inside_visibleStringWrites (elementLength : Nat) (value : VisibleString) :
    ∀ write ∈ visibleStringWrites elementLength value, write.Inside := by
  unfold visibleStringWrites
  split
  · exact inside_newStringWrites elementLength
  · rename_i buf present
    have stored := (value.stored buf present).1
    split
    · simp only [StorageWrite.Inside, List.forall_mem_cons, List.not_mem_nil, false_imp_iff,
        implies_true, and_true]
      omega
    · exact inside_newStringWrites elementLength

/-- A bit string has room for the octets of its bits and no more. -/
theorem inside_bitStringWrite_iff {bits : BitString} {elementLength padding : Nat}
    (size : 8 * ((elementLength : Int) - 1) - padding = bits.size) :
    elementLength - 1 ≤ bits.buf.length ↔ padding < 8 := by
  have stored := bits.stored
  unfold bitStringByteSize at stored
  split at stored <;> omega

/-- The writes for an element are inside exactly if there is not too much padding, if that is so
for nested elements. -/
theorem inside_elementWrites_iff {memory : Memory} {element : Element}
    {nested : Nat → Nat → Components → List StorageWrite}
    (nestedIff : ∀ components, (∀ write ∈ nested element.address element.length components,
        write.Inside) ↔
      ComponentsUnpadded memory
        (elements memory element.address element.length element.length 0).elements components)
    (value : MmsValue) :
    (∀ write ∈ elementWrites memory nested element.tag element.address element.length value,
        write.Inside) ↔ ComponentUnpadded memory element (some value) := by
  unfold ComponentUnpadded
  cases kind : element.kind with
  | none =>
      unfold Element.kind at kind
      simp [elementWrites, kind]
  | some tag =>
      unfold Element.kind at kind
      simp only [Option.some.injEq, forall_eq']
      unfold elementWrites
      rw [kind]
      cases tag with
      | complex expected =>
          cases value with
          | complex type components =>
              by_cases same : type = expected
              · subst same
                simp [MmsValue.Unpadded, nestedIff]
              · simp [MmsValue.Unpadded, same, Ne.symm same]
          | _ => simp [MmsValue.Unpadded]
      | bitString =>
          cases value with
          | bitString bits =>
              dsimp only
              rw [inside_single_iff, MmsValue.Unpadded, forall_prop_of_true rfl]
              exact forall_congr' fun size => inside_bitStringWrite_iff size
          | _ => simp [MmsValue.Unpadded]
      | integer =>
          cases value with
          | integer number => exact iff_of_true (inside_primitiveWrites _ number) trivial
          | _ => simp [MmsValue.Unpadded]
      | unsigned =>
          cases value with
          | unsigned number => exact iff_of_true (inside_primitiveWrites _ number) trivial
          | _ => simp [MmsValue.Unpadded]
      | octetString =>
          cases value with
          | octetString octets => exact iff_of_true (inside_octetStringWrites _ octets) trivial
          | _ => simp [MmsValue.Unpadded]
      | visibleString =>
          cases value with
          | visibleString text => exact iff_of_true (inside_visibleStringWrites _ text) trivial
          | _ => simp [MmsValue.Unpadded]
      | float =>
          cases value with
          | float number =>
              have width : number.width.formatWidth / 8 ≤ 8 := by
                cases number.width <;> decide
              refine iff_of_true (inside_single_iff.mpr fun _ => ?_) trivial
              rw [number.buf.property]
              exact width
          | _ => simp [MmsValue.Unpadded]
      | binaryTime =>
          cases value with
          | binaryTime time =>
              refine iff_of_true (inside_single_iff.mpr fun length => ?_) trivial
              rw [time.buf.property]
              omega
          | _ => simp [MmsValue.Unpadded]
      | utcTime =>
          cases value with
          | utcTime time =>
              refine iff_of_true (inside_single_iff.mpr fun _ => ?_) trivial
              rw [time.property]
          | _ => simp [MmsValue.Unpadded]
      | _ => cases value <;> simp [MmsValue.Unpadded, StorageWrite.Inside]

/-- The writes for the next element and the next component, and those behind them. -/
theorem updateWrites_cons {memory : Memory} {buffer allDataLength fuel bufPos : Nat}
    (inside : bufPos < allDataLength) (done : Components) (value : MmsValue)
    (rest : Components) :
    updateWrites memory (fuel + 1) buffer allDataLength bufPos done.length
        (done ++ some value :: rest) =
      match (decodeLength memory buffer allDataLength (bufPos + 1)).value with
      | none => []
      | some (start, length) =>
        let after := (updateElement memory
          (fun buffer allDataLength => updateLoop memory fuel buffer allDataLength 0 0)
          (memory (buffer + bufPos)) (buffer + start) length value).value
        elementWrites memory
            (fun buffer allDataLength => updateWrites memory fuel buffer allDataLength 0 0)
            (memory (buffer + bufPos)) (buffer + start) length value ++
          if after.1 ≠ .noError then []
          else
            let done := done ++ [some after.2]
            updateWrites memory fuel buffer allDataLength (start + length) done.length
              (done ++ rest) := by
  have written := updateWrites.eq_2 memory buffer allDataLength bufPos done.length
    (done ++ some value :: rest) fuel
  rw [if_pos inside] at written
  simp only [getElement_boundary, set_boundary, List.length_append, List.length_singleton,
    List.append_assoc, List.singleton_append] at written ⊢
  exact written

/-- The writes of the loop are inside exactly if there is not too much padding in what is left. -/
theorem inside_updateWrites_iff {memory : Memory} {buffer allDataLength fuel bufPos : Nat}
    {done components : Components} (enough : allDataLength - bufPos ≤ fuel) :
    (∀ write ∈ updateWrites memory fuel buffer allDataLength bufPos done.length
        (done ++ components), write.Inside) ↔
      ComponentsUnpadded memory
        (elements memory buffer allDataLength allDataLength bufPos).elements components := by
  apply updateLoop_induction (motive := fun fuel buffer allDataLength bufPos done components =>
    (∀ write ∈ updateWrites memory fuel buffer allDataLength bufPos done.length
        (done ++ components), write.Inside) ↔
      ComponentsUnpadded memory
        (elements memory buffer allDataLength allDataLength bufPos).elements components)
  case ended =>
    intro fuel _ _ _ _ components ended
    rw [elements_end ended]
    cases fuel with
    | zero => cases components <;> simp [updateWrites, ComponentsUnpadded]
    | succ fuel =>
        rw [updateWrites, if_neg (Nat.not_lt.mpr ended)]
        cases components <;> simp [ComponentsUnpadded]
  case surplus =>
    intro _ _ _ _ _ _
    simp [updateWrites, MmsValue.getElement, ComponentsUnpadded]
  case missing =>
    intro _ _ _ _ _ _ _
    simp [updateWrites, MmsValue.getElement, ComponentsUnpadded, ComponentUnpadded,
      ComponentPasses]
  case malformed =>
    intro _ _ _ _ _ _ _ inside decoded
    rw [updateWrites_cons inside, decoded, elements_malformed inside decoded]
    simp [ComponentsUnpadded]
  case decoded =>
    intro fuel buffer _ bufPos start length _ value _ inside decoded short nested rest
    have accepted := @updateElement_passes_iff memory
      ⟨memory (buffer + bufPos), buffer + start, length⟩ fuel short value
    have first := @inside_elementWrites_iff memory
      ⟨memory (buffer + bufPos), buffer + start, length⟩
      (fun buffer allDataLength => updateWrites memory fuel buffer allDataLength 0 0) nested value
    rw [updateWrites_cons inside, decoded, elements_next inside decoded, Scan.cons,
      componentsUnpadded_cons]
    dsimp only
    rw [List.forall_mem_append, first, ← accepted]
    refine and_congr_right' ?_
    split_ifs with failed
    · exact iff_of_true (by simp) fun passed => absurd passed failed
    · rw [rest, forall_prop_of_true (not_not.mp failed)]
  case enough => exact enough

/-- An update writes only into storage of the values, and leaves them well stored, if and only if
there is no bit string with too much padding. -/
theorem parseAllData_keepsStorage_iff {memory : Memory} {address length : Nat}
    {components : Components} :
    KeepsStorage memory address length components ↔
      ComponentsUnpadded memory (elements memory address length length 0).elements
        components := by
  rw [← @inside_updateWrites_iff memory address length length 0 [] components (by omega)]
  exact ⟨KeepsStorage.inside, fun inside => ⟨inside, componentsEvery_wellStored _⟩⟩

/-- A bit string of one bit. -/
def oneBit : Components := [some (.bitString (MmsValue.newBitString 1))]

/-- The number of bits is right with 255 bits of padding: 32 octets are copied into one. -/
theorem parseAllData_overruns :
    ¬ KeepsStorage (Memory.ofOctets ([0x84, 33, 255] ++ List.replicate 32 0) fun _ => 0) 0 35
      oneBit := by
  intro keeps
  have outside : ⟨0, 32, 1⟩ ∈ parseAllDataWrites
      (Memory.ofOctets ([0x84, 33, 255] ++ List.replicate 32 0) fun _ => 0) 0 35 oneBit := by
    decide +kernel
  have inside := keeps.inside _ outside
  contradiction

end GridGooseSV
