import GridGooseSV.Ber.Bounds
import GridGooseSV.Goose.Receiver

/-!
# What the decoders do

An element is decoded by reads of its octets and by copies into storage. The first octet of a
boolean, and of a bit string that is updated, is read in any case; the copies of an update are
among its writes. What is said of such events holds of the decoders as a whole.
-/

namespace GridGooseSV

open BerDecoder

/-- Octets that are written into storage. -/
structure StorageWrite where
  offset : Nat
  count : Nat
  /-- the octets of the storage -/
  capacity : Nat
  deriving DecidableEq, Repr

/-- The octets lie in the storage. -/
def StorageWrite.Inside (write : StorageWrite) : Prop :=
  write.offset + write.count ≤ write.capacity

/-! ## The writes of the decoder -/

/-- The writes of `createNewStringFromBufferElement` into new storage. -/
def newStringWrites (elementLength : Nat) : List StorageWrite :=
  [⟨0, elementLength, elementLength + 1⟩, ⟨elementLength, 1, elementLength + 1⟩]

/-- The writes for an integer or unsigned element. -/
def primitiveWrites (elementLength : Nat) (value : Asn1PrimitiveValue) : List StorageWrite :=
  if elementLength ≤ value.maxSize then [⟨0, elementLength, value.octets.length⟩] else []

/-- The writes for an octet string. -/
def octetStringWrites (elementLength : Nat) (value : OctetString) : List StorageWrite :=
  if elementLength ≤ value.maxSize.natAbs then [⟨0, elementLength, value.buf.length⟩]
  else [⟨0, elementLength, elementLength⟩]

/-- The writes for a visible string: its octets and the terminator. -/
def visibleStringWrites (elementLength : Nat) (value : VisibleString) : List StorageWrite :=
  match value.buf with
  | none => newStringWrites elementLength
  | some buf =>
    if value.size ≥ elementLength then
      [⟨0, elementLength, buf.length⟩, ⟨elementLength, 1, buf.length⟩]
    else newStringWrites elementLength

/-- The writes of the `switch` of `parseAllData` for one element whose content starts at
`address`; those for components are `nested`. -/
def elementWrites (memory : Memory)
    (nested : (buffer allDataLength : Nat) → Components → List StorageWrite)
    (tag : UInt8) (address elementLength : Nat) (value : MmsValue) : List StorageWrite :=
  match DataTag.ofOctet? tag, value with
  | some (.complex expected), .complex type components =>
    if type = expected then nested address elementLength components else []
  | some .boolean, .boolean _ => [⟨0, 1, 1⟩]
  | some .bitString, .bitString bits =>
    let bitStringLength : Int := 8 * ((elementLength : Int) - 1) - (memory address).toNat
    if bitStringLength = bits.size then [⟨0, elementLength - 1, bits.buf.length⟩] else []
  | some .integer, .integer number => primitiveWrites elementLength number
  | some .unsigned, .unsigned number => primitiveWrites elementLength number
  | some .float, .float number =>
    if elementLength = 9 ∨ elementLength = 5 then
      [⟨0, number.width.formatWidth / 8, number.buf.val.length⟩]
    else []
  | some .octetString, .octetString octets => octetStringWrites elementLength octets
  | some .visibleString, .visibleString string => visibleStringWrites elementLength string
  | some .binaryTime, .binaryTime time =>
    if elementLength = 4 ∨ elementLength = 6 then [⟨0, elementLength, time.buf.val.length⟩] else []
  | some .utcTime, .utcTime time =>
    if elementLength = 8 then [⟨0, 8, time.val.length⟩] else []
  | _, _ => []

/-- The writes of the loop of `parseAllData`, in order. -/
def updateWrites (memory : Memory) : (fuel buffer allDataLength bufPos elementIndex : Nat) →
    Components → List StorageWrite
  | 0, _, _, _, _, _ => []
  | fuel + 1, buffer, allDataLength, bufPos, elementIndex, dataSetValues =>
    if bufPos < allDataLength then
      match MmsValue.getElement dataSetValues elementIndex with
      | none => []
      | some value =>
        match (decodeLength memory buffer allDataLength (bufPos + 1)).value with
        | none => []
        | some (start, elementLength) =>
          let tag := memory (buffer + bufPos)
          let after := (updateElement memory
            (fun buffer allDataLength => updateLoop memory fuel buffer allDataLength 0 0)
            tag (buffer + start) elementLength value).value
          elementWrites memory
              (fun buffer allDataLength => updateWrites memory fuel buffer allDataLength 0 0)
              tag (buffer + start) elementLength value ++
            if after.1 ≠ .noError then []
            else updateWrites memory fuel buffer allDataLength (start + elementLength)
              (elementIndex + 1) (dataSetValues.set elementIndex (some after.2))
    else []

/-- The writes of `parseAllData`, in order. -/
def parseAllDataWrites (memory : Memory) (buffer allDataLength : Nat)
    (dataSetValues : Components) : List StorageWrite :=
  updateWrites memory allDataLength buffer allDataLength 0 0 dataSetValues

/-! ## Events -/

/-- The octets of a range may be read. -/
def AllowsReads (predicate : Access → Prop) (first last : Nat) : Prop :=
  ∀ position, first ≤ position → position < last → predicate (.read position)

/-- The copies of writes may be made. -/
def AllowsCopies (predicate : Access → Prop) (writes : List StorageWrite) : Prop :=
  ∀ count capacity, ⟨0, count, capacity⟩ ∈ writes → predicate (.copy count capacity)

section Events

variable {predicate : Access → Prop}

theorem AllowsReads.within {first last bottom top : Nat}
    (reads : AllowsReads predicate first last) (above : first ≤ bottom) (below : top ≤ last) :
    AllowsReads predicate bottom top :=
  fun position lower upper =>
    reads position (Nat.le_trans above lower) (Nat.lt_of_lt_of_le upper below)

theorem AllowsCopies.subset {some all : List StorageWrite} (copies : AllowsCopies predicate all)
    (subset : some ⊆ all) : AllowsCopies predicate some :=
  fun count capacity among => copies count capacity (subset among)

variable {memory : Memory} {address elementLength : Nat}

theorem always_memcpy {source count capacity : Nat}
    (reads : AllowsReads predicate source (source + count))
    (copy : predicate (.copy count capacity)) :
    (memcpy memory source count capacity).Always predicate :=
  .bind (Memory.always_readOctets.mpr reads)
    (.bind (Traced.always_emit _ |>.mpr copy) (Traced.always_pure _))

section Content

variable (reads : AllowsReads predicate address (address + elementLength))
include reads

theorem always_updatePrimitive {value : Asn1PrimitiveValue}
    (copies : AllowsCopies predicate (primitiveWrites elementLength value)) :
    (updatePrimitive memory address elementLength value).Always predicate := by
  unfold updatePrimitive
  split
  · rename_i fits
    refine .bind (always_memcpy reads (copies _ _ ?_)) (Traced.always_pure _)
    rw [primitiveWrites, if_pos fits, value.stored]
    exact List.mem_singleton_self _
  · exact Traced.always_pure _

theorem always_updateOctetString {value : OctetString}
    (copies : AllowsCopies predicate (octetStringWrites elementLength value)) :
    (updateOctetString memory address elementLength value).Always predicate := by
  unfold octetStringWrites at copies
  unfold updateOctetString
  split
  · rename_i fits
    refine .bind (always_memcpy reads (copies _ _ ?_)) (Traced.always_pure _)
    rw [if_pos fits, value.stored]
    exact List.mem_singleton_self _
  · rename_i long
    refine .bind (always_memcpy reads (copies _ _ ?_)) (Traced.always_pure _)
    rw [if_neg long]
    exact List.mem_singleton_self _

theorem always_createNewStringFromBufferElement
    (copies : AllowsCopies predicate (newStringWrites elementLength)) :
    (createNewStringFromBufferElement memory address elementLength).Always predicate :=
  .bind (always_memcpy reads (copies _ _ List.mem_cons_self)) (Traced.always_pure _)

theorem always_updateVisibleString {value : VisibleString}
    (copies : AllowsCopies predicate (visibleStringWrites elementLength value)) :
    (updateVisibleString memory address elementLength value).Always predicate := by
  unfold updateVisibleString
  split
  · rename_i absent
    rw [visibleStringWrites, absent] at copies
    exact always_createNewStringFromBufferElement reads copies
  · rename_i buf present
    have chosen : visibleStringWrites elementLength value = if value.size ≥ elementLength then
        [⟨0, elementLength, buf.length⟩, ⟨elementLength, 1, buf.length⟩]
        else newStringWrites elementLength := by
      rw [visibleStringWrites, present]
    rw [chosen] at copies
    split
    · rename_i fits
      rw [if_pos fits] at copies
      exact .bind (always_memcpy reads (copies _ _ List.mem_cons_self)) (Traced.always_pure _)
    · rename_i long
      rw [if_neg long] at copies
      exact always_createNewStringFromBufferElement reads copies

theorem always_decodeDouble (length : elementLength = 9) :
    (decodeDouble memory address 0).Always predicate :=
  (@Memory.always_readOctets memory _ 8 predicate).mpr (reads.within (by omega) (by omega))

theorem always_decodeFloat (length : elementLength = 5) :
    (decodeFloat memory address 0).Always predicate :=
  (@Memory.always_readOctets memory _ 4 predicate).mpr (reads.within (by omega) (by omega))

/-- Updating one value reads its element and copies what is written. -/
theorem always_updateElement {tag : UInt8} {value : MmsValue}
    {nested : Nat → Nat → Components → Traced Access (GooseParseError × Components)}
    (nestedWrites : Nat → Nat → Components → List StorageWrite)
    (leading : DataTag.ofOctet? tag = some .boolean ∨ DataTag.ofOctet? tag = some .bitString →
      predicate (.read address))
    (copies : AllowsCopies predicate
      (elementWrites memory nestedWrites tag address elementLength value))
    (inner : ∀ components, AllowsCopies predicate (nestedWrites address elementLength components) →
      (nested address elementLength components).Always predicate) :
    (updateElement memory nested tag address elementLength value).Always predicate := by
  unfold elementWrites at copies
  unfold updateElement
  cases kind : DataTag.ofOctet? tag with
  | none => exact Traced.always_pure _
  | some type =>
      rw [kind] at leading copies
      cases type with
      | accessResult => exact Traced.always_pure _
      | complex expected =>
          cases value with
          | complex type components =>
              refine .ite (fun same => ?_) fun _ => Traced.always_pure _
              dsimp only at copies
              rw [if_pos same] at copies
              exact .bind (inner _ copies) (Traced.always_pure _)
          | _ => exact Traced.always_pure _
      | boolean =>
          cases value with
          | boolean value =>
              exact .bind (.bind (Memory.always_read.mpr (leading (.inl rfl)))
                (Traced.always_pure _)) (Traced.always_pure _)
          | _ => exact Traced.always_pure _
      | bitString =>
          cases value with
          | bitString bits =>
              refine .bind (Memory.always_read.mpr (leading (.inr rfl))) (.ite (fun size => ?_)
                fun _ => Traced.always_pure _)
              rw [Memory.value_read] at size
              dsimp only at copies
              rw [if_pos size] at copies
              refine .bind (always_memcpy ?_ (copies _ _ (List.mem_singleton_self _)))
                (Traced.always_pure _)
              -- The sizes agree only for an element that has a padding octet.
              exact reads.within (by omega) (by omega)
          | _ => exact Traced.always_pure _
      | integer =>
          cases value with
          | integer number =>
              exact .bind (always_updatePrimitive reads copies) (Traced.always_pure _)
          | _ => exact Traced.always_pure _
      | unsigned =>
          cases value with
          | unsigned number =>
              exact .bind (always_updatePrimitive reads copies) (Traced.always_pure _)
          | _ => exact Traced.always_pure _
      | float =>
          cases value with
          | float number =>
              refine .ite (fun length => ?_) fun _ => .ite (fun length => ?_)
                fun _ => Traced.always_pure _
              · exact .bind (always_decodeDouble reads length) (Traced.always_pure _)
              · exact .bind (always_decodeFloat reads length) (Traced.always_pure _)
          | _ => exact Traced.always_pure _
      | octetString =>
          cases value with
          | octetString octets =>
              exact .bind (always_updateOctetString reads copies) (Traced.always_pure _)
          | _ => exact Traced.always_pure _
      | visibleString =>
          cases value with
          | visibleString text =>
              exact .bind (always_updateVisibleString reads copies) (Traced.always_pure _)
          | _ => exact Traced.always_pure _
      | binaryTime =>
          cases value with
          | binaryTime time =>
              refine .ite (fun length => ?_) fun _ => Traced.always_pure _
              dsimp only at copies
              rw [if_pos length, time.buf.property] at copies
              exact .bind (always_memcpy reads (copies _ _ (List.mem_singleton_self _)))
                (Traced.always_pure _)
          | _ => exact Traced.always_pure _
      | utcTime =>
          refine .ite (fun length => ?_) fun _ => Traced.always_pure _
          cases value with
          | utcTime time =>
              exact .bind (Memory.always_readOctets.mpr (reads.within le_rfl (by omega)))
                (Traced.always_pure _)
          | _ => exact Traced.always_pure _

theorem always_createPrimitive {value : Asn1PrimitiveValue} {wrap : Asn1PrimitiveValue → MmsValue}
    (copies : ∀ count capacity, predicate (.copy count capacity)) :
    (createPrimitive memory address elementLength value wrap).Always predicate := by
  refine .bind (always_memcpy reads (copies _ _)) ?_
  split <;> exact Traced.always_pure _

/-- Building one value reads its element. -/
theorem always_createElement {tag : UInt8} {selfAllocated : Bool}
    {nested : Nat → Nat → Bool → Traced Access (Option Components × Bool)}
    (leading : DataTag.ofOctet? tag = some .boolean → predicate (.read address))
    (copies : ∀ count capacity, predicate (.copy count capacity))
    (inner : ∀ selfAllocated, (nested address elementLength selfAllocated).Always predicate) :
    (createElement memory nested tag address elementLength selfAllocated).Always predicate := by
  unfold createElement
  cases kind : DataTag.ofOctet? tag with
  | none => exact Traced.always_pure _
  | some type =>
      rw [kind] at leading
      cases type with
      | accessResult => exact Traced.always_pure _
      | complex type =>
          refine .bind (inner _) ?_
          split
          split <;> exact Traced.always_pure _
      | boolean =>
          exact .bind (.bind (Memory.always_read.mpr (leading rfl)) (Traced.always_pure _))
            (Traced.always_pure _)
      | bitString =>
          refine .ite (fun long => ?_) fun _ => Traced.always_pure _
          refine .bind (Memory.always_read.mpr (reads _ le_rfl (by omega))) ?_
          refine .ite (fun _ => Traced.always_pure _) fun _ => ?_
          exact .bind (always_memcpy (reads.within (by omega) (by omega)) (copies _ _))
            (Traced.always_pure _)
      | integer =>
          exact .ite (fun _ => Traced.always_pure _)
            fun _ => .bind (always_createPrimitive reads copies) (Traced.always_pure _)
      | unsigned =>
          exact .ite (fun _ => Traced.always_pure _)
            fun _ => .bind (always_createPrimitive reads copies) (Traced.always_pure _)
      | float =>
          refine .ite (fun length => ?_) fun _ => .ite (fun length => ?_)
            fun _ => Traced.always_pure _
          · exact .bind (always_decodeDouble reads length) (Traced.always_pure _)
          · exact .bind (always_decodeFloat reads length) (Traced.always_pure _)
      | octetString => exact .bind (always_memcpy reads (copies _ _)) (Traced.always_pure _)
      | visibleString => exact .bind (Memory.always_readOctets.mpr reads) (Traced.always_pure _)
      | binaryTime =>
          exact .ite (fun _ => .bind (always_memcpy reads (copies _ _)) (Traced.always_pure _))
            fun _ => Traced.always_pure _
      | utcTime =>
          refine .ite (fun length => ?_) fun _ => Traced.always_pure _
          exact .bind (Memory.always_readOctets.mpr (reads.within le_rfl (by omega)))
            (Traced.always_pure _)

/-! ### Elements of the PDU -/

theorem always_absorb (copies : ∀ count capacity, predicate (.copy count capacity))
    (field : StringField) : (field.absorb memory address elementLength).Always predicate := by
  unfold StringField.absorb
  split
  · exact .bind (always_memcpy reads (copies _ _)) (Traced.always_pure _)
  · exact Traced.always_pure _

theorem always_matchGocbRef (copies : ∀ count capacity, predicate (.copy count capacity))
    (subscribers : List GooseSubscriber) :
    (matchGocbRef memory address elementLength subscribers).Always predicate := by
  induction subscribers with
  | nil => exact Traced.always_pure _
  | cons subscriber rest ih =>
      have next := ih.bind (Traced.always_pure _)
      unfold matchGocbRef
      refine .ite (fun _ => ?_) fun _ => .ite (fun _ => ?_) fun _ => next
      · exact .bind (always_absorb reads copies _) (Traced.always_pure _)
      · exact .bind (Memory.always_readOctets.mpr reads)
          (.ite (fun _ => Traced.always_pure _) fun _ => next)

/-- Reading an element of the PDU reads its content, and the octet of a flag in any case. -/
theorem always_element {state : PayloadState} {tag : UInt8}
    (leading : PduTag.ofOctet? tag = some .simulation ∨ PduTag.ofOctet? tag = some .ndsCom →
      predicate (.read address))
    (copies : ∀ count capacity, predicate (.copy count capacity)) :
    (state.element memory tag address elementLength).Always predicate := by
  have update : ∀ change : GooseSubscriber → Traced Access GooseSubscriber,
      (∀ subscriber, (change subscriber).Always predicate) →
      (state.updateMatching change).Always predicate := by
    intro change each
    unfold PayloadState.updateMatching
    split
    · exact Traced.always_pure _
    · split
      · exact Traced.always_pure _
      · exact .bind (each _) (Traced.always_pure _)
  have number : (decodeUint32 memory 0 elementLength address).Always predicate := by
    refine .bind (Memory.always_readOctets.mpr ?_) (Traced.always_pure _)
    rw [Nat.zero_add]
    exact reads
  have flag : predicate (.read address) → (decodeBoolean memory 0 address).Always predicate := by
    intro allowed
    refine .bind (Memory.always_read.mpr ?_) (Traced.always_pure _)
    rwa [Nat.zero_add]
  unfold PayloadState.element
  cases kind : PduTag.ofOctet? tag with
  | none => exact Traced.always_pure _
  | some type =>
      rw [kind] at leading
      cases type with
      | gocbRef => exact .bind (always_matchGocbRef reads copies _) (Traced.always_pure _)
      | datSet =>
          exact .bind (update _ fun _ => .bind (always_absorb reads copies _)
            (Traced.always_pure _)) (Traced.always_pure _)
      | goId =>
          exact .bind (update _ fun _ => .bind (always_absorb reads copies _)
            (Traced.always_pure _)) (Traced.always_pure _)
      | t => exact .bind (Traced.always_pure _) (Traced.always_pure _)
      | allData => exact .bind (Traced.always_pure _) (Traced.always_pure _)
      | simulation =>
          exact .bind (.bind (flag (leading (.inl rfl))) (Traced.always_pure _))
            (Traced.always_pure _)
      | ndsCom =>
          exact .bind (.bind (flag (leading (.inr rfl))) (Traced.always_pure _))
            (Traced.always_pure _)
      | _ => exact .bind (.bind number (Traced.always_pure _)) (Traced.always_pure _)

end Content

/-- Updating a data set reads its octets and at most one behind them, and copies what is written. -/
theorem always_updateLoop {fuel buffer allDataLength bufPos elementIndex : Nat}
    {dataSetValues : Components}
    (reads : AllowsReads predicate buffer (buffer + allDataLength + 1))
    (ints : ∀ value, predicate (.int value))
    (copies : AllowsCopies predicate
      (updateWrites memory fuel buffer allDataLength bufPos elementIndex dataSetValues)) :
    (updateLoop memory fuel buffer allDataLength bufPos elementIndex dataSetValues).Always
      predicate := by
  induction fuel generalizing buffer allDataLength bufPos elementIndex dataSetValues with
  | zero => exact Traced.always_pure _
  | succ fuel ih =>
      unfold updateWrites at copies
      unfold updateLoop
      refine .ite (fun inside => ?_) fun _ => Traced.always_pure _
      rw [if_pos inside] at copies
      refine .bind (Memory.always_read.mpr (reads _ (by omega) (by omega))) ?_
      refine .ite (fun _ => Traced.always_pure _) fun _ => ?_
      cases found : MmsValue.getElement dataSetValues elementIndex with
      | none => exact Traced.always_pure _
      | some value =>
          rw [found] at copies
          have decodes : (decodeLength memory buffer allDataLength (bufPos + 1)).Always
              predicate := by
            apply always_decodeLength
            · exact fun value _ => ints value
            · exact fun index below => reads _ (by omega) (by omega)
          refine .bind decodes ?_
          rcases decoded : (decodeLength memory buffer allDataLength (bufPos + 1)).value with
            _ | ⟨start, length⟩
          · exact Traced.always_pure _
          · rw [decoded] at copies
            obtain ⟨_, ends⟩ := decodeLength_spec decoded
            have content := reads.within (by omega : buffer ≤ buffer + start)
              (by omega : buffer + start + length + 1 ≤ buffer + allDataLength + 1)
            refine .bind ?_ (.ite (fun _ => Traced.always_pure _) fun passed => ?_)
            · apply always_updateElement (content.within le_rfl (Nat.le_succ _))
                (fun buffer allDataLength => updateWrites memory fuel buffer allDataLength 0 0)
              · exact fun _ => content _ le_rfl (by omega)
              · exact copies.subset (List.subset_append_left _ _)
              · exact fun components => ih content
            · have later := copies.subset (List.subset_append_right _ _)
              exact ih reads ((congrArg (AllowsCopies predicate) (if_neg passed)).mp later)

end Events

end GridGooseSV
