import GridGooseSV.Goose.Carried

/-!
# Updating a data set

`parseAllData` never changes what a data set has storage for, and octets that
carry data which the data set has storage for leave exactly that data in it.
-/

namespace GridGooseSV

open BerDecoder

section Elements

variable {memory : Memory} {element : Element}
variable {nested : Nat → Nat → Components → Traced Access (GooseParseError × Components)}

variable (memory element nested) in
/-- An element is accepted and leaves the given data in a value. -/
def Takes (value : MmsValue) (data : Data) : Prop :=
  ∃ after, (updateElement memory nested element.tag element.address element.length value).value =
    (.noError, after) ∧ after.data = data

theorem takes_boolean (kind : element.kind = some .boolean) (value : Bool) :
    Takes memory element nested (.boolean value)
      (.boolean (decide (memory element.address ≠ 0))) := by
  refine ⟨.boolean (decide (memory element.address ≠ 0)), ?_, rfl⟩
  unfold Element.kind at kind
  simp [updateElement, kind, decodeBoolean]

theorem takes_bitString (kind : element.kind = some .bitString) (long : 1 < element.length)
    (padding : (memory element.address).toNat ≤ 7) {value : BitString}
    (size : value.size = element.bitCount memory) :
    Takes memory element nested (.bitString value)
      (.bitString (bitsOf (memory.octets (element.address + 1) (element.length - 1))
        (element.bitCount memory))) := by
  have counted : (8 * ((element.length : Int) - 1) - (memory element.address).toNat) =
      value.size := by
    rw [size, Element.bitCount]
    omega
  refine ⟨.bitString { value with
    buf := overwrite value.buf (memory.octets (element.address + 1) (element.length - 1))
    stored := by rw [length_overwrite, value.stored] }, ?_, ?_⟩
  · unfold Element.kind at kind
    simp only [updateElement, kind, ↓Memory.value_bind_read, Traced.value_ite]
    rw [if_pos counted]
    rfl
  · simp only [MmsValue.data, size, overwrite_bitString long padding _ size]

/-- An integer whose content fits takes it. -/
theorem value_updatePrimitive {address elementLength : Nat} {value : Asn1PrimitiveValue}
    (fits : elementLength ≤ value.maxSize) :
    (updatePrimitive memory address elementLength value).value =
      (.noError, value.setOctets (memory.octets address elementLength)
        (by rw [Memory.length_octets]; exact fits)) := by
  simp only [updatePrimitive, dif_pos fits]
  rfl

theorem takes_integer (kind : element.kind = some .integer) {value : Asn1PrimitiveValue}
    (fits : element.length ≤ value.maxSize) :
    Takes memory element nested (.integer value) (.integer (element.content memory)) := by
  refine ⟨.integer (value.setOctets (memory.octets element.address element.length)
    (by rw [Memory.length_octets]; exact fits)), ?_,
    congrArg Data.integer (Asn1PrimitiveValue.content_setOctets ..)⟩
  unfold Element.kind at kind
  simp only [updateElement, kind, Traced.value_bind, value_updatePrimitive fits,
    Traced.value_pure]

theorem takes_unsigned (kind : element.kind = some .unsigned) {value : Asn1PrimitiveValue}
    (fits : element.length ≤ value.maxSize) :
    Takes memory element nested (.unsigned value) (.unsigned (element.content memory)) := by
  refine ⟨.unsigned (value.setOctets (memory.octets element.address element.length)
    (by rw [Memory.length_octets]; exact fits)), ?_,
    congrArg Data.unsigned (Asn1PrimitiveValue.content_setOctets ..)⟩
  unfold Element.kind at kind
  simp only [updateElement, kind, Traced.value_bind, value_updatePrimitive fits,
    Traced.value_pure]

theorem takes_float (kind : element.kind = some .float) (value : FloatingPoint)
    (length : element.length = value.width.formatWidth / 8 + 1) :
    Takes memory element nested (.float value) (.float value.width
      (memory.octets (element.address + 1) (value.width.formatWidth / 8)).reverse) := by
  obtain ⟨width, buf⟩ := value
  unfold Element.kind at kind
  refine ⟨.float ⟨width, buf.overwrite
    (memory.octets (element.address + 1) (width.formatWidth / 8)).reverse⟩, ?_,
    MmsValue.data_float _ (by simp) buf⟩
  simp only [updateElement, kind, length]
  cases width <;> rfl

/-- An octet string takes any content. -/
theorem value_updateOctetString (memory : Memory) (address elementLength : Nat)
    (value : OctetString) :
    ∃ after, (updateOctetString memory address elementLength value).value = after ∧
      after.buf.take after.size = memory.octets address elementLength := by
  unfold updateOctetString
  split
  · rename_i fits
    refine ⟨_, rfl, ?_⟩
    have kept := take_overwrite value.buf (memory.octets address elementLength)
      (by rw [Memory.length_octets, value.stored]; exact fits)
    rwa [Memory.length_octets] at kept
  · refine ⟨_, rfl, List.take_of_length_le ?_⟩
    simp

theorem takes_octetString (kind : element.kind = some .octetString) (value : OctetString) :
    Takes memory element nested (.octetString value)
      (.octetString (element.content memory)) := by
  obtain ⟨after, updated, content⟩ :=
    value_updateOctetString memory element.address element.length value
  unfold Element.kind at kind
  refine ⟨.octetString after, ?_, congrArg Data.octetString content⟩
  simp only [updateElement, kind, Traced.value_bind, updated, Traced.value_pure]

/-- A visible string takes any content. -/
theorem value_updateVisibleString (address elementLength : Nat) (value : VisibleString) :
    ((updateVisibleString memory address elementLength value).value.buf).map cString =
      some (cString (memory.octets address elementLength)) := by
  have built : ((createNewStringFromBufferElement memory address elementLength).value.buf).map
      cString = some (cString (memory.octets address elementLength)) :=
    congrArg some (cString_append_zero _ _)
  unfold updateVisibleString
  split
  · exact built
  · rename_i buf present
    split
    · rename_i fits
      have room := (value.stored buf present).1
      have taken : (memory.octets address elementLength ++ [0]).take buf.length =
          memory.octets address elementLength ++ [0] :=
        List.take_of_length_le (by simp; omega)
      simp only [↓value_bind_memcpy, Traced.value_pure, Option.map_some, overwrite, taken,
        List.append_assoc, List.singleton_append, cString_append_zero]
    · exact built

theorem takes_visibleString (kind : element.kind = some .visibleString) (value : VisibleString) :
    Takes memory element nested (.visibleString value)
      (.visibleString (some (cString (element.content memory)))) := by
  unfold Element.kind at kind
  refine ⟨.visibleString (updateVisibleString memory element.address element.length value).value,
    ?_, congrArg Data.visibleString (value_updateVisibleString _ _ value)⟩
  simp only [updateElement, kind, Traced.value_bind, Traced.value_pure]

theorem takes_binaryTime (kind : element.kind = some .binaryTime)
    (length : element.length = 4 ∨ element.length = 6) {value : BinaryTime}
    (size : element.length = value.size) :
    Takes memory element nested (.binaryTime value)
      (.binaryTime (element.content memory)) := by
  unfold Element.kind at kind
  refine ⟨.binaryTime { value with buf := value.buf.overwrite (element.content memory) }, ?_, ?_⟩
  · simp only [updateElement, kind]
    rw [if_pos length]
    rfl
  · have kept := value.buf.take_overwrite (element.content memory)
      (by rw [Element.content, Memory.length_octets, size]; exact value.fits)
    rw [Element.content, Memory.length_octets, size] at kept
    simp only [MmsValue.data, Element.content, size, kept]

theorem takes_utcTime (kind : element.kind = some .utcTime) (length : element.length = 8)
    (value : Octets 8) :
    Takes memory element nested (.utcTime value) (.utcTime (element.content memory)) := by
  unfold Element.kind at kind
  refine ⟨.utcTime (MmsValue.setUtcTimeByBuffer value (memory.octets element.address 8)), ?_, ?_⟩
  · simp only [updateElement, kind, length]
    rfl
  · have taken : (memory.octets element.address 8).take 8 = memory.octets element.address 8 :=
      List.take_of_length_le (by simp)
    simp only [MmsValue.data, MmsValue.setUtcTimeByBuffer, taken, Element.content, length]
    rw [Octets.overwrite_all _ (by simp)]

end Elements

section Loop

variable {memory : Memory} {buffer allDataLength : Nat}

theorem value_updateLoop_succ (fuel bufPos elementIndex : Nat) (dataSetValues : Components) :
    (updateLoop memory (fuel + 1) buffer allDataLength bufPos elementIndex dataSetValues).value =
      if bufPos < allDataLength then
        if elementIndex ≥ dataSetValues.length then
          finishUpdate .overflow elementIndex dataSetValues
        else
          match MmsValue.getElement dataSetValues elementIndex with
          | none => (.typeMismatch, dataSetValues)
          | some value =>
            match (decodeLength memory buffer allDataLength (bufPos + 1)).value with
            | none => finishUpdate .tagDecode elementIndex dataSetValues
            | some (start, length) =>
              let after := (updateElement memory
                (fun buffer allDataLength => updateLoop memory fuel buffer allDataLength 0 0)
                (memory (buffer + bufPos)) (buffer + start) length value).value
              if after.1 ≠ .noError then
                finishUpdate after.1 elementIndex (dataSetValues.set elementIndex (some after.2))
              else
                (updateLoop memory fuel buffer allDataLength (start + length)
                  (elementIndex + 1) (dataSetValues.set elementIndex (some after.2))).value
      else finishUpdate .noError elementIndex dataSetValues := by
  simp only [updateLoop, ↓Memory.value_bind_read, Traced.value_ite, Traced.value_pure]
  cases MmsValue.getElement dataSetValues elementIndex with
  | none => rfl
  | some value =>
      simp only [Traced.value_bind]
      rcases (decodeLength memory buffer allDataLength (bufPos + 1)).value with
        _ | ⟨start, length⟩
      · rfl
      · simp only [Traced.value_bind, Traced.value_ite, Traced.value_pure]

/-- The component at the boundary. -/
theorem getElement_boundary (done : Components) (value : MmsValue) (rest : Components) :
    MmsValue.getElement (done ++ some value :: rest) done.length = some value := by
  simp [MmsValue.getElement]

theorem set_boundary (done : Components) (component other : Option MmsValue)
    (rest : Components) :
    (done ++ component :: rest).set done.length other = done ++ other :: rest := by
  simp

/-- At the end of the octets, components that are left are missing from them. -/
theorem value_updateLoop_end {fuel bufPos : Nat} (ended : allDataLength ≤ bufPos)
    (done components : Components) :
    (updateLoop memory fuel buffer allDataLength bufPos done.length (done ++ components)).value =
      (if components = [] then .noError else .underflow, done ++ components) := by
  have finished : finishUpdate .noError done.length (done ++ components) =
      (if components = [] then .noError else .underflow, done ++ components) := by
    cases components <;> simp [finishUpdate]
  cases fuel with
  | zero => exact finished
  | succ fuel => rw [value_updateLoop_succ, if_neg (Nat.not_lt.mpr ended), finished]

/-- Octets are left, but no components. -/
theorem value_updateLoop_surplus {fuel bufPos : Nat} (inside : bufPos < allDataLength)
    (done : Components) :
    (updateLoop memory (fuel + 1) buffer allDataLength bufPos done.length (done ++ [])).value =
      (.overflow, done) := by
  rw [value_updateLoop_succ, if_pos inside, if_pos (by simp)]
  simp [finishUpdate]

/-- The next element is decoded into the next component; with an error, that component and what is
behind it are missing from the count. -/
theorem value_updateLoop_cons {fuel bufPos : Nat} (inside : bufPos < allDataLength)
    (done : Components) (component : Option MmsValue) (rest : Components) :
    (updateLoop memory (fuel + 1) buffer allDataLength bufPos done.length
        (done ++ component :: rest)).value =
      match component with
      | none => (.typeMismatch, done ++ none :: rest)
      | some value =>
        match (decodeLength memory buffer allDataLength (bufPos + 1)).value with
        | none => (.underflow, done ++ some value :: rest)
        | some (start, length) =>
          let after := (updateElement memory
            (fun buffer allDataLength => updateLoop memory fuel buffer allDataLength 0 0)
            (memory (buffer + bufPos)) (buffer + start) length value).value
          if after.1 ≠ .noError then (.underflow, done ++ some after.2 :: rest)
          else
            let done := done ++ [some after.2]
            (updateLoop memory fuel buffer allDataLength (start + length) done.length
              (done ++ rest)).value := by
  have short : ∀ other : Option MmsValue, done.length < (done ++ other :: rest).length := by
    simp
  rw [value_updateLoop_succ, if_pos inside, if_neg (Nat.not_le.mpr (short component))]
  cases component with
  | none => simp [MmsValue.getElement]
  | some value =>
      simp only [getElement_boundary, set_boundary, finishUpdate, if_pos (short _)]
      simp only [List.length_append, List.length_singleton, List.append_assoc,
        List.singleton_append]

end Loop

/-- The ways an update goes on, with fuel for the octets that are left: they are at an end; no
component is left, or the next one is missing; the next element is malformed, or is decoded with
less fuel, as is what is behind it. -/
theorem updateLoop_induction {memory : Memory}
    {motive : (fuel buffer allDataLength bufPos : Nat) → (done components : Components) → Prop}
    (ended : ∀ {fuel buffer allDataLength bufPos done components}, allDataLength ≤ bufPos →
      motive fuel buffer allDataLength bufPos done components)
    (surplus : ∀ {fuel buffer allDataLength bufPos done}, bufPos < allDataLength →
      motive (fuel + 1) buffer allDataLength bufPos done [])
    (missing : ∀ {fuel buffer allDataLength bufPos done rest}, bufPos < allDataLength →
      motive (fuel + 1) buffer allDataLength bufPos done (none :: rest))
    (malformed : ∀ {fuel buffer allDataLength bufPos : Nat} {done value rest},
      bufPos < allDataLength →
      (decodeLength memory buffer allDataLength (bufPos + 1)).value = none →
      motive (fuel + 1) buffer allDataLength bufPos done (some value :: rest))
    (decoded : ∀ {fuel buffer allDataLength bufPos start length : Nat} {done value rest},
      bufPos < allDataLength →
      (decodeLength memory buffer allDataLength (bufPos + 1)).value = some (start, length) →
      length ≤ fuel → (∀ components, motive fuel (buffer + start) length 0 [] components) →
      (∀ done components, motive fuel buffer allDataLength (start + length) done components) →
      motive (fuel + 1) buffer allDataLength bufPos done (some value :: rest))
    {fuel buffer allDataLength bufPos : Nat} {done components : Components}
    (enough : allDataLength - bufPos ≤ fuel) :
    motive fuel buffer allDataLength bufPos done components := by
  induction fuel generalizing buffer allDataLength bufPos done components with
  | zero => exact ended (by omega)
  | succ fuel ih =>
      by_cases inside : bufPos < allDataLength
      · cases components with
        | nil => exact surplus inside
        | cons component rest =>
            cases component with
            | none => exact missing inside
            | some value =>
                rcases found : (decodeLength memory buffer allDataLength (bufPos + 1)).value with
                  _ | ⟨start, length⟩
                · exact malformed inside found
                · obtain ⟨later, within⟩ := decodeLength_spec found
                  exact decoded inside found (by omega) (fun _ => ih (by omega))
                    fun _ _ => ih (by omega)
      · exact ended (Nat.not_lt.mp inside)

/-- Components that have storage for a list of data are as many. -/
theorem length_eq_of_componentsCanTake : {components : Components} → {data : List Data} →
    ComponentsCanTake components data → components.length = data.length
  | [], _, able => by rw [able]; rfl
  | _ :: _, _, able => by
      obtain ⟨_, _, rfl, _, rest⟩ := able
      exact congrArg (· + 1) (length_eq_of_componentsCanTake rest)

mutual

/-- An element that carries data leaves it in a value that has storage for it. -/
theorem takes_of_carried {memory : Memory} : (data : Data) → {element : Element} →
    {value : MmsValue} → {fuel : Nat} → element.length ≤ fuel → data.Carried memory element →
    value.CanTake data →
    Takes memory element (fun buffer length => updateLoop memory fuel buffer length 0 0) value data
  | .complex type data, element, value, fuel, short, carried, able => by
      obtain ⟨kind, parts, scanned, all⟩ := carried
      cases value <;> simp only [MmsValue.CanTake, Data.complex.injEq, reduceCtorEq, false_and,
        exists_false] at able
      obtain ⟨_, ⟨rfl, rfl⟩, able⟩ := able
      rename_i components
      obtain ⟨after, updated, data⟩ :=
        @updateLoop_of_carried memory data _ _ _ _ _ [] _ (by omega) scanned all able
      refine ⟨.complex _ after, ?_, by rw [MmsValue.data, data]⟩
      unfold Element.kind at kind
      simp only [List.nil_append, List.length_nil] at updated
      simp [updateElement, kind, updated]
  | .boolean _, _, value, _, _, carried, able => by
      cases value <;> simp [MmsValue.CanTake] at able
      exact carried.2 ▸ takes_boolean carried.1 _
  | .bitString bits, _, value, _, _, carried, able => by
      cases value <;> simp [MmsValue.CanTake] at able
      obtain ⟨kind, long, padding, rfl⟩ := carried
      rw [length_bitsOf] at able
      exact takes_bitString kind long padding able.symm
  | .integer _, _, value, _, _, carried, able => by
      cases value <;> simp [MmsValue.CanTake] at able
      obtain ⟨kind, _, rfl⟩ := carried
      rw [Element.content, Memory.length_octets] at able
      exact takes_integer kind able
  | .unsigned _, _, value, _, _, carried, able => by
      cases value <;> simp [MmsValue.CanTake] at able
      obtain ⟨kind, _, rfl⟩ := carried
      rw [Element.content, Memory.length_octets] at able
      exact takes_unsigned kind able
  | .float _ _, _, value, _, _, carried, able => by
      cases value <;> simp [MmsValue.CanTake] at able
      obtain ⟨kind, length, rfl⟩ := carried
      subst able
      exact takes_float kind _ length
  | .octetString _, _, value, _, _, carried, able => by
      cases value <;> simp [MmsValue.CanTake] at able
      exact carried.2 ▸ takes_octetString carried.1 _
  | .visibleString _, _, value, _, _, carried, able => by
      cases value <;> simp [MmsValue.CanTake] at able
      exact carried.2 ▸ takes_visibleString carried.1 _
  | .binaryTime _, _, value, _, _, carried, able => by
      cases value <;> simp [MmsValue.CanTake] at able
      obtain ⟨kind, length, rfl⟩ := carried
      rw [Element.content, Memory.length_octets] at able
      exact takes_binaryTime kind length able
  | .utcTime _, _, value, _, _, carried, able => by
      cases value <;> simp [MmsValue.CanTake] at able
      obtain ⟨kind, length, rfl⟩ := carried
      exact takes_utcTime kind length _

/-- Octets that carry a list of data leave it in components that have storage for
it. -/
theorem updateLoop_of_carried {memory : Memory} : (data : List Data) → {parts : List Element} →
    {buffer allDataLength fuel bufPos : Nat} → {done components : Components} →
    allDataLength - bufPos ≤ fuel →
    elements memory buffer allDataLength allDataLength bufPos = ⟨parts, true⟩ →
    Data.AllCarried memory data parts → ComponentsCanTake components data →
    ∃ after, (updateLoop memory fuel buffer allDataLength bufPos done.length
        (done ++ components)).value = (.noError, done ++ after) ∧
      componentsData after = data
  | [], [], buffer, allDataLength, fuel, bufPos, done, components, enough, scanned, _, able => by
      have empty : components = [] :=
        List.eq_nil_of_length_eq_zero (length_eq_of_componentsCanTake able)
      have ended := elements_eq_nil.mp scanned
      subst empty
      exact ⟨[], value_updateLoop_end ended done [], rfl⟩
  | data :: others, element :: rest, buffer, allDataLength, fuel, bufPos, done, components,
      enough, scanned, carried, able => by
      obtain ⟨inside, start, length, decoded, rfl, following⟩ := elements_eq_cons.mp scanned
      obtain ⟨later, within⟩ := decodeLength_spec decoded
      cases fuel with
      | zero => omega
      | succ fuel =>
          cases components with
          | nil => simp [ComponentsCanTake] at able
          | cons component components =>
              obtain ⟨_, _, equation, first, able⟩ := able
              obtain ⟨rfl, rfl⟩ := List.cons.inj equation
              cases component with
              | none => exact first.elim
              | some value =>
                  obtain ⟨after, updated, dataAfter⟩ :=
                    @takes_of_carried memory data _ _ fuel (by simp only; omega) carried.1 first
                  obtain ⟨more, finished, dataMore⟩ :=
                    @updateLoop_of_carried memory others _ _ _ fuel _ (done ++ [some after]) _
                      (by omega) following carried.2 able
                  refine ⟨some after :: more, ?_, ?_⟩
                  · rw [value_updateLoop_cons inside]
                    simp only [decoded, updated, ne_eq, not_true_eq_false, ↓reduceIte, finished]
                    rw [List.append_assoc, List.singleton_append]
                  · rw [componentsData, dataMore, componentData, dataAfter]

end

/-- A data set takes octets that carry data it has storage for. -/
theorem parseAllData_of_carried {memory : Memory} {address length : Nat} {data : List Data}
    {components : Components} (carried : Data.CarriedAt memory address length data)
    (able : ComponentsCanTake components data) :
    ∃ after, (parseAllData memory address length components).value = (.noError, after) ∧
      componentsData after = data := by
  obtain ⟨parts, scanned, all⟩ := carried
  exact @updateLoop_of_carried memory data _ _ _ _ _ [] _ (by omega) scanned all able

/-! ## Storage is kept -/

section Storage

variable {memory : Memory}
variable {nested : Nat → Nat → Components → Traced Access (GooseParseError × Components)}

/-- An update of one value changes what is in it, not what it has storage for. -/
theorem canTake_updateElement (tag : UInt8) (address elementLength : Nat) (data : Data)
    (nestedSame : ∀ address length components data,
      ComponentsCanTake (nested address length components).value.2 data ↔
        ComponentsCanTake components data) (value : MmsValue) :
    (updateElement memory nested tag address elementLength value).value.2.CanTake data ↔
      value.CanTake data := by
  unfold updateElement
  cases DataTag.ofOctet? tag with
  | none => rfl
  | some tag =>
      cases tag with
      | accessResult => rfl
      | complex expected =>
          cases value <;> try rfl
          simp only [Traced.value_ite]
          split
          · simp only [Traced.value_bind, Traced.value_pure, MmsValue.CanTake, nestedSame]
          · rfl
      | boolean => cases value <;> rfl
      | bitString =>
          cases value <;> try rfl
          simp only [↓Memory.value_bind_read, Traced.value_ite]
          split <;> rfl
      | integer =>
          cases value <;> try rfl
          simp only [Traced.value_bind, Traced.value_pure, updatePrimitive]
          split <;> rfl
      | unsigned =>
          cases value <;> try rfl
          simp only [Traced.value_bind, Traced.value_pure, updatePrimitive]
          split <;> rfl
      | float =>
          cases value <;> try rfl
          rename_i number
          obtain ⟨width, buf⟩ := number
          simp only [Traced.value_ite]
          split
          · cases width <;> rfl
          · split
            · cases width <;> rfl
            · rfl
      | octetString => cases value <;> rfl
      | visibleString => cases value <;> rfl
      | binaryTime =>
          cases value <;> try rfl
          simp only [Traced.value_ite]
          split <;> rfl
      | utcTime =>
          simp only [Traced.value_ite]
          split
          · cases value <;> rfl
          · rfl

/-- Components differ in storage only where values do. -/
theorem componentsCanTake_set {value after : MmsValue} :
    {components : Components} → {index : Nat} → {data : List Data} →
    MmsValue.getElement components index = some value →
    (∀ data, after.CanTake data ↔ value.CanTake data) →
    (ComponentsCanTake (components.set index (some after)) data ↔
      ComponentsCanTake components data)
  | [], _, _, found, _ => by simp [MmsValue.getElement] at found
  | component :: rest, 0, data, found, same => by
      have head : component = some value := by simpa [MmsValue.getElement] using found
      subst head
      simp only [List.set_cons_zero, ComponentsCanTake, ComponentCanTake, same]
  | component :: rest, index + 1, data, found, same => by
      have tail : MmsValue.getElement rest index = some value := by
        simpa [MmsValue.getElement] using found
      simp only [List.set_cons_succ, ComponentsCanTake, componentsCanTake_set tail same]

/-- Whatever the octets are, an update keeps what components have storage for. -/
theorem componentsCanTake_updateLoop {fuel buffer allDataLength bufPos elementIndex : Nat}
    {components : Components} {data : List Data} :
    ComponentsCanTake (updateLoop memory fuel buffer allDataLength bufPos elementIndex
        components).value.2 data ↔
      ComponentsCanTake components data := by
  induction fuel generalizing buffer allDataLength bufPos elementIndex components data with
  | zero => rfl
  | succ fuel ih =>
      rw [value_updateLoop_succ]
      split
      · split
        · rfl
        · split
          · rfl
          · rename_i value found
            split
            · rfl
            · rename_i start length _
              have same := fun data => @canTake_updateElement memory
                (fun buffer allDataLength => updateLoop memory fuel buffer allDataLength 0 0)
                (memory (buffer + bufPos)) (buffer + start) length data
                (fun _ _ _ _ => ih) value
              dsimp only
              split
              · exact componentsCanTake_set found same
              · rw [ih, componentsCanTake_set found same]
      · rfl

end Storage

theorem componentsCanTake_parseAllData {memory : Memory} {address length : Nat}
    {components : Components} {data : List Data} :
    ComponentsCanTake (parseAllData memory address length components).value.2 data ↔
      ComponentsCanTake components data :=
  componentsCanTake_updateLoop

mutual

/-- A value has storage for the data in it. -/
theorem canTake_of_data {memory : Memory} : (data : Data) → {element : Element} →
    {value : MmsValue} → data.Carried memory element → value.data = data → value.CanTake data
  | .complex type data, _, value, carried, same => by
      obtain ⟨_, _, _, all⟩ := carried
      cases value <;> simp only [MmsValue.data, Data.complex.injEq, reduceCtorEq] at same
      obtain ⟨rfl, same⟩ := same
      exact ⟨data, rfl, componentsCanTake_of_data data all same⟩
  | .boolean _, _, value, _, same => by
      cases value <;> simp_all [MmsValue.data, MmsValue.CanTake]
  | .bitString bits, _, value, _, same => by
      cases value <;> simp [MmsValue.data] at same
      simp [MmsValue.CanTake, ← same]
  | .integer octets, _, value, _, same => by
      cases value <;> simp [MmsValue.data] at same
      rename_i number
      simp [MmsValue.CanTake, ← same, number.fits]
  | .unsigned octets, _, value, _, same => by
      cases value <;> simp [MmsValue.data] at same
      rename_i number
      simp [MmsValue.CanTake, ← same, number.fits]
  | .float _ _, _, value, _, same => by
      cases value <;> simp [MmsValue.data] at same
      simp [MmsValue.CanTake, ← same.1]
  | .octetString _, _, value, _, same => by
      cases value <;> simp_all [MmsValue.data, MmsValue.CanTake]
  | .visibleString _, _, value, _, same => by
      cases value <;> simp_all [MmsValue.data, MmsValue.CanTake]
  | .binaryTime octets, _, value, _, same => by
      cases value <;> simp [MmsValue.data] at same
      rename_i time
      simp [MmsValue.CanTake, ← same, time.buf.property, time.fits]
  | .utcTime _, _, value, _, same => by
      cases value <;> simp_all [MmsValue.data, MmsValue.CanTake]

theorem componentsCanTake_of_data {memory : Memory} : (data : List Data) →
    {parts : List Element} → {components : Components} → Data.AllCarried memory data parts →
    componentsData components = data → ComponentsCanTake components data
  | [], _, components, _, same => by
      have empty : components = [] := by
        cases components with
        | nil => rfl
        | cons _ _ => simp [componentsData] at same
      rw [empty]
      rfl
  | data :: others, _ :: _, components, carried, same => by
      cases components with
      | nil => simp [componentsData] at same
      | cons component components =>
          obtain ⟨first, rest⟩ := List.cons.inj same
          refine ⟨data, others, rfl, ?_, componentsCanTake_of_data others carried.2 rest⟩
          cases component with
          | none =>
              have missing := carried.1
              rw [← first] at missing
              exact missing.elim
          | some value => exact canTake_of_data data carried.1 first

end

/-- An update leaves the carried data without an error exactly if the data set has
storage for them. -/
theorem parseAllData_carries_iff {memory : Memory} {address length : Nat} {data : List Data}
    {components : Components} (carried : Data.CarriedAt memory address length data) :
    ((parseAllData memory address length components).value.1 = .noError ∧
        componentsData (parseAllData memory address length components).value.2 = data) ↔
      ComponentsCanTake components data := by
  constructor
  · rintro ⟨_, same⟩
    obtain ⟨_, _, all⟩ := carried
    exact componentsCanTake_parseAllData.mp (componentsCanTake_of_data data all same)
  · intro able
    obtain ⟨after, updated, same⟩ := parseAllData_of_carried carried able
    rw [updated]
    exact ⟨rfl, same⟩

end GridGooseSV
