import GridGooseSV.Goose.Acceptance
import GridGooseSV.Mms.Integer

/-!
# What an update keeps

Two data sets of one shape are updated from the same octets. What is read from them afterwards is
the same exactly if they agreed before on what the octets leave in place: whole values whose
elements are passed over, the end of a binary time, the sign of an integer without octets.
-/

namespace GridGooseSV

open BerDecoder

/-! ## Contents -/

/-- What is read from a value. -/
inductive Contents
  /-- there is nothing to read -/
  | nothing
  | components (components : List Contents)
  | boolean (value : Bool)
  | bits (bits : List Bool)
  | number (int64 : Int64) (uint32 : UInt32)
  /-- the bits of a float, an octet string or a time -/
  | octets (octets : List UInt8)
  | text (string : Option (List UInt8))

/-- What the integer getters return. -/
def Asn1PrimitiveValue.reading (value : Asn1PrimitiveValue) : Contents :=
  .number (BerInteger.toInt64 value) (BerInteger.toUint32 value)

mutual

/-- What the getters return. -/
def MmsValue.contents : MmsValue → Contents
  | .complex _ components => .components (componentsContents components)
  | .boolean value => .boolean value
  | .bitString value => .bits (bitsOf value.buf value.size)
  | .integer value | .unsigned value => value.reading
  | .float value => .octets (value.buf.val.take (value.width.formatWidth / 8))
  | .octetString value => .octets (value.buf.take value.size)
  | .visibleString value | .string value => .text (MmsValue.toString value)
  | .binaryTime value => .octets (value.buf.val.take value.size)
  | .utcTime value => .octets value.val
  | .dataAccessError _ | .unsupported _ => .nothing

def componentsContents : Components → List Contents
  | [] => []
  | component :: rest => componentContents component :: componentsContents rest

def componentContents : Option MmsValue → Contents
  | none => .nothing
  | some value => value.contents

end

/-- If both data sets accept the octets, the same is read from them afterwards. -/
def FreshAfter (memory : Memory) (address length : Nat) (first second : Components) : Prop :=
  (parseAllData memory address length first).value.1 = .noError →
    (parseAllData memory address length second).value.1 = .noError →
      componentsContents (parseAllData memory address length first).value.2 =
        componentsContents (parseAllData memory address length second).value.2

/-! ## What is kept -/

mutual

/-- What an element of a tag that passes for a value leaves of its earlier contents. -/
def MmsValue.kept (memory : Memory) (element : Element) (kind : DataTag) (value : MmsValue) :
    Contents :=
  if kind = .accessResult then value.contents
  else
    match value with
    | .complex _ components => .components (componentsKept memory
        (elements memory element.address element.length element.length 0).elements components)
    | .integer value | .unsigned value =>
      -- Without octets, the sign is that of the octets that were stored before.
      if element.length = 0 then .boolean (BerInteger.signBit value) else .nothing
    | .binaryTime value =>
      let earlier := value.buf.val.take value.size
      if element.length = 4 ∨ element.length = 6 then .octets (earlier.drop element.length)
      else .octets earlier
    | _ => .nothing

def componentsKept (memory : Memory) (parts : List Element) : Components → List Contents
  | [] => []
  | component :: rest =>
    match parts with
    | [] => []
    | element :: others =>
      componentKept memory element component :: componentsKept memory others rest

def componentKept (memory : Memory) (element : Element) : Option MmsValue → Contents
  | none => .nothing
  | some value =>
    match element.kind with
    | none => .nothing
    | some kind => value.kept memory element kind

end

/-- An element that is passed over leaves everything. -/
theorem kept_accessResult (memory : Memory) (element : Element) (value : MmsValue) :
    value.kept memory element .accessResult = value.contents := by
  cases value <;> simp [MmsValue.kept]

/-- Data sets that accept the octets agree on what the octets leave in place. -/
def KeptAlike (memory : Memory) (address length : Nat) (first second : Components) : Prop :=
  ∀ parts, elements memory address length length 0 = ⟨parts, true⟩ →
    ComponentsPass memory parts first → ComponentsPass memory parts second →
      componentsKept memory parts first = componentsKept memory parts second

/-! ## One element -/

section Elements

variable {memory : Memory} {element : Element}

/-- A float of a width takes what does not depend on its earlier bits. -/
theorem contents_setDouble (first second : FloatingPoint) (same : first.width = second.width)
    (given : Octets 8) :
    (MmsValue.float (MmsValue.setDouble first given)).contents =
      (MmsValue.float (MmsValue.setDouble second given)).contents := by
  obtain ⟨width, buf⟩ := first
  obtain ⟨_, other⟩ := second
  obtain rfl := same
  cases width with
  | single =>
      have fits : ∀ bits, (littleEndianOctets 4 bits).length = 4 := length_littleEndianOctets 4
      simp only [MmsValue.setDouble, MmsValue.contents, FloatWidth.formatWidth, Nat.reduceDiv]
      have kept := fun storage : Octets 8 => storage.take_overwrite
        (littleEndianOctets 4 (Ieee754.narrow (littleEndian given.val))) (by simp [fits])
      rw [fits] at kept
      rw [kept, kept]
  | double =>
      simp only [MmsValue.setDouble, MmsValue.contents]
      rw [Octets.overwrite_all _ given.property, Octets.overwrite_all _ given.property]

theorem contents_setFloat (first second : FloatingPoint) (same : first.width = second.width)
    (given : Octets 4) :
    (MmsValue.float (MmsValue.setFloat first given)).contents =
      (MmsValue.float (MmsValue.setFloat second given)).contents := by
  obtain ⟨width, buf⟩ := first
  obtain ⟨_, other⟩ := second
  obtain rfl := same
  cases width with
  | single =>
      simp only [MmsValue.setFloat, MmsValue.contents, FloatWidth.formatWidth, Nat.reduceDiv]
      have kept := fun storage : Octets 8 => storage.take_overwrite given.val
        (by simp [given.property])
      rw [given.property] at kept
      rw [kept, kept]
  | double =>
      simp only [MmsValue.setFloat, MmsValue.contents]
      rw [Octets.overwrite_all _ (length_littleEndianOctets ..),
        Octets.overwrite_all _ (length_littleEndianOctets ..)]

/-- The bits of a string are those that were copied over all of its storage. -/
theorem bitsOf_overwrite {buf given : List UInt8} {size : Nat}
    (stored : buf.length = bitStringByteSize size) (covers : size ≤ 8 * given.length) :
    bitsOf (overwrite buf given) size = bitsOf given size := by
  have room : buf.length ≤ given.length := by
    rw [stored, bitStringByteSize]
    split <;> omega
  have written : overwrite buf given = given.take buf.length := by
    rw [overwrite, List.drop_of_length_le room, List.append_nil]
  refine bitsOf_congr fun bitPos inside => ?_
  have below : bitPos / 8 < buf.length := by
    rw [stored, bitStringByteSize]
    split <;> omega
  rw [written, List.getD_eq_getElem?_getD, List.getD_eq_getElem?_getD,
    List.getElem?_take_of_lt below]

theorem contents_updateBitString
    {nested : Nat → Nat → Components → Traced Access (GooseParseError × Components)}
    (known : DataTag.ofOctet? element.tag = some .bitString) {bits : BitString}
    (size : 8 * ((element.length : Int) - 1) - (memory element.address).toNat = bits.size) :
    (updateElement memory nested element.tag element.address element.length
        (.bitString bits)).value.2.contents =
      .bits (bitsOf (memory.octets (element.address + 1) (element.length - 1)) bits.size) := by
  have covers : bits.size ≤
      8 * (memory.octets (element.address + 1) (element.length - 1)).length := by
    rw [Memory.length_octets]
    omega
  have taken := bitsOf_overwrite bits.stored covers
  simp [updateElement, known, MmsValue.contents, size, taken]

/-- What an integer reads after it took the octets of an element. -/
theorem reading_setOctets_iff {first second : Asn1PrimitiveValue} {given : List UInt8}
    (fits : given.length ≤ first.maxSize) (fitsSecond : given.length ≤ second.maxSize) :
    (first.setOctets given fits).reading = (second.setOctets given fitsSecond).reading ↔
      (given = [] → BerInteger.signBit first = BerInteger.signBit second) := by
  have contents : (first.setOctets given fits).content =
      (second.setOctets given fitsSecond).content := by
    rw [Asn1PrimitiveValue.content_setOctets, Asn1PrimitiveValue.content_setOctets]
  simp only [Asn1PrimitiveValue.reading, Contents.number.injEq,
    iff_true_intro (BerInteger.toUint32_congr contents), and_true]
  by_cases empty : given = []
  · subst empty
    rw [BerInteger.toInt64_of_empty rfl, BerInteger.toInt64_of_empty rfl]
    have kept : ∀ value : Asn1PrimitiveValue, ∀ fits,
        BerInteger.signBit (value.setOctets [] fits) = BerInteger.signBit value := by
      intro value fits
      simp [BerInteger.signBit, Asn1PrimitiveValue.setOctets, overwrite]
    rw [kept, kept]
    cases BerInteger.signBit first <;> cases BerInteger.signBit second <;> simp
  · have present : given.length ≠ 0 := fun none => empty (List.length_eq_zero_iff.mp none)
    refine iff_of_true (BerInteger.toInt64_congr contents ?_) fun none => absurd none empty
    rw [BerInteger.signBit_eq present, BerInteger.signBit_eq present, contents]

/-- What an integer reads after an element that fits. -/
theorem contents_updatePrimitive_iff {first second : Asn1PrimitiveValue}
    (fits : element.length ≤ first.maxSize) (fitsSecond : element.length ≤ second.maxSize) :
    (updatePrimitive memory element.address element.length first).value.2.reading =
        (updatePrimitive memory element.address element.length second).value.2.reading ↔
      (if element.length = 0 then .boolean (BerInteger.signBit first) else Contents.nothing) =
        if element.length = 0 then .boolean (BerInteger.signBit second) else .nothing := by
  rw [value_updatePrimitive fits, value_updatePrimitive fitsSecond, reading_setOctets_iff,
    ← List.length_eq_zero_iff, Memory.length_octets]
  split_ifs with empty <;> simp [empty]

/-- What a binary time reads after octets were copied into it. -/
theorem take_overwrite_iff {first second : Octets 6} {given : List UInt8} {size : Nat}
    (fits : given.length ≤ 6) :
    (first.overwrite given).val.take size = (second.overwrite given).val.take size ↔
      (first.val.take size).drop given.length = (second.val.take size).drop given.length := by
  have written : ∀ storage : Octets 6, (storage.overwrite given).val.take size =
      given.take size ++ (storage.val.take size).drop given.length := by
    intro storage
    rw [Octets.overwrite]
    change (overwrite storage.val given).take size = _
    rw [overwrite, storage.property, List.take_of_length_le fits, List.take_append,
      List.drop_take]
  rw [written, written, List.append_cancel_left_eq]

/-- Two values that an element passes for read the same afterwards exactly if they agreed on what
it keeps, if that is so for nested elements. -/
theorem contents_updateElement_iff {kind : DataTag} (known : element.kind = some kind)
    {nested : Nat → Nat → Components → Traced Access (GooseParseError × Components)}
    (nestedIff : ∀ {first second : Components},
      Data.shapes (componentsData first) = Data.shapes (componentsData second) →
      ∀ {parts}, elements memory element.address element.length element.length 0 = ⟨parts, true⟩ →
        ComponentsPass memory parts first → ComponentsPass memory parts second →
        (componentsContents (nested element.address element.length first).value.2 =
            componentsContents (nested element.address element.length second).value.2 ↔
          componentsKept memory parts first = componentsKept memory parts second))
    {value other : MmsValue} (shape : value.data.shape = other.data.shape)
    (passes : value.Passes memory element kind) (passesOther : other.Passes memory element kind) :
    (updateElement memory nested element.tag element.address element.length
        value).value.2.contents =
        (updateElement memory nested element.tag element.address element.length
          other).value.2.contents ↔
      value.kept memory element kind = other.kept memory element kind := by
  unfold Element.kind at known
  by_cases reserved : kind = .accessResult
  · subst reserved
    rw [kept_accessResult, kept_accessResult]
    simp [updateElement, known]
  · cases value with
    | complex type components =>
        cases other <;> simp only [MmsValue.data, Data.shape, reduceCtorEq] at shape
        obtain ⟨rfl, shapes⟩ := Data.complex.inj shape
        simp only [MmsValue.Passes, reserved, false_or] at passes passesOther
        obtain ⟨rfl, parts, scanned, passes⟩ := passes
        obtain ⟨_, _, scannedOther, passesOther⟩ := passesOther
        obtain ⟨rfl, _⟩ := Scan.mk.inj (scanned.symm.trans scannedOther)
        have nested := nestedIff shapes scanned passes passesOther
        simpa [updateElement, known, MmsValue.kept, MmsValue.contents, scanned] using nested
    | boolean _ =>
        cases other <;> simp only [MmsValue.data, Data.shape, reduceCtorEq] at shape
        simp only [MmsValue.Passes, reserved, false_or] at passes
        subst passes
        simp [updateElement, known, MmsValue.kept]
    | bitString bits =>
        cases other <;> simp only [MmsValue.data, Data.shape, reduceCtorEq] at shape
        rename_i others
        simp only [MmsValue.Passes, reserved, false_or] at passes passesOther
        obtain ⟨rfl, size⟩ := passes
        obtain ⟨_, sizeOther⟩ := passesOther
        rw [contents_updateBitString known size, contents_updateBitString known sizeOther,
          show bits.size = others.size by omega]
        simp [MmsValue.kept, reserved]
    | integer number =>
        cases other <;> simp only [MmsValue.data, Data.shape, reduceCtorEq] at shape
        rename_i others
        simp only [MmsValue.Passes, reserved, false_or] at passes passesOther
        obtain ⟨rfl, fits⟩ := passes
        have taken := @contents_updatePrimitive_iff memory _ _ _ fits passesOther.2
        simpa [updateElement, known, MmsValue.kept, MmsValue.contents] using taken
    | unsigned number =>
        cases other <;> simp only [MmsValue.data, Data.shape, reduceCtorEq] at shape
        rename_i others
        simp only [MmsValue.Passes, reserved, false_or] at passes passesOther
        obtain ⟨rfl, fits⟩ := passes
        have taken := @contents_updatePrimitive_iff memory _ _ _ fits passesOther.2
        simpa [updateElement, known, MmsValue.kept, MmsValue.contents] using taken
    | float number =>
        cases other <;> simp only [MmsValue.data, Data.shape, reduceCtorEq] at shape
        obtain ⟨width, _⟩ := Data.float.inj shape
        simp only [MmsValue.Passes, reserved, false_or] at passes
        obtain ⟨rfl, length | length⟩ := passes
        · have taken := contents_setDouble number _ width
            (decodeDouble memory element.address 0).value
          simpa [updateElement, known, MmsValue.kept, length] using taken
        · have taken := contents_setFloat number _ width
            (decodeFloat memory element.address 0).value
          simpa [updateElement, known, MmsValue.kept, length] using taken
    | octetString string =>
        cases other <;> simp only [MmsValue.data, Data.shape, reduceCtorEq] at shape
        rename_i others
        simp only [MmsValue.Passes, reserved, false_or] at passes
        subst passes
        obtain ⟨_, rfl, first⟩ :=
          value_updateOctetString memory element.address element.length string
        obtain ⟨_, rfl, second⟩ :=
          value_updateOctetString memory element.address element.length others
        simp [updateElement, known, MmsValue.kept, MmsValue.contents, first, second]
    | visibleString string =>
        cases other <;> simp only [MmsValue.data, Data.shape, reduceCtorEq] at shape
        rename_i others
        simp only [MmsValue.Passes, reserved, false_or] at passes
        subst passes
        have first := @value_updateVisibleString memory element.address element.length string
        have second := @value_updateVisibleString memory element.address element.length others
        simp [updateElement, known, MmsValue.kept, MmsValue.contents, MmsValue.toString, first,
          second]
    | binaryTime time =>
        cases other <;> simp only [MmsValue.data, Data.shape, reduceCtorEq] at shape
        rename_i others
        simp only [MmsValue.Passes, reserved, false_or] at passes
        subst passes
        have sizes : time.size = others.size := by
          have lengths := congrArg List.length (Data.binaryTime.inj shape)
          simpa [time.buf.property, others.buf.property, time.fits, others.fits] using lengths
        by_cases length : element.length = 4 ∨ element.length = 6
        · have fits : (memory.octets element.address element.length).length ≤ 6 := by
            rw [Memory.length_octets]
            omega
          have taken := @take_overwrite_iff time.buf others.buf _ others.size fits
          simpa [updateElement, known, MmsValue.kept, MmsValue.contents, length, sizes] using taken
        · simp [updateElement, known, MmsValue.kept, MmsValue.contents, length]
    | utcTime time =>
        cases other <;> simp only [MmsValue.data, Data.shape, reduceCtorEq] at shape
        rename_i others
        simp only [MmsValue.Passes, reserved, false_or] at passes
        obtain ⟨rfl, length⟩ := passes
        have taken : ∀ storage : Octets 8,
            (MmsValue.setUtcTimeByBuffer storage (memory.octets element.address 8)).val =
              memory.octets element.address 8 := by
          intro storage
          rw [MmsValue.setUtcTimeByBuffer, List.take_of_length_le (by simp),
            Octets.overwrite_all _ (by simp)]
        simp [updateElement, known, MmsValue.kept, MmsValue.contents, length, taken]
    | dataAccessError _ => exact absurd passes reserved
    | string _ => exact absurd passes reserved
    | unsupported => exact absurd passes reserved

end Elements

/-! ## Whole data sets -/

theorem componentsContents_append (first second : Components) :
    componentsContents (first ++ second) =
      componentsContents first ++ componentsContents second := by
  induction first with
  | nil => rfl
  | cons component first ih =>
      rw [List.cons_append, componentsContents, componentsContents, ih, List.cons_append]

theorem components_of_pass_nil {memory : Memory} {components : Components}
    (passes : ComponentsPass memory [] components) : components = [] := by
  cases components with
  | nil => rfl
  | cons component rest =>
      obtain ⟨_, _, split, _⟩ := passes
      contradiction

theorem components_of_pass_cons {memory : Memory} {element : Element} {others : List Element}
    {components : Components} (passes : ComponentsPass memory (element :: others) components) :
    ∃ value rest, components = some value :: rest ∧
      ComponentPasses memory element (some value) ∧ ComponentsPass memory others rest := by
  cases components with
  | nil => exact absurd passes (List.cons_ne_nil _ _)
  | cons component rest =>
      obtain ⟨first, following⟩ := componentsPass_cons.mp passes
      cases component with
      | none => exact first.elim
      | some value => exact ⟨value, rest, rfl, first, following⟩

/-- Two updates from octets that pass read the same exactly if what was decoded before reads the
same and what is left agrees on what is kept. -/
theorem contents_updateLoop_iff {memory : Memory} {fuel buffer allDataLength bufPos : Nat}
    {done other first second : Components} {parts : List Element}
    (enough : allDataLength - bufPos ≤ fuel)
    (shapes : Data.shapes (componentsData first) = Data.shapes (componentsData second))
    (scanned : elements memory buffer allDataLength allDataLength bufPos = ⟨parts, true⟩)
    (passes : ComponentsPass memory parts first)
    (passesOther : ComponentsPass memory parts second) :
    componentsContents (updateLoop memory fuel buffer allDataLength bufPos done.length
          (done ++ first)).value.2 =
        componentsContents (updateLoop memory fuel buffer allDataLength bufPos other.length
          (other ++ second)).value.2 ↔
      componentsContents done = componentsContents other ∧
        componentsKept memory parts first = componentsKept memory parts second := by
  induction fuel generalizing buffer allDataLength bufPos done other first second parts with
  | zero =>
      have ended : allDataLength ≤ bufPos := by omega
      obtain ⟨rfl, _⟩ := Scan.mk.inj (scanned.symm.trans (elements_end ended))
      obtain rfl := components_of_pass_nil passes
      obtain rfl := components_of_pass_nil passesOther
      rw [value_updateLoop_end ended, value_updateLoop_end ended]
      simp [componentsKept]
  | succ fuel ih =>
      cases parts with
      | nil =>
          have ended := elements_eq_nil.mp scanned
          obtain rfl := components_of_pass_nil passes
          obtain rfl := components_of_pass_nil passesOther
          rw [value_updateLoop_end ended, value_updateLoop_end ended]
          simp [componentsKept]
      | cons element others =>
          obtain ⟨inside, start, length, decoded, rfl, rest⟩ := elements_eq_cons.mp scanned
          obtain ⟨later, within⟩ := decodeLength_spec decoded
          obtain ⟨value, following, rfl, accepted, left⟩ := components_of_pass_cons passes
          obtain ⟨value', following', rfl, accepted', left'⟩ := components_of_pass_cons passesOther
          obtain ⟨shape, shapes⟩ := List.cons.inj shapes
          have enoughLeft : length ≤ fuel := by omega
          rw [value_updateLoop_cons inside, value_updateLoop_cons inside]
          simp only [decoded]
          rw [if_neg (not_not.mpr ((updateElement_passes_iff enoughLeft _).mpr accepted)),
            if_neg (not_not.mpr ((updateElement_passes_iff enoughLeft _).mpr accepted')),
            ih (by omega) shapes rest left left']
          obtain ⟨kind, known, accepted⟩ := accepted
          obtain ⟨_, knownOther, accepted'⟩ := accepted'
          obtain rfl := Option.some.inj (known.symm.trans knownOther)
          have one := @contents_updateElement_iff memory
            ⟨memory (buffer + bufPos), buffer + start, length⟩ kind known
            (fun buffer allDataLength => updateLoop memory fuel buffer allDataLength 0 0)
            (fun {_ _} shapes {_} scanned passes passesOther =>
              (@ih (buffer + start) length 0 [] [] _ _ _ (by omega) shapes scanned passes
                passesOther).trans (and_iff_right rfl))
            value value' shape accepted accepted'
          simp only [componentsContents_append, componentsContents, componentContents,
            componentsKept, componentKept, known, List.cons.injEq, ← one]
          rw [List.append_eq_append_iff_of_size_eq_right (by rfl), List.cons.injEq,
            and_iff_left rfl, and_assoc]

/-- The same is read from two data sets of one shape that accepted the octets, if and only if they
agreed on what the octets leave in place. -/
theorem parseAllData_fresh_iff {memory : Memory} {address length : Nat}
    {first second : Components}
    (shapes : Data.shapes (componentsData first) = Data.shapes (componentsData second)) :
    FreshAfter memory address length first second ↔
      KeptAlike memory address length first second := by
  unfold FreshAfter KeptAlike
  rw [parseAllData_noError_iff, parseAllData_noError_iff]
  constructor
  · intro fresh parts scanned passes passesOther
    have same := fresh ⟨parts, scanned, passes⟩ ⟨parts, scanned, passesOther⟩
    exact ((@contents_updateLoop_iff memory length address length 0 [] [] _ _ _ (by omega)
      shapes scanned passes passesOther).mp same).2
  · rintro alike ⟨parts, scanned, passes⟩ ⟨_, scannedOther, passesOther⟩
    obtain ⟨rfl, _⟩ := Scan.mk.inj (scanned.symm.trans scannedOther)
    exact (@contents_updateLoop_iff memory length address length 0 [] [] _ _ _ (by omega)
      shapes scanned passes passesOther).mpr ⟨rfl, alike _ scanned passes passesOther⟩

/-- The octets of a boolean, and of a structure of an integer, a binary time and a text. -/
def mixedOctets : List UInt8 :=
  [0x83, 1, 1, 0xa2, 15, 0x85, 2, 1, 2, 0x8c, 4, 1, 2, 3, 4, 0x8a, 3, 0x61, 0x62, 0x63]

/-- A data set of that shape. -/
def mixedValues (flag : Bool) (number : Octets 2) (time : Octets 6) (text : List UInt8) :
    Components :=
  [some (.boolean flag), some (.complex .structure [
    some (.integer ((MmsValue.newInteger 32).setOctets number.val
      (by rw [number.property]; decide))),
    some (.binaryTime { MmsValue.newBinaryTime true with buf := time }),
    some (.visibleString (MmsValue.newVisibleStringFromByteArray text))])]

/-- Two data sets that differ in every value accept the octets, and the same is read from both. -/
theorem parseAllData_fresh_of_mixed :
    let memory := Memory.ofOctets mixedOctets fun _ => 0
    let first := mixedValues true ⟨[1, 2], rfl⟩ ⟨[1, 2, 3, 4, 5, 6], rfl⟩ [0x41]
    let second := mixedValues false ⟨[0x83, 4], rfl⟩ ⟨[6, 5, 4, 3, 2, 1], rfl⟩ []
    (parseAllData memory 0 20 first).value.1 = .noError ∧
      (parseAllData memory 0 20 second).value.1 = .noError ∧
      FreshAfter memory 0 20 first second := by
  refine ⟨rfl, rfl, (parseAllData_fresh_iff rfl).mpr ?_⟩
  intro parts scanned _ _
  obtain rfl := congrArg Scan.elements scanned
  rfl

/-- An element that is reserved for an access result is accepted, and leaves a boolean as it was. -/
theorem parseAllData_stale :
    ¬ ∀ (memory : Memory) (address length : Nat) (first second : Components),
      Data.shapes (componentsData first) = Data.shapes (componentsData second) →
      FreshAfter memory address length first second := by
  intro claim
  have accepted : ∀ value, (parseAllData (Memory.ofOctets [0x80, 0] fun _ => 0) 0 2
      [some (.boolean value)]).value = (.noError, [some (.boolean value)]) := by
    intro value
    rfl
  have same := claim (Memory.ofOctets [0x80, 0] fun _ => 0) 0 2 [some (.boolean true)]
    [some (.boolean false)] rfl (by rw [accepted]) (by rw [accepted])
  rw [accepted, accepted] at same
  simp [componentsContents, componentContents, MmsValue.contents] at same

end GridGooseSV
