import GridGooseSV.Goose.Carried
import Mathlib.Data.List.Forall2

/-!
# Building a data set

`parseAllDataUnknownValue` builds a data set without missing components exactly
from octets that carry data, and the data set then has that data and the storage
that is built for it.
-/

namespace GridGooseSV

open BerDecoder

section Elements

variable {memory : Memory} {element : Element}
variable {nested : Nat → Nat → Bool → Traced Access (Option Components × Bool)}

theorem newInteger_maxSize (size : Nat) :
    (MmsValue.newInteger (size * 8)).maxSize = Data.integerCapacity size := by
  unfold MmsValue.newInteger MmsValue.newPrimitive Data.integerCapacity
  by_cases small : size ≤ 4
  · rw [if_pos (by omega), if_pos small]
    rfl
  · rw [if_neg (by omega), if_neg small]
    rfl

theorem newUnsigned_maxSize (size : Nat) :
    (MmsValue.newUnsigned (size * 8)).maxSize = Data.integerCapacity size :=
  newInteger_maxSize size

/-- An integer of at most eight octets is built from all of them. -/
theorem value_createPrimitive (memory : Memory) (address : Nat) {elementLength : Nat}
    (short : elementLength ≤ 8) {value : Asn1PrimitiveValue}
    (capacity : value.maxSize = Data.integerCapacity elementLength)
    (wrap : Asn1PrimitiveValue → MmsValue) :
    ∃ number, (createPrimitive memory address elementLength value wrap).value =
        .value (wrap number) ∧
      number.content = memory.octets address elementLength ∧
      number.maxSize = Data.integerCapacity elementLength := by
  have fits : (memory.octets address elementLength).length ≤ value.maxSize := by
    rw [Memory.length_octets, capacity, Data.integerCapacity]
    split <;> omega
  refine ⟨_, ?_, Asn1PrimitiveValue.content_setOctets _ _ fits, ?_⟩
  · unfold createPrimitive
    simp only [↓value_bind_memcpy, Traced.value_dite]
    rw [dif_pos fits, Traced.value_pure]
  · rw [Asn1PrimitiveValue.maxSize_setOctets, capacity]

variable (memory nested element) in
/-- An element is built into a value with the given data and its storage. -/
def Builds (data : Data) : Prop :=
  ∀ selfAllocated, ∃ value flag,
    (createElement memory nested element.tag element.address element.length
      selfAllocated).value = (.value value, flag) ∧ value.data = data ∧ value.BuiltFor data

theorem builds_boolean (kind : element.kind = some .boolean) :
    Builds memory element nested (.boolean (decide (memory element.address ≠ 0))) := by
  intro selfAllocated
  refine ⟨.boolean (decide (memory element.address ≠ 0)), selfAllocated, ?_, rfl,
    MmsValue.builtFor_boolean _ _⟩
  unfold Element.kind at kind
  simp [createElement, kind, decodeBoolean]

theorem builds_bitString (kind : element.kind = some .bitString) (long : 1 < element.length)
    (padding : (memory element.address).toNat ≤ 7) :
    Builds memory element nested
      (.bitString (bitsOf (memory.octets (element.address + 1) (element.length - 1))
        (element.bitCount memory))) := by
  intro selfAllocated
  have size : (MmsValue.newBitString (((element.length - 1) * 8 : Nat) -
      (memory element.address).toNat)).size = element.bitCount memory := by
    simp only [MmsValue.newBitString, Element.bitCount]
    omega
  unfold Element.kind at kind
  refine ⟨.bitString { MmsValue.newBitString (((element.length - 1) * 8 : Nat) -
      (memory element.address).toNat) with
    buf := overwrite _ (memory.octets (element.address + 1) (element.length - 1))
    stored := by rw [length_overwrite, BitString.stored] }, selfAllocated, ?_, ?_, ?_⟩
  · simp only [createElement, kind]
    rw [if_pos long]
    simp only [↓Memory.value_bind_read, Traced.value_ite]
    rw [if_neg (Nat.not_lt.mpr padding)]
    rfl
  · simp only [MmsValue.data, size, overwrite_bitString long padding _ size]
  · exact MmsValue.builtFor_bitString (by rw [length_bitsOf]; exact size.symm)

theorem builds_integer (kind : element.kind = some .integer) (short : element.length ≤ 8) :
    Builds memory element nested (.integer (element.content memory)) := by
  intro selfAllocated
  obtain ⟨number, created, content, capacity⟩ :=
    value_createPrimitive memory element.address short (newInteger_maxSize _) .integer
  unfold Element.kind at kind
  refine ⟨.integer number, selfAllocated, ?_, congrArg Data.integer content, ?_⟩
  · simp only [createElement, kind]
    rw [if_neg (Nat.not_lt.mpr short)]
    simp only [Traced.value_bind, created, Traced.value_pure]
  · exact MmsValue.builtFor_integer
      (by rw [capacity, Element.content, Memory.length_octets])

theorem builds_unsigned (kind : element.kind = some .unsigned) (short : element.length ≤ 8) :
    Builds memory element nested (.unsigned (element.content memory)) := by
  intro selfAllocated
  obtain ⟨number, created, content, capacity⟩ :=
    value_createPrimitive memory element.address short (newUnsigned_maxSize _) .unsigned
  unfold Element.kind at kind
  refine ⟨.unsigned number, selfAllocated, ?_, congrArg Data.unsigned content, ?_⟩
  · simp only [createElement, kind]
    rw [if_neg (Nat.not_lt.mpr short)]
    simp only [Traced.value_bind, created, Traced.value_pure]
  · exact MmsValue.builtFor_unsigned
      (by rw [capacity, Element.content, Memory.length_octets])

theorem builds_float (kind : element.kind = some .float) (width : FloatWidth)
    (length : element.length = width.formatWidth / 8 + 1) :
    Builds memory element nested (.float width
      (memory.octets (element.address + 1) (width.formatWidth / 8)).reverse) := by
  intro selfAllocated
  unfold Element.kind at kind
  cases width with
  | single =>
      refine ⟨.float (MmsValue.newFloat
        ⟨(memory.octets (element.address + 1) 4).reverse, by simp⟩), selfAllocated, ?_, ?_,
        MmsValue.builtFor_float _ _⟩
      · simp only [createElement, kind, length]
        rfl
      · exact MmsValue.data_float .single (by simp [FloatWidth.formatWidth]) _
  | double =>
      refine ⟨.float (MmsValue.newDouble
        ⟨(memory.octets (element.address + 1) 8).reverse, by simp⟩), selfAllocated, ?_, ?_,
        MmsValue.builtFor_float _ _⟩
      · simp only [createElement, kind, length]
        rfl
      · exact MmsValue.data_float .double (by simp [FloatWidth.formatWidth]) _

theorem builds_octetString (kind : element.kind = some .octetString) :
    Builds memory element nested (.octetString (element.content memory)) := by
  intro selfAllocated
  unfold Element.kind at kind
  refine ⟨.octetString { MmsValue.newOctetString element.length element.length (Nat.le_refl _) with
    buf := overwrite _ (memory.octets element.address element.length)
    stored := by rw [length_overwrite, OctetString.stored] }, selfAllocated, ?_, ?_,
    MmsValue.builtFor_octetString _ _⟩
  · simp only [createElement, kind]
    rfl
  · have kept := take_overwrite
      (MmsValue.newOctetString element.length element.length (Nat.le_refl _)).buf
      (memory.octets element.address element.length)
      (by simp [MmsValue.newOctetString])
    rw [Memory.length_octets] at kept
    exact congrArg Data.octetString kept

theorem builds_visibleString (kind : element.kind = some .visibleString) :
    Builds memory element nested
      (.visibleString (some (cString (element.content memory)))) := by
  intro selfAllocated
  unfold Element.kind at kind
  refine ⟨.visibleString (MmsValue.newVisibleStringFromByteArray (element.content memory)),
    selfAllocated, ?_, ?_, MmsValue.builtFor_visibleString _ _⟩
  · simp only [createElement, kind]
    rfl
  · simp only [MmsValue.data, MmsValue.newVisibleStringFromByteArray, Option.map_some,
      cString_append_zero]

theorem builds_binaryTime (kind : element.kind = some .binaryTime)
    (length : element.length = 4 ∨ element.length = 6) :
    Builds memory element nested (.binaryTime (element.content memory)) := by
  intro selfAllocated
  unfold Element.kind at kind
  have size : (MmsValue.newBinaryTime (element.length = 4)).size = element.length := by
    rcases length with length | length <;> simp [MmsValue.newBinaryTime, length]
  refine ⟨.binaryTime { MmsValue.newBinaryTime (element.length = 4) with
    buf := Octets.overwrite (MmsValue.newBinaryTime (element.length = 4)).buf
      (element.content memory) }, selfAllocated, ?_, ?_, ?_⟩
  · simp only [createElement, kind]
    rw [if_pos length]
    rfl
  · have kept := Octets.take_overwrite (MmsValue.newBinaryTime (element.length = 4)).buf
      (element.content memory) (by
        rw [Element.content, Memory.length_octets]
        omega)
    rw [Element.content, Memory.length_octets] at kept
    simp only [MmsValue.data, size]
    exact congrArg Data.binaryTime kept
  · exact MmsValue.builtFor_binaryTime (by rw [Element.content, Memory.length_octets, size])

theorem builds_utcTime (kind : element.kind = some .utcTime) (length : element.length = 8) :
    Builds memory element nested (.utcTime (element.content memory)) := by
  intro selfAllocated
  unfold Element.kind at kind
  refine ⟨.utcTime (MmsValue.setUtcTimeByBuffer (MmsValue.newUtcTime 0)
    (memory.octets element.address 8)), selfAllocated, ?_, ?_, MmsValue.builtFor_utcTime _ _⟩
  · simp only [createElement, kind, length]
    rfl
  · have taken : (memory.octets element.address 8).take 8 = memory.octets element.address 8 :=
      List.take_of_length_le (by simp)
    simp only [MmsValue.data, MmsValue.setUtcTimeByBuffer, taken, Element.content, length]
    rw [Octets.overwrite_all _ (by simp)]

end Elements

section Filling

variable {memory : Memory} {build : Nat → Nat → Bool → Traced Access (Option Components × Bool)}
variable {buffer allDataLength : Nat}

theorem value_fillElements_succ (fuel bufPos elementIndex : Nat) (dataSetValues : Components)
    (selfAllocated : Bool) :
    (fillElements memory build buffer allDataLength (fuel + 1) bufPos elementIndex dataSetValues
        selfAllocated).value =
      if bufPos < allDataLength then
        match (decodeLength memory buffer allDataLength (bufPos + 1)).value with
        | none => (none, selfAllocated)
        | some (start, length) =>
          match (createElement memory build (memory (buffer + bufPos)) (buffer + start) length
            selfAllocated).value with
          | (.error, selfAllocated) => (none, selfAllocated)
          | (.skipped, selfAllocated) =>
            (fillElements memory build buffer allDataLength fuel (start + length) elementIndex
              dataSetValues selfAllocated).value
          | (.value value, selfAllocated) =>
            (fillElements memory build buffer allDataLength fuel (start + length)
              (elementIndex + 1) (MmsValue.setElement dataSetValues elementIndex value)
              selfAllocated).value
      else (some dataSetValues, true) := by
  simp only [fillElements, ↓Memory.value_bind_read, Traced.value_ite, Traced.value_bind,
    Traced.value_pure]
  rcases (decodeLength memory buffer allDataLength (bufPos + 1)).value with _ | ⟨start, length⟩
  · rfl
  · simp only [Traced.value_bind]
    rcases (createElement memory build (memory (buffer + bufPos)) (buffer + start) length
      selfAllocated).value with ⟨_ | _ | _, _⟩ <;> rfl

/-- The next free component is set. -/
theorem setElement_filled (done : List MmsValue) (value : MmsValue) (left : Nat) :
    MmsValue.setElement (done.map some ++ List.replicate (left + 1) none) done.length value =
      (done ++ [value]).map some ++ List.replicate left none := by
  rw [MmsValue.setElement, List.set_append_right _ _ (by simp), List.length_map, Nat.sub_self,
    List.replicate_succ, List.set_cons_zero]
  simp

/-- Elements that are all built fill the free components. -/
theorem fillElements_of_builds {data : List Data} {parts : List Element} {fuel bufPos : Nat}
    (enough : allDataLength - bufPos ≤ fuel)
    (scanned : elements memory buffer allDataLength allDataLength bufPos = ⟨parts, true⟩)
    (built : List.Forall₂ (Builds memory · build) parts data) (done : List MmsValue)
    (selfAllocated : Bool) :
    ∃ values, (fillElements memory build buffer allDataLength fuel bufPos done.length
        (done.map some ++ List.replicate data.length none) selfAllocated).value =
        (some ((done ++ values).map some), true) ∧
      List.Forall₂ (fun value data => value.data = data ∧ value.BuiltFor data) values data := by
  induction built generalizing fuel bufPos done selfAllocated with
  | nil =>
      refine ⟨[], ?_, .nil⟩
      have ended := elements_eq_nil.mp scanned
      cases fuel with
      | zero => simp [fillElements]
      | succ fuel =>
          rw [value_fillElements_succ, if_neg (Nat.not_lt.mpr ended)]
          simp
  | @cons element data rest others first _ ih =>
      obtain ⟨inside, start, length, decoded, rfl, following⟩ := elements_eq_cons.mp scanned
      have later := decodeLength_advances decoded
      obtain ⟨value, flag, created, carried, storage⟩ := first selfAllocated
      cases fuel with
      | zero => omega
      | succ fuel =>
          obtain ⟨values, filled, all⟩ := @ih fuel _ (by omega) following (done ++ [value]) flag
          refine ⟨value :: values, ?_, .cons ⟨carried, storage⟩ all⟩
          rw [value_fillElements_succ, if_pos inside]
          simp only [decoded, created, List.length_cons, setElement_filled]
          rw [List.length_append, List.length_singleton] at filled
          rw [filled, List.append_assoc, List.singleton_append]

end Filling

/-- Values with the given data and its storage are components with that data. -/
theorem components_of_forall₂ {values : List MmsValue} {data : List Data}
    (all : List.Forall₂ (fun value data => value.data = data ∧ value.BuiltFor data) values data) :
    componentsData (values.map some) = data ∧ ComponentsBuiltFor (values.map some) data := by
  induction all with
  | nil => exact ⟨rfl, componentsBuiltFor_nil⟩
  | cons first _ ih =>
      refine ⟨?_, componentsBuiltFor_cons first.2 ih.2⟩
      rw [List.map_cons, componentsData, ih.1, componentData, first.1]

/-- A range in which every element is built. -/
theorem createLoop_of_builds {memory : Memory} {fuel address length : Nat} {data : List Data}
    {parts : List Element}
    (scanned : elements memory address length length 0 = ⟨parts, true⟩)
    (known : ∀ element ∈ parts, element.kind.isSome)
    (built : List.Forall₂ (Builds memory · (createLoop memory fuel)) parts data)
    (selfAllocated : Bool) :
    ∃ components, (createLoop memory (fuel + 1) address length selfAllocated).value =
        (some components, true) ∧
      componentsData components = data ∧ ComponentsBuiltFor components data := by
  obtain ⟨values, filled, all⟩ :=
    fillElements_of_builds (Nat.le_refl _) scanned built [] selfAllocated
  refine ⟨values.map some, ?_, components_of_forall₂ all⟩
  have counted := @countElements_eq memory address length parts length 0 0 (Nat.le_refl _)
    scanned known
  rw [Nat.zero_add, built.length_eq] at counted
  simp only [createLoop, Traced.value_bind, counted]
  simpa using filled

mutual

/-- What carries data is built into it. -/
theorem builds_of_carried {memory : Memory} : (data : Data) → {element : Element} →
    {fuel : Nat} → element.length < fuel → data.Carried memory element →
    Builds memory element (createLoop memory fuel) data
  | .complex type components, element, fuel, short, carried => by
      obtain ⟨kind, parts, scanned, all⟩ := carried
      intro selfAllocated
      cases fuel with
      | zero => omega
      | succ fuel =>
          obtain ⟨known, built⟩ := @forall₂_builds_of_carried memory components _ fuel
            (fun element member => by
              have within := elements_within element (by rw [scanned]; exact member)
              omega) all
          obtain ⟨values, created, data, storage⟩ :=
            createLoop_of_builds scanned known built selfAllocated
          refine ⟨.complex type values, true, ?_, ?_, MmsValue.builtFor_complex storage⟩
          · unfold Element.kind at kind
            simp only [createElement, kind, Traced.value_bind, created, Traced.value_pure]
          · rw [MmsValue.data, data]
  | .boolean _, _, _, _, carried => carried.2 ▸ builds_boolean carried.1
  | .bitString _, _, _, _, carried =>
      carried.2.2.2 ▸ builds_bitString carried.1 carried.2.1 carried.2.2.1
  | .integer _, _, _, _, carried => carried.2.2 ▸ builds_integer carried.1 carried.2.1
  | .unsigned _, _, _, _, carried => carried.2.2 ▸ builds_unsigned carried.1 carried.2.1
  | .float _ _, _, _, _, carried => carried.2.2 ▸ builds_float carried.1 _ carried.2.1
  | .octetString _, _, _, _, carried => carried.2 ▸ builds_octetString carried.1
  | .visibleString _, _, _, _, carried => carried.2 ▸ builds_visibleString carried.1
  | .binaryTime _, _, _, _, carried => carried.2.2 ▸ builds_binaryTime carried.1 carried.2.1
  | .utcTime _, _, _, _, carried => carried.2.2 ▸ builds_utcTime carried.1 carried.2.1

theorem forall₂_builds_of_carried {memory : Memory} : (data : List Data) →
    {parts : List Element} → {fuel : Nat} → (∀ element ∈ parts, element.length < fuel) →
    Data.AllCarried memory data parts →
    (∀ element ∈ parts, element.kind.isSome) ∧
      List.Forall₂ (Builds memory · (createLoop memory fuel)) parts data
  | [], [], _, _, _ => ⟨by simp, .nil⟩
  | data :: others, element :: rest, fuel, short, carried => by
      have first := builds_of_carried data (short element List.mem_cons_self) carried.1
      obtain ⟨known, built⟩ := forall₂_builds_of_carried others
        (fun element member => short element (List.mem_cons_of_mem _ member)) carried.2
      refine ⟨?_, .cons first built⟩
      intro element member
      rcases List.mem_cons.mp member with rfl | member
      · exact Data.kind_of_carried carried.1
      · exact known element member

end

/-- Octets that carry data are built into a data set that has it. -/
theorem parseAllDataUnknownValue_of_carried {memory : Memory} {address length : Nat}
    {data : List Data} (carried : Data.CarriedAt memory address length data)
    (selfAllocated : Bool) :
    ∃ components, (parseAllDataUnknownValue memory address length selfAllocated).value =
        (some components, true) ∧
      componentsData components = data ∧ ComponentsBuiltFor components data := by
  obtain ⟨parts, scanned, all⟩ := carried
  obtain ⟨known, built⟩ := @forall₂_builds_of_carried memory data _ length
    (fun element member => by
      have within := elements_within element (by rw [scanned]; exact member)
      omega) all
  exact createLoop_of_builds scanned known built selfAllocated

/-! ## What was built was carried -/

section Built

variable {memory : Memory} {element : Element}
variable {nested : Nat → Nat → Bool → Traced Access (Option Components × Bool)}

theorem data_of_builds {data : Data} {value : MmsValue} {selfAllocated flag : Bool}
    (builds : Builds memory element nested data)
    (created : (createElement memory nested element.tag element.address element.length
      selfAllocated).value = (.value value, flag)) : value.data = data := by
  obtain ⟨_, _, other, carried, _⟩ := builds selfAllocated
  rw [created] at other
  obtain ⟨same, _⟩ := Prod.mk.inj other
  rw [Created.value.inj same]
  exact carried

/-- A value without missing components was built from an element that carries its
data, if that is so for nested elements. -/
theorem carried_of_createElement {value : MmsValue} {selfAllocated flag : Bool}
    (nestedCarried : ∀ address length selfAllocated components flag,
      (nested address length selfAllocated).value = (some components, flag) →
      Data.AllWhole (componentsData components) →
      Data.CarriedAt memory address length (componentsData components))
    (created : (createElement memory nested element.tag element.address element.length
      selfAllocated).value = (.value value, flag))
    (whole : value.data.Whole) : value.data.Carried memory element := by
  have kept := created
  unfold createElement at created
  cases kind : element.kind with
  | none =>
      unfold Element.kind at kind
      simp [kind] at created
  | some tag =>
      have known := kind
      unfold Element.kind at kind
      simp only [kind] at created
      cases tag with
      | accessResult => simp at created
      | complex type =>
          simp only [Traced.value_bind] at created
          rcases built : (nested element.address element.length selfAllocated).value with
            ⟨_ | components, after⟩
          · simp [built] at created
          · simp only [built, Traced.value_pure, Prod.mk.injEq, Created.value.injEq] at created
            obtain ⟨rfl, _⟩ := created
            have carried := nestedCarried _ _ _ _ _ built whole
            exact ⟨known, carried⟩
      | boolean =>
          rw [data_of_builds (builds_boolean known) kept]
          exact ⟨known, rfl⟩
      | bitString =>
          by_cases long : element.length > 1
          · by_cases padding : (memory element.address).toNat ≤ 7
            · rw [data_of_builds (builds_bitString known long padding) kept]
              exact ⟨known, long, padding, rfl⟩
            · simp only [if_pos long, ↓Memory.value_bind_read, Traced.value_ite] at created
              rw [if_pos (by omega)] at created
              simp at created
          · simp [long] at created
      | integer =>
          by_cases long : element.length > 8
          · simp [long] at created
          · rw [data_of_builds (builds_integer known (by omega)) kept]
            exact ⟨known, by omega, rfl⟩
      | unsigned =>
          by_cases long : element.length > 8
          · simp [long] at created
          · rw [data_of_builds (builds_unsigned known (by omega)) kept]
            exact ⟨known, by omega, rfl⟩
      | float =>
          by_cases double : element.length = 9
          · rw [data_of_builds (builds_float known .double double) kept]
            exact ⟨known, double, rfl⟩
          · by_cases single : element.length = 5
            · rw [data_of_builds (builds_float known .single single) kept]
              exact ⟨known, single, rfl⟩
            · simp [double, single] at created
      | octetString =>
          rw [data_of_builds (builds_octetString known) kept]
          exact ⟨known, rfl⟩
      | visibleString =>
          rw [data_of_builds (builds_visibleString known) kept]
          exact ⟨known, rfl⟩
      | binaryTime =>
          by_cases length : element.length = 4 ∨ element.length = 6
          · rw [data_of_builds (builds_binaryTime known length) kept]
            exact ⟨known, length, rfl⟩
          · simp [length] at created
      | utcTime =>
          by_cases length : element.length = 8
          · rw [data_of_builds (builds_utcTime known length) kept]
            exact ⟨known, length, rfl⟩
          · simp [length] at created

variable (memory nested element) in
/-- A value is built from an element. -/
def CreatedFrom (value : MmsValue) : Prop :=
  ∃ selfAllocated flag, (createElement memory nested element.tag element.address element.length
    selfAllocated).value = (.value value, flag)

/-- An element that is passed over: a float or a time of a length that it cannot have. -/
def Element.Skipped (element : Element) : Prop :=
  (element.kind = some .float ∧ element.length ≠ 9 ∧ element.length ≠ 5) ∨
  (element.kind = some .binaryTime ∧ ¬ (element.length = 4 ∨ element.length = 6)) ∨
  (element.kind = some .utcTime ∧ element.length ≠ 8)

/-- What an element turns into: nothing, what its components turn into, or a value without
components. -/
theorem createElement_cases {selfAllocated flag : Bool} {result : Created}
    (created : (createElement memory nested element.tag element.address element.length
      selfAllocated).value = (result, flag)) :
    result = .error ∨ (result = .skipped ∧ element.Skipped) ∨
      (∃ type components, element.kind = some (.complex type) ∧
        result = .value (.complex type components) ∧
        (nested element.address element.length selfAllocated).value = (some components, flag)) ∨
      ∃ value, result = .value value ∧ ∀ type components, value ≠ .complex type components := by
  unfold createElement at created
  unfold Element.Skipped Element.kind
  have simple : ∀ {value : MmsValue}, (Created.value value, selfAllocated) = (result, flag) →
      (∀ type components, value ≠ .complex type components) → ∃ value, result = .value value ∧
        ∀ type components, value ≠ .complex type components :=
    fun {value} same plain => ⟨value, (Prod.mk.inj same).1.symm, plain⟩
  cases kind : DataTag.ofOctet? element.tag with
  | none =>
      rw [kind] at created
      exact .inl (Prod.mk.inj created).1.symm
  | some tag =>
      simp only [kind] at created
      cases tag with
      | accessResult => exact .inl (Prod.mk.inj created).1.symm
      | complex type =>
          simp only [Traced.value_bind] at created
          rcases built : (nested element.address element.length selfAllocated).value with
            ⟨_ | components, after⟩
          · rw [built] at created
            exact .inl (Prod.mk.inj created).1.symm
          · rw [built] at created
            obtain ⟨rfl, rfl⟩ := Prod.mk.inj created
            exact .inr (.inr (.inl ⟨type, components, rfl, rfl, rfl⟩))
      | boolean => exact .inr (.inr (.inr (simple created (by simp))))
      | bitString =>
          by_cases long : element.length > 1
          · by_cases padding : (memory element.address).toNat > 7
            · simp only [if_pos long, ↓Memory.value_bind_read, if_pos padding] at created
              exact .inl (Prod.mk.inj created).1.symm
            · simp only [if_pos long, ↓Memory.value_bind_read, if_neg padding,
                ↓value_bind_memcpy] at created
              exact .inr (.inr (.inr (simple created (by simp))))
          · simp only [if_neg long] at created
            exact .inl (Prod.mk.inj created).1.symm
      | integer =>
          by_cases long : element.length > 8
          · simp only [if_pos long] at created
            exact .inl (Prod.mk.inj created).1.symm
          · obtain ⟨number, built, _⟩ :=
              value_createPrimitive memory element.address (Nat.not_lt.mp long)
                (newInteger_maxSize _) .integer
            simp only [if_neg long, Traced.value_bind, built] at created
            exact .inr (.inr (.inr (simple created (by simp))))
      | unsigned =>
          by_cases long : element.length > 8
          · simp only [if_pos long] at created
            exact .inl (Prod.mk.inj created).1.symm
          · obtain ⟨number, built, _⟩ :=
              value_createPrimitive memory element.address (Nat.not_lt.mp long)
                (newUnsigned_maxSize _) .unsigned
            simp only [if_neg long, Traced.value_bind, built] at created
            exact .inr (.inr (.inr (simple created (by simp))))
      | float =>
          by_cases double : element.length = 9
          · simp only [if_pos double] at created
            exact .inr (.inr (.inr (simple created (by simp))))
          · by_cases single : element.length = 5
            · simp only [if_neg double, if_pos single] at created
              exact .inr (.inr (.inr (simple created (by simp))))
            · simp only [if_neg double, if_neg single] at created
              exact .inr (.inl ⟨(Prod.mk.inj created).1.symm, .inl ⟨rfl, double, single⟩⟩)
      | octetString => exact .inr (.inr (.inr (simple created (by simp))))
      | visibleString => exact .inr (.inr (.inr (simple created (by simp))))
      | binaryTime =>
          by_cases length : element.length = 4 ∨ element.length = 6
          · simp only [if_pos length] at created
            exact .inr (.inr (.inr (simple created (by simp))))
          · simp only [if_neg length] at created
            exact .inr (.inl ⟨(Prod.mk.inj created).1.symm, .inr (.inl ⟨rfl, length⟩)⟩)
      | utcTime =>
          by_cases length : element.length = 8
          · simp only [if_pos length] at created
            exact .inr (.inr (.inr (simple created (by simp))))
          · simp only [if_neg length] at created
            exact .inr (.inl ⟨(Prod.mk.inj created).1.symm, .inr (.inr ⟨rfl, length⟩)⟩)

/-- The components that were filled: those of the elements that were not skipped. -/
theorem fillElements_filled {buffer allDataLength : Nat} {parts : List Element}
    {fuel bufPos left : Nat} {done : List MmsValue} {selfAllocated flag : Bool}
    {components : Components} (enough : allDataLength - bufPos ≤ fuel)
    (scanned : elements memory buffer allDataLength allDataLength bufPos = ⟨parts, true⟩)
    (room : parts.length ≤ left)
    (filled : (fillElements memory nested buffer allDataLength fuel bufPos done.length
      (done.map some ++ List.replicate left none) selfAllocated).value = (some components, flag)) :
    ∃ values, components = (done ++ values).map some ++
        List.replicate (left - values.length) none ∧ values.length ≤ parts.length ∧
      ((∀ element ∈ parts, ¬ element.Skipped) → values.length = parts.length) ∧
      (values.length = parts.length →
        List.Forall₂ (fun element value => CreatedFrom memory element nested value) parts
          values) := by
  induction parts generalizing fuel bufPos left done selfAllocated with
  | nil =>
      refine ⟨[], ?_, Nat.le_refl _, fun _ => rfl, fun _ => .nil⟩
      have ended := elements_eq_nil.mp scanned
      cases fuel with
      | zero => simpa [fillElements, eq_comm] using (Prod.mk.inj filled).1
      | succ fuel =>
          rw [value_fillElements_succ, if_neg (Nat.not_lt.mpr ended)] at filled
          simpa [eq_comm] using (Prod.mk.inj filled).1
  | cons element rest ih =>
      obtain ⟨inside, start, length, decoded, first, following⟩ := elements_eq_cons.mp scanned
      have later := decodeLength_advances decoded
      cases fuel with
      | zero => omega
      | succ fuel =>
          rw [value_fillElements_succ, if_pos inside] at filled
          simp only [decoded] at filled
          rcases created : (createElement memory nested (memory (buffer + bufPos))
            (buffer + start) length selfAllocated).value with ⟨_ | _ | value, after⟩
          · simp [created] at filled
          · simp only [created] at filled
            obtain ⟨values, equation, bound, _, _⟩ :=
              @ih fuel _ _ _ _ (by omega) following (by simp at room; omega) filled
            refine ⟨values, equation, by simp; omega, ?_, ?_⟩
            · intro taken
              rw [first] at taken
              have skipped := @createElement_cases memory
                ⟨memory (buffer + bufPos), buffer + start, length⟩ _ _ _ _ created
              simp only [reduceCtorEq, true_and, false_and, and_false, exists_false, or_false,
                false_or] at skipped
              exact absurd skipped (taken _ List.mem_cons_self)
            · intro same
              simp only [List.length_cons] at same
              omega
          · simp only [created] at filled
            obtain ⟨left, rfl⟩ : ∃ rest, left = rest + 1 := ⟨left - 1, by simp at room; omega⟩
            rw [setElement_filled] at filled
            obtain ⟨values, equation, bound, complete, all⟩ :=
              @ih fuel _ left (done ++ [value]) _ (by omega) following (by simp at room; omega)
                (by simpa using filled)
            refine ⟨value :: values, ?_, by simpa using bound, ?_, ?_⟩
            · rw [equation]
              simp
            · intro taken
              simpa using complete fun element member =>
                taken element (List.mem_cons_of_mem _ member)
            · intro same
              refine .cons ⟨selfAllocated, after, ?_⟩ (all (by simpa using same))
              rw [first]
              exact created

end Built

theorem not_allWhole_missing (values : List MmsValue) (left : Nat) :
    ¬ Data.AllWhole (componentsData (values.map some ++ List.replicate (left + 1) none)) := by
  induction values with
  | nil => simp [List.replicate_succ, componentsData, componentData, Data.AllWhole, Data.Whole]
  | cons value values ih =>
      intro whole
      exact ih whole.2

/-- A data set in which nothing is missing or for which no element was passed over has a value for
each element. -/
theorem createLoop_filled {memory : Memory} {fuel address length : Nat}
    {selfAllocated flag : Bool} {components : Components}
    (created : (createLoop memory fuel address length selfAllocated).value =
      (some components, flag))
    (full : Data.AllWhole (componentsData components) ∨
      ∀ element ∈ (elements memory address length length 0).elements, ¬ element.Skipped) :
    ∃ depth parts values, fuel = depth + 1 ∧
      elements memory address length length 0 = ⟨parts, true⟩ ∧ components = values.map some ∧
      List.Forall₂ (fun element value => CreatedFrom memory element (createLoop memory depth) value)
        parts values := by
  cases fuel with
  | zero => simp [createLoop] at created
  | succ depth =>
      simp only [createLoop, Traced.value_bind] at created
      cases counted : (countElements memory address length length 0 0).value with
      | none => simp [counted] at created
      | some count =>
          simp only [counted] at created
          obtain ⟨parts, scanned, total, _⟩ := elements_of_countElements (by omega) counted
          obtain ⟨values, rfl, bound, complete, all⟩ := @fillElements_filled memory _ _ _ _ _ _ _ []
            _ _ _ (Nat.le_refl _) scanned (by omega) created
          have as_many : values.length = parts.length := by
            rcases full with whole | taken
            · -- A component that was left free would be missing.
              by_contra short
              obtain ⟨left, equation⟩ : ∃ left, count - values.length = left + 1 :=
                ⟨count - values.length - 1, by omega⟩
              rw [equation, List.nil_append] at whole
              exact not_allWhole_missing _ _ whole
            · rw [scanned] at taken
              exact complete taken
          have none_left : count - values.length = 0 := by omega
          refine ⟨depth, parts, values, rfl, scanned, ?_, all as_many⟩
          rw [none_left, List.replicate_zero, List.append_nil, List.nil_append]

/-- A data set that was built and has no missing components was carried. -/
theorem carriedAt_of_createLoop {memory : Memory} {fuel address length : Nat}
    {selfAllocated flag : Bool} {components : Components}
    (created : (createLoop memory fuel address length selfAllocated).value =
      (some components, flag))
    (whole : Data.AllWhole (componentsData components)) :
    Data.CarriedAt memory address length (componentsData components) := by
  induction fuel generalizing address length selfAllocated flag components with
  | zero => simp [createLoop] at created
  | succ fuel ih =>
      obtain ⟨depth, parts, values, same, scanned, rfl, every⟩ :=
        createLoop_filled created (.inl whole)
      obtain rfl := Nat.succ.inj same
      refine ⟨parts, scanned, ?_⟩
      clear scanned created same
      induction every with
      | nil => trivial
      | cons first _ following =>
          obtain ⟨_, _, first⟩ := first
          exact ⟨carried_of_createElement (fun _ _ _ _ _ built => ih built) first whole.1,
            following whole.2⟩

/-- The decoder builds a data set without missing components exactly from octets
that carry data. -/
theorem parseAllDataUnknownValue_carries {memory : Memory} {address length : Nat}
    (selfAllocated : Bool) :
    (∃ components flag, (parseAllDataUnknownValue memory address length selfAllocated).value =
        (some components, flag) ∧ Data.AllWhole (componentsData components)) ↔
      ∃ data, Data.CarriedAt memory address length data := by
  constructor
  · rintro ⟨components, flag, created, whole⟩
    exact ⟨_, carriedAt_of_createLoop created whole⟩
  · rintro ⟨data, carried⟩
    obtain ⟨components, created, rfl, _⟩ :=
      parseAllDataUnknownValue_of_carried carried selfAllocated
    exact ⟨components, true, created, carried.whole⟩

end GridGooseSV
