import GridGooseSV.Goose.Acceptance
import GridGooseSV.Goose.Creation

/-!
# A data set and the octets it was built from

`parseAllDataUnknownValue` builds a data set, and `parseAllData` is given the same octets again, as
it is when a frame is retransmitted. Both take the same elements exactly if the first passed over
none: it counts an element of an odd length as a component, but builds no value for it.
-/

namespace GridGooseSV

open BerDecoder

/-! ## Filled data sets -/

mutual

/-- At every level of a value, there is a value for each element. -/
def MmsValue.Filled (memory : Memory) (element : Element) : MmsValue → Prop
  | .complex _ components => ∃ parts,
    elements memory element.address element.length element.length 0 = ⟨parts, true⟩ ∧
      ComponentsFilled memory parts components
  | _ => True

def ComponentsFilled (memory : Memory) (parts : List Element) : Components → Prop
  | [] => parts = []
  | component :: rest => ∃ element others, parts = element :: others ∧
      ComponentFilled memory element component ∧ ComponentsFilled memory others rest

def ComponentFilled (memory : Memory) (element : Element) : Option MmsValue → Prop
  | none => False
  | some value => value.Filled memory element

end

/-- A data set that was built from octets has a value for each of their elements, and an update
with the octets accepts them and changes nothing. -/
structure Agrees (memory : Memory) (address length : Nat) (components : Components) : Prop where
  filled : ∃ parts, elements memory address length length 0 = ⟨parts, true⟩ ∧
    ComponentsFilled memory parts components
  accepted : (parseAllData memory address length components).value.1 = .noError
  unchanged : (parseAllData memory address length components).value.2 = components

/-- An element at any level of a string. -/
inductive ElementAt (memory : Memory) : (address length : Nat) → Element → Prop
  | top {address length : Nat} {element : Element}
      (member : element ∈ (elements memory address length length 0).elements) :
      ElementAt memory address length element
  | nested {address length : Nat} {outer element : Element} {type : ComplexType}
      (member : outer ∈ (elements memory address length length 0).elements)
      (kind : outer.kind = some (.complex type))
      (inner : ElementAt memory outer.address outer.length element) :
      ElementAt memory address length element

/-! ## One element -/

/-- Octets that were copied once can be copied again. -/
theorem overwrite_overwrite (storage given : List UInt8) :
    overwrite (overwrite storage given) given = overwrite storage given := by
  have front : overwrite storage given = given.take storage.length ++ storage.drop given.length :=
    rfl
  rw [overwrite, length_overwrite, front]
  congr 1
  rcases Nat.le_total given.length storage.length with fits | long
  · rw [List.take_of_length_le fits, List.drop_left]
  · rw [List.drop_of_length_le long, List.append_nil,
      List.drop_of_length_le (by rw [List.length_take]; omega)]

theorem Octets.overwrite_overwrite {count : Nat} (storage : Octets count) (given : List UInt8) :
    (storage.overwrite given).overwrite given = storage.overwrite given :=
  Subtype.ext (GridGooseSV.overwrite_overwrite storage.val given)

section Elements

variable {memory : Memory} {element : Element}
variable {build : Nat → Nat → Bool → Traced Access (Option Components × Bool)}
variable {update : Nat → Nat → Components → Traced Access (GooseParseError × Components)}

/-- An integer that was built from octets takes them again. -/
theorem updatePrimitive_of_created {address elementLength : Nat} {new : Asn1PrimitiveValue}
    {value : MmsValue} {wrap : Asn1PrimitiveValue → MmsValue}
    (created : (createPrimitive memory address elementLength new wrap).value = .value value) :
    ∃ number, value = wrap number ∧
      (updatePrimitive memory address elementLength number).value = (.noError, number) := by
  unfold createPrimitive at created
  simp only [↓value_bind_memcpy, Traced.value_dite, Traced.value_pure] at created
  split at created
  · rename_i fits
    refine ⟨_, (Created.value.inj created).symm, ?_⟩
    rw [value_updatePrimitive (by rwa [Memory.length_octets] at fits)]
    simp only [Asn1PrimitiveValue.setOctets, overwrite_overwrite]
  · contradiction

theorem updateVisibleString_of_created (memory : Memory) (address elementLength : Nat) :
    (updateVisibleString memory address elementLength (MmsValue.newVisibleStringFromByteArray
        (memory.octets address elementLength))).value =
      MmsValue.newVisibleStringFromByteArray (memory.octets address elementLength) := by
  unfold updateVisibleString
  split
  · rfl
  · rename_i buf present
    obtain rfl := Option.some.inj present
    split
    · simp [MmsValue.newVisibleStringFromByteArray, overwrite]
    · rfl

/-- A value that was built from an element is updated by it to itself, if that is so for nested
elements. -/
theorem updateElement_of_created
    (nested : ∀ {components selfAllocated flag},
      (build element.address element.length selfAllocated).value = (some components, flag) →
      Data.AllWhole (componentsData components) →
        (update element.address element.length components).value = (.noError, components))
    {value : MmsValue} {selfAllocated flag : Bool}
    (created : (createElement memory build element.tag element.address element.length
      selfAllocated).value = (.value value, flag)) (whole : value.data.Whole) :
    (updateElement memory update element.tag element.address element.length value).value =
      (.noError, value) := by
  unfold createElement at created
  unfold updateElement
  cases kind : DataTag.ofOctet? element.tag with
  | none => simp [kind] at created
  | some tag =>
      simp only [kind] at created
      cases tag with
      | accessResult => simp at created
      | complex type =>
          simp only [Traced.value_bind] at created
          rcases built : (build element.address element.length selfAllocated).value with
            ⟨_ | components, after⟩
          · simp [built] at created
          · simp only [built, Traced.value_pure, Prod.mk.injEq, Created.value.injEq] at created
            obtain ⟨rfl, _⟩ := created
            simp [nested built whole]
      | boolean =>
          simp only [Traced.value_bind, Traced.value_pure, Prod.mk.injEq,
            Created.value.injEq] at created
          obtain ⟨rfl, _⟩ := created
          rfl
      | bitString =>
          by_cases long : element.length > 1
          · by_cases padding : (memory element.address).toNat > 7
            · simp [long, padding] at created
            · simp only [if_pos long, ↓Memory.value_bind_read, if_neg padding,
                ↓value_bind_memcpy, Traced.value_pure, Prod.mk.injEq,
                Created.value.injEq] at created
              obtain ⟨rfl, _⟩ := created
              have counted : 8 * ((element.length : Int) - 1) - (memory element.address).toNat =
                  (MmsValue.newBitString (((element.length - 1) * 8 : Nat) -
                    (memory element.address).toNat)).size := by
                simp only [MmsValue.newBitString]
                omega
              simp only [↓Memory.value_bind_read, if_pos counted, ↓value_bind_memcpy,
                Traced.value_pure, overwrite_overwrite]
          · simp [long] at created
      | integer =>
          by_cases long : element.length > 8
          · simp [long] at created
          · simp only [if_neg long, Traced.value_bind, Traced.value_pure, Prod.mk.injEq] at created
            obtain ⟨number, rfl, again⟩ := updatePrimitive_of_created created.1
            simp [again]
      | unsigned =>
          by_cases long : element.length > 8
          · simp [long] at created
          · simp only [if_neg long, Traced.value_bind, Traced.value_pure, Prod.mk.injEq] at created
            obtain ⟨number, rfl, again⟩ := updatePrimitive_of_created created.1
            simp [again]
      | float =>
          by_cases double : element.length = 9
          · simp only [if_pos double, Traced.value_bind, Traced.value_pure, Prod.mk.injEq,
              Created.value.injEq] at created
            obtain ⟨rfl, _⟩ := created
            simp [double, MmsValue.newDouble, MmsValue.setDouble, Octets.overwrite_overwrite]
          · by_cases single : element.length = 5
            · simp only [if_neg double, if_pos single, Traced.value_bind, Traced.value_pure,
                Prod.mk.injEq, Created.value.injEq] at created
              obtain ⟨rfl, _⟩ := created
              simp [single, MmsValue.newFloat, MmsValue.setFloat, Octets.overwrite_overwrite]
            · simp [double, single] at created
      | octetString =>
          simp only [↓value_bind_memcpy, Traced.value_pure, Prod.mk.injEq,
            Created.value.injEq] at created
          obtain ⟨rfl, _⟩ := created
          simp [updateOctetString, MmsValue.newOctetString, overwrite_overwrite]
      | visibleString =>
          simp only [Traced.value_bind, Memory.value_readOctets, Traced.value_pure,
            Prod.mk.injEq, Created.value.injEq] at created
          obtain ⟨rfl, _⟩ := created
          simp [updateVisibleString_of_created]
      | binaryTime =>
          by_cases length : element.length = 4 ∨ element.length = 6
          · simp only [if_pos length, ↓value_bind_memcpy, Traced.value_pure, Prod.mk.injEq,
              Created.value.injEq] at created
            obtain ⟨rfl, _⟩ := created
            simp [length, Octets.overwrite_overwrite]
          · simp [length] at created
      | utcTime =>
          by_cases length : element.length = 8
          · simp only [if_pos length, Traced.value_bind, Memory.value_readOctets,
              Traced.value_pure, Prod.mk.injEq, Created.value.injEq] at created
            obtain ⟨rfl, _⟩ := created
            simp [length, MmsValue.setUtcTimeByBuffer, Octets.overwrite_overwrite]
          · simp [length] at created

/-- An array or structure is built from an element that is one. -/
theorem nested_of_created {type : ComplexType} {components : Components}
    (created : CreatedFrom memory element build (.complex type components)) :
    element.kind = some (.complex type) ∧ ∃ selfAllocated flag,
      (build element.address element.length selfAllocated).value = (some components, flag) := by
  obtain ⟨selfAllocated, flag, created⟩ := created
  rcases createElement_cases created with
    ⟨⟨⟩⟩ | ⟨⟨⟩, _⟩ | ⟨_, _, kind, same, built⟩ | ⟨_, same, simple⟩
  · obtain ⟨rfl, rfl⟩ := MmsValue.complex.inj (Created.value.inj same)
    exact ⟨kind, selfAllocated, flag, built⟩
  · exact absurd (Created.value.inj same).symm (simple _ _)

end Elements

/-! ## Whole data sets -/

/-- Values that were built one from each element are updated by them to themselves. -/
theorem updateLoop_of_created {memory : Memory} {fuel depth buffer allDataLength bufPos : Nat}
    {parts : List Element} {values : List MmsValue} (done : Components)
    (enough : allDataLength - bufPos ≤ fuel)
    (scanned : elements memory buffer allDataLength allDataLength bufPos = ⟨parts, true⟩)
    (created : List.Forall₂ (fun element value =>
      CreatedFrom memory element (createLoop memory depth) value) parts values)
    (whole : Data.AllWhole (componentsData (values.map some))) :
    (updateLoop memory fuel buffer allDataLength bufPos done.length
        (done ++ values.map some)).value = (.noError, done ++ values.map some) := by
  induction fuel generalizing depth buffer allDataLength bufPos parts values done with
  | zero =>
      have ended : allDataLength ≤ bufPos := by omega
      obtain ⟨rfl, _⟩ := Scan.mk.inj (scanned.symm.trans (elements_end ended))
      cases created
      rw [value_updateLoop_end ended]
      rfl
  | succ fuel ih =>
      cases created with
      | nil =>
          rw [value_updateLoop_end (elements_eq_nil.mp scanned)]
          rfl
      | @cons element value others rest first following =>
          obtain ⟨inside, start, length, decoded, rfl, behind⟩ := elements_eq_cons.mp scanned
          obtain ⟨later, within⟩ := decodeLength_spec decoded
          obtain ⟨_, _, first⟩ := first
          have updated := @updateElement_of_created memory
            ⟨memory (buffer + bufPos), buffer + start, length⟩ (createLoop memory depth)
            (fun buffer allDataLength => updateLoop memory fuel buffer allDataLength 0 0)
            (fun {components _ _} built nestedWhole => by
              obtain ⟨depth, parts, values, _, scanned, rfl, created⟩ :=
                createLoop_filled built (.inl nestedWhole)
              exact @ih depth (buffer + start) length 0 parts values [] (by omega) scanned created
                nestedWhole)
            value _ _ first whole.1
          dsimp only at updated
          rw [List.map_cons, value_updateLoop_cons inside]
          simp only [decoded, updated, ne_eq, not_true_eq_false, if_false]
          rw [ih (done ++ [some value]) (by omega) behind following whole.2, List.append_assoc,
            List.singleton_append]

/-- A data set in which nothing is missing is updated to itself by the octets it was built from. -/
theorem parseAllData_of_created {memory : Memory} {fuel address length : Nat}
    {selfAllocated flag : Bool} {components : Components}
    (created : (createLoop memory fuel address length selfAllocated).value =
      (some components, flag))
    (whole : Data.AllWhole (componentsData components)) :
    (parseAllData memory address length components).value = (.noError, components) := by
  obtain ⟨depth, parts, values, _, scanned, rfl, every⟩ := createLoop_filled created (.inl whole)
  exact updateLoop_of_created [] (by omega) scanned every whole

mutual

/-- In a filled value, no component is missing. -/
theorem MmsValue.Filled.whole {memory : Memory} {element : Element} : {value : MmsValue} →
    value.Filled memory element → value.data.Whole
  | .complex _ components, filled => by
      obtain ⟨parts, _, all⟩ := filled
      exact ComponentsFilled.allWhole all
  | .dataAccessError _, _ | .boolean _, _ | .bitString _, _ | .integer _, _ | .unsigned _, _
  | .float _, _ | .octetString _, _ | .visibleString _, _ | .string _, _ | .binaryTime _, _
  | .utcTime _, _ | .unsupported _, _ => trivial

theorem ComponentsFilled.allWhole {memory : Memory} {parts : List Element} :
    {components : Components} → ComponentsFilled memory parts components →
    Data.AllWhole (componentsData components)
  | [], _ => trivial
  | component :: rest, filled => by
      obtain ⟨_, _, _, first, following⟩ := filled
      exact ⟨ComponentFilled.whole first, following.allWhole⟩

theorem ComponentFilled.whole {memory : Memory} {element : Element} :
    {component : Option MmsValue} → ComponentFilled memory element component →
    (componentData component).Whole
  | none, filled => filled.elim
  | some _, filled => MmsValue.Filled.whole filled

end

/-- A data set in which nothing is missing is filled. -/
theorem filled_of_createLoop {memory : Memory} {fuel address length : Nat}
    {selfAllocated flag : Bool} {components : Components}
    (created : (createLoop memory fuel address length selfAllocated).value =
      (some components, flag))
    (whole : Data.AllWhole (componentsData components)) :
    ∃ parts, elements memory address length length 0 = ⟨parts, true⟩ ∧
      ComponentsFilled memory parts components := by
  induction fuel generalizing address length selfAllocated flag components with
  | zero => simp [createLoop] at created
  | succ fuel ih =>
      obtain ⟨depth, parts, values, same, scanned, rfl, every⟩ :=
        createLoop_filled created (.inl whole)
      obtain rfl := Nat.succ.inj same
      refine ⟨parts, scanned, ?_⟩
      clear scanned created same
      induction every with
      | nil => rfl
      | @cons element value others rest first _ following =>
          refine ⟨element, others, rfl, ?_, following whole.2⟩
          cases value with
          | complex type components =>
              obtain ⟨_, _, _, built⟩ := nested_of_created first
              exact ih built whole.1
          | _ => trivial

/-- Where no element is passed over at any level, nothing is missing. -/
theorem allWhole_of_createLoop {memory : Memory} {fuel address length : Nat}
    {selfAllocated flag : Bool} {components : Components}
    (created : (createLoop memory fuel address length selfAllocated).value =
      (some components, flag))
    (taken : ∀ element, ElementAt memory address length element → ¬ element.Skipped) :
    Data.AllWhole (componentsData components) := by
  induction fuel generalizing address length selfAllocated flag components with
  | zero => simp [createLoop] at created
  | succ fuel ih =>
      obtain ⟨depth, parts, values, same, scanned, rfl, every⟩ := createLoop_filled created
        (.inr fun element member => taken element (.top member))
      obtain rfl := Nat.succ.inj same
      have inner : ∀ outer ∈ parts, ∀ type, outer.kind = some (.complex type) →
          ∀ element, ElementAt memory outer.address outer.length element → ¬ element.Skipped := by
        intro outer member type kind element inner
        exact taken element (.nested (by rw [scanned]; exact member) kind inner)
      clear scanned created same taken
      induction every with
      | nil => trivial
      | @cons element value others rest first _ following =>
          refine ⟨?_, following fun outer member => inner outer (List.mem_cons_of_mem _ member)⟩
          cases value with
          | complex type components =>
              obtain ⟨kind, _, _, built⟩ := nested_of_created first
              exact ih built (inner element List.mem_cons_self type kind)
          | _ => trivial

/-- An element that carries data is not passed over. -/
theorem not_skipped_of_carried {memory : Memory} {data : Data} {element : Element}
    (carried : data.Carried memory element) : ¬ element.Skipped := by
  unfold Element.Skipped
  cases data with
  | float width octets =>
      obtain ⟨kind, length, _⟩ := carried
      cases width <;> simp [kind, length, FloatWidth.formatWidth]
  | binaryTime octets =>
      obtain ⟨kind, length, _⟩ := carried
      simp [kind, length]
  | utcTime octets =>
      obtain ⟨kind, length, _⟩ := carried
      simp [kind, length]
  | missing | dataAccessError _ | string _ | unsupported => exact carried.elim
  | _ => simp [carried.1]

/-- An element of a string that carries data. -/
theorem carried_of_mem {memory : Memory} {parts : List Element} {data : List Data}
    (all : Data.AllCarried memory data parts) {element : Element} (member : element ∈ parts) :
    ∃ one ∈ data, one.Carried memory element := by
  induction parts generalizing data with
  | nil => exact absurd member List.not_mem_nil
  | cons first rest ih =>
      cases data with
      | nil => exact all.elim
      | cons one others =>
          rcases List.mem_cons.mp member with rfl | member
          · exact ⟨one, List.mem_cons_self, all.1⟩
          · obtain ⟨other, present, carried⟩ := ih all.2 member
            exact ⟨other, List.mem_cons_of_mem _ present, carried⟩

/-- No element of octets that carry data is passed over, at any level. -/
theorem not_skipped_of_elementAt {memory : Memory} {address length : Nat} {element : Element}
    (inner : ElementAt memory address length element) {data : List Data}
    (carried : Data.CarriedAt memory address length data) : ¬ element.Skipped := by
  induction inner generalizing data with
  | top member =>
      obtain ⟨parts, scanned, all⟩ := carried
      rw [scanned] at member
      obtain ⟨_, _, one⟩ := carried_of_mem all member
      exact not_skipped_of_carried one
  | nested member kind _ ih =>
      obtain ⟨parts, scanned, all⟩ := carried
      rw [scanned] at member
      obtain ⟨one, _, carried⟩ := carried_of_mem all member
      cases one with
      | complex type components => exact ih carried.2
      | missing | dataAccessError _ | string _ | unsupported => exact carried.elim
      | _ => exact absurd (kind.symm.trans carried.1) (by simp)

/-- What was built from octets agrees with an update with them if and only if no element of the
octets is passed over at any level. -/
theorem created_agrees_iff {memory : Memory} {address length : Nat} {selfAllocated flag : Bool}
    {components : Components}
    (created : (parseAllDataUnknownValue memory address length selfAllocated).value =
      (some components, flag)) :
    Agrees memory address length components ↔
      ∀ element, ElementAt memory address length element → ¬ element.Skipped := by
  constructor
  · rintro ⟨⟨parts, _, filled⟩, _, _⟩ element inner
    exact not_skipped_of_elementAt inner (carriedAt_of_createLoop created filled.allWhole)
  · intro taken
    have whole := allWhole_of_createLoop created taken
    have updated := parseAllData_of_created created whole
    exact ⟨filled_of_createLoop created whole, congrArg Prod.fst updated,
      congrArg Prod.snd updated⟩

/-- The octets of a single element in zeros. -/
theorem created_agrees_of_integer :
    Agrees (Memory.ofOctets [0x85, 1, 7] fun _ => 0) 0 3
        [some (.integer (BerInteger.createInt32.setOctets [7] (by decide)))] ↔
      ∀ element, ElementAt (Memory.ofOctets [0x85, 1, 7] fun _ => 0) 0 3 element →
        ¬ element.Skipped :=
  @created_agrees_iff _ _ _ false true _ rfl

/-- A float of three octets is counted, but no value is built for it. -/
theorem created_with_gap :
    ¬ ∀ (memory : Memory) (address length : Nat) (selfAllocated flag : Bool)
      (components : Components),
      (parseAllDataUnknownValue memory address length selfAllocated).value =
        (some components, flag) → Agrees memory address length components := by
  intro claim
  have agrees := claim (Memory.ofOctets [0x87, 3, 8, 0, 0] fun _ => 0) 0 5 false true [none] rfl
  have reported : (parseAllData (Memory.ofOctets [0x87, 3, 8, 0, 0] fun _ => 0) 0 5
      [none]).value.1 = .typeMismatch := by
    decide +kernel
  exact absurd (reported.symm.trans agrees.accepted) (by decide)

end GridGooseSV
