import GridGooseSV.Goose.Updating

/-!
# Octets that a data set accepts

When `parseAllData` reports no error: exactly when the octets are as many elements
as the data set has values and every element passes for its value. Some elements
pass without being decoded: one that is reserved for an access result, and a
binary time of a length that is neither four nor six.
-/

namespace GridGooseSV

open BerDecoder

mutual

/-- An element passes for a value. -/
def MmsValue.Passes (memory : Memory) (element : Element) (kind : DataTag) : MmsValue → Prop
  | .complex type components =>
    kind = .accessResult ∨ (kind = .complex type ∧ ∃ parts,
      elements memory element.address element.length element.length 0 = ⟨parts, true⟩ ∧
        ComponentsPass memory parts components)
  | .boolean _ => kind = .accessResult ∨ kind = .boolean
  | .bitString value => kind = .accessResult ∨ (kind = .bitString ∧
      8 * ((element.length : Int) - 1) - (memory element.address).toNat = value.size)
  | .integer value => kind = .accessResult ∨ (kind = .integer ∧ element.length ≤ value.maxSize)
  | .unsigned value => kind = .accessResult ∨ (kind = .unsigned ∧ element.length ≤ value.maxSize)
  | .float _ =>
    kind = .accessResult ∨ (kind = .float ∧ (element.length = 9 ∨ element.length = 5))
  | .octetString _ => kind = .accessResult ∨ kind = .octetString
  | .visibleString _ => kind = .accessResult ∨ kind = .visibleString
  | .binaryTime _ => kind = .accessResult ∨ kind = .binaryTime
  | .utcTime _ => kind = .accessResult ∨ (kind = .utcTime ∧ element.length = 8)
  | .dataAccessError _ | .string _ | .unsupported _ => kind = .accessResult

/-- Elements pass for the values of components, one for each. -/
def ComponentsPass (memory : Memory) (parts : List Element) : Components → Prop
  | [] => parts = []
  | component :: rest => ∃ element others, parts = element :: others ∧
      ComponentPasses memory element component ∧ ComponentsPass memory others rest

def ComponentPasses (memory : Memory) (element : Element) : Option MmsValue → Prop
  | none => False
  | some value => ∃ kind, element.kind = some kind ∧ value.Passes memory element kind

end

/-- An element is accepted exactly if it passes, if that is so for nested elements. -/
theorem updateElement_noError_iff (memory : Memory) (element : Element)
    (nested : Nat → Nat → Components → Traced Access (GooseParseError × Components))
    (nestedIff : ∀ components, (nested element.address element.length components).value.1 =
        .noError ↔ ∃ parts,
      elements memory element.address element.length element.length 0 = ⟨parts, true⟩ ∧
        ComponentsPass memory parts components) (value : MmsValue) :
    (updateElement memory nested element.tag element.address element.length value).value.1 =
        .noError ↔ ComponentPasses memory element (some value) := by
  unfold ComponentPasses
  cases kind : element.kind with
  | none =>
      unfold Element.kind at kind
      simp [updateElement, kind]
  | some tag =>
      unfold Element.kind at kind
      simp only [Option.some.injEq, exists_eq_left']
      unfold updateElement
      rw [kind]
      cases tag with
      | accessResult => cases value <;> simp [MmsValue.Passes]
      | complex expected =>
          cases value <;> simp [MmsValue.Passes]
          rename_i type components
          by_cases same : type = expected
          · subst same
            rw [← nestedIff components]
            by_cases error : (nested element.address element.length components).value.1 =
                .noError <;> simp [error]
          · simp [same, Ne.symm same]
      | bitString =>
          cases value <;> simp [MmsValue.Passes]
          rename_i bits
          by_cases size : 8 * ((element.length : Int) - 1) - (memory element.address).toNat =
              bits.size
          · simp [size]
          · simp [size]
      | integer =>
          cases value <;> simp [MmsValue.Passes, updatePrimitive]
          split <;> rename_i fits <;> simp [fits]
      | unsigned =>
          cases value <;> simp [MmsValue.Passes, updatePrimitive]
          split <;> rename_i fits <;> simp [fits]
      | float =>
          cases value <;> simp [MmsValue.Passes]
          by_cases double : element.length = 9
          · simp [double]
          · by_cases single : element.length = 5
            · simp [single]
            · simp [double, single]
      | utcTime =>
          by_cases length : element.length = 8 <;> cases value <;>
            simp [MmsValue.Passes, length]
      | binaryTime =>
          cases value <;> simp [MmsValue.Passes]
          split <;> rfl
      | _ => cases value <;> simp [MmsValue.Passes]

theorem componentsPass_cons {memory : Memory} {element : Element} {others : List Element}
    {component : Option MmsValue} {rest : Components} :
    ComponentsPass memory (element :: others) (component :: rest) ↔
      ComponentPasses memory element component ∧ ComponentsPass memory others rest := by
  rw [ComponentsPass]
  constructor
  · rintro ⟨_, _, ⟨⟩, first, following⟩
    exact ⟨first, following⟩
  · rintro ⟨first, following⟩
    exact ⟨element, others, rfl, first, following⟩

/-- An element in front of a string that passes. -/
theorem passes_cons {memory : Memory} {scan : Scan} {element : Element}
    {component : Option MmsValue} {rest : Components} :
    (∃ parts, scan.cons element = ⟨parts, true⟩ ∧ ComponentsPass memory parts (component :: rest)) ↔
      ComponentPasses memory element component ∧
        ∃ parts, scan = ⟨parts, true⟩ ∧ ComponentsPass memory parts rest := by
  obtain ⟨parts, complete⟩ := scan
  simp only [Scan.cons, Scan.mk.injEq, and_assoc, exists_eq_left', componentsPass_cons]
  exact and_left_comm

/-- The loop accepts exactly elements that pass for the values that are left. -/
theorem updateLoop_noError_iff {memory : Memory} {buffer allDataLength fuel bufPos : Nat}
    {done components : Components} (enough : allDataLength - bufPos ≤ fuel) :
    (updateLoop memory fuel buffer allDataLength bufPos done.length
        (done ++ components)).value.1 = .noError ↔
      ∃ parts, elements memory buffer allDataLength allDataLength bufPos = ⟨parts, true⟩ ∧
        ComponentsPass memory parts components := by
  apply updateLoop_induction (motive := fun fuel buffer allDataLength bufPos done components =>
    (updateLoop memory fuel buffer allDataLength bufPos done.length
        (done ++ components)).value.1 = .noError ↔
      ∃ parts, elements memory buffer allDataLength allDataLength bufPos = ⟨parts, true⟩ ∧
        ComponentsPass memory parts components)
  case ended =>
    intro _ _ _ _ _ components ended
    rw [value_updateLoop_end ended, elements_end ended]
    cases components <;> simp [ComponentsPass]
  case surplus =>
    -- There are elements but no values left.
    intro _ _ _ _ _ inside
    rw [value_updateLoop_surplus inside]
    simp only [reduceCtorEq, ComponentsPass, exists_eq_right, false_iff]
    rw [elements_eq_nil]
    omega
  case missing =>
    intro _ _ _ _ _ _ inside
    rw [value_updateLoop_cons inside]
    simp [ComponentsPass, ComponentPasses]
  case malformed =>
    intro _ _ _ _ _ _ _ inside decoded
    rw [value_updateLoop_cons inside, decoded, elements_malformed inside decoded]
    simp
  case decoded =>
    intro fuel buffer _ bufPos start length _ value _ inside decoded _ nested rest
    have first := updateElement_noError_iff memory
      ⟨memory (buffer + bufPos), buffer + start, length⟩
      (fun buffer allDataLength => updateLoop memory fuel buffer allDataLength 0 0) nested value
    rw [value_updateLoop_cons inside, decoded, elements_next inside decoded, passes_cons, ← first]
    dsimp only
    split_ifs with failed
    · exact iff_of_false (by decide) fun passes => failed passes.1
    · rw [rest, iff_true_intro (not_not.mp failed), true_and]
  case enough => exact enough

/-- An element is accepted exactly if it passes. -/
theorem updateElement_passes_iff {memory : Memory} {element : Element} {fuel : Nat}
    (enough : element.length ≤ fuel) (value : MmsValue) :
    (updateElement memory
        (fun buffer allDataLength => updateLoop memory fuel buffer allDataLength 0 0)
        element.tag element.address element.length value).value.1 = .noError ↔
      ComponentPasses memory element (some value) :=
  updateElement_noError_iff memory element _
    (fun components => @updateLoop_noError_iff memory element.address element.length fuel 0 []
      components (by omega)) value

/-- `parseAllData` reports no error exactly for octets whose elements pass. -/
theorem parseAllData_noError_iff {memory : Memory} {address length : Nat}
    {components : Components} :
    (parseAllData memory address length components).value.1 = .noError ↔
      ∃ parts, elements memory address length length 0 = ⟨parts, true⟩ ∧
        ComponentsPass memory parts components :=
  @updateLoop_noError_iff memory address length length 0 [] components (by omega)

end GridGooseSV
