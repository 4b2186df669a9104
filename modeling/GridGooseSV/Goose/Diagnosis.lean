import GridGooseSV.Goose.Acceptance

/-!
# What an update reports

The first defect of octets against a data set, element by element, beside the error that
`parseAllData` returns. After its loop `parseAllData` compares the number of elements that were
decoded with those of the data set, whatever ended the loop: an element with a defect was not
counted, so that its error is replaced.
-/

namespace GridGooseSV

open BerDecoder

/-! ## Matching elements -/

/-- The number of bits is that of the value, and the octets have room in its storage. -/
def BitString.Fits (memory : Memory) (element : Element) (value : BitString) : Prop :=
  memory element.address < 8 ∧
    8 * ((element.length : Int) - 1) - (memory element.address).toNat = value.size

instance (memory : Memory) (element : Element) (value : BitString) :
    Decidable (value.Fits memory element) := by
  unfold BitString.Fits
  infer_instance

/-- A number of at least one octet and at most as many as there is storage for. -/
def Asn1PrimitiveValue.Fits (element : Element) (value : Asn1PrimitiveValue) : Prop :=
  1 ≤ element.length ∧ element.length ≤ value.maxSize

instance (element : Element) (value : Asn1PrimitiveValue) : Decidable (value.Fits element) :=
  inferInstanceAs (Decidable (_ ∧ _))

/-- An octet for the width of the exponent and a number of the format of the value. -/
def FloatingPoint.Fits (element : Element) (value : FloatingPoint) : Prop :=
  8 * element.length = 8 + value.width.formatWidth

instance (element : Element) (value : FloatingPoint) : Decidable (value.Fits element) :=
  inferInstanceAs (Decidable (_ = _))

mutual

/-- An element of a tag matches a value: it has the type of the value, and its content fills
it. The tag that is reserved for access results is that of a data access error. -/
def MmsValue.Matches (memory : Memory) (element : Element) (kind : DataTag) : MmsValue → Prop
  | .complex type components => kind = .complex type ∧ ∃ parts,
      elements memory element.address element.length element.length 0 = ⟨parts, true⟩ ∧
        ComponentsMatch memory parts components
  | .dataAccessError _ => kind = .accessResult ∧ 1 ≤ element.length ∧ element.length ≤ 5
  | .boolean _ => kind = .boolean ∧ element.length = 1
  | .bitString value => kind = .bitString ∧ value.Fits memory element
  | .integer value => kind = .integer ∧ value.Fits element
  | .unsigned value => kind = .unsigned ∧ value.Fits element
  | .float value => kind = .float ∧ value.Fits element
  | .octetString _ => kind = .octetString ∧ element.length < 2 ^ 16
  | .visibleString _ => kind = .visibleString
  | .binaryTime value => kind = .binaryTime ∧ element.length = value.size
  | .utcTime _ => kind = .utcTime ∧ element.length = 8
  | .string _ | .unsupported _ => False

/-- Elements match the values of components, one for each. -/
def ComponentsMatch (memory : Memory) (parts : List Element) : Components → Prop
  | [] => parts = []
  | component :: rest => ∃ element others, parts = element :: others ∧
      ComponentMatches memory element component ∧ ComponentsMatch memory others rest

def ComponentMatches (memory : Memory) (element : Element) : Option MmsValue → Prop
  | none => False
  | some value => ∃ kind, element.kind = some kind ∧ value.Matches memory element kind

end

/-! ## Defects -/

/-- The defect of an element of a tag for a value of the expected type. -/
def judge (kind expected : DataTag) (fits : Prop) [Decidable fits] (unfitting : GooseParseError) :
    GooseParseError :=
  if kind = expected then if fits then .noError else unfitting else .typeMismatch

mutual

/-- The defect of an element of a tag for a value. -/
def MmsValue.defect (memory : Memory) (element : Element) (kind : DataTag) :
    MmsValue → GooseParseError
  | .complex type components =>
    judge kind (.complex type)
      (componentsDefect memory
        (elements memory element.address element.length element.length 0) components = .noError)
      .sublevel
  | .dataAccessError _ =>
    judge kind .accessResult (1 ≤ element.length ∧ element.length ≤ 5) .lengthMismatch
  | .boolean _ => judge kind .boolean (element.length = 1) .lengthMismatch
  | .bitString value => judge kind .bitString (value.Fits memory element) .lengthMismatch
  | .integer value => judge kind .integer (value.Fits element) .lengthMismatch
  | .unsigned value => judge kind .unsigned (value.Fits element) .lengthMismatch
  | .float value => judge kind .float (value.Fits element) .lengthMismatch
  | .octetString _ => judge kind .octetString (element.length < 2 ^ 16) .lengthMismatch
  | .visibleString _ => judge kind .visibleString True .lengthMismatch
  | .binaryTime value => judge kind .binaryTime (element.length = value.size) .lengthMismatch
  | .utcTime _ => judge kind .utcTime (element.length = 8) .lengthMismatch
  | .string _ | .unsupported _ => .typeMismatch

/-- The first defect of a string of elements for components. -/
def componentsDefect (memory : Memory) (scan : Scan) : Components → GooseParseError
  | [] => if scan = ⟨[], true⟩ then .noError else .overflow
  | component :: rest =>
    match scan.elements with
    | [] =>
      if scan.complete then .underflow
      else if component.isSome then .tagDecode else .typeMismatch
    | element :: others =>
      let defect := componentDefect memory element component
      if defect = .noError then componentsDefect memory ⟨others, scan.complete⟩ rest else defect

/-- The defect of an element for a component. There is no type to match for one that is missing. -/
def componentDefect (memory : Memory) (element : Element) : Option MmsValue → GooseParseError
  | none => .typeMismatch
  | some value =>
    match element.kind with
    | none => .unknownTag
    | some kind => value.defect memory element kind

end

/-- The first defect of octets for a data set. -/
def firstDefect (memory : Memory) (address length : Nat) (dataSetValues : Components) :
    GooseParseError :=
  componentsDefect memory (elements memory address length length 0) dataSetValues

/-- `parseAllData` reports the first defect. -/
def ReportsFirstDefect (memory : Memory) (address length : Nat) (dataSetValues : Components) :
    Prop :=
  (parseAllData memory address length dataSetValues).value.1 =
    firstDefect memory address length dataSetValues

instance (memory : Memory) (address length : Nat) (dataSetValues : Components) :
    Decidable (ReportsFirstDefect memory address length dataSetValues) := by
  unfold ReportsFirstDefect
  infer_instance

/-- An element is passed over: it has the tag that is reserved for access results, and its
value has another type. -/
def PassedOver (element : Element) (value : MmsValue) : Prop :=
  element.kind = some .accessResult ∧ ∀ code, value ≠ .dataAccessError code

/-- Octets are left at a component that is missing, and the elements before it are accepted. -/
def RunsIntoMissing (memory : Memory) (scan : Scan) : Components → Prop
  | [] => False
  | none :: _ => scan ≠ ⟨[], true⟩
  | some value :: rest => ∃ element others, scan.elements = element :: others ∧
      ComponentPasses memory element (some value) ∧
        RunsIntoMissing memory ⟨others, scan.complete⟩ rest

/-- Every element that there is a value for can be delimited and matches it, up to the first
component that is missing. Or the first one that does not match is passed over, and its defect
is also that of a missing component that the octets run into. -/
def SuppliedMatch (memory : Memory) (scan : Scan) : Components → Prop
  | [] => True
  | none :: _ => True
  | some value :: rest =>
    match scan.elements with
    | [] => scan.complete = true
    | element :: others =>
      (ComponentMatches memory element (some value) ∧
          SuppliedMatch memory ⟨others, scan.complete⟩ rest) ∨
        (PassedOver element value ∧ RunsIntoMissing memory ⟨others, scan.complete⟩ rest)

/-! ## No defect -/

section Judge

variable {kind expected : DataTag} {fits : Prop} [Decidable fits] {unfitting : GooseParseError}

theorem judge_noError_iff (bad : unfitting ≠ .noError) :
    judge kind expected fits unfitting = .noError ↔ kind = expected ∧ fits := by
  unfold judge
  split_ifs <;> simp_all

end Judge

theorem componentsMatch_cons {memory : Memory} {element : Element} {others : List Element}
    {component : Option MmsValue} {rest : Components} :
    ComponentsMatch memory (element :: others) (component :: rest) ↔
      ComponentMatches memory element component ∧ ComponentsMatch memory others rest := by
  rw [ComponentsMatch]
  constructor
  · rintro ⟨_, _, ⟨⟩, first, following⟩
    exact ⟨first, following⟩
  · rintro ⟨first, following⟩
    exact ⟨element, others, rfl, first, following⟩

mutual

/-- An element without a defect matches. -/
theorem MmsValue.defect_noError_iff {memory : Memory} {element : Element} {kind : DataTag} :
    (value : MmsValue) → (value.defect memory element kind = .noError ↔
      value.Matches memory element kind)
  | .complex type components => by
      have nested := @componentsDefect_noError_iff memory
        (elements memory element.address element.length element.length 0) components
      rw [MmsValue.defect, judge_noError_iff (by decide), MmsValue.Matches, nested]
      rcases elements memory element.address element.length element.length 0 with
        ⟨parts, complete⟩
      simp only [Scan.mk.injEq, and_assoc, exists_eq_left']
  | .dataAccessError _ | .boolean _ | .bitString _ | .integer _ | .unsigned _ | .float _
  | .octetString _ | .binaryTime _ | .utcTime _ => judge_noError_iff (by decide)
  | .visibleString _ => by
      rw [MmsValue.defect, judge_noError_iff (by decide), and_true, MmsValue.Matches]
  | .string _ | .unsupported _ => iff_of_false nofun id

theorem componentsDefect_noError_iff {memory : Memory} {scan : Scan} :
    (components : Components) → (componentsDefect memory scan components = .noError ↔
      scan.complete = true ∧ ComponentsMatch memory scan.elements components)
  | [] => by
      rcases scan with ⟨parts, complete⟩
      rw [componentsDefect, ComponentsMatch]
      simp [and_comm]
  | component :: rest => by
      rcases scan with ⟨_ | ⟨element, others⟩, complete⟩
      · rw [componentsDefect, ComponentsMatch]
        cases complete <;> cases component <;> simp
      · have first := @componentDefect_noError_iff memory element component
        have following := @componentsDefect_noError_iff memory ⟨others, complete⟩ rest
        rw [componentsMatch_cons, componentsDefect]
        dsimp only
        by_cases sound : componentDefect memory element component = .noError
        · rw [if_pos sound, following, iff_true_intro (first.mp sound), true_and]
        · rw [if_neg sound]
          exact iff_of_false sound fun all => sound (first.mpr all.2.1)

theorem componentDefect_noError_iff {memory : Memory} {element : Element} :
    (component : Option MmsValue) → (componentDefect memory element component = .noError ↔
      ComponentMatches memory element component)
  | none => by simp [componentDefect, ComponentMatches]
  | some value => by
      rw [componentDefect, ComponentMatches]
      cases element.kind with
      | none => simp
      | some kind => simp [value.defect_noError_iff]

end

/-- Octets have no defect exactly if every element matches and none is missing. -/
theorem firstDefect_noError_iff {memory : Memory} {address length : Nat}
    {components : Components} :
    firstDefect memory address length components = .noError ↔
      ∃ parts, elements memory address length length 0 = ⟨parts, true⟩ ∧
        ComponentsMatch memory parts components := by
  rw [firstDefect, componentsDefect_noError_iff]
  rcases elements memory address length length 0 with ⟨parts, complete⟩
  simp only [Scan.mk.injEq, and_assoc, exists_eq_left']

mutual

/-- What matches passes. -/
theorem MmsValue.Matches.passes {memory : Memory} {element : Element} {kind : DataTag} :
    {value : MmsValue} → value.Matches memory element kind → value.Passes memory element kind
  | .complex type components, matched => by
      rw [MmsValue.Matches] at matched
      rw [MmsValue.Passes]
      obtain ⟨same, parts, scanned, all⟩ := matched
      exact .inr ⟨same, parts, scanned, ComponentsMatch.passes all⟩
  | .dataAccessError _, matched => matched.1
  | .boolean _, matched | .octetString _, matched | .binaryTime _, matched => .inr matched.1
  | .bitString _, matched | .integer _, matched | .unsigned _, matched =>
      .inr ⟨matched.1, matched.2.2⟩
  | .float value, ⟨same, fits⟩ => by
      refine .inr ⟨same, ?_⟩
      unfold FloatingPoint.Fits at fits
      cases width : value.width <;> rw [width, FloatWidth.formatWidth] at fits <;> omega
  | .visibleString _, matched | .utcTime _, matched => .inr matched
  | .string _, matched | .unsupported _, matched => matched.elim

theorem ComponentsMatch.passes {memory : Memory} {parts : List Element} :
    {components : Components} → ComponentsMatch memory parts components →
    ComponentsPass memory parts components
  | [], matched => matched
  | component :: rest, matched => by
      rw [ComponentsMatch] at matched
      rw [ComponentsPass]
      obtain ⟨element, others, split, first, following⟩ := matched
      exact ⟨element, others, split, ComponentMatches.passes first, following.passes⟩

theorem ComponentMatches.passes {memory : Memory} {element : Element} :
    {component : Option MmsValue} → ComponentMatches memory element component →
    ComponentPasses memory element component
  | none, matched => matched
  | some value, matched => by
      rw [ComponentMatches] at matched
      rw [ComponentPasses]
      obtain ⟨kind, known, matched⟩ := matched
      exact ⟨kind, known, matched.passes⟩

end

/-! ## Defects of elements -/

/-- The defects that an element for a value can have. -/
def elementDefects : List GooseParseError :=
  [.noError, .unknownTag, .typeMismatch, .lengthMismatch, .sublevel]

/-- The defects that an element of the right type can have. -/
def contentDefects : List GooseParseError := [.noError, .lengthMismatch, .sublevel]

theorem judge_mem (kind expected : DataTag) (fits : Prop) [Decidable fits]
    {unfitting : GooseParseError} (bad : unfitting ∈ contentDefects) :
    judge kind expected fits unfitting ∈ elementDefects := by
  have content : contentDefects ⊆ elementDefects := by decide
  unfold judge
  split_ifs
  · decide
  · exact content bad
  · decide

theorem componentDefect_mem (memory : Memory) (element : Element) (value : MmsValue) :
    componentDefect memory element (some value) ∈ elementDefects := by
  rw [componentDefect]
  cases element.kind with
  | none => exact show GooseParseError.unknownTag ∈ elementDefects by decide
  | some kind =>
      cases value with
      | string _ | unsupported _ =>
          exact show GooseParseError.typeMismatch ∈ elementDefects by decide
      | complex _ _ =>
          exact judge_mem kind _ _ (show GooseParseError.sublevel ∈ contentDefects by decide)
      | _ =>
          exact judge_mem kind _ _ (show GooseParseError.lengthMismatch ∈ contentDefects by decide)

theorem judge_of_other {kind expected : DataTag} {fits : Prop} [Decidable fits]
    {unfitting : GooseParseError} (other : kind ≠ expected) :
    judge kind expected fits unfitting = .typeMismatch := if_neg other

theorem judge_of_known (expected : DataTag) (fits : Prop) [Decidable fits]
    {unfitting : GooseParseError} (bad : unfitting ∈ contentDefects) :
    judge expected expected fits unfitting ∈ contentDefects := by
  rw [judge, if_pos rfl]
  split_ifs
  · decide
  · exact bad

/-- The tag that is reserved for access results is accepted for any value. -/
theorem componentPasses_of_reserved {memory : Memory} {element : Element}
    (reserved : element.kind = some .accessResult) (value : MmsValue) :
    ComponentPasses memory element (some value) := by
  rw [ComponentPasses]
  refine ⟨_, reserved, ?_⟩
  cases value with
  | complex _ _ =>
      rw [MmsValue.Passes]
      exact .inl rfl
  | dataAccessError _ | string _ | unsupported _ => rfl
  | _ => exact .inl rfl

/-- An element that is passed over has the wrong type. -/
theorem PassedOver.defect {memory : Memory} {element : Element} {value : MmsValue}
    (passedOver : PassedOver element value) :
    componentDefect memory element (some value) = .typeMismatch := by
  obtain ⟨reserved, other⟩ := passedOver
  rw [componentDefect, reserved]
  dsimp only
  cases value with
  | dataAccessError code => exact absurd rfl (other code)
  | complex type components =>
      rw [MmsValue.defect]
      exact judge_of_other (by simp)
  | string _ | unsupported _ => rfl
  | _ => exact judge_of_other (by decide)

/-- An element that is accepted is passed over or has the right type, but its content may be
unfitting. -/
theorem componentDefect_of_passes {memory : Memory} {element : Element} {value : MmsValue}
    (passes : ComponentPasses memory element (some value)) :
    PassedOver element value ∨ componentDefect memory element (some value) ∈ contentDefects := by
  obtain ⟨kind, known, passes⟩ := passes
  have unfitting : GooseParseError.lengthMismatch ∈ contentDefects := by decide
  rw [componentDefect, known]
  dsimp only
  cases value with
  | dataAccessError _ =>
      obtain rfl : kind = .accessResult := passes
      exact .inr (judge_of_known _ _ unfitting)
  | string _ | unsupported _ =>
      obtain rfl : kind = .accessResult := passes
      exact .inl ⟨known, nofun⟩
  | complex type components =>
      rw [MmsValue.Passes] at passes
      rw [MmsValue.defect]
      rcases passes with rfl | ⟨rfl, _⟩
      · exact .inl ⟨known, nofun⟩
      · exact .inr (judge_of_known _ _ (by decide))
  | octetString _ | visibleString _ | binaryTime _ | boolean _ =>
      rcases passes with rfl | rfl
      · exact .inl ⟨known, nofun⟩
      · exact .inr (judge_of_known _ _ unfitting)
  | bitString _ | integer _ | unsigned _ | float _ | utcTime _ =>
      rcases passes with rfl | ⟨rfl, _⟩
      · exact .inl ⟨known, nofun⟩
      · exact .inr (judge_of_known _ _ unfitting)

/-! ## The errors of the loop -/

/-- The errors that `parseAllData` can return. -/
def returnedErrors : List GooseParseError := [.noError, .overflow, .underflow, .typeMismatch]

/-- Whatever the loop finds, it returns one of four errors. -/
theorem updateLoop_mem {memory : Memory} {fuel buffer allDataLength bufPos elementIndex : Nat}
    {dataSetValues : Components} :
    (updateLoop memory fuel buffer allDataLength bufPos elementIndex dataSetValues).value.1 ∈
      returnedErrors := by
  have finished : ∀ error elementIndex dataSetValues,
      error ∈ returnedErrors ∨ elementIndex < List.length dataSetValues →
      (finishUpdate error elementIndex dataSetValues).1 ∈ returnedErrors := by
    intro error elementIndex dataSetValues cause
    rw [finishUpdate]
    split_ifs with short
    · exact show GooseParseError.underflow ∈ returnedErrors by decide
    · exact cause.resolve_right short
  induction fuel generalizing buffer allDataLength bufPos elementIndex dataSetValues with
  | zero => exact finished _ _ _ (.inl (by decide))
  | succ fuel ih =>
      rw [value_updateLoop_succ]
      split_ifs with inside surplus
      · exact finished _ _ _ (.inl (by decide))
      · have counted : elementIndex < dataSetValues.length := Nat.lt_of_not_le surplus
        cases MmsValue.getElement dataSetValues elementIndex with
        | none => exact show GooseParseError.typeMismatch ∈ returnedErrors by decide
        | some value =>
            rcases (decodeLength memory buffer allDataLength (bufPos + 1)).value with
              _ | ⟨start, length⟩
            · exact finished _ _ _ (.inr counted)
            · dsimp only
              split_ifs with failed
              · exact finished _ _ _ (.inr (by rw [List.length_set]; exact counted))
              · exact ih
      · exact finished _ _ _ (.inl (by decide))

/-- The loop reports a type mismatch only of a component that is missing. -/
theorem updateLoop_typeMismatch_iff {memory : Memory} {buffer allDataLength fuel bufPos : Nat}
    {done components : Components} (enough : allDataLength - bufPos ≤ fuel) :
    (updateLoop memory fuel buffer allDataLength bufPos done.length
        (done ++ components)).value.1 = .typeMismatch ↔
      RunsIntoMissing memory (elements memory buffer allDataLength allDataLength bufPos)
        components := by
  apply updateLoop_induction (motive := fun fuel buffer allDataLength bufPos done components =>
    (updateLoop memory fuel buffer allDataLength bufPos done.length
        (done ++ components)).value.1 = .typeMismatch ↔
      RunsIntoMissing memory (elements memory buffer allDataLength allDataLength bufPos) components)
  case ended =>
    intro _ _ _ _ _ components ended
    rw [value_updateLoop_end ended, elements_end ended]
    rcases components with _ | ⟨_ | value, rest⟩ <;> simp [RunsIntoMissing]
  case surplus =>
    intro _ _ _ _ _ inside
    rw [value_updateLoop_surplus inside]
    simp [RunsIntoMissing]
  case missing =>
    intro _ _ _ _ _ _ inside
    rw [value_updateLoop_cons inside, RunsIntoMissing]
    exact iff_of_true rfl (mt elements_eq_nil.mp (Nat.not_le.mpr inside))
  case malformed =>
    intro _ _ _ _ _ _ _ inside decoded
    rw [value_updateLoop_cons inside, decoded, elements_malformed inside decoded]
    simp [RunsIntoMissing]
  case decoded =>
    intro fuel buffer _ bufPos start length _ value others inside decoded short _ rest
    have accepted := @updateElement_passes_iff memory
      ⟨memory (buffer + bufPos), buffer + start, length⟩ fuel short value
    rw [value_updateLoop_cons inside, decoded, elements_next inside decoded, Scan.cons,
      RunsIntoMissing]
    dsimp only at accepted ⊢
    split_ifs with failed
    · refine iff_of_false (by decide) ?_
      rintro ⟨_, _, ⟨⟩, passes, _⟩
      exact failed (accepted.mpr passes)
    · rw [rest]
      constructor
      · exact fun runs => ⟨_, _, rfl, accepted.mp (not_not.mp failed), runs⟩
      · rintro ⟨_, _, ⟨⟩, _, runs⟩
        exact runs
  case enough => exact enough

/-- At the end of the octets the loop and the first defect agree. -/
theorem reports_end (memory : Memory) (components : Components) :
    (if components = [] then GooseParseError.noError else .underflow) =
        componentsDefect memory ⟨[], true⟩ components ∧
      SuppliedMatch memory ⟨[], true⟩ components := by
  cases components with
  | nil => simp [componentsDefect, SuppliedMatch]
  | cons component rest => cases component <;> simp [componentsDefect, SuppliedMatch]

/-- An element has nothing to match in a component that is missing. -/
theorem componentsDefect_missing {memory : Memory} {scan : Scan} (some : scan ≠ ⟨[], true⟩)
    (rest : Components) : componentsDefect memory scan (none :: rest) = .typeMismatch := by
  rcases scan with ⟨_ | ⟨element, others⟩, complete⟩
  · have malformed : complete = false := by simpa using some
    simp [componentsDefect, malformed]
  · simp [componentsDefect, componentDefect]

/-- The loop reports the first defect of what is left exactly if every element that there is a
value for matches. -/
theorem updateLoop_reports_iff {memory : Memory} {buffer allDataLength fuel bufPos : Nat}
    {done components : Components} (enough : allDataLength - bufPos ≤ fuel) :
    (updateLoop memory fuel buffer allDataLength bufPos done.length
        (done ++ components)).value.1 =
        componentsDefect memory (elements memory buffer allDataLength allDataLength bufPos)
          components ↔
      SuppliedMatch memory (elements memory buffer allDataLength allDataLength bufPos)
        components := by
  apply updateLoop_induction (motive := fun fuel buffer allDataLength bufPos done components =>
    allDataLength - bufPos ≤ fuel →
    ((updateLoop memory fuel buffer allDataLength bufPos done.length
        (done ++ components)).value.1 =
        componentsDefect memory (elements memory buffer allDataLength allDataLength bufPos)
          components ↔
      SuppliedMatch memory (elements memory buffer allDataLength allDataLength bufPos) components))
  case ended =>
    intro _ _ _ _ _ components ended _
    obtain ⟨agreed, matched⟩ := reports_end memory components
    rw [value_updateLoop_end ended, elements_end ended]
    exact iff_of_true agreed matched
  case surplus =>
    intro _ buffer allDataLength bufPos _ inside _
    have left : elements memory buffer allDataLength allDataLength bufPos ≠ ⟨[], true⟩ :=
      mt elements_eq_nil.mp (Nat.not_le.mpr inside)
    rw [value_updateLoop_surplus inside, componentsDefect, if_neg left]
    simp [SuppliedMatch]
  case missing =>
    intro _ buffer allDataLength bufPos _ _ inside _
    have left : elements memory buffer allDataLength allDataLength bufPos ≠ ⟨[], true⟩ :=
      mt elements_eq_nil.mp (Nat.not_le.mpr inside)
    rw [value_updateLoop_cons inside, componentsDefect_missing left]
    simp [SuppliedMatch]
  case malformed =>
    intro _ _ _ _ _ _ _ inside decoded _
    rw [value_updateLoop_cons inside, decoded, elements_malformed inside decoded]
    simp [componentsDefect, SuppliedMatch]
  case decoded =>
    intro fuel buffer _ bufPos start length _ value _ inside decoded short _ rest enough
    obtain ⟨later, within⟩ := decodeLength_spec decoded
    have accepted := @updateElement_passes_iff memory
      ⟨memory (buffer + bufPos), buffer + start, length⟩ fuel short value
    have matched := @componentDefect_noError_iff memory
      ⟨memory (buffer + bufPos), buffer + start, length⟩ (some value)
    rw [value_updateLoop_cons inside, decoded, elements_next inside decoded, Scan.cons,
      componentsDefect, SuppliedMatch]
    dsimp only at accepted ⊢
    rw [← matched]
    split_ifs with failed sound sound
    · exact absurd (accepted.mpr (matched.mp sound).passes) failed
    · -- The element is not counted, and the loop is over.
      have apart : ∀ defect ∈ elementDefects, .underflow ≠ defect := by decide
      refine iff_of_false (apart _ (componentDefect_mem memory _ value)) ?_
      rintro (⟨same, _⟩ | ⟨passedOver, _⟩)
      · exact sound same
      · exact failed (accepted.mpr (componentPasses_of_reserved passedOver.1 value))
    · have counted : ¬ PassedOver ⟨memory (buffer + bufPos), buffer + start, length⟩ value :=
        fun passedOver => absurd (sound.symm.trans passedOver.defect) (by decide)
      rw [rest _ _ (by omega)]
      simp only [sound, counted, true_and, false_and, or_false]
    · rcases componentDefect_of_passes (accepted.mp (not_not.mp failed)) with
        passedOver | unfitting
      · -- The defect is reported if a later component is missing.
        rw [passedOver.defect, updateLoop_typeMismatch_iff (by omega)]
        simp only [passedOver, reduceCtorEq, false_and, true_and, false_or]
      · -- The content of the element is unfitting, which is never reported.
        have apart : ∀ defect ∈ contentDefects, defect ∈ returnedErrors → defect = .noError := by
          decide
        have other : ¬ PassedOver ⟨memory (buffer + bufPos), buffer + start, length⟩ value :=
          fun passedOver => absurd (passedOver.defect ▸ unfitting) (by decide)
        refine iff_of_false (fun same => ?_) fun supplied => ?_
        · exact sound (apart _ unfitting (same ▸ updateLoop_mem))
        · rcases supplied with ⟨matching, _⟩ | ⟨passedOver, _⟩
          · exact sound matching
          · exact other passedOver
  case enough => exact enough
  case a => exact enough

end GridGooseSV
