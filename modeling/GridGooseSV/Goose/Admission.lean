import GridGooseSV.Goose.Creation

/-!
# When a data set is built

`parseAllDataUnknownValue` gives the whole data set up for one element that it cannot take. What it
takes is told by the elements alone: an element of another length than its kind may have is in some
cases passed over and in others given up.
-/

namespace GridGooseSV

open BerDecoder

/-- The kinds of elements that are never given up. -/
def freeKinds : List DataTag :=
  [.boolean, .float, .octetString, .visibleString, .binaryTime, .utcTime]

/-- A data set is not given up for an element. -/
inductive Element.Admitted (memory : Memory) : Element → Prop
  | components {element : Element} {type : ComplexType} {parts : List Element}
      (kind : element.kind = some (.complex type))
      (scanned : elements memory element.address element.length element.length 0 = ⟨parts, true⟩)
      (all : ∀ part ∈ parts, part.Admitted memory) : element.Admitted memory
  | bitString {element : Element} (kind : element.kind = some .bitString)
      (long : 1 < element.length) (padding : (memory element.address).toNat ≤ 7) :
      element.Admitted memory
  | number {element : Element} (kind : element.kind = some .integer ∨ element.kind = some .unsigned)
      (short : element.length ≤ 8) : element.Admitted memory
  | free {element : Element} {tag : DataTag} (kind : element.kind = some tag)
      (free : tag ∈ freeKinds) : element.Admitted memory

namespace Element.Admitted

variable {memory : Memory} {element : Element}

theorem known (admitted : element.Admitted memory) : element.kind.isSome := by
  cases admitted with
  | components kind => rw [kind]; rfl
  | bitString kind => rw [kind]; rfl
  | number kind => rcases kind with kind | kind <;> rw [kind] <;> rfl
  | free kind => rw [kind]; rfl

theorem complex_iff {type : ComplexType} (kind : element.kind = some (.complex type)) :
    element.Admitted memory ↔ ∃ parts,
      elements memory element.address element.length element.length 0 = ⟨parts, true⟩ ∧
        ∀ part ∈ parts, part.Admitted memory := by
  constructor
  · intro admitted
    cases admitted with
    | components _ scanned all => exact ⟨_, scanned, all⟩
    | bitString other => simp [kind] at other
    | number other => simp [kind] at other
    | free other free =>
        obtain rfl := Option.some.inj (kind.symm.trans other)
        simp [freeKinds] at free
  · rintro ⟨parts, scanned, all⟩
    exact .components kind scanned all

theorem bitString_iff (kind : element.kind = some .bitString) :
    element.Admitted memory ↔ 1 < element.length ∧ (memory element.address).toNat ≤ 7 := by
  constructor
  · intro admitted
    cases admitted with
    | components other => simp [kind] at other
    | bitString _ long padding => exact ⟨long, padding⟩
    | number other => simp [kind] at other
    | free other free =>
        obtain rfl := Option.some.inj (kind.symm.trans other)
        simp [freeKinds] at free
  · exact fun fits => .bitString kind fits.1 fits.2

theorem number_iff (kind : element.kind = some .integer ∨ element.kind = some .unsigned) :
    element.Admitted memory ↔ element.length ≤ 8 := by
  constructor
  · intro admitted
    cases admitted with
    | components other => simp [other] at kind
    | bitString other => simp [other] at kind
    | number _ short => exact short
    | free other free =>
        rw [other] at kind
        rcases kind with kind | kind <;> obtain rfl := Option.some.inj kind <;>
          simp [freeKinds] at free
  · exact .number kind

/-- An element that is reserved for an access result is given up. -/
theorem not_accessResult (kind : element.kind = some .accessResult) :
    ¬ element.Admitted memory := by
  intro admitted
  cases admitted with
  | components other => simp [kind] at other
  | bitString other => simp [kind] at other
  | number other => simp [kind] at other
  | free other free =>
      obtain rfl := Option.some.inj (kind.symm.trans other)
      simp [freeKinds] at free

end Element.Admitted

section Elements

variable {memory : Memory} {element : Element}
variable {nested : Nat → Nat → Bool → Traced Access (Option Components × Bool)}

/-- An element is given up exactly if it is not admitted, if that is so for nested elements. -/
theorem createElement_error_iff
    (nestedIff : ∀ selfAllocated,
      (nested element.address element.length selfAllocated).value.1.isSome ↔ ∃ parts,
        elements memory element.address element.length element.length 0 = ⟨parts, true⟩ ∧
          ∀ part ∈ parts, part.Admitted memory) (selfAllocated : Bool) :
    (createElement memory nested element.tag element.address element.length
        selfAllocated).value.1 = .error ↔ ¬ element.Admitted memory := by
  have never : ∀ {tag : DataTag} {result : Created}, element.kind = some tag → tag ∈ freeKinds →
      result ≠ .error → (result = .error ↔ ¬ element.Admitted memory) :=
    fun kind free differs => iff_of_false differs (not_not.mpr (.free kind free))
  cases kind : element.kind with
  | none =>
      refine iff_of_true ?_ fun admitted => by simpa [kind] using admitted.known
      unfold Element.kind at kind
      simp only [createElement, kind, Traced.value_pure]
  | some tag =>
      have known := kind
      unfold Element.kind at kind
      simp only [createElement, kind]
      cases tag with
      | accessResult => exact iff_of_true rfl (Element.Admitted.not_accessResult known)
      | complex type =>
          rw [Element.Admitted.complex_iff known, ← nestedIff selfAllocated, Traced.value_bind]
          rcases (nested element.address element.length selfAllocated).value with
            ⟨_ | components, flag⟩
          · simp
          · simp
      | boolean => exact never known (by decide) (by simp)
      | bitString =>
          rw [Element.Admitted.bitString_iff known]
          by_cases long : element.length > 1
          · rw [if_pos long]
            simp only [↓Memory.value_bind_read, Traced.value_ite]
            by_cases padding : (memory element.address).toNat > 7
            · rw [if_pos padding]
              exact iff_of_true rfl (by omega)
            · rw [if_neg padding]
              exact iff_of_false (by simp) (by omega)
          · rw [if_neg long]
            exact iff_of_true rfl (by omega)
      | integer =>
          rw [Element.Admitted.number_iff (.inl known)]
          dsimp only
          by_cases long : element.length > 8
          · rw [if_pos long]
            exact iff_of_true rfl (by omega)
          · obtain ⟨number, built, _⟩ :=
              value_createPrimitive memory element.address (Nat.not_lt.mp long)
                (newInteger_maxSize _) .integer
            simp only [if_neg long, Traced.value_bind, built]
            exact iff_of_false (by simp) (by omega)
      | unsigned =>
          rw [Element.Admitted.number_iff (.inr known)]
          dsimp only
          by_cases long : element.length > 8
          · rw [if_pos long]
            exact iff_of_true rfl (by omega)
          · obtain ⟨number, built, _⟩ :=
              value_createPrimitive memory element.address (Nat.not_lt.mp long)
                (newUnsigned_maxSize _) .unsigned
            simp only [if_neg long, Traced.value_bind, built]
            exact iff_of_false (by simp) (by omega)
      | float =>
          refine never known (by decide) ?_
          simp only [Traced.value_ite]
          split_ifs <;> simp
      | octetString => exact never known (by decide) (by simp)
      | visibleString => exact never known (by decide) (by simp)
      | binaryTime =>
          refine never known (by decide) ?_
          simp only [Traced.value_ite]
          split_ifs <;> simp
      | utcTime =>
          refine never known (by decide) ?_
          simp only [Traced.value_ite]
          split_ifs <;> simp

/-- The components are filled exactly if every element is admitted. -/
theorem fillElements_isSome_iff {buffer allDataLength : Nat} {parts : List Element}
    {fuel bufPos elementIndex : Nat} {dataSetValues : Components} {selfAllocated : Bool}
    (enough : allDataLength - bufPos ≤ fuel)
    (scanned : elements memory buffer allDataLength allDataLength bufPos = ⟨parts, true⟩)
    (given : ∀ part ∈ parts, ∀ selfAllocated, (createElement memory nested part.tag part.address
      part.length selfAllocated).value.1 = .error ↔ ¬ part.Admitted memory) :
    (fillElements memory nested buffer allDataLength fuel bufPos elementIndex dataSetValues
        selfAllocated).value.1.isSome ↔ ∀ part ∈ parts, part.Admitted memory := by
  induction parts generalizing fuel bufPos elementIndex dataSetValues selfAllocated with
  | nil =>
      have ended := elements_eq_nil.mp scanned
      cases fuel with
      | zero => simp [fillElements]
      | succ fuel =>
          rw [value_fillElements_succ, if_neg (Nat.not_lt.mpr ended)]
          simp
  | cons element rest ih =>
      obtain ⟨inside, start, length, decoded, rfl, following⟩ := elements_eq_cons.mp scanned
      have later := decodeLength_advances decoded
      obtain ⟨first, others⟩ := List.forall_mem_cons.mp given
      have here := first selfAllocated
      cases fuel with
      | zero => omega
      | succ fuel =>
          rw [value_fillElements_succ, if_pos inside, List.forall_mem_cons]
          simp only [decoded]
          rcases created : (createElement memory nested (memory (buffer + bufPos))
            (buffer + start) length selfAllocated).value with ⟨_ | _ | value, after⟩
          · rw [created] at here
            exact iff_of_false (by simp) fun admitted => here.mp rfl admitted.1
          · rw [created] at here
            rw [ih (by omega) following others, and_iff_right (not_not.mp (mt here.mpr (by simp)))]
          · rw [created] at here
            rw [ih (by omega) following others, and_iff_right (not_not.mp (mt here.mpr (by simp)))]

/-- Elements are counted exactly if they are a complete string of known elements. -/
theorem countElements_isSome_iff {buffer allDataLength fuel bufPos elementIndex : Nat}
    (enough : allDataLength - bufPos ≤ fuel) :
    (countElements memory buffer allDataLength fuel bufPos elementIndex).value.isSome ↔ ∃ parts,
      elements memory buffer allDataLength allDataLength bufPos = ⟨parts, true⟩ ∧
        ∀ part ∈ parts, part.kind.isSome := by
  constructor
  · intro counted
    obtain ⟨count, counted⟩ := Option.isSome_iff_exists.mp counted
    obtain ⟨parts, scanned, _, known⟩ := elements_of_countElements enough counted
    exact ⟨parts, scanned, known⟩
  · rintro ⟨parts, scanned, known⟩
    rw [countElements_eq enough scanned known]
    rfl

/-- A data set is built exactly from a complete string of admitted elements. -/
theorem createLoop_isSome_iff {fuel address length : Nat} {selfAllocated : Bool}
    (enough : length < fuel) :
    (createLoop memory fuel address length selfAllocated).value.1.isSome ↔ ∃ parts,
      elements memory address length length 0 = ⟨parts, true⟩ ∧
        ∀ part ∈ parts, part.Admitted memory := by
  induction fuel generalizing address length selfAllocated with
  | zero => omega
  | succ fuel ih =>
      have counting := @countElements_isSome_iff memory address length length 0 0 (by omega)
      rw [createLoop, Traced.value_bind]
      cases counted : (countElements memory address length length 0 0).value with
      | none =>
          rw [counted] at counting
          refine iff_of_false (by simp) ?_
          rintro ⟨parts, scanned, all⟩
          exact absurd (counting.mpr ⟨parts, scanned, fun part member => (all part member).known⟩)
            (by simp)
      | some count =>
          obtain ⟨parts, scanned, _⟩ := elements_of_countElements (by omega) counted
          have shorter : ∀ part ∈ parts, part.length < fuel := by
            intro part member
            obtain ⟨behind, within⟩ := elements_within part (by rw [scanned]; exact member)
            omega
          refine (fillElements_isSome_iff (Nat.le_refl _) scanned fun part member =>
            createElement_error_iff fun _ => ih (shorter part member)).trans ?_
          constructor
          · exact fun all => ⟨parts, scanned, all⟩
          · rintro ⟨others, same, all⟩
            obtain ⟨rfl, _⟩ := Scan.mk.inj (scanned.symm.trans same)
            exact all

end Elements

/-- `parseAllDataUnknownValue` returns a data set exactly for a complete string of admitted
elements. -/
theorem parseAllDataUnknownValue_isSome_iff {memory : Memory} {address length : Nat}
    {selfAllocated : Bool} :
    (parseAllDataUnknownValue memory address length selfAllocated).value.1.isSome ↔ ∃ parts,
      elements memory address length length 0 = ⟨parts, true⟩ ∧
        ∀ part ∈ parts, part.Admitted memory :=
  createLoop_isSome_iff (Nat.lt_succ_self _)

end GridGooseSV
