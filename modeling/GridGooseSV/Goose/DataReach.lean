import GridGooseSV.Ber.Framing
import GridGooseSV.Goose.OwnOctets

/-!
# How far a data set is read

What the decoders of a data set read of an element depends on its kind, its length and, in an
update, on the value that it is for. Whether they stay below an address is told by the elements
that they come to: their tags and lengths, and as many of their octets as are taken.
-/

namespace GridGooseSV

open BerDecoder

/-- Octets that start at an address lie below a limit. -/
def OctetsBelow (limit address count : Nat) : Prop :=
  ∀ position, address ≤ position → position < address + count → position < limit

theorem octetsBelow_iff {limit address count : Nat} :
    OctetsBelow limit address count ↔ (0 < count → address + count ≤ limit) := by
  constructor
  · intro below some
    have last := below (address + count - 1) (by omega) (by omega)
    omega
  · intro ends position above before
    have within := ends (by omega)
    omega

section Reads

variable {memory : Memory} {limit address count capacity : Nat}

theorem readsBelow_int (value : Int) : (Access.int value).ReadsBelow limit := trivial

theorem readsBelow_read_iff (address : Nat) :
    (Access.read address).ReadsBelow limit ↔ address < limit := Iff.rfl

theorem readsBelow_readOctets_iff :
    (memory.readOctets address count).Always (Access.ReadsBelow limit) ↔
      OctetsBelow limit address count :=
  Memory.always_readOctets

theorem readsBelow_memcpy_iff :
    (memcpy memory address count capacity).Always (Access.ReadsBelow limit) ↔
      OctetsBelow limit address count := by
  unfold memcpy
  rw [Traced.always_bind, readsBelow_readOctets_iff, Traced.always_bind, Traced.always_emit]
  exact and_iff_left ⟨trivial, Traced.always_pure _⟩

theorem readsBelow_decodeBoolean_iff :
    (decodeBoolean memory address 0).Always (Access.ReadsBelow limit) ↔
      OctetsBelow limit address 1 := by
  unfold decodeBoolean
  rw [Traced.always_bind, Memory.always_read, octetsBelow_iff,
    and_iff_left (Traced.always_pure _)]
  exact ⟨fun below _ => below, fun below => below Nat.one_pos⟩

theorem readsBelow_decodeDouble_iff :
    (decodeDouble memory address 0).Always (Access.ReadsBelow limit) ↔
      OctetsBelow limit address 9 := by
  refine (@Memory.always_readOctets memory (address + (0 + 1)) 8 _).trans ?_
  refine (show _ ↔ OctetsBelow limit (address + (0 + 1)) 8 from Iff.rfl).trans ?_
  rw [octetsBelow_iff, octetsBelow_iff]
  omega

theorem readsBelow_decodeFloat_iff :
    (decodeFloat memory address 0).Always (Access.ReadsBelow limit) ↔
      OctetsBelow limit address 5 := by
  refine (@Memory.always_readOctets memory (address + (0 + 1)) 4 _).trans ?_
  refine (show _ ↔ OctetsBelow limit (address + (0 + 1)) 4 from Iff.rfl).trans ?_
  rw [octetsBelow_iff, octetsBelow_iff]
  omega

/-- A padding octet and the bits behind it. -/
theorem octetsBelow_bits_iff (some : 0 < count) :
    address < limit ∧ OctetsBelow limit (address + 1) (count - 1) ↔
      OctetsBelow limit address count := by
  rw [octetsBelow_iff, octetsBelow_iff]
  omega

/-- A computation reads below a limit if its reads, as they are told, lie there. -/
theorem below_iff_of_accounted {α : Type} {computation : Traced Access α}
    {reads : List OctetRead} (accounted : computation.reads = reads.map OctetRead.address) :
    (∀ read ∈ reads, read.address < limit) ↔ computation.Always (Access.ReadsBelow limit) := by
  rw [Traced.always_iff_forall_reads, accounted, List.forall_mem_map]
  · rfl
  · intro event unread
    cases event with
    | read address => contradiction
    | _ => trivial

theorem below_forming_iff {α : Type} {element : Element} {computation : Traced Access α} :
    (∀ read ∈ forming element computation, read.address < limit) ↔
      computation.Always (Access.ReadsBelow limit) :=
  below_iff_of_accounted (address_forming ..).symm

theorem below_framing_iff {α : Type} {computation : Traced Access α} :
    (∀ read ∈ framing computation, read.address < limit) ↔
      computation.Always (Access.ReadsBelow limit) :=
  below_iff_of_accounted (address_framing ..).symm

/-- What is read behind the tag and the length of an element. -/
theorem below_behindFraming {buffer position : Nat} {maxBufPos : Int} {reads : List OctetRead} :
    (∀ read ∈ .framing (buffer + position) ::
        (framing (decodeLength memory buffer maxBufPos (position + 1)) ++ reads),
        read.address < limit) ↔
      HeadBelow memory buffer maxBufPos limit position ∧ ∀ read ∈ reads, read.address < limit := by
  rw [List.forall_mem_cons, List.forall_mem_append, below_framing_iff,
    always_decodeLength_iff readsBelow_int readsBelow_read_iff, HeadBelow, and_assoc]
  rfl

end Reads

/-! ## Updating a data set -/

/-- How many of its first octets are read when an element is decoded into a value that has no
components. -/
def Element.octetsUpdated (memory : Memory) (element : Element) (value : MmsValue) : Nat :=
  match element.kind, value with
  | some .boolean, .boolean _ => 1
  | some .bitString, .bitString bits =>
    if 8 * ((element.length : Int) - 1) - (memory element.address).toNat = bits.size then
      element.length
    else 1
  | some .integer, .integer number | some .unsigned, .unsigned number =>
    if element.length ≤ number.maxSize then element.length else 0
  | some .float, .float _ =>
    if element.length = 9 ∨ element.length = 5 then element.length else 0
  | some .octetString, .octetString _ | some .visibleString, .visibleString _ => element.length
  | some .binaryTime, .binaryTime _ =>
    if element.length = 4 ∨ element.length = 6 then element.length else 0
  | some .utcTime, .utcTime _ => if element.length = 8 then 8 else 0
  | _, _ => 0

mutual

/-- What is read of an element in an update lies below a limit. -/
def MmsValue.UpdateBelow (memory : Memory) (limit : Nat) (element : Element) : MmsValue → Prop
  | .complex type components => element.kind = some (.complex type) →
    ComponentsBelow memory limit element.address element.length 0
      (elements memory element.address element.length element.length 0).elements components
  | value => OctetsBelow limit element.address (element.octetsUpdated memory value)

/-- The same for the elements of components, up to the first that does not pass. An element for
which there is no component, or an empty one, is not delimited. -/
def ComponentsBelow (memory : Memory) (limit buffer length : Nat) :
    (position : Nat) → (parts : List Element) → Components → Prop
  | position, _, [] => position < length → buffer + position < limit
  | position, parts, component :: rest =>
    (position < length → buffer + position < limit ∧
      (component.isSome → LengthBelow memory buffer length limit (position + 1))) ∧
    ∀ element others, parts = element :: others →
      ComponentBelow memory limit element component ∧
        (ComponentPasses memory element component → ComponentsBelow memory limit buffer length
          (element.address + element.length - buffer) others rest)

def ComponentBelow (memory : Memory) (limit : Nat) (element : Element) : Option MmsValue → Prop
  | none => True
  | some value => value.UpdateBelow memory limit element

end

theorem componentsBelow_cons {memory : Memory} {limit buffer length position : Nat}
    (inside : position < length) {element : Element} {others : List Element} {value : MmsValue}
    {rest : Components} :
    ComponentsBelow memory limit buffer length position (element :: others) (some value :: rest) ↔
      HeadBelow memory buffer length limit position ∧
        ComponentBelow memory limit element (some value) ∧
        (ComponentPasses memory element (some value) → ComponentsBelow memory limit buffer length
          (element.address + element.length - buffer) others rest) := by
  rw [ComponentsBelow, forall_prop_of_true inside, HeadBelow]
  simp only [Option.isSome_some, forall_const]
  refine and_congr_right' ⟨fun all => all element others rfl, ?_⟩
  rintro below _ _ ⟨⟩
  exact below

section Updating

variable {memory : Memory} {limit : Nat}

theorem octetsBelow_zero {address : Nat} : OctetsBelow limit address 0 := by
  rw [octetsBelow_iff]
  omega

theorem readsBelow_updatePrimitive_iff {address length : Nat} {value : Asn1PrimitiveValue} :
    (updatePrimitive memory address length value).Always (Access.ReadsBelow limit) ↔
      OctetsBelow limit address (if length ≤ value.maxSize then length else 0) := by
  unfold updatePrimitive
  split
  · rw [Traced.always_bind, readsBelow_memcpy_iff, and_iff_left (Traced.always_pure _)]
  · exact iff_of_true (Traced.always_pure _) octetsBelow_zero

theorem readsBelow_updateOctetString_iff {address length : Nat} {value : OctetString} :
    (updateOctetString memory address length value).Always (Access.ReadsBelow limit) ↔
      OctetsBelow limit address length := by
  unfold updateOctetString
  split <;> rw [Traced.always_bind, readsBelow_memcpy_iff, and_iff_left (Traced.always_pure _)]

theorem readsBelow_updateVisibleString_iff {address length : Nat} {value : VisibleString} :
    (updateVisibleString memory address length value).Always (Access.ReadsBelow limit) ↔
      OctetsBelow limit address length := by
  have created : (createNewStringFromBufferElement memory address length).Always
      (Access.ReadsBelow limit) ↔ OctetsBelow limit address length := by
    unfold createNewStringFromBufferElement
    rw [Traced.always_bind, readsBelow_memcpy_iff, and_iff_left (Traced.always_pure _)]
  unfold updateVisibleString
  split
  · exact created
  · split
    · rw [Traced.always_bind, readsBelow_memcpy_iff, and_iff_left (Traced.always_pure _)]
    · exact created

/-- An element is decoded into a value below the limit exactly if the octets that are read are. -/
theorem readsBelow_updateElement_iff {element : Element} {value : MmsValue}
    {nested : Nat → Nat → Components → Traced Access (GooseParseError × Components)}
    (simple : ∀ expected type components, element.kind = some (.complex expected) →
      value = .complex type components → False) :
    (updateElement memory nested element.tag element.address element.length value).Always
        (Access.ReadsBelow limit) ↔
      OctetsBelow limit element.address (element.octetsUpdated memory value) := by
  unfold updateElement Element.octetsUpdated
  unfold Element.kind at simple ⊢
  have nothing : ∀ result : GooseParseError × MmsValue,
      (pure result : Traced Access _).Always (Access.ReadsBelow limit) ↔
        OctetsBelow limit element.address 0 :=
    fun _ => iff_of_true (Traced.always_pure _) octetsBelow_zero
  cases kind : DataTag.ofOctet? element.tag with
  | none => exact nothing _
  | some tag =>
      cases tag with
      | accessResult => cases value <;> exact nothing _
      | complex expected =>
          cases value with
          | complex type components => exact (simple expected type components kind rfl).elim
          | _ => exact nothing _
      | boolean =>
          cases value with
          | boolean _ =>
              dsimp only
              rw [Traced.always_bind, and_iff_left (Traced.always_pure _)]
              exact readsBelow_decodeBoolean_iff
          | _ => exact nothing _
      | bitString =>
          cases value with
          | bitString bits =>
              dsimp only
              rw [Traced.always_bind, Memory.always_read, Memory.value_read]
              split
              · rename_i size
                rw [Traced.always_bind, readsBelow_memcpy_iff, and_iff_left (Traced.always_pure _)]
                exact octetsBelow_bits_iff (by omega)
              · rw [and_iff_left (Traced.always_pure _), octetsBelow_iff]
                exact ⟨fun below _ => below, fun below => below Nat.one_pos⟩
          | _ => exact nothing _
      | integer =>
          cases value with
          | integer number =>
              dsimp only
              rw [Traced.always_bind, readsBelow_updatePrimitive_iff]
              exact and_iff_left (Traced.always_pure _)
          | _ => exact nothing _
      | unsigned =>
          cases value with
          | unsigned number =>
              dsimp only
              rw [Traced.always_bind, readsBelow_updatePrimitive_iff]
              exact and_iff_left (Traced.always_pure _)
          | _ => exact nothing _
      | float =>
          cases value with
          | float number =>
              dsimp only
              by_cases double : element.length = 9
              · rw [if_pos double, if_pos (.inl double), Traced.always_bind,
                  readsBelow_decodeDouble_iff, and_iff_left (Traced.always_pure _), double]
              · by_cases single : element.length = 5
                · rw [if_neg double, if_pos single, if_pos (.inr single), Traced.always_bind,
                    readsBelow_decodeFloat_iff, and_iff_left (Traced.always_pure _), single]
                · rw [if_neg double, if_neg single, if_neg (by omega)]
                  exact nothing _
          | _ => exact nothing _
      | octetString =>
          cases value with
          | octetString octets =>
              dsimp only
              rw [Traced.always_bind, readsBelow_updateOctetString_iff]
              exact and_iff_left (Traced.always_pure _)
          | _ => exact nothing _
      | visibleString =>
          cases value with
          | visibleString text =>
              dsimp only
              rw [Traced.always_bind, readsBelow_updateVisibleString_iff]
              exact and_iff_left (Traced.always_pure _)
          | _ => exact nothing _
      | binaryTime =>
          cases value with
          | binaryTime time =>
              dsimp only
              split
              · rw [Traced.always_bind, readsBelow_memcpy_iff, and_iff_left (Traced.always_pure _)]
              · exact nothing _
          | _ => exact nothing _
      | utcTime =>
          dsimp only
          by_cases length : element.length = 8
          · rw [if_pos length]
            cases value with
            | utcTime time =>
                dsimp only
                rw [Traced.always_bind, readsBelow_readOctets_iff, if_pos length,
                  and_iff_left (Traced.always_pure _)]
            | _ => exact nothing _
          · rw [if_neg length]
            cases value with
            | utcTime time =>
                dsimp only
                rw [if_neg length]
                exact nothing _
            | _ => exact nothing _

theorem octetsUpdated_complex (element : Element) (type : ComplexType) (components : Components) :
    element.octetsUpdated memory (.complex type components) = 0 := by
  unfold Element.octetsUpdated
  cases element.kind with
  | none => rfl
  | some tag => cases tag <;> rfl

/-- What is read for an element lies below the limit, if that is so for nested elements. -/
theorem below_updateElementReads_iff {element : Element}
    {nested : Nat → Nat → Components → List OctetRead}
    (nestedIff : ∀ components, (∀ read ∈ nested element.address element.length components,
        read.address < limit) ↔
      ComponentsBelow memory limit element.address element.length 0
        (elements memory element.address element.length element.length 0).elements components)
    (value : MmsValue) :
    (∀ read ∈ updateElementReads memory nested element value, read.address < limit) ↔
      ComponentBelow memory limit element (some value) := by
  have plain : (∀ expected type components, element.kind = some (.complex expected) →
      value = .complex type components → False) →
      ((∀ read ∈ forming element (updateElement memory (fun _ _ components =>
        pure (.noError, components)) element.tag element.address element.length value),
          read.address < limit) ↔
        OctetsBelow limit element.address (element.octetsUpdated memory value)) :=
    fun simple => below_forming_iff.trans (readsBelow_updateElement_iff simple)
  unfold ComponentBelow
  cases value with
  | complex type components =>
      rw [MmsValue.UpdateBelow]
      cases kind : element.kind with
      | none =>
          simp only [updateElementReads, kind]
          rw [plain (by simp [kind]), octetsUpdated_complex]
          exact iff_of_true octetsBelow_zero (by simp)
      | some tag =>
          cases tag with
          | complex expected =>
              simp only [updateElementReads, kind, Option.some.injEq, DataTag.complex.injEq]
              by_cases same : type = expected
              · rw [if_pos same, forall_prop_of_true same.symm, nestedIff]
              · rw [if_neg same]
                exact iff_of_true (by simp) fun other => absurd other.symm same
          | _ =>
              simp only [updateElementReads, kind]
              rw [plain (by simp [kind]), octetsUpdated_complex]
              exact iff_of_true octetsBelow_zero (by simp)
  | _ =>
      unfold MmsValue.UpdateBelow updateElementReads
      split
      · contradiction
      · exact plain (by simp)

/-- What the loop reads lies below the limit exactly if what is left does. -/
theorem below_updateReads_iff {buffer allDataLength fuel bufPos : Nat}
    {done components : Components} (enough : allDataLength - bufPos ≤ fuel) :
    (∀ read ∈ updateReads memory fuel buffer allDataLength bufPos done.length
        (done ++ components), read.address < limit) ↔
      ComponentsBelow memory limit buffer allDataLength bufPos
        (elements memory buffer allDataLength allDataLength bufPos).elements components := by
  apply updateLoop_induction (motive := fun fuel buffer allDataLength bufPos done components =>
    (∀ read ∈ updateReads memory fuel buffer allDataLength bufPos done.length
        (done ++ components), read.address < limit) ↔
      ComponentsBelow memory limit buffer allDataLength bufPos
        (elements memory buffer allDataLength allDataLength bufPos).elements components)
  case ended =>
    intro fuel _ _ _ _ components ended
    rw [elements_end ended]
    have never := Nat.not_lt.mpr ended
    cases fuel with
    | zero => cases components <;> simp [updateReads, ComponentsBelow, never]
    | succ fuel =>
        rw [updateReads, if_neg never]
        cases components <;> simp [ComponentsBelow, never]
  case surplus =>
    intro _ _ _ _ _ inside
    simp [updateReads, ComponentsBelow, OctetRead.address, inside]
  case missing =>
    intro _ buffer _ bufPos _ _ inside
    simp [updateReads, MmsValue.getElement, ComponentsBelow, ComponentBelow, ComponentPasses,
      OctetRead.address, inside]
  case malformed =>
    intro _ _ _ _ _ _ _ inside decoded
    rw [updateReads_cons inside, below_behindFraming, decoded, elements_malformed inside decoded]
    simp [ComponentsBelow, inside, HeadBelow]
  case decoded =>
    intro fuel buffer _ bufPos start length _ value _ inside decoded short nested rest
    have accepted := @updateElement_passes_iff memory
      ⟨memory (buffer + bufPos), buffer + start, length⟩ fuel short value
    have first := @below_updateElementReads_iff memory limit
      ⟨memory (buffer + bufPos), buffer + start, length⟩
      (fun buffer allDataLength => updateReads memory fuel buffer allDataLength 0 0) nested value
    have finish : buffer + start + length - buffer = start + length := by omega
    rw [updateReads_cons inside, below_behindFraming, decoded, elements_next inside decoded,
      Scan.cons, componentsBelow_cons inside]
    dsimp only
    rw [List.forall_mem_append, first, ← accepted, finish]
    refine and_congr_right' (and_congr_right' ?_)
    split_ifs with failed
    · exact iff_of_true (by simp) fun passed => absurd passed failed
    · rw [rest, forall_prop_of_true (not_not.mp failed)]
  case enough => exact enough

/-- An update stays below the limit exactly if what is read of its elements does. -/
theorem below_parseAllDataReads_iff {address length : Nat} {components : Components} :
    (∀ read ∈ parseAllDataReads memory address length components, read.address < limit) ↔
      ComponentsBelow memory limit address length 0
        (elements memory address length length 0).elements components :=
  @below_updateReads_iff memory limit address length length 0 [] components (by omega)

theorem readsBelow_parseAllData_iff {address length : Nat} {components : Components} :
    (parseAllData memory address length components).Always (Access.ReadsBelow limit) ↔
      ComponentsBelow memory limit address length 0
        (elements memory address length length 0).elements components :=
  (below_iff_of_accounted (reads_parseAllData ..)).symm.trans below_parseAllDataReads_iff

end Updating

/-! ## Building a data set -/

/-- How many of its first octets are read when a value that has no components is built from an
element. -/
def Element.octetsBuilt (memory : Memory) (element : Element) : Nat :=
  match element.kind with
  | some .boolean => 1
  | some .bitString =>
    if element.length > 1 then if (memory element.address).toNat > 7 then 1 else element.length
    else 0
  | some .integer | some .unsigned => if element.length > 8 then 0 else element.length
  | some .float => if element.length = 9 ∨ element.length = 5 then element.length else 0
  | some .octetString | some .visibleString => element.length
  | some .binaryTime => if element.length = 4 ∨ element.length = 6 then element.length else 0
  | some .utcTime => if element.length = 8 then 8 else 0
  | some .accessResult | some (.complex _) | none => 0

/-- What is read to build a data set lies below a limit: the tags and lengths up to the first
element of no known kind, and the elements that values are built from. -/
inductive BuildBelow (memory : Memory) (limit : Nat) : (address length : Nat) → Prop
  | intro {address length : Nat}
      (framing : (Walk.delimiting fun element => element.kind.isSome).Below memory address length
        length limit () 0 (elements memory address length length 0).elements)
      (values : ∀ element, Reached memory address length element →
        OctetsBelow limit element.address (element.octetsBuilt memory))
      (components : ∀ element type, Reached memory address length element →
        element.kind = some (.complex type) →
          BuildBelow memory limit element.address element.length) :
      BuildBelow memory limit address length

/-- What is read to build a value from an element lies below a limit. -/
def Element.BuildBelow (memory : Memory) (limit : Nat) (element : Element) : Prop :=
  OctetsBelow limit element.address (element.octetsBuilt memory) ∧
    ∀ type, element.kind = some (.complex type) →
      GridGooseSV.BuildBelow memory limit element.address element.length

theorem buildBelow_iff {memory : Memory} {limit address length : Nat} :
    BuildBelow memory limit address length ↔
      (Walk.delimiting fun element => element.kind.isSome).Below memory address length length limit
          () 0 (elements memory address length length 0).elements ∧
        ∀ element, Reached memory address length element → element.BuildBelow memory limit := by
  constructor
  · rintro ⟨framing, values, components⟩
    exact ⟨framing, fun element reached =>
      ⟨values element reached, fun type kind => components element type reached kind⟩⟩
  · rintro ⟨framing, each⟩
    exact ⟨framing, fun element reached => (each element reached).1,
      fun element type reached => (each element reached).2 type⟩

section Building

variable {memory : Memory} {limit : Nat} {element : Element}

theorem readsBelow_createPrimitive_iff {address length : Nat} {value : Asn1PrimitiveValue}
    {wrap : Asn1PrimitiveValue → MmsValue} :
    (createPrimitive memory address length value wrap).Always (Access.ReadsBelow limit) ↔
      OctetsBelow limit address length := by
  unfold createPrimitive
  rw [Traced.always_bind, readsBelow_memcpy_iff]
  refine and_iff_left ?_
  split <;> exact Traced.always_pure _

/-- A value is built from an element below the limit exactly if the octets that are read are. -/
theorem readsBelow_createElement_iff {selfAllocated : Bool}
    {nested : Nat → Nat → Bool → Traced Access (Option Components × Bool)}
    (simple : ∀ type, element.kind ≠ some (.complex type)) :
    (createElement memory nested element.tag element.address element.length selfAllocated).Always
        (Access.ReadsBelow limit) ↔
      OctetsBelow limit element.address (element.octetsBuilt memory) := by
  unfold createElement Element.octetsBuilt
  unfold Element.kind at simple ⊢
  have nothing : ∀ result : Created × Bool,
      (pure result : Traced Access _).Always (Access.ReadsBelow limit) ↔
        OctetsBelow limit element.address 0 :=
    fun _ => iff_of_true (Traced.always_pure _) octetsBelow_zero
  cases kind : DataTag.ofOctet? element.tag with
  | none => exact nothing _
  | some tag =>
      cases tag with
      | accessResult => exact nothing _
      | complex type => exact absurd kind (simple type)
      | boolean =>
          dsimp only
          rw [Traced.always_bind, and_iff_left (Traced.always_pure _)]
          exact readsBelow_decodeBoolean_iff
      | bitString =>
          dsimp only
          by_cases long : element.length > 1
          · rw [if_pos long, if_pos long, Traced.always_bind, Memory.always_read,
              Memory.value_read]
            by_cases padding : (memory element.address).toNat > 7
            · rw [if_pos padding, if_pos padding, and_iff_left (Traced.always_pure _),
                octetsBelow_iff]
              exact ⟨fun below _ => below, fun below => below Nat.one_pos⟩
            · rw [if_neg padding, if_neg padding, Traced.always_bind, readsBelow_memcpy_iff,
                and_iff_left (Traced.always_pure _)]
              exact octetsBelow_bits_iff (by omega)
          · rw [if_neg long, if_neg long]
            exact nothing _
      | integer =>
          dsimp only
          split
          · exact nothing _
          · rw [Traced.always_bind, readsBelow_createPrimitive_iff,
              and_iff_left (Traced.always_pure _)]
      | unsigned =>
          dsimp only
          split
          · exact nothing _
          · rw [Traced.always_bind, readsBelow_createPrimitive_iff,
              and_iff_left (Traced.always_pure _)]
      | float =>
          dsimp only
          by_cases double : element.length = 9
          · rw [if_pos double, if_pos (.inl double), Traced.always_bind,
              readsBelow_decodeDouble_iff, and_iff_left (Traced.always_pure _), double]
          · by_cases single : element.length = 5
            · rw [if_neg double, if_pos single, if_pos (.inr single), Traced.always_bind,
                readsBelow_decodeFloat_iff, and_iff_left (Traced.always_pure _), single]
            · rw [if_neg double, if_neg single, if_neg (by omega)]
              exact nothing _
      | octetString =>
          dsimp only
          rw [Traced.always_bind, readsBelow_memcpy_iff, and_iff_left (Traced.always_pure _)]
      | visibleString =>
          dsimp only
          rw [Traced.always_bind, readsBelow_readOctets_iff, and_iff_left (Traced.always_pure _)]
      | binaryTime =>
          dsimp only
          split
          · rw [Traced.always_bind, readsBelow_memcpy_iff, and_iff_left (Traced.always_pure _)]
          · exact nothing _
      | utcTime =>
          dsimp only
          split
          · rw [Traced.always_bind, readsBelow_readOctets_iff, and_iff_left (Traced.always_pure _)]
          · exact nothing _

/-- Counting the elements of a data set delimits those of known kinds. -/
theorem readsBelow_countElements_iff {buffer allDataLength fuel bufPos elementIndex : Nat}
    (enough : allDataLength - bufPos ≤ fuel) :
    (countElements memory buffer allDataLength fuel bufPos elementIndex).Always
        (Access.ReadsBelow limit) ↔
      (Walk.delimiting fun element => element.kind.isSome).Below memory buffer allDataLength
        allDataLength limit () bufPos
        (elements memory buffer allDataLength allDataLength bufPos).elements := by
  refine Walk.below_iff (fun fuel elementIndex bufPos =>
    (countElements memory buffer allDataLength fuel bufPos elementIndex).Always
      (Access.ReadsBelow limit)) (fun _ _ _ => True) (fun elementIndex _ _ => elementIndex + 1)
    ?_ ?_ (fun _ _ _ _ => trivial) enough trivial
  · intro fuel elementIndex bufPos ended
    cases fuel with
    | zero => exact Traced.always_pure _
    | succ fuel =>
        rw [countElements, if_neg (Nat.not_lt.mpr ended)]
        exact Traced.always_pure _
  · intro fuel elementIndex walked bufPos _ inside
    rw [countElements, if_pos inside, always_head_iff readsBelow_int readsBelow_read_iff]
    refine and_congr_right' ?_
    rcases (decodeLength memory buffer allDataLength (bufPos + 1)).value with _ | ⟨start, length⟩
    · exact iff_of_true (Traced.always_pure _) (by simp)
    · cases kind : DataTag.ofOctet? (memory (buffer + bufPos)) with
      | none => simp [Walk.delimiting, Element.kind, kind]
      | some tag => simp [Walk.delimiting, Element.kind, kind]

/-- What is read for an element lies below the limit, if that is so for nested elements. -/
theorem below_createElementReads_iff {nested : Nat → Nat → Bool → List OctetRead}
    {selfAllocated : Bool}
    (nestedIff : (∀ read ∈ nested element.address element.length selfAllocated,
        read.address < limit) ↔ BuildBelow memory limit element.address element.length) :
    (∀ read ∈ createElementReads memory nested element selfAllocated, read.address < limit) ↔
      element.BuildBelow memory limit := by
  unfold createElementReads Element.BuildBelow
  split
  · rename_i type kind
    rw [nestedIff]
    have none : element.octetsBuilt memory = 0 := by
      unfold Element.octetsBuilt
      rw [kind]
    rw [none, and_iff_right octetsBelow_zero]
    exact ⟨fun below _ _ => below, fun below => below type kind⟩
  · rename_i simple
    rw [below_forming_iff, readsBelow_createElement_iff simple]
    exact (and_iff_left fun type kind => absurd kind (simple type)).symm

theorem below_createReads_iff {fuel address length : Nat} {selfAllocated : Bool}
    (enough : length < fuel) :
    (∀ read ∈ createReads memory fuel address length selfAllocated, read.address < limit) ↔
      BuildBelow memory limit address length := by
  refine @forall_createReads_iff memory (fun read => read.address < limit)
    (fun address length => (Walk.delimiting fun element => element.kind.isSome).Below memory address
      length length limit () 0 (elements memory address length length 0).elements)
    (Element.BuildBelow memory limit) (BuildBelow memory limit) (fun _ _ => buildBelow_iff)
    (fun address length position parts => (Walk.delimiting fun element =>
      element.kind.isSome).Below memory address length length limit () position parts)
    ?_ (fun _ _ => id) ?_ ?_ fuel address length selfAllocated enough
  · intro address length
    rw [below_framing_iff, readsBelow_countElements_iff (by omega)]
  · rintro address length position element rest kind ⟨head, _, behind⟩
    refine ⟨head.1, ?_, behind () (if_pos kind)⟩
    rw [below_framing_iff, always_decodeLength_iff readsBelow_int readsBelow_read_iff]
    exact head.2
  · exact fun _ _ _ => below_createElementReads_iff

/-- Building a data set stays below the limit exactly if what is read of its elements does. -/
theorem below_parseAllDataUnknownValueReads_iff {address length : Nat} {selfAllocated : Bool} :
    (∀ read ∈ parseAllDataUnknownValueReads memory address length selfAllocated,
        read.address < limit) ↔ BuildBelow memory limit address length :=
  below_createReads_iff (Nat.lt_succ_self _)

theorem readsBelow_parseAllDataUnknownValue_iff {address length : Nat} {selfAllocated : Bool} :
    (parseAllDataUnknownValue memory address length selfAllocated).Always
        (Access.ReadsBelow limit) ↔ BuildBelow memory limit address length :=
  (below_iff_of_accounted (reads_parseAllDataUnknownValue ..)).symm.trans
    below_parseAllDataUnknownValueReads_iff

end Building

/-! ## Data sets that were received whole -/

section Whole

variable {memory : Memory} {limit : Nat}

theorem octetsUpdated_le {element : Element} {value : MmsValue}
    (supplied : ComponentSupplied memory element (some value)) :
    element.octetsUpdated memory value ≤ element.length := by
  have given : ∀ kind, element.kind = some kind → value.Supplied memory element kind := supplied
  unfold Element.octetsUpdated
  cases known : element.kind with
  | none => exact Nat.zero_le _
  | some kind =>
      have here := given kind known
      cases value with
      | boolean _ =>
          cases kind with
          | boolean => exact here rfl
          | _ => exact Nat.zero_le _
      | bitString _ =>
          cases kind with
          | bitString =>
              have some := here rfl
              dsimp only
              split <;> omega
          | _ => exact Nat.zero_le _
      | _ =>
          cases kind <;> dsimp only <;>
            first | exact Nat.zero_le _ | exact Nat.le_refl _ | (split_ifs <;> omega)

theorem octetsBelow_updated {element : Element} {value : MmsValue}
    (supplied : ComponentSupplied memory element (some value))
    (whole : element.address + element.length ≤ limit) :
    OctetsBelow limit element.address (element.octetsUpdated memory value) := by
  have content := octetsUpdated_le supplied
  exact octetsBelow_iff.mpr fun _ => by omega

mutual

/-- An element that was received whole is read within what was received for a value that it
supplies. -/
theorem MmsValue.updateBelow_of_supplied : (value : MmsValue) → {element : Element} →
    ComponentSupplied memory element (some value) →
    element.address + element.length ≤ limit → value.UpdateBelow memory limit element
  | .complex type components, element, supplied, whole => by
      intro same
      exact componentsBelow_of_supplied components (supplied _ same rfl) whole
  | .dataAccessError _, _, supplied, whole => octetsBelow_updated supplied whole
  | .boolean _, _, supplied, whole => octetsBelow_updated supplied whole
  | .bitString _, _, supplied, whole => octetsBelow_updated supplied whole
  | .integer _, _, supplied, whole => octetsBelow_updated supplied whole
  | .unsigned _, _, supplied, whole => octetsBelow_updated supplied whole
  | .float _, _, supplied, whole => octetsBelow_updated supplied whole
  | .octetString _, _, supplied, whole => octetsBelow_updated supplied whole
  | .visibleString _, _, supplied, whole => octetsBelow_updated supplied whole
  | .string _, _, supplied, whole => octetsBelow_updated supplied whole
  | .binaryTime _, _, supplied, whole => octetsBelow_updated supplied whole
  | .utcTime _, _, supplied, whole => octetsBelow_updated supplied whole
  | .unsupported _, _, supplied, whole => octetsBelow_updated supplied whole

theorem componentsBelow_of_supplied : (components : Components) →
    {buffer length position : Nat} → ComponentsSupplied memory
      (elements memory buffer length length position).elements components →
    buffer + length ≤ limit → ComponentsBelow memory limit buffer length position
      (elements memory buffer length length position).elements components
  | [], buffer, length, position, _, whole => by
      intro inside
      omega
  | component :: rest, buffer, length, position, supplied, whole => by
      refine ⟨fun inside => ⟨by omega, fun _ => lengthBelow_of_within (by omega) _⟩, ?_⟩
      intro element others parts
      have scanned : elements memory buffer length length position =
          ⟨element :: others, (elements memory buffer length length position).complete⟩ := by
        rw [← parts]
      obtain ⟨inside, start, size, decoded, rfl, following⟩ := elements_eq_cons.mp scanned
      obtain ⟨_, ends⟩ := decodeLength_spec decoded
      have finish : buffer + start + size - buffer = start + size := by omega
      rw [parts, componentsSupplied_cons] at supplied
      refine ⟨?_, fun passes => ?_⟩
      · cases component with
        | none => trivial
        | some value =>
            exact MmsValue.updateBelow_of_supplied value supplied.1
              (show buffer + start + size ≤ limit by omega)
      · have later := @componentsBelow_of_supplied rest buffer length (start + size)
        rw [following] at later
        rw [finish]
        exact later (supplied.2 passes) whole

end

theorem octetsBuilt_le {element : Element}
    (given : element.kind = some .boolean → 0 < element.length) :
    element.octetsBuilt memory ≤ element.length := by
  unfold Element.octetsBuilt
  cases known : element.kind with
  | none => exact Nat.zero_le _
  | some kind =>
      cases kind with
      | boolean => exact given known
      | _ =>
          dsimp only
          first | exact Nat.zero_le _ | exact Nat.le_refl _ | (split_ifs <;> omega)

/-- A data set that was received whole is built within what was received, if no boolean is built
from an element without octets. -/
theorem buildBelow_of_nonempty {address length : Nat} (whole : address + length ≤ limit)
    (nonempty : ¬ ReachesEmptyBoolean memory address length) :
    BuildBelow memory limit address length := by
  induction length using Nat.strong_induction_on generalizing address with
  | _ length ih =>
      rw [reachesEmptyBoolean_iff] at nonempty
      rw [buildBelow_iff]
      refine ⟨(Walk.below_iff_asked (by omega) (by omega)).mpr (Walk.asked_delimiting _ _), ?_⟩
      intro element reached
      obtain ⟨given, components⟩ := nonempty element reached
      obtain ⟨first, rest, scanned, _⟩ := reached
      obtain ⟨behind, within⟩ := elements_within element (by rw [scanned]; simp)
      have content := @octetsBuilt_le memory element given
      refine ⟨octetsBelow_iff.mpr fun _ => by omega, fun type kind => ?_⟩
      exact ih element.length (by omega) (by omega) (components type kind)

end Whole

end GridGooseSV
