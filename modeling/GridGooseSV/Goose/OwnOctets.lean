import GridGooseSV.Goose.Acceptance
import GridGooseSV.Goose.Admission
import GridGooseSV.Goose.Reads
import GridGooseSV.Goose.Events

/-!
# Octets of other elements

A reader that takes a fixed number of octets does not ask for the length of its element. All but
three kinds of elements are tested for their length before: a boolean of no octets, a bit string of
no octets that is decoded into a bit string and a timestamp of fewer than eight are read past
their end.
-/

namespace GridGooseSV

open BerDecoder

section Ranges

variable {memory : Memory} {bottom top address : Nat}

theorem allowsReads_within (bottom top : Nat) :
    AllowsReads (Access.ReadsWithin bottom top) bottom top :=
  fun _ above below => ⟨above, below⟩

/-- Octets from the first on are read within an element exactly if it has as many. -/
theorem readsWithin_readOctets_iff {count length : Nat} :
    (memory.readOctets address count).Always
        (Access.ReadsWithin address (address + length)) ↔ count ≤ length := by
  rw [Memory.always_readOctets]
  constructor
  · intro within
    by_contra short
    obtain ⟨_, below⟩ := within (address + length) (by omega) (by omega)
    omega
  · intro enough position above below
    exact ⟨above, by omega⟩

theorem readsWithin_read_iff {length : Nat} :
    (memory.read address).Always (Access.ReadsWithin address (address + length)) ↔
      0 < length := by
  rw [Memory.always_read]
  exact ⟨fun within => Nat.lt_of_add_lt_add_left within.2, fun some => ⟨le_rfl, by omega⟩⟩

theorem readsWithin_decodeBoolean_iff {buffer bufPos length : Nat} :
    (decodeBoolean memory buffer bufPos).Always
        (Access.ReadsWithin (buffer + bufPos) (buffer + bufPos + length)) ↔ 0 < length := by
  unfold decodeBoolean
  rw [Traced.always_bind, readsWithin_read_iff]
  exact and_iff_left (Traced.always_pure _)

end Ranges

/-- What is read for the value of an element is its own. -/
theorem own_forming_iff {α : Type} {element : Element} {computation : Traced Access α} :
    (∀ read ∈ forming element computation, read.Own) ↔ computation.Always
      (Access.ReadsWithin element.address (element.address + element.length)) := by
  rw [Traced.always_iff_forall_reads]
  · simp [forming, OctetRead.Own, Access.ReadsWithin]
  · rintro event unread
    cases event with
    | read address => contradiction
    | _ => trivial

theorem own_framing {α : Type} (computation : Traced Access α) :
    ∀ read ∈ framing computation, read.Own := by
  simp [framing, OctetRead.Own]

/-- What delimits the next element belongs to no value. -/
theorem own_behindFraming {α : Type} {address : Nat} {computation : Traced Access α}
    {reads : List OctetRead} :
    (∀ read ∈ .framing address :: (framing computation ++ reads), read.Own) ↔
      ∀ read ∈ reads, read.Own := by
  rw [List.forall_mem_cons, List.forall_mem_append, and_iff_right (own_framing _)]
  exact and_iff_right trivial

/-! ## Updating a data set -/

mutual

/-- A boolean or bit string is not decoded from an element without octets. -/
def MmsValue.Supplied (memory : Memory) (element : Element) (kind : DataTag) : MmsValue → Prop
  | .complex type components => kind = .complex type →
    ComponentsSupplied memory
      (elements memory element.address element.length element.length 0).elements components
  | .boolean _ => kind = .boolean → 0 < element.length
  | .bitString _ => kind = .bitString → 0 < element.length
  | _ => True

/-- The same for the elements of components, up to the first that does not pass. -/
def ComponentsSupplied (memory : Memory) (parts : List Element) : Components → Prop
  | [] => True
  | component :: rest => ∀ element others, parts = element :: others →
    ComponentSupplied memory element component ∧
      (ComponentPasses memory element component → ComponentsSupplied memory others rest)

def ComponentSupplied (memory : Memory) (element : Element) : Option MmsValue → Prop
  | none => True
  | some value => ∀ kind, element.kind = some kind → value.Supplied memory element kind

end

theorem componentsSupplied_cons {memory : Memory} {element : Element} {others : List Element}
    {component : Option MmsValue} {rest : Components} :
    ComponentsSupplied memory (element :: others) (component :: rest) ↔
      ComponentSupplied memory element component ∧
        (ComponentPasses memory element component → ComponentsSupplied memory others rest) := by
  rw [ComponentsSupplied]
  constructor
  · exact fun supplied => supplied element others rfl
  · rintro supplied _ _ ⟨⟩
    exact supplied

section Updating

variable {memory : Memory} {element : Element}

/-- What is read for an element is its own exactly if it has octets where one is always read. -/
theorem own_updateElementReads_iff {nested : Nat → Nat → Components → List OctetRead}
    (nestedIff : ∀ components, (∀ read ∈ nested element.address element.length components,
        read.Own) ↔
      ComponentsSupplied memory
        (elements memory element.address element.length element.length 0).elements components)
    (value : MmsValue) :
    (∀ read ∈ updateElementReads memory nested element value, read.Own) ↔
      ComponentSupplied memory element (some value) := by
  have plain : element.kind ≠ some .boolean → element.kind ≠ some .bitString →
      ∀ read ∈ forming element (updateElement memory
        (fun _ _ components => pure (.noError, components)) element.tag element.address
        element.length value), read.Own := by
    intro noBoolean noBits
    rw [own_forming_iff]
    apply always_updateElement (allowsReads_within _ _) fun _ _ _ => []
    case leading => exact fun either => absurd either (not_or.mpr ⟨noBoolean, noBits⟩)
    case copies => exact fun _ _ _ => trivial
    case inner => exact fun _ _ => Traced.always_pure _
  unfold ComponentSupplied updateElementReads
  cases kind : element.kind with
  | none => exact iff_of_true (plain (by simp [kind]) (by simp [kind])) (by simp)
  | some tag =>
      simp only [Option.some.injEq, forall_eq']
      cases tag with
      | complex expected =>
          cases value with
          | complex type components =>
              by_cases same : type = expected
              · subst same
                simp [MmsValue.Supplied, nestedIff]
              · simp [MmsValue.Supplied, same, Ne.symm same]
          | _ =>
              refine iff_of_true (plain (by simp [kind]) (by simp [kind])) ?_
              simp [MmsValue.Supplied]
      | boolean =>
          unfold Element.kind at kind
          simp only [own_forming_iff, updateElement, kind]
          cases value with
          | boolean _ =>
              rw [MmsValue.Supplied, forall_prop_of_true rfl, Traced.always_bind]
              refine (and_iff_left (Traced.always_pure _)).trans ?_
              exact @readsWithin_decodeBoolean_iff memory element.address 0 element.length
          | _ => exact iff_of_true (Traced.always_pure _) (by simp [MmsValue.Supplied])
      | bitString =>
          unfold Element.kind at kind
          simp only [own_forming_iff, updateElement, kind]
          cases value with
          | bitString bits =>
              rw [MmsValue.Supplied, forall_prop_of_true rfl, Traced.always_bind,
                readsWithin_read_iff]
              refine and_iff_left_of_imp fun some => .ite (fun _ => ?_) fun _ =>
                Traced.always_pure _
              exact .bind (always_memcpy ((allowsReads_within _ _).within (by omega) (by omega))
                trivial) (Traced.always_pure _)
          | _ => exact iff_of_true (Traced.always_pure _) (by simp [MmsValue.Supplied])
      | _ =>
          refine iff_of_true (plain (by simp [kind]) (by simp [kind])) ?_
          cases value <;> simp [MmsValue.Supplied]

/-- What is read for the next element and the next component, and behind them. -/
theorem updateReads_cons {buffer allDataLength fuel bufPos : Nat}
    (inside : bufPos < allDataLength) (done : Components) (value : MmsValue)
    (rest : Components) :
    updateReads memory (fuel + 1) buffer allDataLength bufPos done.length
        (done ++ some value :: rest) =
      let decoded := decodeLength memory buffer allDataLength (bufPos + 1)
      .framing (buffer + bufPos) :: (framing decoded ++
        match decoded.value with
        | none => []
        | some (start, length) =>
          let element : Element := ⟨memory (buffer + bufPos), buffer + start, length⟩
          let after := (updateElement memory
            (fun buffer allDataLength => updateLoop memory fuel buffer allDataLength 0 0)
            element.tag element.address element.length value).value
          updateElementReads memory
              (fun buffer allDataLength => updateReads memory fuel buffer allDataLength 0 0)
              element value ++
            if after.1 ≠ .noError then []
            else
              let done := done ++ [some after.2]
              updateReads memory fuel buffer allDataLength (start + length) done.length
                (done ++ rest)) := by
  have read := updateReads.eq_2 memory buffer allDataLength bufPos done.length
    (done ++ some value :: rest) fuel
  rw [if_pos inside, if_neg (by simp)] at read
  simp only [getElement_boundary, set_boundary, List.length_append, List.length_singleton,
    List.append_assoc, List.singleton_append] at read ⊢
  exact read

/-- What the loop reads is its own exactly if what is left is supplied. -/
theorem own_updateReads_iff {buffer allDataLength fuel bufPos : Nat}
    {done components : Components} (enough : allDataLength - bufPos ≤ fuel) :
    (∀ read ∈ updateReads memory fuel buffer allDataLength bufPos done.length
        (done ++ components), read.Own) ↔
      ComponentsSupplied memory
        (elements memory buffer allDataLength allDataLength bufPos).elements components := by
  apply updateLoop_induction (motive := fun fuel buffer allDataLength bufPos done components =>
    (∀ read ∈ updateReads memory fuel buffer allDataLength bufPos done.length
        (done ++ components), read.Own) ↔
      ComponentsSupplied memory
        (elements memory buffer allDataLength allDataLength bufPos).elements components)
  case ended =>
    intro fuel _ _ _ _ components ended
    rw [elements_end ended]
    cases fuel with
    | zero => cases components <;> simp [updateReads, ComponentsSupplied]
    | succ fuel =>
        rw [updateReads, if_neg (Nat.not_lt.mpr ended)]
        cases components <;> simp [ComponentsSupplied]
  case surplus =>
    intro _ _ _ _ _ _
    simp [updateReads, ComponentsSupplied, OctetRead.Own]
  case missing =>
    intro _ _ _ _ _ _ _
    simp [updateReads, MmsValue.getElement, ComponentsSupplied, ComponentSupplied,
      ComponentPasses, OctetRead.Own]
  case malformed =>
    intro _ _ _ _ _ _ _ inside decoded
    rw [updateReads_cons inside, own_behindFraming, decoded, elements_malformed inside decoded]
    simp [ComponentsSupplied]
  case decoded =>
    intro fuel buffer _ bufPos start length _ value _ inside decoded short nested rest
    have accepted := @updateElement_passes_iff memory
      ⟨memory (buffer + bufPos), buffer + start, length⟩ fuel short value
    have first := @own_updateElementReads_iff memory
      ⟨memory (buffer + bufPos), buffer + start, length⟩
      (fun buffer allDataLength => updateReads memory fuel buffer allDataLength 0 0) nested value
    rw [updateReads_cons inside, own_behindFraming, decoded, elements_next inside decoded,
      Scan.cons, componentsSupplied_cons]
    dsimp only
    rw [List.forall_mem_append, first, ← accepted]
    refine and_congr_right' ?_
    split_ifs with failed
    · exact iff_of_true (by simp) fun passed => absurd passed failed
    · rw [rest, forall_prop_of_true (not_not.mp failed)]
  case enough => exact enough

/-- An update reads for every value octets of its own element exactly if no boolean and no bit
string is decoded from an element without octets. -/
theorem own_parseAllDataReads_iff {address length : Nat} {components : Components} :
    (∀ read ∈ parseAllDataReads memory address length components, read.Own) ↔
      ComponentsSupplied memory (elements memory address length length 0).elements components :=
  @own_updateReads_iff memory address length length 0 [] components (by omega)

end Updating

/-! ## Building a data set -/

/-- A value is built from an element: every element is known, and those in front of it are
admitted. -/
def Reached (memory : Memory) (address length : Nat) (element : Element) : Prop :=
  ∃ first rest, elements memory address length length 0 = ⟨first ++ element :: rest, true⟩ ∧
    (∀ part ∈ first ++ element :: rest, part.kind.isSome) ∧
    ∀ part ∈ first, part.Admitted memory

/-- A boolean is built from an element without octets. -/
inductive ReachesEmptyBoolean (memory : Memory) : (address length : Nat) → Prop
  | here {address length : Nat} {element : Element}
      (reached : Reached memory address length element) (kind : element.kind = some .boolean)
      (empty : element.length = 0) : ReachesEmptyBoolean memory address length
  | inside {address length : Nat} {element : Element} {type : ComplexType}
      (reached : Reached memory address length element)
      (kind : element.kind = some (.complex type))
      (inner : ReachesEmptyBoolean memory element.address element.length) :
      ReachesEmptyBoolean memory address length

/-- No boolean is built from an element without octets, and none inside it. -/
def Element.Nonempty (memory : Memory) (element : Element) : Prop :=
  (element.kind = some .boolean → 0 < element.length) ∧
    ∀ type, element.kind = some (.complex type) →
      ¬ ReachesEmptyBoolean memory element.address element.length

theorem reachesEmptyBoolean_iff {memory : Memory} {address length : Nat} :
    ¬ ReachesEmptyBoolean memory address length ↔
      ∀ element, Reached memory address length element → element.Nonempty memory := by
  constructor
  · intro never element reached
    refine ⟨fun kind => Nat.pos_of_ne_zero fun empty => never (.here reached kind empty), ?_⟩
    exact fun type kind inner => never (.inside reached kind inner)
  · intro all reaches
    cases reaches with
    | here reached kind empty =>
        have some := (all _ reached).1 kind
        omega
    | inside reached kind inner => exact (all _ reached).2 _ kind inner

section Building

variable {memory : Memory} {element : Element}

/-- What is read for an element is its own exactly if it is not empty, if that is so for nested
elements. -/
theorem own_createElementReads_iff {nested : Nat → Nat → Bool → List OctetRead}
    {selfAllocated : Bool}
    (nestedIff : (∀ read ∈ nested element.address element.length selfAllocated, read.Own) ↔
      ¬ ReachesEmptyBoolean memory element.address element.length) :
    (∀ read ∈ createElementReads memory nested element selfAllocated, read.Own) ↔
      element.Nonempty memory := by
  have always : ∀ {tag : DataTag}, element.kind = some tag → tag ≠ .boolean →
      (∀ type, tag ≠ .complex type) → element.Nonempty memory := by
    intro tag kind other simple
    refine ⟨fun boolean => absurd (Option.some.inj (kind.symm.trans boolean)) other, ?_⟩
    exact fun type complex => absurd (Option.some.inj (kind.symm.trans complex)) (simple type)
  have plain : element.kind ≠ some .boolean → (∀ type, element.kind ≠ some (.complex type)) →
      ∀ read ∈ forming element (createElement memory (fun _ _ flag => pure (none, flag))
        element.tag element.address element.length selfAllocated), read.Own := by
    intro noBoolean noComplex
    rw [own_forming_iff]
    apply always_createElement (allowsReads_within _ _)
    case leading => exact fun boolean => absurd boolean noBoolean
    case copies => exact fun _ _ => trivial
    case inner => exact fun _ => Traced.always_pure _
  unfold createElementReads
  cases kind : element.kind with
  | none =>
      refine iff_of_true (plain (by simp [kind]) (by simp [kind])) ⟨by simp [kind], by simp [kind]⟩
  | some tag =>
      cases tag with
      | complex type =>
          dsimp only
          rw [nestedIff]
          constructor
          · exact fun never => ⟨by simp [kind], fun _ _ => never⟩
          · exact fun nonempty => nonempty.2 type kind
      | boolean =>
          have known := kind
          unfold Element.kind at kind
          simp only [own_forming_iff, createElement, kind]
          rw [Traced.always_bind]
          refine (and_iff_left (Traced.always_pure _)).trans ?_
          refine (@readsWithin_decodeBoolean_iff memory element.address 0 element.length).trans ?_
          exact ⟨fun some => ⟨fun _ => some, by simp [known]⟩, fun nonempty => nonempty.1 known⟩
      | _ =>
          refine iff_of_true (plain (by simp [kind]) (by simp [kind])) ?_
          exact always kind (by simp) (by simp)

/-- What holds of each item that only items of some kind stand in front of. -/
theorem forall_reached_cons {α : Type} {passes property : α → Prop} {item : α} {items : List α} :
    (∀ first element rest, item :: items = first ++ element :: rest →
        (∀ other ∈ first, passes other) → property element) ↔
      property item ∧ (passes item → ∀ first element rest, items = first ++ element :: rest →
        (∀ other ∈ first, passes other) → property element) := by
  constructor
  · intro all
    refine ⟨all [] item items rfl (by simp), ?_⟩
    rintro passed first element rest rfl before
    exact all (item :: first) element rest rfl (List.forall_mem_cons.mpr ⟨passed, before⟩)
  · rintro ⟨here, later⟩ first element rest split before
    cases first with
    | nil =>
        obtain ⟨rfl, _⟩ := List.cons.inj split
        exact here
    | cons other first =>
        obtain ⟨rfl, rest⟩ := List.cons.inj split
        obtain ⟨passed, before⟩ := List.forall_mem_cons.mp before
        exact later passed first element _ rest before

section Loops

variable {property : OctetRead → Prop}

/-- What the second loop reads has a property exactly if what the elements that it reaches are
built from has it: their tags and lengths were read before. -/
theorem forall_fillReads_iff
    {build : Nat → Nat → Bool → Traced Access (Option Components × Bool)}
    {nested : Nat → Nat → Bool → List OctetRead} {buffer allDataLength : Nat}
    {framed : Nat → List Element → Prop} {holds : Element → Prop}
    (heads : ∀ position element rest, element.kind.isSome → framed position (element :: rest) →
      property (.framing (buffer + position)) ∧
      (∀ read ∈ framing (decodeLength memory buffer allDataLength (position + 1)), property read) ∧
        framed (element.address + element.length - buffer) rest)
    {parts : List Element} {fuel bufPos : Nat} {selfAllocated : Bool}
    (enough : allDataLength - bufPos ≤ fuel)
    (scanned : elements memory buffer allDataLength allDataLength bufPos = ⟨parts, true⟩)
    (known : ∀ part ∈ parts, part.kind.isSome) (framing : framed bufPos parts)
    (given : ∀ part ∈ parts, ∀ selfAllocated, (createElement memory build part.tag part.address
      part.length selfAllocated).value.1 = .error ↔ ¬ part.Admitted memory)
    (each : ∀ part ∈ parts, ∀ selfAllocated,
      (∀ read ∈ createElementReads memory nested part selfAllocated, property read) ↔
        holds part) :
    (∀ read ∈ fillReads memory build nested buffer allDataLength fuel bufPos selfAllocated,
        property read) ↔
      ∀ first element rest, parts = first ++ element :: rest →
        (∀ part ∈ first, part.Admitted memory) → holds element := by
  induction parts generalizing fuel bufPos selfAllocated with
  | nil =>
      have ended := elements_eq_nil.mp scanned
      refine iff_of_true ?_ (by simp)
      cases fuel with
      | zero => simp [fillReads]
      | succ fuel => simp [fillReads, Nat.not_lt.mpr ended]
  | cons element rest ih =>
      obtain ⟨inside, start, length, decoded, rfl, following⟩ := elements_eq_cons.mp scanned
      have later := decodeLength_advances decoded
      obtain ⟨first, others⟩ := List.forall_mem_cons.mp given
      obtain ⟨here, behind⟩ := List.forall_mem_cons.mp each
      obtain ⟨kind, kinds⟩ := List.forall_mem_cons.mp known
      obtain ⟨tag, octets, framingBehind⟩ := heads _ _ _ kind framing
      have finish : buffer + start + length - buffer = start + length := by omega
      rw [finish] at framingBehind
      have admitted := first selfAllocated
      cases fuel with
      | zero => omega
      | succ fuel =>
          rw [fillReads, if_pos inside]
          dsimp only
          rw [List.forall_mem_cons, and_iff_right tag, List.forall_mem_append,
            and_iff_right octets, decoded, List.forall_mem_append, here, forall_reached_cons]
          refine and_congr_right' ?_
          rcases created : (createElement memory build (memory (buffer + bufPos))
            (buffer + start) length selfAllocated).value with ⟨_ | _ | value, after⟩
          · rw [created] at admitted
            exact iff_of_true (by simp) fun passed => absurd passed (admitted.mp rfl)
          · rw [created] at admitted
            rw [forall_prop_of_true (not_not.mp (mt admitted.mpr (by simp)))]
            exact ih (by omega) following kinds framingBehind others behind
          · rw [created] at admitted
            rw [forall_prop_of_true (not_not.mp (mt admitted.mpr (by simp)))]
            exact ih (by omega) following kinds framingBehind others behind

/-- What is read to build a data set has a property exactly if the tags and lengths that the first
loop reads have it, and what the elements that are reached are built from. -/
theorem forall_createReads_iff {counted : Nat → Nat → Prop} {holds : Element → Prop}
    {built : Nat → Nat → Prop}
    (builtIff : ∀ address length, built address length ↔ counted address length ∧
      ∀ element, Reached memory address length element → holds element)
    {framed : Nat → Nat → Nat → List Element → Prop}
    (counting : ∀ address length, (∀ read ∈ framing (countElements memory address length length 0
      0), property read) ↔ counted address length)
    (begins : ∀ address length, counted address length →
      framed address length 0 (elements memory address length length 0).elements)
    (heads : ∀ address length position element rest, element.kind.isSome →
      framed address length position (element :: rest) →
      property (.framing (address + position)) ∧
      (∀ read ∈ framing (decodeLength memory address length (position + 1)), property read) ∧
        framed address length (element.address + element.length - address) rest)
    (each : ∀ (nested : Nat → Nat → Bool → List OctetRead) (element : Element)
      (selfAllocated : Bool),
      ((∀ read ∈ nested element.address element.length selfAllocated, property read) ↔
        built element.address element.length) →
      ((∀ read ∈ createElementReads memory nested element selfAllocated, property read) ↔
        holds element))
    {fuel address length : Nat} {selfAllocated : Bool} (enough : length < fuel) :
    (∀ read ∈ createReads memory fuel address length selfAllocated, property read) ↔
      built address length := by
  induction fuel generalizing address length selfAllocated with
  | zero => omega
  | succ fuel ih =>
      have known := @countElements_isSome_iff memory address length length 0 0 (by omega)
      rw [createReads, List.forall_mem_append, counting, builtIff]
      refine and_congr_right fun framing => ?_
      replace framing := begins address length framing
      by_cases counted : (countElements memory address length length 0 0).value.isSome
      · obtain ⟨parts, scanned, known⟩ := known.mp counted
        have shorter : ∀ part ∈ parts, part.length < fuel := by
          intro part member
          obtain ⟨behind, within⟩ := elements_within part (by rw [scanned]; exact member)
          omega
        rw [scanned] at framing
        rw [if_pos counted, forall_fillReads_iff (heads address length) (by omega) scanned known
          framing (fun part member => createElement_error_iff fun _ =>
            createLoop_isSome_iff (shorter part member))
          (fun part member _ => each _ _ _ (ih (shorter part member)))]
        constructor
        · rintro all element ⟨first, rest, same, _, before⟩
          obtain ⟨rfl, _⟩ := Scan.mk.inj (scanned.symm.trans same)
          exact all first element rest rfl before
        · rintro all first element rest rfl before
          exact all element ⟨first, rest, scanned, known, before⟩
      · rw [if_neg counted]
        refine iff_of_true (by simp) ?_
        rintro element ⟨first, rest, same, kinds, _⟩
        exact absurd (known.mpr ⟨_, same, kinds⟩) counted

end Loops

theorem own_createReads_iff {fuel address length : Nat} {selfAllocated : Bool}
    (enough : length < fuel) :
    (∀ read ∈ createReads memory fuel address length selfAllocated, read.Own) ↔
      ¬ ReachesEmptyBoolean memory address length := by
  refine @forall_createReads_iff memory OctetRead.Own (fun _ _ => True)
    (Element.Nonempty memory) (fun address length => ¬ ReachesEmptyBoolean memory address length)
    ?_ (fun _ _ _ _ => True) ?_ ?_ ?_ ?_ fuel address length selfAllocated enough
  · intro address length
    rw [reachesEmptyBoolean_iff, true_and]
  · exact fun _ _ => iff_true_intro (own_framing _)
  · exact fun _ _ _ => trivial
  · exact fun _ _ _ _ _ _ _ => ⟨trivial, own_framing _, trivial⟩
  · exact fun _ _ _ => own_createElementReads_iff

/-- Building reads for every value octets of its own element exactly if no boolean is built from
an element without octets. -/
theorem own_parseAllDataUnknownValueReads_iff {address length : Nat} {selfAllocated : Bool} :
    (∀ read ∈ parseAllDataUnknownValueReads memory address length selfAllocated, read.Own) ↔
      ¬ ReachesEmptyBoolean memory address length :=
  own_createReads_iff (Nat.lt_succ_self _)

end Building

/-! ## Parsing a PDU -/

/-- The elements of a PDU that are read: up to the first reference that no subscriber has. -/
def readElements (memory : Memory) (subscribers : List GooseSubscriber) :
    List Element → Option Nat → List Element
  | [], _ => []
  | element :: rest, matching =>
    let matching := matchAfter memory subscribers element matching
    element :: if goesOn element matching then readElements memory subscribers rest matching else []

/-- An element of which one octet is read as a flag has that octet. -/
def Element.FlagGiven (element : Element) : Prop :=
  element.pduTag = some .simulation ∨ element.pduTag = some .ndsCom → 0 < element.length

namespace GooseSubscriber

/-- Nothing empty is decoded into a boolean or bit string of the data set of a frame. -/
def DataSetSupplied (self : GooseSubscriber) (memory : Memory) (pdu : GoosePdu) : Prop :=
  let address := pdu.dataSetBufferAddress.getD 0
  let length := pdu.dataSetBufferLength
  match self.keptDataSet pdu.confRev with
  | none => ¬ ReachesEmptyBoolean memory address length
  | some dataSetValues =>
    ComponentsSupplied memory (elements memory address length length 0).elements dataSetValues

/-- The timestamp of a frame has eight octets and its data set is supplied. -/
structure DeliverySupplied (self : GooseSubscriber) (memory : Memory) (elements : List Element) :
    Prop where
  timestamp : ∀ element ∈ timestampElement elements, 8 ≤ element.length
  dataSet : self.DataSetSupplied memory (GoosePdu.ofElements memory elements)

end GooseSubscriber

/-- Every value that is read from the PDU of an APDU has the octets that are read for it. -/
structure PayloadSupplied (subscribers : List GooseSubscriber) (memory : Memory) (buffer : Nat)
    (apduLength : Int) : Prop where
  flags : ∀ element ∈ readElements memory subscribers
    (pduElements memory buffer apduLength).elements none, element.FlagGiven
  delivery : ∀ index subscriber,
    target memory (pduElements memory buffer apduLength) subscribers = some index →
    subscribers[index]? = some subscriber →
    subscriber.DeliverySupplied memory (pduElements memory buffer apduLength).elements

theorem readElements_congr {memory : Memory} {first second : List GooseSubscriber}
    (alike : SelectAlike first second) (elements : List Element) (matching : Option Nat) :
    readElements memory first elements matching = readElements memory second elements matching := by
  induction elements generalizing matching with
  | nil => rfl
  | cons element rest ih =>
      rw [readElements, readElements, matchAfter_congr alike]
      simp only [ih]

section Parsing

variable {memory : Memory}

/-- What is read for an element of the PDU is its own exactly if a flag has its octet. -/
theorem own_element_iff (element : Element) (state : PayloadState) :
    (∀ read ∈ forming element
        (state.element memory element.tag element.address element.length), read.Own) ↔
      element.FlagGiven := by
  have flag : (decodeBoolean memory 0 element.address).Always
      (Access.ReadsWithin element.address (element.address + element.length)) ↔
        0 < element.length := by
    have within := @readsWithin_decodeBoolean_iff memory 0 element.address element.length
    rwa [Nat.zero_add] at within
  rw [own_forming_iff]
  unfold Element.FlagGiven
  by_cases either : element.pduTag = some .simulation ∨ element.pduTag = some .ndsCom
  · rw [forall_prop_of_true either, ← flag]
    unfold Element.pduTag at either
    rcases either with kind | kind
    · simp only [PayloadState.element, kind, PayloadState.absorb, Traced.always_bind,
        Traced.always_pure, and_true]
    · simp only [PayloadState.element, kind, PayloadState.absorb, Traced.always_bind,
        Traced.always_pure, and_true]
  · refine iff_of_true ?_ fun given => absurd given either
    apply always_element (allowsReads_within _ _)
    case leading => exact fun given => absurd given either
    case copies => exact fun _ _ => trivial

/-- What the loop reads is its own exactly if every flag that is read has its octet. -/
theorem own_elementLoopReads_iff {buffer : Nat} {apduLength : Int} {gooseEnd fuel bufPos : Nat}
    (enough : gooseEnd - bufPos ≤ fuel) (state : PayloadState) :
    (∀ read ∈ elementLoopReads memory buffer apduLength gooseEnd fuel bufPos state, read.Own) ↔
      ∀ element ∈ readElements memory state.subscriberList
        (elements memory buffer apduLength gooseEnd bufPos).elements state.matchingSubscriber,
        element.FlagGiven := by
  induction fuel generalizing bufPos state with
  | zero =>
      rw [elements_end (by omega)]
      simp [elementLoopReads, readElements]
  | succ fuel ih =>
      by_cases inside : bufPos < gooseEnd
      · rw [elementLoopReads, if_pos inside]
        dsimp only
        rw [own_behindFraming]
        rcases decoded : (decodeLength memory buffer apduLength (bufPos + 1)).value with
          _ | ⟨start, length⟩
        · rw [elements_malformed inside decoded]
          simp [readElements]
        · have later := decodeLength_advances decoded
          rw [elements_next inside decoded, Scan.cons, readElements, List.forall_mem_cons,
            List.forall_mem_append]
          obtain ⟨first, matching, pdu, each⟩ := value_element memory
            ⟨memory (buffer + bufPos), buffer + start, length⟩ state
          refine and_congr
            (own_element_iff ⟨memory (buffer + bufPos), buffer + start, length⟩ state) ?_
          rcases step : (state.element memory (memory (buffer + bufPos)) (buffer + start)
            length).value with ⟨after, continues⟩
          simp only [step] at first matching pdu each ⊢
          have alike : SelectAlike state.subscriberList after.subscriberList :=
            selectAlike_of_withStrings (fun index => (_, _, _)) each
          rw [← first, ← matching, readElements_congr alike]
          by_cases goes : continues = true
          · rw [if_pos goes, if_pos goes]
            exact ih (by omega) after
          · rw [if_neg goes, if_neg goes]
            simp
      · rw [elements_end (by omega), elementLoopReads, if_neg inside]
        simp [readElements]

theorem own_dataSetReads_iff (self : GooseSubscriber) (pdu : GoosePdu) :
    (∀ read ∈ self.dataSetReads memory pdu, read.Own) ↔ self.DataSetSupplied memory pdu := by
  unfold GooseSubscriber.dataSetReads GooseSubscriber.DataSetSupplied
  cases self.keptDataSet pdu.confRev with
  | none => exact own_parseAllDataUnknownValueReads_iff
  | some dataSetValues => exact own_parseAllDataReads_iff

theorem own_deliverReads_iff (self : GooseSubscriber) (elements : List Element) :
    (∀ read ∈ self.deliverReads memory elements, read.Own) ↔
      self.DeliverySupplied memory elements := by
  unfold GooseSubscriber.deliverReads
  rw [List.forall_mem_append, own_dataSetReads_iff]
  constructor
  · rintro ⟨timestamp, dataSet⟩
    refine ⟨fun element given => ?_, dataSet⟩
    rw [Option.mem_def.mp given] at timestamp
    simpa only [own_forming_iff, readsWithin_readOctets_iff] using timestamp
  · rintro ⟨timestamp, dataSet⟩
    refine ⟨?_, dataSet⟩
    cases given : timestampElement elements with
    | none => simp
    | some element =>
        simp only [own_forming_iff, readsWithin_readOctets_iff]
        exact timestamp element given

/-- Parsing reads for every value octets of its own element exactly if every value that is read has
the octets that are read for it. -/
theorem own_parseGoosePayloadReads_iff {subscribers : List GooseSubscriber} {buffer : Nat}
    {apduLength : Int} :
    (∀ read ∈ parseGoosePayloadReads subscribers memory buffer apduLength, read.Own) ↔
      PayloadSupplied subscribers memory buffer apduLength := by
  have nothing : pduElements memory buffer apduLength = ⟨[], false⟩ →
      PayloadSupplied subscribers memory buffer apduLength := by
    intro none
    refine ⟨by simp [none, readElements], fun index subscriber found => ?_⟩
    simp [none, target] at found
  rw [parseGoosePayloadReads, List.forall_mem_cons,
    and_iff_right (show (OctetRead.framing _).Own from trivial)]
  by_cases tag : memory buffer = 0x61
  · rw [if_pos tag]
    dsimp only
    rw [List.forall_mem_append, and_iff_right (own_framing _)]
    rcases decoded : (decodeLength memory buffer apduLength 1).value with _ | ⟨start, length⟩
    · exact iff_of_true (by simp) (nothing (by simp [pduElements, tag, decoded]))
    · have scan : pduElements memory buffer apduLength =
          elements memory buffer apduLength (start + length) start := by
        simp [pduElements, tag, decoded]
      rw [List.forall_mem_append, own_elementLoopReads_iff (by omega)]
      dsimp only
      rw [← scan]
      constructor
      · rintro ⟨flags, delivery⟩
        refine ⟨flags, fun index subscriber found present => ?_⟩
        simp only [found, present, own_deliverReads_iff] at delivery
        exact delivery
      · rintro ⟨flags, delivery⟩
        refine ⟨flags, ?_⟩
        cases found : target memory (pduElements memory buffer apduLength) subscribers with
        | none => simp
        | some index =>
            cases present : subscribers[index]? with
            | none => simp [present]
            | some subscriber =>
                simp only [present, own_deliverReads_iff]
                exact delivery index subscriber found present
  · rw [if_neg tag]
    exact iff_of_true (by simp) (nothing (by simp [pduElements, tag]))

end Parsing

/-! ## The decoders -/

/-- A computation reads the given octets, and for every value octets of its own element. -/
structure ReadsOwn {α : Type} (computation : Traced Access α) (reads : List OctetRead) :
    Prop where
  accounted : computation.reads = reads.map OctetRead.address
  own : ∀ read ∈ reads, read.Own

/-- The decoders read for every value octets of its own element exactly if no element is empty of
which one octet is always read, and a timestamp has its eight octets. -/
theorem decoders_readOwn_iff (memory : Memory) :
    (∀ subscribers buffer apduLength now,
      ReadsOwn (parseGoosePayload subscribers memory buffer apduLength now)
          (parseGoosePayloadReads subscribers memory buffer apduLength) ↔
        PayloadSupplied subscribers memory buffer apduLength) ∧
    (∀ address length dataSetValues,
      ReadsOwn (parseAllData memory address length dataSetValues)
          (parseAllDataReads memory address length dataSetValues) ↔
        ComponentsSupplied memory (elements memory address length length 0).elements
          dataSetValues) ∧
    ∀ address length selfAllocated,
      ReadsOwn (parseAllDataUnknownValue memory address length selfAllocated)
          (parseAllDataUnknownValueReads memory address length selfAllocated) ↔
        ¬ ReachesEmptyBoolean memory address length := by
  refine ⟨?_, ?_, ?_⟩
  · intro subscribers buffer apduLength now
    rw [← own_parseGoosePayloadReads_iff]
    exact ⟨ReadsOwn.own, fun own => ⟨reads_parseGoosePayload .., own⟩⟩
  · intro address length dataSetValues
    rw [← own_parseAllDataReads_iff]
    exact ⟨ReadsOwn.own, fun own => ⟨reads_parseAllData .., own⟩⟩
  · intro address length selfAllocated
    rw [← own_parseAllDataUnknownValueReads_iff]
    exact ⟨ReadsOwn.own, fun own => ⟨reads_parseAllDataUnknownValue .., own⟩⟩

/-- A frame of 22 octets for any subscriber of `A`, with a `simulation` of no octets. -/
def emptyFlagFrame : List UInt8 :=
  [0, 0, 0x88, 0xb8, 0, 1, 0, 18, 0, 0, 0, 0,
    0x61, 8, 0x80, 1, 0x41, 0x87, 0, 0x89, 1, 0]

/-- The octet that `simulation` is decoded from is the tag of the next element. -/
theorem parseGoosePayload_readsOn :
    let memory := Memory.ofOctets emptyFlagFrame fun _ => 0
    let subscribers := [GooseSubscriber.create ⟨[0x41], zero_notMem_a⟩ none]
    IsGooseFrame memory emptyFlagFrame.length ∧
      12 + frameApduLength memory = emptyFlagFrame.length ∧
      ¬ ReadsOwn (parseGoosePayload subscribers memory 12 (frameApduLength memory) 0)
        (parseGoosePayloadReads subscribers memory 12 (frameApduLength memory)) := by
  refine ⟨by decide, by decide, fun reads => ?_⟩
  have own := reads.own (.value ⟨0x87, 19, 0⟩ 19) (by decide +kernel)
  exact absurd own (by decide)

end GridGooseSV
