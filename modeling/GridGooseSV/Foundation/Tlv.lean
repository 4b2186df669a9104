import GridGooseSV.Foundation.Memory

/-!
# Tag-length-value strings

A string of elements is a range of a memory in which tags, encoded lengths and
contents alternate. How a length is decoded is a parameter: `lengthAt` gives the
position after the length octets and the length. A scan lists the elements up to
the first length that cannot be decoded.
-/

namespace GridGooseSV

/-- An element of a tag-length-value string: its tag and where its content lies. -/
structure Element where
  tag : UInt8
  address : Nat
  length : Nat
  deriving DecidableEq, Repr

/-- The content octets of an element. -/
def Element.content (element : Element) (memory : Memory) : List UInt8 :=
  memory.octets element.address element.length

theorem Element.holds_content (element : Element) (memory : Memory) :
    memory.Holds element.address (element.content memory) := by
  rw [Memory.Holds, Element.content, Memory.length_octets]

/-- The same element at a distance. -/
def Element.moved (distance : Nat) (element : Element) : Element :=
  { element with address := distance + element.address }

/-- The elements of a string, and whether all lengths could be decoded. -/
structure Scan where
  elements : List Element
  complete : Bool
  deriving DecidableEq, Repr

namespace Scan

/-- One more element in front. -/
def cons (element : Element) (scan : Scan) : Scan :=
  { scan with elements := element :: scan.elements }

/-- The same elements at a distance. -/
def moved (distance : Nat) (scan : Scan) : Scan :=
  { scan with elements := scan.elements.map (Element.moved distance) }

theorem moved_zero (scan : Scan) : scan.moved 0 = scan := by
  have same : Element.moved 0 = id := by
    funext element
    rw [Element.moved, Nat.zero_add, id]
  rw [moved, same, List.map_id]

section Scanning

variable (memory : Memory) (buffer : Nat) (lengthAt : Nat → Option (Nat × Nat)) (stop : Nat)

/-- Scan at most `fuel` elements of the string that ends at `stop`. -/
def upTo : (fuel position : Nat) → Scan
  | 0, _ => ⟨[], true⟩
  | fuel + 1, position =>
    if position < stop then
      match lengthAt (position + 1) with
      | none => ⟨[], false⟩
      | some (start, length) =>
        (upTo fuel (start + length)).cons ⟨memory (buffer + position), buffer + start, length⟩
    else ⟨[], true⟩

/-- The scan of the string from a position on. -/
def run (position : Nat) : Scan :=
  upTo memory buffer lengthAt stop (stop - position) position

variable {memory buffer lengthAt stop}
variable (advances : ∀ {position start length},
  lengthAt position = some (start, length) → position < start)
include advances

/-- Enough fuel is as good as any other. -/
theorem upTo_congr {fuel other position : Nat} (enough : stop - position ≤ fuel)
    (enoughOther : stop - position ≤ other) :
    upTo memory buffer lengthAt stop fuel position =
      upTo memory buffer lengthAt stop other position := by
  induction fuel generalizing other position with
  | zero =>
      cases other with
      | zero => rfl
      | succ other =>
          rw [upTo, upTo, if_neg (by omega)]
  | succ fuel ih =>
      cases other with
      | zero => rw [upTo, upTo, if_neg (by omega)]
      | succ other =>
          rw [upTo, upTo]
          by_cases inside : position < stop
          · rw [if_pos inside, if_pos inside]
            cases decoded : lengthAt (position + 1) with
            | none => rfl
            | some result =>
                have later := advances decoded
                simp only
                rw [@ih other _ (by omega) (by omega)]
          · rw [if_neg inside, if_neg inside]

theorem upTo_eq_run {fuel position : Nat} (enough : stop - position ≤ fuel) :
    upTo memory buffer lengthAt stop fuel position = run memory buffer lengthAt stop position :=
  upTo_congr advances enough (Nat.le_refl _)

omit advances in
/-- Nothing is left at the end. -/
theorem run_end {position : Nat} (ended : stop ≤ position) :
    run memory buffer lengthAt stop position = ⟨[], true⟩ := by
  rw [run, Nat.sub_eq_zero_of_le ended, upTo]

omit advances in
/-- A length that cannot be decoded ends the scan. -/
theorem run_malformed {position : Nat} (inside : position < stop)
    (malformed : lengthAt (position + 1) = none) :
    run memory buffer lengthAt stop position = ⟨[], false⟩ := by
  obtain ⟨left, equation⟩ : ∃ left, stop - position = left + 1 := ⟨stop - position - 1, by omega⟩
  rw [run, equation, upTo, if_pos inside, malformed]

/-- The next element and what follows its content. -/
theorem run_next {position start length : Nat} (inside : position < stop)
    (decoded : lengthAt (position + 1) = some (start, length)) :
    run memory buffer lengthAt stop position =
      (run memory buffer lengthAt stop (start + length)).cons
        ⟨memory (buffer + position), buffer + start, length⟩ := by
  have later := advances decoded
  obtain ⟨left, equation⟩ : ∃ left, stop - position = left + 1 := ⟨stop - position - 1, by omega⟩
  rw [run, equation, upTo, if_pos inside, decoded]
  simp only
  rw [upTo_eq_run advances (by omega)]

/-- A string without elements that is complete has ended. -/
theorem run_eq_nil {position : Nat} :
    run memory buffer lengthAt stop position = ⟨[], true⟩ ↔ stop ≤ position := by
  constructor
  · intro scanned
    by_contra inside
    cases decoded : lengthAt (position + 1) with
    | none =>
        rw [run_malformed (by omega) decoded] at scanned
        simp at scanned
    | some result =>
        rw [run_next advances (by omega) decoded] at scanned
        simp [cons] at scanned
  · exact run_end

/-- How a string with a first element continues. -/
theorem run_eq_cons {position : Nat} {element : Element} {rest : List Element}
    {complete : Bool} :
    run memory buffer lengthAt stop position = ⟨element :: rest, complete⟩ ↔
      position < stop ∧ ∃ start length, lengthAt (position + 1) = some (start, length) ∧
        element = ⟨memory (buffer + position), buffer + start, length⟩ ∧
        run memory buffer lengthAt stop (start + length) = ⟨rest, complete⟩ := by
  by_cases inside : position < stop
  · cases decoded : lengthAt (position + 1) with
    | none => simp [run_malformed inside decoded]
    | some result =>
        obtain ⟨start, length⟩ := result
        rw [run_next advances inside decoded]
        constructor
        · intro scanned
          obtain ⟨elements, complete⟩ := Scan.mk.inj scanned
          obtain ⟨first, others⟩ := List.cons.inj elements
          refine ⟨inside, start, length, rfl, first.symm, ?_⟩
          rw [← others, ← complete]
        · rintro ⟨_, _, _, found, rfl, others⟩
          obtain ⟨rfl, rfl⟩ := Prod.mk.inj (Option.some.inj found)
          rw [others, cons]
  · rw [run_end (by omega)]
    simp [inside]

omit advances in
/-- A property of elements that decoding guarantees holds of every element of a
scan. -/
theorem forall_run {property : Element → Prop}
    (holds : ∀ {position start length}, position < stop →
      lengthAt (position + 1) = some (start, length) →
        property ⟨memory (buffer + position), buffer + start, length⟩) (position : Nat) :
    ∀ element ∈ (run memory buffer lengthAt stop position).elements, property element := by
  suffices all : ∀ fuel position, ∀ element ∈
      (upTo memory buffer lengthAt stop fuel position).elements, property element from
    all _ position
  intro fuel
  induction fuel with
  | zero =>
      intro position element member
      exact absurd member List.not_mem_nil
  | succ fuel ih =>
      intro position element member
      rw [upTo] at member
      split at member
      · rename_i inside
        split at member
        · exact absurd member List.not_mem_nil
        · rename_i start length decoded
          rcases List.mem_cons.mp member with rfl | member
          · exact holds inside decoded
          · exact ih _ element member
      · exact absurd member List.not_mem_nil

end Scanning

/-- Elements that stand one right behind the other: each begins in front of `stop`, and the last
ends at `finish`, which is not in front of it. -/
inductive Chained (memory : Memory) (buffer : Nat) (lengthAt : Nat → Option (Nat × Nat))
    (stop : Nat) : (position : Nat) → List Element → (finish : Nat) → Prop
  | nil {finish : Nat} (ended : stop ≤ finish) :
      Chained memory buffer lengthAt stop finish [] finish
  | cons {position start length finish : Nat} {rest : List Element} (inside : position < stop)
      (decoded : lengthAt (position + 1) = some (start, length))
      (following : Chained memory buffer lengthAt stop (start + length) rest finish) :
      Chained memory buffer lengthAt stop position
        (⟨memory (buffer + position), buffer + start, length⟩ :: rest) finish

section Chaining

variable {memory : Memory} {buffer stop position : Nat} {lengthAt : Nat → Option (Nat × Nat)}
variable {parts : List Element}

theorem Chained.reaches {finish : Nat}
    (chained : Chained memory buffer lengthAt stop position parts finish) : stop ≤ finish := by
  induction chained with
  | nil ended => exact ended
  | cons _ _ _ ih => exact ih

/-- Where the last of some elements ends is bounded by what bounds the end of each. -/
theorem Chained.finish_le {finish : Nat} {bound : Int}
    (chained : Chained memory buffer lengthAt stop position parts finish)
    (contains : ∀ {position start length}, lengthAt position = some (start, length) →
      (start + length : Int) ≤ bound) (first : (position : Int) ≤ bound) : finish ≤ bound := by
  induction chained with
  | nil => exact first
  | cons _ decoded _ ih =>
      have within := contains decoded
      exact ih (by omega)

/-- A scan is complete exactly if its elements are chained. -/
theorem run_complete_iff (advances : ∀ {position start length},
    lengthAt position = some (start, length) → position < start) :
    run memory buffer lengthAt stop position = ⟨parts, true⟩ ↔
      ∃ finish, Chained memory buffer lengthAt stop position parts finish := by
  constructor
  · intro scanned
    induction parts generalizing position with
    | nil => exact ⟨position, .nil ((run_eq_nil advances).mp scanned)⟩
    | cons element rest ih =>
        obtain ⟨inside, start, length, decoded, rfl, following⟩ :=
          (run_eq_cons advances).mp scanned
        obtain ⟨finish, chained⟩ := ih following
        exact ⟨finish, .cons inside decoded chained⟩
  · rintro ⟨finish, chained⟩
    induction chained with
    | nil ended => exact run_end ended
    | cons inside decoded _ ih =>
        exact (run_eq_cons advances).mpr ⟨inside, _, _, decoded, rfl, ih⟩

end Chaining

end Scan

/-! ## Writing elements -/

section Writing

variable (encodeLength : Nat → List UInt8)

/-- An element as octets. -/
def tlv (tag : UInt8) (content : List UInt8) : List UInt8 :=
  tag :: (encodeLength content.length ++ content)

/-- Elements as octets. -/
def tlvs : List (UInt8 × List UInt8) → List UInt8
  | [] => []
  | (tag, content) :: rest => tlv encodeLength tag content ++ tlvs rest

theorem tlvs_append (first second : List (UInt8 × List UInt8)) :
    tlvs encodeLength (first ++ second) = tlvs encodeLength first ++ tlvs encodeLength second := by
  induction first with
  | nil => rfl
  | cons item first ih => rw [List.cons_append, tlvs, tlvs, ih, List.append_assoc]

/-- An element that may be missing. -/
theorem tlvs_optional {α : Type} (tag : UInt8) (content : α → List UInt8) (option : Option α) :
    tlvs encodeLength (option.toList.map fun value => (tag, content value)) =
      option.elim [] fun value => tlv encodeLength tag (content value) := by
  cases option with
  | none => rfl
  | some value => exact List.append_nil _

@[simp] theorem length_tlv (tag : UInt8) (content : List UInt8) :
    (tlv encodeLength tag content).length =
      1 + (encodeLength content.length).length + content.length := by
  simp [tlv]
  omega

variable {encodeLength}
variable {memory : Memory} {buffer : Nat} {lengthAt : Nat → Option (Nat × Nat)} {stop : Nat}

/-- Where the content of an element stands that was written at an address. -/
theorem holds_tlv {address : Nat} {tag : UInt8} {content : List UInt8} :
    memory.Holds address (tlv encodeLength tag content) ↔
      memory address = tag ∧ memory.Holds (address + 1) (encodeLength content.length) ∧
        memory.Holds (address + 1 + (encodeLength content.length).length) content := by
  rw [tlv, Memory.holds_cons, Memory.holds_append]

/-- An element that was written is found again. -/
theorem Scan.run_tlv {position : Nat} {tag : UInt8} {content : List UInt8}
    (advances : ∀ {position start length},
      lengthAt position = some (start, length) → position < start)
    (held : memory.Holds (buffer + position) (tlv encodeLength tag content))
    (decoded : lengthAt (position + 1) =
      some (position + 1 + (encodeLength content.length).length, content.length))
    (inside : position < stop) :
    Scan.run memory buffer lengthAt stop position =
      (Scan.run memory buffer lengthAt stop
        (position + (tlv encodeLength tag content).length)).cons
        ⟨tag, buffer + (position + 1 + (encodeLength content.length).length),
          content.length⟩ := by
  rw [run_next advances inside decoded, (holds_tlv.mp held).1, length_tlv]
  congr 2
  omega

variable (encodeLength) in
/-- The elements of a string that was written at an address. -/
def writtenElements (address : Nat) : List (UInt8 × List UInt8) → List Element
  | [] => []
  | (tag, content) :: rest =>
    ⟨tag, address + 1 + (encodeLength content.length).length, content.length⟩ ::
      writtenElements (address + (tlv encodeLength tag content).length) rest

/-- Encoded items in front keep their places. -/
theorem writtenElements_append {address : Nat} {first second : List (UInt8 × List UInt8)} :
    writtenElements encodeLength address (first ++ second) =
      writtenElements encodeLength address first ++
        writtenElements encodeLength (address + (tlvs encodeLength first).length) second := by
  induction first generalizing address with
  | nil => rfl
  | cons item rest ih =>
      obtain ⟨tag, content⟩ := item
      rw [List.cons_append, writtenElements, writtenElements, ih, List.cons_append, tlvs,
        List.length_append, ← Nat.add_assoc address]

theorem tag_of_writtenElements {address : Nat} {items : List (UInt8 × List UInt8)} :
    (writtenElements encodeLength address items).map Element.tag = items.map Prod.fst := by
  induction items generalizing address with
  | nil => rfl
  | cons item rest ih =>
      obtain ⟨tag, content⟩ := item
      rw [writtenElements, List.map_cons, List.map_cons, ih]

/-- A string that was written is scanned to its elements. -/
theorem Scan.run_tlvs {position : Nat} {items : List (UInt8 × List UInt8)}
    (advances : ∀ {position start length},
      lengthAt position = some (start, length) → position < start)
    (held : memory.Holds (buffer + position) (tlvs encodeLength items))
    (decoded : ∀ {position content},
      memory.Holds (buffer + position) (encodeLength content) →
      position + (encodeLength content).length + content ≤ stop →
      lengthAt position = some (position + (encodeLength content).length, content))
    (ends : stop = position + (tlvs encodeLength items).length) :
    Scan.run memory buffer lengthAt stop position =
      ⟨writtenElements encodeLength (buffer + position) items, true⟩ := by
  induction items generalizing position with
  | nil => rw [run_end (by simp [ends, tlvs])]; rfl
  | cons item rest ih =>
      obtain ⟨tag, content⟩ := item
      obtain ⟨first, others⟩ := Memory.holds_append.mp held
      simp only [tlvs, List.length_append, length_tlv] at ends
      have found := @decoded (position + 1) _ (holds_tlv.mp first).2.1 (by omega)
      rw [run_tlv advances first found (by omega),
        ih (by rwa [← Nat.add_assoc]) (by rw [ends, length_tlv]; omega)]
      simp only [cons, writtenElements, Nat.add_assoc]

/-- What was written is the content of the elements. -/
theorem content_writtenElements {address : Nat} {items : List (UInt8 × List UInt8)}
    (held : memory.Holds address (tlvs encodeLength items)) :
    (writtenElements encodeLength address items).map
      (fun element => (element.tag, element.content memory)) = items := by
  induction items generalizing address with
  | nil => rfl
  | cons item rest ih =>
      obtain ⟨tag, content⟩ := item
      obtain ⟨first, others⟩ := Memory.holds_append.mp held
      rw [writtenElements, List.map_cons, ih others]
      congr 2
      exact (holds_tlv.mp first).2.2

end Writing

end GridGooseSV
