import GridGooseSV.Ber.Bounds
import GridGooseSV.Sv.Subscriber

/-!
# What is parsed of an ASDU

The parser goes over the elements of an ASDU and keeps the position of the last one of
each kind. It then terminates the two strings, in the octet behind their contents,
where no content stands.
-/

namespace GridGooseSV

open BerDecoder

/-- The last element with a tag. -/
def lastOf (tag : UInt8) : List Element → Option Element
  | [] => none
  | element :: rest => lastOf tag rest <|> if element.tag = tag then some element else none

theorem mem_of_lastOf {tag : UInt8} {elements : List Element} {element : Element}
    (last : lastOf tag elements = some element) : element ∈ elements ∧ element.tag = tag := by
  induction elements with
  | nil => simp [lastOf] at last
  | cons first rest ih =>
      rw [lastOf] at last
      cases later : lastOf tag rest with
      | some other =>
          rw [later] at last
          obtain rfl := Option.some.inj last
          exact ⟨List.mem_cons_of_mem _ (ih later).1, (ih later).2⟩
      | none =>
          rw [later] at last
          by_cases same : first.tag = tag
          · rw [if_pos same] at last
            obtain rfl := Option.some.inj last
            exact ⟨List.mem_cons_self, same⟩
          · rw [if_neg same] at last
            contradiction

namespace ParsedASDU

/-- The local variables of `parseASDU` once elements are read. -/
def read (self : ParsedASDU) (elements : List Element) : ParsedASDU :=
  elements.foldl (fun self element => self.element element.tag element.address element.length) self

/-- What is kept of elements. -/
def ofElements (elements : List Element) : ParsedASDU where
  asdu := {
    svId := (lastOf 0x80 elements).map Element.address
    datSet := (lastOf 0x81 elements).map Element.address
    smpCnt := (lastOf 0x82 elements).map Element.address
    confRev := (lastOf 0x83 elements).map Element.address
    refrTm := (lastOf 0x84 elements).map Element.address
    smpSynch := (lastOf 0x85 elements).map Element.address
    smpRate := (lastOf 0x86 elements).map Element.address
    dataBuffer := (lastOf 0x87 elements).map Element.address
    dataBufferLength := ((lastOf 0x87 elements).map Element.length).getD 0
    smpMod := (lastOf 0x88 elements).map Element.address }
  svIdLength := ((lastOf 0x80 elements).map Element.length).getD 0
  datSetLength := ((lastOf 0x81 elements).map Element.length).getD 0

/-- Later elements take the places of earlier ones. -/
theorem read_eq (self : ParsedASDU) (elements : List Element) :
    self.read elements =
      { asdu := {
          svId := (lastOf 0x80 elements).map Element.address <|> self.asdu.svId
          datSet := (lastOf 0x81 elements).map Element.address <|> self.asdu.datSet
          smpCnt := (lastOf 0x82 elements).map Element.address <|> self.asdu.smpCnt
          confRev := (lastOf 0x83 elements).map Element.address <|> self.asdu.confRev
          refrTm := (lastOf 0x84 elements).map Element.address <|> self.asdu.refrTm
          smpSynch := (lastOf 0x85 elements).map Element.address <|> self.asdu.smpSynch
          smpRate := (lastOf 0x86 elements).map Element.address <|> self.asdu.smpRate
          dataBuffer := (lastOf 0x87 elements).map Element.address <|> self.asdu.dataBuffer
          dataBufferLength :=
            ((lastOf 0x87 elements).map Element.length).getD self.asdu.dataBufferLength
          smpMod := (lastOf 0x88 elements).map Element.address <|> self.asdu.smpMod }
        svIdLength := ((lastOf 0x80 elements).map Element.length).getD self.svIdLength
        datSetLength := ((lastOf 0x81 elements).map Element.length).getD self.datSetLength } := by
  induction elements generalizing self with
  | nil => rfl
  | cons element rest ih =>
      have next : self.read (element :: rest) =
          (self.element element.tag element.address element.length).read rest := rfl
      rw [next, ih]
      obtain ⟨tag, address, length⟩ := element
      unfold ParsedASDU.element
      simp only [lastOf]
      have option : ∀ (later first : Option Element) (kept : Option Nat),
          ((later <|> first).map Element.address <|> kept) =
            (later.map Element.address <|> (first.map Element.address <|> kept)) := by
        intro later first kept
        cases later <;> rfl
      have size : ∀ (later first : Option Element) (kept : Nat),
          ((later <|> first).map Element.length).getD kept =
            (later.map Element.length).getD ((first.map Element.length).getD kept) := by
        intro later first kept
        cases later <;> rfl
      simp only [option, size]
      by_cases known : tag ∈ [0x80, 0x81, 0x82, 0x83, 0x84, 0x85, 0x86, 0x87, 0x88]
      · simp only [List.mem_cons, List.not_mem_nil, or_false] at known
        rcases known with rfl | rfl | rfl | rfl | rfl | rfl | rfl | rfl | rfl <;> rfl
      · simp only [List.mem_cons, List.not_mem_nil, or_false, not_or] at known
        simp [known]

theorem read_empty (elements : List Element) :
    ({} : ParsedASDU).read elements = ofElements elements := by
  have none_last : ∀ kept : Option Nat, (kept <|> none) = kept := by
    intro kept
    cases kept <;> rfl
  rw [read_eq, ofElements]
  simp only [none_last]

/-! ## Terminators -/

/-- The buffer once the two strings are terminated. -/
def terminated (self : ParsedASDU) (memory : Memory) : Memory :=
  (terminate (terminate memory self.asdu.svId self.svIdLength).value self.asdu.datSet
    self.datSetLength).value

/-- A string among the elements ends at a position. -/
def IsTerminator (elements : List Element) (position : Nat) : Prop :=
  ∃ element, (lastOf 0x80 elements = some element ∨ lastOf 0x81 elements = some element) ∧
    element.address + element.length = position

theorem mem_of_isTerminator {elements : List Element} {position : Nat}
    (terminator : IsTerminator elements position) :
    ∃ element ∈ elements, element.address + element.length = position := by
  obtain ⟨element, last, ends⟩ := terminator
  refine ⟨element, ?_, ends⟩
  rcases last with last | last
  · exact (mem_of_lastOf last).1
  · exact (mem_of_lastOf last).1

instance (elements : List Element) (position : Nat) :
    Decidable (IsTerminator elements position) :=
  decidable_of_iff (∃ element ∈ elements, (lastOf 0x80 elements = some element ∨
    lastOf 0x81 elements = some element) ∧ element.address + element.length = position)
    ⟨fun ⟨element, _, ends⟩ => ⟨element, ends⟩,
      fun ⟨element, last, ends⟩ =>
        ⟨element, last.elim (mem_of_lastOf · |>.1) (mem_of_lastOf · |>.1), last, ends⟩⟩

theorem terminate_apply (memory : Memory) (string : Option Element) (position : Nat) :
    (terminate memory (string.map Element.address)
        ((string.map Element.length).getD 0)).value position =
      if ∃ element, string = some element ∧ element.address + element.length = position then 0
      else memory position := by
  cases string with
  | none => simp [terminate]
  | some element =>
      simp only [terminate, Option.map_some, Option.getD_some, Memory.value_store,
        Option.some.injEq, exists_eq_left']
      by_cases here : element.address + element.length = position
      · rw [if_pos here, ← here]
        exact Memory.put_inside memory _ [0] 0 Nat.one_pos
      · rw [if_neg here]
        apply Memory.put_outside
        simp only [List.length_singleton]
        omega

/-- Only the octets behind the strings are changed. -/
theorem terminated_apply (memory : Memory) (elements : List Element) (position : Nat) :
    (IsTerminator elements position → (ofElements elements).terminated memory position = 0) ∧
      (¬ IsTerminator elements position →
        (ofElements elements).terminated memory position = memory position) := by
  unfold terminated IsTerminator
  simp only [ofElements]
  rw [terminate_apply, terminate_apply]
  constructor
  · rintro ⟨element, last, ends⟩
    rcases last with last | last
    · split
      · rfl
      · rw [if_pos ⟨element, last, ends⟩]
    · rw [if_pos ⟨element, last, ends⟩]
  · intro other
    rw [if_neg, if_neg]
    · rintro ⟨element, last, ends⟩
      exact other ⟨element, .inl last, ends⟩
    · rintro ⟨element, last, ends⟩
      exact other ⟨element, .inr last, ends⟩

/-- No content stands where a string ends. -/
theorem not_isTerminator_of_content {elements : List Element}
    (apart : elements.Pairwise fun first second =>
      first.address + first.length < second.address) {element : Element}
    (member : element ∈ elements) {position : Nat} (above : element.address ≤ position)
    (below : position < element.address + element.length) : ¬ IsTerminator elements position := by
  rintro ⟨string, last, ends⟩
  have other : string ∈ elements := by
    rcases last with last | last
    · exact (mem_of_lastOf last).1
    · exact (mem_of_lastOf last).1
  obtain ⟨index, bound, rfl⟩ := List.mem_iff_getElem.mp member
  obtain ⟨place, placed, rfl⟩ := List.mem_iff_getElem.mp other
  rcases Nat.lt_trichotomy index place with before | rfl | after
  · have ordered := List.pairwise_iff_getElem.mp apart index place bound placed before
    omega
  · omega
  · have ordered := List.pairwise_iff_getElem.mp apart place index placed bound after
    omega

/-- The contents of the elements stay what they are. -/
theorem content_terminated {elements : List Element}
    (apart : elements.Pairwise fun first second =>
      first.address + first.length < second.address) {element : Element}
    (member : element ∈ elements) (memory : Memory) :
    element.content ((ofElements elements).terminated memory) = element.content memory := by
  apply Memory.octets_congr
  intro position above below
  apply (terminated_apply memory elements position).2
  exact not_isTerminator_of_content apart member above below

end ParsedASDU

/-! ## The parser -/

theorem value_asduLoop_succ (memory : Memory) (buffer length fuel bufPos : Nat)
    (state : ParsedASDU) :
    (asduLoop memory buffer length (fuel + 1) bufPos state).value =
      if bufPos < length then
        match (decodeLength memory buffer length (bufPos + 1)).value with
        | none => none
        | some (start, size) =>
          (asduLoop memory buffer length fuel (start + size)
            (state.element (memory (buffer + bufPos)) (buffer + start) size)).value.map
              fun (elements, state) =>
                (⟨memory (buffer + bufPos), buffer + start, size⟩ :: elements, state)
      else some ([], state) := by
  simp only [asduLoop, ↓Memory.value_bind_read, Traced.value_ite, Traced.value_bind,
    Traced.value_pure]
  congr 1
  cases (decodeLength memory buffer length (bufPos + 1)).value with
  | none => rfl
  | some result => rfl

/-- The loop reads the elements of the ASDU, if all lengths can be decoded. -/
theorem value_asduLoop {memory : Memory} {buffer length fuel bufPos : Nat} {state : ParsedASDU}
    (enough : length - bufPos ≤ fuel) :
    (asduLoop memory buffer length fuel bufPos state).value =
      let scan := elements memory buffer length length bufPos
      if scan.complete then some (scan.elements, state.read scan.elements) else none := by
  induction fuel generalizing bufPos state with
  | zero =>
      rw [elements_end (by omega)]
      rfl
  | succ fuel ih =>
      rw [value_asduLoop_succ]
      by_cases inside : bufPos < length
      · rw [if_pos inside]
        cases decoded : (decodeLength memory buffer length (bufPos + 1)).value with
        | none =>
            rw [elements_malformed inside decoded]
            rfl
        | some result =>
            obtain ⟨start, size⟩ := result
            have later := decodeLength_advances decoded
            simp only
            rw [ih (by omega), elements_next inside decoded]
            rcases elements memory buffer length length (start + size) with ⟨parts, complete⟩
            cases complete <;> rfl
      · rw [if_neg inside, elements_end (by omega)]
        rfl

/-- The scan of a content that is itself a string of elements. -/
def contentScan (memory : Memory) (buffer length : Nat) : Scan :=
  elements memory buffer length length 0

/-- An ASDU is handed over once its strings are terminated, unless a length cannot be
decoded. -/
theorem value_parseASDU (subscriber : Nat) (listener : Bool) (memory : Memory)
    (buffer length : Nat) :
    (parseASDU subscriber listener memory buffer length).value =
      let scan := contentScan memory buffer length
      let state := ParsedASDU.ofElements scan.elements
      if scan.complete then
        (state.terminated memory,
          if listener then [⟨subscriber, state.asdu, state.terminated memory, scan.elements⟩]
          else [])
      else (memory, []) := by
  have looped : (asduLoop memory buffer length length 0 {}).value =
      let scan := contentScan memory buffer length
      if scan.complete then some (scan.elements, ({} : ParsedASDU).read scan.elements)
      else none :=
    value_asduLoop (Nat.le_refl _)
  simp only [parseASDU, Traced.value_bind, looped]
  rcases contentScan memory buffer length with ⟨parts, complete⟩
  cases complete with
  | true =>
      simp only [↓reduceIte, ParsedASDU.read_empty]
      rfl
  | false => rfl

/-! ## What is read and written -/

section Events

variable {predicate : Access → Prop} (ints : ∀ value, predicate (.int value))
  {memory : Memory} {buffer length : Nat}
  (reads : ∀ position < length, predicate (.read (buffer + position)))

theorem always_terminate {memory : Memory} {string : Option Element} :
    (ParsedASDU.terminate memory (string.map Element.address)
        ((string.map Element.length).getD 0)).Always predicate ↔
      ∀ element, string = some element → predicate (.write (element.address + element.length)) := by
  cases string with
  | none => simp [ParsedASDU.terminate]
  | some element =>
      simp only [ParsedASDU.terminate, Option.map_some, Option.getD_some, Memory.always_store,
        List.length_singleton, Option.some.injEq, forall_eq']
      constructor
      · intro holds
        exact holds _ (Nat.le_refl _) (Nat.lt_succ_self _)
      · intro holds position above below
        obtain rfl : position = element.address + element.length := by omega
        exact holds

include ints reads

/-- The loop reads octets of the ASDU and does nothing else. -/
theorem always_asduLoop (fuel bufPos : Nat) (state : ParsedASDU) :
    (asduLoop memory buffer length fuel bufPos state).Always predicate := by
  induction fuel generalizing bufPos state with
  | zero => exact Traced.always_pure _
  | succ fuel ih =>
      unfold asduLoop
      refine .ite (fun inside => ?_) fun _ => Traced.always_pure _
      refine .bind (Memory.always_read.mpr (reads _ inside)) ?_
      refine .bind (always_decodeLength (fun value _ => ints value)
        (fun position below => reads _ (by omega)) _) ?_
      split
      · exact Traced.always_pure _
      · exact .bind (ih _ _) (Traced.always_pure _)

/-- Besides reading octets of the ASDU the parser writes terminators. -/
theorem always_parseASDU {subscriber : Nat} {listener : Bool} :
    (parseASDU subscriber listener memory buffer length).Always predicate ↔
      let scan := contentScan memory buffer length
      scan.complete = true →
        ∀ position, ParsedASDU.IsTerminator scan.elements position →
          predicate (.write position) := by
  have looped : (asduLoop memory buffer length length 0 {}).value =
      let scan := contentScan memory buffer length
      if scan.complete then some (scan.elements, ({} : ParsedASDU).read scan.elements)
      else none :=
    value_asduLoop (Nat.le_refl _)
  have quiet := @always_asduLoop _ ints memory buffer length reads length 0 {}
  simp only [parseASDU, Traced.always_bind, quiet, true_and, looped]
  rcases contentScan memory buffer length with ⟨parts, complete⟩
  cases complete with
  | true =>
      simp only [↓reduceIte, ParsedASDU.read_empty, Traced.always_bind, always_terminate,
        Traced.always_pure, and_true, forall_const, ParsedASDU.ofElements]
      constructor
      · rintro ⟨svId, datSet⟩ _ ⟨string, last, rfl⟩
        rcases last with last | last
        · exact svId string last
        · exact datSet string last
      · intro holds
        exact ⟨fun string last => holds _ ⟨string, .inl last, rfl⟩,
          fun string last => holds _ ⟨string, .inr last, rfl⟩⟩
  | false => simp

end Events

end GridGooseSV
