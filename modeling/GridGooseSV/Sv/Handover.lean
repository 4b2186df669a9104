import GridGooseSV.Foundation.Paired
import GridGooseSV.Sv.Asdu

/-!
# Which ASDUs are handed over

The parser writes terminators into the message it is reading. The terminator of a string
with which an ASDU ends falls on the octet behind the ASDU, which is the tag of the
element that follows: that element is then passed over. What is handed over is stated
here in terms of the message as it came.
-/

namespace GridGooseSV

open BerDecoder

/-- The elements of an ASDU. -/
def asduParts (memory : Memory) (asdu : Element) : List Element :=
  (contentScan memory asdu.address asdu.length).elements

/-- An element is a well-formed ASDU. -/
def IsASDU (memory : Memory) (element : Element) : Prop :=
  element.tag = 0x30 ∧ (contentScan memory element.address element.length).complete = true

instance (memory : Memory) (element : Element) : Decidable (IsASDU memory element) :=
  inferInstanceAs (Decidable (_ ∧ _))

/-- A string of an ASDU ends where the ASDU ends. -/
def Spills (memory : Memory) (asdu : Element) : Prop :=
  ParsedASDU.IsTerminator (asduParts memory asdu) (asdu.address + asdu.length)

instance (memory : Memory) (asdu : Element) : Decidable (Spills memory asdu) :=
  inferInstanceAs (Decidable (ParsedASDU.IsTerminator _ _))

/-- The ASDUs of a sequence that are handed over, and whether the octet behind the
sequence is overwritten; `overwritten` tells whether the first tag is. -/
def sequenceASDUs (memory : Memory) : (overwritten : Bool) → List Element → List Element × Bool
  | overwritten, [] => ([], overwritten)
  | overwritten, element :: rest =>
    if overwritten = false ∧ IsASDU memory element then
      let (others, after) := sequenceASDUs memory (decide (Spills memory element)) rest
      (element :: others, after)
    else sequenceASDUs memory false rest

/-- The ASDUs of the elements of a PDU that are handed over. -/
def payloadASDUs (memory : Memory) : (overwritten : Bool) → List Element → List Element
  | _, [] => []
  | overwritten, element :: rest =>
    if overwritten = false ∧ element.tag = 0xa2 then
      let scan := contentScan memory element.address element.length
      let (asdus, after) := sequenceASDUs memory false scan.elements
      asdus ++ payloadASDUs memory (after && scan.complete) rest
    else payloadASDUs memory false rest

/-- The ASDUs of a payload that are handed over. -/
def svASDUs (memory : Memory) (buffer : Nat) (apduLength : Int) : List Element :=
  if memory buffer = 0x60 then
    match (decodeLength memory buffer apduLength 1).value with
    | none => []
    | some (bufPos, elementLength) =>
      let svEnd := bufPos + elementLength
      payloadASDUs memory false (elements memory buffer svEnd svEnd bufPos).elements
  else []

/-- A call is about an ASDU of the message: the listener finds it as it came, but for the
terminators of its own strings. -/
structure SVCall.Reports (came : Memory) (index : Nat) (element : Element)
    (call : SVCall) : Prop where
  subscriber : call.subscriber = index
  elements : call.elements = asduParts came element
  asdu : call.asdu = (ParsedASDU.ofElements (asduParts came element)).asdu
  memory : ∀ position, element.address ≤ position → call.memory position =
    (ParsedASDU.ofElements (asduParts came element)).terminated came position

/-- A buffer is as it came behind a position, and at the position unless a terminator was
written there. -/
structure CameBehind (memory : Memory) (position : Nat) (overwritten : Bool)
    (found : Memory) : Prop where
  behind : ∀ other, position < other → found other = memory other
  here : found position = if overwritten then 0 else memory position

namespace CameBehind

variable {memory found : Memory} {position : Nat} {overwritten : Bool}

theorem later (came : CameBehind memory position overwritten found) {other : Nat}
    (after : position < other) : CameBehind memory other false found where
  behind further below := came.behind further (Nat.lt_trans after below)
  here := came.behind other after

/-- A length behind the position is decoded as it came. -/
theorem decodeLength_eq {buffer bufPos : Nat}
    (came : CameBehind memory (buffer + bufPos) overwritten found) (maxBufPos : Int) :
    (decodeLength found buffer maxBufPos (bufPos + 1)).value =
      (decodeLength memory buffer maxBufPos (bufPos + 1)).value := by
  apply @decodeLength_congr _ _ _ _ _ (bufPos + 1) _ _ (Nat.le_refl _)
  intro index above _
  exact came.behind _ (by omega)

end CameBehind

/-! ## An ASDU -/

section Parsing

variable {memory found : Memory} {subscriber : Nat} {listener : Bool}

/-- The elements of an ASDU end within it. -/
theorem asduParts_within {asdu : Element} :
    ∀ part ∈ asduParts memory asdu, asdu.address < part.address ∧
      part.address + part.length ≤ asdu.address + asdu.length := by
  intro part member
  have within := elements_within part member
  omega

theorem terminated_of_came {asdu : Element}
    (came : ∀ position, asdu.address ≤ position → found position = memory position)
    (elements : List Element) {position : Nat} (above : asdu.address ≤ position) :
    (ParsedASDU.ofElements elements).terminated found position =
      (ParsedASDU.ofElements elements).terminated memory position := by
  by_cases string : ParsedASDU.IsTerminator elements position
  · rw [(ParsedASDU.terminated_apply found elements position).1 string,
      (ParsedASDU.terminated_apply memory elements position).1 string]
  · rw [(ParsedASDU.terminated_apply found elements position).2 string,
      (ParsedASDU.terminated_apply memory elements position).2 string, came position above]

/-- Terminating the strings of an ASDU leaves what follows it, but for the octet behind
it if a string ends there. -/
theorem cameBehind_terminated {asdu : Element}
    (came : ∀ position, asdu.address ≤ position → found position = memory position) :
    CameBehind memory (asdu.address + asdu.length) (decide (Spills memory asdu))
      ((ParsedASDU.ofElements (asduParts memory asdu)).terminated found) where
  behind other behind := by
    rw [terminated_of_came came _ (by omega)]
    apply (ParsedASDU.terminated_apply memory _ other).2
    intro terminator
    obtain ⟨string, member, ends⟩ := ParsedASDU.mem_of_isTerminator terminator
    have within := asduParts_within string member
    omega
  here := by
    rw [terminated_of_came came _ (Nat.le_add_right _ _)]
    by_cases spills : Spills memory asdu
    · rw [if_pos (decide_eq_true spills)]
      exact (ParsedASDU.terminated_apply memory _ _).1 spills
    · rw [if_neg (by simpa using spills)]
      exact (ParsedASDU.terminated_apply memory _ _).2 spills

/-- A content that is as it came has the elements it came with. -/
theorem contentScan_came {address length : Nat}
    (came : ∀ position, address ≤ position → found position = memory position) :
    contentScan found address length = contentScan memory address length := by
  apply @elements_congr _ _ _ 0 _ _ _ (Nat.le_refl _)
  intro index _ _
  exact came _ (Nat.le_add_right _ _)

/-- What `parseASDU` does with an element whose octets are as they came. -/
theorem value_parseASDU_came {asdu : Element}
    (came : ∀ position, asdu.address ≤ position → found position = memory position) :
    (parseASDU subscriber listener found asdu.address asdu.length).value =
      let state := ParsedASDU.ofElements (asduParts memory asdu)
      if (contentScan memory asdu.address asdu.length).complete then
        (state.terminated found,
          if listener then
            [⟨subscriber, state.asdu, state.terminated found, asduParts memory asdu⟩]
          else [])
      else (found, []) := by
  rw [value_parseASDU, contentScan_came came]
  rfl

/-! ## The loops over elements -/

/-- Both loops over elements parse those with a tag, one after the other. -/
def taggedLoop (tag : UInt8)
    (parse : Memory → (buffer length : Nat) → Traced Access (Memory × List SVCall))
    (buffer stop : Nat) : (fuel bufPos : Nat) → Memory → Traced Access (Memory × List SVCall)
  | 0, _, memory => pure (memory, [])
  | fuel + 1, bufPos, memory =>
    if bufPos < stop then do
      let present ← memory.read (buffer + bufPos)
      let decoded ← decodeLength memory buffer stop (bufPos + 1)
      match decoded with
      | none => pure (memory, [])
      | some (bufPos, elementLength) => do
        let (memory, calls) ←
          if present = tag then parse memory (buffer + bufPos) elementLength
          else pure (memory, [])
        let (memory, others) ← taggedLoop tag parse buffer stop fuel (bufPos + elementLength) memory
        pure (memory, calls ++ others)
    else pure (memory, [])

theorem sequenceLoop_eq (buffer length fuel : Nat) :
    sequenceLoop subscriber listener buffer length fuel =
      taggedLoop 0x30 (parseASDU subscriber listener) buffer length fuel := by
  induction fuel with
  | zero => rfl
  | succ fuel ih =>
      funext bufPos memory
      unfold sequenceLoop taggedLoop
      exact ih ▸ rfl

theorem payloadLoop_eq (buffer svEnd fuel : Nat) :
    payloadLoop subscriber listener buffer svEnd fuel =
      taggedLoop 0xa2 (parseSequenceOfASDU subscriber listener) buffer svEnd fuel := by
  induction fuel with
  | zero => rfl
  | succ fuel ih =>
      funext bufPos memory
      unfold payloadLoop taggedLoop
      exact ih ▸ rfl

theorem value_taggedLoop_succ (tag : UInt8)
    (parse : Memory → (buffer length : Nat) → Traced Access (Memory × List SVCall))
    (buffer stop fuel bufPos : Nat) (memory : Memory) :
    (taggedLoop tag parse buffer stop (fuel + 1) bufPos memory).value =
      if bufPos < stop then
        match (decodeLength memory buffer stop (bufPos + 1)).value with
        | none => (memory, [])
        | some (start, size) =>
          let parsed := if memory (buffer + bufPos) = tag then
              (parse memory (buffer + start) size).value
            else (memory, [])
          let others := (taggedLoop tag parse buffer stop fuel (start + size) parsed.1).value
          (others.1, parsed.2 ++ others.2)
      else (memory, []) := by
  simp only [taggedLoop, ↓Memory.value_bind_read, Traced.value_ite, Traced.value_bind,
    Traced.value_pure]
  congr 1
  cases (decodeLength memory buffer stop (bufPos + 1)).value with
  | none => rfl
  | some result =>
      simp only [Traced.value_bind, Traced.value_ite, Traced.value_pure]
      split <;> rfl

/-! ## A sequence -/

/-- An element of a sequence is handed over if it is a well-formed ASDU whose tag is still
there. -/
theorem sequenceStep_spec {position start size : Nat} {overwritten : Bool}
    (came : CameBehind memory position overwritten found) (after : position < start) :
    let element : Element := ⟨memory position, start, size⟩
    let parsed := if found position = 0x30 then
        (parseASDU subscriber listener found start size).value
      else (found, [])
    if overwritten = false ∧ IsASDU memory element then
      CameBehind memory (start + size) (decide (Spills memory element)) parsed.1 ∧
        List.Forall₂ (SVCall.Reports memory subscriber) (if listener then [element] else [])
          parsed.2
    else parsed = (found, []) := by
  intro element parsed
  have asCame : ∀ other, element.address ≤ other → found other = memory other :=
    fun other above => came.behind other (Nat.lt_of_lt_of_le after above)
  have read : (parseASDU subscriber listener found start size).value = _ :=
    value_parseASDU_came asCame
  by_cases handed : overwritten = false ∧ IsASDU memory element
  · rw [if_pos handed]
    obtain ⟨rfl, tagged, complete⟩ := handed
    have present : found position = 0x30 := came.here.trans tagged
    simp only [parsed, if_pos present, read, if_pos complete]
    refine ⟨cameBehind_terminated asCame, ?_⟩
    cases listener with
    | true =>
        refine .cons ⟨rfl, rfl, rfl, fun other above => ?_⟩ .nil
        exact terminated_of_came asCame _ above
    | false => exact .nil
  · rw [if_neg handed]
    by_cases present : found position = 0x30
    · simp only [parsed, if_pos present, read]
      have here := came.here
      cases overwritten with
      | true =>
          rw [present, if_pos rfl] at here
          exact absurd here (by decide)
      | false =>
          have tagged : element.tag = 0x30 := here.symm.trans present
          exact if_neg fun complete => handed ⟨rfl, tagged, complete⟩
    · exact if_neg present

/-- The ASDUs of a sequence that are handed over, and what is left of the message. -/
theorem sequenceLoop_spec {buffer length fuel bufPos : Nat} {overwritten : Bool}
    (came : CameBehind memory (buffer + bufPos) overwritten found) (inside : bufPos ≤ length)
    (enough : length - bufPos ≤ fuel) :
    let scan := elements memory buffer length length bufPos
    let handed := sequenceASDUs memory overwritten scan.elements
    let result := (sequenceLoop subscriber listener buffer length fuel bufPos found).value
    CameBehind memory (buffer + length) (handed.2 && scan.complete) result.1 ∧
      List.Forall₂ (SVCall.Reports memory subscriber) (if listener then handed.1 else [])
        result.2 := by
  induction fuel generalizing bufPos overwritten found with
  | zero =>
      obtain rfl : bufPos = length := by omega
      rw [elements_end (Nat.le_refl _)]
      simp only [sequenceASDUs, sequenceLoop, Traced.value_pure, Bool.and_true, ite_self]
      exact ⟨came, .nil⟩
  | succ fuel ih =>
      rw [sequenceLoop_eq, value_taggedLoop_succ, ← sequenceLoop_eq]
      by_cases more : bufPos < length
      · rw [if_pos more, came.decodeLength_eq]
        cases decoded : (decodeLength memory buffer length (bufPos + 1)).value with
        | none =>
            rw [elements_malformed more decoded]
            simp only [sequenceASDUs, Bool.and_false, ite_self]
            exact ⟨came.later (by omega), .nil⟩
        | some result =>
            obtain ⟨start, size⟩ := result
            obtain ⟨later, within⟩ := decodeLength_spec decoded
            have step := @sequenceStep_spec memory found subscriber listener (buffer + bufPos)
              (buffer + start) size overwritten came (by omega)
            rw [elements_next more decoded]
            simp only [Scan.cons, sequenceASDUs] at step ⊢
            have further : bufPos < start + size := by omega
            by_cases handed : overwritten = false ∧
                IsASDU memory ⟨memory (buffer + bufPos), buffer + start, size⟩
            · rw [if_pos handed] at step
              obtain ⟨next, calls⟩ := step
              rw [Nat.add_assoc] at next
              obtain ⟨rest, others⟩ := ih next (by omega) (by omega)
              rw [if_pos handed]
              refine ⟨rest, ?_⟩
              cases listener with
              | true => exact List.rel_append calls others
              | false => exact List.rel_append calls others
            · rw [if_neg handed] at step
              rw [if_neg handed, step]
              exact ih (came.later (by omega)) (by omega) (by omega)
      · obtain rfl : bufPos = length := by omega
        rw [if_neg more, elements_end (Nat.le_refl _)]
        simp only [sequenceASDUs, Bool.and_true, ite_self]
        exact ⟨came, .nil⟩

/-! ## A payload -/

/-- An element of a PDU is parsed if it is a sequence whose tag is still there. -/
theorem payloadStep_spec {position start size : Nat} {overwritten : Bool}
    (came : CameBehind memory position overwritten found) (after : position < start) :
    let scan := contentScan memory start size
    let handed := sequenceASDUs memory false scan.elements
    let parsed := if found position = 0xa2 then
        (parseSequenceOfASDU subscriber listener found start size).value
      else (found, [])
    if overwritten = false ∧ memory position = 0xa2 then
      CameBehind memory (start + size) (handed.2 && scan.complete) parsed.1 ∧
        List.Forall₂ (SVCall.Reports memory subscriber) (if listener then handed.1 else [])
          parsed.2
    else parsed = (found, []) := by
  intro scan handed parsed
  by_cases taken : overwritten = false ∧ memory position = 0xa2
  · rw [if_pos taken]
    obtain ⟨rfl, tagged⟩ := taken
    have present : found position = 0xa2 := came.here.trans tagged
    simp only [parsed, if_pos present]
    exact sequenceLoop_spec (came.later after) (Nat.zero_le _) (Nat.le_refl _)
  · rw [if_neg taken]
    apply if_neg
    intro present
    have here := came.here
    cases overwritten with
    | true =>
        rw [present, if_pos rfl] at here
        exact absurd here (by decide)
    | false => exact taken ⟨rfl, here.symm.trans present⟩

theorem payloadLoop_spec {buffer svEnd fuel bufPos : Nat} {overwritten : Bool}
    (came : CameBehind memory (buffer + bufPos) overwritten found)
    (enough : svEnd - bufPos ≤ fuel) :
    List.Forall₂ (SVCall.Reports memory subscriber)
      (if listener then
        payloadASDUs memory overwritten (elements memory buffer svEnd svEnd bufPos).elements
      else [])
      (payloadLoop subscriber listener buffer svEnd fuel bufPos found).value.2 := by
  induction fuel generalizing bufPos overwritten found with
  | zero =>
      rw [elements_end (by omega)]
      simp only [payloadASDUs, ite_self]
      exact .nil
  | succ fuel ih =>
      rw [payloadLoop_eq, value_taggedLoop_succ, ← payloadLoop_eq]
      by_cases more : bufPos < svEnd
      · rw [if_pos more, came.decodeLength_eq]
        cases decoded : (decodeLength memory buffer svEnd (bufPos + 1)).value with
        | none =>
            rw [elements_malformed more decoded]
            simp only [payloadASDUs, ite_self]
            exact .nil
        | some result =>
            obtain ⟨start, size⟩ := result
            obtain ⟨later, within⟩ := decodeLength_spec decoded
            have step := @payloadStep_spec memory found subscriber listener (buffer + bufPos)
              (buffer + start) size overwritten came (by omega)
            rw [elements_next more decoded]
            simp only [Scan.cons, payloadASDUs] at step ⊢
            by_cases taken : overwritten = false ∧ memory (buffer + bufPos) = 0xa2
            · rw [if_pos taken] at step
              obtain ⟨next, calls⟩ := step
              rw [Nat.add_assoc] at next
              have others := ih next (by omega)
              rw [if_pos taken]
              cases listener with
              | true => exact List.rel_append calls others
              | false => exact List.rel_append calls others
            · rw [if_neg taken] at step
              rw [if_neg taken, step]
              exact ih (came.later (by omega)) (by omega)
      · rw [if_neg more, elements_end (by omega)]
        simp only [payloadASDUs, ite_self]
        exact .nil

/-- The ASDUs of a payload that are handed over. -/
theorem parseSVPayload_spec (memory : Memory) (buffer : Nat) (apduLength : Int) :
    List.Forall₂ (SVCall.Reports memory subscriber)
      (if listener then svASDUs memory buffer apduLength else [])
      (parseSVPayload subscriber listener memory buffer apduLength).value.2 := by
  unfold parseSVPayload svASDUs
  simp only [↓Memory.value_bind_read, Traced.value_ite, Traced.value_bind, Traced.value_pure]
  by_cases pdu : memory buffer = 0x60
  · rw [if_pos pdu, if_pos pdu]
    cases (decodeLength memory buffer apduLength 1).value with
    | none =>
        simp only [ite_self]
        exact .nil
    | some result =>
        exact payloadLoop_spec ⟨fun _ _ => rfl, rfl⟩ (by omega)
  · rw [if_neg pdu, if_neg pdu, ite_self]
    exact .nil

end Parsing

/-! ## A message -/

/-- The subscriber for which a message is parsed, with its index. -/
def SVReceiver.selected (self : SVReceiver) (buffer : Memory) (numbytes : Nat) :
    Option (Nat × SVSubscriber) :=
  if numbytes < 22 ∨ buffer 2 ≠ 0x88 ∨ buffer 3 ≠ 0xba then none
  else
    (findSubscriber self.checkDestAddr buffer (uint16Of (buffer 4) (buffer 5))
      self.subscriberList).value

/-- The length of the APDU that a message claims. -/
def apduLengthOf (buffer : Memory) : Int := ((uint16Of (buffer 6) (buffer 7)).toNat : Int) - 8

/-- A message is parsed for the subscriber that is selected. -/
theorem value_parseSVMessage (self : SVReceiver) (buffer : Memory) (numbytes : Nat) :
    (parseSVMessage self buffer numbytes).value =
      match self.selected buffer numbytes with
      | some (index, subscriber) =>
        (parseSVPayload index subscriber.listener buffer 12 (apduLengthOf buffer)).value
      | none => (buffer, []) := by
  unfold parseSVMessage SVReceiver.selected
  by_cases short : numbytes < 22
  · rw [if_pos short, if_pos (.inl short)]
    rfl
  · rw [if_neg short]
    simp only [↓Memory.value_bind_read, ↓Memory.value_bind_readOctets, Traced.value_ite,
      Traced.value_bind, Traced.value_pure]
    by_cases high : buffer 2 = 0x88
    · by_cases low : buffer 3 = 0xba
      · rw [if_neg (not_not.mpr high), if_neg (not_not.mpr low), if_neg (by simp [*])]
        cases (findSubscriber self.checkDestAddr buffer (uint16Of (buffer 4) (buffer 5))
          self.subscriberList).value with
        | none => rfl
        | some found => rfl
      · rw [if_neg (not_not.mpr high), if_pos low, if_pos (.inr (.inr low))]
    · rw [if_pos high, if_pos (.inr (.inl high))]

/-- The ASDUs of a message that are handed over. -/
theorem parseSVMessage_spec {self : SVReceiver} {buffer : Memory} {numbytes index : Nat}
    {subscriber : SVSubscriber}
    (selected : self.selected buffer numbytes = some (index, subscriber)) :
    List.Forall₂ (SVCall.Reports buffer index)
      (if subscriber.listener then svASDUs buffer 12 (apduLengthOf buffer) else [])
      (parseSVMessage self buffer numbytes).value.2 := by
  rw [value_parseSVMessage, selected]
  exact parseSVPayload_spec buffer 12 _

end GridGooseSV
