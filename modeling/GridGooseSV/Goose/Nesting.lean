import GridGooseSV.Goose.Acceptance
import GridGooseSV.Goose.Admission
import GridGooseSV.Goose.Delivery
import GridGooseSV.Goose.Termination

/-!
# Nested elements

How the elements of a PDU that is delivered lie in it, and the elements of its data set in that. A
frame is delivered whatever becomes of its data set; that the data set could not be decoded is told
by the error that is stored beside it, or by its absence.
-/

namespace GridGooseSV

open BerDecoder

/-- Elements fill a range without a gap and end where it ends. -/
def Fill (memory : Memory) (address length : Nat) (parts : List Element) : Prop :=
  Scan.Chained memory address (fun bufPos => (decodeLength memory address length bufPos).value)
    length 0 parts length

/-- The content of an array or structure is filled by its components, and so is that of every array
and structure among them. -/
inductive Element.Filled (memory : Memory) : Element → Prop
  | simple {element : Element} (simple : ∀ type, element.kind ≠ some (.complex type)) :
      element.Filled memory
  | complex {element : Element} {parts : List Element}
      (fill : Fill memory element.address element.length parts)
      (inner : ∀ part ∈ parts, part.Filled memory) : element.Filled memory

/-- A range is filled by as many data elements as are given, and they by their components. -/
def TiledBy (memory : Memory) (address length count : Nat) : Prop :=
  ∃ parts, Fill memory address length parts ∧ parts.length = count ∧
    ∀ part ∈ parts, part.Filled memory

/-- Elements that are scanned to the end of a range end where it ends. -/
theorem fill_of_elements {memory : Memory} {address length : Nat} {parts : List Element}
    (scanned : elements memory address length length 0 = ⟨parts, true⟩) :
    Fill memory address length parts := by
  obtain ⟨finish, chained⟩ := (Scan.run_complete_iff decodeLength_advances).mp scanned
  have below := chained.finish_le (fun decoded => (decodeLength_spec decoded).2)
    (Int.natCast_nonneg length)
  have reaches := chained.reaches
  obtain rfl : finish = length := by omega
  exact chained

/-! ## Data sets that are decoded -/

section Updating

variable {memory : Memory}

/-- An update keeps the number of components. -/
theorem length_updateLoop {fuel buffer allDataLength bufPos elementIndex : Nat}
    {dataSetValues : Components} :
    (updateLoop memory fuel buffer allDataLength bufPos elementIndex dataSetValues).value.2.length =
      dataSetValues.length := by
  induction fuel generalizing bufPos elementIndex dataSetValues with
  | zero => rfl
  | succ fuel ih =>
      rw [value_updateLoop_succ]
      split
      · split
        · rfl
        · split
          · rfl
          · split
            · rfl
            · dsimp only
              split
              · rw [finishUpdate, List.length_set]
              · rw [ih, List.length_set]
      · rfl

mutual

/-- An element that passes is filled. -/
theorem MmsValue.Passes.filled {element : Element} {kind : DataTag}
    (known : element.kind = some kind) :
    (value : MmsValue) → value.Passes memory element kind → element.Filled memory
  | .complex type components, passes => by
      rcases passes with reserved | ⟨_, parts, scanned, all⟩
      · exact .simple (by simp [known, reserved])
      · exact .complex (fill_of_elements scanned) (ComponentsPass.filled components all).2
  | .boolean _, passes => by
      rcases passes with same | same <;> exact .simple (by simp [known, same])
  | .bitString _, passes => by
      rcases passes with same | ⟨same, _⟩ <;> exact .simple (by simp [known, same])
  | .integer _, passes => by
      rcases passes with same | ⟨same, _⟩ <;> exact .simple (by simp [known, same])
  | .unsigned _, passes => by
      rcases passes with same | ⟨same, _⟩ <;> exact .simple (by simp [known, same])
  | .float _, passes => by
      rcases passes with same | ⟨same, _⟩ <;> exact .simple (by simp [known, same])
  | .octetString _, passes => by
      rcases passes with same | same <;> exact .simple (by simp [known, same])
  | .visibleString _, passes => by
      rcases passes with same | same <;> exact .simple (by simp [known, same])
  | .binaryTime _, passes => by
      rcases passes with same | same <;> exact .simple (by simp [known, same])
  | .utcTime _, passes => by
      rcases passes with same | ⟨same, _⟩ <;> exact .simple (by simp [known, same])
  | .dataAccessError _, passes | .string _, passes | .unsupported _, passes =>
      .simple (by simp [known, show kind = .accessResult from passes])

theorem ComponentsPass.filled {parts : List Element} :
    (components : Components) → ComponentsPass memory parts components →
      parts.length = components.length ∧ ∀ part ∈ parts, part.Filled memory
  | [], passes => by
      obtain rfl : parts = [] := passes
      exact ⟨rfl, by simp⟩
  | component :: rest, passes => by
      obtain ⟨element, others, rfl, first, following⟩ := passes
      obtain ⟨count, all⟩ := ComponentsPass.filled rest following
      exact ⟨by simp [count],
        List.forall_mem_cons.mpr ⟨ComponentPasses.filled component first, all⟩⟩

theorem ComponentPasses.filled {element : Element} :
    (component : Option MmsValue) → ComponentPasses memory element component →
      element.Filled memory
  | none, passes => passes.elim
  | some value, ⟨_, known, passes⟩ => MmsValue.Passes.filled known value passes

end

/-- Octets from which a data set is updated without an error are tiled by an element for each of
its components. -/
theorem tiledBy_of_parseAllData {address length : Nat} {components : Components}
    (updated : (parseAllData memory address length components).value.1 = .noError) :
    TiledBy memory address length
      (parseAllData memory address length components).value.2.length := by
  obtain ⟨parts, scanned, passes⟩ := parseAllData_noError_iff.mp updated
  obtain ⟨count, filled⟩ := ComponentsPass.filled components passes
  exact ⟨parts, fill_of_elements scanned, count.trans length_updateLoop.symm, filled⟩

end Updating

section Building

variable {memory : Memory}

theorem Element.Admitted.filled {element : Element} (admitted : element.Admitted memory) :
    element.Filled memory := by
  induction admitted with
  | components _ scanned _ ih => exact .complex (fill_of_elements scanned) ih
  | bitString kind => exact .simple (by simp [kind])
  | number kind => rcases kind with kind | kind <;> exact .simple (by simp [kind])
  | free kind free =>
      refine .simple fun type complex => ?_
      obtain rfl := Option.some.inj (kind.symm.trans complex)
      simp [freeKinds] at free

/-- Octets from which a data set is built are tiled by an element for each of its components. -/
theorem tiledBy_of_parseAllDataUnknownValue {address length : Nat} {selfAllocated : Bool}
    {components : Components}
    (built : (parseAllDataUnknownValue memory address length selfAllocated).value.1 =
      some components) : TiledBy memory address length components.length := by
  obtain ⟨parts, scanned, admitted⟩ :=
    parseAllDataUnknownValue_isSome_iff.mp (Option.isSome_iff_exists.mpr ⟨components, built⟩)
  refine ⟨parts, fill_of_elements scanned, ?_, fun part member => (admitted part member).filled⟩
  have counted := @countElements_eq memory address length parts length 0 0 (Nat.le_refl _) scanned
    fun part member => (admitted part member).known
  rw [parseAllDataUnknownValue, createLoop, Traced.value_bind, counted, Nat.zero_add] at built
  obtain ⟨values, rfl, bound, _⟩ := @fillElements_filled memory _ _ _ _ _ _ _ [] _ _ _
    (Nat.le_refl _) scanned (Nat.le_refl _) (Prod.ext built rfl)
  simp
  omega

end Building

/-! ## PDUs that are delivered -/

/-- How the elements of a PDU in an APDU lie: they stand one right behind the other from the start
of its content, begin in front of its end and reach it, and like it they end in the APDU. -/
def PduNested (memory : Memory) (buffer : Nat) (apduLength : Int) (parts : List Element) : Prop :=
  memory buffer = 0x61 ∧ ∃ start length finish,
    (decodeLength memory buffer apduLength 1).value = some (start, length) ∧
    (start + length : Int) ≤ apduLength ∧
    Scan.Chained memory buffer (fun bufPos => (decodeLength memory buffer apduLength bufPos).value)
      (start + length) start parts finish ∧
    (finish : Int) ≤ apduLength

/-- The data set of a frame that was delivered is tiled if it was decoded: built, or updated without
an error. -/
def DataSetNested (memory : Memory) (pdu : GoosePdu) (before after : GooseSubscriber) : Prop :=
  ∀ components, after.dataSetValues = some components →
    ((before.keptDataSet pdu.confRev).isSome → after.parseError = .noError) →
    TiledBy memory (pdu.dataSetBufferAddress.getD 0) pdu.dataSetBufferLength components.length

theorem pduNested_of_complete {memory : Memory} {buffer : Nat} {apduLength : Int}
    (complete : (pduElements memory buffer apduLength).complete) :
    PduNested memory buffer apduLength (pduElements memory buffer apduLength).elements := by
  unfold pduElements at complete ⊢
  by_cases tag : memory buffer = 0x61
  · rw [if_pos tag] at complete ⊢
    rcases decoded : (decodeLength memory buffer apduLength 1).value with _ | ⟨start, length⟩
    · simp [decoded] at complete
    · simp only [decoded] at complete ⊢
      have within := (decodeLength_spec decoded).2
      rcases scanned : elements memory buffer apduLength (start + length) start with ⟨parts, ended⟩
      rw [scanned] at complete
      obtain rfl : ended = true := complete
      obtain ⟨finish, chained⟩ := (Scan.run_complete_iff decodeLength_advances).mp scanned
      refine ⟨tag, start, length, finish, decoded, within, chained, ?_⟩
      exact chained.finish_le (fun decoded => (decodeLength_spec decoded).2) (by omega)
  · simp [tag] at complete

theorem dataSetNested_deliver (self : GooseSubscriber) (memory : Memory) (pdu : GoosePdu)
    (now : UInt64) :
    DataSetNested memory pdu self (self.deliver memory pdu now).value := by
  intro components present decoded
  rw [GooseSubscriber.value_deliver] at present decoded
  simp only [GooseSubscriber.decode] at present decoded
  cases kept : self.keptDataSet pdu.confRev with
  | none =>
      simp only [kept] at present
      exact tiledBy_of_parseAllDataUnknownValue present
  | some dataSetValues =>
      simp only [kept, Option.isSome_some, forall_const, Option.some.injEq] at present decoded
      rw [← present]
      exact tiledBy_of_parseAllData decoded

/-- The elements of a PDU that is delivered are nested in the APDU, and those of its data set in
`allData` if it was decoded. Parsing ends. -/
theorem parseGoosePayload_nested (subscribers : List GooseSubscriber) (memory : Memory)
    (buffer : Nat) (apduLength : Int) (now : UInt64) :
    let result := (parseGoosePayload subscribers memory buffer apduLength now).value
    let parts := (pduElements memory buffer apduLength).elements
    (∀ index, result.delivered = some index →
      PduNested memory buffer apduLength parts ∧ ∃ before after,
        subscribers[index]? = some before ∧ result.subscriberList[index]? = some after ∧
        DataSetNested memory (GoosePdu.ofElements memory parts) before after) ∧
    ∀ buffer, ParseSettles memory buffer := by
  refine ⟨fun index delivered => ?_, parseSettles memory⟩
  obtain ⟨reached, state, _⟩ := leads_parseGoosePayload subscribers memory buffer apduLength now
  rw [reached] at delivered
  have read := delivered
  unfold target at read
  dsimp only at read
  split at read
  · rename_i ended
    have complete := (Bool.and_eq_true_iff.mp ended).2
    obtain ⟨before, found⟩ : ∃ before, subscribers[index]? = some before :=
      ⟨_, List.getElem?_eq_getElem (matchAll_lt (by simp) read)⟩
    refine ⟨pduNested_of_complete complete, before, _, found, ?_,
      dataSetNested_deliver (readBy memory (pduElements memory buffer apduLength) subscribers index
        before) memory _ now⟩
    rw [state, found, Option.map_some, if_pos delivered]
  · contradiction

/-- The octets of a PDU with a reference, numbers, and a data set of a boolean and a structure of an
integer and a boolean. -/
def structurePdu : List UInt8 :=
  [0x61, 26, 0x80, 1, 0x41, 0x85, 1, 2, 0x86, 1, 0, 0x88, 1, 1,
    0xab, 12, 0x83, 1, 1, 0xa2, 7, 0x85, 2, 1, 2, 0x83, 1, 0]

theorem parseGoosePayload_nested_of_structure :
    let memory := Memory.ofOctets structurePdu fun _ => 0
    PduNested memory 0 28 (pduElements memory 0 28).elements ∧ TiledBy memory 16 12 2 := by
  intro memory
  let result := (parseGoosePayload [.create ⟨[0x41], zero_notMem_a⟩ none] memory 0 28 0).value
  let pdu := GoosePdu.ofElements memory (pduElements memory 0 28).elements
  obtain ⟨nested, before, after, found, left, tiled⟩ :=
    (parseGoosePayload_nested [.create ⟨[0x41], zero_notMem_a⟩ none] memory 0 28 0).1 0 (by decide)
  obtain rfl := Option.some.inj found
  have content : pdu.dataSetBufferAddress.getD 0 = 16 ∧ pdu.dataSetBufferLength = 12 := by decide
  have built : (result.subscriberList[0]?.bind (·.dataSetValues)).map List.length = some 2 := by
    decide
  obtain ⟨components, present, count⟩ := Option.map_eq_some_iff.mp built
  rw [left] at present
  have tiles := tiled components present fun kept => absurd kept (by decide)
  rw [content.1, content.2, count] at tiles
  exact ⟨nested, tiles⟩

/-- The octets of a PDU with a data set of one boolean that goes on behind the PDU. -/
def openPdu : List UInt8 := [0x61, 7, 0x80, 1, 0x41, 0xab, 2, 0x83, 5]

/-- The PDU is delivered to a subscriber of one boolean, though the data set of two octets cannot be
divided into elements: the update reports that the boolean is missing. -/
theorem parseGoosePayload_delivers_open :
    let memory := Memory.ofOctets openPdu fun _ => 0
    let subscriber := GooseSubscriber.create ⟨[0x41], zero_notMem_a⟩ (some [some (.boolean false)])
    let result := (parseGoosePayload [subscriber] memory 0 9 0).value
    let pdu := GoosePdu.ofElements memory (pduElements memory 0 9).elements
    result.delivered = some 0 ∧
      result.subscriberList.map (fun after => (after.parseError, after.stateValid)) =
        [(.underflow, false)] ∧
      ∀ count,
        ¬ TiledBy memory (pdu.dataSetBufferAddress.getD 0) pdu.dataSetBufferLength count := by
  refine ⟨by decide, by decide, ?_⟩
  rintro count ⟨parts, fill, _⟩
  have scanned := (Scan.run_complete_iff decodeLength_advances).mpr ⟨_, fill⟩
  have ended : (elements (Memory.ofOctets openPdu fun _ => 0) 7 2 2 0).complete = true :=
    congrArg Scan.complete scanned
  exact absurd ended (by decide)

end GridGooseSV
