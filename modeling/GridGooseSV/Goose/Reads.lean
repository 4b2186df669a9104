import GridGooseSV.Goose.Creation
import GridGooseSV.Goose.Delivery
import Mathlib.Data.List.Induction

/-!
# What the decoders read

Every octet that the GOOSE decoders read, in order, and what it is read for: the tags and lengths
that frame the elements, or the value of one element. The lists are as long as the traces of the
decoders, address for address.
-/

namespace GridGooseSV

open BerDecoder

/-- An octet that is read. -/
inductive OctetRead
  /-- of a tag or a length -/
  | framing (address : Nat)
  /-- to form the value of an element -/
  | value (element : Element) (address : Nat)
  deriving DecidableEq, Repr

namespace OctetRead

def address : OctetRead → Nat
  | framing address | value _ address => address

/-- An octet for a value is one of the content octets of its element. -/
def Own : OctetRead → Prop
  | framing _ => True
  | value element address =>
    element.address ≤ address ∧ address < element.address + element.length

instance : DecidablePred Own := fun read => by
  cases read <;> unfold Own <;> infer_instance

end OctetRead

section Labels

variable {α : Type}

/-- What a computation reads of tags and lengths. -/
def framing (computation : Traced Access α) : List OctetRead :=
  computation.reads.map .framing

/-- What a computation reads to form the value of an element. -/
def forming (element : Element) (computation : Traced Access α) : List OctetRead :=
  computation.reads.map (.value element)

@[simp] theorem address_framing (computation : Traced Access α) :
    (framing computation).map OctetRead.address = computation.reads := by
  rw [framing, List.map_map]
  exact List.map_id _

@[simp] theorem address_forming (element : Element) (computation : Traced Access α) :
    (forming element computation).map OctetRead.address = computation.reads := by
  rw [forming, List.map_map]
  exact List.map_id _

end Labels

/-! ## Updating a data set -/

/-- What `parseAllData` reads for an element that is decoded into a value; for components, what
`nested` reads. -/
def updateElementReads (memory : Memory)
    (nested : (buffer allDataLength : Nat) → Components → List OctetRead) (element : Element)
    (value : MmsValue) : List OctetRead :=
  match element.kind, value with
  | some (.complex expected), .complex type components =>
    if type = expected then nested element.address element.length components else []
  | _, _ =>
    forming element (updateElement memory (fun _ _ components => pure (.noError, components))
      element.tag element.address element.length value)

/-- What the loop of `parseAllData` reads. -/
def updateReads (memory : Memory) : (fuel buffer allDataLength bufPos elementIndex : Nat) →
    Components → List OctetRead
  | 0, _, _, _, _, _ => []
  | fuel + 1, buffer, allDataLength, bufPos, elementIndex, dataSetValues =>
    if bufPos < allDataLength then
      .framing (buffer + bufPos) ::
        if elementIndex ≥ dataSetValues.length then []
        else
          match MmsValue.getElement dataSetValues elementIndex with
          | none => []
          | some value =>
            let decoded := decodeLength memory buffer allDataLength (bufPos + 1)
            framing decoded ++
              match decoded.value with
              | none => []
              | some (start, elementLength) =>
                let element : Element := ⟨memory (buffer + bufPos), buffer + start, elementLength⟩
                let after := (updateElement memory
                  (fun buffer allDataLength => updateLoop memory fuel buffer allDataLength 0 0)
                  element.tag element.address element.length value).value
                updateElementReads memory
                    (fun buffer allDataLength => updateReads memory fuel buffer allDataLength 0 0)
                    element value ++
                  if after.1 ≠ .noError then []
                  else updateReads memory fuel buffer allDataLength (start + elementLength)
                    (elementIndex + 1) (dataSetValues.set elementIndex (some after.2))
    else []

/-- What `parseAllData` reads. -/
def parseAllDataReads (memory : Memory) (buffer allDataLength : Nat)
    (dataSetValues : Components) : List OctetRead :=
  updateReads memory allDataLength buffer allDataLength 0 0 dataSetValues

section Updating

variable {memory : Memory}

/-- Only an array or a structure depends on how components are updated. -/
theorem updateElement_simple {element : Element} {value : MmsValue}
    (simple : ∀ expected type components, element.kind = some (.complex expected) →
      value = .complex type components → False)
    (nested other : Nat → Nat → Components → Traced Access (GooseParseError × Components)) :
    updateElement memory nested element.tag element.address element.length value =
      updateElement memory other element.tag element.address element.length value := by
  unfold updateElement
  unfold Element.kind at simple
  cases kind : DataTag.ofOctet? element.tag with
  | none => rfl
  | some tag =>
      cases tag with
      | complex expected =>
          cases value with
          | complex type components => exact (simple expected type components kind rfl).elim
          | _ => rfl
      | _ => rfl

theorem reads_updateElement {element : Element}
    {nested : Nat → Nat → Components → Traced Access (GooseParseError × Components)}
    {nestedReads : Nat → Nat → Components → List OctetRead}
    (same : ∀ components, (nested element.address element.length components).reads =
      (nestedReads element.address element.length components).map OctetRead.address)
    (value : MmsValue) :
    (updateElement memory nested element.tag element.address element.length value).reads =
      (updateElementReads memory nestedReads element value).map OctetRead.address := by
  unfold updateElementReads
  split
  · rename_i expected type components kind
    unfold Element.kind at kind
    simp only [updateElement, kind]
    split_ifs
    · rw [Traced.reads_bind, same]
      simp
    · rfl
  · rename_i simple
    rw [address_forming, updateElement_simple simple]

theorem reads_updateLoop {fuel buffer allDataLength bufPos elementIndex : Nat}
    {dataSetValues : Components} :
    (updateLoop memory fuel buffer allDataLength bufPos elementIndex dataSetValues).reads =
      (updateReads memory fuel buffer allDataLength bufPos elementIndex dataSetValues).map
        OctetRead.address := by
  induction fuel generalizing buffer allDataLength bufPos elementIndex dataSetValues with
  | zero => rfl
  | succ fuel ih =>
      unfold updateLoop updateReads
      by_cases inside : bufPos < allDataLength
      · rw [if_pos inside, if_pos inside, Traced.reads_bind, Traced.reads_read, List.map_cons,
          List.singleton_append]
        refine congrArg ((buffer + bufPos) :: ·) ?_
        by_cases past : elementIndex ≥ dataSetValues.length
        · rw [if_pos past, if_pos past]
          rfl
        · rw [if_neg past, if_neg past]
          cases MmsValue.getElement dataSetValues elementIndex with
          | none => rfl
          | some value =>
              rw [Traced.reads_bind, List.map_append, address_framing]
              refine congrArg (_ ++ ·) ?_
              rcases (decodeLength memory buffer allDataLength (bufPos + 1)).value with
                _ | ⟨start, length⟩
              · rfl
              · rw [Traced.reads_bind, List.map_append]
                refine congrArg₂ (· ++ ·) ?_ ?_
                · exact @reads_updateElement memory
                    ⟨memory (buffer + bufPos), buffer + start, length⟩
                    (fun buffer allDataLength => updateLoop memory fuel buffer allDataLength 0 0)
                    (fun buffer allDataLength => updateReads memory fuel buffer allDataLength 0 0)
                    (fun _ => ih) value
                · dsimp only [Memory.value_read]
                  split_ifs with failed
                  · rfl
                  · exact ih
      · rw [if_neg inside, if_neg inside]
        rfl

/-- `parseAllData` reads exactly these octets. -/
theorem reads_parseAllData (memory : Memory) (buffer allDataLength : Nat)
    (dataSetValues : Components) :
    (parseAllData memory buffer allDataLength dataSetValues).reads =
      (parseAllDataReads memory buffer allDataLength dataSetValues).map OctetRead.address :=
  reads_updateLoop

end Updating

/-! ## Building a data set -/

/-- What `parseAllDataUnknownValue` reads for an element that it builds a value from; for
components, what `nested` reads. -/
def createElementReads (memory : Memory)
    (nested : (buffer allDataLength : Nat) → (selfAllocated : Bool) → List OctetRead)
    (element : Element) (selfAllocated : Bool) : List OctetRead :=
  match element.kind with
  | some (.complex _) => nested element.address element.length selfAllocated
  | _ => forming element (createElement memory
      (fun _ _ selfAllocated => pure (none, selfAllocated))
      element.tag element.address element.length selfAllocated)

/-- What the second loop of `parseAllDataUnknownValue` reads. -/
def fillReads (memory : Memory)
    (build : (buffer allDataLength : Nat) → (selfAllocated : Bool) →
      Traced Access (Option Components × Bool))
    (nested : (buffer allDataLength : Nat) → (selfAllocated : Bool) → List OctetRead)
    (buffer allDataLength : Nat) : (fuel bufPos : Nat) → Bool → List OctetRead
  | 0, _, _ => []
  | fuel + 1, bufPos, selfAllocated =>
    if bufPos < allDataLength then
      let decoded := decodeLength memory buffer allDataLength (bufPos + 1)
      .framing (buffer + bufPos) :: (framing decoded ++
        match decoded.value with
        | none => []
        | some (start, elementLength) =>
          let element : Element := ⟨memory (buffer + bufPos), buffer + start, elementLength⟩
          let after := (createElement memory build element.tag element.address element.length
            selfAllocated).value
          createElementReads memory nested element selfAllocated ++
            match after.1 with
            | .error => []
            | .skipped | .value _ =>
              fillReads memory build nested buffer allDataLength fuel (start + elementLength)
                after.2)
    else []

/-- What `parseAllDataUnknownValue` reads, to a bounded nesting depth. -/
def createReads (memory : Memory) : (fuel buffer allDataLength : Nat) → (selfAllocated : Bool) →
    List OctetRead
  | 0, _, _, _ => []
  | fuel + 1, buffer, allDataLength, selfAllocated =>
    let counted := countElements memory buffer allDataLength allDataLength 0 0
    framing counted ++
      if counted.value.isSome then
        fillReads memory (createLoop memory fuel) (createReads memory fuel) buffer allDataLength
          allDataLength 0 selfAllocated
      else []

/-- What `parseAllDataUnknownValue` reads. -/
def parseAllDataUnknownValueReads (memory : Memory) (buffer allDataLength : Nat)
    (selfAllocated : Bool) : List OctetRead :=
  createReads memory (allDataLength + 1) buffer allDataLength selfAllocated

section Building

variable {memory : Memory}

/-- Only an array or a structure depends on how components are built. -/
theorem createElement_simple {element : Element}
    (simple : ∀ type, element.kind ≠ some (.complex type))
    (nested other : Nat → Nat → Bool → Traced Access (Option Components × Bool))
    (selfAllocated : Bool) :
    createElement memory nested element.tag element.address element.length selfAllocated =
      createElement memory other element.tag element.address element.length selfAllocated := by
  unfold createElement
  unfold Element.kind at simple
  cases kind : DataTag.ofOctet? element.tag with
  | none => rfl
  | some tag =>
      cases tag with
      | complex type => exact absurd kind (simple type)
      | _ => rfl

theorem reads_createElement {element : Element}
    {nested : Nat → Nat → Bool → Traced Access (Option Components × Bool)}
    {nestedReads : Nat → Nat → Bool → List OctetRead} {selfAllocated : Bool}
    (same : (nested element.address element.length selfAllocated).reads =
      (nestedReads element.address element.length selfAllocated).map OctetRead.address) :
    (createElement memory nested element.tag element.address element.length
        selfAllocated).reads =
      (createElementReads memory nestedReads element selfAllocated).map OctetRead.address := by
  unfold createElementReads
  split
  · rename_i type kind
    unfold Element.kind at kind
    simp only [createElement, kind]
    rw [Traced.reads_bind, same]
    rcases (nested element.address element.length selfAllocated).value with ⟨_ | _, _⟩ <;>
      exact List.append_nil _
  · rename_i simple
    rw [address_forming, createElement_simple simple]

theorem reads_fillElements
    {build : Nat → Nat → Bool → Traced Access (Option Components × Bool)}
    {nested : Nat → Nat → Bool → List OctetRead} {buffer allDataLength : Nat}
    (same : ∀ address length selfAllocated, (build address length selfAllocated).reads =
      (nested address length selfAllocated).map OctetRead.address)
    {fuel bufPos elementIndex : Nat} {dataSetValues : Components} {selfAllocated : Bool} :
    (fillElements memory build buffer allDataLength fuel bufPos elementIndex dataSetValues
        selfAllocated).reads =
      (fillReads memory build nested buffer allDataLength fuel bufPos selfAllocated).map
        OctetRead.address := by
  induction fuel generalizing bufPos elementIndex dataSetValues selfAllocated with
  | zero => rfl
  | succ fuel ih =>
      unfold fillElements fillReads
      by_cases inside : bufPos < allDataLength
      · rw [if_pos inside, if_pos inside, Traced.reads_bind, Traced.reads_read, List.map_cons,
          List.singleton_append]
        refine congrArg ((buffer + bufPos) :: ·) ?_
        rw [Traced.reads_bind, List.map_append, address_framing]
        refine congrArg (_ ++ ·) ?_
        rcases (decodeLength memory buffer allDataLength (bufPos + 1)).value with
          _ | ⟨start, length⟩
        · rfl
        · rw [Traced.reads_bind, List.map_append]
          refine congrArg₂ (· ++ ·) ?_ ?_
          · exact @reads_createElement memory
              ⟨memory (buffer + bufPos), buffer + start, length⟩ build nested _ (same _ _ _)
          · rw [Memory.value_read]
            rcases (createElement memory build (memory (buffer + bufPos)) (buffer + start) length
              selfAllocated).value with ⟨_ | _ | _, _⟩
            · rfl
            · exact ih
            · exact ih
      · rw [if_neg inside, if_neg inside]
        rfl

theorem reads_createLoop {fuel buffer allDataLength : Nat} {selfAllocated : Bool} :
    (createLoop memory fuel buffer allDataLength selfAllocated).reads =
      (createReads memory fuel buffer allDataLength selfAllocated).map OctetRead.address := by
  induction fuel generalizing buffer allDataLength selfAllocated with
  | zero => rfl
  | succ fuel ih =>
      unfold createLoop createReads
      rw [Traced.reads_bind, List.map_append, address_framing]
      refine congrArg (_ ++ ·) ?_
      cases (countElements memory buffer allDataLength allDataLength 0 0).value with
      | none => rfl
      | some count => exact reads_fillElements (fun _ _ _ => ih)

/-- `parseAllDataUnknownValue` reads exactly these octets. -/
theorem reads_parseAllDataUnknownValue (memory : Memory) (buffer allDataLength : Nat)
    (selfAllocated : Bool) :
    (parseAllDataUnknownValue memory buffer allDataLength selfAllocated).reads =
      (parseAllDataUnknownValueReads memory buffer allDataLength selfAllocated).map
        OctetRead.address :=
  reads_createLoop

end Building

/-! ## Parsing a PDU -/

/-- What the loop over the elements of a PDU reads. -/
def elementLoopReads (memory : Memory) (buffer : Nat) (apduLength : Int) (gooseEnd : Nat) :
    (fuel bufPos : Nat) → PayloadState → List OctetRead
  | 0, _, _ => []
  | fuel + 1, bufPos, state =>
    if bufPos < gooseEnd then
      let decoded := decodeLength memory buffer apduLength (bufPos + 1)
      .framing (buffer + bufPos) :: (framing decoded ++
        match decoded.value with
        | none => []
        | some (start, elementLength) =>
          let element : Element := ⟨memory (buffer + bufPos), buffer + start, elementLength⟩
          let taken := state.element memory element.tag element.address element.length
          forming element taken ++
            if taken.value.2 then
              elementLoopReads memory buffer apduLength gooseEnd fuel (start + elementLength)
                taken.value.1
            else [])
    else []

/-- The element that the timestamp of a frame is read from. -/
def timestampElement (elements : List Element) : Option Element :=
  elements.findRev? fun element => element.pduTag = some .t

namespace GooseSubscriber

/-- What is read for the data set of a frame that is delivered. -/
def dataSetReads (self : GooseSubscriber) (memory : Memory) (pdu : GoosePdu) : List OctetRead :=
  let address := pdu.dataSetBufferAddress.getD 0
  match self.keptDataSet pdu.confRev with
  | none => parseAllDataUnknownValueReads memory address pdu.dataSetBufferLength
      self.dataSetValuesSelfAllocated
  | some dataSetValues => parseAllDataReads memory address pdu.dataSetBufferLength dataSetValues

/-- What is read when a frame with the given elements is delivered. -/
def deliverReads (self : GooseSubscriber) (memory : Memory) (elements : List Element) :
    List OctetRead :=
  (match timestampElement elements with
    | some element => forming element (memory.readOctets element.address 8)
    | none => []) ++
  self.dataSetReads memory (GoosePdu.ofElements memory elements)

end GooseSubscriber

/-- What `parseGoosePayload` reads. -/
def parseGoosePayloadReads (subscriberList : List GooseSubscriber) (memory : Memory)
    (buffer : Nat) (apduLength : Int) : List OctetRead :=
  .framing buffer ::
    if memory buffer = 0x61 then
      let decoded := decodeLength memory buffer apduLength 1
      framing decoded ++
        match decoded.value with
        | none => []
        | some (bufPos, gooseLength) =>
          let scan := elements memory buffer apduLength (bufPos + gooseLength) bufPos
          elementLoopReads memory buffer apduLength (bufPos + gooseLength) gooseLength bufPos
              { subscriberList := subscriberList } ++
            match target memory scan subscriberList with
            | none => []
            | some index =>
              match subscriberList[index]? with
              | none => []
              | some subscriber => subscriber.deliverReads memory scan.elements
    else []

section Parsing

variable {memory : Memory}

theorem reads_elementLoop {buffer : Nat} {apduLength : Int} {gooseEnd fuel bufPos : Nat}
    {state : PayloadState} :
    (elementLoop memory buffer apduLength gooseEnd fuel bufPos state).reads =
      (elementLoopReads memory buffer apduLength gooseEnd fuel bufPos state).map
        OctetRead.address := by
  induction fuel generalizing bufPos state with
  | zero => rfl
  | succ fuel ih =>
      unfold elementLoop elementLoopReads
      by_cases inside : bufPos < gooseEnd
      · rw [if_pos inside, if_pos inside, Traced.reads_bind, Traced.reads_read, List.map_cons,
          List.singleton_append]
        refine congrArg ((buffer + bufPos) :: ·) ?_
        rw [Traced.reads_bind, List.map_append, address_framing]
        refine congrArg (_ ++ ·) ?_
        rcases (decodeLength memory buffer apduLength (bufPos + 1)).value with
          _ | ⟨start, length⟩
        · rfl
        · rw [Traced.reads_bind, List.map_append, address_forming, Memory.value_read]
          refine congrArg (_ ++ ·) ?_
          rcases (state.element memory (memory (buffer + bufPos)) (buffer + start)
            length).value with ⟨after, _ | _⟩
          · rfl
          · exact ih
      · rw [if_neg inside, if_neg inside]
        rfl

/-- The timestamp of a frame is where its last timestamp element is. -/
theorem timestampBufPos_ofElements (memory : Memory) (elements : List Element) :
    (GoosePdu.ofElements memory elements).timestampBufPos =
      (timestampElement elements).map (·.address) := by
  induction elements using List.reverseRecOn with
  | nil => rfl
  | append_singleton first last ih =>
      rw [GoosePdu.ofElements, List.foldl_append, List.foldl_cons, List.foldl_nil,
        ← GoosePdu.ofElements]
      unfold timestampElement at ih ⊢
      rw [List.findRev?_eq_find?_reverse] at ih ⊢
      rw [List.reverse_append, List.reverse_singleton, List.singleton_append, List.find?_cons]
      cases kind : last.pduTag with
      | none => simpa [GoosePdu.after, kind] using ih
      | some tag => cases tag <;> simp [GoosePdu.after, kind, ih]

namespace GooseSubscriber

@[simp] theorem reads_dropDataSet (self : GooseSubscriber) (confRev : UInt32) :
    (self.dropDataSet confRev).reads = [] := by
  unfold dropDataSet
  split <;> rfl

@[simp] theorem reads_dropObserved (self : GooseSubscriber) : self.dropObserved.reads = [] := by
  unfold dropObserved
  split <;> rfl

theorem reads_takeTimestamp (self : GooseSubscriber) (elements : List Element) :
    (self.takeTimestamp memory (GoosePdu.ofElements memory elements).timestampBufPos).reads =
      (match timestampElement elements with
        | some element => forming element (memory.readOctets element.address 8)
        | none => []).map OctetRead.address := by
  rw [timestampBufPos_ofElements]
  cases timestampElement elements with
  | none => rfl
  | some element =>
      dsimp only [Option.map_some, takeTimestamp]
      rw [address_forming, Traced.reads_bind, Traced.reads_pure, List.append_nil]

theorem reads_takeDataSet (self : GooseSubscriber) (address : Option Nat) (length : Nat) :
    (self.takeDataSet memory address length).reads =
      (match self.dataSetValues with
        | none => parseAllDataUnknownValueReads memory (address.getD 0) length
            self.dataSetValuesSelfAllocated
        | some dataSetValues =>
          parseAllDataReads memory (address.getD 0) length dataSetValues).map
        OctetRead.address := by
  unfold takeDataSet
  cases self.dataSetValues with
  | none =>
      simp only [Traced.reads_bind, reads_parseAllDataUnknownValue, Traced.reads_pure,
        List.append_nil]
      cases (parseAllDataUnknownValue memory (address.getD 0) length
        self.dataSetValuesSelfAllocated).value.1 <;> exact List.append_nil _
  | some dataSetValues =>
      simp only [Traced.reads_bind, reads_parseAllData, Traced.reads_pure, List.append_nil]

/-- Delivery reads the timestamp and the data set. -/
theorem reads_deliver (self : GooseSubscriber) (elements : List Element) (now : UInt64) :
    (self.deliver memory (GoosePdu.ofElements memory elements) now).reads =
      (self.deliverReads memory elements).map OctetRead.address := by
  unfold deliver deliverReads
  simp only [Traced.reads_bind, reads_dropDataSet, reads_takeTimestamp, reads_dropObserved,
    reads_takeDataSet, Traced.reads_pure, List.nil_append, List.append_nil, List.map_append]
  refine congrArg (_ ++ ·) ?_
  simp only [value_dropDataSet, value_takeTimestamp, value_dropObserved, ← keptDataSet_eq]
  rfl

/-- Strings that are taken over do not change what is read. -/
theorem deliverReads_withStrings (self : GooseSubscriber)
    (goCBRef datSet goId : Option StringField) (elements : List Element) :
    (self.withStrings goCBRef datSet goId).deliverReads memory elements =
      self.deliverReads memory elements := rfl

end GooseSubscriber

/-- `parseGoosePayload` reads exactly these octets. -/
theorem reads_parseGoosePayload (subscribers : List GooseSubscriber) (memory : Memory)
    (buffer : Nat) (apduLength : Int) (now : UInt64) :
    (parseGoosePayload subscribers memory buffer apduLength now).reads =
      (parseGoosePayloadReads subscribers memory buffer apduLength).map OctetRead.address := by
  unfold parseGoosePayload parseGoosePayloadReads
  rw [Traced.reads_bind, Traced.reads_read, List.map_cons, List.singleton_append, Memory.value_read]
  refine congrArg (buffer :: ·) ?_
  by_cases tag : memory buffer = 0x61
  · rw [if_pos tag, if_pos tag, Traced.reads_bind, List.map_append, address_framing]
    refine congrArg (_ ++ ·) ?_
    rcases (decodeLength memory buffer apduLength 1).value with _ | ⟨start, length⟩
    · rfl
    · rw [Traced.reads_bind, List.map_append, reads_elementLoop]
      refine congrArg (_ ++ ·) ?_
      obtain ⟨goesOn, matching, pdu, strings⟩ := @value_elementLoop memory buffer apduLength
        (start + length) length start (by omega) { subscriberList := subscribers }
      rcases loop : (elementLoop memory buffer apduLength (start + length) length start
        { subscriberList := subscribers }).value with ⟨state, complete⟩
      simp only [loop] at goesOn matching pdu strings ⊢
      generalize elements memory buffer apduLength (start + length) start = scan
        at goesOn matching pdu strings ⊢
      unfold target
      by_cases ended : complete = true
      · obtain ⟨read, _⟩ := Bool.and_eq_true_iff.mp (goesOn.symm.trans ended)
        rw [if_pos ended, if_pos (goesOn.symm.trans ended), ← matching, PayloadState.finish]
        cases found : state.matchingSubscriber with
        | none => rfl
        | some index =>
            simp only [strings, pdu read]
            cases subscribers[index]? with
            | none => rfl
            | some subscriber =>
                rw [Option.map_some, Traced.reads_bind, Traced.reads_pure, List.append_nil,
                  ← GoosePdu.ofElements, GooseSubscriber.reads_deliver,
                  GooseSubscriber.deliverReads_withStrings]
      · rw [if_neg ended, if_neg (fun read => ended (goesOn.trans read))]
        rfl
  · rw [if_neg tag, if_neg tag]
    rfl

end Parsing

end GridGooseSV
