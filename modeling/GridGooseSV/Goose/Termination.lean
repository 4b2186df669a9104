import GridGooseSV.Ber.Termination
import GridGooseSV.Goose.Receiver

/-!
# Parsing ends

Every turn of a loop of the parser goes over an element of at least two octets, and an element in
which it recurses is shorter than what holds it. None of the loops is therefore cut off by its
bound.
-/

namespace GridGooseSV

open BerDecoder

variable {memory : Memory} {buffer allDataLength : Nat}

/-! ## Updating a data set -/

theorem updateElement_congr {nested other : Nat → Nat → Components →
      Traced Access (GooseParseError × Components)} {address elementLength : Nat}
    (same : ∀ components, nested address elementLength components =
      other address elementLength components) (tag : UInt8) (value : MmsValue) :
    updateElement memory nested tag address elementLength value =
      updateElement memory other tag address elementLength value := by
  unfold updateElement
  simp only [same]

theorem updateLoop_enough {fuel other bufPos elementIndex : Nat} {dataSetValues : Components}
    (enough : allDataLength - bufPos ≤ fuel) (enoughOther : allDataLength - bufPos ≤ other) :
    updateLoop memory fuel buffer allDataLength bufPos elementIndex dataSetValues =
      updateLoop memory other buffer allDataLength bufPos elementIndex dataSetValues := by
  induction fuel generalizing other buffer allDataLength bufPos elementIndex dataSetValues with
  | zero =>
      cases other with
      | zero => rfl
      | succ other => rw [updateLoop, updateLoop, if_neg (by omega)]
  | succ fuel ih =>
      cases other with
      | zero => rw [updateLoop, updateLoop, if_neg (by omega)]
      | succ other =>
          unfold updateLoop
          by_cases inside : bufPos < allDataLength
          · rw [if_pos inside, if_pos inside]
            refine Traced.bind_congr ?_
            by_cases past : elementIndex ≥ dataSetValues.length
            · rw [if_pos past, if_pos past]
            · rw [if_neg past, if_neg past]
              cases MmsValue.getElement dataSetValues elementIndex with
              | none => rfl
              | some value =>
                  refine Traced.bind_congr ?_
                  rcases decoded :
                    (decodeLength memory buffer allDataLength (bufPos + 1)).value with
                    _ | ⟨start, length⟩
                  · rfl
                  · obtain ⟨later, within⟩ := decodeLength_spec decoded
                    have nested : updateElement memory
                        (fun buffer allDataLength =>
                          updateLoop memory fuel buffer allDataLength 0 0)
                        (memory (buffer + bufPos)) (buffer + start) length value =
                      updateElement memory
                        (fun buffer allDataLength =>
                          updateLoop memory other buffer allDataLength 0 0)
                        (memory (buffer + bufPos)) (buffer + start) length value := by
                      apply updateElement_congr
                      exact fun _ => ih (by omega) (by omega)
                    rw [Memory.value_read]
                    dsimp only
                    rw [nested]
                    refine Traced.bind_congr ?_
                    rcases (updateElement memory (fun buffer allDataLength =>
                      updateLoop memory other buffer allDataLength 0 0) (memory (buffer + bufPos))
                      (buffer + start) length value).value with ⟨error, updated⟩
                    dsimp only
                    split_ifs
                    · rfl
                    · exact ih (by omega) (by omega)
          · rw [if_neg inside, if_neg inside]

/-! ## Building a data set -/

theorem countElements_enough {fuel other bufPos elementIndex : Nat}
    (enough : allDataLength - bufPos ≤ fuel) (enoughOther : allDataLength - bufPos ≤ other) :
    countElements memory buffer allDataLength fuel bufPos elementIndex =
      countElements memory buffer allDataLength other bufPos elementIndex := by
  induction fuel generalizing other bufPos elementIndex with
  | zero =>
      cases other with
      | zero => rfl
      | succ other => rw [countElements, countElements, if_neg (by omega)]
  | succ fuel ih =>
      cases other with
      | zero => rw [countElements, countElements, if_neg (by omega)]
      | succ other =>
          unfold countElements
          by_cases inside : bufPos < allDataLength
          · rw [if_pos inside, if_pos inside]
            refine Traced.bind_congr (Traced.bind_congr ?_)
            rcases decoded : (decodeLength memory buffer allDataLength (bufPos + 1)).value with
              _ | ⟨start, length⟩
            · rfl
            · have later := decodeLength_advances decoded
              rw [Memory.value_read]
              cases DataTag.ofOctet? (memory (buffer + bufPos)) with
              | none => rfl
              | some tag => exact ih (by omega) (by omega)
          · rw [if_neg inside, if_neg inside]

theorem createElement_congr {nested other : Nat → Nat → Bool →
      Traced Access (Option Components × Bool)} {address elementLength : Nat}
    (same : ∀ selfAllocated, nested address elementLength selfAllocated =
      other address elementLength selfAllocated) (tag : UInt8) (selfAllocated : Bool) :
    createElement memory nested tag address elementLength selfAllocated =
      createElement memory other tag address elementLength selfAllocated := by
  unfold createElement
  simp only [same]

theorem fillElements_enough {build otherBuild : Nat → Nat → Bool →
      Traced Access (Option Components × Bool)}
    (same : ∀ address length selfAllocated, length < allDataLength →
      build address length selfAllocated = otherBuild address length selfAllocated)
    {fuel other bufPos elementIndex : Nat} {dataSetValues : Components} {selfAllocated : Bool}
    (enough : allDataLength - bufPos ≤ fuel) (enoughOther : allDataLength - bufPos ≤ other) :
    fillElements memory build buffer allDataLength fuel bufPos elementIndex dataSetValues
        selfAllocated =
      fillElements memory otherBuild buffer allDataLength other bufPos elementIndex dataSetValues
        selfAllocated := by
  induction fuel generalizing other bufPos elementIndex dataSetValues selfAllocated with
  | zero =>
      cases other with
      | zero => rfl
      | succ other => rw [fillElements, fillElements, if_neg (by omega)]
  | succ fuel ih =>
      cases other with
      | zero => rw [fillElements, fillElements, if_neg (by omega)]
      | succ other =>
          unfold fillElements
          by_cases inside : bufPos < allDataLength
          · rw [if_pos inside, if_pos inside]
            refine Traced.bind_congr (Traced.bind_congr ?_)
            rcases decoded : (decodeLength memory buffer allDataLength (bufPos + 1)).value with
              _ | ⟨start, length⟩
            · rfl
            · obtain ⟨later, within⟩ := decodeLength_spec decoded
              have nested : createElement memory build (memory (buffer + bufPos))
                  (buffer + start) length selfAllocated =
                createElement memory otherBuild (memory (buffer + bufPos)) (buffer + start) length
                  selfAllocated :=
                createElement_congr (fun selfAllocated => same _ _ _ (by omega)) _ _
              rw [Memory.value_read]
              dsimp only
              rw [nested]
              refine Traced.bind_congr ?_
              rcases (createElement memory otherBuild (memory (buffer + bufPos)) (buffer + start)
                length selfAllocated).value with ⟨_ | _ | value, after⟩
              · rfl
              · exact ih (by omega) (by omega)
              · exact ih (by omega) (by omega)
          · rw [if_neg inside, if_neg inside]

theorem createLoop_enough {fuel other : Nat} {selfAllocated : Bool}
    (enough : allDataLength < fuel) (enoughOther : allDataLength < other) :
    createLoop memory fuel buffer allDataLength selfAllocated =
      createLoop memory other buffer allDataLength selfAllocated := by
  induction fuel generalizing other buffer allDataLength selfAllocated with
  | zero => omega
  | succ fuel ih =>
      cases other with
      | zero => omega
      | succ other =>
          unfold createLoop
          refine Traced.bind_congr ?_
          cases (countElements memory buffer allDataLength allDataLength 0 0).value with
          | none => rfl
          | some count =>
              exact fillElements_enough (fun _ _ _ shorter => ih (by omega) (by omega))
                (by omega) (by omega)

/-! ## The elements of a PDU -/

theorem elementLoop_enough {apduLength : Int} {gooseEnd fuel other bufPos : Nat}
    {state : PayloadState} (enough : gooseEnd - bufPos ≤ fuel)
    (enoughOther : gooseEnd - bufPos ≤ other) :
    elementLoop memory buffer apduLength gooseEnd fuel bufPos state =
      elementLoop memory buffer apduLength gooseEnd other bufPos state := by
  induction fuel generalizing other bufPos state with
  | zero =>
      cases other with
      | zero => rfl
      | succ other => rw [elementLoop, elementLoop, if_neg (by omega)]
  | succ fuel ih =>
      cases other with
      | zero => rw [elementLoop, elementLoop, if_neg (by omega)]
      | succ other =>
          unfold elementLoop
          by_cases inside : bufPos < gooseEnd
          · rw [if_pos inside, if_pos inside]
            refine Traced.bind_congr (Traced.bind_congr ?_)
            rcases decoded : (decodeLength memory buffer apduLength (bufPos + 1)).value with
              _ | ⟨start, length⟩
            · rfl
            · have later := decodeLength_advances decoded
              refine Traced.bind_congr ?_
              rcases (state.element memory (memory.read (buffer + bufPos)).value (buffer + start)
                length).value with ⟨after, _ | _⟩
              · rfl
              · exact ih (by omega) (by omega)
          · rw [if_neg inside, if_neg inside]

/-- Every loop of the parser is over before its fuel is. -/
structure ParseSettles (memory : Memory) (buffer : Nat) : Prop where
  elements : ∀ apduLength gooseEnd bufPos state,
    Settles (fun fuel => elementLoop memory buffer apduLength gooseEnd fuel bufPos state)
      (gooseEnd - bufPos)
  update : ∀ allDataLength bufPos elementIndex dataSetValues,
    Settles (fun fuel => updateLoop memory fuel buffer allDataLength bufPos elementIndex
      dataSetValues) (allDataLength - bufPos)
  count : ∀ allDataLength bufPos elementIndex,
    Settles (fun fuel => countElements memory buffer allDataLength fuel bufPos elementIndex)
      (allDataLength - bufPos)
  fill : ∀ build allDataLength bufPos elementIndex dataSetValues selfAllocated,
    Settles (fun fuel => fillElements memory build buffer allDataLength fuel bufPos elementIndex
      dataSetValues selfAllocated) (allDataLength - bufPos)
  build : ∀ allDataLength selfAllocated,
    Settles (fun fuel => createLoop memory fuel buffer allDataLength selfAllocated)
      (allDataLength + 1)
  indefinite : ∀ (maxBufPos : Int) maxDepth bufPos length depth,
    Settles (fun fuel => indefiniteLoop memory buffer maxBufPos maxDepth fuel bufPos length depth)
      (maxBufPos - bufPos).toNat

theorem parseSettles (memory : Memory) (buffer : Nat) : ParseSettles memory buffer where
  elements _ _ _ _ _ enough := elementLoop_enough enough (Nat.le_refl _)
  update _ _ _ _ _ enough := updateLoop_enough enough (Nat.le_refl _)
  count _ _ _ _ enough := countElements_enough enough (Nat.le_refl _)
  fill _ _ _ _ _ _ _ enough := fillElements_enough (fun _ _ _ _ => rfl) enough (Nat.le_refl _)
  build _ _ _ enough := createLoop_enough enough (Nat.lt_succ_self _)
  indefinite _ _ _ _ _ := settles_indefiniteLoop _ _ _ _

end GridGooseSV
