import GridGooseSV.Goose.Filter
import GridGooseSV.Goose.Events

/-!
# What the decoders read

The decoders of a data set, and the loop over the elements of a PDU, read at most one octet past
what they are given, for an element without content that is read all the same. They neither store
nor delete a data set.
-/

namespace GridGooseSV

open BerDecoder

variable {memory : Memory} {limit : Nat}

theorem allowsReads_of_within {first last : Nat} (within : last ≤ limit) :
    AllowsReads (Access.DecodesBelow limit) first last :=
  fun _ _ upper => Nat.lt_of_lt_of_le upper within

/-! ## Updating a data set -/

/-- Updating a data set reads its octets and at most one after them. -/
theorem decodesBelow_parseAllData {buffer allDataLength : Nat} (dataSetValues : Components)
    (within : buffer + allDataLength < limit) :
    (parseAllData memory buffer allDataLength dataSetValues).Always
      (Access.DecodesBelow limit) := by
  apply always_updateLoop
  case reads => exact allowsReads_of_within within
  case ints => exact fun _ => trivial
  case copies => exact fun _ _ _ => trivial

/-! ## Building a data set -/

/-- Building one value reads its element and at most one octet after it. -/
theorem decodesBelow_createElement {address elementLength : Nat}
    (within : address + elementLength < limit)
    {nested : Nat → Nat → Bool → Traced Access (Option Components × Bool)}
    (reads : ∀ selfAllocated, (nested address elementLength selfAllocated).Always
      (Access.DecodesBelow limit)) (tag : UInt8) (selfAllocated : Bool) :
    (createElement memory nested tag address elementLength selfAllocated).Always
      (Access.DecodesBelow limit) := by
  apply always_createElement (allowsReads_of_within (Nat.le_of_lt within))
  case leading => exact fun _ => show address < limit by omega
  case copies => exact fun _ _ => trivial
  case inner => exact reads

section Building

variable {buffer allDataLength : Nat} (within : buffer + allDataLength < limit)
include within

theorem decodesBelow_countElements (fuel bufPos elementIndex : Nat) :
    (countElements memory buffer allDataLength fuel bufPos elementIndex).Always
      (Access.DecodesBelow limit) := by
  induction fuel generalizing bufPos elementIndex with
  | zero => exact Traced.always_pure _
  | succ fuel ih =>
      unfold countElements
      refine .ite (fun inside => ?_) fun _ => Traced.always_pure _
      refine .bind (Memory.always_read.mpr (show buffer + bufPos < limit by omega)) ?_
      refine .bind (decodesBelow_decodeLength (by omega) _) ?_
      split
      · exact Traced.always_pure _
      · split
        · exact Traced.always_pure _
        · exact ih _ _

theorem decodesBelow_fillElements
    {build : Nat → Nat → Bool → Traced Access (Option Components × Bool)}
    (reads : ∀ address length selfAllocated, address + length < limit →
      (build address length selfAllocated).Always (Access.DecodesBelow limit))
    (fuel bufPos elementIndex : Nat) (dataSetValues : Components) (selfAllocated : Bool) :
    (fillElements memory build buffer allDataLength fuel bufPos elementIndex dataSetValues
      selfAllocated).Always (Access.DecodesBelow limit) := by
  induction fuel generalizing bufPos elementIndex dataSetValues selfAllocated with
  | zero => exact Traced.always_pure _
  | succ fuel ih =>
      unfold fillElements
      refine .ite (fun inside => ?_) fun _ => Traced.always_pure _
      refine .bind (Memory.always_read.mpr (show buffer + bufPos < limit by omega)) ?_
      refine .bind (decodesBelow_decodeLength (by omega) _) ?_
      split
      · exact Traced.always_pure _
      · rename_i start length decoded
        obtain ⟨_, ends⟩ := decodeLength_spec decoded
        have nested : buffer + start + length < limit := by omega
        refine .bind (decodesBelow_createElement nested (fun _ => reads _ _ _ nested) _ _) ?_
        split
        split
        · exact Traced.always_pure _
        · exact ih _ _ _ _
        · exact ih _ _ _ _

end Building

theorem decodesBelow_createLoop (fuel : Nat) {buffer allDataLength : Nat} (selfAllocated : Bool)
    (within : buffer + allDataLength < limit) :
    (createLoop memory fuel buffer allDataLength selfAllocated).Always
      (Access.DecodesBelow limit) := by
  induction fuel generalizing buffer allDataLength selfAllocated with
  | zero => exact Traced.always_pure _
  | succ fuel ih =>
      unfold createLoop
      refine .bind (decodesBelow_countElements within _ _ _) ?_
      split
      · exact Traced.always_pure _
      · exact decodesBelow_fillElements within (fun _ _ _ nested => ih _ nested) _ _ _ _ _

/-! ## The receiver -/

section Elements

variable {address elementLength : Nat} (within : address + elementLength < limit)
include within

/-- Reading an element of the PDU reads its content and at most one octet after it. -/
theorem decodesBelow_element (state : PayloadState) (tag : UInt8) :
    (state.element memory tag address elementLength).Always (Access.DecodesBelow limit) := by
  apply always_element (allowsReads_of_within (Nat.le_of_lt within))
  case leading => exact fun _ => show address < limit by omega
  case copies => exact fun _ _ => trivial

end Elements

theorem decodesBelow_elementLoop {buffer : Nat} {apduLength : Int} {gooseEnd : Nat}
    (within : (buffer : Int) + apduLength < limit) (ends : (gooseEnd : Int) ≤ apduLength)
    (fuel bufPos : Nat) (state : PayloadState) :
    (elementLoop memory buffer apduLength gooseEnd fuel bufPos state).Always
      (Access.DecodesBelow limit) := by
  induction fuel generalizing bufPos state with
  | zero => exact Traced.always_pure _
  | succ fuel ih =>
      unfold elementLoop
      refine .ite (fun inside => ?_) fun _ => Traced.always_pure _
      refine .bind (Memory.always_read.mpr (show buffer + bufPos < limit by omega)) ?_
      refine .bind (decodesBelow_decodeLength (by omega) _) ?_
      split
      · exact Traced.always_pure _
      · rename_i start length decoded
        obtain ⟨_, content⟩ := decodeLength_spec decoded
        have inside : buffer + start + length < limit := by omega
        exact .bind (decodesBelow_element inside _ _)
          (.ite (fun _ => ih _ _) fun _ => Traced.always_pure _)

end GridGooseSV
