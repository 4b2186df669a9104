import GridGooseSV.Ber.Length

/-!
# What the length decoder reads

The length decoder reads only octets of the buffer, whatever it finds there, and what it
decodes depends on no others.
-/

namespace GridGooseSV.BerDecoder

variable {memory other : Memory} {buffer start limit : Nat} {maxBufPos : Int}

/-! ## Bounds -/

/-- The long form does not run over the limit. -/
theorem longLength_within {lenLength bufPos length : Nat} {result : Nat × Nat}
    (inside : (bufPos : Int) ≤ maxBufPos)
    (decoded : (longLength memory buffer maxBufPos lenLength bufPos length).value = some result) :
    (result.1 : Int) ≤ maxBufPos := by
  induction lenLength generalizing bufPos length with
  | zero =>
      simp only [longLength, Traced.value_pure, Option.some.injEq] at decoded
      rwa [← decoded]
  | succ lenLength ih =>
      rw [value_longLength_succ] at decoded
      split at decoded
      · contradiction
      · split at decoded
        · contradiction
        · exact ih (by omega) decoded

theorem lengthOctets_within {indefinite : Nat → Traced Access (Option Nat)} {bufPos : Nat}
    {result : Nat × Nat} (inside : (bufPos : Int) < maxBufPos)
    (decoded : (lengthOctets memory buffer maxBufPos indefinite bufPos).value = some result) :
    (result.1 : Int) ≤ maxBufPos := by
  rw [value_lengthOctets] at decoded
  simp only at decoded
  split at decoded
  · split at decoded
    · obtain ⟨_, _, rfl⟩ := Option.map_eq_some_iff.mp decoded
      simp only
      omega
    · exact longLength_within (by omega) decoded
  · simp only [Option.some.injEq] at decoded
    rw [← decoded]
    simp only
    omega

section Events

-- A length is within the limit before its last octet is shifted in.
variable {predicate : Access → Prop}
  (ints : ∀ value : Nat, (value : Int) ≤ 257 * maxBufPos + 255 → predicate (.int value))
  (reads : ∀ position : Nat, (position : Int) < maxBufPos → predicate (.read (buffer + position)))

include ints in
theorem always_value {value : Nat} (small : (value : Int) ≤ 257 * maxBufPos + 255) :
    (int value).Always predicate :=
  always_int.mpr (ints _ small)

include reads in
theorem always_octet {position : Nat} (inside : (position : Int) < maxBufPos) :
    (memory.read (buffer + position)).Always predicate :=
  Memory.always_read.mpr (reads position inside)

include ints reads

theorem always_longLength (lenLength : Nat) {bufPos length : Nat}
    (inside : (bufPos : Int) ≤ maxBufPos) (small : (length : Int) ≤ 256 * maxBufPos + 255) :
    (longLength memory buffer maxBufPos lenLength bufPos length).Always predicate := by
  induction lenLength generalizing bufPos length with
  | zero => exact Traced.always_pure _
  | succ lenLength ih =>
      have octet := (memory (buffer + bufPos)).toNat_lt
      unfold longLength
      refine .ite (fun _ => Traced.always_pure _) fun inside => ?_
      refine .bind (always_value ints (by omega)) (.ite (fun _ => Traced.always_pure _) ?_)
      intro reached
      simp only [value_int] at reached
      refine .bind (always_value ints (by omega)) (.bind (always_octet reads (by omega)) ?_)
      simp only [value_int, Memory.value_read]
      exact .bind (always_value ints (by omega)) (.bind (always_value ints (by omega))
        (ih (by simp only [value_int]; omega) (by simp only [value_int]; omega)))

theorem always_decodeLengthRecursive {indefinite : Nat → Traced Access (Option Nat)}
    (inner : ∀ start : Nat, (start : Int) ≤ maxBufPos → (indefinite start).Always predicate)
    (bufPos : Nat) :
    (decodeLengthRecursive memory buffer maxBufPos indefinite bufPos).Always predicate := by
  unfold decodeLengthRecursive
  refine .ite (fun _ => Traced.always_pure _) fun inside => .bind ?_ ?_
  · unfold lengthOctets
    refine .bind (always_octet reads (by omega))
      (.bind (always_value ints (by omega)) (.ite (fun _ => ?_) fun _ => Traced.always_pure _))
    simp only [value_int]
    exact .ite (fun _ => .bind (inner _ (by omega)) (Traced.always_pure _))
      fun _ => always_longLength ints reads _ (by omega) (by omega)
  · split
    · exact Traced.always_pure _
    · rename_i decoded
      have within := lengthOctets_within (by omega) decoded
      simp only at within
      refine .ite (fun _ => Traced.always_pure _) fun fits => ?_
      exact .bind (always_value ints (by omega))
        (.ite (fun _ => Traced.always_pure _) fun _ => Traced.always_pure _)

theorem always_endOfContents {bufPos : Nat} (inside : (bufPos : Int) < maxBufPos) :
    (endOfContents memory buffer maxBufPos bufPos).Always predicate := by
  unfold endOfContents
  refine .bind (always_octet reads inside)
    (.ite (fun _ => ?_) fun _ => Traced.always_pure _)
  refine .bind (always_value ints (by omega)) (.ite (fun next => ?_) fun _ => Traced.always_pure _)
  exact .bind (always_octet reads next) (Traced.always_pure _)

/-- The length is never more than the position, since both grow alike. -/
theorem always_indefiniteLoop (maxDepth fuel : Nat) {bufPos length : Nat} (depth : Nat)
    (behind : length ≤ bufPos) :
    (indefiniteLoop memory buffer maxBufPos maxDepth fuel bufPos length depth).Always
      predicate := by
  induction fuel generalizing bufPos length depth with
  | zero => exact Traced.always_pure _
  | succ fuel ih =>
      unfold indefiniteLoop
      refine .ite (fun inside => ?_) fun _ => Traced.always_pure _
      refine .bind (always_endOfContents ints reads inside)
        (.ite (fun _ => ?_) fun _ => ?_)
      · exact .bind (always_value ints (by omega)) (Traced.always_pure _)
      · have extended : (if (memory.read (buffer + bufPos)).value &&& 0x1f = 0x1f then 1 else 0) ≤
            1 := by
          split <;> omega
        refine .bind (always_value ints (by omega)) (.bind (always_octet reads inside)
          (.bind (always_value ints (by omega)) ?_))
        generalize (if (memory.read (buffer + bufPos)).value &&& 0x1f = 0x1f then 1 else 0) =
          extended at *
        refine .bind (always_value ints (by simp only [value_int]; omega))
          (.bind (always_value ints (by simp only [value_int]; omega)) ?_)
        simp only [value_int]
        -- A nested element of indefinite length is measured by the same loop.
        refine .bind (always_decodeLengthRecursive ints reads (fun start _ => ?_) _) ?_
        · exact .ite (fun _ => Traced.always_pure _) fun _ => ih _ (Nat.zero_le _)
        · split
          · exact Traced.always_pure _
          · rename_i decoded
            obtain ⟨_, within, octets⟩ := decodeLengthRecursive_eq_some.mp decoded
            have later := lengthOctets_advances octets
            refine .bind (always_value ints (by omega)) (.bind (always_value ints (by omega)) ?_)
            exact ih _ (by simp only [value_int]; omega)

/-- Decoding a length reads octets of the buffer and computes within bounds. -/
theorem always_decodeLength (bufPos : Nat) :
    (decodeLength memory buffer maxBufPos bufPos).Always predicate := by
  refine always_decodeLengthRecursive ints reads (fun start _ => ?_) bufPos
  unfold getIndefiniteLength
  exact .ite (fun _ => Traced.always_pure _)
    fun _ => always_indefiniteLoop ints reads _ _ _ (Nat.zero_le _)

end Events

/-- Decoding a length reads only below the limit and computes. -/
theorem decodesBelow_decodeLength (within : (buffer : Int) + maxBufPos ≤ limit) (bufPos : Nat) :
    (decodeLength memory buffer maxBufPos bufPos).Always (Access.DecodesBelow limit) := by
  apply always_decodeLength
  · intro value _
    trivial
  · intro position below
    rw [Access.DecodesBelow]
    omega

theorem decodesBelow_readOctets {address count : Nat} (within : address + count ≤ limit) :
    (memory.readOctets address count).Always (Access.DecodesBelow limit) := by
  rw [Memory.always_readOctets]
  intro position _ below
  exact Nat.lt_of_lt_of_le below within

theorem readsBelow_readOctets {address count : Nat} (within : address + count ≤ limit) :
    (memory.readOctets address count).Always (Access.ReadsBelow limit) :=
  (decodesBelow_readOctets within).mono fun _ => Access.DecodesBelow.readsBelow

/-! ## Locality -/

section Locality

variable {bottom : Nat} (agree : ∀ index : Nat, bottom ≤ index → (index : Int) < maxBufPos →
  memory (buffer + index) = other (start + index))
include agree

theorem longLength_congr (lenLength : Nat) {bufPos : Nat} (above : bottom ≤ bufPos)
    (length : Nat) :
    (longLength memory buffer maxBufPos lenLength bufPos length).value =
      (longLength other start maxBufPos lenLength bufPos length).value := by
  induction lenLength generalizing bufPos length with
  | zero => rfl
  | succ lenLength ih =>
      rw [value_longLength_succ, value_longLength_succ]
      by_cases inside : (bufPos : Int) ≥ maxBufPos
      · rw [if_pos inside, if_pos inside]
      · rw [if_neg inside, if_neg inside, agree bufPos above (by omega),
          ih (Nat.le_succ_of_le above)]

theorem decodeLengthRecursive_congr {first second : Nat → Traced Access (Option Nat)}
    (inner : ∀ position, bottom ≤ position → (first position).value = (second position).value)
    {bufPos : Nat} (above : bottom ≤ bufPos) :
    (decodeLengthRecursive memory buffer maxBufPos first bufPos).value =
      (decodeLengthRecursive other start maxBufPos second bufPos).value := by
  simp only [decodeLengthRecursive, Traced.value_ite, Traced.value_bind]
  by_cases inside : (bufPos : Int) ≥ maxBufPos
  · rw [if_pos inside, if_pos inside]
  · have octets : (lengthOctets memory buffer maxBufPos first bufPos).value =
        (lengthOctets other start maxBufPos second bufPos).value := by
      rw [value_lengthOctets, value_lengthOctets, agree bufPos above (by omega),
        inner _ (Nat.le_succ_of_le above)]
      simp only [longLength_congr agree _ (Nat.le_succ_of_le above)]
    rw [if_neg inside, if_neg inside, octets]

theorem endOfContents_congr {bufPos : Nat} (above : bottom ≤ bufPos)
    (inside : (bufPos : Int) < maxBufPos) :
    (endOfContents memory buffer maxBufPos bufPos).value =
      (endOfContents other start maxBufPos bufPos).value := by
  simp only [endOfContents, ↓Memory.value_bind_read, ↓value_bind_int, Traced.value_ite,
    Traced.value_pure, agree bufPos above inside]
  by_cases next : ((bufPos + 1 : Nat) : Int) < maxBufPos
  · rw [agree (bufPos + 1) (Nat.le_succ_of_le above) next]
  · rw [if_neg next, if_neg next]

theorem indefiniteLoop_congr (maxDepth fuel : Nat) {bufPos : Nat} (above : bottom ≤ bufPos)
    (length depth : Nat) :
    (indefiniteLoop memory buffer maxBufPos maxDepth fuel bufPos length depth).value =
      (indefiniteLoop other start maxBufPos maxDepth fuel bufPos length depth).value := by
  induction fuel generalizing bufPos length depth with
  | zero => rfl
  | succ fuel ih =>
      by_cases inside : (bufPos : Int) < maxBufPos
      · simp only [indefiniteLoop, if_pos inside, Traced.value_bind, ↓value_bind_int,
          ↓Memory.value_bind_read, Traced.value_ite, endOfContents_congr agree above inside,
          agree bufPos above inside]
        generalize (if other (start + bufPos) &&& 0x1f = 0x1f then 1 else 0) = extended
        have element := @decodeLengthRecursive_congr memory other buffer start maxBufPos bottom
          agree
          (fun start => if depth + 1 > maxDepth then pure none
            else indefiniteLoop memory buffer maxBufPos maxDepth fuel start 0 (depth + 1))
          (fun position => if depth + 1 > maxDepth then pure none
            else indefiniteLoop other start maxBufPos maxDepth fuel position 0 (depth + 1))
          (fun position above => by simp only [Traced.value_ite, ih above])
          (bufPos + 1 + extended) (by omega)
        rw [element]
        cases decoded : (decodeLengthRecursive other start maxBufPos
          (fun position => if depth + 1 > maxDepth then pure none
            else indefiniteLoop other start maxBufPos maxDepth fuel position 0 (depth + 1))
          (bufPos + 1 + extended)).value with
        | none => rfl
        | some result =>
            obtain ⟨_, _, octets⟩ := decodeLengthRecursive_eq_some.mp decoded
            have later := lengthOctets_advances octets
            simp only [Traced.value_bind, value_int]
            rw [ih (by omega)]
      · rw [indefiniteLoop, indefiniteLoop, if_neg inside, if_neg inside]

/-- What is decoded depends on the octets of the buffer only. -/
theorem decodeLength_congr {bufPos : Nat} (above : bottom ≤ bufPos) :
    (decodeLength memory buffer maxBufPos bufPos).value =
      (decodeLength other start maxBufPos bufPos).value := by
  refine decodeLengthRecursive_congr agree (fun position above => ?_) above
  unfold getIndefiniteLength
  simp only [Traced.value_ite, indefiniteLoop_congr agree _ _ above]

end Locality

/-- What is scanned depends on the octets of the string only. -/
theorem elements_moved {distance bottom stop : Nat}
    (agree : ∀ index, bottom ≤ index → index < stop →
      memory (distance + start + index) = other (start + index))
    {position : Nat} (above : bottom ≤ position) :
    elements memory (distance + start) stop stop position =
      (elements other start stop stop position).moved distance := by
  induction left : stop - position using Nat.strong_induction_on generalizing position with
  | _ left ih =>
      have decodes : (decodeLength memory (distance + start) stop (position + 1)).value =
          (decodeLength other start stop (position + 1)).value := by
        apply @decodeLength_congr _ _ _ _ _ bottom _ _ (Nat.le_succ_of_le above)
        intro index above below
        exact agree index above (by omega)
      by_cases inside : position < stop
      · cases decoded : (decodeLength other start stop (position + 1)).value with
        | none =>
            rw [elements_malformed inside (decodes.trans decoded),
              elements_malformed inside decoded]
            rfl
        | some result =>
            obtain ⟨next, length⟩ := result
            have later := decodeLength_advances decoded
            rw [elements_next inside (decodes.trans decoded), elements_next inside decoded,
              ih _ (by omega) (by omega) rfl, agree position above inside, Nat.add_assoc]
            rfl
      · rw [elements_end (by omega), elements_end (by omega)]
        rfl

/-- Memories that agree on a string have the same elements there. -/
theorem elements_congr {bottom stop : Nat}
    (agree : ∀ index, bottom ≤ index → index < stop →
      memory (start + index) = other (start + index))
    {position : Nat} (above : bottom ≤ position) :
    elements memory start stop stop position = elements other start stop stop position := by
  have same := @elements_moved memory other start 0 bottom stop
    (fun index above below => by rw [Nat.zero_add]; exact agree index above below) position above
  rwa [Nat.zero_add, Scan.moved_zero] at same

end GridGooseSV.BerDecoder
